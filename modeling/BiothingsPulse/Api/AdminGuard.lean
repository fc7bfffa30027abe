import BiothingsPulse.Api.ReadOnly

/-!
# The admin decision

The guard is there to accept exactly the requests that present the configured token,
and to answer the others as disabled or unauthorized. The comparison it relies on is
defined on ASCII strings only, and neither the header nor the setting is restricted to them.
-/

namespace BiothingsPulse

/-- Admin operations are enabled: a nonempty token is configured. -/
def Settings.AdminEnabled (settings : Settings) : Prop :=
  ∃ token, settings.adminToken = some token ∧ token ≠ ""

/-- The outcome decides a request: it is accepted when it presents the configured token,
and otherwise answered as disabled or as unauthorized. -/
structure DecidesAdmin (settings : Settings) (request : Request)
    (outcome : Except RouteExc Unit) : Prop where
  accepts : outcome = .ok () ↔ request.Presents settings
  disabled : ¬ settings.AdminEnabled →
    ∃ detail headers, outcome = .error (.http 403 detail headers)
  unauthorized : settings.AdminEnabled → ¬ request.Presents settings →
    ∃ detail headers, outcome = .error (.http 401 detail headers)

def isAscii (text : String) : Bool := text.toList.all fun c => c.toNat < 128

/-- Both sides of the comparison are ASCII, whenever it comes to one. -/
def Request.Comparable (request : Request) (settings : Settings) : Prop :=
  ∀ token presented, settings.adminToken = some token → token ≠ "" →
    request.presentedToken = some presented → presented ≠ "" →
    isAscii presented = true ∧ isAscii token = true

private theorem compareDigest_ascii {first second : String}
    (ascii : isAscii first = true ∧ isAscii second = true) :
    compareDigest first second = .ok (decide (first = second)) := if_pos ascii

private theorem compareDigest_not_ascii {first second : String}
    (foreign : ¬ (isAscii first = true ∧ isAscii second = true)) :
    ∃ exc, compareDigest first second = .error exc := ⟨_, if_neg foreign⟩

section Guard

variable {settings : Settings} {request : Request} {token : String}

/-- Without a configured token nothing is compared. -/
theorem verifyAdmin_disabled (disabled : ¬ settings.AdminEnabled) (request : Request) :
    ∃ detail headers, verifyAdmin settings request = .error (.http 403 detail headers) := by
  unfold verifyAdmin
  cases configured : settings.adminToken with
  | none => exact ⟨_, _, rfl⟩
  | some token =>
      have blank : token = "" := by
        by_contra nonempty
        exact disabled ⟨token, configured, nonempty⟩
      exact ⟨_, _, if_pos blank⟩

section Enabled

variable (configured : settings.adminToken = some token) (nonempty : token ≠ "")

include configured nonempty

/-- A request that presents nothing is unauthorized. -/
theorem verifyAdmin_unpresented
    (unpresented : ∀ presented, request.presentedToken = some presented → presented = "") :
    verifyAdmin settings request = .error missingToken := by
  unfold verifyAdmin
  simp only [configured, nonempty, ↓reduceIte]
  cases given : request.presentedToken with
  | none => rfl
  | some presented => exact if_pos (unpresented presented given)

section Presented

variable {presented : String} (given : request.presentedToken = some presented)
  (filled : presented ≠ "")

include given filled

/-- A presented token is compared with the configured one. -/
theorem verifyAdmin_of_compared {equal : Bool}
    (compared : compareDigest presented token = .ok equal) :
    verifyAdmin settings request = if equal then .ok () else .error missingToken := by
  cases equal <;> simp [verifyAdmin, configured, nonempty, given, filled, compared]

/-- What the comparison raises is passed on. -/
theorem verifyAdmin_of_raised {exc : PyExc}
    (raised : compareDigest presented token = .error exc) :
    verifyAdmin settings request = .error (.unhandled exc) := by
  simp [verifyAdmin, configured, nonempty, given, filled, raised]

end Presented

/-- With a configured token, to present it is to present that very string. -/
theorem presents_iff : request.Presents settings ↔ request.presentedToken = some token := by
  constructor
  · rintro ⟨stored, found, _, presented⟩
    rw [configured] at found
    cases found
    exact presented
  · intro presented
    exact ⟨token, configured, nonempty, presented⟩

end Enabled

/-- An error is no acceptance. -/
private theorem accepts_of_refused {outcome : Except RouteExc Unit} {exc : RouteExc}
    (refused : outcome = .error exc) (absent : ¬ request.Presents settings) :
    outcome = .ok () ↔ request.Presents settings := by
  subst refused
  constructor
  · intro accepted
    cases accepted
  · intro presented
    exact absurd presented absent

private theorem decidesAdmin_of_disabled (disabled : ¬ settings.AdminEnabled) :
    DecidesAdmin settings request (verifyAdmin settings request) := by
  obtain ⟨detail, headers, refused⟩ := verifyAdmin_disabled disabled request
  have absent : ¬ request.Presents settings := by
    rintro ⟨token, configured, nonempty, _⟩
    exact disabled ⟨token, configured, nonempty⟩
  exact {
    accepts := accepts_of_refused refused absent
    disabled := fun _ => ⟨detail, headers, refused⟩
    unauthorized := fun enabled => absurd enabled disabled }

private theorem decidesAdmin_of_unauthorized (enabled : settings.AdminEnabled)
    (absent : ¬ request.Presents settings)
    (refused : verifyAdmin settings request = .error missingToken) :
    DecidesAdmin settings request (verifyAdmin settings request) where
  accepts := accepts_of_refused refused absent
  disabled := fun disabled => absurd enabled disabled
  unauthorized := fun _ _ => ⟨_, _, refused⟩

private theorem decidesAdmin_of_accepted (enabled : settings.AdminEnabled)
    (presented : request.Presents settings) (accepted : verifyAdmin settings request = .ok ()) :
    DecidesAdmin settings request (verifyAdmin settings request) where
  accepts := ⟨fun _ => presented, fun _ => accepted⟩
  disabled := fun disabled => absurd enabled disabled
  unauthorized := fun _ absent => absurd presented absent

/-- A comparable request is decided. -/
theorem decidesAdmin_of_comparable (comparable : request.Comparable settings) :
    DecidesAdmin settings request (verifyAdmin settings request) := by
  by_cases enabled : settings.AdminEnabled
  · have ⟨token, configured, nonempty⟩ := enabled
    have presents : request.Presents settings ↔ request.presentedToken = some token :=
      presents_iff configured nonempty
    by_cases unpresented :
        ∀ presented, request.presentedToken = some presented → presented = ""
    · have absent : ¬ request.Presents settings := fun presented =>
        nonempty (unpresented token (presents.mp presented))
      exact decidesAdmin_of_unauthorized enabled absent
        (verifyAdmin_unpresented configured nonempty unpresented)
    · push Not at unpresented
      obtain ⟨presented, given, filled⟩ := unpresented
      have compared := verifyAdmin_of_compared configured nonempty given filled
        (compareDigest_ascii (comparable token presented configured nonempty given filled))
      by_cases equal : presented = token
      · rw [decide_eq_true equal, if_pos rfl] at compared
        exact decidesAdmin_of_accepted enabled (presents.mpr (equal ▸ given)) compared
      · rw [decide_eq_false equal, if_neg Bool.false_ne_true] at compared
        refine decidesAdmin_of_unauthorized enabled ?_ compared
        intro accepted
        exact equal (Option.some.inj (given.symm.trans (presents.mp accepted)))
  · exact decidesAdmin_of_disabled enabled

/-- A request that is not comparable ends in an exception that no handler expects. -/
theorem verifyAdmin_unhandled (incomparable : ¬ request.Comparable settings) :
    settings.AdminEnabled ∧ ∃ exc, verifyAdmin settings request = .error (.unhandled exc) := by
  unfold Request.Comparable at incomparable
  push Not at incomparable
  obtain ⟨token, presented, configured, nonempty, given, filled, foreign⟩ := incomparable
  obtain ⟨exc, raised⟩ :=
    compareDigest_not_ascii (fun ascii => foreign ascii.1 ascii.2)
  exact ⟨⟨token, configured, nonempty⟩, exc,
    verifyAdmin_of_raised configured nonempty given filled raised⟩

/-- A configured token that is not ASCII locks everybody out. -/
theorem verifyAdmin_locked_out (configured : settings.adminToken = some token)
    (foreign : isAscii token = false) (request : Request) :
    verifyAdmin settings request ≠ .ok () := by
  intro accepted
  obtain ⟨stored, found, nonempty, presented⟩ := presents_of_verifyAdmin accepted
  rw [configured] at found
  cases found
  have unequal : ¬ (isAscii token = true ∧ isAscii token = true) := by
    rw [foreign]
    exact fun ascii => Bool.false_ne_true ascii.1
  obtain ⟨exc, raised⟩ := compareDigest_not_ascii unequal
  rw [verifyAdmin_of_raised configured nonempty presented nonempty raised] at accepted
  cases accepted

/-- What was to be an authorization failure is a server error. -/
theorem guarded_incomparable {codec : StateCodec} {service : PulseService codec}
    (incomparable : ¬ request.Comparable service.settings)
    (operation : PulseService codec → Except RouteExc Body × PulseService codec) :
    (App.guarded request operation service).1.statusCode = 500 ∧
      (App.guarded request operation service).2 = service := by
  obtain ⟨_, exc, raised⟩ := verifyAdmin_unhandled incomparable
  unfold App.guarded
  rw [raised]
  exact ⟨rfl, rfl⟩

/-- Only a comparable request is decided. -/
theorem comparable_of_decidesAdmin
    (decides : DecidesAdmin settings request (verifyAdmin settings request)) :
    request.Comparable settings := by
  by_contra incomparable
  obtain ⟨enabled, exc, raised⟩ := verifyAdmin_unhandled incomparable
  by_cases presented : request.Presents settings
  · rw [decides.accepts.mpr presented] at raised
    cases raised
  · obtain ⟨detail, headers, refused⟩ := decides.unauthorized enabled presented
    rw [refused] at raised
    cases raised

end Guard

/-- **The admin decision.** The guard decides a request if and only if there is nothing
to compare, or what it compares is ASCII on both sides. -/
theorem verifyAdmin_decides_iff (settings : Settings) (request : Request) :
    DecidesAdmin settings request (verifyAdmin settings request) ↔
      request.Comparable settings :=
  ⟨comparable_of_decidesAdmin, decidesAdmin_of_comparable⟩

/-- A sync with a token that is not ASCII. -/
private def accented : Request :=
  ⟨"POST", ["admin", "sync"], [], [("authorization", "Bearer é")]⟩

/-- An accented token answers with a server error, and neither admits nor refuses. -/
theorem verifyAdmin_accented : ¬ DecidesAdmin {} accented (verifyAdmin {} accented) := by
  intro decides
  have incomparable : ¬ accented.Comparable {} := by
    intro comparable
    have ascii := comparable "changeme" "é" rfl (by decide) (by decide) (by decide)
    exact absurd ascii.1 (by decide)
  exact incomparable (comparable_of_decidesAdmin decides)

end BiothingsPulse
