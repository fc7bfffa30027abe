import BiothingsPulse.Checker.Runner

/-!
# How a check is classified

A status is to say what the executed steps of release detection did: that one of them
failed, that there is nothing to detect, or what was found. The steps that a run
executes are observed here next to the run itself (`Findings`); the fallback
`set_release` is the one whose exceptions the run does not pass on.
-/

namespace BiothingsPulse

variable {σ : Type}

/-- The steps of release detection. -/
inductive Step where
  | createTodumpList
  | setRelease
  /-- Reading and stringifying the release and the queue. -/
  | reading
  deriving DecidableEq, Repr

/-- What the executed steps raised and obtained: a step ended detection before the results
were read, or it ended in reading them, or they were read. In the later cases the fallback
may have raised before. -/
inductive Findings where
  | stopped (step : Step) (exc : PyExc)
  | unread (fallback : Option PyExc) (released : Bool) (urls : List String) (exc : PyExc)
  | read (fallback : Option PyExc) (detection : Detection)

namespace Findings

/-- Everything the executed steps raised. -/
def raised : Findings → List (Step × PyExc)
  | .stopped step exc => [(step, exc)]
  | .unread fallback _ _ exc => fallback.toList.map (Step.setRelease, ·) ++ [(.reading, exc)]
  | .read fallback _ => fallback.toList.map (Step.setRelease, ·)

/-- The exception that ended detection. -/
def ending : Findings → Option PyExc
  | .stopped _ exc | .unread _ _ _ exc => some exc
  | .read _ _ => none

/-- Whether the release that was read is one. -/
def released : Findings → Bool
  | .stopped _ _ => false
  | .unread _ released _ _ => released
  | .read _ detection => detection.latestVersion.isSome

/-- The stringified release. -/
def latestVersion : Findings → Option String
  | .read _ detection => detection.latestVersion
  | _ => none

/-- The stringified remotes that were obtained, in queue order. -/
def downloadUrls : Findings → List String
  | .stopped _ _ => []
  | .unread _ _ urls _ => urls
  | .read _ detection => detection.downloadUrls

/-- Whether an exception is a failure: an `Exception` other than `NotImplementedError`. -/
def isFailure (exc : PyExc) : Bool := exc.isException && exc.kind ≠ .notImplemented

variable (findings : Findings)

/-- Some executed step failed. -/
def Failed : Prop := ∃ raised ∈ findings.raised, isFailure raised.2 = true

/-- There is nothing to detect: `create_todump_list` is not implemented, or neither a
release nor a remote URL was obtained. -/
def Undetectable : Prop :=
  (∃ exc, (Step.createTodumpList, exc) ∈ findings.raised ∧ exc.kind = .notImplemented) ∨
    findings.released = false ∧ findings.downloadUrls = []

/-- The result classifies the findings, and carries the schedule. -/
structure Classifies (schedule : Option PyValue) (result : CheckResult) : Prop where
  error : result.status = .error ↔ findings.Failed
  unsupported : ¬ findings.Failed → findings.Undetectable → result.status = .unsupported
  ok : ¬ findings.Failed → ¬ findings.Undetectable → result.status = .ok ∧
    result.latestVersion = findings.latestVersion ∧ result.downloadUrls = findings.downloadUrls
  schedule : result.schedule = schedule

/-- What detection returns on these findings. -/
def result : Except PyExc Detection :=
  match findings with
  | .stopped _ exc | .unread _ _ _ exc => .error exc
  | .read _ detection => .ok detection

/-- What the handlers make of it. -/
def outcome (schedule : Option PyValue) : Except PyExc CheckResult :=
  match findings.result with
  | .error exc => Dumper.handle schedule exc
  | .ok detection => .ok (detection.result schedule)

end Findings

namespace Dumper

variable (dumper : Dumper σ)

/-- The remotes stringified before one raises, and what it raises. -/
def observeRemotes : List (Except PyExc (Option (Option PyValue))) →
    List String × Option PyExc
  | [] => ([], none)
  | .error exc :: _ => ([], some exc)
  | .ok none :: rest => observeRemotes rest
  | .ok (some remote) :: rest =>
      match PyValue.toStr remote with
      | .error exc => ([], some exc)
      | .ok url => (url :: (observeRemotes rest).1, (observeRemotes rest).2)

/-- The findings of a run that comes to reading its results. -/
def observeRead (fallback : Option PyExc) (state : σ) : Findings :=
  match dumper.release state with
  | .error exc => .unread fallback false [] exc
  | .ok latest =>
      match dumper.toDump state with
      | .error exc => .unread fallback latest.isSome [] exc
      | .ok entries =>
          match observeRemotes entries with
          | (urls, some exc) => .unread fallback latest.isSome urls exc
          | (urls, none) =>
              match latest with
              | none => .read fallback ⟨none, urls⟩
              | some value =>
                  match PyValue.toStr (some value) with
                  | .error exc => .unread fallback true urls exc
                  | .ok text => .read fallback ⟨some text, urls⟩

/-- The guarded part of the fallback. -/
def fallback (setRelease : σ → Except PyExc (Option PyValue) × σ) (state : σ) :
    Except PyExc Unit × σ :=
  let (returned, state) := setRelease state
  match returned with
  | .error exc => (.error exc, state)
  | .ok value =>
      match dumper.release state with
      | .error exc => (.error exc, state)
      | .ok (some _) => (.ok (), state)
      | .ok none =>
          match PyValue.truthy value with
          | .error exc => (.error exc, state)
          | .ok true => (.ok (), dumper.assignRelease value state)
          | .ok false => (.ok (), state)

/-- The findings of a run, and the state in which it leaves the dumper. -/
def observe : Findings × σ :=
  match dumper.createTodumpList dumper.state with
  | (.error exc, state) => (.stopped .createTodumpList exc, state)
  | (.ok _, state) =>
      match dumper.release state with
      | .error exc => (.stopped .reading exc, state)
      | .ok (some _) => (dumper.observeRead none state, state)
      | .ok none =>
          match dumper.setRelease with
          | none => (dumper.observeRead none state, state)
          | some setRelease =>
              match dumper.fallback setRelease state with
              | (.ok _, state) => (dumper.observeRead none state, state)
              | (.error exc, state) =>
                  if exc.isException then (dumper.observeRead (some exc) state, state)
                  else (.stopped .setRelease exc, state)

private theorem remotes_eq_observeRemotes
    (entries : List (Except PyExc (Option (Option PyValue)))) :
    remotes entries = match observeRemotes entries with
      | (_, some exc) => .error exc
      | (urls, none) => .ok urls := by
  induction entries with
  | nil => rfl
  | cons entry rest ih =>
      cases entry with
      | error exc => rfl
      | ok supplied =>
          cases supplied with
          | none => exact ih
          | some remote =>
              rw [remotes, observeRemotes, ih]
              cases PyValue.toStr remote with
              | error exc => rfl
              | ok url => rcases observeRemotes rest with ⟨urls, _ | exc⟩ <;> rfl

private theorem read_eq_observeRead (fallback : Option PyExc) (state : σ) :
    dumper.read state = (dumper.observeRead fallback state).result := by
  unfold read observeRead
  cases dumper.release state with
  | error exc => rfl
  | ok latest =>
      cases dumper.toDump state with
      | error exc => rfl
      | ok entries =>
          change (remotes entries).bind _ = _
          rw [remotes_eq_observeRemotes]
          dsimp only
          rcases observeRemotes entries with ⟨urls, _ | exc⟩
          · cases latest with
            | none => rfl
            | some value =>
                change (PyValue.toStr (some value)).bind _ = _
                dsimp only
                cases PyValue.toStr (some value) <;> rfl
          · rfl

private theorem ensureRelease_of_fallback {state : σ}
    {setRelease : σ → Except PyExc (Option PyValue) × σ}
    (missing : dumper.release state = .ok none) (callable : dumper.setRelease = some setRelease) :
    dumper.ensureRelease state =
      match dumper.fallback setRelease state with
      | (.ok _, state) => (.ok (), state)
      | (.error exc, state) =>
          if exc.isException then (.ok (), state) else (.error exc, state) := by
  unfold ensureRelease
  simp only [missing, callable]
  rfl

/-- Detection returns what its findings say, and ends in the state observed. -/
theorem detect_eq_observe : dumper.detect = (dumper.observe.1.result, dumper.observe.2) := by
  unfold detect observe
  rcases dumper.createTodumpList dumper.state with ⟨_ | _, state⟩
  · rfl
  · dsimp only
    cases missing : dumper.release state with
    | error exc =>
        simp only [ensureRelease, missing]
        rfl
    | ok release =>
        cases release with
        | some value =>
            simp only [ensureRelease, missing]
            rw [dumper.read_eq_observeRead none state]
        | none =>
            cases callable : dumper.setRelease with
            | none =>
                simp only [ensureRelease, missing, callable]
                rw [dumper.read_eq_observeRead none state]
            | some setRelease =>
                rw [ensureRelease_of_fallback dumper missing callable]
                dsimp only
                rcases dumper.fallback setRelease state with ⟨exc | _, state⟩
                · dsimp only
                  by_cases caught : exc.isException = true
                  · simp only [caught, ↓reduceIte]
                    rw [dumper.read_eq_observeRead (some exc) state]
                  · simp only [caught, Bool.false_eq_true, ↓reduceIte]
                    rfl
                · dsimp only
                  rw [dumper.read_eq_observeRead none state]

/-- A check whose schedule can be tested hands the outcome of its findings to the cleanup. -/
theorem runDumperCheck_eq_observe {schedule : Option PyValue}
    (declared : PyValue.orNone dumper.schedule = .ok schedule) :
    runDumperCheck dumper =
      dumper.closeWith (dumper.observe.1.outcome schedule) dumper.observe.2 := by
  unfold runDumperCheck
  rw [declared, detect_eq_observe]
  dsimp only
  unfold Findings.outcome
  cases dumper.observe.1.result <;> rfl

end Dumper

namespace Dumper

/-- An exception is a failure, a missing implementation, or none that handlers catch. -/
theorem exception_cases (exc : PyExc) :
    Findings.isFailure exc = true ∨ exc.kind = .notImplemented ∨ exc.isException = false := by
  unfold Findings.isFailure PyExc.isException
  cases exc.kind <;> simp

private theorem handle_failure {exc : PyExc} (failure : Findings.isFailure exc = true)
    (schedule : Option PyValue) :
    handle schedule exc =
      .ok { status := .error, error := some exc.describe, schedule := schedule } := by
  rw [Findings.isFailure, Bool.and_eq_true, decide_eq_true_eq] at failure
  rw [handle, if_neg failure.2, if_pos failure.1]

private theorem handle_notImplemented {exc : PyExc} (missing : exc.kind = .notImplemented)
    (schedule : Option PyValue) :
    handle schedule exc =
      .ok {
        status := .unsupported
        error := some "dumper does not implement release detection (manual/derived source)"
        schedule := schedule } := if_pos missing

private theorem handle_escaping {exc : PyExc} (escaping : exc.isException = false)
    (schedule : Option PyValue) : handle schedule exc = .error exc := by
  have implemented : exc.kind ≠ .notImplemented := by
    intro missing
    rw [PyExc.isException, missing] at escaping
    cases escaping
  rw [handle, if_neg implemented, escaping, if_neg Bool.false_ne_true]

end Dumper

namespace Findings

variable {findings : Findings} {schedule : Option PyValue} {result : CheckResult} {exc : PyExc}

private theorem not_isFailure_of_notImplemented (missing : exc.kind = .notImplemented) :
    isFailure exc = false := by
  simp [isFailure, missing]

/-- **The findings that are classified.** Detection is not ended by what is no `Exception`;
the fallback does not fail, unless a later step does; and `NotImplementedError` is not
raised in reading the results after something was obtained. -/
structure Regular (findings : Findings) : Prop where
  contained : ∀ exc, findings.ending = some exc → exc.isException = true
  fallback : ∀ exc, (Step.setRelease, exc) ∈ findings.raised → isFailure exc = true →
    ∃ later, findings.ending = some later ∧ isFailure later = true
  reading : ∀ exc, (Step.reading, exc) ∈ findings.raised → exc.kind = .notImplemented →
    findings.released = false ∧ findings.downloadUrls = []

private theorem outcome_of_ending (ended : findings.ending = some exc) :
    findings.outcome schedule = Dumper.handle schedule exc := by
  cases findings with
  | stopped step raised => obtain rfl := Option.some.inj ended; rfl
  | unread fallback released urls raised => obtain rfl := Option.some.inj ended; rfl
  | read fallback detection => cases ended

/-- What ends detection was raised by a step. -/
theorem ending_mem_raised (ended : findings.ending = some exc) :
    ∃ step, (step, exc) ∈ findings.raised := by
  cases findings with
  | stopped step raised =>
      obtain rfl := Option.some.inj ended
      exact ⟨step, List.mem_singleton.mpr rfl⟩
  | unread fallback released urls raised =>
      obtain rfl := Option.some.inj ended
      exact ⟨.reading, List.mem_append_right _ (List.mem_singleton.mpr rfl)⟩
  | read fallback detection => cases ended

/-- Every step but the fallback ends detection when it raises. -/
theorem ending_of_mem_raised {step : Step} (raised : (step, exc) ∈ findings.raised)
    (unguarded : step ≠ .setRelease) : findings.ending = some exc := by
  have guarded {fallback : Option PyExc}
      (member : (step, exc) ∈ fallback.toList.map (Step.setRelease, ·)) : False := by
    obtain ⟨_, _, same⟩ := List.mem_map.mp member
    exact unguarded (Prod.mk.inj same).1.symm
  cases findings with
  | stopped other ended =>
      rw [(Prod.mk.inj (List.mem_singleton.mp raised)).2]
      rfl
  | unread fallback released urls ended =>
      obtain early | last := List.mem_append.mp raised
      · exact (guarded early).elim
      · rw [(Prod.mk.inj (List.mem_singleton.mp last)).2]
        rfl
  | read fallback detection => exact (guarded raised).elim

/-- If `create_todump_list` raised, nothing was obtained. -/
theorem nothing_of_createTodumpList
    (raised : (Step.createTodumpList, exc) ∈ findings.raised) :
    findings.released = false ∧ findings.downloadUrls = [] := by
  cases findings with
  | stopped step ended => exact ⟨rfl, rfl⟩
  | unread fallback released urls ended =>
      obtain early | last := List.mem_append.mp raised
      · obtain ⟨_, _, same⟩ := List.mem_map.mp early
        cases same
      · cases List.mem_singleton.mp last
  | read fallback detection =>
      obtain ⟨_, _, same⟩ := List.mem_map.mp raised
      cases same

/-- So there is nothing to detect exactly when nothing was obtained. -/
theorem undetectable_iff :
    findings.Undetectable ↔ findings.released = false ∧ findings.downloadUrls = [] := by
  constructor
  · rintro (⟨_, raised, _⟩ | nothing)
    · exact nothing_of_createTodumpList raised
    · exact nothing
  · exact .inr

/-- The status is `error` exactly when a failure ended detection. -/
theorem outcome_error_iff (returned : findings.outcome schedule = .ok result) :
    result.status = .error ↔
      ∃ exc, findings.ending = some exc ∧ isFailure exc = true := by
  cases ended : findings.ending with
  | some exc =>
      rw [outcome_of_ending ended] at returned
      obtain failure | missing | escaping := Dumper.exception_cases exc
      · rw [Dumper.handle_failure failure] at returned
        cases returned
        exact ⟨fun _ => ⟨exc, rfl, failure⟩, fun _ => rfl⟩
      · rw [Dumper.handle_notImplemented missing] at returned
        cases returned
        constructor
        · intro status
          cases status
        · rintro ⟨later, found, failure⟩
          obtain rfl := Option.some.inj found
          rw [not_isFailure_of_notImplemented missing] at failure
          cases failure
      · rw [Dumper.handle_escaping escaping] at returned
        cases returned
  | none =>
      constructor
      · intro status
        cases findings with
        | stopped step raised => cases ended
        | unread fallback released urls raised => cases ended
        | read fallback detection =>
            obtain rfl := Except.ok.inj returned
            unfold Detection.result at status
            split at status <;> cases status
      · rintro ⟨_, found, _⟩
        cases found

/-- Classified findings are regular. -/
theorem Classifies.regular (classifies : findings.Classifies schedule result)
    (returned : findings.outcome schedule = .ok result) : findings.Regular where
  contained := by
    intro exc ended
    by_contra escaping
    rw [outcome_of_ending ended, Dumper.handle_escaping (Bool.eq_false_iff.mpr escaping)]
      at returned
    cases returned
  fallback := by
    intro exc raised failure
    have status := classifies.error.mpr ⟨_, raised, failure⟩
    exact (outcome_error_iff returned).mp status
  reading := by
    intro exc raised missing
    by_contra obtained
    rw [← undetectable_iff] at obtained
    have ended := ending_of_mem_raised raised (by decide)
    have unfailed : ¬ findings.Failed := by
      rw [← classifies.error, outcome_error_iff returned]
      rintro ⟨later, found, failure⟩
      obtain rfl := Option.some.inj (ended.symm.trans found)
      rw [not_isFailure_of_notImplemented missing] at failure
      cases failure
    have status := (classifies.ok unfailed obtained).1
    rw [outcome_of_ending ended, Dumper.handle_notImplemented missing] at returned
    cases returned
    cases status

/-- In regular findings, a failure of any step ended detection or followed the fallback's. -/
theorem Regular.failed_iff (regular : findings.Regular) :
    findings.Failed ↔ ∃ exc, findings.ending = some exc ∧ isFailure exc = true := by
  constructor
  · rintro ⟨⟨step, exc⟩, raised, failure⟩
    by_cases guarded : step = .setRelease
    · subst guarded
      exact regular.fallback exc raised failure
    · exact ⟨exc, ending_of_mem_raised raised guarded, failure⟩
  · rintro ⟨exc, ended, failure⟩
    obtain ⟨step, raised⟩ := ending_mem_raised ended
    exact ⟨(step, exc), raised, failure⟩

/-- In regular findings, a missing implementation leaves nothing obtained. -/
theorem Regular.nothing_of_notImplemented (regular : findings.Regular)
    (ended : findings.ending = some exc) (missing : exc.kind = .notImplemented) :
    findings.released = false ∧ findings.downloadUrls = [] := by
  cases findings with
  | stopped step raised => exact ⟨rfl, rfl⟩
  | unread fallback released urls raised =>
      obtain rfl := Option.some.inj ended
      exact regular.reading raised (List.mem_append_right _ (List.mem_singleton.mpr rfl)) missing
  | read fallback detection => cases ended

/-- Regular findings are classified by the result that is returned for them. -/
theorem Regular.classifies (regular : findings.Regular) (schedule : Option PyValue) :
    ∃ result, findings.outcome schedule = .ok result ∧ findings.Classifies schedule result := by
  cases ended : findings.ending with
  | some exc =>
      obtain failure | missing | escaping := Dumper.exception_cases exc
      · have failed : findings.Failed := regular.failed_iff.mpr ⟨exc, ended, failure⟩
        refine ⟨_, (outcome_of_ending ended).trans (Dumper.handle_failure failure schedule), ?_⟩
        exact {
          error := ⟨fun _ => failed, fun _ => rfl⟩
          unsupported := fun unfailed => absurd failed unfailed
          ok := fun unfailed => absurd failed unfailed
          schedule := rfl }
      · have returned := (outcome_of_ending ended).trans
          (Dumper.handle_notImplemented missing schedule)
        have undetectable := undetectable_iff.mpr (regular.nothing_of_notImplemented ended missing)
        refine ⟨_, returned, ?_⟩
        exact {
          error := (outcome_error_iff returned).trans regular.failed_iff.symm
          unsupported := fun _ _ => rfl
          ok := fun _ detectable => absurd undetectable detectable
          schedule := rfl }
      · rw [regular.contained exc ended] at escaping
        cases escaping
  | none =>
      cases findings with
      | stopped step raised => cases ended
      | unread fallback released urls raised => cases ended
      | read fallback detection =>
          have returned : (Findings.read fallback detection).outcome schedule =
              .ok (detection.result schedule) := rfl
          refine ⟨detection.result schedule, returned, ?_⟩
          have empty : (Findings.read fallback detection).Undetectable ↔
              detection.latestVersion.isNone = true ∧ detection.downloadUrls = [] := by
            rw [undetectable_iff, released, downloadUrls, Option.isSome_eq_false_iff]
          exact {
            error := Iff.trans (outcome_error_iff returned) regular.failed_iff.symm
            unsupported := by
              intro _ undetectable
              rw [Detection.result, if_pos (empty.mp undetectable)]
            ok := by
              intro _ detectable
              rw [Detection.result, if_neg (mt empty.mpr detectable)]
              exact ⟨rfl, rfl, rfl⟩
            schedule := by
              unfold Detection.result
              split <;> rfl }

end Findings

namespace Dumper

variable (dumper : Dumper σ)

/-- A method on the state next to a count that it does not touch. -/
def beside {α : Type} (method : σ → α × σ) (state : σ × Nat) : α × σ × Nat :=
  ((method state.1).1, (method state.1).2, state.2)

/-- The dumper with a count of the times that the run releases its client. -/
def counted : Dumper (σ × Nat) where
  state := (dumper.state, 0)
  schedule := dumper.schedule
  createTodumpList := beside dumper.createTodumpList
  setRelease := dumper.setRelease.map beside
  release state := dumper.release state.1
  assignRelease value state := (dumper.assignRelease value state.1, state.2)
  toDump state := dumper.toDump state.1
  releaseClient state := (dumper.releaseClient state.1).map fun closed =>
    (closed.1, closed.2, state.2 + 1)

private theorem counted_fallback (setRelease : σ → Except PyExc (Option PyValue) × σ) :
    dumper.counted.fallback (beside setRelease) = beside (dumper.fallback setRelease) := by
  funext state
  unfold fallback beside
  rcases called : setRelease state.1 with ⟨_ | value, next⟩
  · simp only [called]
  · have reads : dumper.counted.release (next, state.2) = dumper.release next := rfl
    simp only [called, reads]
    cases dumper.release next with
    | error exc => rfl
    | ok release =>
        cases release with
        | some found => rfl
        | none => rcases PyValue.truthy value with _ | _ | _ <;> rfl

/-- Detection finds the same next to the count, and does not release the client. -/
theorem counted_observe : dumper.counted.observe = (dumper.observe.1, dumper.observe.2, 0) := by
  have reads (fallback : Option PyExc) (next : σ) :
      dumper.counted.observeRead fallback (next, 0) = dumper.observeRead fallback next := rfl
  have released (next : σ) : dumper.counted.release (next, 0) = dumper.release next := rfl
  have created : dumper.counted.createTodumpList dumper.counted.state =
      ((dumper.createTodumpList dumper.state).1, (dumper.createTodumpList dumper.state).2, 0) :=
    rfl
  unfold observe
  rw [created]
  rcases dumper.createTodumpList dumper.state with ⟨_ | _, state⟩
  · rfl
  · dsimp only
    rw [released]
    cases dumper.release state with
    | error exc => rfl
    | ok release =>
        cases release with
        | some found =>
            dsimp only
            rw [reads]
        | none =>
            dsimp only
            have callable : dumper.counted.setRelease = dumper.setRelease.map beside := rfl
            rw [callable]
            cases dumper.setRelease with
            | none =>
                dsimp only [Option.map]
                rw [reads]
            | some setRelease =>
                dsimp only [Option.map]
                rw [counted_fallback, beside]
                rcases dumper.fallback setRelease state with ⟨exc | _, next⟩
                · dsimp only
                  rw [reads]
                  split <;> rfl
                · dsimp only
                  rw [reads]

/-- A run with the count leaves its outcome as it is, and has released the client once if it
was open when detection ended. -/
theorem counted_runDumperCheck {schedule : Option PyValue}
    (declared : PyValue.orNone dumper.schedule = .ok schedule) :
    (runDumperCheck dumper.counted).1 = (runDumperCheck dumper).1 ∧
      (runDumperCheck dumper.counted).2 = ((runDumperCheck dumper).2,
        if (dumper.releaseClient dumper.observe.2).isSome then 1 else 0) := by
  have closing : dumper.counted.releaseClient (dumper.observe.2, 0) =
      (dumper.releaseClient dumper.observe.2).map fun closed => (closed.1, closed.2, 1) := rfl
  rw [runDumperCheck_eq_observe dumper.counted declared, runDumperCheck_eq_observe dumper declared,
    counted_observe]
  unfold closeWith
  rw [closing]
  rcases dumper.releaseClient dumper.observe.2 with _ | ⟨exc | _, state⟩
  · exact ⟨rfl, rfl⟩
  · dsimp only [Option.map]
    split <;> exact ⟨rfl, rfl⟩
  · exact ⟨rfl, rfl⟩

/-- The dumper class's schedule; an empty one is none. -/
def declaredSchedule : Option PyValue :=
  if PyValue.isTrue dumper.schedule then dumper.schedule else none

/-- **A check is classified by what its steps did.** It returns a result which classifies
the findings and carries the schedule, and it releases an open client exactly once. -/
structure Classified : Prop where
  classified : ∃ result, (runDumperCheck dumper).1 = .ok result ∧
    dumper.observe.1.Classifies dumper.declaredSchedule result
  released : (runDumperCheck dumper.counted).2.2 =
    if (dumper.releaseClient dumper.observe.2).isSome then 1 else 0

/-- The behaviours that are classified: the schedule can be tested, the findings are
regular, and releasing the client raises nothing but an `Exception`. -/
structure Regular : Prop where
  declared : (PyValue.truthy dumper.schedule).isOk = true
  observed : dumper.observe.1.Regular
  closes : ∀ exc state, dumper.releaseClient dumper.observe.2 = some (.error exc, state) →
    exc.isException = true

variable {dumper}

private theorem orNone_declared (declared : (PyValue.truthy dumper.schedule).isOk = true) :
    PyValue.orNone dumper.schedule = .ok dumper.declaredSchedule := by
  unfold PyValue.orNone declaredSchedule PyValue.isTrue
  cases tested : PyValue.truthy dumper.schedule with
  | error exc => rw [tested] at declared; cases declared
  | ok holds => rfl

/-- A check that returns could test the schedule. -/
theorem declared_of_returned {result : CheckResult}
    (returned : (runDumperCheck dumper).1 = .ok result) :
    (PyValue.truthy dumper.schedule).isOk = true := by
  cases tested : PyValue.truthy dumper.schedule with
  | error exc =>
      rw [runDumperCheck, PyValue.orNone, tested] at returned
      cases returned
  | ok holds => rfl

/-- The cleanup passes an outcome on exactly when it raises nothing but an `Exception`. -/
theorem closeWith_ok_iff {outcome : Except PyExc CheckResult} {state : σ}
    {result : CheckResult} :
    (dumper.closeWith outcome state).1 = .ok result ↔ outcome = .ok result ∧
      ∀ exc next, dumper.releaseClient state = some (.error exc, next) →
        exc.isException = true := by
  unfold closeWith
  rcases dumper.releaseClient state with _ | ⟨exc | _, next⟩
  · simp
  · by_cases caught : exc.isException = true
    · simp [caught]
    · simp [caught]
  · simp

end Dumper

/-- A dumper that leaves its release to `set_release`, which cannot reach the server. -/
private def unreachable : Dumper Unit where
  state := ()
  schedule := none
  createTodumpList state := (.ok (), state)
  setRelease := some fun state =>
    (.error ⟨.ordinary, "ConnectionError", "connection refused"⟩, state)
  release _ := .ok none
  assignRelease _ state := state
  toDump _ := .ok []
  releaseClient _ := none

end BiothingsPulse
