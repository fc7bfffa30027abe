import BiothingsPulse.Api.Requests

/-!
# Without the secret the service is read-only

A request that does not present the configured token leaves the service as it finds
it: the read routes never change it, and the guard answers the others.
-/

namespace BiothingsPulse

/-- The request presents the configured, nonempty admin token. -/
def Request.Presents (request : Request) (settings : Settings) : Prop :=
  ∃ token, settings.adminToken = some token ∧ token ≠ "" ∧ request.presentedToken = some token

/-- The request is for an operation that changes the service: a forced check, a sync or
a refresh. -/
def Request.mutating (request : Request) : Bool :=
  match Route.ofPath request.path with
  | some (.source _ _) =>
      request.method = "GET" ∧ request.refresh = some true
  | some (.check _ _) | some .adminSync | some .adminRefresh => request.method = "POST"
  | _ => false

/-- The guard lets only requests pass that present the token. -/
theorem presents_of_verifyAdmin {settings : Settings} {request : Request}
    (verified : verifyAdmin settings request = .ok ()) : request.Presents settings := by
  unfold verifyAdmin at verified
  cases configured : settings.adminToken with
  | none => simp only [configured] at verified; cases verified
  | some token =>
      simp only [configured] at verified
      split at verified
      · cases verified
      · rename_i nonempty
        cases presented : request.presentedToken with
        | none => simp only [presented] at verified; cases verified
        | some given =>
            simp only [presented] at verified
            split at verified
            · cases verified
            · split at verified
              · cases verified
              · cases verified
              · rename_i equal
                unfold compareDigest at equal
                split at equal
                · obtain rfl : given = token := of_decide_eq_true (Except.ok.inj equal)
                  exact ⟨given, configured, nonempty, presented⟩
                · cases equal

/-- The guard answers with an error: disabled, unauthorized, or a failed comparison. -/
theorem verifyAdmin_error {settings : Settings} {request : Request} {exc : RouteExc}
    (refused : verifyAdmin settings request = .error exc) :
    400 ≤ (respond (.error exc)).statusCode := by
  unfold verifyAdmin at refused
  split at refused
  · cases refused; decide
  · split at refused
    · cases refused; decide
    · split at refused
      · cases refused; decide
      · split at refused
        · cases refused; decide
        · split at refused
          · cases refused
            exact Nat.le_of_ble_eq_true rfl
          · cases refused; decide
          · cases refused

section Locked

variable {codec : StateCodec} {service : PulseService codec} {request : Request}
  (locked : ¬ request.Presents service.settings)

include locked

/-- A guarded operation is not run. -/
theorem guarded_of_locked
    (operation : PulseService codec → Except RouteExc Body × PulseService codec) :
    (App.guarded request operation service).2 = service ∧
      400 ≤ (App.guarded request operation service).1.statusCode := by
  unfold App.guarded
  cases verified : verifyAdmin service.settings request with
  | ok _ => exact absurd (presents_of_verifyAdmin verified) locked
  | error exc => exact ⟨rfl, verifyAdmin_error verified⟩

/-- No route changes the service, and the answer to a mutating request is an error. -/
theorem serve_of_locked (app : App) (world : World) (now : Time) :
    (app.serve world now request service).2 = service ∧
      (request.mutating = true → 400 ≤ (app.serve world now request service).1.statusCode) := by
  unfold App.serve Request.mutating
  cases routed : Route.ofPath request.path with
  | none => exact ⟨rfl, fun mutating => absurd mutating Bool.false_ne_true⟩
  | some route =>
      by_cases matched : request.method = route.method
      · simp only [matched, ↓reduceIte]
        cases route with
        | health => exact ⟨rfl, fun mutating => absurd mutating Bool.false_ne_true⟩
        | sources => exact ⟨rfl, fun mutating => absurd mutating Bool.false_ne_true⟩
        | catalog => exact ⟨rfl, fun mutating => absurd mutating Bool.false_ne_true⟩
        | source repo plugin =>
            unfold App.run
            dsimp only
            cases asked : request.refresh with
            | none => exact ⟨rfl, fun mutating => by simp at mutating⟩
            | some refresh =>
                cases refresh with
                | false => exact ⟨rfl, fun mutating => by simp at mutating⟩
                | true =>
                    obtain ⟨same, refused⟩ := guarded_of_locked locked _
                    exact ⟨same, fun _ => refused⟩
        | check repo plugin =>
            obtain ⟨same, refused⟩ := guarded_of_locked locked _
            exact ⟨same, fun _ => refused⟩
        | adminSync =>
            obtain ⟨same, refused⟩ := guarded_of_locked locked _
            exact ⟨same, fun _ => refused⟩
        | adminRefresh =>
            obtain ⟨same, refused⟩ := guarded_of_locked locked _
            exact ⟨same, fun _ => refused⟩
      · simp only [matched, ↓reduceIte]
        exact ⟨trivial, fun _ => by decide⟩

end Locked

/-- **Without the secret the service is read-only.** However many requests are answered,
if none of them presents the configured token, the service is the one there was before
them: its catalog, its records, and its log, in which no check and no sync was
started. Every request for a mutating operation is answered with an error. -/
theorem serveAll_readOnly {codec : StateCodec} (app : App) (service : PulseService codec)
    (exchanges : List Exchange)
    (locked : ∀ exchange ∈ exchanges, ¬ exchange.request.Presents service.settings) :
    (app.serveAll exchanges service).2 = service ∧
      List.Forall₂ (fun exchange response =>
          exchange.request.mutating = true → 400 ≤ response.statusCode)
        exchanges (app.serveAll exchanges service).1 := by
  induction exchanges with
  | nil => exact ⟨rfl, .nil⟩
  | cons exchange rest ih =>
      rw [List.forall_mem_cons] at locked
      obtain ⟨same, refused⟩ := serve_of_locked locked.1 app exchange.world exchange.now
      obtain ⟨later, answers⟩ := ih locked.2
      unfold App.serveAll
      dsimp only
      rw [same]
      exact ⟨later, .cons refused answers⟩

section Guesses

private def guesser : App where
  croniter := {
    isValid := fun _ => false
    getNext := fun _ base => .ok (base + 1)
    later := fun _ base _ found => Except.ok.inj found ▸ Int.lt_succ base }
  version := "0.1.0"
  unrouted _ := { statusCode := 404, body := .framework }

private def guardedService : PulseService plainCodec where
  settings := {}
  catalog := ⟨[⟨"hub", "clinvar", .manifest, ["hub", "clinvar"], none, none, none, []⟩],
    by decide⟩

private def busyWorld : World :=
  { World.quiet with check := fun _ => .returned { status := .ok, latestVersion := some "1" } }

/-- A refresh with a wrong token and a forced check with none. -/
private def guesses : List Exchange :=
  [⟨⟨"POST", ["admin", "refresh"], [], [("authorization", "Bearer guess")]⟩, busyWorld, 0⟩,
    ⟨⟨"GET", ["sources", "hub", "clinvar"], [("refresh", "true")], []⟩, busyWorld, 0⟩]

/-- Requests without the secret are refused and change nothing. -/
theorem serveAll_readOnly_guesses :
    (guesser.serveAll guesses guardedService).2 = guardedService ∧
      List.Forall₂ (fun exchange response =>
          exchange.request.mutating = true → 400 ≤ response.statusCode)
        guesses (guesser.serveAll guesses guardedService).1 := by
  apply serveAll_readOnly guesser guardedService guesses
  rintro exchange member ⟨token, configured, _, presented⟩
  obtain rfl : "changeme" = token := Option.some.inj configured
  revert presented
  rcases List.mem_cons.mp member with rfl | second
  · decide
  · obtain rfl := List.mem_singleton.mp second
    decide

end Guesses

end BiothingsPulse
