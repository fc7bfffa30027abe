import BiothingsPulse.Api.Interleaving
import BiothingsPulse.Api.ReadOnly

/-!
# Requests without the secret interfere with nothing

A request that only reads, or that does not present the configured token, writes
nothing in any of its steps. So the threads of such requests can be taken out of any
interleaving: the service comes to the same state without them, and every other thread
returns the same.
-/

namespace BiothingsPulse

open Foundation Foundation.Threads Foundation.Transition

variable {codec : StateCodec}

namespace Threaded

open Program (Inert)

section Reading

variable {stays : Site codec → Prop} (croniter : Croniter)

private theorem status_inert (state : SourceState PyValue) :
    Inert stays (status croniter state) := by
  unfold status
  cases state.typed? with
  | none => trivial
  | some state =>
      dsimp only
      cases state.checkedAt with
      | none => exact (Inert.read _).map _
      | some last => exact (Inert.read _).andThen fun _ => (Inert.read _).map _

private theorem cachedState_inert (repo plugin : String) (pluginType : PluginType) :
    Inert stays (cachedState repo plugin pluginType) := by
  refine (Inert.read _).bind ?_
  rintro (_ | state)
  · exact (Inert.read _).map _
  · trivial

/-- Listing the sources changes nothing. -/
theorem sourcesBody_inert : Inert stays (sourcesBody croniter) := by
  refine Inert.map _ ((Inert.read _).bind fun refs => Inert.collect refs fun ref => ?_)
  exact (cachedState_inert _ _ _).bind fun state => status_inert croniter state.untyped

/-- Answering with a source changes nothing. -/
theorem answerSource_inert (repo plugin : String) (found : Option (SourceState PyValue)) :
    Inert stays (answerSource croniter repo plugin found) := by
  cases found with
  | none => trivial
  | some state => exact (status_inert croniter state).map _

/-- Answering with what is stored of a source changes nothing. -/
theorem cachedSource_inert (repo plugin : String) :
    Inert stays (cachedSource croniter repo plugin) := by
  have found : Inert stays (getStatus repo plugin) := by
    refine (Inert.read _).bind ?_
    rintro (_ | ref)
    · trivial
    · exact (cachedState_inert _ _ _).map _
  exact found.bind fun state => answerSource_inert croniter repo plugin _

end Reading

section Locked

variable {settings : Settings} {request : Request}

/-- The guard lets a request through that presents the token, and no other. -/
theorem guarded_inert (locked : ¬ request.Presents settings)
    (operation : Threaded codec (Except RouteExc Body)) :
    (guarded request operation).Inert fun site => site.service.settings = settings := by
  refine Inert.read_bind ?_
  rintro site rfl
  cases verified : verifyAdmin site.service.settings request with
  | error exc => trivial
  | ok _ => exact absurd (presents_of_verifyAdmin verified) locked

/-- A request that does not mutate, or does not present the token, writes nothing. -/
theorem serve_inert (app : App) (world : World)
    (quiet : request.mutating = false ∨ ¬ request.Presents settings) :
    (serve app world request).Inert fun site : Site codec =>
      site.service.settings = settings := by
  unfold serve
  cases routed : Route.ofPath request.path with
  | none => trivial
  | some route =>
      dsimp only
      by_cases allowed : request.method = route.method
      · rw [if_pos allowed]
        have locked (mutates : request.mutating = true) : ¬ request.Presents settings :=
          quiet.resolve_left fun reads => by rw [reads] at mutates; cases mutates
        unfold Request.mutating at locked
        rw [routed] at locked
        cases route with
        | health => exact (Inert.read _).map _
        | sources => exact (sourcesBody_inert app.croniter).map _
        | catalog => exact (Inert.read _).map _
        | source repo plugin =>
            unfold run
            dsimp only
            cases asked : request.refresh with
            | none => trivial
            | some forced =>
                cases forced with
                | false => exact (cachedSource_inert app.croniter repo plugin).map _
                | true => exact guarded_inert (locked (decide_eq_true ⟨allowed, asked⟩)) _
        | check repo plugin => exact guarded_inert (locked (decide_eq_true allowed)) _
        | adminSync => exact guarded_inert (locked (decide_eq_true allowed)) _
        | adminRefresh => exact guarded_inert (locked (decide_eq_true allowed)) _
      · rw [if_neg allowed]
        trivial

end Locked

end Threaded

/-- A thread that only reads, or answers a request without the token. -/
def Duty.Quiet (settings : Settings) : Duty → Prop
  | .answer _ request => request.mutating = false ∨ ¬ request.Presents settings
  | .startup _ | .tick _ => False

section Runs

variable {Thread : Type} [DecidableEq Thread] {app : App} {duties : Thread → Duty}
  {site : Site codec} {final : Pool (Site codec) fun thread => (duties thread).Result}
  {movers : List (Option Thread)} {quiet : Thread → Bool}

/-- **Requests without the secret interfere with nothing.** Taken out of any
interleaving, the threads of requests that only read or do not present the token leave
the service, the time and what every other thread returns as they are in it. -/
theorem interleaving_without (sound : site.Sound (· ∈ site.published))
    (locked : ∀ thread, quiet thread = true → (duties thread).Quiet site.service.settings)
    (run : Run (Pool.Moves Passes) (Duty.launch app duties site) movers final) :
    ∃ rest, Run (Pool.Moves Passes) (Duty.launch app duties site) (Pool.without quiet movers) rest ∧
      Pool.AgreeExcept quiet rest final := by
  have disciplined : (Duty.launch app duties site).Disciplined
      (Site.discipline (Duty.Complete duties site)) _ :=
    ⟨launch_sound sound, fun thread => ⟨site, Site.Later.refl site, launch_keeps thread site⟩⟩
  have inert (thread : Thread) (silent : quiet thread = true) :
      ((Duty.launch app duties site).program thread).Inert fun now =>
        now.service.settings = site.service.settings := by
    change ((duties thread).program app).Inert _
    have own := locked thread silent
    cases duty : duties thread with
    | startup world => rw [duty] at own; exact own.elim
    | tick world => rw [duty] at own; exact own.elim
    | answer world request =>
        rw [duty] at own
        exact Threaded.serve_inert app world own
  refine Pool.exists_run_without (@Threaded.passes_allows codec _) ?_ disciplined ?_ inert run
  · intro before after later same
    exact later.settings.trans same
  · rfl

end Runs

/-- An admin has a source checked, and someone without the token tries to. -/
private def intrudedDuties (intruder : Bool) : Duty :=
  if intruder then .answer firstStart
    ⟨"GET", ["sources", "hub", "clinvar"], [("refresh", "true")], [("X-Admin-Token", "guess")]⟩
  else checkDuty

/-- The refused request may be taken out of the run of the check. -/
theorem interleaving_without_intruder :
    ∃ movers final rest, some true ∈ movers ∧
      Run (Pool.Moves Passes) (Duty.launch plainApp intrudedDuties discoveredSite) movers final ∧
      Run (Pool.Moves Passes) (Duty.launch plainApp intrudedDuties discoveredSite)
        (Pool.without id movers) rest ∧ Pool.AgreeExcept id rest final := by
  obtain ⟨after, advanced⟩ : ∃ after,
      (Duty.launch plainApp intrudedDuties discoveredSite).advance true = some after := ⟨_, rfl⟩
  have intrudes : Run (Pool.Moves Passes) (Duty.launch plainApp intrudedDuties discoveredSite)
      [some true] after := .snoc .nil (.thread advanced)
  obtain ⟨checks, final, _, run, _⟩ := Pool.run_alone Passes after false
  have locked : ∀ thread, id thread = true →
      (intrudedDuties thread).Quiet discoveredSite.service.settings := by
    rintro thread rfl
    refine .inr ?_
    rintro ⟨token, configured, _, presented⟩
    obtain rfl : "changeme" = token := Option.some.inj configured
    revert presented
    decide
  obtain ⟨rest, goes, agree⟩ := interleaving_without discoveredSite_sound locked
    (intrudes.append run)
  exact ⟨_, final, rest, List.mem_append_left _ (List.mem_cons_self ..), intrudes.append run, goes,
    agree⟩

end BiothingsPulse
