import BiothingsPulse.Api.Polling
import BiothingsPulse.Cli

/-!
# Restarts, and commands beside the service

The store outlives the service. Between two turns the service can be stopped and started anew
with other settings, and commands can be run beside it over the same store. The records are
still the history of all checks, and a job still checks only what that history says is due.
-/

namespace BiothingsPulse

open Foundation Foundation.Threads

variable {codec : StateCodec}

section Lives

/-- What happens to a deployment, one after the other. -/
inductive Episode where
  | turn (duty : Duty)
  /-- The service is started anew over the store that is there. -/
  | restart (settings : Settings)
  /-- A command runs beside the service. -/
  | command (settings : Settings) (world : World) (issued : Cli.Command)

/-- A service that has just been built over the store. -/
def Site.reopened (site : Site codec) (settings : Settings) (now : Time) : Site codec :=
  { site with
    service := Cli.buildService settings site.service.store
    clock := now
    published := site.published ++ [.empty] }

namespace Episode

/-- The answers of the world to an episode that asks it for some. -/
def Within (holds : World → Prop) : Episode → Prop
  | .turn duty => holds duty.world
  | .restart _ => True
  | .command _ world _ => holds world

/-- The site after an episode. What a command discovers is gone with it. -/
def pass (app : App) (site : Site codec) : Episode × Time → Site codec
  | (.turn duty, now) => Duty.turn app site (duty, now)
  | (.restart settings, now) => site.reopened settings now
  | (.command settings world issued, now) =>
      let left := ((Cli.program world issued).alone (site.reopened settings now)).2
      { left with
        service := { site.service with store := left.service.store }
        published := site.published }

/-- Episodes one after the other. -/
def lives (app : App) (passed : List (Episode × Time)) (site : Site codec) : Site codec :=
  passed.foldl (pass app) site

/-- A property that depends on nothing but the records, the reports and the clock. -/
def Persists (holds : Site codec → Prop) : Prop :=
  ∀ site other : Site codec, other.service.store = site.service.store →
    other.reports = site.reports → other.clock = site.clock → holds site → holds other

variable (app : App)

private theorem pass_clock (site : Site codec) (episode : Episode) (now : Time) :
    (pass app site (episode, now)).clock = now := by
  cases episode with
  | turn duty => exact (duty.program_does app now { site with clock := now } rfl).2.2
  | restart settings => rfl
  | command settings world issued =>
      exact (Cli.program_does world issued (site.reopened settings now) rfl).2.2

/-- What the writing steps of a thread keep and the store carries over holds after an
episode. -/
theorem pass_preserves {holds : Site codec → Prop} (persists : Persists holds)
    {site : Site codec} {episode : Episode} {now : Time}
    (kept : episode.Within (Threaded.Kept holds)) (held : holds { site with clock := now }) :
    holds (pass app site (episode, now)) := by
  cases episode with
  | turn duty => exact Duty.program_preserves kept app _ held
  | restart settings => exact persists { site with clock := now } _ rfl rfl rfl held
  | command settings world issued =>
      have opened : holds (site.reopened settings now) :=
        persists { site with clock := now } _ rfl rfl rfl held
      let left := ((Cli.program world issued).alone (site.reopened settings now)).2
      exact persists left _ rfl rfl rfl (Cli.program_preserves kept issued _ opened)

/-- It holds after all of them if it outlasts the passing of time. -/
theorem lives_preserve {holds : Site codec → Prop} {follows : Time → Time → Prop}
    (persists : Persists holds) {passed : List (Episode × Time)} {site : Site codec}
    (held : holds site) (forward : (site.clock :: passed.map Prod.snd).Pairwise follows)
    (passes : ∀ site now, follows site.clock now → holds site → holds { site with clock := now })
    (kept : ∀ entry ∈ passed, entry.1.Within (Threaded.Kept holds)) :
    holds (lives app passed site) := by
  induction passed generalizing site with
  | nil => exact held
  | cons entry rest ih =>
      obtain ⟨episode, now⟩ := entry
      rw [List.forall_mem_cons] at kept
      rw [List.map_cons, List.pairwise_cons] at forward
      have come := passes site now (forward.1 _ (List.mem_cons_self ..)) held
      have next := forward.2
      rw [← pass_clock app site episode now] at next
      exact ih (pass_preserves app persists kept.1 come) next kept.2

end Episode

private theorem Site.summarised_persists :
    Episode.Persists fun site : Site codec => site.Summarised := by
  intro site other store reports _ summarised source
  have kept : other.reportsOf source = site.reportsOf source := by
    rw [Site.reportsOf, reports, Site.reportsOf]
  rw [store, kept]
  exact summarised source

private theorem Episode.Within.kept {episode : Episode} (regular : episode.Within World.Regular) :
    episode.Within (Threaded.Kept fun site : Site codec => site.Summarised) := by
  cases episode with
  | turn duty => exact Threaded.kept_summarised regular
  | restart settings => trivial
  | command settings world issued => exact Threaded.kept_summarised regular

variable (app : App) (settings : Settings) (clock : Time) (passed : List (Episode × Time))

/-- What is stored after episodes on a fresh deployment. -/
theorem lives_summarised (regular : ∀ entry ∈ passed, entry.1.Within World.Regular) :
    (Episode.lives app passed (Site.opening settings clock : Site codec)).Summarised := by
  have forward : (clock :: passed.map Prod.snd).Pairwise fun _ _ => True :=
    List.pairwise_of_forall fun _ _ => trivial
  exact Episode.lives_preserve app Site.summarised_persists (fun _ => rfl) forward
    (fun _ _ _ => id) fun entry member => (regular entry member).kept

/-- The times of each record are in order. -/
theorem lives_chronicled (forward : (clock :: passed.map Prod.snd).Pairwise (· ≤ ·)) :
    (Episode.lives app passed (Site.opening settings clock : Site codec)).Chronicled := by
  have kept (world : World) : Threaded.Kept (fun site : Site codec => site.Chronicled) world :=
    ⟨fun _ _ => id, fun _ _ => id, fun ref result _ _ _ =>
      Threaded.record_chronicled world ref result⟩
  refine Episode.lives_preserve app ?_ ?_ forward ?_ ?_
  · intro site other store _ same chronicled source state stored
    rw [store] at stored
    rw [same]
    exact chronicled source state stored
  · intro source state stored
    have absent : (Site.opening settings clock : Site codec).service.store.get source = none := rfl
    rw [absent] at stored
    cases stored
  · intro site now later chronicled source state stored
    obtain ⟨ordered, come⟩ := chronicled source state stored
    exact ⟨ordered, Int.le_trans come later⟩
  · rintro ⟨episode, now⟩ _
    cases episode with
    | turn duty => exact kept duty.world
    | restart settings => trivial
    | command settings world issued => exact kept world

/-- A source is checked by a request and, after a restart, by a command. -/
def restartedLife : List (Episode × Time) :=
  [(.turn syncDuty, 2), (.turn checkDuty, 5), (.restart {}, 6),
    (.command {} firstStart (.check "hub" "clinvar"), 9)]

private theorem restartedLife_regular : ∀ entry ∈ restartedLife, entry.1.Within World.Regular := by
  simp only [restartedLife, List.forall_mem_cons, List.not_mem_nil, false_implies, implies_true,
    and_true]
  exact ⟨firstStart_regular, firstStart_regular, trivial, firstStart_regular⟩

end Lives

section Polls

/-- What there is when the startup job begins after a restart. -/
def warmSite : Site plainCodec :=
  { Episode.lives plainApp restartedLife (Site.opening {} 1) with clock := 11 }

end Polls

section Pace

variable {interval : Int}

/-- A job, a request that only reads, or a command that checks nothing. -/
def Episode.Unforced (interval : Int) : Episode → Prop
  | .turn (.answer _ request) => request.mutating = false
  | .turn _ => True
  | .restart settings => settings.schedulerInterval = interval
  | .command _ _ (.check _ _) => False
  | .command _ _ _ => True

variable {app : App} {site : Site codec}

/-- The histories are paced by the interval that is configured. -/
structure Site.Steady (site : Site codec) (croniter : Croniter) (interval : Int) : Prop where
  summarised : site.Summarised
  cadence : site.service.settings.schedulerInterval = interval
  paced : ∀ source, Paced croniter interval (site.reportsOf source)

/-- A request that does not mutate leaves everything as it is. -/
theorem Duty.turn_of_reading (world : World) {request : Request}
    (reading : request.mutating = false) (now : Time) :
    Duty.turn app site (.answer world request, now) = { site with clock := now } :=
  (Threaded.serve_inert app world (.inl reading)).unchanged rfl

private theorem Duty.turn_paced (duty : Duty) (now : Time)
    (steady : site.Steady app.croniter interval)
    (unforced : (Episode.turn duty).Unforced interval) (source : SourceKey) :
    Paced app.croniter interval ((Duty.turn app site (duty, now)).reportsOf source) := by
  have paced := steady.paced source
  by_cases job : duty.IsJob
  · let before : Site codec := { site with clock := now }
    have summarised : before.Summarised := steady.summarised
    obtain ⟨idle, polls⟩ := duty.program_polls app summarised job rfl
    cases through : duty.goesThrough before.service with
    | none => exact (idle through source).symm ▸ paced
    | some catalog =>
        obtain same | ⟨report, grown, time, due, _⟩ := (polls catalog through).1 source
        · exact same.symm ▸ paced
        · have own : before.service.settings.schedulerInterval = interval := steady.cadence
          rw [own, ← time] at due
          exact grown.symm ▸ paced.append due
  · cases duty with
    | startup world => exact absurd trivial job
    | tick world => exact absurd trivial job
    | answer world request =>
        rw [Duty.turn_of_reading world unforced]
        exact paced

/-- An episode in which nobody has a source checked keeps the histories paced. -/
theorem Episode.pass_steady {episode : Episode} (now : Time)
    (steady : site.Steady app.croniter interval) (regular : episode.Within World.Regular)
    (unforced : episode.Unforced interval) :
    (Episode.pass app site (episode, now)).Steady app.croniter interval := by
  have summarised : (Episode.pass app site (episode, now)).Summarised :=
    Episode.pass_preserves app Site.summarised_persists regular.kept steady.summarised
  cases episode with
  | turn duty =>
      have settings := turns_settings app [(duty, now)] site
      exact ⟨summarised, (congrArg Settings.schedulerInterval settings).trans steady.cadence,
        duty.turn_paced now steady unforced⟩
  | restart settings => exact ⟨summarised, unforced, steady.paced⟩
  | command settings world issued =>
      have silent : ((Cli.program world issued).alone (site.reopened settings now)).2.reports =
          site.reports := by
        obtain ⟨left, same, ran⟩ :=
          Threaded.syncAndDiscover_cases world (site.reopened settings now)
        cases issued with
        | sync =>
            rw [Cli.program, Program.andThen, Program.alone_bind]
            obtain ⟨_, _, ran⟩ | ⟨_, _, _, ran⟩ := ran <;> rw [ran] <;> exact same.reports
        | list =>
            rw [Cli.program, Program.andThen, Program.alone_bind]
            obtain ⟨_, _, ran⟩ | ⟨_, _, _, ran⟩ := ran <;> rw [ran] <;> exact same.reports
        | check repo plugin => exact unforced.elim
      refine ⟨summarised, steady.cadence, fun source => ?_⟩
      have kept : (Episode.pass app site (.command settings world issued, now)).reportsOf source =
          site.reportsOf source :=
        congrArg (fun reports => (reports.filter fun entry => entry.1 = source).map Prod.snd)
          silent
      exact kept.symm ▸ steady.paced source

end Pace

end BiothingsPulse
