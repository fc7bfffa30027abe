import BiothingsPulse.Foundation.WorkerPool
import BiothingsPulse.Service.Sweep

/-!
# The check timeout in time

The executor is a first-in first-out pool of workers, and the collecting loop waits
for the futures of a sweep in list order, for each up to `check_timeout` from the
moment it turns to it. A check that is given up keeps its worker. So a source is
judged by when its check was started and when its turn came: hung checks of this
sweep or an earlier one delay the start, and earlier waits delay the turn. What that
needs is said of the running times and the workers alone, in general by how many of
the checks ahead are unfinished when a check has to start, and for checks that end
within the timeout or never by how many never end.
-/

namespace BiothingsPulse

open Foundation Foundation.WorkerPool

/-- The workers of the executor and the time. -/
structure Timeline where
  pool : Pool
  clock : ℕ

/-- A new service, whose executor has `max_check_workers` idle workers. -/
def Timeline.fresh (settings : Settings) : Timeline where
  pool := Pool.idle (settings.maxCheckWorkers - 1)
  clock := 0

/-- A sweep over given sources, begun a while after the previous one was through, in
which each source's check has a running time. -/
structure TimedSweep where
  refs : List PluginRef
  distinct : (refs.map PluginRef.key).Nodup
  pause : ℕ
  runtime : PluginRef → Moment

namespace TimedSweep

variable (sweep : TimedSweep) (settings : Settings) (now : Timeline)

def begins : ℕ := now.clock + sweep.pause

def runtimes : List Moment := sweep.refs.map sweep.runtime

def finishes : List Moment := now.pool.finishes (sweep.begins now) sweep.runtimes

/-- For each source, whether the wait for its future expires. -/
def givenUp : List Bool :=
  collect settings.checkTimeout.micros (sweep.begins now) (sweep.finishes now)

/-- The executor and the time when the collecting loop is through. -/
def after : Timeline where
  pool := now.pool.submitAll (sweep.begins now) sweep.runtimes
  clock := collected settings.checkTimeout.micros (sweep.begins now) (sweep.finishes now)

/-- The world of the sweep: its futures answer in time or not, and recording works. -/
def world (world : World) (results : PluginRef → CheckResult) : World :=
  { world with
    check := fun ref =>
      if (ref, true) ∈ sweep.refs.zip (sweep.givenUp settings now) then .timedOut
      else .returned (results ref)
    storeFault := fun _ => none }

/-- **The per-source timeout is per source.** A source is recorded as timed out if its
own check runs for longer than the timeout, and with its own result otherwise. -/
def RecordedByOwnTime : Prop :=
  ∀ (codec : StateCodec) (service : PulseService codec) (world : World)
    (results : PluginRef → CheckResult),
    (∀ ref, PyValue.representable (results ref).schedule = true) →
      ∀ ref ∈ sweep.refs,
        recordingsOf ref ((service.checkRefs (sweep.world settings now world results)
          sweep.refs).2.log.drop service.log.length) =
            [if (settings.checkTimeout.micros : Moment) < sweep.runtime ref then
              CheckOutcome.timeoutResult "check timed out" else results ref]

/-- The checks that run within the timeout are those that can be through by a deadline:
when they have to start, fewer of the checks ahead of them than there are workers are
unfinished. -/
def InTime : Prop :=
  ∀ before ref after, sweep.refs = before ++ ref :: after →
    (sweep.runtime ref ≤ (settings.checkTimeout.micros : Moment) ↔
      now.pool.CanEnd settings.checkTimeout.micros (sweep.begins now)
        (before.map sweep.runtime) (sweep.runtime ref))

/-- Each check that runs within the timeout has fewer checks ahead of it that never end
than there are workers, besides a given number of those from before. -/
def LeavesWorker (hung workers : ℕ) : Prop :=
  ∀ before ref after, sweep.refs = before ++ ref :: after →
    sweep.runtime ref ≤ (settings.checkTimeout.micros : Moment) →
      hung + (before.map sweep.runtime).count ⊤ < workers

/-- The sources whose own checks run for longer than the timeout. -/
def overrun : List Bool :=
  sweep.refs.map fun ref => decide ((settings.checkTimeout.micros : Moment) < sweep.runtime ref)

variable {sweep settings now}

/-- What a sweep records of a source follows from whether its wait expired. -/
theorem recordingsOf_world {codec : StateCodec} (service : PulseService codec) (world : World)
    {results : PluginRef → CheckResult}
    (written : ∀ ref, PyValue.representable (results ref).schedule = true) {ref : PluginRef}
    (member : ref ∈ sweep.refs) :
    recordingsOf ref ((service.checkRefs (sweep.world settings now world results)
      sweep.refs).2.log.drop service.log.length) =
        [if (ref, true) ∈ sweep.refs.zip (sweep.givenUp settings now) then
          CheckOutcome.timeoutResult "check timed out" else results ref] := by
  have goes : ∀ other ∈ sweep.refs.dropLast,
      (sweep.world settings now world results).stops other = false := by
    intro other _
    unfold World.stops World.recordFails TimedSweep.world
    dsimp only
    split
    · rfl
    · simp [CheckOutcome.escapes, CheckOutcome.unwritable, written other]
  rw [PulseService.recordingsOf_checkRefs _ sweep.distinct,
    Loop.reached_eq_self_iff.mpr goes, if_pos member]
  unfold TimedSweep.world
  dsimp only
  split <;> rfl

/-- Flags zipped to distinct elements are read off by membership. -/
theorem mem_zip_iff_forall {elements : List PluginRef} (distinct : elements.Nodup)
    {flags : List Bool} (lengths : flags.length = elements.length) (holds : PluginRef → Bool) :
    (∀ element ∈ elements, (element, true) ∈ elements.zip flags ↔ holds element = true) ↔
      flags = elements.map holds := by
  induction elements generalizing flags with
  | nil => exact iff_of_true (by simp) (List.eq_nil_of_length_eq_zero lengths)
  | cons element rest ih =>
      obtain ⟨fresh, distinct⟩ := List.nodup_cons.mp distinct
      cases flags with
      | nil => cases lengths
      | cons flag flags =>
          have absent : ∀ flag, (element, flag) ∉ rest.zip flags := fun flag listed =>
            fresh (List.of_mem_zip listed).1
          have later : ∀ other ∈ rest, ((other, true) ∈ (element :: rest).zip (flag :: flags) ↔
              (other, true) ∈ rest.zip flags) := by
            intro other listed
            rw [List.zip_cons_cons, List.mem_cons, or_iff_right]
            intro same
            exact fresh ((Prod.mk.inj same).1 ▸ listed)
          rw [List.forall_mem_cons, List.map_cons, List.cons_eq_cons,
            ← ih distinct (Nat.succ.inj lengths)]
          refine and_congr ?_ (forall₂_congr fun other listed => by rw [later other listed])
          rw [List.zip_cons_cons, List.mem_cons, or_iff_left (absent true)]
          cases flag <;> cases holds element <;> simp

private theorem length_givenUp : (sweep.givenUp settings now).length = sweep.refs.length := by
  have lengths : ∀ turn finishes,
      (collect settings.checkTimeout.micros turn finishes).length = finishes.length := by
    intro turn finishes
    induction finishes generalizing turn with
    | nil => rfl
    | cons finish rest ih => exact congrArg (· + 1) (ih _)
  rw [givenUp, lengths, finishes, Pool.length_finishes, runtimes, List.length_map]

/-- A sweep records every source by its own running time exactly when it gives up on the
checks that run for too long and on no other. -/
theorem recordedByOwnTime_iff_givenUp :
    sweep.RecordedByOwnTime settings now ↔
      sweep.givenUp settings now = sweep.overrun settings := by
  rw [overrun, ← mem_zip_iff_forall (List.Nodup.of_map _ sweep.distinct) length_givenUp]
  constructor
  · intro recorded ref member
    have own := recorded plainCodec { settings := settings } .quiet (fun _ => { status := .ok })
      (fun _ => rfl) ref member
    rw [recordingsOf_world _ .quiet (fun _ => rfl) member, List.singleton_inj] at own
    -- A successful result tells an expired wait from one that did not expire.
    have statuses := congrArg CheckResult.status own
    rw [decide_eq_true_eq]
    constructor
    · intro expired
      by_contra short
      rw [if_pos expired, if_neg short] at statuses
      cases statuses
    · intro long
      by_contra inTime
      rw [if_neg inTime, if_pos long] at statuses
      cases statuses
  · intro own codec service world results written ref member
    rw [recordingsOf_world service world written member]
    simp only [own ref member, decide_eq_true_eq]

private theorem overrun_eq :
    sweep.overrun settings = sweep.runtimes.map fun runtime =>
      decide ((settings.checkTimeout.micros : Moment) < runtime) := by
  rw [overrun, runtimes, List.map_map]
  rfl

/-- The places of the running times are those of the sources. -/
theorem forall_runtimes_iff (holds : List Moment → Moment → Prop) :
    (∀ earlier runtime later, sweep.runtimes = earlier ++ runtime :: later →
        holds earlier runtime) ↔
      ∀ before ref after, sweep.refs = before ++ ref :: after →
        holds (before.map sweep.runtime) (sweep.runtime ref) := by
  constructor
  · intro each before ref after split
    apply each _ _ (after.map sweep.runtime)
    rw [runtimes, split, List.map_append, List.map_cons]
  · intro each earlier runtime later split
    obtain ⟨before, rest, refs, rfl, others⟩ := List.map_eq_append_iff.mp split
    obtain ⟨ref, after, rfl, rfl, _⟩ := List.map_eq_cons_iff.mp others
    exact each before ref after refs

/-- A sweep records every source by its own running time exactly when its checks are in
time. -/
theorem recordedByOwnTime_iff :
    sweep.RecordedByOwnTime settings now ↔ sweep.InTime settings now := by
  rw [recordedByOwnTime_iff_givenUp, overrun_eq]
  exact (Pool.collect_eq_iff _ _ _ _).trans (forall_runtimes_iff _)

/-- When workers are idle or held for good, a sweep of checks that run within the timeout
or for ever needs a worker that is not held for each of the former. -/
theorem recordedByOwnTime_iff_of_settled (settled : now.pool.Settled now.clock)
    (each : ∀ ref ∈ sweep.refs,
      sweep.runtime ref ≤ (settings.checkTimeout.micros : Moment) ∨ sweep.runtime ref = ⊤) :
    sweep.RecordedByOwnTime settings now ↔
      sweep.LeavesWorker settings now.pool.held now.pool.workers := by
  rw [recordedByOwnTime_iff_givenUp, overrun_eq]
  have begun := settled.mono (Nat.le_add_right now.clock sweep.pause)
  refine (begun.collect_eq_iff le_rfl ?_).trans (forall_runtimes_iff fun earlier runtime =>
    runtime ≤ (settings.checkTimeout.micros : Moment) →
      now.pool.held + earlier.count ⊤ < now.pool.workers)
  exact List.forall_mem_map.mpr each

/-- Such a sweep leaves the workers idle or held for good. -/
theorem after_settled (settled : now.pool.Settled now.clock)
    (each : ∀ ref ∈ sweep.refs,
      sweep.runtime ref ≤ (settings.checkTimeout.micros : Moment) ∨ sweep.runtime ref = ⊤)
    (recorded : sweep.RecordedByOwnTime settings now) :
    (sweep.after settings now).pool.Settled (sweep.after settings now).clock ∧
      (sweep.after settings now).pool.held =
        min now.pool.workers (now.pool.held + sweep.runtimes.count ⊤) := by
  rw [recordedByOwnTime_iff_givenUp, overrun_eq] at recorded
  exact (settled.mono (Nat.le_add_right now.clock sweep.pause)).after le_rfl
    (List.forall_mem_map.mpr each) recorded

end TimedSweep

namespace Timeline

variable (settings : Settings) (start : Timeline)

/-- The executor and the time after a number of successive sweeps. -/
def afterAll (sweeps : List TimedSweep) : Timeline :=
  sweeps.foldl (fun now sweep => sweep.after settings now) start

/-- Something holds of each of successive sweeps, with the workers and at the time it
finds. -/
def Throughout (sweeps : List TimedSweep) (holds : TimedSweep → Timeline → Prop) : Prop :=
  ∀ earlier sweep later, sweeps = earlier ++ sweep :: later →
    holds sweep (start.afterAll settings earlier)

/-- Ahead of each check that runs within the timeout, in its sweep or an earlier one,
fewer checks than there are workers never end, those included that hold a worker at the
start. -/
def LeavesWorkers (sweeps : List TimedSweep) : Prop :=
  ∀ earlier sweep later, sweeps = earlier ++ sweep :: later →
    sweep.LeavesWorker settings
      (start.pool.held + (earlier.flatMap TimedSweep.runtimes).count ⊤) start.pool.workers

variable {settings start}

/-- With checks that run within the timeout or for ever, sweeps record every source by
its own running time exactly when they leave it a worker. -/
theorem throughout_iff_leavesWorkers (settled : start.pool.Settled start.clock)
    {sweeps : List TimedSweep}
    (each : ∀ sweep ∈ sweeps, ∀ ref ∈ sweep.refs,
      sweep.runtime ref ≤ (settings.checkTimeout.micros : Moment) ∨ sweep.runtime ref = ⊤) :
    start.Throughout settings sweeps (fun sweep now => sweep.RecordedByOwnTime settings now) ↔
      start.LeavesWorkers settings sweeps := by
  induction sweeps generalizing start with
  | nil =>
      have none {holds : List TimedSweep → TimedSweep → Prop} (earlier : List TimedSweep)
          (sweep : TimedSweep) (later : List TimedSweep) (split : [] = earlier ++ sweep :: later) :
          holds earlier sweep := absurd split (by simp)
      exact iff_of_true none none
  | cons sweep rest ih =>
      rw [List.forall_mem_cons] at each
      have own := TimedSweep.recordedByOwnTime_iff_of_settled settled each.1
      rw [Throughout, forall_split_cons (fun earlier (sweep : TimedSweep) =>
          sweep.RecordedByOwnTime settings (start.afterAll settings earlier)),
        LeavesWorkers, forall_split_cons (fun earlier (sweep : TimedSweep) =>
          sweep.LeavesWorker settings
            (start.pool.held + (earlier.flatMap TimedSweep.runtimes).count ⊤)
            start.pool.workers)]
      refine (and_congr_right fun recorded => ?_).trans (and_congr_left' own)
      obtain ⟨idle, held⟩ := TimedSweep.after_settled settled each.1 recorded
      refine (ih idle each.2).trans ?_
      refine forall₄_congr fun earlier other later _ =>
        forall₅_congr fun before ref after _ _ => ?_
      have workers : (sweep.after settings start).pool.workers = start.pool.workers :=
        Pool.workers_submitAll ..
      rw [held, workers, List.flatMap_cons, List.count_append]
      omega

end Timeline

/-- **The timeout is per source exactly when the checks are in time.** Over any number of
successive sweeps every source is recorded by its own running time if and only if in
every sweep the checks that run within the timeout are those that find, when they have
to start, fewer unfinished checks ahead of them than there are workers. With checks that
run within the timeout or for ever it comes down to how many never end: ahead of each
check that runs within the timeout they leave a worker. -/
theorem sweeps_recordedByOwnTime_iff (settings : Settings) (start : Timeline)
    (sweeps : List TimedSweep) :
    (start.Throughout settings sweeps (fun sweep now => sweep.RecordedByOwnTime settings now) ↔
        start.Throughout settings sweeps fun sweep now => sweep.InTime settings now) ∧
      (start.pool.Settled start.clock →
        (∀ sweep ∈ sweeps, ∀ ref ∈ sweep.refs,
          sweep.runtime ref ≤ (settings.checkTimeout.micros : Moment) ∨ sweep.runtime ref = ⊤) →
        (start.Throughout settings sweeps
            (fun sweep now => sweep.RecordedByOwnTime settings now) ↔
          start.LeavesWorkers settings sweeps)) := by
  refine ⟨?_, fun settled each => Timeline.throughout_iff_leavesWorkers settled each⟩
  constructor
  · intro recorded earlier sweep later split
    exact TimedSweep.recordedByOwnTime_iff.mp (recorded earlier sweep later split)
  · intro inTime earlier sweep later split
    exact TimedSweep.recordedByOwnTime_iff.mpr (inTime earlier sweep later split)

section OneWorker

private def hungRef : PluginRef :=
  { repo := "hub", name := "clinvar", pluginType := .manifest, path := ["hub", "clinvar"] }

private def quickRef : PluginRef :=
  { repo := "hub", name := "dbsnp", pluginType := .manifest, path := ["hub", "dbsnp"] }

/-- The first check never ends, the second takes a second. -/
def hungSweep : TimedSweep where
  refs := [hungRef, quickRef]
  distinct := by decide
  pause := 0
  runtime ref := if ref = hungRef then ⊤ else 1000000

private def oneWorker : Settings := { maxCheckWorkers := 1 }

/-- **A hung check times out the sources behind it.** With one worker and the default
timeout of a minute, the check that takes a second is given up as well. -/
theorem hungSweep_not_recordedByOwnTime :
    hungSweep.runtime quickRef ≤ (oneWorker.checkTimeout.micros : Moment) ∧
      hungSweep.givenUp oneWorker (.fresh oneWorker) = [true, true] ∧
      ¬ (Timeline.fresh oneWorker).Throughout oneWorker [hungSweep] fun sweep now =>
        sweep.RecordedByOwnTime oneWorker now := by
  refine ⟨by decide, by decide, ?_⟩
  intro recorded
  have judged := TimedSweep.recordedByOwnTime_iff_givenUp.mp (recorded [] hungSweep [] rfl)
  revert judged
  decide

private def twoWorkers : Settings := { maxCheckWorkers := 2 }

/-- With a second worker both sources are recorded by their own running times. -/
theorem sweeps_recordedByOwnTime_twoWorkers :
    (Timeline.fresh twoWorkers).Throughout twoWorkers [hungSweep] fun sweep now =>
      sweep.RecordedByOwnTime twoWorkers now := by
  refine ((sweeps_recordedByOwnTime_iff twoWorkers (.fresh twoWorkers) [hungSweep]).2
    (Pool.idle_settled 1 0) (by decide)).mpr ?_
  rintro earlier sweep later split before ref after listed -
  obtain ⟨rfl, rfl⟩ : earlier = [] ∧ hungSweep = sweep := by
    cases earlier with
    | nil => exact ⟨rfl, (List.cons_eq_cons.mp split).1⟩
    | cons head tail => simp at split
  have few := congrArg List.length listed
  have hung : (before.map hungSweep.runtime).count ⊤ ≤ before.length :=
    List.count_le_length.trans_eq (List.length_map _)
  have idle : (Timeline.fresh twoWorkers).pool.held = 0 := Pool.held_idle 1
  have workers : (Timeline.fresh twoWorkers).pool.workers = 2 := rfl
  rw [List.length_append, List.length_cons, show hungSweep.refs.length = 2 from rfl] at few
  rw [idle, workers, List.flatMap_nil, List.count_nil]
  omega

end OneWorker

end BiothingsPulse
