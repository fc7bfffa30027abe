import BiothingsPulse.Foundation.Transition
import Mathlib.Data.List.Count
import Mathlib.Logic.Function.Basic

/-!
# Initialising at most once

Threads call an initialisation whose flag is looked at twice: before a lock is taken,
and again under it. A call that finds the flag missing under the lock performs the steps
of the body, each of which may raise, and sets the flag after the last one. The lock is
left however the body ends, so that a later call tries again. Other code may change the
shared state between any two steps.
-/

namespace Foundation.Once

variable {ι σ ε κ : Type}

/-- The steps of an initialisation in order, the results each may have, and what other
code may do to the shared state. -/
structure Task (σ ε κ : Type) where
  body : List κ
  performs : κ → σ → Except ε Unit → σ → Prop
  meanwhile : σ → σ → Prop

/-- How far the call of a thread is. -/
inductive Phase (ε κ : Type) where
  | idle
  /-- About to look at the flag, without the lock. -/
  | called
  | waiting
  /-- About to look at the flag under the lock. -/
  | locked
  | running (todo : List κ)
  | leaving (result : Except ε Unit)
  | returned (result : Except ε Unit)

namespace Phase

/-- The thread has the lock. -/
inductive Critical : Phase ε κ → Prop where
  | locked : Critical .locked
  | running (todo : List κ) : Critical (.running todo)
  | leaving (result : Except ε Unit) : Critical (.leaving result)

/-- No call is under way. -/
inductive Resting : Phase ε κ → Prop where
  | idle : Resting .idle
  | returned (result : Except ε Unit) : Resting (.returned result)

/-- The call has come to a result. -/
inductive Ends : Phase ε κ → Except ε Unit → Prop where
  | leaving (result : Except ε Unit) : Ends (.leaving result) result
  | returned (result : Except ε Unit) : Ends (.returned result) result

/-- The most steps that the call has still to take, with a body of the given length. -/
def remaining (length : ℕ) : Phase ε κ → ℕ
  | .idle | .returned _ => 0
  | .called => length + 5
  | .waiting => length + 4
  | .locked => length + 3
  | .running todo => todo.length + 2
  | .leaving _ => 1

private theorem Critical.not_resting {phase : Phase ε κ} (critical : phase.Critical) :
    ¬ phase.Resting := by
  intro resting
  cases critical <;> cases resting

end Phase

/-- What happens in one step. -/
inductive Event (ι ε κ : Type) where
  | call (thread : ι)
  /-- The thread looks at the flag, or takes or leaves the lock. -/
  | advance (thread : ι)
  | perform (thread : ι) (step : κ) (result : Except ε Unit)
  /-- The thread sets the flag. -/
  | complete (thread : ι)
  | meanwhile

namespace Event

def completes : Event ι ε κ → Bool
  | .complete _ => true
  | _ => false

def thread : Event ι ε κ → Option ι
  | .call thread | .advance thread | .perform thread _ _ | .complete thread => some thread
  | .meanwhile => none

variable [DecidableEq ι] (thread : ι)

/-- A call of the thread. -/
def calls : Event ι ε κ → Bool
  | .call other => decide (other = thread)
  | _ => false

/-- A step that the thread takes in a call. -/
def steps : Event ι ε κ → Bool
  | .advance other | .perform other _ _ | .complete other => decide (other = thread)
  | _ => false

end Event

structure Process (ι σ ε κ : Type) where
  shared : σ
  ready : Bool
  lock : Option ι
  phase : ι → Phase ε κ

variable [DecidableEq ι]

/-- One thread goes on to another phase. -/
def Process.move (state : Process ι σ ε κ) (thread : ι) (phase : Phase ε κ) :
    Process ι σ ε κ :=
  { state with phase := Function.update state.phase thread phase }

/-- A step of a thread, or of other code. -/
inductive Step (task : Task σ ε κ) (state : Process ι σ ε κ) :
    Event ι ε κ → Process ι σ ε κ → Prop where
  | call {thread : ι} (resting : (state.phase thread).Resting) :
      Step task state (.call thread) (state.move thread .called)
  | found {thread : ι} (here : state.phase thread = .called) (ready : state.ready = true) :
      Step task state (.advance thread) (state.move thread (.returned (.ok ())))
  | missed {thread : ι} (here : state.phase thread = .called) (unready : state.ready = false) :
      Step task state (.advance thread) (state.move thread .waiting)
  | acquire {thread : ι} (here : state.phase thread = .waiting) (free : state.lock = none) :
      Step task state (.advance thread) { state.move thread .locked with lock := some thread }
  | settled {thread : ι} (here : state.phase thread = .locked) (ready : state.ready = true) :
      Step task state (.advance thread) (state.move thread (.leaving (.ok ())))
  | start {thread : ι} (here : state.phase thread = .locked) (unready : state.ready = false) :
      Step task state (.advance thread) (state.move thread (.running task.body))
  | perform {thread : ι} {step : κ} {todo : List κ} {shared : σ}
      (here : state.phase thread = .running (step :: todo))
      (performed : task.performs step state.shared (.ok ()) shared) :
      Step task state (.perform thread step (.ok ()))
        { state.move thread (.running todo) with shared := shared }
  | fail {thread : ι} {step : κ} {todo : List κ} {exc : ε} {shared : σ}
      (here : state.phase thread = .running (step :: todo))
      (performed : task.performs step state.shared (.error exc) shared) :
      Step task state (.perform thread step (.error exc))
        { state.move thread (.leaving (.error exc)) with shared := shared }
  | complete {thread : ι} (here : state.phase thread = .running []) :
      Step task state (.complete thread)
        { state.move thread (.leaving (.ok ())) with ready := true }
  | release {thread : ι} {result : Except ε Unit} (here : state.phase thread = .leaving result) :
      Step task state (.advance thread)
        { state.move thread (.returned result) with lock := none }
  | meanwhile {shared : σ} (changed : task.meanwhile state.shared shared) :
      Step task state .meanwhile { state with shared := shared }

/-- Nobody has called yet. -/
def Process.initial (ι : Type) (ε κ : Type) {σ : Type} (shared : σ) : Process ι σ ε κ :=
  ⟨shared, false, none, fun _ => .idle⟩

section Lock

variable {task : Task σ ε κ} {state after : Process ι σ ε κ} {event : Event ι ε κ}

/-- The lock is with the thread that is between its acquisition and its release. -/
def Process.Locked (state : Process ι σ ε κ) : Prop :=
  ∀ thread, state.lock = some thread ↔ (state.phase thread).Critical

omit [DecidableEq ι] in
/-- Two threads are not both under the lock. -/
theorem Process.Locked.exclusive (locked : state.Locked) {first second : ι}
    (one : (state.phase first).Critical) (other : (state.phase second).Critical) :
    first = second := by
  have holder : state.lock = some first := (locked first).mpr one
  rw [(locked second).mpr other] at holder
  exact (Option.some.inj holder).symm

/-- A thread that keeps the lock, or stays without it, may change its phase. -/
theorem Process.Locked.move (locked : state.Locked) {thread : ι} {phase : Phase ε κ}
    (same : phase.Critical ↔ (state.phase thread).Critical) :
    (state.move thread phase).Locked := by
  intro other
  by_cases moved : other = thread
  · subst moved
    change state.lock = some other ↔ (Function.update state.phase other phase other).Critical
    rw [Function.update_self, same]
    exact locked other
  · change state.lock = some other ↔ (Function.update state.phase thread phase other).Critical
    rw [Function.update_of_ne moved]
    exact locked other

private theorem Process.Locked.acquire (locked : state.Locked) {thread : ι}
    (free : state.lock = none) :
    Process.Locked { state.move thread (.locked : Phase ε κ) with lock := some thread } := by
  intro other
  change some thread = some other ↔ (Function.update state.phase thread .locked other).Critical
  by_cases moved : other = thread
  · subst moved
    rw [Function.update_self]
    exact ⟨fun _ => .locked, fun _ => rfl⟩
  · rw [Function.update_of_ne moved, ← locked other, free]
    constructor
    · intro same
      exact absurd (Option.some.inj same).symm moved
    · nofun

private theorem Process.Locked.release (locked : state.Locked) {thread : ι} {result : Except ε Unit}
    (here : state.phase thread = .leaving result) :
    Process.Locked { state.move thread (.returned result) with lock := none } := by
  intro other
  change none = some other ↔ (Function.update state.phase thread (.returned result) other).Critical
  refine ⟨nofun, fun critical => ?_⟩
  by_cases moved : other = thread
  · subst moved
    rw [Function.update_self] at critical
    exact absurd (Phase.Resting.returned result) critical.not_resting
  · rw [Function.update_of_ne moved] at critical
    have held : (state.phase thread).Critical := here ▸ .leaving result
    exact absurd (locked.exclusive critical held) moved

private theorem Step.locked (stepped : Step task state event after) (locked : state.Locked) :
    after.Locked := by
  cases stepped with
  | call resting =>
      exact locked.move ⟨nofun, fun critical => absurd resting critical.not_resting⟩
  | found here _ => exact locked.move ⟨nofun, by rw [here]; nofun⟩
  | missed here _ => exact locked.move ⟨nofun, by rw [here]; nofun⟩
  | acquire _ free => exact locked.acquire free
  | settled here _ => exact locked.move ⟨fun _ => here ▸ .locked, fun _ => .leaving _⟩
  | start here _ => exact locked.move ⟨fun _ => here ▸ .locked, fun _ => .running _⟩
  | perform here _ => exact locked.move ⟨fun _ => here ▸ .running _, fun _ => .running _⟩
  | fail here _ => exact locked.move ⟨fun _ => here ▸ .running _, fun _ => .leaving _⟩
  | complete here => exact locked.move ⟨fun _ => here ▸ .running _, fun _ => .leaving _⟩
  | release here => exact locked.release here
  | meanwhile _ => exact locked

end Lock

/-- What is known of the shared state at each point of the body. -/
structure Outline (task : Task σ ε κ) where
  /-- While the body is not running and has not come to its end. -/
  before : σ → Prop
  /-- With the given steps of the body still to be performed. -/
  during : List κ → σ → Prop
  start : ∀ shared, before shared → during task.body shared
  perform : ∀ step todo shared next, (step :: todo) <:+ task.body →
    during (step :: todo) shared → task.performs step shared (.ok ()) next → during todo next
  fail : ∀ step todo shared exc next, (step :: todo) <:+ task.body →
    during (step :: todo) shared → task.performs step shared (.error exc) next → before next
  before_stable : ∀ shared next, before shared → task.meanwhile shared next → before next
  during_stable : ∀ todo shared next, during todo shared → task.meanwhile shared next →
    during todo next

namespace Outline

variable {task : Task σ ε κ} (outline : Outline task)

/-- What the phase of a thread tells of the flag and the shared state. -/
def Fits (ready : Bool) (shared : σ) : Phase ε κ → Prop
  | .running todo => ready = false ∧ todo <:+ task.body ∧ outline.during todo shared
  | .leaving (.ok ()) | .returned (.ok ()) => ready = true
  | _ => True

/-- The flag and the shared state are as the outline has it for where the threads are. -/
structure Describes (state : Process ι σ ε κ) : Prop where
  locked : state.Locked
  fits : ∀ thread, outline.Fits state.ready state.shared (state.phase thread)
  before : state.ready = false → (∀ thread todo, state.phase thread ≠ .running todo) →
    outline.before state.shared
  ready : state.ready = true → outline.during [] state.shared

variable {outline} {state after : Process ι σ ε κ} {event : Event ι ε κ}

omit [DecidableEq ι] in
/-- An outline describes the process before any call. -/
theorem describes_initial {shared : σ} (before : outline.before shared) :
    outline.Describes (Process.initial ι ε κ shared) where
  locked _ := ⟨nofun, nofun⟩
  fits _ := trivial
  before _ _ := before
  ready set := nomatch set

/-- What the phase of a thread outside the body tells survives any change of the shared
state, and the setting of the flag. -/
theorem Fits.mono {ready later : Bool} {shared next : σ} {phase : Phase ε κ}
    (fits : outline.Fits ready shared phase) (outside : ∀ todo, phase ≠ .running todo)
    (kept : ready = true → later = true) : outline.Fits later next phase := by
  cases phase with
  | running todo => exact absurd rfl (outside todo)
  | leaving result | returned result =>
      cases result with
      | ok _ => exact kept fits
      | error _ => trivial
  | idle | called | waiting | locked => trivial

/-- A call that leaves returns with its result. -/
theorem Fits.returned {ready : Bool} {shared : σ} {result : Except ε Unit}
    (fits : outline.Fits ready shared (.leaving result)) :
    outline.Fits ready shared (.returned result) := by
  cases result with
  | ok _ => exact fits
  | error _ => trivial

/-- A call ends well only with the flag set. -/
theorem Fits.passed {ready : Bool} {shared : σ} {phase : Phase ε κ}
    (fits : outline.Fits ready shared phase) (ends : phase.Ends (.ok ())) : ready = true := by
  cases ends with
  | leaving => exact fits
  | returned => exact fits

omit [DecidableEq ι] in
/-- While one thread is in the body no other is. -/
theorem Describes.alone (described : outline.Describes state) {thread other : ι}
    {todo : List κ} (here : state.phase thread = .running todo) (different : other ≠ thread) :
    ∀ todo, state.phase other ≠ .running todo := by
  intro rest there
  exact different (described.locked.exclusive (there ▸ .running rest) (here ▸ .running todo))

/-- A thread that is not in the body goes on. -/
theorem Describes.move (described : outline.Describes state) {thread : ι} {phase : Phase ε κ}
    {lock : Option ι} (outside : ∀ todo, state.phase thread ≠ .running todo)
    (fits : outline.Fits state.ready state.shared phase)
    (locked : Process.Locked { state.move thread phase with lock := lock }) :
    outline.Describes { state.move thread phase with lock := lock } where
  locked := locked
  fits := (Function.forall_update_iff _ _).mpr ⟨fits, fun other _ => described.fits other⟩
  before := by
    intro unready nobody
    refine described.before unready fun other todo => ?_
    by_cases moved : other = thread
    · exact moved ▸ outside todo
    · have idle := nobody other todo
      change Function.update state.phase thread phase other ≠ .running todo at idle
      rwa [Function.update_of_ne moved] at idle
  ready := described.ready

/-- The thread in the body goes on, and what the others' phases tell survives it. -/
theorem Describes.fits_move (described : outline.Describes state) {thread : ι} {todo : List κ}
    (here : state.phase thread = .running todo) {phase : Phase ε κ} {ready : Bool} {shared : σ}
    (fits : outline.Fits ready shared phase) (kept : state.ready = true → ready = true) :
    ∀ other, outline.Fits ready shared (Function.update state.phase thread phase other) :=
  (Function.forall_update_iff _ _).mpr
    ⟨fits, fun other different =>
      (described.fits other).mono (described.alone here different) kept⟩

private theorem Describes.start (described : outline.Describes state) {thread : ι}
    (here : state.phase thread = .locked) (unready : state.ready = false)
    (locked : Process.Locked (state.move thread (.running task.body))) :
    outline.Describes (state.move thread (.running task.body)) where
  locked := locked
  fits := by
    have nobody : ∀ other todo, state.phase other ≠ .running todo := by
      intro other todo there
      have same : other = thread :=
        described.locked.exclusive (there ▸ .running todo) (here ▸ .locked)
      rw [same, here] at there
      cases there
    have entered : outline.Fits state.ready state.shared (.running task.body) :=
      ⟨unready, List.suffix_rfl, outline.start _ (described.before unready nobody)⟩
    exact (Function.forall_update_iff _ _).mpr ⟨entered, fun other _ => described.fits other⟩
  before _ nobody := absurd (Function.update_self ..) (nobody thread task.body)
  ready := described.ready

private theorem Describes.perform (described : outline.Describes state) {thread : ι} {step : κ}
    {todo : List κ} {shared : σ} (here : state.phase thread = .running (step :: todo))
    (performed : task.performs step state.shared (.ok ()) shared)
    (locked : Process.Locked { state.move thread (.running todo) with shared := shared }) :
    outline.Describes { state.move thread (.running todo) with shared := shared } := by
  obtain ⟨unready, suffix, during⟩ := here ▸ described.fits thread
  exact {
    locked := locked
    fits := described.fits_move here
      ⟨unready, (List.suffix_cons step todo).trans suffix,
        outline.perform step todo state.shared shared suffix during performed⟩ id
    before := fun _ nobody => absurd (Function.update_self ..) (nobody thread todo)
    ready := fun set => Bool.noConfusion (unready.symm.trans set) }

private theorem Describes.fail (described : outline.Describes state) {thread : ι} {step : κ}
    {todo : List κ} {exc : ε} {shared : σ} (here : state.phase thread = .running (step :: todo))
    (performed : task.performs step state.shared (.error exc) shared)
    (locked : Process.Locked { state.move thread (.leaving (.error exc)) with shared := shared }) :
    outline.Describes { state.move thread (.leaving (.error exc)) with shared := shared } := by
  obtain ⟨unready, suffix, during⟩ := here ▸ described.fits thread
  exact {
    locked := locked
    fits := described.fits_move here trivial id
    before := fun _ _ => outline.fail step todo state.shared exc shared suffix during performed
    ready := fun set => Bool.noConfusion (unready.symm.trans set) }

private theorem Describes.complete (described : outline.Describes state) {thread : ι}
    (here : state.phase thread = .running [])
    (locked : Process.Locked { state.move thread (.leaving (.ok ())) with ready := true }) :
    outline.Describes { state.move thread (.leaving (.ok ())) with ready := true } := by
  obtain ⟨_, _, during⟩ := here ▸ described.fits thread
  exact {
    locked := locked
    fits := described.fits_move here rfl fun _ => rfl
    before := nofun
    ready := fun _ => during }

omit [DecidableEq ι] in
private theorem Describes.meanwhile (described : outline.Describes state) {shared : σ}
    (changed : task.meanwhile state.shared shared) :
    outline.Describes { state with shared := shared } where
  locked := described.locked
  fits := by
    intro thread
    cases here : state.phase thread with
    | running todo =>
        obtain ⟨unready, suffix, during⟩ := here ▸ described.fits thread
        exact ⟨unready, suffix, outline.during_stable todo _ _ during changed⟩
    | idle | called | waiting | locked | leaving _ | returned _ =>
        have fits := here ▸ described.fits thread
        exact fits.mono nofun id
  before unready nobody := outline.before_stable _ _ (described.before unready nobody) changed
  ready set := outline.during_stable _ _ _ (described.ready set) changed

/-- Every step keeps to the outline. -/
theorem Describes.step (described : outline.Describes state)
    (stepped : Step task state event after) : outline.Describes after := by
  have locked := stepped.locked described.locked
  cases stepped with
  | call resting =>
      refine described.move ?_ trivial locked
      intro todo here
      exact (here ▸ Phase.Critical.running todo : (state.phase _).Critical).not_resting resting
  | found here ready => exact described.move (by rw [here]; nofun) ready locked
  | missed here _ => exact described.move (by rw [here]; nofun) trivial locked
  | acquire here _ => exact described.move (by rw [here]; nofun) trivial locked
  | settled here ready => exact described.move (by rw [here]; nofun) ready locked
  | start here unready => exact described.start here unready locked
  | perform here performed => exact described.perform here performed locked
  | fail here performed => exact described.fail here performed locked
  | complete here => exact described.complete here locked
  | release here =>
      have ended := here ▸ described.fits _
      exact described.move (by rw [here]; nofun) ended.returned locked
  | meanwhile changed => exact described.meanwhile changed

/-- Every run keeps to the outline. -/
theorem Describes.run (described : outline.Describes state) {events : List (Event ι ε κ)}
    {final : Process ι σ ε κ} (run : Transition.Run (Step task) state events final) :
    outline.Describes final :=
  run.invariant outline.Describes described fun _ _ _ described stepped => described.step stepped

end Outline

section Runs

variable {task : Task σ ε κ} {outline : Outline task} {shared : σ}
  {events : List (Event ι ε κ)} {state after : Process ι σ ε κ} {event : Event ι ε κ}

/-- The flag is set once, by the step that comes to the end of the body. -/
theorem Outline.Describes.completes (described : outline.Describes state)
    (stepped : Step task state event after) :
    (event.completes = true → state.ready = false ∧ after.ready = true) ∧
      (event.completes = false → after.ready = state.ready) := by
  cases stepped with
  | complete here =>
      obtain ⟨unready, _, _⟩ := here ▸ described.fits _
      exact ⟨fun _ => ⟨unready, rfl⟩, nofun⟩
  | call | found | missed | acquire | settled | start | perform | fail | release | meanwhile =>
      exact ⟨nofun, fun _ => rfl⟩

/-- The body is completed once if the flag is set, and never otherwise. -/
theorem completions_of_run (before : outline.before shared)
    (run : Transition.Run (Step task) (Process.initial ι ε κ shared) events state) :
    events.countP Event.completes = state.ready.toNat := by
  have counted : outline.Describes state ∧
      events.countP Event.completes = state.ready.toNat := by
    refine run.traceInvariant
      (fun events state => outline.Describes state ∧
        events.countP Event.completes = state.ready.toNat)
      ⟨Outline.describes_initial before, rfl⟩ ?_
    rintro events event state after ⟨described, count⟩ stepped
    refine ⟨described.step stepped, ?_⟩
    rw [List.countP_append, List.countP_singleton, count]
    obtain ⟨sets, keeps⟩ := described.completes stepped
    cases completes : event.completes with
    | true =>
        obtain ⟨unready, ready⟩ := sets completes
        rw [unready, ready]
        rfl
    | false =>
        rw [keeps completes]
        rfl
  exact counted.2

/-- A step of one thread leaves the others where they are. -/
theorem Step.phase_of_ne (stepped : Step task state event after) {thread : ι}
    (different : event.thread ≠ some thread) : after.phase thread = state.phase thread := by
  cases stepped with
  | call | found | missed | acquire | settled | start | perform | fail | complete | release =>
      exact Function.update_of_ne (fun same => different (congrArg some same.symm)) _ _
  | meanwhile => rfl

/-- A call comes to an exception only when a step of the body raises it. -/
theorem Step.raises (stepped : Step task state event after) {thread : ι} {exc : ε}
    (ends : (after.phase thread).Ends (.error exc)) :
    (state.phase thread).Ends (.error exc) ∨ ∃ step, event = .perform thread step (.error exc) := by
  by_cases own : event.thread = some thread
  · cases stepped with
    | call | found | missed | acquire | settled | start | perform | complete =>
        cases own
        simp only [Process.move, Function.update_self] at ends
        cases ends
    | fail =>
        cases own
        simp only [Process.move, Function.update_self] at ends
        cases ends
        exact .inr ⟨_, rfl⟩
    | release here =>
        cases own
        simp only [Process.move, Function.update_self] at ends
        cases ends
        exact .inl (here ▸ .leaving _)
    | meanwhile => cases own
  · exact .inl (stepped.phase_of_ne own ▸ ends)

/-- What a call raises is what a step of the body has raised in that thread. -/
theorem raised_of_run
    (run : Transition.Run (Step task) (Process.initial ι ε κ shared) events state) {thread : ι}
    {exc : ε} (ends : (state.phase thread).Ends (.error exc)) :
    ∃ step, .perform thread step (.error exc) ∈ events := by
  refine run.traceInvariant
    (fun events state => (state.phase thread).Ends (.error exc) →
      ∃ step, .perform thread step (.error exc) ∈ events) nofun ?_ ends
  intro events event state after known stepped ends
  obtain earlier | ⟨step, rfl⟩ := stepped.raises ends
  · obtain ⟨step, performed⟩ := known earlier
    exact ⟨step, List.mem_append_left _ performed⟩
  · exact ⟨step, List.mem_append_right _ (List.mem_singleton_self _)⟩

/-- What is performed in a run has the result that the run notes. -/
theorem performed_of_run
    (run : Transition.Run (Step task) (Process.initial ι ε κ shared) events state) {thread : ι}
    {step : κ} {result : Except ε Unit} (performed : .perform thread step result ∈ events) :
    ∃ shared next, task.performs step shared result next := by
  refine run.traceInvariant
    (fun events _ => .perform thread step result ∈ events →
      ∃ shared next, task.performs step shared result next) nofun ?_ performed
  intro events event state after known stepped performed
  obtain earlier | last := List.mem_append.mp performed
  · exact known earlier
  · rw [List.mem_singleton] at last
    subst last
    cases stepped with
    | perform _ ran => exact ⟨_, _, ran⟩
    | fail _ ran => exact ⟨_, _, ran⟩

omit [DecidableEq ι] in
/-- What another thread does is neither a call nor a step of this one. -/
theorem Event.of_thread_ne [DecidableEq ι] {thread : ι} (different : event.thread ≠ some thread) :
    event.calls thread = false ∧ event.steps thread = false := by
  cases event with
  | call other | advance other | perform other _ _ | complete other =>
      have unequal : other ≠ thread := fun same => different (congrArg some same)
      exact ⟨by simp [Event.calls, unequal], by simp [Event.steps, unequal]⟩
  | meanwhile => exact ⟨rfl, rfl⟩

/-- A step of a thread brings its call closer to its end, and only a call sets it back. -/
theorem Step.remaining (stepped : Step task state event after) (thread : ι) :
    (event.steps thread).toNat + (after.phase thread).remaining task.body.length ≤
      (state.phase thread).remaining task.body.length +
        (event.calls thread).toNat * (task.body.length + 5) := by
  by_cases own : event.thread = some thread
  · cases stepped with
    | call _ =>
        cases own
        simp [Event.steps, Event.calls, Process.move, Phase.remaining]
    | found here _ | missed here _ | acquire here _ | settled here _ | start here _
    | perform here _ | fail here _ | complete here | release here =>
        cases own
        have moved : ∀ phase, Function.update state.phase thread phase thread = phase :=
          fun phase => Function.update_self thread phase state.phase
        simp only [Event.steps, Event.calls, Process.move, here, moved, Phase.remaining,
          decide_true, Bool.toNat_true, Bool.toNat_false, List.length_cons]
        omega
    | meanwhile => cases own
  · obtain ⟨calls, steps⟩ := Event.of_thread_ne own
    rw [stepped.phase_of_ne own, calls, steps]
    simp

/-- The steps that a thread takes are bounded by the calls that it makes. -/
theorem steps_of_run (run : Transition.Run (Step task) (Process.initial ι ε κ shared) events state)
    (thread : ι) :
    events.countP (Event.steps thread) ≤
      events.countP (Event.calls thread) * (task.body.length + 5) := by
  have counted :
      events.countP (Event.steps thread) + (state.phase thread).remaining task.body.length ≤
        events.countP (Event.calls thread) * (task.body.length + 5) := by
    refine run.traceInvariant (fun events state =>
      events.countP (Event.steps thread) + (state.phase thread).remaining task.body.length ≤
        events.countP (Event.calls thread) * (task.body.length + 5)) (Nat.zero_le _) ?_
    intro events event state after counted stepped
    have closer := stepped.remaining thread
    have steps : (events ++ [event]).countP (Event.steps thread) =
        events.countP (Event.steps thread) + (event.steps thread).toNat := by
      rw [List.countP_append, List.countP_singleton]
      cases event.steps thread <;> rfl
    have calls : (events ++ [event]).countP (Event.calls thread) =
        events.countP (Event.calls thread) + (event.calls thread).toNat := by
      rw [List.countP_append, List.countP_singleton]
      cases event.calls thread <;> rfl
    rw [steps, calls, Nat.add_mul]
    omega
  exact Nat.le_trans (Nat.le_add_right _ _) counted

/-- The thread can take a step in its call. -/
def CanAdvance (task : Task σ ε κ) (state : Process ι σ ε κ) (thread : ι) : Prop :=
  ∃ (event : Event ι ε κ) (after : Process ι σ ε κ),
    Step task state event after ∧ event.steps thread = true

/-- A thread under the lock can go on. -/
theorem advances_of_critical
    (total : ∀ step shared, ∃ result next, task.performs step shared result next) {thread : ι}
    (critical : (state.phase thread).Critical) :
    CanAdvance task state thread := by
  cases here : state.phase thread with
  | locked =>
      cases flag : state.ready with
      | true => exact ⟨_, _, .settled here flag, decide_eq_true rfl⟩
      | false => exact ⟨_, _, .start here flag, decide_eq_true rfl⟩
  | running todo =>
      cases todo with
      | nil => exact ⟨_, _, .complete here, decide_eq_true rfl⟩
      | cons step todo =>
          obtain ⟨result, next, performed⟩ := total step state.shared
          cases result with
          | ok _ => exact ⟨_, _, .perform here performed, decide_eq_true rfl⟩
          | error _ => exact ⟨_, _, .fail here performed, decide_eq_true rfl⟩
  | leaving result => exact ⟨_, _, .release here, decide_eq_true rfl⟩
  | idle | called | waiting | returned _ =>
      rw [here] at critical
      cases critical

/-- While a call is under way, one of those under way can go on. -/
theorem Outline.Describes.advances (described : outline.Describes state)
    (total : ∀ step shared, ∃ result next, task.performs step shared result next) {thread : ι}
    (underWay : ¬ (state.phase thread).Resting) :
    ∃ other, CanAdvance task state other := by
  by_cases critical : (state.phase thread).Critical
  · exact ⟨thread, advances_of_critical total critical⟩
  · cases here : state.phase thread with
    | called =>
        cases flag : state.ready with
        | true => exact ⟨thread, _, _, .found here flag, decide_eq_true rfl⟩
        | false => exact ⟨thread, _, _, .missed here flag, decide_eq_true rfl⟩
    | waiting =>
        cases held : state.lock with
        | none => exact ⟨thread, _, _, .acquire here held, decide_eq_true rfl⟩
        | some holder =>
            -- Whoever has the lock is under way, and nobody waits under the lock.
            exact ⟨holder, advances_of_critical total ((described.locked holder).mp held)⟩
    | locked => exact absurd (here ▸ .locked) critical
    | running todo => exact absurd (here ▸ .running todo) critical
    | leaving result => exact absurd (here ▸ .leaving result) critical
    | idle => exact absurd (here ▸ .idle) underWay
    | returned result => exact absurd (here ▸ .returned result) underWay

end Runs

section Recovery

variable {task : Task σ ε κ} {outline : Outline task} {state : Process ι σ ε κ} {thread : ι}

/-- From here, the steps of one thread alone can bring it to the given phase. -/
def Reaches (task : Task σ ε κ) (state : Process ι σ ε κ) (thread : ι) (phase : Phase ε κ)
    (final : Process ι σ ε κ) : Prop :=
  (∃ events, Transition.Run (Step task) state events final) ∧
    final.phase = Function.update state.phase thread phase

/-- The thread is in the phase that it has reached. -/
theorem Reaches.at {phase : Phase ε κ} {final : Process ι σ ε κ}
    (reaches : Reaches task state thread phase final) : final.phase thread = phase := by
  rw [reaches.2, Function.update_self]

/-- A step of the thread may come before the others. -/
theorem Reaches.step {event : Event ι ε κ} {after final : Process ι σ ε κ}
    {middle phase : Phase ε κ} (stepped : Step task state event after)
    (moved : after.phase = Function.update state.phase thread middle)
    (reaches : Reaches task after thread phase final) : Reaches task state thread phase final := by
  obtain ⟨⟨events, run⟩, phases⟩ := reaches
  refine ⟨⟨_, .append (.snoc .nil stepped) run⟩, ?_⟩
  rw [phases, moved, Function.update_idem]

/-- A thread reaches the phase that a step takes it to. -/
theorem Reaches.last {event : Event ι ε κ} {final : Process ι σ ε κ} {phase : Phase ε κ}
    (stepped : Step task state event final)
    (moved : final.phase = Function.update state.phase thread phase) :
    Reaches task state thread phase final :=
  ⟨⟨_, .snoc .nil stepped⟩, moved⟩

variable (succeeds : ∀ step todo shared, (step :: todo) <:+ task.body →
  outline.during (step :: todo) shared → ∃ next, task.performs step shared (.ok ()) next)

include succeeds

/-- The thread in the body can perform it to its end and leave the lock. -/
theorem Outline.Describes.reaches_of_running (described : outline.Describes state)
    {todo : List κ} (here : state.phase thread = .running todo) :
    ∃ final, Reaches task state thread (.returned (.ok ())) final ∧ final.lock = none := by
  induction todo generalizing state with
  | nil =>
      have completed : Step task state _ _ := .complete here
      exact ⟨_, .step completed rfl (.last (.release (Function.update_self ..)) rfl), rfl⟩
  | cons step todo ih =>
      obtain ⟨_, suffix, during⟩ := here ▸ described.fits thread
      obtain ⟨next, performed⟩ := succeeds step todo state.shared suffix during
      have stepped := Step.perform here performed
      obtain ⟨final, reaches, free⟩ := ih (described.step stepped) (Function.update_self ..)
      exact ⟨final, reaches.step stepped rfl, free⟩

/-- A thread that has taken the lock can come to a good end. -/
theorem Outline.Describes.reaches_of_locked (described : outline.Describes state)
    (here : state.phase thread = .locked) :
    ∃ final, Reaches task state thread (.returned (.ok ())) final ∧ final.lock = none := by
  cases flag : state.ready with
  | true =>
      have settled : Step task state _ _ := .settled here flag
      exact ⟨_, .step settled rfl (.last (.release (Function.update_self ..)) rfl), rfl⟩
  | false =>
      have started : Step task state _ _ := .start here flag
      obtain ⟨final, reaches, free⟩ := (described.step started).reaches_of_running succeeds
        (Function.update_self ..)
      exact ⟨final, reaches.step started rfl, free⟩

/-- The thread that has the lock can leave it. -/
theorem Outline.Describes.reaches_of_critical (described : outline.Describes state)
    (critical : (state.phase thread).Critical) :
    ∃ result final, Reaches task state thread (.returned result) final ∧ final.lock = none := by
  cases here : state.phase thread with
  | locked => exact ⟨_, described.reaches_of_locked succeeds here⟩
  | running todo => exact ⟨_, described.reaches_of_running succeeds here⟩
  | leaving result => exact ⟨result, _, .last (.release here) rfl, rfl⟩
  | idle | called | waiting | returned _ =>
      rw [here] at critical
      cases critical

omit succeeds in
/-- With the lock free and the flag missing, a thread can call and begin the body. -/
theorem exists_begun (resting : (state.phase thread).Resting) (unready : state.ready = false)
    (free : state.lock = none) :
    ∃ events, Transition.Run (Step task) state events
      { state.move thread (.running task.body) with lock := some thread } := by
  have called : Step task state _ _ := .call resting
  have missed : Step task (state.move thread .called) _ _ :=
    .missed (Function.update_self ..) unready
  have acquired : Step task ((state.move thread .called).move thread .waiting) _ _ :=
    .acquire (Function.update_self ..) free
  have started : Step task { ((state.move thread .called).move thread .waiting).move thread .locked
      with lock := some thread } _ _ := .start (Function.update_self ..) unready
  have run := Transition.Run.snoc (.snoc (.snoc (.snoc .nil called) missed) acquired) started
  simp only [Process.move, Function.update_idem] at run
  exact ⟨_, run⟩

/-- With the lock free, a thread can call and come to a good end. -/
theorem Outline.Describes.recovers_of_free (described : outline.Describes state)
    (resting : (state.phase thread).Resting) (free : state.lock = none) :
    ∃ events final, Transition.Run (Step task) state events final ∧
      final.phase thread = .returned (.ok ()) := by
  have called : Step task state _ _ := .call resting
  cases flag : state.ready with
  | true =>
      exact ⟨_, _, .snoc (.snoc .nil called) (.found (Function.update_self ..) flag),
        Function.update_self ..⟩
  | false =>
      have missed : Step task (state.move thread .called) _ _ :=
        .missed (Function.update_self ..) flag
      have acquired : Step task ((state.move thread .called).move thread .waiting) _ _ :=
        .acquire (Function.update_self ..) free
      have run := Transition.Run.snoc (.snoc (.snoc .nil called) missed) acquired
      obtain ⟨final, reaches, _⟩ :=
        (described.run run).reaches_of_locked succeeds (Function.update_self ..)
      have ⟨⟨_, rest⟩, _⟩ := reaches
      exact ⟨_, final, run.append rest, reaches.at⟩

/-- Whatever has failed before, a thread can call and come to a good end. -/
theorem Outline.Describes.recovers (described : outline.Describes state)
    (resting : (state.phase thread).Resting) :
    ∃ events final, Transition.Run (Step task) state events final ∧
      final.phase thread = .returned (.ok ()) := by
  cases held : state.lock with
  | none => exact described.recovers_of_free succeeds resting held
  | some holder =>
      have critical := (described.locked holder).mp held
      obtain ⟨_, middle, ⟨⟨_, first⟩, phases⟩, free⟩ :=
        described.reaches_of_critical succeeds critical
      have different : thread ≠ holder := by
        rintro rfl
        exact critical.not_resting resting
      have still : middle.phase thread = state.phase thread := by
        rw [phases, Function.update_of_ne different]
      obtain ⟨_, final, rest, returned⟩ :=
        (described.run first).recovers_of_free succeeds (still ▸ resting) free
      exact ⟨_, final, first.append rest, returned⟩

end Recovery

end Foundation.Once
