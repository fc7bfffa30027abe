import Mathlib.Algebra.Order.Monoid.WithTop
import Mathlib.Algebra.Order.Ring.Nat
import Mathlib.Data.List.Sort
import Mathlib.Data.Nat.Cast.Order.Basic
import Mathlib.Order.Lattice.Nat

/-!
# A first-in first-out pool of workers and a sequential collector

Tasks are started in the order of their submission, each by the worker that becomes
free first, and a worker stays with its task until the task ends, if it ever does.
A collector waits for the tasks in order, for each up to a limit that starts when
its turn comes. Whether the collector gives a task up therefore depends on when the
task was started and on when its turn came, and not on its running time alone
(`Pool.collect_eq_iff`): a task can be through in time if fewer of the tasks before it
than there are workers are unfinished when it has to start. Where every task runs within
the limit or for ever, it comes down to how many of those before it never end
(`Pool.Settled.collect_eq_iff`).
-/

namespace Foundation.WorkerPool

/-- A time that may never come. -/
abbrev Moment : Type := WithTop ℕ

/-- The times at which the workers become free, the earliest first. -/
structure Pool where
  free : List Moment
  sorted : free.Pairwise (· ≤ ·)
  nonempty : free ≠ []

namespace Pool

/-- A number of idle workers, besides the one that every pool has. -/
def idle (others : ℕ) : Pool where
  free := List.replicate (others + 1) 0
  sorted := List.pairwise_replicate.mpr (.inr le_rfl)
  nonempty := by simp

variable (pool : Pool)

/-- When the next worker becomes free. -/
def first : Moment := pool.free.head pool.nonempty

/-- When a task submitted at the given time is started. -/
def start (submitted : ℕ) : Moment := max submitted pool.first

/-- The first worker takes a task with the given running time. -/
def submit (submitted : ℕ) (runtime : Moment) : Pool where
  free := pool.free.tail.orderedInsert (· ≤ ·) (pool.start submitted + runtime)
  sorted := pool.sorted.tail.orderedInsert _ _
  nonempty := by
    have inserted := List.orderedInsert_length (· ≤ ·) pool.free.tail
      (pool.start submitted + runtime)
    intro empty
    rw [empty] at inserted
    cases inserted

/-- When the tasks submitted at one time, in order, end. -/
def finishes (pool : Pool) (submitted : ℕ) : List Moment → List Moment
  | [] => []
  | runtime :: rest =>
      (pool.start submitted + runtime) :: (pool.submit submitted runtime).finishes submitted rest

/-- The pool after the tasks are submitted. -/
def submitAll (submitted : ℕ) (runtimes : List Moment) : Pool :=
  runtimes.foldl (fun pool runtime => pool.submit submitted runtime) pool

/-- How many workers there are. -/
def workers : ℕ := pool.free.length

/-- How many tasks are unfinished at a moment, of those that held a worker before and
those submitted since. -/
def unfinished (submitted : ℕ) (earlier : List Moment) (moment : Moment) : ℕ :=
  (pool.free ++ pool.finishes submitted earlier).countP (moment < ·)

/-- Every task has a finish. -/
theorem length_finishes (submitted : ℕ) (runtimes : List Moment) :
    (pool.finishes submitted runtimes).length = runtimes.length := by
  induction runtimes generalizing pool with
  | nil => rfl
  | cons runtime rest ih => exact congrArg (· + 1) (ih _)

/-- No worker is free before the first one. -/
theorem first_le {moment : Moment} (member : moment ∈ pool.free) : pool.first ≤ moment := by
  obtain ⟨free, sorted, nonempty⟩ := pool
  cases free with
  | nil => exact absurd rfl nonempty
  | cons first others =>
      rcases List.mem_cons.mp member with rfl | later
      · exact le_rfl
      · exact List.rel_of_pairwise_cons sorted later

/-- The worker that becomes free first takes the task, and the others stay. -/
theorem submit_perm (submitted : ℕ) (runtime : Moment) :
    (pool.submit submitted runtime).free.Perm
      ((pool.start submitted + runtime) :: pool.free.tail) :=
  List.perm_orderedInsert _ _ _

/-- The first worker is not free again earlier than it was. -/
theorem first_le_submit (submitted : ℕ) (runtime : Moment) :
    pool.first ≤ (pool.submit submitted runtime).first := by
  have taken := (pool.submit_perm submitted runtime).mem_iff.mp
    (List.head_mem (pool.submit submitted runtime).nonempty)
  rcases List.mem_cons.mp taken with same | kept
  · rw [first, first, same]
    exact (le_max_right _ _).trans le_self_add
  · exact pool.first_le (List.mem_of_mem_tail kept)

private theorem free_eq : pool.free = pool.first :: pool.free.tail :=
  (List.cons_head_tail pool.nonempty).symm

/-- No worker comes or goes. -/
@[simp] theorem workers_submit (submitted : ℕ) (runtime : Moment) :
    (pool.submit submitted runtime).workers = pool.workers := by
  rw [workers, (pool.submit_perm submitted runtime).length_eq, workers, pool.free_eq]
  rfl

/-- Tasks change nothing about the number of workers. -/
@[simp] theorem workers_submitAll (submitted : ℕ) (runtimes : List Moment) :
    (pool.submitAll submitted runtimes).workers = pool.workers := by
  induction runtimes generalizing pool with
  | nil => rfl
  | cons runtime rest ih => exact (ih _).trans (pool.workers_submit submitted runtime)

private theorem finishes_append (submitted : ℕ) (earlier later : List Moment) :
    pool.finishes submitted (earlier ++ later) =
      pool.finishes submitted earlier ++
        (pool.submitAll submitted earlier).finishes submitted later := by
  induction earlier generalizing pool with
  | nil => rfl
  | cons runtime rest ih => exact congrArg (_ :: ·) (ih _)

private theorem submitAll_concat (submitted : ℕ) (earlier : List Moment) (runtime : Moment) :
    pool.submitAll submitted (earlier ++ [runtime]) =
      (pool.submitAll submitted earlier).submit submitted runtime :=
  List.foldl_append

/-- A worker is free by a moment unless all of them are held beyond it. -/
theorem countP_lt_workers_iff (moment : Moment) :
    pool.free.countP (moment < ·) < pool.workers ↔ pool.first ≤ moment := by
  refine not_iff_not.mp ?_
  rw [workers, not_lt, not_le]
  constructor
  · intro all
    have held := List.countP_eq_length.mp (le_antisymm List.countP_le_length all)
    exact of_decide_eq_true (held _ (List.head_mem pool.nonempty))
  · intro later
    refine (List.countP_eq_length.mpr fun free member => ?_).ge
    exact decide_eq_true (later.trans_le (pool.first_le member))

/-- **First in, first out**: the next task is started by a moment if and only if fewer
of the earlier ones than there are workers are unfinished then. -/
theorem start_submitAll_le_iff (submitted : ℕ) (earlier : List Moment) (moment : Moment) :
    (pool.submitAll submitted earlier).start submitted ≤ moment ↔
      (submitted : Moment) ≤ moment ∧
        pool.unfinished submitted earlier moment < pool.workers := by
  induction earlier generalizing pool with
  | nil =>
      rw [unfinished, finishes, List.append_nil, countP_lt_workers_iff]
      exact max_le_iff
  | cons runtime rest ih =>
      rw [submitAll, List.foldl_cons, ← submitAll, ih, workers_submit]
      refine and_congr_right fun _ => ?_
      have counted : pool.unfinished submitted (runtime :: rest) moment =
          (if moment < pool.first then 1 else 0) +
            (pool.submit submitted runtime).unfinished submitted rest moment := by
        rw [unfinished, unfinished, List.countP_append, List.countP_append,
          (pool.submit_perm submitted runtime).countP_eq, pool.free_eq, finishes]
        simp only [List.countP_cons, decide_eq_true_eq, List.tail_cons]
        omega
      rw [counted]
      by_cases held : moment < pool.first
      · -- Then every worker is held beyond the moment, before the task and after it.
        rw [if_pos held]
        have all : pool.workers ≤ (pool.submit submitted runtime).unfinished submitted rest
            moment := by
          rw [← pool.workers_submit submitted runtime, unfinished, List.countP_append]
          apply Nat.le_add_right_of_le
          rw [← not_lt, countP_lt_workers_iff, not_le]
          exact held.trans_le (pool.first_le_submit submitted runtime)
        omega
      · rw [if_neg held, Nat.zero_add]

end Pool

/-- Statements about the places of a list, from its first place on. -/
theorem forall_split_cons {α : Type} (holds : List α → α → Prop) {first : α} {rest : List α} :
    (∀ before element after, first :: rest = before ++ element :: after →
        holds before element) ↔
      holds [] first ∧ ∀ before element after, rest = before ++ element :: after →
        holds (first :: before) element := by
  constructor
  · intro each
    refine ⟨each [] first rest rfl, ?_⟩
    rintro before element after rfl
    exact each (first :: before) element after rfl
  · rintro ⟨own, others⟩ before element after split
    cases before with
    | nil =>
        obtain ⟨rfl, _⟩ := List.cons_eq_cons.mp split
        exact own
    | cons head tail =>
        obtain ⟨rfl, rest⟩ := List.cons_eq_cons.mp split
        exact others tail element after rest

variable (limit : ℕ)

/-- When the turn of the next task comes. -/
def nextTurn (turn : ℕ) (finish : Moment) (givenUp : Bool) : ℕ :=
  if givenUp then turn + limit else max turn (finish.untopD 0)

private theorem le_nextTurn (turn : ℕ) (finish : Moment) (givenUp : Bool) :
    turn ≤ nextTurn limit turn finish givenUp := by
  cases givenUp with
  | true => exact Nat.le_add_right turn limit
  | false => exact le_max_left _ _

/-- Which of the tasks ending at the given times the collector gives up. -/
def collect (turn : ℕ) : List Moment → List Bool
  | [] => []
  | finish :: rest =>
      let givenUp := decide (((turn + limit : ℕ) : Moment) < finish)
      givenUp :: collect (nextTurn limit turn finish givenUp) rest

/-- When the collector is through. -/
def collected (turn : ℕ) : List Moment → ℕ
  | [] => turn
  | finish :: rest =>
      collected (nextTurn limit turn finish (decide (((turn + limit : ℕ) : Moment) < finish))) rest

/-- A task's running time and the time at which it ends. -/
abbrev Task : Type := Moment × Moment

/-- The moments by one of which the next task has to end. They are a limit after the
submission and a limit after the end of each task that runs within it, and each task
that runs for longer puts off those before it by another limit. -/
def deadlines (submitted : ℕ) (earlier : List Task) : List Moment :=
  earlier.foldl (fun due task =>
    if (limit : Moment) < task.1 then due.map (· + (limit : Moment))
    else (task.2 + (limit : Moment)) :: due) [((submitted + limit : ℕ) : Moment)]

namespace Pool

variable (pool : Pool)

/-- Whether a task can be through by a deadline: from some moment on that leaves it
enough time, fewer tasks than there are workers are unfinished. -/
def CanEnd (submitted : ℕ) (earlier : List Moment) (runtime : Moment) : Prop :=
  ∃ due ∈ deadlines limit submitted (earlier.zip (pool.finishes submitted earlier)),
    ∃ begun : Moment, (submitted : Moment) ≤ begun ∧ begun + runtime ≤ due ∧
      pool.unfinished submitted earlier begun < pool.workers

/-- The tasks that can be through by a deadline are those that run within the limit. -/
def InTime (submitted : ℕ) (runtimes : List Moment) : Prop :=
  ∀ (earlier : List Moment) (runtime : Moment) (later : List Moment),
    runtimes = earlier ++ runtime :: later →
      (runtime ≤ (limit : Moment) ↔ pool.CanEnd limit submitted earlier runtime)

/-- The greatest deadline is a limit after the turn. -/
def Governs (submitted : ℕ) (earlier : List Moment) (turn : ℕ) : Prop :=
  IsGreatest {due | due ∈ deadlines limit submitted
    (earlier.zip (pool.finishes submitted earlier))} ((turn + limit : ℕ) : Moment)

variable {limit pool} {submitted turn : ℕ} {earlier : List Moment}

private theorem deadlines_concat (runtime : Moment) :
    deadlines limit submitted ((earlier ++ [runtime]).zip
        (pool.finishes submitted (earlier ++ [runtime]))) =
      let due := deadlines limit submitted (earlier.zip (pool.finishes submitted earlier))
      if (limit : Moment) < runtime then due.map (· + (limit : Moment))
      else ((pool.submitAll submitted earlier).start submitted + runtime + (limit : Moment)) ::
        due := by
  rw [finishes_append, List.zip_append (length_finishes pool submitted earlier).symm,
    deadlines, List.foldl_append]
  rfl

/-- A task ends within the limit of its turn exactly when it can. -/
theorem Governs.canEnd_iff (governs : pool.Governs limit submitted earlier turn)
    (runtime : Moment) :
    pool.CanEnd limit submitted earlier runtime ↔
      (pool.submitAll submitted earlier).start submitted + runtime ≤
        ((turn + limit : ℕ) : Moment) := by
  constructor
  · rintro ⟨due, member, begun, submits, ends, room⟩
    have starts := (start_submitAll_le_iff pool submitted earlier begun).mpr ⟨submits, room⟩
    calc
      _ ≤ begun + runtime := add_le_add_left starts runtime
      _ ≤ due := ends
      _ ≤ _ := governs.2 member
  · intro ends
    obtain ⟨submits, room⟩ :=
      (start_submitAll_le_iff pool submitted earlier _).mp le_rfl
    exact ⟨_, governs.1, _, submits, ends, room⟩

/-- A task that runs for longer than the limit puts the turn off by a limit. -/
theorem Governs.long (governs : pool.Governs limit submitted earlier turn) {runtime : Moment}
    (long : (limit : Moment) < runtime) :
    pool.Governs limit submitted (earlier ++ [runtime]) (turn + limit) := by
  rw [Governs, deadlines_concat]
  dsimp only
  rw [if_pos long]
  constructor
  · exact List.mem_map.mpr ⟨_, governs.1, rfl⟩
  · intro due member
    obtain ⟨before, listed, rfl⟩ := List.mem_map.mp member
    exact add_le_add_left (governs.2 listed) _

/-- The collector waits for the end of a task that runs within the limit. -/
theorem Governs.short (governs : pool.Governs limit submitted earlier turn) {runtime : Moment}
    (short : runtime ≤ (limit : Moment)) {finish : ℕ}
    (ends : (pool.submitAll submitted earlier).start submitted + runtime = finish) :
    pool.Governs limit submitted (earlier ++ [runtime]) (max turn finish) := by
  rw [Governs, deadlines_concat]
  dsimp only
  rw [if_neg (not_lt_of_ge short), ends]
  constructor
  · rcases max_choice turn finish with same | same <;> rw [same]
    · exact List.mem_cons_of_mem _ governs.1
    · exact List.mem_cons_self ..
  · intro due member
    rcases List.mem_cons.mp member with rfl | listed
    · exact WithTop.coe_le_coe.mpr (Nat.add_le_add_right (le_max_right _ _) limit)
    · exact (governs.2 listed).trans
        (WithTop.coe_le_coe.mpr (Nat.add_le_add_right (le_max_left _ _) limit))

/-- What the collector judges from a turn on, by the deadlines of the tasks before. -/
theorem Governs.collect_eq_iff (governs : pool.Governs limit submitted earlier turn)
    (runtimes : List Moment) :
    collect limit turn ((pool.submitAll submitted earlier).finishes submitted runtimes) =
        runtimes.map (fun runtime => decide ((limit : Moment) < runtime)) ↔
      ∀ (between : List Moment) (runtime : Moment) (later : List Moment),
        runtimes = between ++ runtime :: later →
          (runtime ≤ (limit : Moment) ↔
            pool.CanEnd limit submitted (earlier ++ between) runtime) := by
  induction runtimes generalizing earlier turn with
  | nil => exact iff_of_true rfl fun _ _ _ split => absurd split (by simp)
  | cons runtime rest ih =>
      rw [forall_split_cons (fun between runtime =>
          runtime ≤ (limit : Moment) ↔
            pool.CanEnd limit submitted (earlier ++ between) runtime),
        List.append_nil, finishes, List.map_cons, collect, List.cons_eq_cons]
      have own : decide (((turn + limit : ℕ) : Moment) <
            (pool.submitAll submitted earlier).start submitted + runtime) =
            decide ((limit : Moment) < runtime) ↔
          (runtime ≤ (limit : Moment) ↔ pool.CanEnd limit submitted earlier runtime) := by
        rw [governs.canEnd_iff, decide_eq_decide, ← not_le, ← not_le, not_iff_not]
        exact Iff.comm
      rw [own]
      refine and_congr_right fun judged => ?_
      rw [own.mpr judged]
      have next : pool.Governs limit submitted (earlier ++ [runtime])
          (nextTurn limit turn ((pool.submitAll submitted earlier).start submitted + runtime)
            (decide ((limit : Moment) < runtime))) := by
        by_cases long : (limit : Moment) < runtime
        · rw [decide_eq_true long, nextTurn, if_pos rfl]
          exact governs.long long
        · have short := le_of_not_gt long
          have ended := (governs.canEnd_iff runtime).mp (judged.mp short)
          rw [decide_eq_false long, nextTurn, if_neg Bool.false_ne_true]
          obtain ⟨finish, ends⟩ := WithTop.ne_top_iff_exists.mp
            (ended.trans_lt (WithTop.coe_lt_top _)).ne
          rw [← ends]
          exact governs.short short ends.symm
      have later := ih next
      rw [submitAll_concat] at later
      simpa only [List.append_assoc, List.singleton_append] using later

/-- **The collector judges every task by its own running time exactly when those that
can be through by a deadline are those that run within the limit.** -/
theorem collect_eq_iff (limit : ℕ) (pool : Pool) (submitted : ℕ) (runtimes : List Moment) :
    collect limit submitted (pool.finishes submitted runtimes) =
        runtimes.map (fun runtime => decide ((limit : Moment) < runtime)) ↔
      pool.InTime limit submitted runtimes := by
  have governs : pool.Governs limit submitted [] submitted :=
    ⟨List.mem_singleton.mpr rfl, fun _ member => (List.mem_singleton.mp member).le⟩
  exact Governs.collect_eq_iff governs runtimes

/-- Every worker is idle by the given time or held for good. -/
def Settled (pool : Pool) (turn : ℕ) : Prop :=
  ∀ free ∈ pool.free, free ≤ (turn : Moment) ∨ free = ⊤

/-- How many workers are held for good. -/
def held (pool : Pool) : ℕ := pool.free.count ⊤

/-- Idle workers are idle at any time. -/
theorem idle_settled (others turn : ℕ) : (Pool.idle others).Settled turn := fun _ member =>
  .inl ((List.eq_of_mem_replicate member).trans_le bot_le)

/-- No worker of an idle pool is held. -/
@[simp] theorem held_idle (others : ℕ) : (Pool.idle others).held = 0 :=
  List.count_eq_zero.mpr fun member => absurd (List.eq_of_mem_replicate member) WithTop.top_ne_zero

/-- No more workers are held than there are. -/
theorem held_le_workers (pool : Pool) : pool.held ≤ pool.workers := List.count_le_length

namespace Settled

/-- A settled pool stays settled. -/
theorem mono (settled : pool.Settled turn) {later : ℕ} (follows : turn ≤ later) :
    pool.Settled later := fun free member =>
  (settled free member).imp_left fun idle => idle.trans (WithTop.coe_le_coe.mpr follows)

/-- A worker is idle unless all are held for good. -/
theorem first_le_iff (settled : pool.Settled turn) :
    pool.first ≤ turn ↔ pool.held < pool.workers := by
  rw [← countP_lt_workers_iff, held, List.count]
  have same : pool.free.countP (fun free => decide ((turn : Moment) < free)) =
      pool.free.countP (· == ⊤) := by
    refine List.countP_congr fun free member => ?_
    rw [decide_eq_true_eq, beq_iff_eq]
    constructor
    · exact fun later => (settled free member).resolve_left (not_le_of_gt later)
    · rintro rfl
      exact WithTop.coe_lt_top turn
  rw [same]

private theorem first_eq_top_iff (settled : pool.Settled turn) :
    pool.first = ⊤ ↔ pool.workers ≤ pool.held := by
  rw [← not_lt, ← settled.first_le_iff, not_le]
  constructor
  · rintro all
    exact all ▸ WithTop.coe_lt_top turn
  · exact fun later => (settled _ (List.head_mem pool.nonempty)).resolve_left (not_le_of_gt later)

/-- Who is held once a task is taken. -/
theorem held_submit (settled : pool.Settled turn) (runtime : Moment) :
    (pool.submit submitted runtime).held =
      if pool.held < pool.workers then
        pool.held + if pool.start submitted + runtime = ⊤ then 1 else 0
      else pool.held := by
  have counted := (pool.submit_perm submitted runtime).count_eq ⊤
  rw [List.count_cons] at counted
  have before : pool.held = pool.free.tail.count ⊤ + if pool.first == ⊤ then 1 else 0 := by
    rw [held, pool.free_eq, List.count_cons]
    rfl
  rw [held, counted]
  by_cases room : pool.held < pool.workers
  · have idle : pool.first ≠ ⊤ := fun all => absurd (settled.first_eq_top_iff.mp all) (by omega)
    rw [if_pos room, before]
    simp [idle]
  · have all := settled.first_eq_top_iff.mpr (not_lt.mp room)
    rw [if_neg room, before]
    simp [all, start]

/-- **What one task does** that runs within the limit or for ever: it is judged by its
own running time unless it has to and cannot start, and then the workers are again idle
at the next turn or held for good, by one task more if it runs for ever. -/
theorem step (settled : pool.Settled turn) (begun : submitted ≤ turn) {runtime : Moment}
    (own : runtime ≤ (limit : Moment) ∨ runtime = ⊤) :
    (decide (((turn + limit : ℕ) : Moment) < pool.start submitted + runtime) =
          decide ((limit : Moment) < runtime) ↔
        (runtime ≤ (limit : Moment) → pool.held < pool.workers)) ∧
      ((runtime ≤ (limit : Moment) → pool.held < pool.workers) →
        (pool.submit submitted runtime).Settled (nextTurn limit turn
            (pool.start submitted + runtime) (decide ((limit : Moment) < runtime))) ∧
          (pool.submit submitted runtime).held =
            min pool.workers (pool.held + [runtime].count ⊤)) := by
  have bound := pool.held_le_workers
  have others {later : ℕ} (follows : turn ≤ later)
      (taken : pool.start submitted + runtime ≤ (later : Moment) ∨
        pool.start submitted + runtime = ⊤) : (pool.submit submitted runtime).Settled later := by
    intro free member
    rcases List.mem_cons.mp ((pool.submit_perm submitted runtime).mem_iff.mp member) with
      rfl | kept
    · exact taken
    · exact settled.mono follows free (List.mem_of_mem_tail kept)
  rcases own with short | rfl
  · rw [decide_eq_false (not_lt_of_ge short), decide_eq_false_iff_not, not_lt,
      forall_prop_of_true short]
    by_cases room : pool.held < pool.workers
    · have started : pool.start submitted ≤ turn :=
        max_le (WithTop.coe_le_coe.mpr begun) (settled.first_le_iff.mpr room)
      have ended : pool.start submitted + runtime ≤ ((turn + limit : ℕ) : Moment) :=
        add_le_add started short
      refine ⟨iff_of_true ended room, fun _ => ?_⟩
      obtain ⟨finish, ends⟩ := WithTop.ne_top_iff_exists.mp
        (ended.trans_lt (WithTop.coe_lt_top _)).ne
      have finite : runtime ≠ ⊤ := (short.trans_lt (WithTop.coe_lt_top limit)).ne
      rw [nextTurn, if_neg Bool.false_ne_true, settled.held_submit, if_pos room]
      constructor
      · apply others (le_max_left _ _) (.inl _)
        rw [← ends]
        exact WithTop.coe_le_coe.mpr (le_max_right _ _)
      · rw [← ends, if_neg WithTop.coe_ne_top, List.count_singleton, beq_false_of_ne finite]
        simp only [Bool.false_eq_true, ↓reduceIte]
        omega
    · have never : pool.start submitted + runtime = ⊤ := by
        rw [start, settled.first_eq_top_iff.mpr (not_lt.mp room), max_top_right, WithTop.top_add]
      refine ⟨iff_of_false (fun ended => ?_) room, fun roomy => absurd roomy room⟩
      rw [never, top_le_iff] at ended
      exact WithTop.coe_ne_top ended
  · have long : (limit : Moment) < ⊤ := WithTop.coe_lt_top limit
    have never : pool.start submitted + ⊤ = ⊤ := WithTop.add_top _
    refine ⟨iff_of_true ?_ fun short => absurd long (not_lt_of_ge short), fun _ => ⟨?_, ?_⟩⟩
    · rw [never, decide_eq_true long]
      exact decide_eq_true (WithTop.coe_lt_top _)
    · rw [decide_eq_true long, nextTurn, if_pos rfl]
      exact others (Nat.le_add_right turn limit) (.inr never)
    · rw [settled.held_submit, if_pos never, List.count_singleton_self]
      split <;> omega

/-- **With tasks that run within the limit or for ever**, the collector judges every
task by its own running time if and only if a worker that is not held for good is left
to each one that runs within the limit. -/
theorem collect_eq_iff (settled : pool.Settled turn) (begun : submitted ≤ turn)
    {runtimes : List Moment}
    (each : ∀ runtime ∈ runtimes, runtime ≤ (limit : Moment) ∨ runtime = ⊤) :
    collect limit turn (pool.finishes submitted runtimes) =
        runtimes.map (fun runtime => decide ((limit : Moment) < runtime)) ↔
      ∀ (earlier : List Moment) (runtime : Moment) (later : List Moment),
        runtimes = earlier ++ runtime :: later → runtime ≤ (limit : Moment) →
          pool.held + earlier.count ⊤ < pool.workers := by
  induction runtimes generalizing pool turn with
  | nil => exact iff_of_true rfl fun _ _ _ split => absurd split (by simp)
  | cons runtime rest ih =>
      rw [List.forall_mem_cons] at each
      obtain ⟨judged, next⟩ := settled.step begun each.1
      rw [forall_split_cons (fun earlier runtime =>
          runtime ≤ (limit : Moment) → pool.held + earlier.count ⊤ < pool.workers),
        List.count_nil, Nat.add_zero, finishes, List.map_cons, collect, List.cons_eq_cons, judged]
      refine and_congr_right fun room => ?_
      obtain ⟨after, hung⟩ := next room
      rw [judged.mpr room, ih after (begun.trans (le_nextTurn ..)) each.2]
      refine forall₄_congr fun earlier own later _ => imp_congr_right fun _ => ?_
      rw [hung, workers_submit, ← List.singleton_append (l := earlier), List.count_append]
      omega

/-- After tasks so judged the workers are again idle or held for good. -/
theorem after (settled : pool.Settled turn) (begun : submitted ≤ turn) {runtimes : List Moment}
    (each : ∀ runtime ∈ runtimes, runtime ≤ (limit : Moment) ∨ runtime = ⊤)
    (judged : collect limit turn (pool.finishes submitted runtimes) =
      runtimes.map fun runtime => decide ((limit : Moment) < runtime)) :
    (pool.submitAll submitted runtimes).Settled
        (collected limit turn (pool.finishes submitted runtimes)) ∧
      (pool.submitAll submitted runtimes).held =
        min pool.workers (pool.held + runtimes.count ⊤) := by
  induction runtimes generalizing pool turn with
  | nil => exact ⟨settled, (min_eq_right pool.held_le_workers).symm⟩
  | cons runtime rest ih =>
      rw [List.forall_mem_cons] at each
      obtain ⟨own, later⟩ := List.cons_eq_cons.mp judged
      obtain ⟨own_iff, next⟩ := settled.step begun each.1
      obtain ⟨after, hung⟩ := next (own_iff.mp own)
      dsimp only at own
      rw [← own] at after
      obtain ⟨idle, all⟩ := ih after (begun.trans (le_nextTurn ..)) each.2 later
      refine ⟨idle, all.trans ?_⟩
      rw [hung, workers_submit, ← List.singleton_append (l := rest), List.count_append]
      omega

end Settled

end Pool

end Foundation.WorkerPool
