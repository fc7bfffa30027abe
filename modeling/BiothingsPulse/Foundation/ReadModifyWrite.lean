import BiothingsPulse.Foundation.Transition
import Mathlib.Logic.Function.Basic

/-!
# Interleaved read-modify-write calls

Each call reads one keyed record in one atomic step and later writes, in another
atomic step, the record it computed from what it read. Nothing ties the two
steps together, so calls on one key can interleave. A run in which every write
still finds the record its call had read leaves the store as if the calls had
run one after the other in the order of their writes.
-/

namespace Foundation.ReadModifyWrite

open Transition

variable {Call Key Record : Type}

/-- The record each call is about and what it computes from the record it read. -/
structure Calls (Call Key Record : Type) where
  key : Call → Key
  update : Call → Option Record → Record

/-- The progress of one call. -/
inductive Phase (Record : Type) where
  | idle
  | holding (read : Option Record)
  | done

def Phase.isDone : Phase Record → Bool
  | .done => true
  | _ => false

/-- A call that has not begun is not done. -/
@[simp] theorem Phase.isDone_idle : (Phase.idle : Phase Record).isDone = false := rfl

/-- A call that holds what it read is not done. -/
@[simp] theorem Phase.isDone_holding (read : Option Record) :
    (Phase.holding read).isDone = false := rfl

/-- A call that has put its record is done. -/
@[simp] theorem Phase.isDone_done : (Phase.done : Phase Record).isDone = true := rfl

structure State (Call Key Record : Type) where
  store : Key → Option Record
  phase : Call → Phase Record

/-- The two atomic store operations of a call. -/
inductive Op (Call : Type) where
  | get (call : Call)
  | put (call : Call)

/-- Calls that have not begun, over a given store. -/
def State.initial (store : Key → Option Record) : State Call Key Record :=
  { store := store, phase := fun _ => .idle }

/-- The calls that have put, in the order of their puts. -/
def putOrder (ops : List (Op Call)) : List Call :=
  ops.filterMap fun
    | .get _ => none
    | .put call => some call

/-- A get adds nothing to the order of the puts. -/
@[simp] theorem putOrder_get (ops : List (Op Call)) (call : Call) :
    putOrder (ops ++ [.get call]) = putOrder ops := by
  simp [putOrder]

/-- A put comes last in the order of the puts. -/
@[simp] theorem putOrder_put (ops : List (Op Call)) (call : Call) :
    putOrder (ops ++ [.put call]) = putOrder ops ++ [call] := by
  simp [putOrder]

variable [DecidableEq Call] [DecidableEq Key] (calls : Calls Call Key Record)

/-- One store operation: a call gets once, and afterwards puts once. -/
def step (state : State Call Key Record) : Op Call → Option (State Call Key Record)
  | .get call =>
      match state.phase call with
      | .idle => some { state with
          phase := Function.update state.phase call (.holding (state.store (calls.key call))) }
      | _ => none
  | .put call =>
      match state.phase call with
      | .holding read => some {
          store := Function.update state.store (calls.key call) (some (calls.update call read))
          phase := Function.update state.phase call .done }
      | _ => none

/-- One whole call without interruption. -/
def runAlone (store : Key → Option Record) (call : Call) : Key → Option Record :=
  Function.update store (calls.key call) (some (calls.update call (store (calls.key call))))

/-- The calls one after the other. -/
def serial (order : List Call) (store : Key → Option Record) : Key → Option Record :=
  order.foldl (runAlone calls) store

/-- The store is what the given calls leave when run one after the other in some order. -/
def Serializable (issued : List Call) (start final : Key → Option Record) : Prop :=
  ∃ order, order.Perm issued ∧ final = serial calls order start

/-- A put finds the record that its call read; a get is always fresh. -/
def Fresh (state : State Call Key Record) : Op Call → Prop
  | .get _ => True
  | .put call => ∀ read, state.phase call = .holding read → state.store (calls.key call) = read

instance [DecidableEq Record] (state : State Call Key Record) :
    ∀ op, Decidable (Fresh calls state op)
  | .get _ => .isTrue trivial
  | .put call =>
      match holding : state.phase call with
      | .holding read =>
          decidable_of_iff (state.store (calls.key call) = read) (by simp [Fresh, holding])
      | .idle => .isTrue (by simp [Fresh, holding])
      | .done => .isTrue (by simp [Fresh, holding])

omit [DecidableEq Call] in
private theorem serial_append (earlier : List Call) (last : Call) (store : Key → Option Record) :
    serial calls (earlier ++ [last]) store = runAlone calls (serial calls earlier store) last := by
  simp only [serial, List.foldl_append, List.foldl_cons, List.foldl_nil]

/-- **What one store operation does.** A get takes the stored record into an idle
call; a put finishes a call that holds a record and overwrites the stored one. -/
theorem step_cases {before after : State Call Key Record} {op : Op Call}
    (stepped : step calls before op = some after) :
    (∃ call, op = .get call ∧ (before.phase call).isDone = false ∧ after.store = before.store ∧
      after.phase = Function.update before.phase call
        (.holding (before.store (calls.key call)))) ∨
    (∃ call read, op = .put call ∧ before.phase call = .holding read ∧
      after.store = Function.update before.store (calls.key call) (some (calls.update call read)) ∧
      after.phase = Function.update before.phase call .done) := by
  cases op with
  | get call =>
      refine .inl ⟨call, rfl, ?_⟩
      simp only [step] at stepped
      split at stepped
      · rename_i idle
        obtain rfl := Option.some.inj stepped
        exact ⟨by rw [idle]; rfl, rfl, rfl⟩
      · cases stepped
  | put call =>
      simp only [step] at stepped
      split at stepped
      · rename_i read holding
        obtain rfl := Option.some.inj stepped
        exact .inr ⟨call, read, rfl, holding, rfl, rfl⟩
      · cases stepped

/-- The store is the serial one in the order of the puts, and the calls that have
put are exactly the finished ones, each once. -/
structure InPutOrder (start : Key → Option Record) (ops : List (Op Call))
    (state : State Call Key Record) : Prop where
  store : state.store = serial calls (putOrder ops) start
  done : ∀ call, call ∈ putOrder ops ↔ (state.phase call).isDone = true
  nodup : (putOrder ops).Nodup

omit [DecidableEq Call] in
private theorem inPutOrder_initial (start : Key → Option Record) :
    InPutOrder calls start [] (State.initial start) where
  store := rfl
  done := fun _ => by simp [putOrder, State.initial]
  nodup := List.nodup_nil

/-- A fresh operation keeps the store serial in the order of the puts. -/
theorem InPutOrder.step {start : Key → Option Record} {ops : List (Op Call)}
    {before after : State Call Key Record} {op : Op Call} (law : InPutOrder calls start ops before)
    (fresh : Fresh calls before op) (stepped : step calls before op = some after) :
    InPutOrder calls start (ops ++ [op]) after := by
  rcases step_cases calls stepped with
    ⟨call, rfl, unfinished, store, phase⟩ | ⟨call, read, rfl, holding, store, phase⟩
  · refine ⟨?_, ?_, ?_⟩
    · rw [putOrder_get, store, law.store]
    · intro other
      rw [putOrder_get, law.done, phase]
      by_cases same : other = call
      · subst same
        simp [unfinished]
      · rw [Function.update_of_ne same]
    · rw [putOrder_get]
      exact law.nodup
  · have found : before.store (calls.key call) = read := fresh read holding
    have unfinished : call ∉ putOrder ops := by
      rw [law.done, holding]
      simp
    refine ⟨?_, ?_, ?_⟩
    · rw [putOrder_put, serial_append, ← law.store, store, runAlone, found]
    · intro other
      rw [putOrder_put, List.mem_append, List.mem_singleton, law.done, phase]
      by_cases same : other = call
      · subst same
        simp
      · rw [Function.update_of_ne same]
        simp [same]
    · rw [putOrder_put, List.nodup_append]
      refine ⟨law.nodup, by simp, ?_⟩
      intro other member last isLast
      rw [List.mem_singleton] at isLast
      subst isLast
      exact fun same => unfinished (same ▸ member)

/-- **Fresh writes serialize.** In every state reached by a run whose puts all
find the record their call had read, the store is what the finished calls leave
when run one after the other in the order of their puts. -/
theorem inPutOrder_of_fresh {start : Key → Option Record} {ops : List (Op Call)}
    {final : State Call Key Record}
    (run : Run (Guarded (Fresh calls) (ofFun (step calls))) (.initial start) ops final) :
    InPutOrder calls start ops final :=
  run.traceInvariant (InPutOrder calls start) (inPutOrder_initial calls start)
    fun _ _ _ _ law stepped => law.step calls stepped.1 stepped.2

/-- A run of fresh writes that finished exactly the issued calls is serializable. -/
theorem serializable_of_fresh {start : Key → Option Record} {ops : List (Op Call)}
    {final : State Call Key Record} {issued : List Call} (distinct : issued.Nodup)
    (run : Run (Guarded (Fresh calls) (ofFun (step calls))) (.initial start) ops final)
    (finished : ∀ call, (final.phase call).isDone = true ↔ call ∈ issued) :
    Serializable calls issued start final.store := by
  have law := inPutOrder_of_fresh calls run
  refine ⟨putOrder ops, ?_, law.store⟩
  rw [List.perm_ext_iff_of_nodup law.nodup distinct]
  exact fun call => (law.done call).trans (finished call)

end Foundation.ReadModifyWrite
