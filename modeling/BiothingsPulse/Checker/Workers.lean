import BiothingsPulse.Checker.History
import Mathlib.Logic.Function.Basic

/-!
# Workers that share an interpreter

Worker threads take turns at loading, which they do under `_load_lock`, one step at
a time: put the import roots on `sys.path`, execute plugin code, take them off again,
purge. The check that follows runs without the lock. Plugin code imports in both
phases. An import is one step, and executing a file fails or succeeds at once: the
imports of its code are steps of their own.
-/

namespace BiothingsPulse

open Interp

/-- How far a load is. -/
inductive LoadPhase where
  | started
  /-- The modules known before, the entries added to `sys.path` and those still to be
  added; plugin code is executed when there are none. -/
  | opened (before : List DottedName) (added todo : List PyPath)
  | closing (before : List DottedName) (added : List PyPath)
  | purging (todo : List DottedName)
  /-- The purge has raised. -/
  | aborted

def LoadPhase.purges : LoadPhase → Bool
  | .purging _ => true
  | _ => false

/-- What the worker that loads does next. -/
inductive Move where
  /-- Begin with a release module, or with the source package. -/
  | enter (release : Option DottedName)
  | insert
  | register (stem : String)
  | withdraw (stem : String)
  | close
  | remove
  | collect (order : SetOrder)
  | visit

section Load

variable (tree : FileTree)

/-- The entries that a load puts on `sys.path`. -/
def loadEntries (ref : PluginRef) : Option DottedName → Option (List PyPath)
  | some release =>
      match ref.pluginType with
      | .manifest => some (releaseEntries tree ref release)
      | _ => none
  | none =>
      match ref.pluginType, packageRootAndModule tree ref.path with
      | .advanced, some (sysPathEntry, some _) => some (advancedEntries sysPathEntry ref)
      | _, _ => none

/-- The name under which a dumper module is loaded by its file. -/
def uniqueName (ref : PluginRef) (stem : String) : Option DottedName :=
  match packageRootAndModule tree ref.path with
  | some (_, some dotted) => some (Runtime.fileModule (Runtime.modulePrefix dotted) stem)
  | _ => none

variable {tree} in
def Checkout.move (plugin : Checkout tree) : Move → LoadPhase → Interp →
    Option (LoadPhase × Interp)
  | .enter release, .started, interp =>
      (loadEntries tree plugin.ref release).map fun entries =>
        (.opened interp.modules.keys [] entries, interp)
  | .insert, .opened before added (entry :: todo), interp =>
      if entry ∈ interp.path then some (.opened before added todo, interp)
      else some (.opened before (added ++ [entry]) todo,
        { interp with path := entry :: interp.path })
  | .register stem, .opened before added [], interp =>
      (uniqueName tree plugin.ref stem).map fun name =>
        (.opened before added [],
          interp.register name ⟨some (plugin.ref.path ++ [stem ++ ".py"]), none⟩)
  | .withdraw stem, .opened before added [], interp =>
      (uniqueName tree plugin.ref stem).map fun name =>
        (.opened before added [], interp.pop name)
  | .close, .opened before added [], interp => some (.closing before added, interp)
  | .remove, .closing before (entry :: added), interp =>
      some (.closing before added, { interp with path := interp.path.erase entry })
  | .collect order, .closing before [], interp =>
      some (.purging (order.order (newNames before interp)), interp)
  | .visit, .purging (name :: todo), interp =>
      match purgeOne tree plugin.root name interp with
      | (.ok _, interp) => some (.purging todo, interp)
      | (.error _, interp) => some (.aborted, interp)
  | _, _, _ => none

end Load

/-! The steps of a load come to what the loader does in one go. -/

namespace Checkout

variable {tree : FileTree} (plugin : Checkout tree)

def moves (moves : List Move) (start : LoadPhase × Interp) : Option (LoadPhase × Interp) :=
  moves.foldlM (fun state move => plugin.move move state.1 state.2) start

private theorem moves_cons {move : Move} {rest : List Move} {phase next : LoadPhase}
    {interp after : Interp} (moved : plugin.move move phase interp = some (next, after)) :
    plugin.moves (move :: rest) (phase, interp) = plugin.moves rest (next, after) := by
  simp [moves, moved]

/-- The entries are put on `sys.path` one by one. -/
theorem moves_insert (before : List DottedName) (todo : List PyPath) (interp : Interp) :
    plugin.moves (List.replicate todo.length .insert) (.opened before [] todo, interp) =
      some (.opened before (insertPath todo interp).1 [], (insertPath todo interp).2) := by
  suffices general : ∀ (added : List PyPath) (interp : Interp),
      plugin.moves (List.replicate todo.length .insert) (.opened before added todo, interp) =
        some (.opened before (added ++ newEntries interp.path todo) [],
          { interp with path := (newEntries interp.path todo).reverse ++ interp.path }) by
    rw [general, insertPath_eq, List.nil_append]
  induction todo with
  | nil => simp [moves, newEntries]
  | cons entry todo ih =>
      intro added interp
      rw [List.length_cons, List.replicate_succ]
      by_cases listed : entry ∈ interp.path
      · rw [plugin.moves_cons (by rw [Checkout.move, if_pos listed]), ih, newEntries,
          if_pos listed]
      · rw [plugin.moves_cons (by rw [Checkout.move, if_neg listed]), ih, newEntries,
          if_neg listed]
        simp

/-- They are taken off one by one. -/
theorem moves_remove (before : List DottedName) (added : List PyPath) (interp : Interp) :
    plugin.moves (List.replicate added.length .remove) (.closing before added, interp) =
      some (.closing before [], interp.removePath added) := by
  induction added generalizing interp with
  | nil => rfl
  | cons entry added ih =>
      rw [List.length_cons, List.replicate_succ, plugin.moves_cons rfl, ih]
      rfl

/-- The purge visits all names, or those up to the first that raises. -/
theorem moves_visit (names : List DottedName) (interp : Interp) :
    ∃ count ≤ names.length, plugin.moves (List.replicate count .visit) (.purging names, interp) =
      match Foundation.Loop.forEach (purgeOne tree plugin.root) names interp with
      | (.ok _, interp) => some (.purging [], interp)
      | (.error _, interp) => some (.aborted, interp) := by
  induction names generalizing interp with
  | nil => exact ⟨0, le_rfl, rfl⟩
  | cons name names ih =>
      rcases visited : purgeOne tree plugin.root name interp with ⟨_ | _, after⟩
      · refine ⟨1, by simp, ?_⟩
        rw [Foundation.Loop.forEach_cons_of_error visited]
        simp [moves, Checkout.move, visited]
      · obtain ⟨count, bound, ran⟩ := ih after
        have moved : plugin.move .visit (.purging (name :: names)) interp =
            some (.purging names, after) := by
          simp [Checkout.move, visited]
        refine ⟨count + 1, by simpa using bound, ?_⟩
        rw [Foundation.Loop.forEach_cons_of_ok visited, List.replicate_succ,
          plugin.moves_cons moved, ran]

end Checkout

/-- Execute a file at once, with the given outcome. -/
def Interp.atOnce (outcome : PyPath → Except PyExc Unit) (file : PyPath) (interp : Interp) :
    Except PyExc Unit × Interp :=
  (outcome file, interp)

/-- The load that holds `_load_lock`. -/
structure Holder (ι : Type) (tree : FileTree) where
  worker : ι
  plugin : Checkout tree
  phase : LoadPhase

/-- An import that plugin code has executed. -/
structure Executed (tree : FileTree) where
  plugin : Checkout tree
  name : DottedName
  result : Except PyExc Origin

structure Process (ι : Type) (tree : FileTree) where
  interp : Interp
  lock : Option (Holder ι tree)
  /-- The plugin that a worker is checking. -/
  checking : ι → Option (Checkout tree)
  log : List (Executed tree)

inductive Action (tree : FileTree) where
  | acquire (plugin : Checkout tree)
  | move (move : Move)
  | importing (name : DottedName) (outcome : PyPath → Except PyExc Unit)
  /-- Leave the lock, with a dumper to check or with an exception. -/
  | release (loaded : Bool)
  | finish

namespace Process

variable {ι : Type} [DecidableEq ι] {tree : FileTree}

/-- The plugin whose code a worker is executing. -/
def executing (state : Process ι tree) (worker : ι) : Option (Checkout tree) :=
  match state.lock with
  | none => state.checking worker
  | some holder =>
      if holder.worker = worker then
        match holder.phase with
        | .started | .opened _ _ [] => some holder.plugin
        | _ => none
      else state.checking worker

def imported (state : Process ι tree) (plugin : Checkout tree) (name : DottedName)
    (outcome : PyPath → Except PyExc Unit) : Process ι tree :=
  let (result, interp) := importName tree (atOnce outcome) name state.interp
  { state with interp := interp, log := state.log ++ [⟨plugin, name, result⟩] }

/-- The holder may leave before it has put anything on `sys.path` or after its purge;
it has no dumper when the purge raised. -/
def leaves (loaded : Bool) : LoadPhase → Bool
  | .started | .purging [] => true
  | .aborted => !loaded
  | _ => false

def next (state : Process ι tree) : ι × Action tree → Option (Process ι tree)
  | (worker, .acquire plugin) =>
      match state.lock, state.checking worker with
      | none, none => some { state with lock := some ⟨worker, plugin, .started⟩ }
      | _, _ => none
  | (worker, .move move) =>
      match state.lock with
      | none => none
      | some holder =>
          if holder.worker = worker then
            (holder.plugin.move move holder.phase state.interp).map fun (phase, interp) =>
              { state with interp := interp, lock := some { holder with phase := phase } }
          else none
  | (worker, .importing name outcome) =>
      (state.executing worker).map fun plugin => state.imported plugin name outcome
  | (worker, .release loaded) =>
      match state.lock with
      | none => none
      | some holder =>
          if holder.worker = worker ∧ leaves loaded holder.phase then
            some { state with
              lock := none
              checking := Function.update state.checking worker
                (if loaded then some holder.plugin else none) }
          else none
  | (worker, .finish) =>
      (state.checking worker).map fun _ =>
        { state with checking := Function.update state.checking worker none }

end Process

end BiothingsPulse
