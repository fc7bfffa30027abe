import BiothingsPulse.Checker.Parity
import Mathlib.Data.List.Basic

/-!
# Opening and closing a load

What a load puts on `sys.path` it takes off again. Its purge gets rid of all modules
of the checkout as long as it visits no namespace package whose parent is gone
(`Orderly`): the path of such a package cannot be read any more.
-/

namespace BiothingsPulse

open Foundation Interp

section SysPath

/-- The entries that are new on a search path, in the order they are put there. -/
def newEntries (path : List PyPath) : List PyPath → List PyPath
  | [] => []
  | entry :: rest =>
      if entry ∈ path then newEntries path rest else entry :: newEntries (entry :: path) rest

/-- New entries are among those that were asked for. -/
theorem newEntries_subset {path entries : List PyPath} : newEntries path entries ⊆ entries := by
  induction entries generalizing path with
  | nil => exact List.Subset.refl _
  | cons entry rest ih =>
      unfold newEntries
      split
      · exact List.subset_cons_of_subset entry ih
      · exact List.cons_subset_cons entry ih

/-- Putting entries on `sys.path` puts the new ones in front, the last one first. -/
theorem insertPath_eq (entries : List PyPath) (state : Interp) :
    insertPath entries state = (newEntries state.path entries,
      { state with path := (newEntries state.path entries).reverse ++ state.path }) := by
  suffices general : ∀ (added : List PyPath) (state : Interp),
      entries.foldl insertEntry (added, state) =
      (added ++ newEntries state.path entries,
        { state with path := (newEntries state.path entries).reverse ++ state.path }) by
    simpa [insertPath] using general [] state
  induction entries with
  | nil => simp [newEntries]
  | cons entry rest ih =>
      intro added state
      by_cases listed : entry ∈ state.path
      · simp only [List.foldl_cons, insertEntry, newEntries, if_pos listed]
        exact ih added state
      · simp only [List.foldl_cons, insertEntry, newEntries, if_neg listed, ih]
        simp

/-- What was put on a search path can be taken off again. -/
theorem newEntries_erased (path entries : List PyPath) :
    (newEntries path entries).foldl List.erase ((newEntries path entries).reverse ++ path) =
      path := by
  induction entries generalizing path with
  | nil => rfl
  | cons entry rest ih =>
      rw [newEntries]
      split
      · exact ih path
      · rw [← List.diff_eq_foldl, List.diff_cons_right, List.reverse_cons, List.append_assoc,
          List.diff_eq_foldl]
        simp [ih (entry :: path)]

end SysPath

section Under

variable {root place : PyPath}

/-- What lies under a directory has a text that begins with that of the directory. -/
theorem startsUnder_of_prefix (inside : root <+: place) : startsUnder root place = true := by
  obtain ⟨rest, rfl⟩ := inside
  rw [startsUnder, List.isPrefixOf_iff_prefix]
  cases root with
  | nil => cases rest <;> simp [pathText]
  | cons component components => simp [pathText, List.flatMap_append]

end Under

namespace Interp

variable (state : Interp)

/-- A cached module has a place that looks as if it lay under a root. -/
def Under (root : PyPath) (name : DottedName) : Prop :=
  ∃ origin ∈ state.modules.lookup name, origin.places.any (startsUnder root) = true

/-- The parent of every nested namespace package is cached, and if it is to be dropped, so
is the package, and before it. -/
def Orderly (root : PyPath) (names : List DottedName) : Prop :=
  (∀ name ∈ state.modules.keys, ∀ parent ∈ state.nestedIn name,
    (state.modules.lookup parent).isSome ∧
      (parent ∈ names → state.Under root parent → name ∈ names ∧ state.Under root name)) ∧
  names.Pairwise fun earlier later =>
    state.Under root earlier → state.nestedIn later ≠ some earlier

instance (root : PyPath) (name : DottedName) : Decidable (state.Under root name) :=
  inferInstanceAs (Decidable (∃ origin ∈ state.modules.lookup name, _))

instance (root : PyPath) (names : List DottedName) : Decidable (state.Orderly root names) :=
  inferInstanceAs (Decidable (_ ∧ _))

namespace Orderly

variable {state} {root : PyPath} {name parent : DottedName} {names : List DottedName}

private theorem parents (orderly : state.Orderly root names)
    (nested : state.nestedIn name = some parent) :
    (∃ above, state.modules.lookup parent = some above) ∧
      (parent ∈ names → state.Under root parent → name ∈ names ∧ state.Under root name) := by
  obtain ⟨last, stored, rfl, cached⟩ := nestedIn_eq_some.mp nested
  obtain ⟨present, dropped⟩ := orderly.1 _ (mem_keys.mpr ⟨_, cached⟩) parent nested
  exact ⟨Option.isSome_iff_exists.mp present, dropped⟩

/-- The path of every cached module can be read. -/
theorem readable (orderly : state.Orderly root names) (tree : FileTree) (name : DottedName)
    {origin : Origin} (cached : state.modules.lookup name = some origin) :
    ∃ locations, state.pathOf tree name origin = .ok locations := by
  induction name generalizing origin with
  | top name => rcases origin with ⟨_ | file, _ | stored⟩ <;> exact ⟨_, rfl⟩
  | sub parent name ih =>
      rcases origin with ⟨_ | file, _ | stored⟩
      · exact ⟨[], rfl⟩
      · obtain ⟨⟨above, cachedAbove⟩, -⟩ :=
          orderly.parents (nestedIn_eq_some.mpr ⟨name, stored, rfl, cached⟩)
        obtain ⟨locations, read⟩ := ih cachedAbove
        simp [Interp.pathOf, cachedAbove, read, Except.map]
      · exact ⟨[], rfl⟩
      · exact ⟨stored, rfl⟩

/-- A name that stays has been visited. -/
theorem rest (orderly : state.Orderly root (name :: names)) (stays : ¬state.Under root name) :
    state.Orderly root names := by
  refine ⟨?_, orderly.2.of_cons⟩
  intro other known parent nested
  obtain ⟨present, dropped⟩ := orderly.1 other known parent nested
  refine ⟨present, fun member under => ?_⟩
  obtain ⟨later, underOther⟩ := dropped (List.mem_cons_of_mem name member) under
  rcases List.mem_cons.mp later with rfl | later
  · exact absurd underOther stays
  · exact ⟨later, underOther⟩

private theorem under_pop {popped : DottedName} (under : (state.pop popped).Under root name) :
    name ≠ popped ∧ state.Under root name := by
  obtain ⟨origin, cached, any⟩ := under
  obtain ⟨differs, cachedBefore⟩ := lookup_pop_eq_some.mp cached
  exact ⟨differs, origin, cachedBefore, any⟩

/-- A name that is to be dropped has been dropped. -/
theorem popped (orderly : state.Orderly root (name :: names)) (under : state.Under root name) :
    (state.pop name).Orderly root names := by
  obtain ⟨before, after⟩ := List.pairwise_cons.mp orderly.2
  constructor
  · intro other _ parent nested
    obtain ⟨differs, nestedBefore⟩ := nestedIn_pop nested
    obtain ⟨⟨above, cached⟩, dropped⟩ := orderly.parents nestedBefore
    have remains : parent ≠ name := by
      rintro rfl
      rcases List.mem_cons.mp (dropped List.mem_cons_self under).1 with same | later
      · exact differs same
      · exact before other later under nestedBefore
    refine ⟨by rw [lookup_pop, if_neg remains, cached]; rfl, fun member parentUnder => ?_⟩
    obtain ⟨later, origin, cachedOther, any⟩ :=
      dropped (List.mem_cons_of_mem name member) (under_pop parentUnder).2
    rcases List.mem_cons.mp later with same | later
    · exact absurd same differs
    · refine ⟨later, origin, ?_, any⟩
      rw [Option.mem_def, lookup_pop, if_neg differs]
      exact cachedOther
  · apply after.imp
    intro earlier later steady underEarlier nested
    exact steady (under_pop underEarlier).2 (nestedIn_pop nested).2

end Orderly

end Interp

namespace Deployment

instance (deployment : Deployment) (head : Component) : Decidable (deployment.Foreign head) :=
  inferInstanceAs (Decidable (_ = none))

/-- An interpreter whose modules of the checkout are all still to be visited. -/
structure Purging (deployment : Deployment) (root : PyPath) (names : List DottedName)
    (state : Interp) : Prop where
  sound : deployment.Sound root state
  visits : ∀ name origin, deployment.Foreign name.head →
    state.modules.lookup name = some origin → name ∈ names
  orderly : state.Orderly root names

namespace Purging

variable {deployment : Deployment} {root : PyPath} {name : DottedName} {names : List DottedName}
  {state : Interp} {origin : Origin}

private theorem under_foreign (sound : deployment.Sound root state)
    (foreign : deployment.Foreign name.head) (cached : state.modules.lookup name = some origin) :
    state.Under root name := by
  obtain ⟨place, member, inside⟩ := (sound.located.modules name origin foreign cached).place
  exact ⟨origin, cached, List.any_eq_true.mpr ⟨place, member, startsUnder_of_prefix inside⟩⟩

/-- A visit drops exactly the modules that have a place under the root. -/
theorem purgeOne_eq (purging : deployment.Purging root (name :: names) state) :
    purgeOne deployment.tree root name state =
      (.ok (), if state.Under root name then state.pop name else state) := by
  cases cached : state.modules.lookup name with
  | none =>
      have stays : ¬state.Under root name := by
        rintro ⟨origin, present, -⟩
        rw [cached] at present
        cases present
      rw [if_neg stays]
      simp [purgeOne, cached]
  | some origin =>
      obtain ⟨locations, read⟩ := purging.orderly.readable deployment.tree name cached
      have same : state.Under root name ↔
          (locations ++ origin.file.toList).any (startsUnder root) = true := by
        by_cases foreign : deployment.Foreign name.head
        · have within := purging.sound.located.pathOf foreign
            (purging.sound.located.modules name origin foreign cached) read
          obtain ⟨place, member, inside⟩ := within.place
          exact iff_of_true (under_foreign purging.sound foreign cached)
            (List.any_eq_true.mpr ⟨place, member, startsUnder_of_prefix inside⟩)
        · have ok := purging.sound.environment name origin foreign cached
          rw [purging.sound.pathOf_provided foreign ok cached] at read
          cases read
          simp only [Under, cached, Option.mem_def, Option.some.injEq, exists_eq_left']
          rfl
      by_cases under : state.Under root name
      · simp [purgeOne, cached, read, under, same.mp under]
      · have outside := mt same.mpr under
        simp only [purgeOne, cached, read, if_neg under, if_neg outside]

private theorem visited (purging : deployment.Purging root (name :: names) state) :
    deployment.Purging root names (if state.Under root name then state.pop name else state) := by
  by_cases under : state.Under root name
  · rw [if_pos under]
    have orderly := purging.orderly.popped under
    refine ⟨⟨purging.sound.located.pop name, purging.sound.path, ?_, ?_⟩, ?_, orderly⟩
    · intro other origin provided cached
      exact purging.sound.environment other origin provided (lookup_pop_eq_some.mp cached).2
    · intro other parent _ nested
      exact (orderly.parents nested).1
    · intro other origin foreign cached
      obtain ⟨differs, cachedBefore⟩ := lookup_pop_eq_some.mp cached
      rcases List.mem_cons.mp (purging.visits other origin foreign cachedBefore) with same | later
      · exact absurd same differs
      · exact later
  · rw [if_neg under]
    refine ⟨purging.sound, ?_, purging.orderly.rest under⟩
    intro other origin foreign cached
    rcases List.mem_cons.mp (purging.visits other origin foreign cached) with rfl | later
    · exact absurd (under_foreign purging.sound foreign cached) under
    · exact later

/-- An orderly purge succeeds and leaves nothing of the checkout behind. -/
theorem clears (purging : deployment.Purging root names state) :
    ∃ after, Loop.forEach (purgeOne deployment.tree root) names state = (.ok (), after) ∧
      after.path = state.path ∧ deployment.Sound root after ∧
      ∀ name, deployment.Foreign name.head → after.modules.lookup name = none := by
  induction names generalizing state with
  | nil =>
      refine ⟨state, rfl, rfl, purging.sound, ?_⟩
      intro name foreign
      cases cached : state.modules.lookup name with
      | none => rfl
      | some origin => exact absurd (purging.visits name origin foreign cached) List.not_mem_nil
  | cons name names ih =>
      rw [Loop.forEach_cons_of_ok purging.purgeOne_eq]
      obtain ⟨after, ran, path, others⟩ := ih purging.visited
      refine ⟨after, ran, path.trans ?_, others⟩
      split <;> rfl

end Purging

end Deployment

end BiothingsPulse
