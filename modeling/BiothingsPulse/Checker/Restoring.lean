import BiothingsPulse.Checker.History

/-!
# What a load leaves behind

Plugin code only imports, so whatever it does, the search path stays as it is and no module
that was cached goes. What a load puts on the path it takes off again, on every exit. Of what
it has imported, its purge drops the modules with a location whose text begins with that of
the checkout, up to the first one whose path cannot be read.
-/

namespace BiothingsPulse

open Foundation Interp

namespace Interp

/-- The search path is the same, and the cached modules are still there. -/
structure Kept (before after : Interp) : Prop where
  path : after.path = before.path
  modules : ∀ name origin, before.modules.lookup name = some origin →
    after.modules.lookup name = some origin

namespace Kept

variable {before middle after : Interp} {name : DottedName}

private theorem refl (state : Interp) : state.Kept state := ⟨rfl, fun _ _ cached => cached⟩

private theorem trans (earlier : before.Kept middle) (later : middle.Kept after) :
    before.Kept after where
  path := later.path.trans earlier.path
  modules := fun name origin cached =>
    later.modules name origin (earlier.modules name origin cached)

private theorem note (kept : before.Kept after) (name : DottedName) (result : Except PyExc Origin) :
    before.Kept (after.note name result) := ⟨kept.path, kept.modules⟩

private theorem ne_of_cached (missing : before.modules.lookup name = none) {other : DottedName}
    {origin : Origin} (cached : before.modules.lookup other = some origin) : other ≠ name := by
  rintro rfl
  rw [missing] at cached
  cases cached

/-- A module that was not cached may be registered. -/
theorem register (kept : before.Kept after) (missing : before.modules.lookup name = none)
    (origin : Origin) : before.Kept (after.register name origin) where
  path := kept.path
  modules := by
    intro other found cached
    rw [lookup_register, if_neg (ne_of_cached missing cached)]
    exact kept.modules other found cached

/-- And it may be withdrawn. -/
theorem pop (kept : before.Kept after) (missing : before.modules.lookup name = none) :
    before.Kept (after.pop name) where
  path := kept.path
  modules := by
    intro other found cached
    rw [lookup_pop, if_neg (ne_of_cached missing cached)]
    exact kept.modules other found cached

end Kept

section Code

variable {tree : FileTree} {exec : PyPath → Interp → Except PyExc Unit × Interp}
  (executing : ∀ (file : PyPath) (state : Interp), state.Kept (exec file state).2)

include executing

private theorem load_kept {name : DottedName} {state : Interp}
    (missing : state.modules.lookup name = none) (origin : Origin) :
    state.Kept (load exec name origin state).2 := by
  have registered := (Kept.refl state).register missing origin
  unfold load
  cases origin.file with
  | none => exact registered
  | some file =>
      have executed := registered.trans (executing file (state.register name origin))
      dsimp only
      split
      · next ran => rw [ran] at executed; exact executed
      · next ran => rw [ran] at executed; exact executed.pop missing

private theorem loadFrom_kept {name : DottedName} {state : Interp}
    (missing : state.modules.lookup name = none) (locations : List PyPath) (last : Component) :
    state.Kept (loadFrom tree exec locations name last state).2 := by
  unfold loadFrom
  cases tree.search locations last with
  | none => exact Kept.refl state
  | some origin => exact load_kept executing missing origin

variable (tree) in
/-- An import keeps what is cached, also where it fails. -/
theorem importName_kept (name : DottedName) (state : Interp) :
    state.Kept (importName tree exec name state).2 := by
  induction name generalizing state with
  | top name =>
      unfold importName
      cases cached : state.modules.lookup (.top name) with
      | some origin => exact Kept.refl state
      | none => exact loadFrom_kept executing cached _ _
  | sub parent name ih =>
      unfold importName
      cases cached : state.modules.lookup (.sub parent name) with
      | some origin => exact Kept.refl state
      | none =>
          have above := ih state
          rcases ran : importName tree exec parent state with ⟨exc | origin, middle⟩
          · rw [ran] at above
            exact above
          · rw [ran] at above
            dsimp only
            cases missing : middle.modules.lookup (.sub parent name) with
            | some origin => exact above
            | none =>
                dsimp only
                split
                · exact above
                · split
                  · exact above
                  · exact above.trans (loadFrom_kept executing missing _ _)

variable (tree) in
private theorem run_kept (code : Code) (state : Interp) : state.Kept
    (run tree exec code state).2 := by
  induction code generalizing state with
  | done => exact Kept.refl state
  | raise exc => exact Kept.refl state
  | imp name next ih =>
      have imported := importName_kept tree executing name state
      unfold run
      rcases ran : importName tree exec name state with ⟨result, middle⟩
      rw [ran] at imported
      exact (imported.note name result).trans (ih _ (middle.note name result))

end Code

/-- Executing a file keeps what is cached, however deep its imports nest. -/
theorem execFile_kept (tree : FileTree) (body : PyPath → FileBody) (limit : ℕ) (file : PyPath)
    (state : Interp) : state.Kept (execFile tree body limit file state).2 := by
  induction limit generalizing file state with
  | zero =>
      unfold execFile
      cases body file <;> exact Kept.refl state
  | succ limit ih =>
      unfold execFile
      cases body file with
      | environment outcome => exact Kept.refl state
      | plugin code => exact run_kept tree ih code state

end Interp

namespace Runtime

variable (runtime : Runtime)

private theorem exec_kept (file : PyPath) (state : Interp) : state.Kept
    (runtime.exec file state).2 :=
  execFile_kept runtime.tree runtime.body runtime.limit file state

private theorem importModule_kept (name : DottedName) (state : Interp) :
    state.Kept (runtime.importModule name state).2 := by
  have imported := importName_kept runtime.tree runtime.exec_kept name state
  unfold importModule
  rcases ran : importName runtime.tree runtime.exec name state with ⟨result, middle⟩
  rw [ran] at imported
  exact imported.note name result

private theorem importCustomClass_kept (manifest : Manifest) (state : Interp) :
    state.Kept (runtime.importCustomClass manifest state).2 := by
  unfold importCustomClass
  cases manifest.customClass with
  | none => exact Kept.refl state
  | some module => exact runtime.importModule_kept module state

private theorem releaseFunction_kept (module : DottedName) (funcname : String)
    (imported : Except PyExc Origin) (state : Interp) :
    state.Kept (runtime.releaseFunction module funcname imported state).2 := by
  unfold releaseFunction
  cases imported with
  | error exc => exact Kept.refl state
  | ok origin =>
      dsimp only
      split <;> exact Kept.refl state

private theorem releaseAttempt_kept (ref : PluginRef) (module : DottedName) (funcname : String)
    (state : Interp) : state.Kept (runtime.releaseAttempt ref module funcname state).2 := by
  unfold releaseAttempt
  dsimp only
  split
  · exact (runtime.exec_kept _ state).trans (runtime.releaseFunction_kept module funcname _ _)
  · exact (runtime.importModule_kept module state).trans
      (runtime.releaseFunction_kept module funcname _ _)

private theorem instantiate_kept (klass : DumperClass) (state : Interp) :
    state.Kept (runtime.instantiate klass state).2 := by
  have ran := run_kept runtime.tree runtime.exec_kept klass.init state
  unfold instantiate runCode
  rcases made : Interp.run runtime.tree runtime.exec klass.init state with ⟨exc | done, middle⟩
  · rw [made] at ran
    dsimp only
    split <;> exact ran
  · rw [made] at ran
    exact ran

private theorem submoduleClasses_kept (dotted : DottedName) (definedIn : String → Bool)
    (names : List Component) (state : Interp) :
    state.Kept (runtime.submoduleClasses dotted definedIn names state).2 := by
  induction names generalizing state with
  | nil => exact Kept.refl state
  | cons name rest ih =>
      have imported := runtime.importModule_kept (.sub dotted name) state
      unfold submoduleClasses
      rcases ran : runtime.importModule (.sub dotted name) state with ⟨exc | origin, middle⟩
      · rw [ran] at imported
        dsimp only
        split
        · exact imported.trans (ih middle)
        · exact imported
      · rw [ran] at imported
        exact imported.trans (ih middle)

private theorem loadPackage_kept (dotted : DottedName) (state : Interp) :
    state.Kept (runtime.loadPackage dotted state).2 := by
  have imported := runtime.importModule_kept dotted state
  unfold loadPackage
  rcases ran : runtime.importModule dotted state with ⟨exc | origin, middle⟩
  · rw [ran] at imported
    dsimp only
    split <;> exact imported
  · rw [ran] at imported
    have scanned := runtime.submoduleClasses_kept dotted
      (fun module => dotted.text.toList.isPrefixOf module.toList) dumperSubmodules middle
    dsimp only
    rcases found : runtime.submoduleClasses dotted
      (fun module => dotted.text.toList.isPrefixOf module.toList) dumperSubmodules middle with
      ⟨exc | others, later⟩
    · rw [found] at scanned
      exact imported.trans scanned
    · rw [found] at scanned
      dsimp only
      split
      · exact imported.trans scanned
      · exact (imported.trans scanned).trans (runtime.instantiate_kept _ later)

/-- Loading a dumper by file keeps what was cached before the load, which none of its own
module names was. -/
theorem loadDumperByFile_kept {before : Interp} {modulePrefix : String} {stems : List String}
    (fresh : ∀ stem ∈ stems, before.modules.lookup (fileModule modulePrefix stem) = none)
    (sourceDir : PyPath) {state : Interp} (kept : before.Kept state) :
    before.Kept (runtime.loadDumperByFile sourceDir modulePrefix stems state).2 := by
  induction stems generalizing state with
  | nil => exact kept
  | cons stem rest ih =>
      rw [List.forall_mem_cons] at fresh
      have registered := kept.register fresh.1 ⟨some (sourceDir ++ [stem ++ ".py"]), none⟩
      have executed := registered.trans (runtime.exec_kept (sourceDir ++ [stem ++ ".py"]) _)
      unfold loadDumperByFile
      dsimp only
      split
      · next ran =>
          rw [ran] at executed
          split
          · exact ih fresh.2 (executed.pop fresh.1)
          · exact executed
      · next ran =>
          rw [ran] at executed
          split
          · exact ih fresh.2 executed
          · exact executed.trans (runtime.instantiate_kept _ _)

private theorem advancedAttempt_kept {before : Interp} {sourceDir : PyPath} {dotted : DottedName}
    (fresh : ∀ stem ∈ runtime.candidates sourceDir,
      before.modules.lookup (fileModule (modulePrefix dotted) stem) = none)
    {state : Interp} (kept : before.Kept state) :
    before.Kept (runtime.advancedAttempt sourceDir dotted state).2 := by
  have loaded := runtime.loadDumperByFile_kept fresh sourceDir kept
  unfold advancedAttempt
  split
  · next ran => rw [ran] at loaded; exact loaded
  · next ran => rw [ran] at loaded; exact loaded
  · next ran =>
      rw [ran] at loaded
      exact loaded.trans (runtime.loadPackage_kept dotted _)

end Runtime

namespace Interp

section Visits

variable (tree : FileTree)

/-- The locations of a module: the entries of its `__path__` as they read, or as they were
stored if they cannot be read, and its `__file__`. -/
def locationsOf (state : Interp) (name : DottedName) (origin : Origin) : List PyPath :=
  (state.pathOf tree name origin).toOption.getD (origin.locations.getD []) ++ origin.file.toList

/-- Whether a cached module has a location that passes a test. -/
def hasLocation (test : PyPath → Bool) (state : Interp) (name : DottedName) : Bool :=
  match state.modules.lookup name with
  | none => false
  | some origin => (state.locationsOf tree name origin).any test

/-- Whether the path of a module, if it is cached, can be read. -/
def isReadable (state : Interp) (name : DottedName) : Bool :=
  match state.modules.lookup name with
  | none => true
  | some origin => (state.pathOf tree name origin).isOk

variable (root : PyPath)

/-- What a visit that can read the path leaves. -/
def visit (name : DottedName) (state : Interp) : Interp :=
  if state.hasLocation tree (startsUnder root) name then state.pop name else state

/-- The modules that a purge visits before it comes to a path that cannot be read. -/
def visited : List DottedName → Interp → List DottedName
  | [], _ => []
  | name :: rest, state =>
      if state.isReadable tree name then name :: visited rest (state.visit tree root name) else []

variable {tree root} {name popped : DottedName} {state : Interp}

private theorem isReadable_of_lookup {origin : Origin}
    (cached : state.modules.lookup name = some origin) :
    state.isReadable tree name = (state.pathOf tree name origin).isOk := by
  rw [isReadable, cached]

private theorem hasLocation_of_lookup {test : PyPath → Bool} {origin : Origin}
    {locations : List PyPath} (cached : state.modules.lookup name = some origin)
    (read : state.pathOf tree name origin = .ok locations) :
    state.hasLocation tree test name = (locations ++ origin.file.toList).any test := by
  rw [hasLocation, cached]
  dsimp only [locationsOf]
  rw [read]
  rfl

private theorem hasLocation_of_none {test : PyPath → Bool}
    (missing : state.modules.lookup name = none) : state.hasLocation tree test name = false := by
  rw [hasLocation, missing]

/-- What has a location inside a directory has one that looks so. -/
theorem hasLocation_looks (inside : state.hasLocation tree root.isPrefixOf name = true) :
    state.hasLocation tree (startsUnder root) name = true := by
  unfold hasLocation at inside ⊢
  cases cached : state.modules.lookup name with
  | none => rw [cached] at inside; cases inside
  | some origin =>
      rw [cached] at inside
      obtain ⟨place, listed, pre⟩ := List.any_eq_true.mp inside
      exact List.any_eq_true.mpr
        ⟨place, listed, startsUnder_of_prefix (List.isPrefixOf_iff_prefix.mp pre)⟩

/-- What can be read without a module reads the same with it. -/
theorem pathOf_of_pop {origin : Origin} {locations : List PyPath}
    (read : (state.pop popped).pathOf tree name origin = .ok locations) :
    state.pathOf tree name origin = .ok locations := by
  induction name generalizing origin locations with
  | top name => rcases origin with ⟨_ | file, _ | stored⟩ <;> exact read
  | sub parent name ih =>
      rcases origin with ⟨_ | file, _ | stored⟩
      · exact read
      · simp only [Interp.pathOf] at read ⊢
        cases cached : (state.pop popped).modules.lookup parent with
        | none => rw [cached] at read; cases read
        | some above =>
            rw [cached] at read
            rw [(lookup_pop_eq_some.mp cached).2]
            dsimp only at read ⊢
            cases found : (state.pop popped).pathOf tree parent above with
            | error exc => rw [found] at read; cases read
            | ok others =>
                rw [found] at read
                rw [ih found]
                exact read
      · exact read
      · exact read

private theorem purgeOne_eq_ok (readable : state.isReadable tree name = true) :
    purgeOne tree root name state = (.ok (), state.visit tree root name) := by
  cases cached : state.modules.lookup name with
  | none =>
      rw [visit, hasLocation_of_none cached, if_neg Bool.false_ne_true]
      simp only [purgeOne, cached]
  | some origin =>
      rw [isReadable_of_lookup cached] at readable
      cases read : state.pathOf tree name origin with
      | error exc => rw [read] at readable; cases readable
      | ok locations =>
          rw [visit, hasLocation_of_lookup cached read]
          simp only [purgeOne, cached, read]
          split <;> rfl

variable (root) in
private theorem purgeOne_eq_error (unreadable : state.isReadable tree name = false) :
    ∃ exc, purgeOne tree root name state = (.error exc, state) := by
  cases cached : state.modules.lookup name with
  | none =>
      rw [isReadable, cached] at unreadable
      cases unreadable
  | some origin =>
      rw [isReadable_of_lookup cached] at unreadable
      cases read : state.pathOf tree name origin with
      | error exc => exact ⟨exc, by simp only [purgeOne, cached, read]⟩
      | ok locations => rw [read] at unreadable; cases unreadable

variable (state tree root) in
/-- What a visit leaves of other modules: they are as they were, and a path that still reads
reads as it did. -/
theorem visit_frame {other : DottedName} (differs : other ≠ name) :
    (state.visit tree root name).modules.lookup other = state.modules.lookup other ∧
      ((state.visit tree root name).isReadable tree other = true →
        state.isReadable tree other = true ∧ ∀ test,
          (state.visit tree root name).hasLocation tree test other =
            state.hasLocation tree test other) := by
  unfold visit
  split
  · have same : (state.pop name).modules.lookup other = state.modules.lookup other := by
      rw [lookup_pop, if_neg differs]
    refine ⟨same, fun readable => ?_⟩
    cases cached : state.modules.lookup other with
    | none =>
        refine ⟨by rw [isReadable, cached], fun test => ?_⟩
        rw [hasLocation_of_none cached, hasLocation_of_none (same.trans cached)]
    | some origin =>
        have still := same.trans cached
        rw [isReadable_of_lookup still] at readable
        cases read : (state.pop name).pathOf tree other origin with
        | error exc => rw [read] at readable; cases readable
        | ok locations =>
            have before := pathOf_of_pop read
            refine ⟨by rw [isReadable_of_lookup cached, before]; rfl, fun test => ?_⟩
            rw [hasLocation_of_lookup cached before, hasLocation_of_lookup still read]
  · exact ⟨rfl, fun readable => ⟨readable, fun _ => rfl⟩⟩

/-- What is visited can be read. -/
theorem isReadable_of_visited {names : List DottedName} {state : Interp}
    (member : name ∈ visited tree root names state) : state.isReadable tree name = true := by
  induction names generalizing state with
  | nil => cases member
  | cons first rest ih =>
      rw [visited] at member
      split at member
      · next readable =>
          by_cases same : name = first
          · exact same ▸ readable
          · have later := ih ((List.mem_cons.mp member).resolve_left same)
            exact ((state.visit_frame tree root same).2 later).1
      · cases member

private theorem visited_subset {names : List DottedName} {state : Interp} :
    visited tree root names state ⊆ names := by
  induction names generalizing state with
  | nil => exact List.Subset.refl _
  | cons first rest ih =>
      unfold visited
      split
      · exact List.cons_subset_cons first ih
      · exact List.nil_subset _

variable (tree root) in
/-- A purge drops what looks as if it lay under the root, among what it visits. -/
theorem forEach_purgeOne (names : List DottedName) (state : Interp) :
    (Loop.forEach (purgeOne tree root) names state).2.path = state.path ∧
      ∀ name, (Loop.forEach (purgeOne tree root) names state).2.modules.lookup name =
        if name ∈ visited tree root names state ∧
            state.hasLocation tree (startsUnder root) name = true then none
        else state.modules.lookup name := by
  induction names generalizing state with
  | nil => exact ⟨rfl, fun name => by simp [Loop.forEach, visited]⟩
  | cons first rest ih =>
      cases readable : state.isReadable tree first with
      | false =>
          obtain ⟨exc, ran⟩ := purgeOne_eq_error root readable
          rw [Loop.forEach_cons_of_error ran, visited, if_neg (Bool.eq_false_iff.mp readable)]
          exact ⟨rfl, fun name => (if_neg fun both => List.not_mem_nil both.1).symm⟩
      | true =>
          rw [Loop.forEach_cons_of_ok (purgeOne_eq_ok readable), visited, if_pos readable]
          obtain ⟨path, modules⟩ := ih (state.visit tree root first)
          refine ⟨path.trans ?_, fun name => ?_⟩
          · unfold visit
            split <;> rfl
          · rw [modules name]
            by_cases same : name = first
            · subst same
              by_cases looks : state.hasLocation tree (startsUnder root) name = true
              · have gone : (state.visit tree root name).modules.lookup name = none := by
                  rw [visit, if_pos looks, lookup_pop, if_pos rfl]
                rw [gone, ite_self, if_pos ⟨List.mem_cons_self, looks⟩]
              · have stays : state.visit tree root name = state := if_neg looks
                rw [stays, if_neg fun both => looks both.2, if_neg fun both => looks both.2]
            · obtain ⟨cached, frame⟩ := state.visit_frame tree root same
              rw [cached]
              refine if_congr ?_ rfl rfl
              rw [List.mem_cons, or_iff_right same]
              refine and_congr_right fun member => ?_
              rw [(frame (isReadable_of_visited member)).2]

end Visits

end Interp

/-- **The interpreter after a load is as it should be**: it has the search path and the modules
that it had before, and of the modules that the load has imported the new ones that have no
location inside the checkout. -/
structure Restored (tree : FileTree) (root : PyPath) (before imported after : Interp) : Prop where
  path : after.path = before.path
  kept : ∀ name origin, before.modules.lookup name = some origin →
    after.modules.lookup name = some origin
  new : ∀ name, before.modules.lookup name = none → after.modules.lookup name =
    if imported.hasLocation tree root.isPrefixOf name = true then none
    else imported.modules.lookup name

/-- What a load does to the interpreter: it imports, and then drops some of the new modules. -/
structure Purged (tree : FileTree) (root : PyPath) (before imported : Interp)
    (visits : List DottedName) (after : Interp) : Prop where
  kept : before.Kept imported
  visits_new : ∀ name ∈ visits, before.modules.lookup name = none
  path : after.path = imported.path
  modules : ∀ name, after.modules.lookup name =
    if name ∈ visits ∧ imported.hasLocation tree (startsUnder root) name = true then none
    else imported.modules.lookup name

namespace Purged

variable {tree : FileTree} {root : PyPath} {before middle imported after : Interp}
  {visits : List DottedName}

private theorem of_kept (kept : before.Kept after) : Purged tree root before after [] after where
  kept := kept
  visits_new := fun _ member => absurd member List.not_mem_nil
  path := rfl
  modules := fun _ => (if_neg fun both => List.not_mem_nil both.1).symm

private theorem trans (earlier : before.Kept middle)
    (purged : Purged tree root middle imported visits after) :
    Purged tree root before imported visits after where
  kept := earlier.trans purged.kept
  visits_new := by
    intro name member
    cases cached : before.modules.lookup name with
    | none => rfl
    | some origin =>
        have missing := purged.visits_new name member
        rw [earlier.modules name origin cached] at missing
        cases missing
  path := purged.path
  modules := purged.modules

/-- When the interpreter is as it should be. -/
theorem restored_iff (purged : Purged tree root before imported visits after) :
    Restored tree root before imported after ↔
      (∀ name ∈ visits, imported.hasLocation tree (startsUnder root) name = true →
        imported.hasLocation tree root.isPrefixOf name = true) ∧
      ∀ name, before.modules.lookup name = none →
        imported.hasLocation tree root.isPrefixOf name = true → name ∈ visits := by
  constructor
  · intro restored
    constructor
    · intro name member looks
      have gone := restored.new name (purged.visits_new name member)
      rw [purged.modules name, if_pos ⟨member, looks⟩] at gone
      by_contra outside
      rw [if_neg outside] at gone
      rw [hasLocation_of_none gone.symm] at looks
      cases looks
    · intro name missing inside
      have gone := restored.new name missing
      rw [purged.modules name, if_pos inside] at gone
      by_contra unvisited
      rw [if_neg fun both => unvisited both.1] at gone
      rw [hasLocation_of_none gone] at inside
      cases inside
  · rintro ⟨sound, complete⟩
    refine ⟨purged.path.trans purged.kept.path, fun name origin cached => ?_,
      fun name missing => ?_⟩
    · have unvisited : name ∉ visits := by
        intro member
        rw [purged.visits_new name member] at cached
        cases cached
      rw [purged.modules name, if_neg fun both => unvisited both.1]
      exact purged.kept.modules name origin cached
    · rw [purged.modules name]
      by_cases inside : imported.hasLocation tree root.isPrefixOf name = true
      · rw [if_pos inside, if_pos ⟨complete name missing inside, hasLocation_looks inside⟩]
      · rw [if_neg inside, if_neg fun both => inside (sound name both.1 both.2)]

end Purged

namespace Runtime

variable (runtime : Runtime) (order : SetOrder)

section Entries

variable {runtime} {α : Type} {entries : List PyPath}
  {attempt : Interp → Except PyExc α × Interp} {state : Interp}

/-- Once its entries are off the search path again, an attempt that only imports has kept
what there was. -/
theorem closing_kept
    (kept : (insertPath entries state).2.Kept (attempt (insertPath entries state).2).2) :
    state.Kept (closing entries attempt state).2 := by
  rw [closing]
  rw [insertPath_eq] at kept ⊢
  refine ⟨?_, kept.modules⟩
  dsimp only [removePath]
  rw [kept.path]
  exact newEntries_erased state.path entries

private theorem withEntries_purged {root : PyPath}
    (kept : (insertPath entries state).2.Kept (attempt (insertPath entries state).2).2) :
    Purged runtime.tree root state (closing entries attempt state).2
      (visited runtime.tree root (order.order (newNames (closing entries attempt state).1
        (closing entries attempt state).2)) (closing entries attempt state).2)
      (runtime.withEntries order (some root) entries attempt state).2 := by
  have ended : (runtime.withEntries order (some root) entries attempt state).2 =
      (Loop.forEach (purgeOne runtime.tree root)
        (order.order (newNames (closing entries attempt state).1
          (closing entries attempt state).2)) (closing entries attempt state).2).2 := by
    unfold withEntries closing purgeNewRepoModules
    dsimp only
    split
    · next ran => rw [ran]
    · next ran => rw [ran]
  obtain ⟨path, modules⟩ := forEach_purgeOne runtime.tree root
    (order.order (newNames (closing entries attempt state).1 (closing entries attempt state).2))
    (closing entries attempt state).2
  rw [ended]
  refine ⟨closing_kept kept, fun name member => ?_, path, modules⟩
  have listed := (order.perm _).mem_iff.mp (visited_subset member)
  have fresh : name ∉ state.modules.keys := of_decide_eq_true (List.mem_filter.mp listed).2
  cases cached : state.modules.lookup name with
  | none => rfl
  | some origin => exact absurd (mem_keys.mpr ⟨origin, cached⟩) fresh

end Entries

/-- What a load has imported: the interpreter when its purge starts, or else when it ends. -/
def imported (ref : PluginRef) (state : Interp) : Interp :=
  match runtime.atPurge ref state with
  | some purge => purge.2
  | none => (runtime.loadDumper order ref state).2

/-- The modules that the purge of a load visits, if the load comes to one. -/
def purgeVisits (root : PyPath) (ref : PluginRef) (state : Interp) : List DottedName :=
  match runtime.atPurge ref state with
  | some purge => visited runtime.tree root (order.order (newNames purge.1 purge.2)) purge.2
  | none => []

/-- None of the names under which a load by file registers a module of the plugin is in use. -/
def OwnNamesFree (ref : PluginRef) (state : Interp) : Prop :=
  ref.pluginType = .advanced → ∀ entry dotted,
    packageRootAndModule runtime.tree ref.path = some (entry, some dotted) →
      ∀ stem ∈ runtime.candidates ref.path,
        state.modules.lookup (fileModule (modulePrefix dotted) stem) = none

section Purged

variable {runtime order} {root : PyPath} {ref : PluginRef} {state : Interp}

/-- A load that has imported and then makes an attempt and a purge. -/
theorem purged_of_withEntries {α : Type} {entries : List PyPath} {middle : Interp}
    {attempt : Interp → Except PyExc α × Interp} (checkout : ref.repoPath = some root)
    (comes : runtime.atPurge ref state = some (closing entries attempt middle))
    (ended : (runtime.loadDumper order ref state).2 =
      (runtime.withEntries order ref.repoPath entries attempt middle).2)
    (earlier : state.Kept middle)
    (kept : (insertPath entries middle).2.Kept (attempt (insertPath entries middle).2).2) :
    Purged runtime.tree root state (runtime.imported order ref state)
      (runtime.purgeVisits order root ref state) (runtime.loadDumper order ref state).2 := by
  simp only [imported, purgeVisits, comes]
  rw [ended, checkout]
  exact (withEntries_purged order kept).trans earlier

private theorem loadDumper_purged (checkout : ref.repoPath = some root)
    (free : runtime.OwnNamesFree ref state) :
    Purged runtime.tree root state (runtime.imported order ref state)
      (runtime.purgeVisits order root ref state) (runtime.loadDumper order ref state).2 := by
  obtain ⟨never, manifest, ended⟩ | ⟨-, manifest, module, funcname, comes, ended⟩ |
      ⟨kind, entry, dotted, located, comes, ended⟩ := runtime.loadDumper_cases order ref state
  · simp only [imported, purgeVisits, never]
    rw [ended]
    exact Purged.of_kept (runtime.importCustomClass_kept manifest state)
  · apply purged_of_withEntries checkout comes ended
    · exact runtime.importCustomClass_kept manifest state
    · exact runtime.releaseAttempt_kept ref module funcname _
  · apply purged_of_withEntries checkout comes ended (Kept.refl state)
    apply runtime.advancedAttempt_kept _ (Kept.refl _)
    rw [insertPath_eq]
    exact free kind entry dotted located

end Purged

end Runtime

/-! Two directories, the name of one of which begins with that of the other, and a release
module in each. -/

namespace Siblings

def files : List PyPath :=
  [["repos", "kg", "helper.py"], ["repos", "kg", "one", "manifest.json"],
    ["repos", "kg2", "shared.py"]]

def tree : FileTree where
  isFile path := path ∈ files
  isDir path := files.any fun file => path.isPrefixOf file && path ≠ file

/-- A runtime whose one manifest names a module of its own. -/
def runtime (release : DottedName) : Runtime where
  tree := tree
  entries _ := []
  body _ := .plugin .done
  limit := 1000
  hasAttr _ _ _ := true
  dumperClasses _ _ := []
  manifest _ := .ok { release := some (.ok (release, "get_release")) }

def ref : PluginRef where
  repo := "kg"
  name := "one"
  pluginType := .manifest
  path := ["repos", "kg", "one"]
  manifestPath := some ["repos", "kg", "one", "manifest.json"]
  repoPath := some ["repos", "kg"]
  extraSysPath := [["repos", "kg2"]]

def inOrder : SetOrder := ⟨id, List.Perm.refl⟩

def fresh : Interp := ⟨[], ∅, []⟩

def helper : DottedName := .named "helper".toList
def shared : DottedName := .named "shared".toList

private theorem ownNamesFree (release : DottedName) : (runtime release).OwnNamesFree ref fresh :=
  fun advanced => by cases advanced

end Siblings

end BiothingsPulse
