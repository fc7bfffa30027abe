import BiothingsPulse.Checker.Imports
import BiothingsPulse.Foundation.Agreement

/-!
# Where imported modules lie

A search finds modules in the directories it goes through, so that what an
interpreter has cached lies inside given directories as long as everything it
can find does (`Located`), for the names with chosen first components alone. On
these names two interpreters that cannot be told apart by their search paths and
caches import alike (`Correspondence`).
-/

namespace BiothingsPulse

open Foundation.Agreement

def Inside (dirs : List PyPath) (place : PyPath) : Prop := ∃ dir ∈ dirs, dir <+: place

namespace Inside

variable {dirs : List PyPath} {place : PyPath}

private theorem append (inside : Inside dirs place) (rest : PyPath) : Inside dirs
    (place ++ rest) := by
  obtain ⟨dir, listed, pre⟩ := inside
  exact ⟨dir, listed, pre.trans (List.prefix_append _ _)⟩

private theorem mono {larger : List PyPath} (inside : Inside dirs place)
    (included : dirs ⊆ larger) : Inside larger place := by
  obtain ⟨dir, listed, pre⟩ := inside
  exact ⟨dir, included listed, pre⟩

end Inside

namespace Origin

/-- The places that `_purge_new_repo_modules` looks at. -/
def places (origin : Origin) : List PyPath := origin.locations.getD [] ++ origin.file.toList

structure Within (dirs : List PyPath) (origin : Origin) : Prop where
  some : origin.places ≠ []
  inside : ∀ place ∈ origin.places, Inside dirs place

private theorem Within.locations {dirs : List PyPath} {origin : Origin} {listed : List PyPath}
    (within : origin.Within dirs) (has : origin.locations = .some listed) :
    ∀ place ∈ listed, Inside dirs place := by
  intro place member
  apply within.inside
  simp [places, has, member]

/-- What lies in some directories lies in more of them. -/
theorem Within.mono {dirs larger : List PyPath} {origin : Origin} (within : origin.Within dirs)
    (included : dirs ⊆ larger) : origin.Within larger where
  some := within.some
  inside := fun place member => (within.inside place member).mono included

/-- A module that lies inside one directory has a place there. -/
theorem Within.place {root : PyPath} {origin : Origin} (within : origin.Within [root]) :
    ∃ place ∈ origin.places, root <+: place := by
  obtain ⟨place, member⟩ := List.exists_mem_of_ne_nil _ within.some
  obtain ⟨dir, listed, inside⟩ := within.inside place member
  rw [List.mem_singleton] at listed
  subst listed
  exact ⟨place, member, inside⟩

/-- A module that is one file lies where the file does. -/
theorem within_file {dirs : List PyPath} {file : PyPath} (inside : Inside dirs file) :
    (⟨some file, none⟩ : Origin).Within dirs where
  some := by simp [places]
  inside := by
    intro place member
    simp only [places, Option.getD_none, Option.toList_some, List.nil_append,
      List.mem_singleton] at member
    subst member
    exact inside

end Origin

namespace FileTree

variable {tree : FileTree} {path : List PyPath} {name : String}

private theorem find_loadable_within {dirs : List PyPath} {dir : PyPath} {origin : Origin}
    (inside : Inside dirs dir) (found : tree.find dir name = .loadable origin) :
    origin.Within dirs := by
  unfold find at found
  split at found
  · cases found
    constructor
    · simp [Origin.places]
    · intro place member
      simp only [Origin.places, Option.getD_some, Option.toList_some, List.singleton_append,
        List.mem_cons, List.not_mem_nil, or_false] at member
      rcases member with rfl | rfl <;> exact inside.append _
  · split at found
    · cases found
      exact Origin.within_file (inside.append _)
    · split at found <;> cases found

private theorem find_portion_inside {dirs : List PyPath} {dir portion : PyPath}
    (inside : Inside dirs dir) (found : tree.find dir name = .portion portion) :
    Inside dirs portion := by
  unfold find at found
  split at found
  · cases found
  · split at found
    · cases found
    · split at found <;> cases found
      exact inside.append _

/-- What a directory has under a name lies inside the given ones. -/
structure Provides (tree : FileTree) (dirs : List PyPath) (dir : PyPath) (name : String) :
    Prop where
  loadable : ∀ origin, tree.find dir name = .loadable origin → origin.Within dirs
  portion : ∀ place, tree.find dir name = .portion place → Inside dirs place

/-- What a directory has lies where the directory does. -/
theorem provides_of_inside {dirs : List PyPath} {dir : PyPath} (inside : Inside dirs dir) :
    tree.Provides dirs dir name where
  loadable _ found := find_loadable_within inside found
  portion _ found := find_portion_inside inside found

/-- What is absent lies anywhere. -/
theorem provides_of_absent {dirs : List PyPath} {dir : PyPath}
    (absent : tree.find dir name = .absent) : tree.Provides dirs dir name where
  loadable _ found := nomatch absent.symm.trans found
  portion _ found := nomatch absent.symm.trans found

/-- What a directory has in some directories it has in more of them. -/
theorem Provides.mono {dirs larger : List PyPath} {dir : PyPath}
    (provides : tree.Provides dirs dir name) (included : dirs ⊆ larger) :
    tree.Provides larger dir name where
  loadable origin found := (provides.loadable origin found).mono included
  portion place found := (provides.portion place found).mono included

/-- What a search finds lies where the directories have the name. -/
theorem search_within {dirs : List PyPath} {origin : Origin}
    (provides : ∀ dir ∈ path, tree.Provides dirs dir name)
    (found : tree.search path name = some origin) : origin.Within dirs := by
  unfold search at found
  split at found
  · next loaded =>
      cases found
      obtain ⟨dir, listed, has⟩ := List.exists_of_findSome?_eq_some loaded
      cases finding : tree.find dir name with
      | loadable origin' =>
          rw [finding] at has
          cases has
          exact (provides dir listed).loadable _ finding
      | absent => simp [finding, Finding.loadable?] at has
      | portion dir => simp [finding, Finding.loadable?] at has
  · split at found
    · cases found
    · next portions some =>
        cases found
        constructor
        · simpa [Origin.places] using some
        · intro place member
          simp only [Origin.places, Option.getD_some, Option.toList_none, List.append_nil,
            List.mem_filterMap] at member
          obtain ⟨dir, listed, has⟩ := member
          cases finding : tree.find dir name with
          | portion portion =>
              rw [finding] at has
              cases has
              exact (provides dir listed).portion _ finding
          | absent => simp [finding, Finding.portion?] at has
          | loadable origin => simp [finding, Finding.portion?] at has

/-- What a search path resolves a name to lies where the path has its modules. -/
theorem resolve_within {dirs : List PyPath} {dotted : DottedName} {origin : Origin}
    (provides : ∀ dir ∈ path, ∀ name : Component, tree.Provides dirs dir name)
    (found : tree.resolve path dotted = some origin) : origin.Within dirs := by
  induction dotted generalizing origin with
  | top name =>
      exact search_within (fun dir listed => provides dir listed name) found
  | sub parent name ih =>
      simp only [resolve, Option.bind_eq_some_iff] at found
      obtain ⟨above, resolved, locations, has, found⟩ := found
      exact search_within
        (fun dir listed => provides_of_inside ((ih resolved).locations has dir listed)) found

/-- A search finds nothing if and only if no directory has the name. -/
theorem search_eq_none_iff :
    tree.search path name = none ↔ ∀ dir ∈ path, tree.find dir name = .absent := by
  unfold search
  constructor
  · intro missing dir listed
    split at missing
    · cases missing
    · next none =>
        rw [List.findSome?_eq_none_iff] at none
        split at missing
        · next portions =>
            rw [List.filterMap_eq_nil_iff] at portions
            have notLoadable := none dir listed
            have notPortion := portions dir listed
            cases finding : tree.find dir name <;>
              simp_all [Finding.loadable?, Finding.portion?]
        · cases missing
  · intro absent
    have loadables : path.findSome? (fun dir => (tree.find dir name).loadable?) = none := by
      rw [List.findSome?_eq_none_iff]
      intro dir listed
      rw [absent dir listed]
      rfl
    have portions : path.filterMap (fun dir => (tree.find dir name).portion?) = [] := by
      rw [List.filterMap_eq_nil_iff]
      intro dir listed
      rw [absent dir listed]
      rfl
    rw [loadables, portions]

/-- Directories that do not have a name do not matter to a search for it. -/
theorem search_append_of_absent {front : List PyPath}
    (absent : ∀ dir ∈ front, tree.find dir name = .absent) :
    tree.search (front ++ path) name = tree.search path name := by
  have loadables : front.findSome? (fun dir => (tree.find dir name).loadable?) = none := by
    rw [List.findSome?_eq_none_iff]
    intro dir listed
    rw [absent dir listed]
    rfl
  have portions : front.filterMap (fun dir => (tree.find dir name).portion?) = [] := by
    rw [List.filterMap_eq_nil_iff]
    intro dir listed
    rw [absent dir listed]
    rfl
  simp only [search, List.findSome?_append, loadables, Option.none_or, List.filterMap_append,
    portions, List.nil_append]

end FileTree

namespace Interp

section Lookups

variable (name other : DottedName) (origin : Origin) (state : Interp)

/-- After a registration the name has the new module, and others have what they had. -/
@[simp] theorem lookup_register :
    (state.register name origin).modules.lookup other =
      if other = name then some origin else state.modules.lookup other := by
  by_cases same : other = name
  · subst same
    simp [register]
  · simp [register, same, AList.lookup_insert_ne]

/-- After a removal the name has no module, and others have what they had. -/
@[simp] theorem lookup_pop :
    (state.pop name).modules.lookup other =
      if other = name then none else state.modules.lookup other := by
  by_cases same : other = name
  · subst same
    simp [pop]
  · simp [pop, same, AList.lookup_erase_ne]

variable {name other origin state} {found : Origin}

/-- What is cached after a registration is the new module or was cached before. -/
theorem lookup_register_eq_some :
    (state.register name origin).modules.lookup other = some found ↔
      (other = name ∧ origin = found) ∨
        (other ≠ name ∧ state.modules.lookup other = some found) := by
  rw [lookup_register]
  split
  · next same => simp [same]
  · next differs => simp [differs]

/-- What is cached after a removal was cached under another name. -/
theorem lookup_pop_eq_some :
    (state.pop name).modules.lookup other = some found ↔
      other ≠ name ∧ state.modules.lookup other = some found := by
  rw [lookup_pop]
  split
  · next same => simp [same]
  · next differs => simp [differs]

/-- The listed names are those with a cached module. -/
theorem mem_keys :
    name ∈ state.modules.keys ↔ ∃ origin, state.modules.lookup name = some origin := by
  rw [← AList.mem_keys, ← AList.lookup_isSome, Option.isSome_iff_exists]

end Lookups

/-- The package that a cached namespace package is nested in. -/
def nestedIn (state : Interp) : DottedName → Option DottedName
  | .top _ => none
  | .sub parent name =>
      match state.modules.lookup (.sub parent name) with
      | some ⟨none, some _⟩ => some parent
      | _ => none

section Nested

variable {state other : Interp} {name parent : DottedName}

/-- A module is nested if it is a cached namespace package with a parent. -/
theorem nestedIn_eq_some : state.nestedIn name = some parent ↔
    ∃ last stored, name = .sub parent last ∧
      state.modules.lookup name = some ⟨none, some stored⟩ := by
  cases name with
  | top name => simp [nestedIn]
  | sub above last =>
      simp only [nestedIn]
      split
      · next stored cached => simp [cached]
      · next others =>
          constructor
          · rintro ⟨⟩
          · rintro ⟨_, stored, -, cached⟩
            exact absurd cached (others stored)

/-- Whether a module is nested depends on what is cached under its name. -/
theorem nestedIn_congr (same : other.modules.lookup name = state.modules.lookup name) :
    other.nestedIn name = state.nestedIn name := by
  cases name with
  | top name => rfl
  | sub above last => simp only [nestedIn, same]

/-- A registration changes nothing about the nesting of other modules. -/
theorem nestedIn_register {registered : DottedName} {origin : Origin}
    (differs : name ≠ registered) :
    (state.register registered origin).nestedIn name = state.nestedIn name := by
  apply nestedIn_congr
  rw [lookup_register, if_neg differs]

/-- What is nested after a removal was nested before. -/
theorem nestedIn_pop {popped : DottedName}
    (nested : (state.pop popped).nestedIn name = some parent) :
    name ≠ popped ∧ state.nestedIn name = some parent := by
  obtain ⟨last, stored, same, cached⟩ := nestedIn_eq_some.mp nested
  obtain ⟨differs, cachedBefore⟩ := lookup_pop_eq_some.mp cached
  exact ⟨differs, nestedIn_eq_some.mpr ⟨last, stored, same, cachedBefore⟩⟩

end Nested

/-- All that can be found or is cached, for names with chosen heads, lies inside the
directories. -/
structure Located (tree : FileTree) (heads : Component → Prop) (dirs : List PyPath)
    (state : Interp) : Prop where
  path : ∀ name, heads name → ∀ dir ∈ state.path, tree.Provides dirs dir name
  modules : ∀ name origin, heads name.head → state.modules.lookup name = some origin →
    origin.Within dirs

namespace Located

variable {tree : FileTree} {heads : Component → Prop} {dirs : List PyPath} {state : Interp}

private theorem search (located : state.Located tree heads dirs) {name : Component}
    (chosen : heads name) {origin : Origin} (found : tree.search state.path name = some origin) :
    origin.Within dirs :=
  FileTree.search_within (located.path name chosen) found

/-- Registering a module that lies in the directories keeps all modules there. -/
theorem register (located : state.Located tree heads dirs) {name : DottedName} {origin : Origin}
    (within : heads name.head → origin.Within dirs) :
    (state.register name origin).Located tree heads dirs where
  path := located.path
  modules := by
    intro other origin' chosen cached
    rcases lookup_register_eq_some.mp cached with ⟨rfl, rfl⟩ | ⟨-, cachedBefore⟩
    · exact within chosen
    · exact located.modules other origin' chosen cachedBefore

/-- Dropping a module keeps all others in the directories. -/
theorem pop (located : state.Located tree heads dirs) (name : DottedName) :
    (state.pop name).Located tree heads dirs where
  path := located.path
  modules := by
    intro other origin chosen cached
    exact located.modules other origin chosen (lookup_pop_eq_some.mp cached).2

/-- The portions that another search finds lie inside the directories too. -/
theorem refreshed {found : Option Origin} {stored : List PyPath}
    (searched : ∀ origin, found = some origin → origin.Within dirs)
    (within : (⟨none, some stored⟩ : Origin).Within dirs) :
    (⟨none, some (Interp.refreshed found stored)⟩ : Origin).Within dirs := by
  unfold Interp.refreshed
  split
  · exact searched _ rfl
  · exact within

/-- The places that a purge looks at lie inside the directories. -/
theorem pathOf (located : state.Located tree heads dirs) {name : DottedName} {origin : Origin}
    (chosen : heads name.head) (within : origin.Within dirs) {locations : List PyPath}
    (read : state.pathOf tree name origin = .ok locations) :
    (⟨origin.file, some locations⟩ : Origin).Within dirs := by
  induction name generalizing origin locations with
  | top name =>
      rcases origin with ⟨_ | file, _ | stored⟩ <;> cases read
      · exact ⟨within.some, within.inside⟩
      · exact refreshed (fun _ found => located.search chosen found) within
      · exact ⟨within.some, within.inside⟩
      · exact within
  | sub parent name ih =>
      rcases origin with ⟨_ | file, _ | stored⟩
      · cases read
        exact ⟨within.some, within.inside⟩
      · simp only [Interp.pathOf] at read
        split at read
        · cases read
        · next parentOrigin cached =>
            cases readParent : state.pathOf tree parent parentOrigin with
            | error exc => simp [readParent, Except.map] at read
            | ok above =>
                simp only [readParent, Except.map, Except.ok.injEq] at read
                subst read
                have withinAbove :=
                  ih chosen (located.modules parent parentOrigin chosen cached) readParent
                apply refreshed _ within
                intro _ found
                exact FileTree.search_within (fun dir listed =>
                  FileTree.provides_of_inside (withinAbove.locations rfl dir listed)) found
      · cases read
        exact ⟨within.some, within.inside⟩
      · cases read
        exact within

end Located

/-- A relation of interpreters that agree about the names with chosen heads, all of
which lie inside the directories. -/
structure Correspondence (tree : FileTree) (heads : Component → Prop) (dirs : List PyPath)
    (related : Interp → Interp → Prop) : Prop where
  located : ∀ left right, related left right → left.Located tree heads dirs
  path : ∀ left right, related left right → left.path = right.path
  lookup : ∀ left right, related left right → ∀ name, heads name.head →
    left.modules.lookup name = right.modules.lookup name
  register : ∀ left right, related left right → ∀ name origin, heads name.head →
    origin.Within dirs → related (left.register name origin) (right.register name origin)
  pop : ∀ left right, related left right → ∀ name, heads name.head →
    related (left.pop name) (right.pop name)

namespace Correspondence

variable {tree : FileTree} {heads : Component → Prop} {dirs : List PyPath}
  {related : Interp → Interp → Prop} {left right : Interp} {name : DottedName}
  {exec : PyPath → Interp → Except PyExc Unit × Interp}

private theorem pathOf (agrees : Correspondence tree heads dirs related)
    (before : related left right) (chosen : heads name.head) (origin : Origin) :
    left.pathOf tree name origin = right.pathOf tree name origin := by
  induction name generalizing origin with
  | top name =>
      rcases origin with ⟨_ | file, _ | stored⟩ <;> simp [Interp.pathOf, agrees.path _ _ before]
  | sub parent name ih =>
      rcases origin with ⟨_ | file, _ | stored⟩ <;> simp only [Interp.pathOf]
      rw [agrees.lookup _ _ before parent chosen]
      split
      · rfl
      · rw [ih chosen]

/-- What an import in two related interpreters comes to. -/
structure Imported (dirs : List PyPath) (related : Interp → Interp → Prop)
    (ranLeft ranRight : Except PyExc Origin × Interp) : Prop where
  same : ranLeft.1 = ranRight.1
  after : related ranLeft.2 ranRight.2
  within : ∀ origin, ranLeft.1 = .ok origin → origin.Within dirs

private theorem Imported.runs {ranLeft ranRight : Except PyExc Origin × Interp}
    (imported : Imported dirs related ranLeft ranRight) :
    ∃ result left' right', ranLeft = (result, left') ∧ ranRight = (result, right') ∧
      related left' right' ∧ ∀ origin, result = .ok origin → origin.Within dirs :=
  ⟨ranLeft.1, ranLeft.2, ranRight.2, rfl, by rw [imported.same], imported.after,
    imported.within⟩

private theorem load (agrees : Correspondence tree heads dirs related)
    (executing : ∀ file, Respects related (exec file)) (before : related left right)
    (chosen : heads name.head) {origin : Origin} (within : origin.Within dirs) :
    Imported dirs related (load exec name origin left) (load exec name origin right) := by
  have registered := agrees.register _ _ before name origin chosen within
  unfold Interp.load
  cases origin.file with
  | none => exact ⟨rfl, registered, by rintro _ ⟨⟩; exact within⟩
  | some file =>
      obtain ⟨outcome, left', right', ranLeft, ranRight, after⟩ :=
        (executing file).runs registered
      simp only [ranLeft, ranRight]
      cases outcome with
      | ok done => exact ⟨rfl, after, by rintro _ ⟨⟩; exact within⟩
      | error exc => exact ⟨rfl, agrees.pop _ _ after name chosen, by rintro _ ⟨⟩⟩

private theorem loadFrom (agrees : Correspondence tree heads dirs related)
    (executing : ∀ file, Respects related (exec file)) (before : related left right)
    (chosen : heads name.head) {locations : List PyPath} {last : Component}
    (inside : ∀ origin, tree.search locations last = some origin → origin.Within dirs) :
    Imported dirs related (loadFrom tree exec locations name last left)
      (loadFrom tree exec locations name last right) := by
  unfold Interp.loadFrom
  cases found : tree.search locations last with
  | none => exact ⟨rfl, before, by rintro _ ⟨⟩⟩
  | some origin => exact agrees.load executing before chosen (inside origin found)

/-- An import in two related interpreters comes to the same, which lies in the directories. -/
theorem importName (agrees : Correspondence tree heads dirs related)
    (executing : ∀ file, Respects related (exec file)) (before : related left right)
    (chosen : heads name.head) :
    Imported dirs related (importName tree exec name left) (importName tree exec name right) := by
  have cachedWithin {left right : Interp} (before : related left right) {name : DottedName}
      (chosen : heads name.head) {origin : Origin}
      (cached : right.modules.lookup name = some origin) : origin.Within dirs := by
    rw [← agrees.lookup _ _ before name chosen] at cached
    exact (agrees.located _ _ before).modules name origin chosen cached
  induction name generalizing left right with
  | top name =>
      unfold Interp.importName
      rw [agrees.lookup _ _ before _ chosen, agrees.path _ _ before]
      cases cached : right.modules.lookup (.top name) with
      | some origin => exact ⟨rfl, before, by rintro _ ⟨⟩; exact cachedWithin before chosen cached⟩
      | none =>
          apply agrees.loadFrom executing before chosen
          intro origin found
          rw [← agrees.path _ _ before] at found
          exact (agrees.located _ _ before).search chosen found
  | sub parent name ih =>
      have chosenParent : heads parent.head := chosen
      unfold Interp.importName
      rw [agrees.lookup _ _ before _ chosen]
      cases cached : right.modules.lookup (.sub parent name) with
      | some origin => exact ⟨rfl, before, by rintro _ ⟨⟩; exact cachedWithin before chosen cached⟩
      | none =>
          obtain ⟨result, left', right', ranLeft, ranRight, after, within⟩ :=
            (ih before chosen).runs
          simp only [ranLeft, ranRight]
          cases result with
          | error exc => exact ⟨rfl, after, by rintro _ ⟨⟩⟩
          | ok above =>
              simp only
              rw [agrees.lookup _ _ after _ chosen]
              cases cachedNow : right'.modules.lookup (.sub parent name) with
              | some origin =>
                  exact ⟨rfl, after, by rintro _ ⟨⟩; exact cachedWithin after chosen cachedNow⟩
              | none =>
                  have sameRead :
                      left'.pathOf tree parent above = right'.pathOf tree parent above :=
                    agrees.pathOf after chosenParent above
                  simp only [sameRead]
                  split
                  · exact ⟨rfl, after, by rintro _ ⟨⟩⟩
                  · cases read : right'.pathOf tree parent above with
                    | error exc => exact ⟨rfl, after, by rintro _ ⟨⟩⟩
                    | ok locations =>
                        apply agrees.loadFrom executing after chosen
                        intro origin found
                        rw [← sameRead] at read
                        have withinAbove :=
                          (agrees.located _ _ after).pathOf chosenParent (within above rfl) read
                        exact FileTree.search_within (fun dir listed =>
                          FileTree.provides_of_inside (withinAbove.locations rfl dir listed)) found

end Correspondence

section Atomic

variable {tree : FileTree} {exec : PyPath → Interp → Except PyExc Unit × Interp}

/-- What an import of a name with a given head does when executing a file changes
nothing. -/
structure Grows (head : Component) (before after : Interp) : Prop where
  path : after.path = before.path
  keeps : ∀ name origin, before.modules.lookup name = some origin →
    after.modules.lookup name = some origin
  others : ∀ name : DottedName, name.head ≠ head →
    after.modules.lookup name = before.modules.lookup name

namespace Grows

private theorem refl (head : Component) (state : Interp) : Grows head state state :=
  ⟨rfl, fun _ _ cached => cached, fun _ _ => rfl⟩

private theorem trans {head : Component} {first second third : Interp}
    (earlier : Grows head first second) (later : Grows head second third) :
    Grows head first third where
  path := later.path.trans earlier.path
  keeps := fun name origin cached => later.keeps name origin (earlier.keeps name origin cached)
  others := fun name differs => (later.others name differs).trans (earlier.others name differs)

end Grows

private theorem load_grows (still : ∀ file state, (exec file state).2 = state) {name : DottedName}
    {origin : Origin} {state : Interp} (missing : state.modules.lookup name = none) :
    Grows name.head state (load exec name origin state).2 := by
  have registered : Grows name.head state (state.register name origin) := by
    refine ⟨rfl, ?_, ?_⟩
    · intro other origin' cached
      rw [lookup_register, if_neg, cached]
      rintro rfl
      rw [missing] at cached
      cases cached
    · intro other differs
      rw [lookup_register, if_neg]
      rintro rfl
      exact differs rfl
  unfold load
  cases origin.file with
  | none => exact registered
  | some file =>
      have same := still file (state.register name origin)
      rcases ran : exec file (state.register name origin) with ⟨outcome, after⟩
      rw [ran] at same
      obtain rfl : after = state.register name origin := same
      simp only [ran]
      cases outcome with
      | ok done => exact registered
      | error exc =>
          refine ⟨rfl, ?_, ?_⟩
          · intro other origin' cached
            have differs : other ≠ name := by
              rintro rfl
              rw [missing] at cached
              cases cached
            rw [lookup_pop, if_neg differs, lookup_register, if_neg differs, cached]
          · intro other differs
            have distinct : other ≠ name := by
              rintro rfl
              exact differs rfl
            rw [lookup_pop, if_neg distinct, lookup_register, if_neg distinct]

private theorem loadFrom_grows (still : ∀ file state, (exec file state).2 = state)
    {name : DottedName} {locations : List PyPath} {last : Component} {state : Interp}
    (missing : state.modules.lookup name = none) :
    Grows name.head state (loadFrom tree exec locations name last state).2 := by
  unfold loadFrom
  split
  · exact Grows.refl _ _
  · exact load_grows still missing

/-- An import of files that change nothing by themselves adds modules under its own head alone.
-/
theorem importName_grows (still : ∀ file state, (exec file state).2 = state) (name : DottedName)
    (state : Interp) : Grows name.head state (importName tree exec name state).2 := by
  induction name generalizing state with
  | top name =>
      unfold importName
      split
      · exact Grows.refl _ _
      · next missing => exact loadFrom_grows still missing
  | sub parent name ih =>
      unfold importName
      split
      · exact Grows.refl _ _
      · have above := ih state
        rcases ran : importName tree exec parent state with ⟨_ | origin, middle⟩ <;>
          rw [ran] at above
        · exact above
        · simp only
          split
          · exact above
          · next missing =>
              split
              · exact above
              · split
                · exact above
                · exact above.trans (loadFrom_grows still missing)

/-- Importing keeps everything inside, and what is imported lies there. -/
theorem Located.importName {heads : Component → Prop} {dirs : List PyPath} {state : Interp}
    (located : state.Located tree heads dirs)
    (still : ∀ file state, (exec file state).2 = state) (name : DottedName) :
    (importName tree exec name state).2.Located tree heads dirs ∧
      ∀ origin, heads name.head → (importName tree exec name state).1 = .ok origin →
        origin.Within dirs := by
  by_cases chosen : heads name.head
  · let related (left right : Interp) : Prop := left = right ∧ left.Located tree heads dirs
    have agrees : Correspondence tree heads dirs related :=
      { located := fun _ _ same => same.2
        path := fun _ _ same => by rw [same.1]
        lookup := fun _ _ same _ _ => by rw [same.1]
        register := fun _ _ same name origin _ within =>
          ⟨by rw [same.1], same.2.register fun _ => within⟩
        pop := fun _ _ same name _ => ⟨by rw [same.1], same.2.pop name⟩ }
    have executing (file : PyPath) : Respects related (exec file) := by
      rintro left _ ⟨rfl, located⟩
      exact ⟨rfl, rfl, by rw [still]; exact located⟩
    have imported := agrees.importName executing ⟨rfl, located⟩ chosen
    exact ⟨imported.after.2, fun origin _ => imported.within origin⟩
  · have grown : Grows name.head state (Interp.importName tree exec name state).2 :=
      importName_grows still name state
    refine ⟨⟨by rw [grown.path]; exact located.path, ?_⟩, fun origin head => absurd head chosen⟩
    intro other origin head cached
    rw [grown.others other (by rintro same; rw [same] at head; exact chosen head)] at cached
    exact located.modules other origin head cached

end Atomic

end Interp

end BiothingsPulse
