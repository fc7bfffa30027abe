import BiothingsPulse.Checker.Loader
import BiothingsPulse.Foundation.Linearization
import Mathlib.Data.List.Induction

/-!
# Which dumper class a load chooses

A load looks into modules in order and takes the last of the most derived of the classes that
pass for the plugin's own. By file these are the classes that the file defines; in the package
those that are defined in a module whose name begins with that of the package. A class of
another package with such a name passes as well, and a class of the package that a file only
imports does not.
-/

namespace BiothingsPulse

open Foundation Interp

/-- What is seen of a class: the module that defines it, whether it sets `SRC_NAME` and with it
to something true, and what instantiating it executes. -/
structure PyClass where
  module : String
  name : String
  srcName : Option Bool := none
  init : Code := .done

/-- The classes there are, one of which is `BaseDumper`. -/
structure ClassTable extends Hierarchy ℕ where
  klass : ℕ → PyClass
  baseDumper : ℕ

namespace ClassTable

variable (table : ClassTable)

/-- The truth value of `getattr(obj, "SRC_NAME", None)`. -/
def hasSrcName (id : ℕ) : Bool :=
  ((table.mro id).findSome? fun base => (table.klass base).srcName).getD false

/-- A proper subclass of `BaseDumper` with a name. -/
def isDumper (id : ℕ) : Bool := table.Derives id table.baseDumper && table.hasSrcName id

def dumper (id : ℕ) : DumperClass where
  id := id
  name := (table.klass id).name
  mro := (table.mro id).length
  init := (table.klass id).init

/-- The dumper classes among given ones that are defined where they should be. -/
def eligible (definedIn : String → Bool) (members : List ℕ) : List ℕ :=
  members.filter fun id => table.isDumper id && definedIn (table.klass id).module

end ClassTable

/-- A runtime with the classes that its modules expose. -/
structure Codebase extends Runtime where
  table : ClassTable
  /-- `inspect.getmembers(module, inspect.isclass)`, after given imports. -/
  members : Trace → Origin → List ℕ
  exposes : ∀ trace origin, dumperClasses trace origin =
    ((members trace origin).filter table.isDumper).map fun id =>
      ((table.klass id).module, table.dumper id)

/-- Whether a module is the package of the given name or inside of it. -/
def inPackage (dotted : DottedName) (module : String) : Bool :=
  module = dotted.text || (dotted.text ++ ".").toList.isPrefixOf module.toList

/-- What a load has looked at when it chooses: the classes visible in the modules it scanned,
those it chooses from, and which modules are the plugin's own. -/
structure Scan where
  visible : List ℕ
  eligible : List ℕ
  own : String → Bool

namespace Scan

variable (table : ClassTable) (scan : Scan)

/-- A dumper class of the plugin's own package. -/
def Qualifies (id : ℕ) : Prop :=
  table.isDumper id = true ∧ scan.own (table.klass id).module = true

/-- The right class is defined in the plugin's own package, and no other one that is visible
derives from it. -/
structure Right (id : ℕ) : Prop where
  qualifies : scan.Qualifies table id
  mostDerived : ∀ other ∈ scan.visible, scan.Qualifies table other → ¬table.Derives other id

/-- A class misleads if it is not the plugin's own, or if one derives from it that is and that is
not among those to choose from. -/
def Misleads (id : ℕ) : Prop :=
  scan.own (table.klass id).module = false ∨
    ∃ other ∈ scan.visible, other ∉ scan.eligible ∧ scan.Qualifies table other ∧
      table.Derives other id

/-- Whatever misleads has a more derived class beside it, or one as derived after it. -/
def Outranks : Prop :=
  ∀ before id after, scan.eligible = before ++ id :: after → scan.Misleads table id →
    (∃ other ∈ before, (table.mro id).length < (table.mro other).length) ∨
      ∃ other ∈ after, (table.mro id).length ≤ (table.mro other).length

/-- The class is what a load takes among those it chooses from. -/
structure Chooses (klass : DumperClass) : Prop where
  best : Runtime.best (scan.eligible.map table.dumper) = some klass
  dumpers : ∀ id ∈ scan.eligible, table.isDumper id = true

end Scan

section Best

namespace Runtime

private theorem best_append_singleton (classes : List DumperClass) (last : DumperClass) :
    best (classes ++ [last]) =
      match best classes with
      | none => some last
      | some other => if other.mro ≤ last.mro then some last else some other := by
  rw [best, List.foldl_append]
  rfl

private theorem best_eq_none {classes : List DumperClass} (none : best classes = none) :
    classes = [] := by
  induction classes using List.reverseRecOn with
  | nil => rfl
  | append_singleton classes last ih =>
      rw [best_append_singleton] at none
      split at none
      · cases none
      · split at none <;> cases none

/-- The class chosen is the last one of the most derived. -/
theorem best_eq_some {classes : List DumperClass} {klass : DumperClass}
    (chosen : best classes = some klass) :
    ∃ before after, classes = before ++ klass :: after ∧
      (∀ other ∈ before, other.mro ≤ klass.mro) ∧ ∀ other ∈ after, other.mro < klass.mro := by
  induction classes using List.reverseRecOn generalizing klass with
  | nil => cases chosen
  | append_singleton classes last ih =>
      rw [best_append_singleton] at chosen
      split at chosen
      · next none =>
          cases chosen
          rw [best_eq_none none]
          exact ⟨[], [], rfl, nofun, nofun⟩
      · next other earlier =>
          obtain ⟨before, after, rfl, upTo, beyond⟩ := ih earlier
          split at chosen
          · next longer =>
              obtain rfl := Option.some.inj chosen
              refine ⟨before ++ other :: after, [], rfl, fun klass member => ?_, nofun⟩
              rcases List.mem_append.mp member with early | late
              · exact Nat.le_trans (upTo klass early) longer
              · rcases List.mem_cons.mp late with rfl | later
                · exact longer
                · exact Nat.le_trans (Nat.le_of_lt (beyond klass later)) longer
          · next shorter =>
              cases chosen
              refine ⟨before, after ++ [last], by simp, upTo, fun klass member => ?_⟩
              rcases List.mem_append.mp member with early | late
              · exact beyond klass early
              · rw [List.mem_singleton.mp late]
                exact Nat.lt_of_not_le shorter

end Runtime

namespace Scan

variable {table : ClassTable} {scan : Scan} {klass : DumperClass}

private theorem Chooses.split (chooses : scan.Chooses table klass) :
    ∃ before after, scan.eligible = before ++ klass.id :: after ∧
      klass = table.dumper klass.id ∧
      (∀ other ∈ before, (table.mro other).length ≤ (table.mro klass.id).length) ∧
      ∀ other ∈ after, (table.mro other).length < (table.mro klass.id).length := by
  obtain ⟨before, after, split, upTo, beyond⟩ := Runtime.best_eq_some chooses.best
  obtain ⟨early, tail, ids, rfl, rest⟩ := List.map_eq_append_iff.mp split
  obtain ⟨id, late, rfl, rfl, rfl⟩ := List.map_eq_cons_iff.mp rest
  refine ⟨early, late, ids, rfl, fun other member => ?_, fun other member => ?_⟩
  · exact upTo _ (List.mem_map_of_mem member)
  · exact beyond _ (List.mem_map_of_mem member)

/-- The class chosen is the right one if and only if whatever misleads is outranked. -/
theorem Chooses.right_iff (chooses : scan.Chooses table klass) :
    scan.Right table klass.id ↔ scan.Outranks table := by
  obtain ⟨before, after, split, -, upTo, beyond⟩ := chooses.split
  constructor
  · intro right early id late listed misleads
    have differs : klass.id ≠ id := by
      rintro rfl
      rcases misleads with foreign | ⟨other, visible, -, qualifies, derives⟩
      · exact Bool.false_ne_true (foreign.symm.trans right.qualifies.2)
      · exact right.mostDerived other visible qualifies derives
    rw [split] at listed
    rcases List.append_eq_append_iff.mp listed with ⟨between, rfl, rest⟩ | ⟨between, rfl, rest⟩
    · rcases List.cons_eq_append_iff.mp rest with ⟨rfl, same⟩ | ⟨more, rfl, rfl⟩
      · exact absurd (List.cons.inj same).1.symm differs
      · exact .inl ⟨klass.id, by simp, beyond id (by simp)⟩
    · rcases List.cons_eq_append_iff.mp rest with ⟨rfl, same⟩ | ⟨more, rfl, rfl⟩
      · exact absurd (List.cons.inj same).1 differs
      · exact .inr ⟨klass.id, by simp, upTo id (by simp)⟩
  · intro outranks
    have sincere : ¬scan.Misleads table klass.id := by
      intro misleads
      rcases outranks before klass.id after split misleads with
        ⟨other, early, longer⟩ | ⟨other, late, longer⟩
      · exact Nat.not_lt_of_le (upTo other early) longer
      · exact Nat.not_lt_of_le longer (beyond other late)
    have listed : klass.id ∈ scan.eligible := by simp [split]
    refine ⟨⟨chooses.dumpers _ listed, ?_⟩, fun other visible qualifies derives => ?_⟩
    · exact Bool.of_not_eq_false fun foreign => sincere (.inl foreign)
    · have unlisted : other ∉ scan.eligible := by
        intro member
        have longer := derives.length_lt
        rw [split, List.mem_append, List.mem_cons] at member
        rcases member with early | rfl | late
        · exact Nat.not_lt_of_le (upTo other early) longer
        · exact Nat.lt_irrefl _ longer
        · exact Nat.lt_asymm (beyond other late) longer
      exact sincere (.inr ⟨other, visible, unlisted, qualifies, derives⟩)

end Scan

end Best

namespace Codebase

variable (codebase : Codebase)

/-- What a load by file scans: the files up to the first one that defines a dumper class, or else
the classes visible in all files that executed and the interpreter after them. -/
def scanFiles (sourceDir : PyPath) (dotted : DottedName) :
    List String → List ℕ → Interp → Scan ⊕ List ℕ × Interp
  | [], visible, state => .inr (visible, state)
  | stem :: rest, visible, state =>
      let unique := Runtime.modulePrefix dotted ++ "_" ++ stem
      let origin : Origin := ⟨some (sourceDir ++ [stem ++ ".py"]), none⟩
      match codebase.exec (sourceDir ++ [stem ++ ".py"])
          (state.register (Runtime.fileModule (Runtime.modulePrefix dotted) stem) origin) with
      -- A load that returns something has met no exception but those it passes over.
      | (.error _, state) =>
          scanFiles sourceDir dotted rest visible
            (state.pop (Runtime.fileModule (Runtime.modulePrefix dotted) stem))
      | (.ok _, state) =>
          let members := codebase.members state.trace origin
          let defined := codebase.table.eligible (· = unique) members
          if defined = [] then scanFiles sourceDir dotted rest (visible ++ members) state
          else .inl ⟨visible ++ members, defined,
            fun module => module = unique || inPackage dotted module⟩

/-- The classes visible in the submodules, as far as they import. -/
def submoduleMembers (dotted : DottedName) : List Component → Interp → List ℕ
  | [], _ => []
  | name :: rest, state =>
      match codebase.importModule (.sub dotted name) state with
      | (.error _, state) => submoduleMembers dotted rest state
      | (.ok origin, state) =>
          codebase.members state.trace origin ++ submoduleMembers dotted rest state

/-- What a load of the whole package scans. -/
def scanPackage (dotted : DottedName) (visible : List ℕ) (state : Interp) : Option Scan :=
  match codebase.importModule dotted state with
  | (.error _, _) => none
  | (.ok origin, state) =>
      let members := codebase.members state.trace origin ++
        codebase.submoduleMembers dotted Runtime.dumperSubmodules state
      some ⟨visible ++ members, codebase.table.eligible
        (fun module => dotted.text.toList.isPrefixOf module.toList) members, inPackage dotted⟩

/-- What a load scans. -/
def scan (ref : PluginRef) (state : Interp) : Option Scan :=
  match packageRootAndModule codebase.tree ref.path with
  | some (sysPathEntry, some dotted) =>
      match codebase.scanFiles ref.path dotted (codebase.candidates ref.path) []
          (insertPath (advancedEntries sysPathEntry ref) state).2 with
      | .inl scan => some scan
      | .inr (visible, state) => codebase.scanPackage dotted visible state
  | _ => none

variable {codebase} {sourceDir : PyPath} {dotted : DottedName} {visible : List ℕ}
  {state after : Interp} {klass : DumperClass}

private theorem dumperClassesIn_eq (origin : Origin) (definedIn : String → Bool) (state : Interp) :
    codebase.dumperClassesIn origin definedIn state =
      (codebase.table.eligible definedIn (codebase.members state.trace origin)).map
        codebase.table.dumper := by
  rw [Runtime.dumperClassesIn, codebase.exposes, List.filter_map, List.map_map, List.filter_filter]
  simp only [ClassTable.eligible, Function.comp_def, Bool.and_comm]

private theorem chooses_of_best {definedIn : String → Bool} {members : List ℕ} {own : String → Bool}
    (best : Runtime.best ((codebase.table.eligible definedIn members).map codebase.table.dumper) =
      some klass) :
    (⟨visible, codebase.table.eligible definedIn members, own⟩ : Scan).Chooses codebase.table
      klass where
  best := best
  dumpers := by
    intro id member
    exact (Bool.and_eq_true_iff.mp (List.mem_filter.mp member).2).1

private theorem instantiate_eq_ok {made : DumperClass}
    (instantiated : codebase.instantiate klass state = (.ok made, after)) : made = klass := by
  unfold Runtime.instantiate at instantiated
  split at instantiated
  · cases instantiated
    rfl
  · split at instantiated <;> cases instantiated

/-- A load by file that ends without an exception has chosen from what it scanned, or has not
come to anything to choose from. -/
theorem scanFiles_of_ok (visible : List ℕ) {stems : List String} {found : Option DumperClass}
    (loaded : codebase.loadDumperByFile sourceDir (Runtime.modulePrefix dotted) stems state =
      (.ok found, after)) :
    (∃ klass scan, found = some klass ∧
      codebase.scanFiles sourceDir dotted stems visible state = .inl scan ∧
        scan.Chooses codebase.table klass) ∨
    found = none ∧ ∃ shown,
      codebase.scanFiles sourceDir dotted stems visible state = .inr (shown, after) := by
  induction stems generalizing visible state with
  | nil =>
      cases loaded
      exact .inr ⟨rfl, visible, rfl⟩
  | cons stem rest ih =>
      unfold Runtime.loadDumperByFile at loaded
      dsimp only at loaded
      split at loaded
      · next exc middle ran =>
          simp only [scanFiles, ran]
          split at loaded
          · exact ih visible loaded
          · cases loaded
      · next middle ran =>
          simp only [scanFiles, ran]
          rw [dumperClassesIn_eq] at loaded
          split at loaded
          · next none =>
              rw [if_pos (List.map_eq_nil_iff.mp (Runtime.best_eq_none none))]
              exact ih _ loaded
          · next klass best =>
              have some : codebase.table.eligible (· = Runtime.modulePrefix dotted ++ "_" ++ stem)
                  (codebase.members middle.trace ⟨some (sourceDir ++ [stem ++ ".py"]), none⟩) ≠
                    [] := by
                intro empty
                rw [empty] at best
                cases best
              rw [if_neg some]
              rcases made : codebase.instantiate klass middle with ⟨exc | dumper, later⟩
              · rw [made] at loaded
                cases loaded
              · rw [made] at loaded
                cases loaded
                rw [instantiate_eq_ok made]
                exact .inl ⟨klass, _, rfl, rfl, chooses_of_best best⟩

/-- The classes of the submodules are chosen from the classes visible in them. -/
theorem submoduleClasses_eq_ok {definedIn : String → Bool} {names : List Component}
    {classes : List DumperClass}
    (loaded : codebase.submoduleClasses dotted definedIn names state = (.ok classes, after)) :
    classes = (codebase.table.eligible definedIn (codebase.submoduleMembers dotted names state)).map
      codebase.table.dumper := by
  induction names generalizing state classes with
  | nil =>
      cases loaded
      rfl
  | cons name rest ih =>
      unfold Runtime.submoduleClasses at loaded
      split at loaded
      · next exc middle ran =>
          simp only [submoduleMembers, ran]
          split at loaded
          · exact ih loaded
          · cases loaded
      · next origin middle ran =>
          simp only [submoduleMembers, ran]
          rw [dumperClassesIn_eq] at loaded
          rcases found : codebase.submoduleClasses dotted definedIn rest middle with
            ⟨exc | others, later⟩
          · rw [found] at loaded
            cases loaded
          · rw [found] at loaded
            cases loaded
            rw [ih found]
            simp only [ClassTable.eligible, List.filter_append, List.map_append]

/-- A load of the package that returns a class has chosen it from what it scanned. -/
theorem scanPackage_of_ok (loaded : codebase.loadPackage dotted state = (.ok klass, after)) :
    ∃ scan, codebase.scanPackage dotted visible state = some scan ∧
      scan.Chooses codebase.table klass := by
  unfold Runtime.loadPackage at loaded
  dsimp only at loaded
  split at loaded
  · split at loaded <;> cases loaded
  · next origin middle ran =>
      simp only [scanPackage, ran]
      split at loaded
      · cases loaded
      · next others later found =>
          split at loaded
          · cases loaded
          · next chosen best =>
              rw [submoduleClasses_eq_ok found, dumperClassesIn_eq, ← List.map_append] at best
              rw [instantiate_eq_ok loaded]
              refine ⟨_, rfl, chooses_of_best ?_⟩
              rw [← best]
              simp only [ClassTable.eligible, List.filter_append]

private theorem withEntries_eq_ok {α : Type} {order : SetOrder} {repoPath : Option PyPath}
    {entries : List PyPath} {attempt : Interp → Except PyExc α × Interp} {result : α}
    (loaded : (codebase.withEntries order repoPath entries attempt state).1 = .ok result) :
    ∃ closed, attempt (insertPath entries state).2 = (.ok result, closed) := by
  unfold Runtime.withEntries at loaded
  dsimp only at loaded
  split at loaded
  · exact ⟨_, Prod.ext loaded rfl⟩
  · cases loaded

/-- A load that returns a dumper has chosen its class from what it scanned. -/
theorem scan_of_ok {order : SetOrder} {ref : PluginRef}
    (returned : (codebase.loadAdvancedDumper order ref state).1 = .ok (.advanced klass)) :
    ∃ scan, codebase.scan ref state = some scan ∧ scan.Chooses codebase.table klass := by
  unfold Runtime.loadAdvancedDumper at returned
  split at returned
  · next entry dotted located =>
      simp only [scan, located]
      dsimp only at returned
      rcases loaded : (codebase.withEntries order ref.repoPath (advancedEntries entry ref)
        (codebase.advancedAttempt ref.path dotted) state).1 with exc | made
      · rw [loaded] at returned
        cases returned
      · rw [loaded] at returned
        cases returned
        obtain ⟨closed, attempted⟩ := withEntries_eq_ok loaded
        unfold Runtime.advancedAttempt at attempted
        split at attempted
        · cases attempted
        · next found =>
            cases attempted
            rcases scanFiles_of_ok [] found with
              ⟨klass, scan, same, scanned, chooses⟩ | ⟨none, -⟩
            · cases same
              rw [scanned]
              exact ⟨scan, rfl, chooses⟩
            · cases none
        · next found =>
            rcases scanFiles_of_ok [] found with
              ⟨klass, scan, same, -⟩ | ⟨-, shown, scanned⟩
            · cases same
            · rw [scanned]
              exact scanPackage_of_ok attempted
  · cases returned

/-- The class of a dumper that a load returns is the right one if and only if, among the classes
that the load chose from, whatever misleads is outranked. -/
theorem loadAdvancedDumper_right_iff (order : SetOrder) {ref : PluginRef}
    (returned : (codebase.loadAdvancedDumper order ref state).1 = .ok (.advanced klass)) :
    ∃ scan, codebase.scan ref state = some scan ∧ klass = codebase.table.dumper klass.id ∧
      (scan.Right codebase.table klass.id ↔ scan.Outranks codebase.table) := by
  obtain ⟨scan, scanned, chooses⟩ := scan_of_ok returned
  obtain ⟨-, -, -, same, -⟩ := chooses.split
  exact ⟨scan, scanned, same, chooses.right_iff⟩

end Codebase

/-! A package that imports a class of another one, the name of which begins with its own. -/

namespace Neighbours

def bases : ℕ → List ℕ
  | 1 => [0]
  | 2 => [1]
  | 3 => [2]
  | 4 => [1]
  | _ => []

def mro : ℕ → List ℕ
  | 1 => [1, 0]
  | 2 => [2, 1, 0]
  | 3 => [3, 2, 1, 0]
  | 4 => [4, 1, 0]
  | id => [id]

def table : ClassTable where
  bases := bases
  founded := by
    apply Subrelation.wf _ Nat.lt_wfRel.wf
    intro base klass member
    change base < klass
    unfold bases at member
    split at member <;> simp_all
  mro := mro
  linear
    | 0 => ⟨[], rfl, .done (by decide)⟩
    | 1 => ⟨[0], rfl, .next rfl (.done (by decide))⟩
    | 2 => ⟨[1, 0], rfl, .next rfl (.next rfl (.done (by decide)))⟩
    | 3 => ⟨[2, 1, 0], rfl, .next rfl (.next rfl (.next rfl (.done (by decide))))⟩
    | 4 => ⟨[1, 0], rfl, .next rfl (.next rfl (.done (by decide)))⟩
    | _ + 5 => ⟨[], rfl, .done (List.forall_mem_singleton.mpr rfl)⟩
  klass
    | 0 => { module := "builtins", name := "object" }
    | 1 =>
        { module := "biothings.hub.dataload.dumper", name := "BaseDumper", srcName := some false }
    | 2 => { module := "foo_other", name := "OtherDumper", srcName := some true }
    | 3 => { module := "foo", name := "FooDumper" }
    | _ => { module := "foo", name := "FooDumper", srcName := some true }
  baseDumper := 1

def foo : Component := ⟨"foo", by decide⟩

def tree : FileTree where
  isFile path := path ∈ [["r", "foo", "__init__.py"], ["r", "foo_other", "__init__.py"]]
  isDir path := path ∈ [["r"], ["r", "foo"], ["r", "foo_other"]]

/-- The classes of the other package and of the package, which it shows in this order. -/
def codebase (shown : List ℕ) : Codebase where
  tree := tree
  entries _ := ["__init__.py"]
  body file :=
    .plugin (if "foo" ∈ file then .imp (.top ⟨"foo_other", by decide⟩) fun _ => .done else .done)
  limit := 1000
  hasAttr _ _ _ := false
  dumperClasses _ origin :=
    ((if origin.file = some ["r", "foo", "__init__.py"] then shown else []).filter
      table.isDumper).map fun id => ((table.klass id).module, table.dumper id)
  manifest _ := .ok {}
  table := table
  members _ origin := if origin.file = some ["r", "foo", "__init__.py"] then shown else []
  exposes _ _ := rfl

def ref : PluginRef where
  repo := "r"
  name := "foo"
  pluginType := .advanced
  path := ["r", "foo"]

def inOrder : SetOrder := ⟨id, List.Perm.refl⟩

def fresh : Interp := ⟨[], ∅, []⟩

private theorem candidates_eq (shown : List ℕ) : (codebase shown).candidates ref.path = [] := by
  exact (List.mergeSort_perm ([] : List String) _).eq_nil

private theorem attempt_eq (shown : List ℕ) (dotted : DottedName) :
    (codebase shown).advancedAttempt ref.path dotted = (codebase shown).loadPackage dotted := by
  funext state
  rw [Runtime.advancedAttempt, candidates_eq]
  rfl

private theorem located (shown : List ℕ) :
    packageRootAndModule (codebase shown).tree ref.path = some (["r"], some (.top foo)) := by
  rfl

private theorem load_eq (shown : List ℕ) :
    ((codebase shown).loadAdvancedDumper inOrder ref fresh).1 =
      ((codebase shown).withEntries inOrder none [["r"]] ((codebase shown).loadPackage (.top foo))
        fresh).1.map .advanced := by
  simp only [Runtime.loadAdvancedDumper, located, attempt_eq]
  rfl

private theorem scan_eq (shown : List ℕ) :
    (codebase shown).scan ref fresh =
      (codebase shown).scanPackage (.top foo) [] ⟨[["r"]], ∅, []⟩ := by
  simp only [Codebase.scan, located, candidates_eq]
  rfl

/-- A class that derives from the imported one is the right one. -/
theorem scan_right_derived :
    ∃ scan, (codebase [3, 2]).scan ref fresh = some scan ∧ scan.Right table 3 := by
  have returned : ((codebase [3, 2]).loadAdvancedDumper inOrder ref fresh).1 =
      .ok (.advanced (table.dumper 3)) := by
    rw [load_eq]
    rfl
  obtain ⟨scan, scanned, -, right⟩ := Codebase.loadAdvancedDumper_right_iff inOrder returned
  refine ⟨scan, scanned, right.mpr ?_⟩
  rw [scan_eq] at scanned
  obtain rfl := Option.some.inj scanned
  rintro (_ | ⟨first, _ | ⟨second, before⟩⟩) id after listed misleads
  · cases listed
    rcases misleads with foreign | ⟨other, visible, unlisted, -⟩
    · cases foreign
    · exact absurd visible unlisted
  · cases listed
    exact .inl ⟨3, List.mem_singleton_self 3, by decide⟩
  · have listed : [3, 2] = first :: second :: (before ++ id :: after) := listed
    simp at listed

/-- One that does not is passed over, and the load returns the class of the other package. -/
theorem scan_wrong_imported :
    ¬∀ (codebase : Codebase) (order : SetOrder) (ref : PluginRef) (state : Interp)
      (klass : DumperClass),
      (codebase.loadAdvancedDumper order ref state).1 = .ok (.advanced klass) →
        ∃ scan, codebase.scan ref state = some scan ∧ scan.Right codebase.table klass.id := by
  intro chosen
  have returned : ((codebase [4, 2]).loadAdvancedDumper inOrder ref fresh).1 =
      .ok (.advanced (table.dumper 2)) := by
    rw [load_eq]
    rfl
  obtain ⟨scan, scanned, right⟩ := chosen _ _ _ _ _ returned
  rw [scan_eq] at scanned
  obtain rfl := Option.some.inj scanned
  exact absurd right.qualifies.2 (by decide)

end Neighbours

end BiothingsPulse
