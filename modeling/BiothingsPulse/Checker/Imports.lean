import BiothingsPulse.Foundation.Splitting
import BiothingsPulse.Plugins.Models
import Mathlib.Data.List.AList

/-!
# The import system

The part of the interpreter that loading a plugin shares with every other load:
`sys.path`, `sys.modules`, and how an `import` statement uses them. Files are
looked up as the path finder does: in a directory, a package comes before a module
and a module before a namespace portion, and over several directories the first
package or module comes before all portions. The path of a namespace package is
searched again, from the path of its parent, whenever it is read.
-/

namespace BiothingsPulse

/-- A component of the name of a module, which has no dot. -/
abbrev Component : Type := { text : String // '.' ∉ text.toList }

/-- The name of a module, with its parent packages. -/
inductive DottedName where
  | top (name : Component)
  | sub (parent : DottedName) (name : Component)
  deriving DecidableEq, Repr

instance (name : DottedName) (names : List DottedName) : Decidable (name ∈ names) := inferInstance

namespace DottedName

def text : DottedName → String
  | .top name => name
  | .sub parent name => parent.text ++ "." ++ name

def parts : DottedName → List String
  | .top name => [name.val]
  | .sub parent name => parent.parts ++ [name.val]

/-- The first component. -/
def head : DottedName → Component
  | .top name => name
  | .sub parent _ => parent.head

/-- The components of a text, between its dots. -/
def components (text : List Char) : List Component :=
  (text.splitOn '.').attach.map fun part => ⟨String.ofList part.val, by
    rw [String.toList_ofList]
    exact Foundation.Splitting.not_mem_of_mem_splitOn part.property⟩

/-- The key of `sys.modules` that a text is. -/
def named (text : List Char) : DottedName :=
  match components text with
  | [] => .top ⟨"", List.not_mem_nil⟩
  | first :: rest => rest.foldl .sub (.top first)

private theorem parts_foldl (name : DottedName) (rest : List Component) :
    (rest.foldl sub name).parts = name.parts ++ rest.map Subtype.val := by
  induction rest generalizing name with
  | nil => exact (List.append_nil _).symm
  | cons next rest ih =>
      rw [List.foldl_cons, ih, parts, List.append_assoc]
      rfl

private theorem map_val_components (text : List Char) :
    (components text).map Subtype.val = (text.splitOn '.').map String.ofList := by
  rw [components, List.map_map]
  exact List.attach_map_val (f := String.ofList)

private theorem exists_components (text : List Char) :
    ∃ first rest, components text = first :: rest := by
  apply List.exists_cons_of_ne_nil
  rw [components, ne_eq, List.map_eq_nil_iff, List.attach_eq_nil_iff]
  exact List.splitOn_ne_nil _ _

/-- The name is split off at every dot. -/
theorem parts_named (text : List Char) :
    (named text).parts = (text.splitOn '.').map String.ofList := by
  obtain ⟨first, rest, split⟩ := exists_components text
  rw [← map_val_components, named, split]
  exact parts_foldl _ _

private theorem head_foldl (name : DottedName) (rest : List Component) :
    (rest.foldl sub name).head = name.head := by
  induction rest generalizing name with
  | nil => rfl
  | cons next rest ih => exact ih (name.sub next)

/-- What begins a text before its first dot begins the first component. -/
theorem prefix_head_named {front text : List Char} (free : '.' ∉ front) (begins : front <+: text) :
    front <+: (named text).head.val.toList := by
  obtain ⟨first, rest, split⟩ := exists_components text
  have values := map_val_components text
  rw [split] at values
  obtain ⟨part, parts, whole, own, _⟩ := List.map_eq_cons_iff.mp values.symm
  rw [named, split]
  dsimp only
  rw [head_foldl]
  change front <+: first.val.toList
  rw [← own, String.toList_ofList]
  exact Foundation.Splitting.prefix_of_splitOn_eq_cons free begins whole

/-- The module that a text names; the empty one names none. -/
def ofText (text : List Char) : Option DottedName :=
  if text = [] then none else some (named text)

end DottedName

/-- Where a module comes from: its `__file__` and its `__path__`. A namespace package
has a path and no file. -/
structure Origin where
  file : Option PyPath
  locations : Option (List PyPath)
  deriving DecidableEq, Repr

/-- The files and directories. -/
structure FileTree where
  isFile : PyPath → Bool
  isDir : PyPath → Bool

/-- What a directory has under a name. -/
inductive Finding where
  | absent
  | loadable (origin : Origin)
  | portion (dir : PyPath)
  deriving DecidableEq, Repr

namespace Finding

def loadable? : Finding → Option Origin
  | .loadable origin => some origin
  | _ => none

def portion? : Finding → Option PyPath
  | .portion dir => some dir
  | _ => none

end Finding

namespace FileTree

variable (tree : FileTree)

def find (dir : PyPath) (name : String) : Finding :=
  if tree.isFile (dir ++ [name, "__init__.py"]) then
    .loadable ⟨some (dir ++ [name, "__init__.py"]), some [dir ++ [name]]⟩
  else if tree.isFile (dir ++ [name ++ ".py"]) then
    .loadable ⟨some (dir ++ [name ++ ".py"]), none⟩
  else if tree.isDir (dir ++ [name]) then .portion (dir ++ [name])
  else .absent

/-- The module of a name on a search path. -/
def search (path : List PyPath) (name : String) : Option Origin :=
  match path.findSome? fun dir => (tree.find dir name).loadable? with
  | some origin => some origin
  | none =>
      match path.filterMap fun dir => (tree.find dir name).portion? with
      | [] => none
      | portions => some ⟨none, some portions⟩

/-- The module that a dotted name has when it is looked up from a search path alone. -/
def resolve (path : List PyPath) : DottedName → Option Origin
  | .top name => tree.search path name
  | .sub parent name =>
      (resolve path parent).bind fun origin =>
        origin.locations.bind fun locations => tree.search locations name

end FileTree

/-- The imports that code performed, each with what it resolved to. -/
abbrev Trace : Type := List (DottedName × Except PyExc Origin)

/-- What executing plugin code does to the interpreter: imports, each next one
depending on how those before it were resolved. -/
inductive Code where
  | done
  | raise (exc : PyExc)
  | imp (name : DottedName) (next : Trace → Code)

/-- What executing a file does: a plugin's runs its code, and one of the base
environment is imported in one step, which may fail. -/
inductive FileBody where
  | plugin (code : Code)
  | environment (outcome : Except PyExc Unit)

structure Interp where
  path : List PyPath
  modules : AList (fun _ : DottedName => Origin)
  /-- The imports that plugin code performed. -/
  trace : Trace := []

namespace Interp

def register (name : DottedName) (origin : Origin) (state : Interp) : Interp :=
  { state with modules := state.modules.insert name origin }

/-- `sys.modules.pop(name, None)`. -/
def pop (name : DottedName) (state : Interp) : Interp :=
  { state with modules := state.modules.erase name }

def note (name : DottedName) (result : Except PyExc Origin) (state : Interp) : Interp :=
  { state with trace := state.trace ++ [(name, result)] }

section Path

variable (tree : FileTree)

/-- The portions of a namespace package after another search. -/
def refreshed (found : Option Origin) (stored : List PyPath) : List PyPath :=
  match found with
  | some ⟨none, some portions⟩ => portions
  | _ => stored

/-- Reading `__path__`. That of a namespace package is searched again on the path of
its parent, which is looked up in `sys.modules` and need not be there; what is found is
not stored. -/
def pathOf (state : Interp) : DottedName → Origin → Except PyExc (List PyPath)
  | _, ⟨_, none⟩ => .ok []
  | _, ⟨some _, some stored⟩ => .ok stored
  | .top name, ⟨none, some stored⟩ => .ok (refreshed (tree.search state.path name) stored)
  | .sub parent name, ⟨none, some stored⟩ =>
      match state.modules.lookup parent with
      | none => .error ⟨.ordinary, "KeyError", "'" ++ parent.text ++ "'"⟩
      | some origin =>
          (pathOf state parent origin).map fun locations =>
            refreshed (tree.search locations name) stored

end Path

section Import

variable (tree : FileTree) (exec : PyPath → Interp → Except PyExc Unit × Interp)

def notFound (name : DottedName) : PyExc :=
  ⟨.ordinary, "ModuleNotFoundError", "No module named '" ++ name.text ++ "'"⟩

def notPackage (parent : DottedName) (name : Component) : PyExc :=
  ⟨.ordinary, "ModuleNotFoundError", "No module named '" ++ (DottedName.sub parent name).text ++
    "'; '" ++ parent.text ++ "' is not a package"⟩

/-- Load a found module: register it and execute its file. A module whose file raises
is withdrawn. -/
def load (name : DottedName) (origin : Origin) (state : Interp) :
    Except PyExc Origin × Interp :=
  match origin.file with
  | none => (.ok origin, state.register name origin)
  | some file =>
      match exec file (state.register name origin) with
      | (.ok _, state) => (.ok origin, state)
      | (.error exc, state) => (.error exc, state.pop name)

/-- Load a module that is not cached from the given search path. -/
def loadFrom (locations : List PyPath) (name : DottedName) (last : Component) (state : Interp) :
    Except PyExc Origin × Interp :=
  match tree.search locations last with
  | none => (.error (notFound name), state)
  | some origin => load exec name origin state

/-- `import name`: the cached module, or else the parent package is imported and the
module loaded from its path. -/
def importName : DottedName → Interp → Except PyExc Origin × Interp
  | .top name, state =>
      match state.modules.lookup (.top name) with
      | some origin => (.ok origin, state)
      | none => loadFrom tree exec state.path (.top name) name state
  | .sub parent name, state =>
      match state.modules.lookup (.sub parent name) with
      | some origin => (.ok origin, state)
      | none =>
          match importName parent state with
          | (.error exc, state) => (.error exc, state)
          | (.ok origin, state) =>
              -- Executing the parent may have imported the module already.
              match state.modules.lookup (.sub parent name) with
              | some origin => (.ok origin, state)
              | none =>
                  if origin.locations.isNone then (.error (notPackage parent name), state)
                  else
                    match state.pathOf tree parent origin with
                    | .error exc => (.error exc, state)
                    | .ok locations =>
                        loadFrom tree exec locations (.sub parent name) name state

/-- Execute code, noting each import it performs. -/
def run : Code → Interp → Except PyExc Unit × Interp
  | .done, state => (.ok (), state)
  | .raise exc, state => (.error exc, state)
  | .imp name next, state =>
      let (result, state) := importName tree exec name state
      let state := state.note name result
      run (next state.trace) state

end Import

/-- Execute a file, with imports of plugin code nested at most as deep as the recursion
limit. -/
def execFile (tree : FileTree) (body : PyPath → FileBody) :
    ℕ → PyPath → Interp → Except PyExc Unit × Interp
  | 0, file, state =>
      match body file with
      | .environment outcome => (outcome, state)
      | .plugin _ =>
          (.error ⟨.ordinary, "RecursionError", "maximum recursion depth exceeded"⟩, state)
  | limit + 1, file, state =>
      match body file with
      | .environment outcome => (outcome, state)
      | .plugin code => run tree (execFile tree body limit) code state

end Interp

end BiothingsPulse
