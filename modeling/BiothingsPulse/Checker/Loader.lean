import BiothingsPulse.Checker.Imports
import BiothingsPulse.Foundation.Loop
import Mathlib.Data.List.Perm.Basic

/-!
# Turning a plugin into a dumper

Loading puts the repository's import roots at the front of `sys.path`, executes
plugin code, takes the roots off again and drops from `sys.modules` what the load
brought in from the repository. What plugin code does is a parameter (`Runtime`):
each file's imports, and what a module exposes once they are resolved.
-/

namespace BiothingsPulse

open Foundation

/-- A concrete dumper class: which class object it is, the length of its method
resolution order, and what instantiating it executes. -/
structure DumperClass where
  id : ℕ
  name : String
  mro : ℕ
  init : Code

/-- What `build_manifest_dumper` takes from a manifest: the checks it makes before it
imports anything, the module of a custom class, and the release spec, split. -/
structure Manifest where
  checks : Except PyExc Unit := .ok ()
  customClass : Option DottedName := none
  release : Option (Except PyExc (DottedName × String)) := none

/-- The plugin code and data that loading meets. -/
structure Runtime where
  tree : FileTree
  /-- The names in a directory. -/
  entries : PyPath → List String
  body : PyPath → FileBody
  /-- How deep imports may nest. -/
  limit : ℕ
  /-- Whether a module has an attribute other than `None`, after given imports. -/
  hasAttr : Trace → Origin → String → Bool
  /-- The dumper classes among a module's members, with the modules defining them. -/
  dumperClasses : Trace → Origin → List (String × DumperClass)
  manifest : PyPath → Except PyExc Manifest

/-- The order in which a set of names is iterated. -/
structure SetOrder where
  order : List DottedName → List DottedName
  perm : ∀ names, (order names).Perm names

inductive LoadedDumper where
  | manifest (release : Option (Origin × String))
  | advanced (klass : DumperClass)

section Paths

variable (tree : FileTree)

/-- The text of a path. -/
def pathText (path : PyPath) : List Char :=
  if path = [] then ['/'] else path.flatMap fun component => '/' :: component.toList

/-- `str(loc).startswith(root)`. -/
def startsUnder (root loc : PyPath) : Bool := (pathText root).isPrefixOf (pathText loc)

def FileTree.exists (path : PyPath) : Bool := tree.isFile path || tree.isDir path

/-- Dirs to add to `sys.path` so that shared modules of a repository import. -/
def repoSysPathEntries (repoPath : Option PyPath) : List PyPath :=
  match repoPath with
  | none => []
  | some repo => [repo, repo ++ ["src"]].filter tree.isDir

/-- Walk up while the parent is a package; the components are listed in reverse. At the
root a package has no end. -/
def packageTop : List String → Option (List String)
  | [] => if tree.exists ["__init__.py"] then none else some []
  | name :: parents =>
      if tree.exists (parents.reverse ++ ["__init__.py"]) then packageTop parents
      else some (name :: parents)

/-- `".".join(parts)`. -/
def dottedText (parts : List String) : List Char := ['.'].intercalate (parts.map String.toList)

/-- The `sys.path` entry and the dotted name of a source package. -/
def packageRootAndModule (sourceDir : PyPath) : Option (PyPath × Option DottedName) :=
  (packageTop tree sourceDir.reverse).map fun top =>
    (top.tail.reverse, DottedName.ofText (dottedText (sourceDir.drop top.tail.length)))

/-- The directory that contains `hub/` of a `hub/dataload/sources/<name>` source. -/
def hubSrcRoot (sourceDir : PyPath) : Option PyPath :=
  match sourceDir.reverse with
  | _ :: "sources" :: "dataload" :: "hub" :: rest => some rest.reverse
  | _ => none

/-- The entries needed for the imports of an advanced plugin, without repetition. -/
def advancedEntries (sysPathEntry : PyPath) (ref : PluginRef) : List PyPath :=
  ((hubSrcRoot ref.path).toList ++ ref.extraSysPath).foldl
    (fun entries entry => if entry ∈ entries then entries else entries ++ [entry]) [sysPathEntry]

/-- The entries for the import of a release function: those configured, and then the
plugin dir if the module is a file in it, or the repository's. -/
def releaseEntries (ref : PluginRef) (module : DottedName) : List PyPath :=
  ref.extraSysPath ++
    if tree.exists (ref.path ++ [module.text ++ ".py"]) then [ref.path]
    else repoSysPathEntries tree ref.repoPath

end Paths

namespace Interp

/-- Put an entry in front of `sys.path` if it is not there, and note that it was added. -/
def insertEntry (opened : List PyPath × Interp) (entry : PyPath) : List PyPath × Interp :=
  if entry ∈ opened.2.path then opened
  else (opened.1 ++ [entry], { opened.2 with path := entry :: opened.2.path })

/-- Put entries on `sys.path`, one by one; returns what was added. -/
def insertPath (entries : List PyPath) (state : Interp) : List PyPath × Interp :=
  entries.foldl insertEntry ([], state)

/-- Take the first occurrence of each entry off `sys.path`. -/
def removePath (added : List PyPath) (state : Interp) : Interp :=
  { state with path := added.foldl List.erase state.path }

section Purge

variable (tree : FileTree) (root : PyPath)

/-- Drop a module if it has a location or file under the root. -/
def purgeOne (name : DottedName) (state : Interp) : Except PyExc Unit × Interp :=
  match state.modules.lookup name with
  | none => (.ok (), state)
  | some origin =>
      match state.pathOf tree name origin with
      | .error exc => (.error exc, state)
      | .ok locations =>
          if (locations ++ origin.file.toList).any (startsUnder root) then (.ok (), state.pop name)
          else (.ok (), state)

/-- `set(sys.modules) - before`. -/
def newNames (before : List DottedName) (state : Interp) : List DottedName :=
  state.modules.keys.filter fun name => name ∉ before

end Purge

/-- Drop the modules imported during a load whose files live under the repository. -/
def purgeNewRepoModules (tree : FileTree) (order : SetOrder) (before : List DottedName)
    (repoPath : Option PyPath) (state : Interp) : Except PyExc Unit × Interp :=
  match repoPath with
  | none => (.ok (), state)
  | some root => Loop.forEach (purgeOne tree root) (order.order (newNames before state)) state

end Interp

namespace Runtime

variable (runtime : Runtime)

def exec (file : PyPath) (state : Interp) : Except PyExc Unit × Interp :=
  Interp.execFile runtime.tree runtime.body runtime.limit file state

/-- `importlib.import_module(name)`. -/
def importModule (name : DottedName) (state : Interp) : Except PyExc Origin × Interp :=
  let (result, state) := Interp.importName runtime.tree runtime.exec name state
  (result, state.note name result)

/-- Do something with the entries on `sys.path`, and clean up however it ends. -/
def withEntries {α : Type} (order : SetOrder) (repoPath : Option PyPath)
    (entries : List PyPath) (attempt : Interp → Except PyExc α × Interp) (state : Interp) :
    Except PyExc α × Interp :=
  let (added, opened) := Interp.insertPath entries state
  let (result, closed) := attempt opened
  match Interp.purgeNewRepoModules runtime.tree order state.modules.keys repoPath
      (closed.removePath added) with
  | (.ok _, state) => (result, state)
  | (.error exc, state) => (.error exc, state)

section Release

/-- `getattr(mod, funcname, None)`, which must not be `None`. -/
def releaseFunction (module : DottedName) (funcname : String) (imported : Except PyExc Origin)
    (state : Interp) : Except PyExc Origin × Interp :=
  match imported with
  | .error exc => (.error exc, state)
  | .ok origin =>
      if runtime.hasAttr state.trace origin funcname then (.ok origin, state)
      else (.error ⟨.loaderError, "LoaderError",
        "Function '" ++ funcname ++ "' not found in '" ++ module.text ++ "'"⟩, state)

/-- Import the module of a release function and look the function up. -/
def releaseAttempt (ref : PluginRef) (module : DottedName) (funcname : String)
    (state : Interp) : Except PyExc Origin × Interp :=
  let file := ref.path ++ [module.text ++ ".py"]
  let (imported, state) :=
    if runtime.tree.exists file then
      let (executed, state) := runtime.exec file state
      (executed.map fun _ => (⟨some file, none⟩ : Origin), state)
    else runtime.importModule module state
  runtime.releaseFunction module funcname imported state

/-- Import `module:func` for a manifest release function. -/
def importReleaseFunc (order : SetOrder) (ref : PluginRef) (module : DottedName)
    (funcname : String) (state : Interp) : Except PyExc Origin × Interp :=
  runtime.withEntries order ref.repoPath (releaseEntries runtime.tree ref module)
    (runtime.releaseAttempt ref module funcname) state

/-- Import the module of a custom base class. -/
def importCustomClass (manifest : Manifest) (state : Interp) : Except PyExc Unit × Interp :=
  match manifest.customClass with
  | none => (.ok (), state)
  | some module =>
      let (imported, state) := runtime.importModule module state
      (imported.map fun _ => (), state)

/-- Construct a dumper instance for a manifest plugin. -/
def buildManifestDumper (order : SetOrder) (ref : PluginRef) (manifest : Manifest)
    (state : Interp) : Except PyExc LoadedDumper × Interp :=
  match manifest.checks with
  | .error exc => (.error exc, state)
  | .ok _ =>
      match runtime.importCustomClass manifest state with
      | (.error exc, state) => (.error exc, state)
      | (.ok _, state) =>
          match manifest.release with
          | none => (.ok (.manifest none), state)
          | some (.error exc) => (.error exc, state)
          | some (.ok (module, funcname)) =>
              -- The class is then made and instantiated with the code of its base class,
              -- which is not a plugin's.
              let (imported, state) := runtime.importReleaseFunc order ref module funcname state
              (imported.map fun origin => .manifest (some (origin, funcname)), state)

end Release

section Advanced

/-- The names of the files that look like a dumper module, without their suffix and in
the order they are tried: those called `dumper` or `dump` first. -/
def candidates (sourceDir : PyPath) : List String :=
  let stems := (runtime.entries sourceDir).filterMap fun name =>
    if ".py".toList.isSuffixOf name.toList then
      some (String.ofList (name.toList.take (name.length - 3)))
    else none
  let dumps := stems.filter fun stem =>
    (stem.toList.map Char.toLower).tails.any ("dump".toList.isPrefixOf ·)
  let plain (stem : String) : Bool :=
    let lower := stem.toList.map Char.toLower
    lower = "dumper".toList || lower = "dump".toList
  dumps.mergeSort fun first second =>
    if plain first = plain second then first ++ ".py" ≤ second ++ ".py" else plain first

/-- The last of the most derived classes. -/
def best (classes : List DumperClass) : Option DumperClass :=
  classes.foldl
    (fun chosen klass =>
      match chosen with
      | none => some klass
      | some other => if other.mro ≤ klass.mro then some klass else some other)
    none

/-- The dumper classes of a module that are defined where they should be. -/
def dumperClassesIn (origin : Origin) (definedIn : String → Bool) (state : Interp) :
    List DumperClass :=
  ((runtime.dumperClasses state.trace origin).filter fun entry => definedIn entry.1).map Prod.snd

def runCode (code : Code) (state : Interp) : Except PyExc Unit × Interp :=
  Interp.run runtime.tree runtime.exec code state

def instantiate (klass : DumperClass) (state : Interp) : Except PyExc DumperClass × Interp :=
  match runtime.runCode klass.init state with
  | (.ok _, state) => (.ok klass, state)
  | (.error exc, state) =>
      if exc.isException then
        (.error ⟨.loaderError, "LoaderError",
          "instantiating " ++ klass.name ++ " failed: " ++ exc.message⟩, state)
      else (.error exc, state)

/-- The key under which a dumper module is loaded by its file. -/
def fileModule (modulePrefix stem : String) : DottedName :=
  .named (modulePrefix ++ "_" ++ stem).toList

/-- Load the dumper module by file path; `none` if no candidate has a dumper class. -/
def loadDumperByFile (sourceDir : PyPath) (modulePrefix : String) :
    List String → Interp → Except PyExc (Option DumperClass) × Interp
  | [], state => (.ok none, state)
  | stem :: rest, state =>
      let unique := modulePrefix ++ "_" ++ stem
      let origin : Origin := ⟨some (sourceDir ++ [stem ++ ".py"]), none⟩
      match runtime.exec (sourceDir ++ [stem ++ ".py"])
          (state.register (fileModule modulePrefix stem) origin) with
      | (.error exc, state) =>
          if exc.isException then
            loadDumperByFile sourceDir modulePrefix rest (state.pop (fileModule modulePrefix stem))
          else (.error exc, state)
      | (.ok _, state) =>
          match best (runtime.dumperClassesIn origin (· = unique) state) with
          | none => loadDumperByFile sourceDir modulePrefix rest state
          | some klass =>
              let (made, state) := runtime.instantiate klass state
              (made.map some, state)

/-- The classes of the `dumper` and `dump` submodules, as far as they import. -/
def submoduleClasses (dotted : DottedName) (definedIn : String → Bool) :
    List Component → Interp → Except PyExc (List DumperClass) × Interp
  | [], state => (.ok [], state)
  | name :: rest, state =>
      match runtime.importModule (.sub dotted name) state with
      | (.error exc, state) =>
          if exc.isException then submoduleClasses dotted definedIn rest state
          else (.error exc, state)
      | (.ok origin, state) =>
          let classes := runtime.dumperClassesIn origin definedIn state
          let (others, state) := submoduleClasses dotted definedIn rest state
          (others.map (classes ++ ·), state)

def dumperSubmodules : List Component := [⟨"dumper", by decide⟩, ⟨"dump", by decide⟩]

/-- Import the whole package and find a dumper class defined in it. -/
def loadPackage (dotted : DottedName) (state : Interp) : Except PyExc DumperClass × Interp :=
  let definedIn (module : String) : Bool := dotted.text.toList.isPrefixOf module.toList
  match runtime.importModule dotted state with
  | (.error exc, state) =>
      if exc.isException then
        (.error ⟨.loaderError, "LoaderError",
          "import of " ++ dotted.text ++ " failed: " ++ exc.message⟩, state)
      else (.error exc, state)
  | (.ok origin, state) =>
      let classes := runtime.dumperClassesIn origin definedIn state
      match runtime.submoduleClasses dotted definedIn dumperSubmodules state with
      | (.error exc, state) => (.error exc, state)
      | (.ok others, state) =>
          match best (classes ++ others) with
          | none => (.error ⟨.unsupportedPlugin, "UnsupportedPlugin",
              "no BaseDumper subclass found in package"⟩, state)
          | some klass => runtime.instantiate klass state

/-- `"pulseadv_" + dotted.replace(".", "_")`. -/
def modulePrefix (dotted : DottedName) : String :=
  "pulseadv_" ++ String.ofList (dotted.text.toList.map fun c => if c = '.' then '_' else c)

/-- The names that the loader makes up begin alike. -/
theorem prefix_head_fileModule (dotted : DottedName) (stem : String) :
    "pulseadv_".toList <+: (fileModule (modulePrefix dotted) stem).head.val.toList := by
  apply DottedName.prefix_head_named (by decide)
  simp only [modulePrefix, String.toList_append, List.append_assoc]
  exact List.prefix_append _ _

/-- The dumper module by file, or else the package. -/
def advancedAttempt (sourceDir : PyPath) (dotted : DottedName) (state : Interp) :
    Except PyExc DumperClass × Interp :=
  match runtime.loadDumperByFile sourceDir (modulePrefix dotted)
      (runtime.candidates sourceDir) state with
  | (.error exc, state) => (.error exc, state)
  | (.ok (some klass), state) => (.ok klass, state)
  | (.ok none, state) => runtime.loadPackage dotted state

/-- Import an advanced plugin's dumper class and instantiate it. -/
def loadAdvancedDumper (order : SetOrder) (ref : PluginRef) (state : Interp) :
    Except PyExc LoadedDumper × Interp :=
  match packageRootAndModule runtime.tree ref.path with
  | some (sysPathEntry, some dotted) =>
      let (loaded, state) := runtime.withEntries order ref.repoPath
        (advancedEntries sysPathEntry ref) (runtime.advancedAttempt ref.path dotted) state
      (loaded.map .advanced, state)
  -- A source directory without a name, or below an endless chain of packages.
  | _ => (.error ⟨.ordinary, "ValueError", "Empty module name"⟩, state)

end Advanced

/-- Dispatch by plugin type. -/
def loadDumper (order : SetOrder) (ref : PluginRef) (state : Interp) :
    Except PyExc LoadedDumper × Interp :=
  match ref.pluginType with
  | .manifest =>
      match ref.manifestPath with
      | none => (.error ⟨.ordinary, "AssertionError", ""⟩, state)
      | some path =>
          match runtime.manifest path with
          | .error exc => (.error exc, state)
          | .ok manifest => runtime.buildManifestDumper order ref manifest state
  | .advanced => runtime.loadAdvancedDumper order ref state
  | .unknown => (.error ⟨.unsupportedPlugin, "UnsupportedPlugin",
      "unknown plugin type 'unknown'"⟩, state)
  | .other text => (.error ⟨.unsupportedPlugin, "UnsupportedPlugin",
      "unknown plugin type '" ++ text ++ "'"⟩, state)

end Runtime

end BiothingsPulse
