import BiothingsPulse.Foundation.FirstOccurrence
import BiothingsPulse.Foundation.Loop
import BiothingsPulse.Plugins.Sync
import BiothingsPulse.Python.Text
import Mathlib.Data.List.Basic
import Mathlib.Data.List.Lex
import Mathlib.Data.String.Basic

/-!
# Discovering the plugins of a repository

The globs of a repository are gone through in order, first those for manifests and then
those for advanced plugins, each in the sorted order of its matches. Two sets that the
loops share keep a name from being discovered twice, and from being discovered as an
advanced plugin when a manifest has it. What the file system answers is a parameter.
-/

namespace BiothingsPulse

open Foundation

/-- The checkouts in the file system, and the host of a URL. A file name has no slash. -/
structure Checkouts where
  glob : PyPath → String → Except PyExc (List PyPath)
  isFile : PyPath → Except PyExc Bool
  isDir : PyPath → Except PyExc Bool
  present : PyPath → Except PyExc Bool
  /-- The decodable text of a file, unless reading it raises an `OSError`. -/
  readText : PyPath → Option String
  resolve : PyPath → Except PyExc PyPath
  netloc : String → Except PyExc String
  plain : ∀ dir pattern paths, glob dir pattern = .ok paths →
    ∀ path ∈ paths, ∀ component ∈ path, '/' ∉ component.toList

section Paths

/-- The last component of a path. -/
def pathName (path : PyPath) : String := path.getLast?.getD ""

def pathParent (path : PyPath) : PyPath := path.dropLast

/-- The name without its last suffix. -/
def pathStem (path : PyPath) : List Char :=
  let name := (pathName path).toList
  let stem := (name.reverse.dropWhile (· ≠ '.')).tail.reverse
  if 0 < stem.length ∧ stem.length < name.length - 1 then stem else name

/-- `base / text`. -/
def joinPath (base : PyPath) (text : String) : PyPath :=
  let parts := ((text.toList.splitOn '/').map String.ofList).filter fun part =>
    part ≠ "" ∧ part ≠ "."
  if "/".toList.isPrefixOf text.toList then parts else base ++ parts

def sortPaths (paths : List PyPath) : List PyPath :=
  paths.mergeSort fun first second => first ≤ second

end Paths

/-- Normalise a git clone URL to a browsable web URL. -/
def gitWebUrl (gitUrl : String) : Option String :=
  let u := pyStrip gitUrl.toList
  let u := if "git+".toList.isPrefixOf u then u.drop 4 else u
  let u :=
    if "git@".toList.isPrefixOf u ∧ ':' ∈ u then
      let rest := u.drop 4
      "https://".toList ++ rest.takeWhile (· ≠ ':') ++ '/' :: (rest.dropWhile (· ≠ ':')).tail
    else u
  let u := if ".git".toList.isSuffixOf u then u.take (u.length - 4) else u
  let u := (u.reverse.dropWhile (· = '/')).reverse
  if u = [] then none else some (String.ofList u)

namespace Checkouts

variable (checkouts : Checkouts)

/-- Web link to a plugin's source directory within its repository. -/
def sourceUrl (spec : RepoSpec) (repoPath pluginDir : PyPath) : Except PyExc (Option String) :=
  match gitWebUrl spec.gitUrl with
  | none => .ok none
  | some web => do
      let dir ← checkouts.resolve pluginDir
      let root ← checkouts.resolve repoPath
      let rel :=
        if root.isPrefixOf dir then
          if dir.length = root.length then "." else "/".intercalate (dir.drop root.length)
        else ""
      let host ← checkouts.netloc web
      return some <|
        if host = "github.com" ∧ rel ≠ "" then
          web ++ "/tree/" ++ spec.wanted.getD "HEAD" ++ "/" ++ rel
        else web

/-- A source package dir that plausibly contains a dumper: a `*dump*.py` module, or an
`__init__.py` that references a dumper. -/
def looksLikeAdvancedPlugin (path : PyPath) : Except PyExc Bool := do
  if !(← checkouts.isDir path) || ".".toList.isPrefixOf (pathName path).toList ||
      "__".toList.isPrefixOf (pathName path).toList then
    return false
  let pyfiles ← checkouts.glob path "*.py"
  if pyfiles = [] then return false
  if pyfiles.any fun file => contains "dump".toList ((pathStem file).map Char.toLower) then
    return true
  if ← checkouts.present (path ++ ["__init__.py"]) then
    return match checkouts.readText (path ++ ["__init__.py"]) with
      | some text => contains "dump".toList (lowered text)
      | none => false
  return false

/-- What the loops of a discovery have found so far. -/
structure Found where
  seen : List (String × PluginType) := []
  manifestNames : List String := []
  refs : List PluginRef := []

section Discover

variable (repoName : String) (repoPath : PyPath) (spec : RepoSpec)

def manifestRef (extraSysPath : List PyPath) (url : Option String) (mpath : PyPath) :
    PluginRef where
  repo := repoName
  name := pathName (pathParent mpath)
  pluginType := .manifest
  path := pathParent mpath
  manifestPath := some mpath
  repoPath := some repoPath
  sourceUrl := url
  extraSysPath := extraSysPath

def advancedRef (extraSysPath : List PyPath) (url : Option String) (spath : PyPath) :
    PluginRef where
  repo := repoName
  name := pathName spath
  pluginType := .advanced
  path := spath
  repoPath := some repoPath
  sourceUrl := url
  extraSysPath := extraSysPath

/-- One match of a manifest glob. -/
def takeManifest (extraSysPath : List PyPath) (found : Found) (mpath : PyPath) :
    Except PyExc Found := do
  if !(← checkouts.isFile mpath) || pathName mpath ≠ "manifest.json" then return found
  let name := pathName (pathParent mpath)
  if (name, PluginType.manifest) ∈ found.seen then return found
  let url ← checkouts.sourceUrl spec repoPath (pathParent mpath)
  return {
    seen := (name, .manifest) :: found.seen
    manifestNames := name :: found.manifestNames
    refs := found.refs ++ [manifestRef repoName repoPath extraSysPath url mpath] }

/-- One match of an advanced glob. A manifest plugin of the same name wins. -/
def takeAdvanced (extraSysPath : List PyPath) (found : Found) (spath : PyPath) :
    Except PyExc Found := do
  if !(← checkouts.looksLikeAdvancedPlugin spath) then return found
  let name := pathName spath
  if name ∈ found.manifestNames then return found
  if (name, PluginType.advanced) ∈ found.seen then return found
  let url ← checkouts.sourceUrl spec repoPath spath
  return { found with
    seen := (name, .advanced) :: found.seen
    refs := found.refs ++ [advancedRef repoName repoPath extraSysPath url spath] }

/-- Take the matches of each pattern in sorted order. -/
def forMatches (take : Found → PyPath → Except PyExc Found) :
    List String → Found → Except PyExc Found
  | [], found => .ok found
  | pattern :: rest, found => do
      let paths ← checkouts.glob repoPath pattern
      let found ← (sortPaths paths).foldlM take found
      forMatches take rest found

/-- All plugins found under a repository per its globs. -/
def discoverPlugins : Except PyExc (List PluginRef) := do
  let extraSysPath ← Loop.select checkouts.isDir (spec.sysPath.map (joinPath repoPath))
  let found ← checkouts.forMatches repoPath
    (checkouts.takeManifest repoName repoPath spec extraSysPath) spec.manifestGlobs {}
  let found ← checkouts.forMatches repoPath
    (checkouts.takeAdvanced repoName repoPath spec extraSysPath) spec.advancedGlobs found
  return found.refs

end Discover

section Expected

variable (repoName : String) (repoPath : PyPath) (spec : RepoSpec)

/-- The keys under which the loops note what they have seen. -/
def manifestKey (mpath : PyPath) : String × PluginType := (pathName (pathParent mpath), .manifest)

def advancedKey (spath : PyPath) : String × PluginType := (pathName spath, .advanced)

/-- The matches of globs, in the order in which they are gone through. -/
def globbed (patterns : List String) : List PyPath :=
  patterns.flatMap fun pattern => sortPaths ((checkouts.glob repoPath pattern).toOption.getD [])

/-- A regular file called `manifest.json`. -/
def isManifest (path : PyPath) : Bool :=
  (checkouts.isFile path).toOption.getD false && pathName path = "manifest.json"

def isAdvanced (path : PyPath) : Bool :=
  (checkouts.looksLikeAdvancedPlugin path).toOption.getD false

/-- An advanced plugin whose name is none of those of manifests. -/
def unclaimed (names : List String) (path : PyPath) : Bool :=
  checkouts.isAdvanced path && decide (pathName path ∉ names)

/-- The first manifest whose directory has the name. -/
def firstManifest (name : String) : Option PyPath :=
  (checkouts.globbed repoPath spec.manifestGlobs).find? fun path =>
    checkouts.isManifest path && pathName (pathParent path) = name

/-- The first directory of the name that looks like an advanced plugin. -/
def firstAdvanced (name : String) : Option PyPath :=
  (checkouts.globbed repoPath spec.advancedGlobs).find? fun path =>
    checkouts.isAdvanced path && pathName path = name

/-- The repo-configured directories that exist. -/
def sysPathDirs : List PyPath :=
  (spec.sysPath.map (joinPath repoPath)).filter fun dir =>
    (checkouts.isDir dir).toOption.getD false

def linkOf (dir : PyPath) : Option String :=
  (checkouts.sourceUrl spec repoPath dir).toOption.join

/-- The entry of a manifest. -/
def manifestEntry (mpath : PyPath) : PluginRef :=
  manifestRef repoName repoPath (checkouts.sysPathDirs repoPath spec)
    (checkouts.linkOf repoPath spec (pathParent mpath)) mpath

/-- The entry of an advanced plugin. -/
def advancedEntry (spath : PyPath) : PluginRef :=
  advancedRef repoName repoPath (checkouts.sysPathDirs repoPath spec)
    (checkouts.linkOf repoPath spec spath) spath

/-- The entry for a name: that of its first manifest, or else that of the first directory
of the name that looks like an advanced plugin. -/
def expected (name : String) : Option PluginRef :=
  match checkouts.firstManifest repoPath spec name with
  | some mpath => some (checkouts.manifestEntry repoName repoPath spec mpath)
  | none => (checkouts.firstAdvanced repoPath spec name).map
      (checkouts.advancedEntry repoName repoPath spec)

end Expected

section Exact

variable {checkouts} {repoName : String} {repoPath : PyPath} {spec : RepoSpec}
  {extraSysPath : List PyPath} {found next final : Found} {path : PyPath}

/-- One match of a manifest glob: a manifest whose directory name is new is found. -/
theorem takeManifest_eq {regular : Bool} (tested : checkouts.isFile path = .ok regular) :
    checkouts.takeManifest repoName repoPath spec extraSysPath found path =
      if checkouts.isManifest path = true ∧ manifestKey path ∉ found.seen then
        (checkouts.sourceUrl spec repoPath (pathParent path)).map fun url => {
          seen := manifestKey path :: found.seen
          manifestNames := pathName (pathParent path) :: found.manifestNames
          refs := found.refs ++ [manifestRef repoName repoPath extraSysPath url path] }
      else .ok found := by
  have manifest : checkouts.isManifest path = (regular && pathName path = "manifest.json") := by
    rw [isManifest, tested]
    rfl
  unfold takeManifest manifestKey
  rw [manifest, tested]
  change (if (!regular || decide (pathName path ≠ "manifest.json")) = true then _ else _) = _
  cases regular with
  | false => rfl
  | true =>
      by_cases named : pathName path = "manifest.json"
      · by_cases repeated : (pathName (pathParent path), PluginType.manifest) ∈ found.seen
        · simp only [named, repeated, decide_true, Bool.and_self, not_true_eq_false, and_false,
            ↓reduceIte]
          rfl
        · simp only [named, repeated, decide_true, Bool.and_self, not_false_eq_true, and_self,
            ↓reduceIte]
          cases checkouts.sourceUrl spec repoPath (pathParent path) <;> rfl
      · simp only [named, ne_eq, not_false_eq_true, decide_true, Bool.or_true, decide_false,
          Bool.and_false, Bool.false_eq_true, false_and, ↓reduceIte]
        rfl

/-- One match of an advanced glob: an advanced plugin is found if no manifest has its name
and the name is new. -/
theorem takeAdvanced_eq {looks : Bool}
    (tested : checkouts.looksLikeAdvancedPlugin path = .ok looks) :
    checkouts.takeAdvanced repoName repoPath spec extraSysPath found path =
      if checkouts.unclaimed found.manifestNames path = true ∧
          advancedKey path ∉ found.seen then
        (checkouts.sourceUrl spec repoPath path).map fun url => { found with
          seen := advancedKey path :: found.seen
          refs := found.refs ++ [advancedRef repoName repoPath extraSysPath url path] }
      else .ok found := by
  have advanced : checkouts.isAdvanced path = looks := by
    rw [isAdvanced, tested]
    rfl
  unfold takeAdvanced unclaimed advancedKey
  rw [advanced, tested]
  change (if (!looks) = true then _ else _) = _
  cases looks with
  | false => rfl
  | true =>
      by_cases taken : pathName path ∈ found.manifestNames
      · simp only [taken, not_true_eq_false, decide_false, Bool.and_false, Bool.false_eq_true,
          false_and, ↓reduceIte]
        rfl
      · by_cases repeated : (pathName path, PluginType.advanced) ∈ found.seen
        · simp only [taken, repeated, Bool.not_true, Bool.false_eq_true, not_true_eq_false,
            and_false, ↓reduceIte]
          rfl
        · simp only [taken, repeated, Bool.not_true, Bool.false_eq_true, not_false_eq_true,
            decide_true, Bool.and_self, and_self, ↓reduceIte]
          cases checkouts.sourceUrl spec repoPath path <;> rfl

/-- The loops go through the matches of all patterns in order. -/
theorem forMatches_eq {take : Found → PyPath → Except PyExc Found} {patterns : List String}
    (completed : checkouts.forMatches repoPath take patterns found = .ok final) :
    (checkouts.globbed repoPath patterns).foldlM take found = .ok final ∧
      ∀ pattern ∈ patterns, ∃ paths, checkouts.glob repoPath pattern = .ok paths := by
  induction patterns generalizing found with
  | nil => exact ⟨completed, fun _ member => absurd member List.not_mem_nil⟩
  | cons pattern rest ih =>
      rw [forMatches] at completed
      obtain ⟨paths, globs, taking⟩ := Loop.bind_eq_ok.mp completed
      obtain ⟨next, taken, remaining⟩ := Loop.bind_eq_ok.mp taking
      obtain ⟨later, answered⟩ := ih remaining
      refine ⟨?_, List.forall_mem_cons.mpr ⟨⟨paths, globs⟩, answered⟩⟩
      have first : sortPaths ((checkouts.glob repoPath pattern).toOption.getD []) =
          sortPaths paths := by rw [globs]; rfl
      rw [globbed, List.flatMap_cons, first, List.foldlM_append, taken]
      exact later

/-- A match is taken as what is new or not at all. -/
theorem takeManifest_collects :
    Collects (checkouts.takeManifest repoName repoPath spec extraSysPath) checkouts.isManifest
      manifestKey (fun path => manifestRef repoName repoPath extraSysPath
        (checkouts.linkOf repoPath spec (pathParent path)) path) Found.seen Found.refs
      (fun found => ∀ name, name ∈ found.manifestNames ↔ (name, .manifest) ∈ found.seen) where
  skips := by
    intro found path next _ taken skipped
    obtain ⟨regular, tested, -⟩ := Loop.bind_eq_ok.mp taken
    rw [takeManifest_eq tested, if_neg skipped] at taken
    exact (Except.ok.inj taken).symm
  takes := by
    intro found path next kept taken accepted fresh
    obtain ⟨regular, tested, -⟩ := Loop.bind_eq_ok.mp taken
    rw [takeManifest_eq tested, if_pos ⟨accepted, fresh⟩] at taken
    obtain ⟨url, linked, rfl⟩ := Loop.map_eq_ok.mp taken
    refine ⟨fun name => ?_, rfl, ?_⟩
    · rw [List.mem_cons, List.mem_cons, kept name, manifestKey, Prod.mk.injEq,
        and_iff_left rfl]
    · rw [linkOf, linked]
      rfl

private theorem takeAdvanced_collects (names : List String) :
    Collects (checkouts.takeAdvanced repoName repoPath spec extraSysPath)
      (checkouts.unclaimed names)
      advancedKey (fun path => advancedRef repoName repoPath extraSysPath
        (checkouts.linkOf repoPath spec path) path) Found.seen Found.refs
      (fun found => found.manifestNames = names) where
  skips := by
    rintro found path next rfl taken skipped
    obtain ⟨looks, tested, -⟩ := Loop.bind_eq_ok.mp taken
    rw [takeAdvanced_eq tested, if_neg skipped] at taken
    exact (Except.ok.inj taken).symm
  takes := by
    rintro found path next rfl taken accepted fresh
    obtain ⟨looks, tested, -⟩ := Loop.bind_eq_ok.mp taken
    rw [takeAdvanced_eq tested, if_pos ⟨accepted, fresh⟩] at taken
    obtain ⟨url, linked, rfl⟩ := Loop.map_eq_ok.mp taken
    refine ⟨rfl, rfl, ?_⟩
    rw [linkOf, linked]
    rfl

/-- A discovery that completes finds the first manifests, and the first advanced plugins
among those that no manifest has the name of. -/
theorem discoverPlugins_eq_ok {refs : List PluginRef}
    (completed : checkouts.discoverPlugins repoName repoPath spec = .ok refs) :
    ∃ names seen, refs =
        (firsts manifestKey []
          ((checkouts.globbed repoPath spec.manifestGlobs).filter checkouts.isManifest)).map
            (checkouts.manifestEntry repoName repoPath spec) ++
        (firsts advancedKey seen
          ((checkouts.globbed repoPath spec.advancedGlobs).filter (checkouts.unclaimed names))).map
            (checkouts.advancedEntry repoName repoPath spec) ∧
      (∀ name, name ∈ names ↔ (name, PluginType.manifest) ∈ seen) ∧
      ∀ key, key ∈ seen ↔ key ∈ (firsts manifestKey []
        ((checkouts.globbed repoPath spec.manifestGlobs).filter checkouts.isManifest)).map
          manifestKey := by
  unfold discoverPlugins at completed
  obtain ⟨dirs, selected, taking⟩ := Loop.bind_eq_ok.mp completed
  obtain rfl : dirs = checkouts.sysPathDirs repoPath spec := Loop.select_eq_ok selected
  obtain ⟨found, manifests, more⟩ := Loop.bind_eq_ok.mp taking
  obtain ⟨final, advanced, returned⟩ := Loop.bind_eq_ok.mp more
  obtain rfl := Except.ok.inj returned
  obtain ⟨named, first, seen⟩ := takeManifest_collects.foldlM
    (fun _ => Iff.intro (fun inside => absurd inside List.not_mem_nil)
      fun inside => absurd inside List.not_mem_nil)
    (forMatches_eq manifests).1
  obtain ⟨_, second, _⟩ := (takeAdvanced_collects found.manifestNames).foldlM rfl
    (forMatches_eq advanced).1
  refine ⟨found.manifestNames, found.seen, ?_, named, fun key => ?_⟩
  · rw [second, first]
    rfl
  · rw [seen key, or_iff_right List.not_mem_nil]

variable (repoPath spec) in
/-- The manifests that are found are the first of their names. -/
theorem mem_firsts_manifest :
    path ∈ firsts manifestKey []
        ((checkouts.globbed repoPath spec.manifestGlobs).filter checkouts.isManifest) ↔
      checkouts.firstManifest repoPath spec (pathName (pathParent path)) = some path := by
  rw [mem_firsts_iff, and_iff_right List.not_mem_nil, List.find?_filter, firstManifest]
  have same : (fun other => decide (checkouts.isManifest other = true ∧
        decide (manifestKey other = manifestKey path) = true)) =
      fun other => checkouts.isManifest other &&
        decide (pathName (pathParent other) = pathName (pathParent path)) := by
    funext other
    simp [manifestKey]
  rw [same]

variable (repoPath spec) in
/-- The advanced plugins that are found are the first of their names, among the names that
no manifest has. -/
theorem mem_firsts_advanced {names : List String} {seen : List (String × PluginType)}
    (fresh : ∀ name, (name, PluginType.advanced) ∉ seen) :
    path ∈ firsts advancedKey seen
        ((checkouts.globbed repoPath spec.advancedGlobs).filter (checkouts.unclaimed names)) ↔
      pathName path ∉ names ∧
        checkouts.firstAdvanced repoPath spec (pathName path) = some path := by
  have unseen : advancedKey path ∉ seen := fresh (pathName path)
  rw [mem_firsts_iff, and_iff_right unseen, List.find?_filter, firstAdvanced]
  by_cases claimed : pathName path ∈ names
  · refine iff_of_false ?_ fun kept => kept.1 claimed
    intro found
    have passes := List.find?_some found
    simp [unclaimed, claimed] at passes
  · have same : (fun other => decide (checkouts.unclaimed names other = true ∧
          decide (advancedKey other = advancedKey path) = true)) =
        fun other => checkouts.isAdvanced other &&
          decide (pathName other = pathName path) := by
      funext other
      by_cases equal : pathName other = pathName path
      · simp [unclaimed, advancedKey, equal, claimed]
      · simp [advancedKey, equal]
    rw [same, and_iff_right claimed]

private theorem expected_of_manifest {name : String} {mpath : PyPath}
    (found : checkouts.firstManifest repoPath spec name = some mpath) :
    checkouts.expected repoName repoPath spec name =
      some (checkouts.manifestEntry repoName repoPath spec mpath) := by
  rw [expected, found]

private theorem expected_of_advanced {name : String} {spath : PyPath}
    (unclaimed : checkouts.firstManifest repoPath spec name = none)
    (found : checkouts.firstAdvanced repoPath spec name = some spath) :
    checkouts.expected repoName repoPath spec name =
      some (checkouts.advancedEntry repoName repoPath spec spath) := by
  rw [expected, unclaimed, found]
  rfl

/-- An expected entry is that of the first manifest, or of the first advanced plugin. -/
theorem expected_cases {name : String} {entry : PluginRef}
    (expects : checkouts.expected repoName repoPath spec name = some entry) :
    (∃ mpath, checkouts.firstManifest repoPath spec name = some mpath ∧
        checkouts.manifestEntry repoName repoPath spec mpath = entry) ∨
      checkouts.firstManifest repoPath spec name = none ∧
        ∃ spath, checkouts.firstAdvanced repoPath spec name = some spath ∧
          checkouts.advancedEntry repoName repoPath spec spath = entry := by
  unfold expected at expects
  cases found : checkouts.firstManifest repoPath spec name with
  | some mpath =>
      rw [found] at expects
      exact .inl ⟨mpath, rfl, Option.some.inj expects⟩
  | none =>
      rw [found] at expects
      obtain ⟨spath, first, made⟩ := Option.map_eq_some_iff.mp expects
      exact .inr ⟨rfl, spath, first, made⟩

private theorem pathName_plain (plain : ∀ component ∈ path, '/' ∉ component.toList) :
    '/' ∉ (pathName path).toList := by
  unfold pathName
  cases last : path.getLast? with
  | none => exact List.not_mem_nil
  | some component => exact plain component (List.mem_of_getLast? last)

/-- The paths that globs match have plain components. -/
theorem globbed_plain {patterns : List String}
    (member : path ∈ checkouts.globbed repoPath patterns) :
    ∀ component ∈ path, '/' ∉ component.toList := by
  obtain ⟨pattern, _, sorted⟩ := List.mem_flatMap.mp member
  have matched := (List.mergeSort_perm _ _).mem_iff.mp sorted
  cases globs : checkouts.glob repoPath pattern with
  | error exc => rw [globs] at matched; exact absurd matched List.not_mem_nil
  | ok paths =>
      rw [globs] at matched
      exact checkouts.plain repoPath pattern paths globs path matched

/-- An expected entry belongs to the repository, and its name is free of slashes. -/
theorem expected_plain {name : String} {entry : PluginRef}
    (expects : checkouts.expected repoName repoPath spec name = some entry) :
    entry.repo = repoName ∧ entry.name = name ∧ '/' ∉ entry.name.toList := by
  obtain ⟨mpath, found, rfl⟩ | ⟨_, spath, found, rfl⟩ := expected_cases expects
  · have passes := List.find?_some found
    have plain := globbed_plain (List.mem_of_find?_eq_some found)
    refine ⟨rfl, of_decide_eq_true (Bool.and_eq_true _ _ |>.mp passes).2, ?_⟩
    exact pathName_plain fun component inside => plain component (List.mem_of_mem_dropLast inside)
  · have passes := List.find?_some found
    have plain := globbed_plain (List.mem_of_find?_eq_some found)
    exact ⟨rfl, of_decide_eq_true (Bool.and_eq_true _ _ |>.mp passes).2, pathName_plain plain⟩

/-- The noted keys are those of the names that have a manifest. -/
theorem mem_manifestKeys {name : String} :
    (name, PluginType.manifest) ∈ (firsts manifestKey []
        ((checkouts.globbed repoPath spec.manifestGlobs).filter checkouts.isManifest)).map
          manifestKey ↔
      ∃ mpath, checkouts.firstManifest repoPath spec name = some mpath := by
  rw [List.mem_map]
  constructor
  · rintro ⟨mpath, found, equal⟩
    obtain ⟨rfl, _⟩ := Prod.mk.inj equal
    exact ⟨mpath, (mem_firsts_manifest repoPath spec).mp found⟩
  · rintro ⟨mpath, found⟩
    have passes := List.find?_some found
    have equal : pathName (pathParent mpath) = name :=
      of_decide_eq_true (Bool.and_eq_true _ _ |>.mp passes).2
    exact ⟨mpath, (mem_firsts_manifest repoPath spec).mpr (equal.symm ▸ found),
      congrArg (·, PluginType.manifest) equal⟩

/-- **The discovered plugins are the expected ones**, one for each name. -/
theorem discoverPlugins_exact {refs : List PluginRef}
    (completed : checkouts.discoverPlugins repoName repoPath spec = .ok refs) :
    (∀ entry, entry ∈ refs ↔
        checkouts.expected repoName repoPath spec entry.name = some entry) ∧
      (refs.map PluginRef.name).Nodup := by
  obtain ⟨names, seen, rfl, named, noted⟩ := discoverPlugins_eq_ok completed
  have fresh : ∀ name, (name, PluginType.advanced) ∉ seen := by
    intro name inside
    obtain ⟨mpath, _, equal⟩ := List.mem_map.mp ((noted _).mp inside)
    cases (Prod.mk.inj equal).2
  have claimed (name : String) :
      name ∈ names ↔ ∃ mpath, checkouts.firstManifest repoPath spec name = some mpath := by
    rw [named, noted, mem_manifestKeys]
  constructor
  · intro entry
    rw [List.mem_append, List.mem_map, List.mem_map]
    constructor
    · rintro (⟨mpath, kept, rfl⟩ | ⟨spath, kept, rfl⟩)
      · exact expected_of_manifest ((mem_firsts_manifest repoPath spec).mp kept)
      · obtain ⟨free, found⟩ := (mem_firsts_advanced repoPath spec fresh).mp kept
        refine expected_of_advanced ?_ found
        rw [claimed, not_exists] at free
        exact Option.eq_none_iff_forall_ne_some.mpr free
    · intro expects
      obtain ⟨mpath, found, rfl⟩ | ⟨free, spath, found, rfl⟩ := expected_cases expects
      · exact .inl ⟨mpath, (mem_firsts_manifest repoPath spec).mpr found, rfl⟩
      · refine .inr ⟨spath, (mem_firsts_advanced repoPath spec fresh).mpr ⟨?_, found⟩, rfl⟩
        intro inside
        obtain ⟨mpath, manifest⟩ := (claimed _).mp inside
        have none_first : checkouts.firstManifest repoPath spec (pathName spath) = none := free
        rw [none_first] at manifest
        cases manifest
  · rw [List.map_append, List.map_map, List.map_map, List.nodup_append]
    refine ⟨?_, ?_, ?_⟩
    · apply List.Nodup.of_map (·, PluginType.manifest)
      rw [List.map_map]
      exact firsts_nodup _ _
    · apply List.Nodup.of_map (·, PluginType.advanced)
      rw [List.map_map]
      exact firsts_nodup _ _
    · intro name first other second equal
      obtain ⟨mpath, kept, rfl⟩ := List.mem_map.mp first
      obtain ⟨spath, found, rfl⟩ := List.mem_map.mp second
      apply ((mem_firsts_advanced repoPath spec fresh).mp found).1
      rw [claimed]
      refine ⟨mpath, ?_⟩
      rw [show pathName spath = pathName (pathParent mpath) from equal.symm]
      exact (mem_firsts_manifest repoPath spec).mp kept

end Exact

end Checkouts

end BiothingsPulse
