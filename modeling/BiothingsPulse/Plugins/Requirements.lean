import BiothingsPulse.Plugins.Discovery
import BiothingsPulse.Python.Packaging

/-!
# Collecting the requirements that plugins declare

Requirements come from the `requires` of manifests, from requirements files next to advanced
plugins, and from the registry, inline or in files. Each of the three collectors has a filter
of its own. What the file system answers is a parameter.
-/

namespace BiothingsPulse

open Foundation Packaging

/-- A JSON value. Of the elements of an array, what `str` makes of them. -/
inductive Json where
  | null
  /-- A number or a truth value. -/
  | scalar (typeName : String) (truthy : Bool)
  | str (text : String)
  | array (elements : List String)
  | object (members : List (String × Json))

namespace Json

def typeName : Json → String
  | .null => "NoneType"
  | .scalar typeName _ => typeName
  | .str _ => "str"
  | .array _ => "list"
  | .object _ => "dict"

/-- `value.get(key)`. -/
def get (key : String) : Json → Except PyExc Json
  | .object members => .ok ((members.lookup key).getD .null)
  | value =>
      .error ⟨.ordinary, "AttributeError",
        "'" ++ value.typeName ++ "' object has no attribute 'get'"⟩

/-- The elements of `value or []`, as `str` writes them, where a string is one element. -/
def entries : Json → Except PyExc (List String)
  | .null => .ok []
  | .scalar typeName truthy =>
      if truthy then
        .error ⟨.ordinary, "TypeError", "'" ++ typeName ++ "' object is not iterable"⟩
      else .ok []
  | .str text => .ok (if text = "" then [] else [text])
  | .array elements => .ok elements
  | .object members => .ok (members.map Prod.fst)

end Json

/-- The names of the modules of the standard library, which are identifiers. -/
structure Stdlib where
  names : List String
  identifiers : ∀ name ∈ names, ∀ c ∈ name.toList, c.isAlphanum = true ∨ c = '_'

/-- The files that requirements are read from. -/
structure RequirementFiles where
  /-- `json.loads(path.read_text())`. -/
  manifest : PyPath → Except PyExc Json
  present : PyPath → Except PyExc Bool
  /-- The text of a file, unless reading it raises an `OSError`. -/
  readText : PyPath → Except PyExc (Option (List Char))

/-- The text of a requirement. -/
abbrev Requirement : Type := List Char

section Filters

variable (stdlib : Stdlib)

/-- What a requirement on the SDK itself begins with. -/
def skipPrefixes : List String := ["biothings"]

def pluginReqFiles : List String :=
  ["requirements.txt", "requirements-hub.txt", "requirements_hub.txt"]

/-- `req.lower().startswith(_SKIP_PREFIXES)`. -/
def isSkipped (req : Requirement) : Bool :=
  skipPrefixes.any fun start => start.toList.isPrefixOf (pyLower req)

/-- `req.startswith("-")`. -/
def isOption (req : Requirement) : Bool := "-".toList.isPrefixOf req

/-- The characters that end the name in a requirement line. -/
def endsDistName (c : Char) : Bool :=
  c = '<' || c = '>' || c = '=' || c = '!' || c = '~' || c = ';' || c = '[' || isPySpace c

/-- The distribution name from a requirement line. -/
def distName (req : Requirement) : List Char :=
  pyStrip (req.takeWhile fun c => !endsDistName c)

/-- `name.replace("-", "_").lower()`. -/
def moduleName (name : List Char) : String :=
  String.ofList (pyLower (name.map fun c => if c = '-' then '_' else c))

def isStdlib (req : Requirement) : Bool := stdlib.names.contains (moduleName (distName req))

/-- Drop requirements that are stdlib modules. -/
def dropStdlib (reqs : List Requirement) : List Requirement :=
  reqs.filter fun req => !isStdlib stdlib req

/-- What a line of a requirements file requires. -/
def lineRequirement (raw : List Char) : Option Requirement :=
  let line := pyStrip (raw.takeWhile (· ≠ '#'))
  if line = [] ∨ isOption line then none
  else if isSkipped line then none
  else some line

/-- What an entry of a manifest requires. -/
def entryRequirement (entry : List Char) : Option Requirement :=
  let req := pyStrip entry
  if req ≠ [] ∧ ¬ isSkipped req then some req else none

/-- What an entry of the registry requires. -/
def inlineRequirement (entry : List Char) : Option Requirement :=
  let req := pyStrip entry
  if req ≠ [] ∧ ¬ isOption req ∧ ¬ isSkipped req then some req else none

def clean (reqs : List String) : List Requirement :=
  (reqs.map String.toList).filterMap inlineRequirement

/-- `sorted(set(reqs))`. -/
def sortedSet (reqs : List Requirement) : List Requirement :=
  reqs.eraseDups.mergeSort fun first second => first ≤ second

end Filters

section Distribution

variable {stdlib : Stdlib} {req name : List Char} {c : Char}

/-- Letters and digits do not end a distribution name. -/
theorem endsDistName_of_isAlphanum (plain : c.isAlphanum = true) : endsDistName c = false := by
  have solid : isPySpace c = false := by
    have code := toNat_of_isAlphanum plain
    simp only [isPySpace, Bool.or_eq_false_iff, Bool.and_eq_false_iff, decide_eq_false_iff_not]
    omega
  have other {d : Char} (mark : d.isAlphanum = false) : decide (c = d) = false := by
    apply decide_eq_false
    rintro rfl
    rw [plain] at mark
    cases mark
  rw [endsDistName, other rfl, other rfl, other rfl, other rfl, other rfl, other rfl, other rfl,
    solid]
  rfl

private theorem endsDistName_of_isNameChar (plain : isNameChar c = true) :
    endsDistName c = false := by
  simp only [isNameChar, Bool.or_eq_true, decide_eq_true_eq] at plain
  obtain ((plain | rfl) | rfl) | rfl := plain
  · exact endsDistName_of_isAlphanum plain
  · rfl
  · rfl
  · rfl

private theorem endsDistName_of_isSchemeChar (plain : isSchemeChar c = true) :
    endsDistName c = false := by
  simp only [isSchemeChar, Bool.or_eq_true, decide_eq_true_eq] at plain
  obtain ((plain | rfl) | rfl) | rfl := plain
  · exact endsDistName_of_isAlphanum plain
  · rfl
  · rfl
  · rfl

/-- What may follow a name ends it for the collectors too, but for `@` and `(`. -/
theorem endsDistName_of_isNameEnd (ends : isNameEnd c = true) :
    endsDistName c = true ∨ c = '@' ∨ c = '(' := by
  simp only [isNameEnd, Bool.or_eq_true, decide_eq_true_eq] at ends
  obtain (((((((((rfl | rfl) | rfl) | rfl) | rfl) | rfl) | rfl) | rfl) | rfl) | rfl) | rfl := ends
  all_goals decide

/-- What reaches into a URL or a version is the name of no stdlib module. -/
theorem isStdlib_of_mem (inside : c ∈ req.takeWhile fun c => !endsDistName c)
    (mark : c = ':' ∨ c = '@' ∨ c = '(') : isStdlib stdlib req = false := by
  have solid : isPySpace c = false := by obtain rfl | rfl | rfl := mark <;> rfl
  have lowered : c ∈ (moduleName (distName req)).toList := by
    rw [moduleName, String.toList_ofList, pyLower, List.map_map]
    refine List.mem_map.mpr ⟨c, mem_pyStrip inside solid, ?_⟩
    obtain rfl | rfl | rfl := mark <;> rfl
  rw [isStdlib, Bool.eq_false_iff, ne_eq, List.contains_iff_mem]
  intro listed
  have identifier := stdlib.identifiers _ listed c lowered
  obtain rfl | rfl | rfl := mark <;> exact absurd identifier (by decide)

/-- The name runs on into what follows it: the collectors end it at neither `@` nor `(`. -/
def runsOn (rest : List Char) : Bool := rest.head?.any fun c => c = '@' || c = '('

/-- The name is cut off where it ends. -/
theorem distName_append {rest : List Char} (called : name ∈ identifier)
    (ends : rest.takeWhile (fun c => !endsDistName c) = []) : distName (name ++ rest) = name := by
  have plain : ∀ c ∈ name, endsDistName c = false := fun c inside =>
    endsDistName_of_isNameChar (called.1 c inside)
  have whole : (name ++ rest).takeWhile (fun c => !endsDistName c) =
      name ++ rest.takeWhile fun c => !endsDistName c :=
    List.takeWhile_append_of_pos fun c inside => by rw [plain c inside, Bool.not_false]
  rw [distName, whole, ends, List.append_nil]
  exact pyStrip_of_forall fun c inside => (Bool.or_eq_false_iff.mp (plain c inside)).2

/-- A requirement is dropped as a stdlib module if the distribution is called so, unless its
name runs on. -/
theorem isStdlib_append {rest : List Char} (called : name ∈ identifier)
    (spec : rest ∈ specSuffix) :
    isStdlib stdlib (name ++ rest) = true ↔
      moduleName name ∈ stdlib.names ∧ runsOn rest = false := by
  have plain : ∀ c ∈ name, (!endsDistName c) = true := fun c inside => by
    rw [endsDistName_of_isNameChar (called.1 c inside), Bool.not_false]
  have cut (ends : rest.takeWhile (fun c => !endsDistName c) = []) :
      isStdlib stdlib (name ++ rest) = true ↔ moduleName name ∈ stdlib.names := by
    rw [isStdlib, List.contains_iff_mem, distName_append called ends]
  obtain rfl | ⟨c, tail, ends, rfl⟩ := specSuffix_opens rest spec
  · rw [cut rfl]
    exact (and_iff_left rfl).symm
  · by_cases mark : c = '@' ∨ c = '('
    · have on : runsOn (c :: tail) = true := by obtain rfl | rfl := mark <;> rfl
      have reached : endsDistName c = false := by obtain rfl | rfl := mark <;> decide
      have inside : c ∈ (name ++ c :: tail).takeWhile fun c => !endsDistName c := by
        rw [List.takeWhile_append_of_pos plain,
          List.takeWhile_cons_of_pos (by rw [reached, Bool.not_false])]
        exact List.mem_append_right _ List.mem_cons_self
      rw [isStdlib_of_mem inside (.inr mark), on]
      simp
    · have delimits := (endsDistName_of_isNameEnd ends).resolve_right mark
      have off : runsOn (c :: tail) = false := by
        obtain ⟨url, versions⟩ := not_or.mp mark
        exact Bool.or_eq_false_iff.mpr ⟨decide_eq_false url, decide_eq_false versions⟩
      rw [cut (List.takeWhile_cons_of_neg (by rw [delimits]; decide)), off]
      exact (and_iff_left rfl).symm

/-- A requirement is dropped as a stdlib module only if the distribution is called so. -/
theorem isStdlib_named {rest : List Char} (called : name ∈ identifier)
    (spec : rest ∈ specSuffix) (dropped : isStdlib stdlib (name ++ rest) = true) :
    moduleName name ∈ stdlib.names :=
  ((isStdlib_append called spec).mp dropped).1

/-- A URL is not dropped as a stdlib module. -/
theorem isStdlib_scheme {scheme rest : List Char} (letter : c.isAlpha = true)
    (schemed : ∀ other ∈ scheme, isSchemeChar other = true) :
    isStdlib stdlib (c :: (scheme ++ ':' :: rest)) = false := by
  have first : (!endsDistName c) = true := by
    rw [endsDistName_of_isAlphanum (by rw [Char.isAlphanum, letter, Bool.true_or]), Bool.not_false]
  have plain : ∀ other ∈ scheme, (!endsDistName other) = true := fun other inside => by
    rw [endsDistName_of_isSchemeChar (schemed other inside), Bool.not_false]
  have inside : ':' ∈ (c :: (scheme ++ ':' :: rest)).takeWhile fun c => !endsDistName c := by
    rw [List.takeWhile_cons_of_pos (p := fun c => !endsDistName c) first,
      List.takeWhile_append_of_pos plain,
      List.takeWhile_cons_of_pos (p := fun c => !endsDistName c) rfl]
    simp
  exact isStdlib_of_mem inside (.inl rfl)

/-- Whether a requirement is skipped is decided before its comment. -/
theorem isSkipped_takeWhile (req : Requirement) :
    isSkipped (req.takeWhile (· ≠ '#')) = isSkipped req := by
  have lower (text : Requirement) :
      isSkipped text = "biothings".toList.isPrefixOf (pyLower text) := Bool.or_false _
  rw [lower, lower, Bool.eq_iff_iff, List.isPrefixOf_iff_prefix, List.isPrefixOf_iff_prefix]
  constructor
  · exact fun begins => begins.trans ((List.takeWhile_prefix _).map _)
  · exact prefix_map_takeWhile rfl (by decide)

/-- An option is not skipped. -/
theorem isSkipped_of_isOption {req : Requirement} (option : isOption req = true) :
    isSkipped req = false := by
  obtain ⟨rest, rfl⟩ := List.isPrefixOf_iff_prefix.mp option
  rfl

/-- What begins with a letter or a digit is no option. -/
theorem isOption_cons {c : Char} {rest : List Char} (letter : c.isAlphanum = true) :
    isOption (c :: rest) = false := by
  have other : ('-' == c) = false := by
    apply beq_eq_false_iff_ne.mpr
    rintro rfl
    cases letter
  change ('-' == c && _) = false
  rw [other, Bool.false_and]

end Distribution

section Specifiers

/-- A requirement on a distribution: its name, and the extras, versions, URL and marker. -/
structure Specifier where
  name : List Char
  rest : List Char
  called : name ∈ identifier
  spec : rest ∈ specSuffix

namespace Specifier

variable (stdlib : Stdlib) (specifiers : List Specifier)

def text (specifier : Specifier) : Requirement := specifier.name ++ specifier.rest

/-- The distribution is called like a module of the standard library. -/
def namesStdlib (specifier : Specifier) : Bool :=
  stdlib.names.contains (moduleName specifier.name)

variable {stdlib} in
private theorem isStdlib_text (specifier : Specifier) :
    isStdlib stdlib specifier.text = (specifier.namesStdlib stdlib && !runsOn specifier.rest) := by
  rw [Bool.eq_iff_iff, text, isStdlib_append specifier.called specifier.spec, namesStdlib,
    Bool.and_eq_true_iff, List.contains_iff_mem, Bool.not_eq_true']

/-- The distributions called like a module of the standard library are dropped, and all others
are kept unchanged and in order. -/
def DropsStdlib : Prop :=
  dropStdlib stdlib (specifiers.map text) =
    (specifiers.filter fun specifier => !specifier.namesStdlib stdlib).map text

/-- **When the filter is right.** It takes that at none of the names of the standard library
a URL or a version in parentheses follows at once. -/
theorem dropsStdlib_iff :
    DropsStdlib stdlib specifiers ↔
      ∀ specifier ∈ specifiers, specifier.namesStdlib stdlib = true →
        runsOn specifier.rest = false := by
  have kept : dropStdlib stdlib (specifiers.map text) =
      (specifiers.filter fun specifier =>
        !(specifier.namesStdlib stdlib && !runsOn specifier.rest)).map text := by
    rw [dropStdlib, List.filter_map]
    congr 1
    apply List.filter_congr
    intro specifier _
    exact congrArg _ specifier.isStdlib_text
  -- What the filter should keep it keeps, so that both lists are equal when equally long.
  have again : (specifiers.filter fun specifier =>
      !(specifier.namesStdlib stdlib && !runsOn specifier.rest)).filter
        (fun specifier => !specifier.namesStdlib stdlib) =
      specifiers.filter fun specifier => !specifier.namesStdlib stdlib := by
    rw [List.filter_filter]
    apply List.filter_congr
    intro specifier _
    cases specifier.namesStdlib stdlib <;> rfl
  rw [DropsStdlib, kept]
  constructor
  · intro same specifier listed named
    cases on : runsOn specifier.rest with
    | false => rfl
    | true =>
        have length := congrArg List.length same
        rw [List.length_map, List.length_map, ← again] at length
        have whole := List.filter_eq_self.mp (List.filter_sublist.eq_of_length length.symm)
        have stays := whole specifier
          (List.mem_filter.mpr ⟨listed, by rw [on, Bool.not_true, Bool.and_false]; rfl⟩)
        rw [named] at stays
        cases stays
  · intro ends
    congr 1
    apply List.filter_congr
    intro specifier listed
    cases named : specifier.namesStdlib stdlib with
    | false => rfl
    | true => rw [ends specifier listed named]; rfl

private def asyncio : Specifier where
  name := "asyncio".toList
  rest := "@https://e.org/asyncio".toList
  called := ⟨List.all_eq_true.mp rfl, ⟨'a', rfl, rfl⟩, 'o', rfl, rfl⟩
  spec := direct_mem_specSuffix rfl (List.all_eq_true.mp rfl)

private def asyncioStdlib : Stdlib where
  names := ["asyncio"]
  identifiers := by
    have plain : ∀ c ∈ "asyncio".toList, c.isAlphanum = true := List.all_eq_true.mp rfl
    exact List.forall_mem_singleton.mpr fun c inside => .inl (plain c inside)

/-- A distribution of this name is taken from a URL although the standard library has it. -/
theorem dropsStdlib_asyncio : ¬ DropsStdlib asyncioStdlib [asyncio] := by
  intro drops
  have kept : dropStdlib asyncioStdlib ([asyncio].map text) = [asyncio.text] := by
    decide +kernel
  rw [DropsStdlib, kept] at drops
  cases drops

end Specifier

end Specifiers

section Collect

variable (stdlib : Stdlib) (files : RequirementFiles)

def parseReqFile (path : PyPath) : Except PyExc (List Requirement) :=
  (files.readText path).map fun
    | none => []
    | some text => (splitLines text).filterMap lineRequirement

/-- A manifest that cannot be read or parsed requires nothing. -/
def manifestRequires (path : PyPath) : Except PyExc (List Requirement) :=
  match files.manifest path with
  | .error exc => if exc.isException then .ok [] else .error exc
  | .ok manifest => do
      let req ← manifest.get "requires"
      let entries ← req.entries
      return (entries.map String.toList).filterMap entryRequirement

/-- The requirements of a file, if it exists. -/
def fileRequirements (path : PyPath) : Except PyExc (List Requirement) := do
  if ← files.present path then parseReqFile files path else return []

def filesIn (directory : PyPath) (names : List String) : Except PyExc (List Requirement) :=
  (Loop.collect (fun name => fileRequirements files (joinPath directory name)) names).map
    List.flatten

/-- The requirements of one plugin. -/
def refRequirements (ref : PluginRef) : Except PyExc (List Requirement) :=
  match ref.pluginType, ref.manifestPath with
  | .manifest, some path => manifestRequires files path
  | .advanced, _ => filesIn files ref.path pluginReqFiles
  | _, _ => .ok []

/-- Per-plugin requirements. -/
def collectRequirements (refs : List PluginRef) : Except PyExc (List Requirement) := do
  let out ← (Loop.collect (refRequirements files) refs).map List.flatten
  return sortedSet (dropStdlib stdlib out)

/-- The requirements of one repository. -/
def specRequirements (paths : String → Option PyPath) (spec : RepoSpec) :
    Except PyExc (List Requirement) := do
  let inline := clean spec.requirements
  match paths spec.name with
  | none => return inline
  | some repoPath => return inline ++ (← filesIn files repoPath spec.requirementsFiles)

/-- Repo-declared requirements. -/
def collectRepoRequirements (repos : List RepoSpec) (paths : String → Option PyPath) :
    Except PyExc (List Requirement) := do
  let out ← (Loop.collect (specRequirements files paths) repos).map List.flatten
  return sortedSet (dropStdlib stdlib out)

/-- The requirements that the install script appends to its command line. -/
def installed (refs : List PluginRef) (repos : List RepoSpec)
    (paths : String → Option PyPath) : Except PyExc (List Requirement) := do
  return sortedSet ((← collectRequirements stdlib files refs) ++
    (← collectRepoRequirements stdlib files repos paths))

end Collect

end BiothingsPulse
