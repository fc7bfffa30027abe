import BiothingsPulse.Plugins.Requirements

/-!
# What becomes of a declared requirement

A declaration is an entry of a manifest, a line of a requirements file or an entry of the
registry. It declares what pip would read there, and the collector makes of it what the
filter of the place lets through. The two differ where a filter tests prefixes of the text
instead of the distribution, and where a line is cut at a `#` that begins no comment.
-/

namespace BiothingsPulse

open Foundation Packaging

/-- Where a requirement can be declared. -/
inductive DeclaredIn where
  | manifest
  | line
  | inline
  deriving DecidableEq

/-- An entry of a manifest, a line of a requirements file or an entry of the registry. -/
structure Declaration where
  place : DeclaredIn
  text : List Char

namespace Declaration

/-- The requirement that is declared. -/
def requirement : Declaration → Requirement
  | ⟨.line, raw⟩ => pyStrip (uncommented true raw)
  | ⟨_, entry⟩ => pyStrip entry

/-- What the filter of the place makes of it. -/
def taken : Declaration → Option Requirement
  | ⟨.manifest, entry⟩ => entryRequirement entry
  | ⟨.line, raw⟩ => lineRequirement raw
  | ⟨.inline, entry⟩ => inlineRequirement entry

/-- What the filter of the place looks at: of a line, the part before a `#`. -/
def filtered (declaration : Declaration) : Requirement :=
  if declaration.place = .line then declaration.requirement.takeWhile (· ≠ '#')
  else declaration.requirement

private theorem filtered_of_ne (declaration : Declaration) (place : declaration.place ≠ .line) :
    declaration.filtered = declaration.requirement := if_neg place

private theorem filtered_skipped (declaration : Declaration) :
    isSkipped declaration.filtered = isSkipped declaration.requirement := by
  unfold filtered
  split
  · exact isSkipped_takeWhile _
  · rfl

/-- What a declaration comes to: the filters of all places pass over what is empty or begins
like the SDK, and those of lines and of the registry over options. -/
theorem taken_eq_some_iff {declaration : Declaration} {req : Requirement} :
    declaration.taken = some req ↔ declaration.filtered = req ∧ req ≠ [] ∧
      (isOption req = true → declaration.place = .manifest) ∧
      isSkipped declaration.requirement = false := by
  rw [← filtered_skipped]
  obtain ⟨place, text⟩ := declaration
  cases place with
  | manifest =>
      change entryRequirement text = some req ↔ pyStrip text = req ∧ _ ∧ _ ∧
        isSkipped (pyStrip text) = false
      rw [entryRequirement, Option.ite_none_right_eq_some, Option.some.injEq, Bool.not_eq_true]
      constructor
      · rintro ⟨⟨nonempty, other⟩, rfl⟩
        exact ⟨rfl, nonempty, fun _ => rfl, other⟩
      · rintro ⟨rfl, nonempty, _, other⟩
        exact ⟨⟨nonempty, other⟩, rfl⟩
  | line =>
      change lineRequirement text = some req ↔
        (pyStrip (uncommented true text)).takeWhile (· ≠ '#') = req ∧ _ ∧ _ ∧
          isSkipped ((pyStrip (uncommented true text)).takeWhile (· ≠ '#')) = false
      rw [← pyStrip_takeWhile]
      simp only [lineRequirement]
      rw [Option.ite_none_left_eq_some, Option.ite_none_left_eq_some, Option.some.injEq, not_or]
      constructor
      · rintro ⟨⟨nonempty, plain⟩, other, rfl⟩
        exact ⟨rfl, nonempty, fun option => absurd option plain, Bool.eq_false_iff.mpr other⟩
      · rintro ⟨rfl, nonempty, plain, other⟩
        refine ⟨⟨nonempty, fun option => ?_⟩, Bool.eq_false_iff.mp other, rfl⟩
        cases plain option
  | inline =>
      change inlineRequirement text = some req ↔ pyStrip text = req ∧ _ ∧ _ ∧
        isSkipped (pyStrip text) = false
      rw [inlineRequirement, Option.ite_none_right_eq_some, Option.some.injEq]
      constructor
      · rintro ⟨⟨nonempty, plain, other⟩, rfl⟩
        exact ⟨rfl, nonempty, fun option => absurd option plain, Bool.eq_false_iff.mpr other⟩
      · rintro ⟨rfl, nonempty, plain, other⟩
        refine ⟨⟨nonempty, fun option => ?_, Bool.eq_false_iff.mp other⟩, rfl⟩
        cases plain option

end Declaration

section Readings

variable (files : RequirementFiles)

/-- The declarations of a manifest. -/
def manifestReading (path : PyPath) : Except PyExc (List Declaration) :=
  match files.manifest path with
  | .error exc => if exc.isException then .ok [] else .error exc
  | .ok manifest => do
      let req ← manifest.get "requires"
      let entries ← req.entries
      return entries.map fun entry => ⟨.manifest, entry.toList⟩

/-- The declarations of a requirements file. -/
def fileReading (path : PyPath) : Except PyExc (List Declaration) := do
  if ← files.present path then
    (files.readText path).map fun
      | none => []
      | some text => (splitLines text).map fun raw => ⟨.line, raw⟩
  else return []

def fileReadings (directory : PyPath) (names : List String) :
    List (Except PyExc (List Declaration)) :=
  names.flatMap fun name => [fileReading files (joinPath directory name)]

def refReadings (ref : PluginRef) : List (Except PyExc (List Declaration)) :=
  match ref.pluginType, ref.manifestPath with
  | .manifest, some path => [manifestReading files path]
  | .advanced, _ => fileReadings files ref.path pluginReqFiles
  | _, _ => []

def specReadings (paths : String → Option PyPath) (spec : RepoSpec) :
    List (Except PyExc (List Declaration)) :=
  .ok (spec.requirements.map fun entry => ⟨.inline, entry.toList⟩) ::
    match paths spec.name with
    | none => []
    | some repoPath => fileReadings files repoPath spec.requirementsFiles

/-- What all plugins and repositories declare, as far as it can be read. -/
def readings (refs : List PluginRef) (repos : List RepoSpec) (paths : String → Option PyPath) :
    List (Except PyExc (List Declaration)) :=
  refs.flatMap (refReadings files) ++ repos.flatMap (specReadings files paths)

private theorem manifestRequires_eq (path : PyPath) :
    manifestRequires files path =
      (manifestReading files path).map (List.filterMap Declaration.taken) := by
  unfold manifestRequires manifestReading
  cases files.manifest path with
  | error exc =>
      dsimp only
      split <;> rfl
  | ok manifest =>
      dsimp only
      cases manifest.get "requires" with
      | error exc => rfl
      | ok req =>
          cases entries : req.entries with
          | error exc =>
              change req.entries.bind _ = (req.entries.bind _).map _
              rw [entries]
              rfl
          | ok entries =>
              change req.entries.bind _ = (req.entries.bind _).map _
              rw [entries]
              apply congrArg Except.ok
              rw [List.filterMap_map, List.filterMap_map]
              rfl

private theorem fileRequirements_eq (path : PyPath) :
    fileRequirements files path =
      (fileReading files path).map (List.filterMap Declaration.taken) := by
  unfold fileRequirements fileReading parseReqFile
  cases files.present path with
  | error exc => rfl
  | ok present =>
      cases present with
      | false => rfl
      | true =>
          cases files.readText path with
          | error exc => rfl
          | ok text =>
              cases text with
              | none => rfl
              | some text =>
                  apply congrArg Except.ok
                  dsimp only
                  rw [List.filterMap_map]
                  rfl

private theorem filesIn_gathers (directory : PyPath) (names : List String) :
    Loop.Gathers Declaration.taken (filesIn files directory names)
      (fileReadings files directory names) :=
  Loop.Gathers.collect fun name _ => fileRequirements_eq files (joinPath directory name) ▸
    Loop.Gathers.single _ _

private theorem refRequirements_gathers (ref : PluginRef) :
    Loop.Gathers Declaration.taken (refRequirements files ref) (refReadings files ref) := by
  obtain ⟨_, _, pluginType, path, manifestPath, _, _, _⟩ := ref
  cases pluginType with
  | manifest =>
      cases manifestPath with
      | none => exact Loop.Gathers.nil
      | some manifest =>
          change Loop.Gathers _ (manifestRequires files manifest) _
          rw [manifestRequires_eq]
          exact Loop.Gathers.single _ _
  | advanced => exact filesIn_gathers files path pluginReqFiles
  | unknown => exact Loop.Gathers.nil
  | other text => exact Loop.Gathers.nil

/-- The requirements of a repository are gathered from its manifests and files. -/
theorem specRequirements_gathers (paths : String → Option PyPath) (spec : RepoSpec) :
    Loop.Gathers Declaration.taken (specRequirements files paths spec)
      (specReadings files paths spec) := by
  have inline : Loop.Gathers Declaration.taken
      (.ok (clean spec.requirements) : Except PyExc (List Requirement))
      [.ok (spec.requirements.map fun entry => ⟨.inline, entry.toList⟩)] := by
    have cleaned : clean spec.requirements = (spec.requirements.map fun entry =>
        Declaration.mk .inline entry.toList).filterMap Declaration.taken := by
      rw [clean, List.filterMap_map, List.filterMap_map]
      rfl
    rw [cleaned]
    exact Loop.Gathers.single Declaration.taken (.ok _)
  unfold specRequirements specReadings
  cases paths spec.name with
  | none => exact inline
  | some repoPath => exact inline.append (filesIn_gathers files repoPath spec.requirementsFiles)

end Readings

section Installed

variable (stdlib : Stdlib) (files : RequirementFiles) (refs : List PluginRef)
  (repos : List RepoSpec) (paths : String → Option PyPath)

/-- The declaration is among those that can be read. -/
def Declared (declaration : Declaration) : Prop :=
  ∃ reading ∈ readings files refs repos paths, ∃ declarations, reading = .ok declarations ∧
    declaration ∈ declarations

/-- Nothing that is read raises: every manifest that can be parsed is an object whose
`requires` can be iterated over, and every file can be looked for and decoded. -/
def Answered : Prop := ∀ reading ∈ readings files refs repos paths, reading.isOk = true

/-- Sorting keeps the requirements. -/
theorem mem_sortedSet {reqs : List Requirement} {req : Requirement} :
    req ∈ sortedSet reqs ↔ req ∈ reqs := by
  rw [sortedSet, List.mem_mergeSort, List.mem_eraseDups]

variable {stdlib files refs repos paths}

/-- What the install script appends is what the places make of the declarations, but for
stdlib modules. -/
theorem mem_installed {out : List Requirement} {req : Requirement}
    (returned : installed stdlib files refs repos paths = .ok out) :
    req ∈ out ↔ isStdlib stdlib req = false ∧
      ∃ declaration, Declared files refs repos paths declaration ∧
        declaration.taken = some req := by
  have plugin := Loop.Gathers.collect fun ref (_ : ref ∈ refs) =>
    refRequirements_gathers files ref
  have repo := Loop.Gathers.collect fun spec (_ : spec ∈ repos) =>
    specRequirements_gathers files paths spec
  obtain ⟨_, collected, more⟩ := Loop.bind_eq_ok.mp returned
  obtain ⟨plugins, first, dropped⟩ := Loop.bind_eq_ok.mp collected
  obtain rfl := Except.ok.inj dropped
  obtain ⟨_, collected, appended⟩ := Loop.bind_eq_ok.mp more
  obtain ⟨own, second, dropped⟩ := Loop.bind_eq_ok.mp collected
  obtain rfl := Except.ok.inj dropped
  obtain rfl := Except.ok.inj appended
  have both := (plugin.append repo).mem (plugins ++ own) (by rw [first, second]; rfl) req
  rw [mem_sortedSet, List.mem_append, mem_sortedSet, mem_sortedSet, dropStdlib,
    dropStdlib, ← List.mem_append, ← List.filter_append, List.mem_filter, both,
    Bool.not_eq_true', and_comm]
  refine and_congr_right fun _ => ?_
  constructor
  · rintro ⟨reading, listed, items, read, item, inside, makes⟩
    exact ⟨item, ⟨reading, listed, items, read, inside⟩, makes⟩
  · rintro ⟨item, ⟨reading, listed, items, read, inside⟩, makes⟩
    exact ⟨reading, listed, items, read, item, inside, makes⟩

variable (stdlib) in
/-- The install script gets its list when nothing that is read raises. -/
theorem installed_isOk :
    (installed stdlib files refs repos paths).isOk = true ↔ Answered files refs repos paths := by
  have plugin := Loop.Gathers.collect fun ref (_ : ref ∈ refs) =>
    refRequirements_gathers files ref
  have repo := Loop.Gathers.collect fun spec (_ : spec ∈ repos) =>
    specRequirements_gathers files paths spec
  rw [Answered, ← List.all_eq_true, readings, ← (plugin.append repo).isOk]
  unfold installed collectRequirements collectRepoRequirements
  cases (Loop.collect (refRequirements files) refs).map List.flatten with
  | error exc => exact Iff.rfl
  | ok plugins =>
      cases (Loop.collect (specRequirements files paths) repos).map List.flatten with
      | error exc => exact Iff.rfl
      | ok own => exact Iff.rfl

variable (stdlib) in
private theorem installed_of_answered (answered : Answered files refs repos paths) :
    ∃ out, installed stdlib files refs repos paths = .ok out := by
  have ok := (installed_isOk stdlib).mpr answered
  cases returned : installed stdlib files refs repos paths with
  | error exc => rw [returned] at ok; cases ok
  | ok out => exact ⟨out, rfl⟩

/-- The distribution of the SDK, in any letter case. -/
def isSdk (name : List Char) : Bool := pyLower name = "biothings".toList

/-- The text is a requirement on the SDK, by name or by the `egg` of a URL. -/
def RequiresSdk (text : Requirement) : Prop :=
  ∃ name, Requires (some name) text ∧ isSdk name = true

/-- What is named like the SDK is skipped. -/
theorem isSkipped_named {name rest : List Char} (sdk : isSdk name = true) :
    isSkipped (name ++ rest) = true := by
  have lowered : pyLower name = "biothings".toList := of_decide_eq_true sdk
  have begins : "biothings".toList <+: pyLower (name ++ rest) := by
    rw [pyLower, List.map_append, ← pyLower, lowered]
    exact List.prefix_append _ _
  exact (Bool.or_false _).trans (List.isPrefixOf_iff_prefix.mpr begins)

/-- A URL that is not skipped is collected, at least up to a `#`. -/
theorem Declaration.taken_url {declaration : Declaration}
    (direct : declaration.requirement ∈ directUrl)
    (other : isSkipped declaration.requirement = false) :
    ∃ req, declaration.taken = some req ∧ isStdlib stdlib req = false := by
  obtain ⟨c, scheme, rest, split, letter, schemed⟩ := directUrl_eq direct
  have first : c.isAlphanum = true := by rw [Char.isAlphanum, letter, Bool.true_or]
  have kept : ∃ rest, declaration.filtered = c :: (scheme ++ ':' :: rest) := by
    have plain : ∀ other ∈ c :: (scheme ++ [':']), decide (other ≠ '#') = true := by
      intro other inside
      apply decide_eq_true
      rintro rfl
      simp only [List.mem_cons, List.mem_append, List.not_mem_nil, or_false] at inside
      obtain rfl | inside | colon := inside
      · cases letter
      · cases schemed _ inside
      · cases colon
    have whole : c :: (scheme ++ ':' :: rest) = c :: (scheme ++ [':']) ++ rest := by
      rw [List.cons_append, List.append_assoc]
      rfl
    unfold filtered
    split
    · refine ⟨rest.takeWhile (· ≠ '#'), ?_⟩
      rw [split, whole, List.takeWhile_append_of_pos plain, List.cons_append, List.append_assoc]
      rfl
    · exact ⟨rest, split⟩
  obtain ⟨rest, kept⟩ := kept
  refine ⟨declaration.filtered, taken_eq_some_iff.mpr ⟨rfl, ?_, fun option => ?_, other⟩, ?_⟩
  · rw [kept]
    exact List.cons_ne_nil _ _
  · rw [kept, isOption_cons first] at option
    cases option
  · rw [kept]
    exact isStdlib_scheme letter schemed

/-- An option in a manifest is taken as it stands. -/
theorem Declaration.taken_option {declaration : Declaration} (place : declaration.place = .manifest)
    (option : isOption declaration.requirement = true) :
    declaration.taken = some declaration.requirement := by
  have whole := declaration.filtered_of_ne (by rw [place]; decide)
  refine taken_eq_some_iff.mpr ⟨whole, ?_, fun _ => place, isSkipped_of_isOption option⟩
  intro empty
  rw [empty] at option
  cases option

/-- An option that is taken stands so in a manifest. -/
theorem Declaration.eq_of_taken_option {declaration : Declaration} {req : Requirement}
    (taken : declaration.taken = some req) (option : isOption req = true) :
    declaration.place = .manifest ∧ declaration.requirement = req := by
  obtain ⟨whole, _, place, _⟩ := taken_eq_some_iff.mp taken
  have manifest := place option
  exact ⟨manifest, by rw [← whole, declaration.filtered_of_ne (by rw [manifest]; decide)]⟩

/-- Of the requirements on the SDK only URLs are not skipped by their name. -/
theorem isSkipped_of_requiresSdk {text : Requirement} (sdk : RequiresSdk text)
    (url : text ∈ directUrl → ∀ name, egg text = some name → isSdk name = true →
      isSkipped text = true) : isSkipped text = true := by
  obtain ⟨name, requires, called⟩ := sdk
  obtain ⟨rest, named⟩ | ⟨direct, named⟩ := requires.on
  · rw [named]
    exact isSkipped_named called
  · exact url direct name named called

variable (stdlib files refs repos paths) in
/-- No option reaches the installer, and nothing that stems from a requirement on the SDK. -/
def InstallsPlain : Prop :=
  ∀ out, installed stdlib files refs repos paths = .ok out →
    (∀ req ∈ out, isOption req = false) ∧
      ∀ declaration, Declared files refs repos paths declaration →
        RequiresSdk declaration.requirement → ∀ req, declaration.taken = some req → req ∉ out

/-- **When only plain requirements are installed.** If nothing that is read raises, it takes
that no entry of a manifest is an option, unless it reads like a stdlib module, and that no
declaration is a URL with the `egg` of the SDK, unless its scheme is skipped. -/
theorem installsPlain_iff (stdlib : Stdlib) (files : RequirementFiles) (refs : List PluginRef)
    (repos : List RepoSpec) (paths : String → Option PyPath) :
    InstallsPlain stdlib files refs repos paths ↔
      (Answered files refs repos paths →
        ∀ declaration, Declared files refs repos paths declaration →
          (declaration.place = .manifest → isOption declaration.requirement = true →
            isStdlib stdlib declaration.requirement = true) ∧
          (declaration.requirement ∈ directUrl → ∀ name,
            egg declaration.requirement = some name → isSdk name = true →
            isSkipped declaration.requirement = true)) := by
  constructor
  · intro plain answered declaration declared
    obtain ⟨out, returned⟩ := installed_of_answered stdlib answered
    obtain ⟨options, sdk⟩ := plain out returned
    constructor
    · intro place option
      rw [← Bool.not_eq_false]
      intro kept
      have taken := Declaration.taken_option place option
      have listed := (mem_installed returned).mpr ⟨kept, declaration, declared, taken⟩
      rw [options _ listed] at option
      cases option
    · intro direct name named called
      rw [← Bool.not_eq_false]
      intro other
      obtain ⟨req, taken, kept⟩ := Declaration.taken_url direct other
      refine sdk declaration declared ⟨name, named ▸ .url direct, called⟩ req taken ?_
      exact (mem_installed returned).mpr ⟨kept, declaration, declared, taken⟩
  · intro condition out returned
    have answered : Answered files refs repos paths := by
      rw [← installed_isOk stdlib, returned]
      rfl
    constructor
    · intro req listed
      obtain ⟨kept, declaration, declared, taken⟩ := (mem_installed returned).mp listed
      rw [Bool.eq_false_iff]
      intro option
      obtain ⟨manifest, rfl⟩ := Declaration.eq_of_taken_option taken option
      have dropped := (condition answered declaration declared).1 manifest option
      rw [kept] at dropped
      cases dropped
    · intro declaration declared sdk req taken _
      have other := (Declaration.taken_eq_some_iff.mp taken).2.2.2
      rw [isSkipped_of_requiresSdk sdk (condition answered declaration declared).2] at other
      cases other

section Injected

/-- Before Python 3.10 the names of the stdlib modules are not known. -/
private def noStdlib : Stdlib := ⟨[], fun _ listed => absurd listed List.not_mem_nil⟩

private def injected : RequirementFiles where
  manifest _ := .ok (.object [("requires", .array ["--index-url=https://example.org"])])
  present _ := .ok false
  readText _ := .ok none

private def injectedRef : PluginRef where
  repo := "r"
  name := "p"
  pluginType := .manifest
  path := ["r", "plugins", "p"]
  manifestPath := some ["r", "plugins", "p", "manifest.json"]

/-- A manifest passes an option to the installer. -/
theorem installsPlain_injected :
    ¬ InstallsPlain noStdlib injected [injectedRef] [] fun _ => none := by
  intro plain
  have answered : Answered injected [injectedRef] [] fun _ => none := by
    intro reading listed
    obtain rfl := List.mem_singleton.mp listed
    rfl
  have declared : Declared injected [injectedRef] [] (fun _ => none)
      ⟨.manifest, "--index-url=https://example.org".toList⟩ :=
    ⟨_, List.mem_cons_self, _, rfl, List.mem_cons_self⟩
  obtain ⟨out, returned⟩ := installed_of_answered noStdlib answered
  have listed : "--index-url=https://example.org".toList ∈ out :=
    (mem_installed returned).mpr ⟨rfl, _, declared, rfl⟩
  cases (plain out returned).1 _ listed

end Injected

/-- A requirement to be kept: it is not on the SDK and on no stdlib module. -/
def Wanted (stdlib : Stdlib) (text : Requirement) : Prop :=
  ∃ distribution, Requires distribution text ∧ ∀ name, distribution = some name →
    isSdk name = false ∧ moduleName name ∉ stdlib.names

private theorem Wanted.isStdlib_eq_false {text : Requirement} (wanted : Wanted stdlib text) :
    isStdlib stdlib text = false := by
  obtain ⟨distribution, requires, other⟩ := wanted
  cases requires with
  | named called spec =>
      rw [Bool.eq_false_iff]
      exact fun dropped => (other _ rfl).2 (isStdlib_named called spec dropped)
  | url direct =>
      obtain ⟨c, scheme, rest, rfl, letter, schemed⟩ := directUrl_eq direct
      exact isStdlib_scheme letter schemed

/-- A declared requirement that is wanted is installed as it is when it is not skipped and,
if it has a `#`, is declared outside of requirements files too. -/
theorem requirement_mem_installed_iff {declaration : Declaration}
    (declared : Declared files refs repos paths declaration)
    (wanted : Wanted stdlib declaration.requirement) :
    (∃ out, installed stdlib files refs repos paths = .ok out ∧ declaration.requirement ∈ out) ↔
      Answered files refs repos paths ∧ isSkipped declaration.requirement = false ∧
        ('#' ∉ declaration.requirement ∨ ∃ other, Declared files refs repos paths other ∧
          other.place ≠ .line ∧ other.requirement = declaration.requirement) := by
  constructor
  · rintro ⟨out, returned, listed⟩
    obtain ⟨_, other, read, taken⟩ := (mem_installed returned).mp listed
    obtain ⟨whole, _, _, kept⟩ := Declaration.taken_eq_some_iff.mp taken
    refine ⟨?_, ?_, ?_⟩
    · rw [← installed_isOk stdlib, returned]
      rfl
    · rw [← whole, other.filtered_skipped, kept]
    · by_cases line : other.place = .line
      · left
        rw [← whole, Declaration.filtered, if_pos line]
        intro hash
        have kept := List.mem_takeWhile_imp hash
        cases kept
      · exact .inr ⟨other, read, line, other.filtered_of_ne line ▸ whole⟩
  · rintro ⟨answered, kept, free⟩
    obtain ⟨out, returned⟩ := installed_of_answered stdlib answered
    refine ⟨out, returned, (mem_installed returned).mpr ⟨wanted.isStdlib_eq_false, ?_⟩⟩
    obtain ⟨c, rest, split, letter⟩ : ∃ c rest, declaration.requirement = c :: rest ∧
        c.isAlphanum = true := by
      obtain ⟨_, requires, _⟩ := wanted
      exact requires.begins
    have plain : isOption declaration.requirement = false := by
      rw [split]
      exact isOption_cons letter
    have collected {other : Declaration} (whole : other.filtered = declaration.requirement)
        (same : other.requirement = declaration.requirement) :
        other.taken = some declaration.requirement := by
      refine Declaration.taken_eq_some_iff.mpr ⟨whole, ?_, fun option => ?_, same ▸ kept⟩
      · rw [split]
        exact List.cons_ne_nil _ _
      · rw [plain] at option
        cases option
    obtain free | ⟨other, read, place, same⟩ := free
    · refine ⟨declaration, declared, collected ?_ rfl⟩
      unfold Declaration.filtered
      split
      · exact takeWhile_free free
      · rfl
    · exact ⟨other, read, collected ((other.filtered_of_ne place).trans same) same⟩

variable (stdlib files refs repos paths) in
/-- Every declared requirement that is wanted is among the installed ones, unaltered. -/
def LosesNothing : Prop :=
  ∀ declaration, Declared files refs repos paths declaration →
    Wanted stdlib declaration.requirement →
    ∃ out, installed stdlib files refs repos paths = .ok out ∧ declaration.requirement ∈ out

/-- **When no declared requirement is lost.** It takes that nothing that is read raises and that
the wanted requirements do not begin like the SDK, and that those with a `#` are not declared
in requirements files alone. -/
theorem losesNothing_iff (stdlib : Stdlib) (files : RequirementFiles) (refs : List PluginRef)
    (repos : List RepoSpec) (paths : String → Option PyPath) :
    LosesNothing stdlib files refs repos paths ↔
      ∀ declaration, Declared files refs repos paths declaration →
        Wanted stdlib declaration.requirement →
          Answered files refs repos paths ∧ isSkipped declaration.requirement = false ∧
            ('#' ∉ declaration.requirement ∨ ∃ other, Declared files refs repos paths other ∧
              other.place ≠ .line ∧ other.requirement = declaration.requirement) := by
  constructor
  · intro keeps declaration declared wanted
    exact (requirement_mem_installed_iff declared wanted).mp (keeps declaration declared wanted)
  · intro condition declaration declared wanted
    exact (requirement_mem_installed_iff declared wanted).mpr
      (condition declaration declared wanted)

section Client

private def noFiles : RequirementFiles where
  manifest _ := .ok .null
  present _ := .ok false
  readText _ := .ok none

private def clientSpec : RepoSpec where
  name := "r"
  gitUrl := ""
  requirements := ["biothings_client"]

/-- The client library begins like the SDK. -/
theorem losesNothing_client :
    ¬ LosesNothing noStdlib noFiles [] [clientSpec] fun _ => none := by
  intro keeps
  have declared : Declared noFiles [] [clientSpec] (fun _ => none)
      ⟨.inline, "biothings_client".toList⟩ :=
    ⟨_, List.mem_cons_self, _, rfl, List.mem_cons_self⟩
  have wanted : Wanted noStdlib "biothings_client".toList := by
    have called : "biothings_client".toList ∈ identifier :=
      ⟨List.all_eq_true.mp rfl, ⟨'b', rfl, rfl⟩, 't', rfl, rfl⟩
    refine ⟨_, List.append_nil _ ▸ Requires.named called nil_mem_specSuffix, ?_⟩
    intro name same
    obtain rfl := Option.some.inj same
    exact ⟨rfl, List.not_mem_nil⟩
  obtain ⟨out, returned, listed⟩ := keeps _ declared wanted
  obtain ⟨_, other, _, taken⟩ := (mem_installed returned).mp listed
  obtain ⟨whole, _, _, kept⟩ := Declaration.taken_eq_some_iff.mp taken
  rw [← other.filtered_skipped, whole] at kept
  cases kept

end Client

end Installed

end BiothingsPulse
