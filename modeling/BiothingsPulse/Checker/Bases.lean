import BiothingsPulse.Checker.Loader
import BiothingsPulse.Foundation.Replacement
import BiothingsPulse.Plugins.Requirements
import BiothingsPulse.Python.Urls

/-!
# Base classes of manifest plugins

Which base class the dumper of a manifest gets: the one of the scheme that its URLs have in
common, unless the manifest names a class. The schemes are compared after a replacement, and
the decision falls by whichever scheme the set of them yields first.
-/

namespace BiothingsPulse

open Foundation Replacement

/-- The order in which a set of schemes is iterated. -/
structure SchemeOrder where
  order : List (List Char) → List (List Char)
  perm : ∀ schemes, (order schemes).Perm schemes

/-- What the dumper of a manifest plugin is built from: its `dumper` section and its
`__metadata__`. Of a class, the module that it is imported from. -/
structure DumperSection where
  dataUrl : Json := .null
  customClass : Option DottedName := none
  release : Option (Except PyExc (DottedName × String)) := none
  schedule : Json := .null
  uncompress : Json := .scalar "bool" false
  metadata : Json := .null

inductive DumperBase where
  | lastModifiedHTTP
  | lastModifiedFTP
  | custom (module : DottedName)
  deriving DecidableEq, Repr

/-- The class that is made for a manifest plugin: its base and its attributes. -/
structure DumperAttrs where
  base : DumperBase
  srcName : String
  srcRootFolder : PyPath
  srcUrls : List String
  schedule : Json
  uncompress : Json
  metadata : Json
  /-- The function behind `set_release`. -/
  release : Option (Origin × String) := none

/-- Python's truth value. -/
def Json.isTruthy : Json → Bool
  | .null => false
  | .scalar _ truthy => truthy
  | .str text => text ≠ ""
  | .array elements => elements ≠ []
  | .object members => !members.isEmpty

def unsupported (message : String) : PyExc := ⟨.unsupportedPlugin, "UnsupportedPlugin", message⟩

/-- `repr(scheme)`; no character of a scheme is escaped. -/
def schemeRepr (scheme : List Char) : String := "'" ++ String.ofList scheme ++ "'"

def schemesText (schemes : List (List Char)) : String :=
  "\x7b" ++ ", ".intercalate (schemes.map schemeRepr) ++ "\x7d"

def schemeBases : List (List Char × String) :=
  [("http".toList, "http"), ("https".toList, "http"), ("ftp".toList, "ftp")]

/-- `scheme.replace("https", "http")`. -/
def normalizedScheme (scheme : List Char) : List Char :=
  replace "https".toList "http".toList scheme

section Select

variable (checks : NetlocChecks) (order : SchemeOrder)

/-- The schemes of the URLs. -/
def schemesOf (urls : List String) : Except PyExc (List (List Char)) :=
  (Loop.collect (fun url => (urlsplit checks url.toList).map SplitUrl.scheme) urls).map
    List.eraseDups

/-- The base class for a scheme. -/
def schemeBase (scheme : List Char) : Except PyExc DumperBase :=
  let baseKind := schemeBases.lookup scheme
  if baseKind = some "http" then .ok .lastModifiedHTTP
  else if baseKind = some "ftp" then .ok .lastModifiedFTP
  else .error (unsupported ("unsupported URL scheme " ++ schemeRepr scheme))

/-- The base class that goes with the scheme taken from the set. -/
def baseOf (customClass : Option DottedName) (scheme : List Char) : Except PyExc DumperBase :=
  if contains "docker".toList scheme then
    .error (unsupported "docker-based dumper is not supported")
  else
    match customClass with
    | some module => .ok (.custom module)
    | none => schemeBase scheme

/-- The base class for a set of schemes. -/
def baseFor (customClass : Option DottedName) (schemes : List (List Char)) :
    Except PyExc DumperBase :=
  let iterated := order.order schemes
  let normalized := (iterated.map normalizedScheme).eraseDups
  if normalized.length ≠ 1 then
    .error (unsupported ("mixed URL schemes: " ++ schemesText iterated))
  else
    match iterated with
    | [] => .error ⟨.ordinary, "KeyError", "'pop from an empty set'"⟩
    | scheme :: _ => baseOf customClass scheme

/-- The URLs and the base class of a manifest's dumper. -/
def selectBase (dumper : DumperSection) : Except PyExc (List String × DumperBase) :=
  if !dumper.dataUrl.isTruthy then
    .error (unsupported "manifest has no dumper.data_url (upload-only)")
  else do
    let urls ← dumper.dataUrl.entries
    let schemes ← schemesOf checks urls
    let base ← baseFor order dumper.customClass schemes
    return (urls, base)

/-- What the loader takes from a manifest. -/
def DumperSection.manifest (dumper : DumperSection) : Manifest where
  checks := (selectBase checks order dumper).map fun _ => ()
  customClass := dumper.customClass
  release := dumper.release

/-- The attributes of the class, but for its release function. -/
def DumperSection.attrs (dumper : DumperSection) (ref : PluginRef) (workDir : PyPath)
    (selected : List String × DumperBase) : DumperAttrs where
  base := selected.2
  srcName := ref.name
  srcRootFolder := joinPath workDir ref.name
  srcUrls := selected.1
  schedule := dumper.schedule
  uncompress := dumper.uncompress
  metadata := if dumper.metadata.isTruthy then dumper.metadata else .object []

namespace Runtime

variable (runtime : Runtime)

/-- Make the class on the selected base. -/
def makeDumperClass (names : SetOrder) (ref : PluginRef) (workDir : PyPath)
    (dumper : DumperSection) (selected : List String × DumperBase) (state : Interp) :
    Except PyExc DumperAttrs × Interp :=
  match runtime.importCustomClass { customClass := dumper.customClass } state with
  | (.error exc, state) => (.error exc, state)
  | (.ok _, state) =>
      match dumper.release with
      | none => (.ok (dumper.attrs ref workDir selected), state)
      | some (.error exc) => (.error exc, state)
      | some (.ok (module, funcname)) =>
          let (imported, state) := runtime.importReleaseFunc names ref module funcname state
          (imported.map fun origin =>
            { dumper.attrs ref workDir selected with release := some (origin, funcname) }, state)

/-- Construct the class of a manifest plugin's dumper. -/
def buildDumperClass (names : SetOrder) (ref : PluginRef) (workDir : PyPath)
    (dumper : DumperSection) (state : Interp) : Except PyExc DumperAttrs × Interp :=
  match selectBase checks order dumper with
  | .error exc => (.error exc, state)
  | .ok selected => runtime.makeDumperClass names ref workDir dumper selected state

/-- The loader builds what the class is made of. -/
theorem buildManifestDumper_eq (names : SetOrder) (ref : PluginRef) (workDir : PyPath)
    (dumper : DumperSection) (state : Interp) :
    runtime.buildManifestDumper names ref (dumper.manifest checks order) state =
      (((runtime.buildDumperClass checks order names ref workDir dumper state).1.map fun made =>
        .manifest made.release),
      (runtime.buildDumperClass checks order names ref workDir dumper state).2) := by
  have custom : runtime.importCustomClass (dumper.manifest checks order) state =
      runtime.importCustomClass { customClass := dumper.customClass } state := rfl
  have release : (dumper.manifest checks order).release = dumper.release := rfl
  rw [buildManifestDumper, buildDumperClass, custom, release]
  cases selected : selectBase checks order dumper with
  | error exc =>
      have failed : (dumper.manifest checks order).checks = .error exc := by
        rw [DumperSection.manifest, selected]
        rfl
      rw [failed]
      rfl
  | ok base =>
      have passed : (dumper.manifest checks order).checks = .ok () := by
        rw [DumperSection.manifest, selected]
        rfl
      rw [passed]
      dsimp only
      rw [makeDumperClass]
      rcases runtime.importCustomClass { customClass := dumper.customClass } state with
        ⟨exc | done, after⟩
      · rfl
      · rcases dumper.release with _ | exc | ⟨module, funcname⟩
        · rfl
        · rfl
        · dsimp only
          rcases runtime.importReleaseFunc names ref module funcname after with ⟨exc | origin, last⟩
          · rfl
          · rfl

end Runtime

end Select

section Uniform

variable {schemes : List (List Char)} {common scheme : List Char}

private theorem contains_iff {part text : List Char} :
    contains part text = true ↔ part <:+: text := by
  rw [contains, List.any_eq_true, List.infix_iff_prefix_suffix]
  simp only [List.mem_tails, List.isPrefixOf_iff_prefix, and_comm]

/-- A set has one element. -/
theorem eraseDups_length_eq_one_iff {α : Type*} [BEq α] [LawfulBEq α] {elements : List α} :
    elements.eraseDups.length = 1 ↔
      elements ≠ [] ∧ ∃ only, ∀ element ∈ elements, element = only := by
  cases elements with
  | nil => simp
  | cons first rest =>
      rw [List.eraseDups_cons, List.length_cons, Nat.add_eq_right, List.length_eq_zero_iff]
      constructor
      · intro alone
        refine ⟨List.cons_ne_nil _ _, first, ?_⟩
        intro element listed
        obtain rfl | listed := List.mem_cons.mp listed
        · rfl
        · by_contra other
          have kept : element ∈ (rest.filter fun other => !other == first).eraseDups :=
            List.mem_eraseDups.mpr (List.mem_filter.mpr ⟨listed, by simpa using other⟩)
          rw [alone] at kept
          cases kept
      · rintro ⟨-, only, same⟩
        rw [List.filter_eq_nil_iff.mpr]
        · rfl
        · intro element listed
          rw [same element (List.mem_cons_of_mem _ listed), same first List.mem_cons_self]
          simp

/-- The schemes are one and the same after the replacement. -/
def Uniform (schemes : List (List Char)) (common : List Char) : Prop :=
  schemes ≠ [] ∧ ∀ scheme ∈ schemes, normalizedScheme scheme = common

private theorem normalizedScheme_eq_http :
    normalizedScheme scheme = "http".toList ↔ scheme = "https".toList ∨ scheme = "http".toList :=
  replace_eq_new_iff (List.cons_ne_nil _ _) (List.cons_ne_nil _ _) (by decide)

private theorem normalizedScheme_eq_ftp :
    normalizedScheme scheme = "ftp".toList ↔ scheme = "ftp".toList :=
  replace_eq_iff_of_free (List.cons_ne_nil _ _) (by decide) (by decide)

/-- The replacement has no letter in common with `docker`. -/
theorem docker_normalizedScheme (scheme : List Char) :
    contains "docker".toList (normalizedScheme scheme) = contains "docker".toList scheme := by
  have foreign : ∀ c ∈ "docker".toList, c ∉ "https".toList ∧ c ∉ "http".toList := by
    simp
  rw [Bool.eq_iff_iff, contains_iff, contains_iff]
  exact infix_replace_iff foreign (List.cons_ne_nil _ _) (List.cons_ne_nil _ _)
    (List.cons_ne_nil _ _)

end Uniform

section Choice

variable {order : SchemeOrder} {customClass : Option DottedName} {schemes : List (List Char)}
  {common : List Char}

variable (order customClass) in
/-- Whichever scheme is taken from a uniform set decides. -/
theorem baseFor_uniform (uniform : Uniform schemes common) :
    ∃ scheme ∈ schemes, baseFor order customClass schemes = baseOf customClass scheme := by
  have perm := order.perm schemes
  have single : ((order.order schemes).map normalizedScheme).eraseDups.length = 1 := by
    apply eraseDups_length_eq_one_iff.mpr
    refine ⟨?_, common, ?_⟩
    · rw [ne_eq, List.map_eq_nil_iff]
      exact fun empty => uniform.1 (perm.symm.trans (by rw [empty])).eq_nil
    · rw [List.forall_mem_map]
      exact fun scheme listed => uniform.2 scheme (perm.mem_iff.mp listed)
  rw [baseFor, if_neg (not_not.mpr single)]
  cases iterated : order.order schemes with
  | nil => exact absurd (perm.symm.trans (by rw [iterated])).eq_nil uniform.1
  | cons scheme rest =>
      exact ⟨scheme, perm.mem_iff.mp (by rw [iterated]; exact List.mem_cons_self), rfl⟩

/-- Schemes that are not uniform are mixed. -/
theorem baseFor_mixed (nonempty : schemes ≠ []) (mixed : ∀ common, ¬ Uniform schemes common) :
    baseFor order customClass schemes =
      .error (unsupported ("mixed URL schemes: " ++ schemesText (order.order schemes))) := by
  have several : ((order.order schemes).map normalizedScheme).eraseDups.length ≠ 1 := by
    intro single
    obtain ⟨-, common, same⟩ := eraseDups_length_eq_one_iff.mp single
    rw [List.forall_mem_map] at same
    apply mixed common
    exact ⟨nonempty, fun scheme listed => same scheme ((order.perm schemes).mem_iff.mpr listed)⟩
  rw [baseFor, if_pos several]

/-- The bases of the schemes, each of them found under its own name only. -/
theorem schemeBase_eq_ok {scheme : List Char} {base : DumperBase} :
    schemeBase scheme = .ok base ↔
      (base = .lastModifiedHTTP ∧ (scheme = "https".toList ∨ scheme = "http".toList)) ∨
        (base = .lastModifiedFTP ∧ scheme = "ftp".toList) := by
  have http : schemeBase "http".toList = .ok .lastModifiedHTTP := by decide
  have https : schemeBase "https".toList = .ok .lastModifiedHTTP := by decide
  have ftp : schemeBase "ftp".toList = .ok .lastModifiedFTP := by decide
  constructor
  · intro found
    by_cases isHttp : scheme = "http".toList
    · rw [isHttp, http] at found
      exact .inl ⟨(Except.ok.inj found).symm, .inr isHttp⟩
    · by_cases isHttps : scheme = "https".toList
      · rw [isHttps, https] at found
        exact .inl ⟨(Except.ok.inj found).symm, .inl isHttps⟩
      · by_cases isFtp : scheme = "ftp".toList
        · rw [isFtp, ftp] at found
          exact .inr ⟨(Except.ok.inj found).symm, isFtp⟩
        · have missing : schemeBases.lookup scheme = none := by
            simp only [schemeBases, List.lookup_cons, beq_eq_false_iff_ne.mpr isHttp,
              beq_eq_false_iff_ne.mpr isHttps, beq_eq_false_iff_ne.mpr isFtp, List.lookup_nil]
          rw [schemeBase, missing] at found
          cases found
  · rintro (⟨rfl, rfl | rfl⟩ | ⟨rfl, rfl⟩)
    · exact https
    · exact http
    · exact ftp

private theorem baseOf_none_eq_ok {scheme : List Char} {base : DumperBase} :
    baseOf none scheme = .ok base ↔ schemeBase scheme = .ok base := by
  rw [baseOf]
  split
  · rename_i docker
    refine iff_of_false nofun fun found => ?_
    obtain ⟨-, rfl | rfl⟩ | ⟨-, rfl⟩ := schemeBase_eq_ok.mp found <;>
      exact absurd docker (by decide)
  · exact Iff.rfl

/-- What the schemes have in common decides the base of a manifest that names no class. -/
theorem baseFor_none_eq_ok {base : DumperBase} (nonempty : schemes ≠ []) :
    baseFor order none schemes = .ok base ↔
      (base = .lastModifiedHTTP ∧ Uniform schemes "http".toList) ∨
        (base = .lastModifiedFTP ∧ Uniform schemes "ftp".toList) := by
  constructor
  · intro chosen
    by_cases mixed : ∀ common, ¬ Uniform schemes common
    · rw [baseFor_mixed nonempty mixed] at chosen
      cases chosen
    · obtain ⟨common, uniform⟩ := not_forall_not.mp mixed
      obtain ⟨scheme, listed, same⟩ := baseFor_uniform order none uniform
      rw [same, baseOf_none_eq_ok, schemeBase_eq_ok] at chosen
      have agrees := uniform.2 scheme listed
      obtain ⟨rfl, http⟩ | ⟨rfl, ftp⟩ := chosen
      · rw [normalizedScheme_eq_http.mpr http] at agrees
        exact .inl ⟨rfl, agrees ▸ uniform⟩
      · rw [normalizedScheme_eq_ftp.mpr ftp] at agrees
        exact .inr ⟨rfl, agrees ▸ uniform⟩
  · rintro (⟨rfl, uniform⟩ | ⟨rfl, uniform⟩)
    · obtain ⟨scheme, listed, same⟩ := baseFor_uniform order none uniform
      rw [same, baseOf_none_eq_ok, schemeBase_eq_ok]
      exact .inl ⟨rfl, normalizedScheme_eq_http.mp (uniform.2 scheme listed)⟩
    · obtain ⟨scheme, listed, same⟩ := baseFor_uniform order none uniform
      rw [same, baseOf_none_eq_ok, schemeBase_eq_ok]
      exact .inr ⟨rfl, normalizedScheme_eq_ftp.mp (uniform.2 scheme listed)⟩

/-- With a class of its own a manifest is accepted when the schemes are uniform and none of
them is one of docker's. -/
theorem baseFor_some_eq_ok {module : DottedName} {base : DumperBase} (nonempty : schemes ≠ []) :
    baseFor order (some module) schemes = .ok base ↔
      base = .custom module ∧
        ∃ common, Uniform schemes common ∧ contains "docker".toList common = false := by
  by_cases mixed : ∀ common, ¬ Uniform schemes common
  · rw [baseFor_mixed nonempty mixed]
    exact iff_of_false nofun fun ⟨_, common, uniform, _⟩ => mixed common uniform
  · obtain ⟨common, uniform⟩ := not_forall_not.mp mixed
    obtain ⟨scheme, listed, same⟩ :=
      baseFor_uniform order (some module) uniform
    have docker := docker_normalizedScheme scheme
    rw [uniform.2 scheme listed] at docker
    rw [same, baseOf, ← docker]
    constructor
    · intro chosen
      split at chosen
      · cases chosen
      · rename_i plain
        exact ⟨(Except.ok.inj chosen).symm, common, uniform, Bool.eq_false_iff.mpr plain⟩
    · rintro ⟨rfl, other, uniform', plain⟩
      obtain rfl : common = other :=
        (uniform.2 scheme listed).symm.trans (uniform'.2 scheme listed)
      rw [plain]
      rfl

/-- Whether and how a base is chosen does not depend on the order of the schemes. -/
theorem baseFor_order (order other : SchemeOrder) {base : DumperBase} :
    baseFor order customClass schemes = .ok base ↔
      baseFor other customClass schemes = .ok base := by
  by_cases empty : schemes = []
  · have fails (order : SchemeOrder) : ¬ baseFor order customClass schemes = .ok base := by
      rw [baseFor, empty, (order.perm []).eq_nil]
      nofun
    exact iff_of_false (fails order) (fails other)
  · cases customClass with
    | none => rw [baseFor_none_eq_ok empty, baseFor_none_eq_ok empty]
    | some module => rw [baseFor_some_eq_ok empty, baseFor_some_eq_ok empty]

/-- Where no base is chosen, the manifest is unsupported. -/
theorem baseFor_eq_error {exc : PyExc} (nonempty : schemes ≠ [])
    (failed : baseFor order customClass schemes = .error exc) : exc.kind = .unsupportedPlugin := by
  by_cases mixed : ∀ common, ¬ Uniform schemes common
  · rw [baseFor_mixed nonempty mixed] at failed
    obtain rfl := Except.error.inj failed
    rfl
  · obtain ⟨common, uniform⟩ := not_forall_not.mp mixed
    obtain ⟨scheme, -, same⟩ := baseFor_uniform order customClass uniform
    rw [same] at failed
    by_cases docker : contains "docker".toList scheme = true
    · obtain rfl := Except.error.inj ((if_pos docker).symm.trans failed)
      rfl
    · have chosen := (if_neg docker).symm.trans failed
      cases customClass with
      | some module => cases chosen
      | none =>
          dsimp only at chosen
          rw [schemeBase] at chosen
          split at chosen
          · cases chosen
          · split at chosen
            · cases chosen
            · obtain rfl := Except.error.inj chosen
              rfl

end Choice

section Selection

/-- The value is a non-empty string or a non-empty list, of these URLs. -/
def Json.GivesUrls (urls : List String) : Json → Prop
  | .str text => text ≠ "" ∧ urls = [text]
  | .array elements => elements ≠ [] ∧ urls = elements
  | _ => False

/-- The URL is split without an error. -/
def Splits (checks : NetlocChecks) (url : String) : Prop :=
  ∃ split, urlsplit checks url.toList = .ok split

variable {checks : NetlocChecks} {order : SchemeOrder} {urls : List String}
  {dumper : DumperSection}

private theorem Json.GivesUrls.entries {value : Json} (gives : value.GivesUrls urls) :
    value.isTruthy = true ∧ value.entries = .ok urls ∧ urls ≠ [] := by
  cases value with
  | str text =>
      obtain ⟨written, rfl⟩ := gives
      exact ⟨decide_eq_true written, congrArg _ (if_neg written), List.cons_ne_nil _ _⟩
  | array elements =>
      obtain ⟨nonempty, rfl⟩ := gives
      exact ⟨decide_eq_true nonempty, rfl, nonempty⟩
  | null => cases gives
  | scalar typeName truthy => cases gives
  | object members => cases gives

private theorem schemesOf_of_splits (nonempty : urls ≠ [])
    (splits : ∀ url ∈ urls, Splits checks url) :
    ∃ schemes, schemesOf checks urls = .ok schemes ∧ schemes ≠ [] ∧
      ∀ scheme, scheme ∈ schemes ↔ ∃ url ∈ urls, urlScheme url.toList = scheme := by
  have succeeds := Loop.collect_isOk
    (fun url : String => (urlsplit checks url.toList).map SplitUrl.scheme) urls
  have all : urls.all (fun url =>
      ((urlsplit checks url.toList).map SplitUrl.scheme).isOk) = true := by
    apply List.all_eq_true.mpr
    intro url listed
    obtain ⟨split, parsed⟩ := splits url listed
    rw [parsed]
    rfl
  cases collected : Loop.collect
      (fun url : String => (urlsplit checks url.toList).map SplitUrl.scheme) urls with
  | error exc =>
      rw [all, collected] at succeeds
      cases succeeds
  | ok values =>
      have observed : values.map id = urls.map fun url => urlScheme url.toList := by
        apply Loop.collect_map _ collected
        intro url value mapped
        obtain ⟨split, parsed, rfl⟩ := Loop.map_eq_ok.mp mapped
        exact scheme_of_urlsplit parsed
      rw [List.map_id] at observed
      have member (scheme : List Char) :
          scheme ∈ values.eraseDups ↔ ∃ url ∈ urls, urlScheme url.toList = scheme := by
        rw [List.mem_eraseDups, observed, List.mem_map]
      refine ⟨values.eraseDups, by rw [schemesOf, collected]; rfl, ?_, member⟩
      obtain ⟨url, listed⟩ := List.exists_mem_of_ne_nil urls nonempty
      exact List.ne_nil_of_mem ((member _).mpr ⟨url, listed, rfl⟩)

/-- The first URL that is not split stops the collection of the schemes. -/
theorem schemesOf_of_rejected {before after : List String} {url : String} {exc : PyExc}
    (splits : ∀ earlier ∈ before, Splits checks earlier)
    (rejected : urlsplit checks url.toList = .error exc) :
    schemesOf checks (before ++ url :: after) = .error exc := by
  have stopped : Loop.collect
      (fun url : String => (urlsplit checks url.toList).map SplitUrl.scheme)
        (before ++ url :: after) = .error exc := by
    induction before with
    | nil => rw [List.nil_append, Loop.collect, rejected]; rfl
    | cons earlier before ih =>
        rw [List.forall_mem_cons] at splits
        obtain ⟨split, parsed⟩ := splits.1
        rw [List.cons_append, Loop.collect, ih splits.2, parsed]
        rfl
  rw [schemesOf, stopped]
  rfl

private theorem selectBase_eq (order : SchemeOrder) (gives : dumper.dataUrl.GivesUrls urls) :
    selectBase checks order dumper = schemesOf checks urls >>= fun schemes =>
      (baseFor order dumper.customClass schemes).map fun base => (urls, base) := by
  obtain ⟨truthy, entries, -⟩ := gives.entries
  rw [selectBase, truthy, entries, Bool.not_true, if_neg Bool.false_ne_true]
  change (schemesOf checks urls >>= fun schemes =>
    baseFor order dumper.customClass schemes >>= fun base => pure (urls, base)) = _
  cases schemesOf checks urls with
  | error exc => rfl
  | ok schemes =>
      change (baseFor order dumper.customClass schemes >>= fun base => pure (urls, base)) =
        (baseFor order dumper.customClass schemes).map fun base => (urls, base)
      cases baseFor order dumper.customClass schemes <;> rfl

private theorem selectBase_of_splits (gives : dumper.dataUrl.GivesUrls urls)
    (splits : ∀ url ∈ urls, Splits checks url) :
    ∃ schemes, schemes ≠ [] ∧
      (∀ scheme, scheme ∈ schemes ↔ ∃ url ∈ urls, urlScheme url.toList = scheme) ∧
      ∀ order, selectBase checks order dumper =
        (baseFor order dumper.customClass schemes).map fun base => (urls, base) := by
  obtain ⟨schemes, collected, nonempty, member⟩ := schemesOf_of_splits gives.entries.2.2 splits
  refine ⟨schemes, nonempty, member, ?_⟩
  intro order
  rw [selectBase_eq order gives, collected]
  rfl

private theorem selectBase_of_rejected {before after : List String} {url : String} {exc : PyExc}
    (order : SchemeOrder) (gives : dumper.dataUrl.GivesUrls (before ++ url :: after))
    (splits : ∀ earlier ∈ before, Splits checks earlier)
    (rejected : urlsplit checks url.toList = .error exc) :
    selectBase checks order dumper = .error exc := by
  rw [selectBase_eq order gives, schemesOf_of_rejected splits rejected]
  rfl

/-- Which base is selected, if any, does not depend on the order. -/
theorem selectBase_order (gives : dumper.dataUrl.GivesUrls urls) (order other : SchemeOrder)
    {selected : List String × DumperBase} :
    selectBase checks order dumper = .ok selected ↔
      selectBase checks other dumper = .ok selected := by
  rw [selectBase_eq order gives, selectBase_eq other gives, Loop.bind_eq_ok, Loop.bind_eq_ok]
  simp only [Loop.map_eq_ok, baseFor_order order other]

private theorem urls_of_selectBase (gives : dumper.dataUrl.GivesUrls urls)
    {selected : List String × DumperBase} (chosen : selectBase checks order dumper = .ok selected) :
    selected.1 = urls := by
  rw [selectBase_eq order gives, Loop.bind_eq_ok] at chosen
  obtain ⟨schemes, _, mapped⟩ := chosen
  obtain ⟨base, _, rfl⟩ := Loop.map_eq_ok.mp mapped
  rfl

/-- Every URL has one of the schemes. -/
def AllOf (schemes : List String) (urls : List String) : Prop :=
  ∀ url ∈ urls, ∃ scheme ∈ schemes, urlScheme url.toList = scheme.toList

/-- The schemes are uniform when every URL has one of those that the replacement takes to what
they have in common. -/
theorem uniform_iff {schemes : List (List Char)} {common : List Char} {spellings : List String}
    (normal : ∀ scheme,
      normalizedScheme scheme = common ↔ ∃ spelling ∈ spellings, scheme = spelling.toList)
    (nonempty : schemes ≠ [])
    (member : ∀ scheme, scheme ∈ schemes ↔ ∃ url ∈ urls, urlScheme url.toList = scheme) :
    Uniform schemes common ↔ AllOf spellings urls := by
  constructor
  · intro uniform url listed
    exact (normal _).mp (uniform.2 _ ((member _).mpr ⟨url, listed, rfl⟩))
  · intro all
    refine ⟨nonempty, ?_⟩
    intro scheme listed
    obtain ⟨url, among, rfl⟩ := (member scheme).mp listed
    exact (normal _).mpr (all url among)

private theorem normalizedScheme_eq_http_iff (scheme : List Char) :
    normalizedScheme scheme = "http".toList ↔
      ∃ spelling ∈ ["http", "https"], scheme = spelling.toList := by
  rw [normalizedScheme_eq_http, or_comm]
  simp

private theorem normalizedScheme_eq_ftp_iff (scheme : List Char) :
    normalizedScheme scheme = "ftp".toList ↔ ∃ spelling ∈ ["ftp"], scheme = spelling.toList := by
  rw [normalizedScheme_eq_ftp]
  simp

end Selection

section Building

variable (runtime : Runtime) (checks : NetlocChecks) (names : SetOrder) (ref : PluginRef)
  (workDir : PyPath) (dumper : DumperSection) (state : Interp)

/-- The class is made, on the given base. -/
def BuildsOn (order : SchemeOrder) (base : DumperBase) : Prop :=
  ∃ made, (runtime.buildDumperClass checks order names ref workDir dumper state).1 = .ok made ∧
    made.base = base

/-- The base class follows from the schemes of the URLs alone, and nothing depends on the order
in which they are iterated. -/
structure SelectsExactly (urls : List String) : Prop where
  http : dumper.customClass = none → dumper.release = none → ∀ order,
    BuildsOn runtime checks names ref workDir dumper state order .lastModifiedHTTP ↔
      AllOf ["http", "https"] urls
  ftp : dumper.customClass = none → dumper.release = none → ∀ order,
    BuildsOn runtime checks names ref workDir dumper state order .lastModifiedFTP ↔
      AllOf ["ftp"] urls
  unsupported : dumper.customClass = none → dumper.release = none → ∀ order,
    ¬ AllOf ["http", "https"] urls → ¬ AllOf ["ftp"] urls →
      ∃ exc, (runtime.buildDumperClass checks order names ref workDir dumper state).1 = .error exc ∧
        exc.kind = .unsupportedPlugin
  accepted : ∀ order other,
    (runtime.buildDumperClass checks order names ref workDir dumper state).1.isOk =
      (runtime.buildDumperClass checks other names ref workDir dumper state).1.isOk
  srcUrls : ∀ order made,
    (runtime.buildDumperClass checks order names ref workDir dumper state).1 = .ok made →
      made.srcUrls = urls

variable {runtime checks names ref workDir dumper state} {order : SchemeOrder}

private theorem buildDumperClass_of_error {exc : PyExc}
    (failed : selectBase checks order dumper = .error exc) :
    runtime.buildDumperClass checks order names ref workDir dumper state = (.error exc, state) := by
  rw [Runtime.buildDumperClass, failed]

/-- Without a class and a release function of its own, a manifest's class is what is selected. -/
theorem buildDumperClass_plain (noClass : dumper.customClass = none)
    (noRelease : dumper.release = none) :
    (runtime.buildDumperClass checks order names ref workDir dumper state).1 =
      (selectBase checks order dumper).map (dumper.attrs ref workDir) := by
  rw [Runtime.buildDumperClass]
  cases selectBase checks order dumper with
  | error exc => rfl
  | ok selected =>
      have imported : runtime.importCustomClass { customClass := dumper.customClass } state =
          (.ok (), state) := by
        rw [noClass]
        rfl
      dsimp only
      rw [Runtime.makeDumperClass, imported, noRelease]
      rfl

/-- The class that is made has the URLs that were selected. -/
theorem srcUrls_of_makeDumperClass {selected : List String × DumperBase} {made : DumperAttrs}
    (built : (runtime.makeDumperClass names ref workDir dumper selected state).1 = .ok made) :
    made.srcUrls = selected.1 := by
  rw [Runtime.makeDumperClass] at built
  rcases imported : runtime.importCustomClass { customClass := dumper.customClass } state with
    ⟨exc | done, after⟩
  · rw [imported] at built
    cases built
  · rw [imported] at built
    rcases release : dumper.release with _ | exc | ⟨module, funcname⟩
    · rw [release] at built
      obtain rfl := Except.ok.inj built
      rfl
    · rw [release] at built
      cases built
    · rw [release] at built
      obtain ⟨origin, _, rfl⟩ := Loop.map_eq_ok.mp built
      rfl

variable {urls : List String}

/-- On a base of the SDK the class is built when the selection is that base. -/
theorem buildsOn_plain_iff {base : DumperBase} (noClass : dumper.customClass = none)
    (noRelease : dumper.release = none) (gives : dumper.dataUrl.GivesUrls urls) :
    BuildsOn runtime checks names ref workDir dumper state order base ↔
      selectBase checks order dumper = .ok (urls, base) := by
  rw [BuildsOn, buildDumperClass_plain noClass noRelease]
  simp only [Loop.map_eq_ok]
  constructor
  · rintro ⟨_, ⟨selected, chosen, rfl⟩, rfl⟩
    rw [chosen, ← urls_of_selectBase gives chosen]
    rfl
  · exact fun chosen => ⟨_, ⟨_, chosen, rfl⟩, rfl⟩

private theorem accepted_iff (gives : dumper.dataUrl.GivesUrls urls) (order other : SchemeOrder) :
    (runtime.buildDumperClass checks order names ref workDir dumper state).1.isOk =
      (runtime.buildDumperClass checks other names ref workDir dumper state).1.isOk := by
  cases chosen : selectBase checks order dumper with
  | ok selected =>
      have same := (selectBase_order gives order other).mp chosen
      rw [Runtime.buildDumperClass, chosen, Runtime.buildDumperClass, same]
  | error exc =>
      cases different : selectBase checks other dumper with
      | ok selected =>
          rw [(selectBase_order gives other order).mp different] at chosen
          cases chosen
      | error exc' =>
          rw [buildDumperClass_of_error chosen, buildDumperClass_of_error different]
          rfl

private theorem selectsExactly (gives : dumper.dataUrl.GivesUrls urls)
    (splits : ∀ url ∈ urls, Splits checks url) :
    SelectsExactly runtime checks names ref workDir dumper state urls := by
  obtain ⟨schemes, nonempty, member, selects⟩ := selectBase_of_splits gives splits
  have chosen (noClass : dumper.customClass = none) (order : SchemeOrder) (base : DumperBase) :
      selectBase checks order dumper = .ok (urls, base) ↔
        (base = .lastModifiedHTTP ∧ AllOf ["http", "https"] urls) ∨
          (base = .lastModifiedFTP ∧ AllOf ["ftp"] urls) := by
    have based : baseFor order none schemes = .ok base ↔ _ := baseFor_none_eq_ok nonempty
    rw [uniform_iff normalizedScheme_eq_http_iff nonempty member,
      uniform_iff normalizedScheme_eq_ftp_iff nonempty member] at based
    rw [selects, noClass, Loop.map_eq_ok, ← based]
    simp
  refine ⟨?_, ?_, ?_, accepted_iff gives, ?_⟩
  · intro noClass noRelease order
    rw [buildsOn_plain_iff noClass noRelease gives, chosen noClass]
    simp
  · intro noClass noRelease order
    rw [buildsOn_plain_iff noClass noRelease gives, chosen noClass]
    simp
  · intro noClass noRelease order notHttp notFtp
    cases outcome : baseFor order dumper.customClass schemes with
    | ok base =>
        have found := (chosen noClass order base).mp (by rw [selects, outcome]; rfl)
        obtain ⟨-, http⟩ | ⟨-, ftp⟩ := found
        · exact absurd http notHttp
        · exact absurd ftp notFtp
    | error exc =>
        have failed : selectBase checks order dumper = .error exc := by
          rw [selects, outcome]
          rfl
        exact ⟨exc, by rw [buildDumperClass_of_error failed], baseFor_eq_error nonempty outcome⟩
  · intro order made built
    cases selection : selectBase checks order dumper with
    | error exc =>
        rw [buildDumperClass_of_error selection] at built
        cases built
    | ok selected =>
        rw [Runtime.buildDumperClass, selection] at built
        rw [srcUrls_of_makeDumperClass built, urls_of_selectBase gives selection]

variable (runtime checks names ref workDir dumper state) in
/-- **The base class of a manifest.** When its URLs can be split, it is selected exactly by
their schemes, in whichever order these come; the first URL that cannot be split raises what
splitting it raises. -/
theorem base_of_manifest (urls : List String) (gives : dumper.dataUrl.GivesUrls urls) :
    ((∀ url ∈ urls, Splits checks url) →
      SelectsExactly runtime checks names ref workDir dumper state urls) ∧
    ∀ before url after exc, urls = before ++ url :: after →
      (∀ earlier ∈ before, Splits checks earlier) → urlsplit checks url.toList = .error exc →
        ∀ order, runtime.buildDumperClass checks order names ref workDir dumper state =
          (.error exc, state) := by
  refine ⟨selectsExactly gives, ?_⟩
  rintro before url after exc rfl splits rejected order
  exact buildDumperClass_of_error (selectBase_of_rejected order gives splits rejected)

end Building

section Runs

private def quiet : Runtime where
  tree := ⟨fun _ => false, fun _ => false⟩
  entries _ := []
  body _ := .plugin .done
  limit := 0
  hasAttr _ _ _ := true
  dumperClasses _ _ := []
  manifest _ := .ok {}

private def plainChecks : NetlocChecks where
  bracketed _ := .ok ()
  normalize := id

private def anyRef : PluginRef where
  repo := "r"
  name := "p"
  pluginType := .manifest
  path := ["r", "p"]

private def nothingLoaded : Interp := ⟨[], ∅, []⟩

private def anyOrder : SetOrder := ⟨id, List.Perm.refl⟩

private def asGiven : SchemeOrder := ⟨id, List.Perm.refl⟩

private def fetching (urls : List String) : DumperSection where
  dataUrl := .array urls

/-- URLs with the FTP scheme in either case select the FTP base. -/
theorem base_of_ftp :
    BuildsOn quiet plainChecks anyOrder anyRef [] (fetching ["ftp://e.org/a", "FTP://e.org/b"])
      nothingLoaded asGiven .lastModifiedFTP := by
  have selects := (base_of_manifest quiet plainChecks anyOrder anyRef []
    (fetching ["ftp://e.org/a", "FTP://e.org/b"]) nothingLoaded _ ⟨by decide, rfl⟩).1
  have splits : ∀ url ∈ ["ftp://e.org/a", "FTP://e.org/b"], Splits plainChecks url :=
    List.forall_mem_cons.mpr ⟨⟨_, rfl⟩, List.forall_mem_singleton.mpr ⟨_, rfl⟩⟩
  apply ((selects splits).ftp rfl rfl asGiven).mpr
  exact List.forall_mem_cons.mpr
    ⟨⟨"ftp", by decide, rfl⟩, List.forall_mem_singleton.mpr ⟨"ftp", by decide, rfl⟩⟩

/-- A URL whose host cannot be split raises an error of another kind, whatever its scheme. -/
theorem base_of_bracket :
    (fetching ["http://["]).dataUrl.GivesUrls ["http://["] ∧
      ¬ SelectsExactly quiet plainChecks anyOrder anyRef [] (fetching ["http://["]) nothingLoaded
        ["http://["] := by
  refine ⟨⟨by decide, rfl⟩, ?_⟩
  intro selects
  have raised : (quiet.buildDumperClass plainChecks asGiven anyOrder anyRef []
      (fetching ["http://["]) nothingLoaded).1 = .error invalidAddress := rfl
  have all : AllOf ["http", "https"] ["http://["] :=
    List.forall_mem_singleton.mpr ⟨"http", by decide, rfl⟩
  obtain ⟨made, built, -⟩ := (selects.http rfl rfl asGiven).mpr all
  rw [raised] at built
  cases built

end Runs

end BiothingsPulse
