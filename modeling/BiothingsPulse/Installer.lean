import BiothingsPulse.Plugins.Declarations
import BiothingsPulse.Service.Rebuild

/-!
# Installing what the plugins require

The script that runs when an image is built, so that no check has to install anything. It
syncs and discovers as the service does, collects what plugins and registry declare, and
hands it to the installer in one command.
-/

namespace BiothingsPulse.Installer

open Foundation

structure Options where
  /-- Only list the requirements. -/
  print : Bool := false
  /-- Use the checkouts that are there. -/
  noSync : Bool := false
  /-- Only what the registry declares inline. -/
  configOnly : Bool := false

/-- The machine that the script runs on. -/
structure Host where
  world : World
  stdlib : Stdlib
  files : RequirementFiles
  cacheDir : PyPath
  /-- Whether `uv` is found. -/
  uv : Bool
  /-- `sys.executable`. -/
  executable : String
  /-- `subprocess.call`. -/
  call : List (List Char) → Except PyExc Int

/-- What a run of the script that ends has done. -/
structure Outcome where
  printed : List Requirement
  command : Option (List (List Char))
  exitCode : Int

namespace Host

variable (host : Host)

/-- The paths of the checkouts that are there. -/
def cachedPaths : List RepoSpec → Except PyExc (String → Option PyPath)
  | [] => .ok fun _ => none
  | spec :: rest =>
      let path := joinPath host.cacheDir spec.name
      match host.files.present path with
      | .error exc => .error exc
      | .ok present => (cachedPaths rest).map fun later name =>
          (later name).or (if present ∧ name = spec.name then some path else none)

def paths (options : Options) (repos : List RepoSpec) :
    Except PyExc (String → Option PyPath) :=
  if options.noSync then host.cachedPaths repos
  else PulseService.syncRegistry host.world repos

/-- The plugins of one repository, if it is checked out. -/
def refsIn (paths : String → Option PyPath) (spec : RepoSpec) : Except PyExc (List PluginRef) :=
  match paths spec.name with
  | none => .ok []
  | some path => host.world.discoverPlugins spec.name path spec

def refs (paths : String → Option PyPath) (repos : List RepoSpec) :
    Except PyExc (List PluginRef) :=
  (Loop.collect (host.refsIn paths) repos).map List.flatten

/-- The requirements of plugins and registry. -/
def requirements (options : Options) : Except PyExc (List Requirement) := do
  let registry ← host.world.registry
  let repos := registry.resolvedRepos
  if options.configOnly then
    collectRepoRequirements host.stdlib host.files repos fun _ => none
  else do
    let paths ← host.paths options repos
    let refs ← host.refs paths repos
    installed host.stdlib host.files refs repos paths

/-- Prefer uv; fall back to pip. -/
def installCmd (requirements : List Requirement) : List (List Char) :=
  if host.uv then ["uv", "pip", "install"].map String.toList ++ requirements
  else [host.executable, "-m", "pip", "install"].map String.toList ++ requirements

def main (options : Options) : Except PyExc Outcome := do
  let requirements ← host.requirements options
  if options.print || requirements = [] then
    return { printed := requirements, command := none, exitCode := 0 }
  else do
    let exitCode ← host.call (host.installCmd requirements)
    return {
      printed := requirements
      command := some (host.installCmd requirements)
      exitCode := exitCode }

end Host

section Requirements

private theorem nodup_eraseDups {α : Type} [BEq α] [LawfulBEq α] (elements : List α) :
    elements.eraseDups.Nodup := by
  induction size : elements.length using Nat.strong_induction_on generalizing elements with
  | h length ih =>
      cases elements with
      | nil => exact List.nodup_nil
      | cons first rest =>
          rw [List.eraseDups_cons, List.nodup_cons, List.mem_eraseDups]
          have shorter : (rest.filter fun other => !other == first).length < length :=
            Nat.lt_of_le_of_lt (List.length_filter_le _ _) (size ▸ rest.length.lt_succ_self)
          exact ⟨by simp, ih _ shorter _ rfl⟩

private theorem nodup_sortedSet (reqs : List Requirement) : (sortedSet reqs).Nodup :=
  (List.mergeSort_perm _ _).nodup_iff.mpr (nodup_eraseDups reqs)

variable {host : Host} {options : Options} {outcome : Outcome} {registry : Registry}
  {paths : String → Option PyPath} {repos : List RepoSpec} {refs : List PluginRef}

private theorem nodup_installed {out : List Requirement}
    (returned : installed host.stdlib host.files refs repos paths = .ok out) : out.Nodup := by
  obtain ⟨_, _, rest⟩ := Loop.bind_eq_ok.mp returned
  obtain ⟨_, _, appended⟩ := Loop.bind_eq_ok.mp rest
  exact Except.ok.inj appended ▸ nodup_sortedSet _

/-- What the script has printed is what it has collected, and it has handed over just that. -/
theorem main_eq_ok (ran : host.main options = .ok outcome) :
    host.requirements options = .ok outcome.printed ∧
      outcome.command = if options.print || outcome.printed = [] then none
        else some (host.installCmd outcome.printed) := by
  obtain ⟨requirements, collected, goesOn⟩ := Loop.bind_eq_ok.mp ran
  split at goesOn
  · rename_i listing
    obtain rfl := Except.ok.inj goesOn
    exact ⟨collected, (if_pos listing).symm⟩
  · rename_i installing
    obtain ⟨exitCode, _, returned⟩ := Loop.bind_eq_ok.mp goesOn
    obtain rfl := Except.ok.inj returned
    exact ⟨collected, (if_neg installing).symm⟩

/-- The script discovers what a rebuild of the service does. -/
theorem discover_of_refs (found : host.refs paths repos = .ok refs) :
    refs = repos.flatMap (PulseService.discovered host.world paths) ∧
      ∀ catalog, PulseService.discover host.world paths repos catalog =
        .ok (refs.foldl Catalog.insert catalog) := by
  obtain ⟨lists, collected, rfl⟩ := Loop.map_eq_ok.mp found
  clear found
  induction repos generalizing lists with
  | nil =>
      obtain rfl := Except.ok.inj collected
      exact ⟨rfl, fun _ => rfl⟩
  | cons spec rest ih =>
      obtain ⟨own, others, first, following, rfl⟩ := Loop.collect_cons_eq_ok collected
      obtain ⟨same, discovers⟩ := ih others following
      rw [List.flatten_cons, List.flatMap_cons, ← same]
      unfold Host.refsIn at first
      unfold PulseService.discover PulseService.discovered
      cases located : paths spec.name with
      | none =>
          rw [located] at first
          obtain rfl := Except.ok.inj first
          exact ⟨rfl, discovers⟩
      | some path =>
          rw [located] at first
          dsimp only at first ⊢
          rw [first]
          exact ⟨rfl, fun catalog => List.foldl_append ▸ discovers _⟩

/-- **The installer is given what the catalog needs.** In a world in which the script ends, a
rebuild of the service comes to a catalog; the script prints, each once, just what the plugins
of that catalog and the registry declare, as far as it is taken and is no stdlib module; and it
hands over just what it has printed, unless that is nothing or all that it was asked for. -/
theorem main_prepares {checkouts : Checkouts}
    (discovers : host.world.discovering checkouts = host.world)
    (read : host.world.registry = .ok registry)
    (distinct : (registry.repos.map RepoSpec.name).Nodup) (all : options.configOnly = false)
    (syncs : options.noSync = false) (ran : host.main options = .ok outcome) :
    ∃ catalog localPaths, PulseService.rebuild host.world = .ok catalog ∧
      PulseService.syncRegistry host.world registry.resolvedRepos = .ok localPaths ∧
      (∀ req, req ∈ outcome.printed ↔ isStdlib host.stdlib req = false ∧
        ∃ declaration, Declared host.files catalog.refs registry.resolvedRepos localPaths
          declaration ∧ declaration.taken = some req) ∧
      outcome.printed.Nodup ∧
      outcome.command = if options.print || outcome.printed = [] then none
        else some (host.installCmd outcome.printed) := by
  obtain ⟨collected, command⟩ := main_eq_ok ran
  obtain ⟨own, same, goesOn⟩ := Loop.bind_eq_ok.mp collected
  obtain rfl := Except.ok.inj (same.symm.trans read)
  rw [if_neg (by rw [all]; decide)] at goesOn
  obtain ⟨localPaths, located, discovering⟩ := Loop.bind_eq_ok.mp goesOn
  obtain ⟨refs, found, returned⟩ := Loop.bind_eq_ok.mp discovering
  have synced : PulseService.syncRegistry host.world own.resolvedRepos = .ok localPaths := by
    rw [← located, Host.paths, if_neg (by rw [syncs]; decide)]
  obtain ⟨merged, inserts⟩ := discover_of_refs found
  have rebuilt := inserts .empty
  have completed : PulseService.discover (host.world.discovering checkouts) localPaths
      own.resolvedRepos .empty = .ok (refs.foldl Catalog.insert .empty) := by
    rw [discovers]
    exact rebuilt
  obtain ⟨listed, _⟩ := rebuilt_refs distinct synced completed
  rw [discovers, ← merged] at listed
  refine ⟨refs.foldl Catalog.insert .empty, localPaths, ?_, synced, ?_, ?_, command⟩
  · rw [PulseService.rebuild, read]
    dsimp only
    rw [synced]
    exact rebuilt
  · rw [listed]
    exact fun req => mem_installed returned
  · exact nodup_installed returned

/-- Some entry of the registry declares the requirement inline. -/
def DeclaredInline (registry : Registry) (req : Requirement) : Prop :=
  ∃ spec ∈ registry.resolvedRepos, ∃ entry ∈ spec.requirements,
    inlineRequirement entry.toList = some req

/-- Without checkouts the registry is read for what it declares inline. -/
theorem mem_collectRepoRequirements {out : List Requirement} {req : Requirement}
    (returned : collectRepoRequirements host.stdlib host.files registry.resolvedRepos
      (fun _ => none) = .ok out) :
    req ∈ out ↔ isStdlib host.stdlib req = false ∧ DeclaredInline registry req := by
  obtain ⟨own, collected, sorted⟩ := Loop.bind_eq_ok.mp returned
  obtain rfl := Except.ok.inj sorted
  have inline := (Loop.Gathers.collect fun spec (_ : spec ∈ registry.resolvedRepos) =>
    specRequirements_gathers host.files (fun _ => none) spec).mem own collected req
  rw [mem_sortedSet, dropStdlib, List.mem_filter, inline, Bool.not_eq_true', and_comm]
  refine and_congr_right fun _ => ?_
  constructor
  · rintro ⟨reading, listed, items, same, item, inside, makes⟩
    obtain ⟨spec, member, own⟩ := List.mem_flatMap.mp listed
    obtain rfl := List.mem_singleton.mp own
    obtain rfl := Except.ok.inj same
    obtain ⟨entry, declared, rfl⟩ := List.mem_map.mp inside
    exact ⟨spec, member, entry, declared, makes⟩
  · rintro ⟨spec, member, entry, declared, makes⟩
    exact ⟨_, List.mem_flatMap.mpr ⟨spec, member, List.mem_singleton_self _⟩, _, rfl,
      ⟨.inline, entry.toList⟩, List.mem_map.mpr ⟨entry, declared, rfl⟩, makes⟩

/-- What a repository declares inline is declared, checked out or not. -/
theorem DeclaredInline.declared {req : Requirement} (inline : DeclaredInline registry req) :
    ∃ declaration, Declared host.files refs registry.resolvedRepos paths declaration ∧
      declaration.taken = some req := by
  obtain ⟨spec, member, entry, declared, makes⟩ := inline
  have own : .ok (spec.requirements.map fun entry => Declaration.mk .inline entry.toList) ∈
      readings host.files refs registry.resolvedRepos paths :=
    List.mem_append_right _ (List.mem_flatMap.mpr ⟨spec, member, List.mem_cons_self⟩)
  exact ⟨⟨.inline, entry.toList⟩,
    ⟨_, own, _, rfl, List.mem_map.mpr ⟨entry, declared, rfl⟩⟩, makes⟩

/-- **What the registry declares inline is never left out.** Whatever the script is asked for
and whatever is checked out, if it ends it has printed each once what the registry declares
inline, but for stdlib modules; and that is all when it is asked for no more. -/
theorem main_inline (read : host.world.registry = .ok registry)
    (ran : host.main options = .ok outcome) :
    outcome.printed.Nodup ∧
      (∀ req, isStdlib host.stdlib req = false → DeclaredInline registry req →
        req ∈ outcome.printed) ∧
      (options.configOnly = true → ∀ req ∈ outcome.printed,
        isStdlib host.stdlib req = false ∧ DeclaredInline registry req) := by
  obtain ⟨collected, _⟩ := main_eq_ok ran
  obtain ⟨own, same, goesOn⟩ := Loop.bind_eq_ok.mp collected
  obtain rfl := Except.ok.inj (same.symm.trans read)
  cases mode : options.configOnly with
  | true =>
      rw [if_pos mode] at goesOn
      have inline : ∀ req, req ∈ outcome.printed ↔ _ :=
        fun _ => mem_collectRepoRequirements goesOn
      obtain ⟨_, _, sorted⟩ := Loop.bind_eq_ok.mp goesOn
      exact ⟨Except.ok.inj sorted ▸ nodup_sortedSet _,
        fun req other declared => (inline req).mpr ⟨other, declared⟩,
        fun _ req listed => (inline req).mp listed⟩
  | false =>
      rw [if_neg (by rw [mode]; decide)] at goesOn
      obtain ⟨localPaths, _, discovering⟩ := Loop.bind_eq_ok.mp goesOn
      obtain ⟨refs, _, returned⟩ := Loop.bind_eq_ok.mp discovering
      refine ⟨nodup_installed returned, fun req other declared => ?_, fun only => ?_⟩
      · exact (mem_installed returned).mpr ⟨other, declared.declared⟩
      · cases only

end Requirements

section Image

private def imageSpec : RepoSpec := { registeredSpec "hub" with requirements := ["lxml"] }

private def imageHost : Host where
  world := { hubWorld.discovering hubCheckouts with
    registry := .ok { repos := [registeredSpec "gone", imageSpec] } }
  stdlib := ⟨["json"], List.forall_mem_singleton.mpr fun c inside =>
    .inl (List.all_eq_true.mp (show "json".toList.all Char.isAlphanum = true from rfl) c inside)⟩
  files := {
    manifest := fun _ => .ok (.object [("requires", .array ["lxml", "json"])])
    present := fun _ => .ok false
    readText := fun _ => .ok none }
  cacheDir := ["cache"]
  uv := true
  executable := "python"
  call _ := .ok 0

/-- A requirement of a manifest and of the registry is installed once, and one that is a stdlib
module is not. -/
theorem main_prepares_image : ∃ outcome catalog localPaths,
    imageHost.main {} = .ok outcome ∧ outcome.printed = ["lxml".toList] ∧
      PulseService.rebuild imageHost.world = .ok catalog ∧
      PulseService.syncRegistry imageHost.world
        (Registry.resolvedRepos { repos := [registeredSpec "gone", imageSpec] }) = .ok localPaths ∧
      (∀ req, req ∈ outcome.printed ↔ isStdlib imageHost.stdlib req = false ∧
        ∃ declaration, Declared imageHost.files catalog.refs
          (Registry.resolvedRepos { repos := [registeredSpec "gone", imageSpec] }) localPaths
          declaration ∧ declaration.taken = some req) ∧
      outcome.command = some (imageHost.installCmd outcome.printed) := by
  have installs : (imageHost.main {}).toOption.map Outcome.printed = some ["lxml".toList] := by
    decide +kernel
  cases ran : imageHost.main {} with
  | error exc =>
      rw [ran] at installs
      cases installs
  | ok outcome =>
      rw [ran] at installs
      have printed : outcome.printed = ["lxml".toList] := Option.some.inj installs
      obtain ⟨catalog, localPaths, rebuilt, synced, declared, _, command⟩ := main_prepares
        (show imageHost.world.discovering hubCheckouts = imageHost.world from rfl) rfl (by decide)
        rfl rfl ran
      refine ⟨outcome, catalog, localPaths, rfl, printed, rebuilt, synced, declared, ?_⟩
      rw [command, printed]
      rfl

/-- The registry's own requirements are printed, without the stdlib module. -/
theorem main_inline_image : ∃ outcome, imageHost.main { configOnly := true, print := true } =
      .ok outcome ∧ outcome.printed = ["lxml".toList] ∧ outcome.printed.Nodup ∧
    (∀ req, isStdlib imageHost.stdlib req = false →
      DeclaredInline { repos := [registeredSpec "gone", imageSpec] } req → req ∈ outcome.printed) ∧
    ∀ req ∈ outcome.printed, isStdlib imageHost.stdlib req = false ∧
      DeclaredInline { repos := [registeredSpec "gone", imageSpec] } req := by
  have prints : (imageHost.main { configOnly := true, print := true }).toOption.map
      Outcome.printed = some ["lxml".toList] := by decide +kernel
  cases ran : imageHost.main { configOnly := true, print := true } with
  | error exc =>
      rw [ran] at prints
      cases prints
  | ok outcome =>
      rw [ran] at prints
      obtain ⟨once, kept, only⟩ := main_inline rfl ran
      exact ⟨outcome, rfl, Option.some.inj prints, once, kept, only rfl⟩

end Image

end BiothingsPulse.Installer
