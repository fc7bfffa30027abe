import BiothingsPulse.Checker.Purge
import BiothingsPulse.Foundation.Transition

/-!
# Loads and the loads before them

Between loads the interpreter has nothing on `sys.path` and in `sys.modules` but the
base environment (`Settled`), as long as purges are orderly. A load in such an
interpreter resolves its imports as in a fresh one, whatever was loaded before.
-/

namespace BiothingsPulse

open Foundation Agreement Interp Transition

section Roots

variable (tree : FileTree)

/-- The import roots of a plugin. -/
def importRoots (ref : PluginRef) : List PyPath :=
  match ref.pluginType with
  | .manifest => ref.extraSysPath ++ ref.path :: repoSysPathEntries tree ref.repoPath
  | .advanced =>
      match packageRootAndModule tree ref.path with
      | some (sysPathEntry, _) => advancedEntries sysPathEntry ref
      | none => []
  | _ => []

/-- The entries for a release function are import roots of the plugin. -/
theorem releaseEntries_subset {ref : PluginRef} (manifest : ref.pluginType = .manifest)
    (module : DottedName) : releaseEntries tree ref module ⊆ importRoots tree ref := by
  intro entry member
  simp only [importRoots, manifest]
  simp only [releaseEntries, List.mem_append] at member
  rw [List.mem_append, List.mem_cons]
  rcases member with extra | own
  · exact .inl extra
  · split at own
    · exact .inr (.inl (List.mem_singleton.mp own))
    · exact .inr (.inr own)

/-- A discovered plugin, with its import roots inside the checkout of its repository. -/
structure Checkout where
  ref : PluginRef
  root : PyPath
  checkout : ref.repoPath = some root
  source : root <+: ref.path
  inside : ∀ entry ∈ importRoots tree ref, root <+: entry

end Roots

namespace Runtime

variable (runtime : Runtime)

/-- Where the purge after an attempt starts: the modules known before it, and the
interpreter. -/
def closing {α : Type} (entries : List PyPath) (attempt : Interp → Except PyExc α × Interp)
    (state : Interp) : List DottedName × Interp :=
  let (added, opened) := insertPath entries state
  (state.modules.keys, (attempt opened).2.removePath added)

/-- Where the purge of a manifest plugin's load starts, if the load comes to it. -/
def releaseAtPurge (ref : PluginRef) (manifest : Manifest) (state : Interp) :
    Option (List DottedName × Interp) :=
  match manifest.checks, runtime.importCustomClass manifest state, manifest.release with
  | .ok _, (.ok _, state), some (.ok (module, funcname)) =>
      some (closing (releaseEntries runtime.tree ref module)
        (runtime.releaseAttempt ref module funcname) state)
  | _, _, _ => none

/-- Where the purge of a load starts, if the load comes to it. -/
def atPurge (ref : PluginRef) (state : Interp) : Option (List DottedName × Interp) :=
  match ref.pluginType with
  | .manifest =>
      (ref.manifestPath.bind fun path => (runtime.manifest path).toOption).bind fun manifest =>
        runtime.releaseAtPurge ref manifest state
  | .advanced =>
      match packageRootAndModule runtime.tree ref.path with
      | some (sysPathEntry, some dotted) =>
          some (closing (advancedEntries sysPathEntry ref)
            (runtime.advancedAttempt ref.path dotted) state)
      | _ => none
  | _ => none

section Cases

variable (order : SetOrder) (ref : PluginRef) (state : Interp)

/-- A load ends without a purge, having imported at most the module of a custom class. -/
def EndsEarly : Prop :=
  runtime.atPurge ref state = none ∧ ∃ manifest,
    (runtime.loadDumper order ref state).2 = (runtime.importCustomClass manifest state).2

/-- A load of a manifest plugin comes to the attempt to import its release function. -/
def Releases : Prop :=
  ref.pluginType = .manifest ∧ ∃ manifest module funcname,
    runtime.atPurge ref state = some (closing (releaseEntries runtime.tree ref module)
      (runtime.releaseAttempt ref module funcname) (runtime.importCustomClass manifest state).2) ∧
    (runtime.loadDumper order ref state).2 = (runtime.withEntries order ref.repoPath
      (releaseEntries runtime.tree ref module) (runtime.releaseAttempt ref module funcname)
      (runtime.importCustomClass manifest state).2).2

/-- A load of an advanced plugin comes to the attempt to import it. -/
def Advances : Prop :=
  ref.pluginType = .advanced ∧ ∃ entry dotted,
    packageRootAndModule runtime.tree ref.path = some (entry, some dotted) ∧
    runtime.atPurge ref state = some (closing (advancedEntries entry ref)
      (runtime.advancedAttempt ref.path dotted) state) ∧
    (runtime.loadDumper order ref state).2 = (runtime.withEntries order ref.repoPath
      (advancedEntries entry ref) (runtime.advancedAttempt ref.path dotted) state).2

variable {order ref state}

private theorem buildManifestDumper_cases (manifest : Manifest) (kind : ref.pluginType = .manifest)
    (comes : runtime.atPurge ref state = runtime.releaseAtPurge ref manifest state)
    (ended : runtime.loadDumper order ref state =
      runtime.buildManifestDumper order ref manifest state) :
    runtime.EndsEarly order ref state ∨ runtime.Releases order ref state := by
  cases checks : manifest.checks with
  | error exc =>
      refine .inl ⟨?_, {}, ?_⟩
      · simp only [comes, releaseAtPurge, checks]
      · simp only [ended, buildManifestDumper, checks]
        rfl
  | ok checked =>
      rcases custom : runtime.importCustomClass manifest state with ⟨exc | done, middle⟩
      · refine .inl ⟨?_, manifest, ?_⟩
        · simp only [comes, releaseAtPurge, checks, custom]
        · simp only [ended, buildManifestDumper, checks, custom]
      · rcases release : manifest.release with _ | exc | ⟨module, funcname⟩
        · refine .inl ⟨?_, manifest, ?_⟩
          · simp only [comes, releaseAtPurge, checks, custom, release]
          · simp only [ended, buildManifestDumper, checks, custom, release]
        · refine .inl ⟨?_, manifest, ?_⟩
          · simp only [comes, releaseAtPurge, checks, custom, release]
          · simp only [ended, buildManifestDumper, checks, custom, release]
        · refine .inr ⟨kind, manifest, module, funcname, ?_, ?_⟩
          · simp only [comes, releaseAtPurge, checks, custom, release]
          · simp only [ended, buildManifestDumper, checks, custom, release, importReleaseFunc]

variable (order ref state) in
/-- How a load goes. -/
theorem loadDumper_cases :
    runtime.EndsEarly order ref state ∨ runtime.Releases order ref state ∨
      runtime.Advances order ref state := by
  cases kind : ref.pluginType with
  | manifest =>
      cases described : ref.manifestPath with
      | none =>
          refine .inl ⟨?_, {}, ?_⟩
          · simp only [atPurge, kind, described, Option.bind_none]
          · simp only [loadDumper, kind, described]
            rfl
      | some path =>
          cases parsed : runtime.manifest path with
          | error exc =>
              refine .inl ⟨?_, {}, ?_⟩
              · simp only [atPurge, kind, described, Option.bind_some, parsed, Except.toOption,
                  Option.bind_none]
              · simp only [loadDumper, kind, described, parsed]
                rfl
          | ok manifest =>
              rw [← or_assoc]
              refine .inl (runtime.buildManifestDumper_cases manifest kind ?_ ?_)
              · simp only [atPurge, kind, described, Option.bind_some, parsed, Except.toOption]
              · simp only [loadDumper, kind, described, parsed]
  | advanced =>
      rcases located : packageRootAndModule runtime.tree ref.path with _ | ⟨entry, _ | dotted⟩
      · refine .inl ⟨?_, {}, ?_⟩
        · simp only [atPurge, kind, located]
        · simp only [loadDumper, kind, loadAdvancedDumper, located]
          rfl
      · refine .inl ⟨?_, {}, ?_⟩
        · simp only [atPurge, kind, located]
        · simp only [loadDumper, kind, loadAdvancedDumper, located]
          rfl
      · refine .inr (.inr ⟨kind, entry, dotted, located, ?_, ?_⟩)
        · simp only [atPurge, kind, located]
        · simp only [loadDumper, kind, loadAdvancedDumper, located]
  | unknown =>
      refine .inl ⟨?_, {}, ?_⟩
      · simp only [atPurge, kind]
      · simp only [loadDumper, kind]
        rfl
  | other text =>
      refine .inl ⟨?_, {}, ?_⟩
      · simp only [atPurge, kind]
      · simp only [loadDumper, kind]
        rfl

end Cases

private theorem trace_withEntries {α : Type} (order : SetOrder) (repoPath : Option PyPath)
    (entries : List PyPath) (attempt : Interp → Except PyExc α × Interp) (state : Interp) :
    (runtime.withEntries order repoPath entries attempt state).2.trace =
      (attempt (insertPath entries state).2).2.trace := by
  have kept (names : List DottedName) (root : PyPath) (state : Interp) :
      (Loop.forEach (purgeOne runtime.tree root) names state).2.trace = state.trace := by
    apply Loop.forEach_frame
    intro name _ state
    unfold purgeOne
    split
    · rfl
    · split
      · rfl
      · split <;> rfl
  have purged : (purgeNewRepoModules runtime.tree order state.modules.keys repoPath
      (removePath (insertPath entries state).1 (attempt (insertPath entries state).2).2)).2.trace =
        (attempt (insertPath entries state).2).2.trace := by
    cases repoPath with
    | none => rfl
    | some root => exact kept _ root _
  rw [← purged]
  simp only [withEntries]
  split <;> rename_i purging <;> rw [purging]

end Runtime

namespace Deployment

variable (deployment : Deployment)

/-- An interpreter as it is between loads. -/
structure Settled (state : Interp) : Prop where
  path : state.path = deployment.basePath
  environment : ∀ name origin, state.modules.lookup name = some origin →
    deployment.environment name = .ok origin
  parents : ∀ name parent, state.nestedIn name = some parent →
    ∃ above, state.modules.lookup parent = some above

/-- A plugin under whose import roots nothing has a name that the base environment
provides. -/
structure Discovered extends Checkout deployment.tree where
  own : ∀ entry ∈ importRoots deployment.tree ref, ∀ name : Component,
    deployment.tree.find entry name ≠ .absent → deployment.Foreign name

variable {deployment}

private theorem provided_of_environment {name : DottedName} {origin : Origin}
    (ok : deployment.environment name = .ok origin) : ¬deployment.Foreign name.head := by
  induction name generalizing origin with
  | top name =>
      have found := environment_top_ok ok
      simp [Foreign, DottedName.head, found]
  | sub parent name ih =>
      obtain ⟨above, -, okAbove, -, -⟩ := environment_sub_ok ok
      exact ih okAbove

namespace Settled

variable {state other : Interp} {name : DottedName}

private theorem missing (settled : deployment.Settled state)
    (foreign : deployment.Foreign name.head) : state.modules.lookup name = none := by
  cases cached : state.modules.lookup name with
  | none => rfl
  | some origin =>
      exact absurd foreign (provided_of_environment (settled.environment name origin cached))

private theorem sound (settled : deployment.Settled state) (root : PyPath) :
    deployment.Sound root state where
  located :=
    { path := by
        intro name foreign dir listed
        rw [settled.path] at listed
        exact FileTree.provides_of_absent (foreign.absent listed)
      modules := by
        intro name origin foreign cached
        rw [settled.missing foreign] at cached
        cases cached }
  path := fun name _ => by rw [settled.path]
  environment := fun name origin _ => settled.environment name origin
  parents := fun name parent _ => settled.parents name parent

/-- Between loads, interpreters differ in modules of the environment alone. -/
theorem alike (settled : deployment.Settled state) (settled' : deployment.Settled other)
    (trace : state.trace = other.trace) (root : PyPath) :
    deployment.Alike root deployment.basePath state other where
  soundLeft := settled.sound root
  soundRight := settled'.sound root
  pathLeft := settled.path
  pathRight := settled'.path
  trace := trace
  foreign := fun _ foreign => (settled.missing foreign).trans (settled'.missing foreign).symm

private theorem of_sound {root : PyPath} (sound : deployment.Sound root state)
    (path : state.path = deployment.basePath)
    (missing : ∀ name, deployment.Foreign name.head → state.modules.lookup name = none) :
    deployment.Settled state where
  path := path
  environment := by
    intro name origin cached
    apply sound.environment name origin _ cached
    intro foreign
    rw [missing name foreign] at cached
    cases cached
  parents := by
    intro name parent nested
    apply sound.parents name parent _ nested
    intro foreign
    obtain ⟨last, stored, rfl, cached⟩ := nestedIn_eq_some.mp nested
    rw [missing (.sub parent last) foreign] at cached
    cases cached

private theorem note (settled : deployment.Settled state) (name : DottedName)
    (result : Except PyExc Origin) : deployment.Settled (state.note name result) :=
  ⟨settled.path, settled.environment, settled.parents⟩

private theorem importName_foreign {exec : PyPath → Interp → Except PyExc Unit × Interp}
    (settled : deployment.Settled state) (foreign : deployment.Foreign name.head) :
    ∃ exc, importName deployment.tree exec name state = (.error exc, state) := by
  induction name with
  | top name =>
      have missing : state.modules.lookup (.top name) = none := settled.missing foreign
      have absent : deployment.tree.search deployment.basePath name = none := foreign
      simp [importName, missing, loadFrom, settled.path, absent]
  | sub parent name ih =>
      have missing : state.modules.lookup (.sub parent name) = none := settled.missing foreign
      obtain ⟨exc, ran⟩ := ih foreign
      simp [importName, missing, ran]

/-- With nothing but the base environment on the path, an import settles again. -/
theorem importModule (settled : deployment.Settled state) (name : DottedName) :
    deployment.Settled (deployment.importModule name state).2 := by
  unfold Runtime.importModule
  apply note
  by_cases foreign : deployment.Foreign name.head
  · obtain ⟨exc, ran⟩ :
        ∃ exc, importName deployment.tree deployment.exec name state = (.error exc, state) :=
      settled.importName_foreign foreign
    rw [ran]
    exact settled
  · obtain ⟨after, ran, grown⟩ :=
      (settled.sound []).importName_provided (Alike.atomic_exec) foreign
    rw [ran]
    apply of_sound grown.sound (grown.path.trans settled.path)
    intro other chosen
    rw [grown.foreign other chosen, settled.missing chosen]

private theorem importCustomClass (settled : deployment.Settled state) (manifest : Manifest) :
    deployment.Settled (deployment.importCustomClass manifest state).2 := by
  unfold Runtime.importCustomClass
  cases manifest.customClass with
  | none => exact settled
  | some module => exact settled.importModule module

end Settled

namespace Discovered

variable (plugin : Discovered deployment) {state other : Interp} {entries : List PyPath}

/-- `sys.path` while the entries are on it. -/
def openedPath (deployment : Deployment) (entries : List PyPath) : List PyPath :=
  (newEntries deployment.basePath entries).reverse ++ deployment.basePath

private theorem path_opened (settled : deployment.Settled state) :
    (insertPath entries state).2.path = openedPath deployment entries := by
  rw [insertPath_eq, settled.path]
  rfl

private theorem sound_opened (settled : deployment.Settled state)
    (listed : entries ⊆ importRoots deployment.tree plugin.ref) :
    deployment.Sound plugin.root (insertPath entries state).2 := by
  have sound := settled.sound plugin.root
  have root {dir : PyPath} (member : dir ∈ (newEntries deployment.basePath entries).reverse) :
      dir ∈ importRoots deployment.tree plugin.ref :=
    listed (newEntries_subset (List.mem_reverse.mp member))
  rw [insertPath_eq, settled.path]
  refine ⟨⟨?_, sound.located.modules⟩, ?_, sound.environment, sound.parents⟩
  · intro name foreign dir member
    rcases List.mem_append.mp member with added | base
    · exact FileTree.provides_of_inside ⟨plugin.root, by simp, plugin.inside dir (root added)⟩
    · exact FileTree.provides_of_absent (foreign.absent base)
  · intro name provided
    apply FileTree.search_append_of_absent
    intro dir added
    by_contra present
    exact provided (plugin.own dir (root added) name present)

private theorem alike_opened (settled : deployment.Settled state)
    (settled' : deployment.Settled other) (trace : state.trace = other.trace)
    (listed : entries ⊆ importRoots deployment.tree plugin.ref) :
    deployment.Alike plugin.root (openedPath deployment entries) (insertPath entries state).2
      (insertPath entries other).2 where
  soundLeft := plugin.sound_opened settled listed
  soundRight := plugin.sound_opened settled' listed
  pathLeft := path_opened settled
  pathRight := path_opened settled'
  trace := by
    rw [insertPath_eq, insertPath_eq]
    exact trace
  foreign := by
    intro name foreign
    rw [insertPath_eq, insertPath_eq]
    exact (settled.missing foreign).trans (settled'.missing foreign).symm

variable {α : Type} {attempt : Interp → Except PyExc α × Interp} (order : SetOrder)

/-- An attempt traces the same imports in any two interpreters between loads. -/
theorem sameTrace_withEntries (settled : deployment.Settled state)
    (settled' : deployment.Settled other) (trace : state.trace = other.trace)
    (listed : entries ⊆ importRoots deployment.tree plugin.ref)
    (respects : Respects (deployment.Alike plugin.root (openedPath deployment entries)) attempt)
    (order' : SetOrder) :
    (deployment.withEntries order plugin.ref.repoPath entries attempt state).2.trace =
      (deployment.withEntries order' plugin.ref.repoPath entries attempt other).2.trace := by
  rw [Runtime.trace_withEntries, Runtime.trace_withEntries]
  exact (respects _ _ (plugin.alike_opened settled settled' trace listed)).2.trace

/-- An attempt whose purge is orderly settles again. -/
theorem settled_withEntries (settled : deployment.Settled state)
    (listed : entries ⊆ importRoots deployment.tree plugin.ref)
    (respects : Respects (deployment.Alike plugin.root (openedPath deployment entries)) attempt)
    (orderly : (Runtime.closing entries attempt state).2.Orderly plugin.root
      (order.order (newNames (Runtime.closing entries attempt state).1
        (Runtime.closing entries attempt state).2))) :
    deployment.Settled
      (deployment.withEntries order plugin.ref.repoPath entries attempt state).2 := by
  have alike := (respects _ _ (plugin.alike_opened settled settled rfl listed)).2
  have closedPath : (Runtime.closing entries attempt state).2.path = deployment.basePath := by
    simp only [Runtime.closing, removePath, alike.pathLeft]
    rw [insertPath_eq, settled.path]
    exact newEntries_erased deployment.basePath entries
  have closedSound : deployment.Sound plugin.root (Runtime.closing entries attempt state).2 := by
    refine ⟨⟨?_, alike.soundLeft.located.modules⟩, ?_, alike.soundLeft.environment,
      alike.soundLeft.parents⟩
    · rw [closedPath]
      intro name foreign dir member
      exact FileTree.provides_of_absent (foreign.absent member)
    · rw [closedPath]
      exact fun _ _ => rfl
  have purging : deployment.Purging plugin.root
      (order.order (newNames (Runtime.closing entries attempt state).1
        (Runtime.closing entries attempt state).2)) (Runtime.closing entries attempt state).2 := by
    refine ⟨closedSound, ?_, orderly⟩
    intro name origin foreign cached
    rw [(order.perm _).mem_iff, newNames, List.mem_filter]
    constructor
    · exact mem_keys.mpr ⟨origin, cached⟩
    · simp only [decide_eq_true_eq]
      intro known
      obtain ⟨origin', cached'⟩ := mem_keys.mp known
      rw [settled.missing foreign] at cached'
      cases cached'
  obtain ⟨after, purged, path, sound, missing⟩ := purging.clears
  have ended : (deployment.withEntries order plugin.ref.repoPath entries attempt state).2 =
      after := by
    simp only [Runtime.withEntries, purgeNewRepoModules, plugin.checkout]
    simp only [Runtime.closing] at purged
    rw [purged]
  rw [ended]
  exact Settled.of_sound sound (path.trans closedPath) missing

private theorem sameTrace_buildManifestDumper (manifest : plugin.ref.pluginType = .manifest)
    (parsed : Manifest) (settled : deployment.Settled state)
    (settled' : deployment.Settled other) (trace : state.trace = other.trace) (order' : SetOrder) :
    (deployment.buildManifestDumper order plugin.ref parsed state).2.trace =
      (deployment.buildManifestDumper order' plugin.ref parsed other).2.trace := by
  unfold Runtime.buildManifestDumper
  cases parsed.checks with
  | error exc => exact trace
  | ok checked =>
      have after := settled.importCustomClass parsed
      have after' := settled'.importCustomClass parsed
      obtain ⟨result, left, right, ranLeft, ranRight, alike⟩ :=
        (Alike.importCustomClass parsed).runs (settled.alike settled' trace plugin.root)
      rw [ranLeft] at after
      rw [ranRight] at after'
      simp only [ranLeft, ranRight]
      cases result with
      | error exc => exact alike.trace
      | ok imported =>
          rcases parsed.release with _ | exc | ⟨module, funcname⟩
          · exact alike.trace
          · exact alike.trace
          · exact plugin.sameTrace_withEntries order after after' alike.trace
              (releaseEntries_subset _ manifest module)
              (Alike.releaseAttempt plugin.ref module funcname) order'

/-- A load traces the same imports in any two interpreters between loads. -/
theorem sameTrace_loadDumper (settled : deployment.Settled state)
    (settled' : deployment.Settled other) (trace : state.trace = other.trace) (order' : SetOrder) :
    (deployment.loadDumper order plugin.ref state).2.trace =
      (deployment.loadDumper order' plugin.ref other).2.trace := by
  unfold Runtime.loadDumper
  cases kind : plugin.ref.pluginType with
  | manifest =>
      cases plugin.ref.manifestPath with
      | none => exact trace
      | some path =>
          cases parsing : deployment.manifest path with
          | error exc => simpa [parsing] using trace
          | ok parsed =>
              simp only [parsing]
              exact plugin.sameTrace_buildManifestDumper order kind parsed settled settled' trace
                order'
  | advanced =>
      simp only [Runtime.loadAdvancedDumper]
      rcases located : packageRootAndModule deployment.tree plugin.ref.path with
        _ | ⟨entry, _ | dotted⟩
      · exact trace
      · exact trace
      · apply plugin.sameTrace_withEntries order settled settled' trace
        · simp [importRoots, kind, located]
        · exact Alike.advancedAttempt plugin.source dotted
  | unknown => exact trace
  | other text => exact trace

/-- A load whose purge is orderly settles again. -/
theorem settled_loadDumper (settled : deployment.Settled state)
    (orderly : ∀ purge ∈ deployment.atPurge plugin.ref state,
      purge.2.Orderly plugin.root (order.order (newNames purge.1 purge.2))) :
    deployment.Settled (deployment.loadDumper order plugin.ref state).2 := by
  obtain ⟨-, manifest, ended⟩ | ⟨kind, manifest, module, funcname, comes, ended⟩ |
      ⟨kind, entry, dotted, located, comes, ended⟩ :=
    deployment.loadDumper_cases order plugin.ref state
  · rw [ended]
    exact settled.importCustomClass manifest
  · rw [ended]
    exact plugin.settled_withEntries order (settled.importCustomClass manifest)
      (releaseEntries_subset _ kind module) (Alike.releaseAttempt plugin.ref module funcname)
      (orderly _ comes)
  · rw [ended]
    apply plugin.settled_withEntries order settled
    · simp [importRoots, kind, located]
    · exact Alike.advancedAttempt plugin.source dotted
    · exact orderly _ comes

end Discovered

variable (deployment) in
/-- A call of `load_dumper`, with the order in which its purge goes through the names. -/
structure Load where
  plugin : deployment.Discovered
  order : SetOrder

variable (deployment) in
/-- The imports that a load performs, with what they resolve to. -/
def imports (order : SetOrder) (plugin : deployment.Discovered) (state : Interp) : Trace :=
  (deployment.loadDumper order plugin.ref { state with trace := [] }).2.trace

namespace Load

def next (before : Interp) (load : deployment.Load) : Option Interp :=
  some (deployment.loadDumper load.order load.plugin.ref { before with trace := [] }).2

/-- If the load comes to its purge, the purge is orderly. -/
def Orderly (state : Interp) (load : deployment.Load) : Prop :=
  ∀ purge ∈ deployment.atPurge load.plugin.ref { state with trace := [] },
    purge.2.Orderly load.plugin.root (load.order.order (newNames purge.1 purge.2))

instance (state : Interp) (load : deployment.Load) : Decidable (load.Orderly state) :=
  inferInstanceAs (Decidable (∀ purge ∈ deployment.atPurge _ _, _))

end Load

namespace Settled

private theorem begin {state : Interp} (settled : deployment.Settled state) :
    deployment.Settled { state with trace := [] } :=
  ⟨settled.path, settled.environment, settled.parents⟩

end Settled

/-- After loads whose purges are orderly, the interpreter is as it is between loads. -/
theorem settled_of_loads {fresh state : Interp} (initial : deployment.Settled fresh)
    {loads : List deployment.Load}
    (run : Run (Guarded Load.Orderly (ofFun Load.next)) fresh loads state) :
    deployment.Settled state := by
  apply run.invariant deployment.Settled initial
  rintro before load after settled ⟨orderly, stepped⟩
  cases stepped
  exact load.plugin.settled_loadDumper load.order settled.begin orderly

end Deployment

/-! Two repositories with a release module of the same name; in the first one it is in a
namespace package inside of a package. The checkouts are below a directory of the base path,
under a name that no import can write. -/

namespace Namespaced

def files : List PyPath :=
  [["app", "requests", "__init__.py"],
    ["app", ".cache", "a", "hub", "__init__.py"],
    ["app", ".cache", "a", "hub", "dataload", "common.py"],
    ["app", ".cache", "a", "plugins", "one", "manifest.json"],
    ["app", ".cache", "b", "hub", "__init__.py"],
    ["app", ".cache", "b", "hub", "dataload", "__init__.py"],
    ["app", ".cache", "b", "hub", "dataload", "common.py"],
    ["app", ".cache", "b", "plugins", "two", "manifest.json"]]

def tree : FileTree where
  isFile path := path ∈ files
  isDir path := files.any fun file => path.isPrefixOf file && path ≠ file

def requests : Component := ⟨"requests", by decide⟩

def common : DottedName := .named "hub.dataload.common".toList

def runtime : Runtime where
  tree := tree
  entries _ := []
  body file :=
    if ["app", "requests"].isPrefixOf file then .environment (.ok ())
    else .plugin (.imp (.top requests) fun _ => .done)
  limit := 1000
  hasAttr _ _ _ := true
  dumperClasses _ _ := []
  manifest _ := .ok { release := some (.ok (common, "get_release")) }

/-- The environment has one module. -/
theorem find_app {name : Component} (differs : name.val ≠ "requests") :
    tree.find ["app"] name = .absent := by
  have visible : name.val ≠ ".cache" := by
    intro same
    have free := name.property
    rw [same] at free
    exact free (by decide)
  simp [FileTree.find, tree, files, differs, visible, List.isPrefixOf]

private theorem search_app {name : Component} (differs : name.val ≠ "requests") :
    tree.search [["app"]] name = none := by
  rw [FileTree.search_eq_none_iff, List.forall_mem_singleton]
  exact find_app differs

/-- It lies apart from the checkouts. -/
theorem provides_app (name : Component) :
    tree.Provides [["app", "requests"]] ["app"] name := by
  by_cases same : name.val = "requests"
  · have found : tree.find ["app"] name = .loadable
        ⟨some ["app", "requests", "__init__.py"], some [["app", "requests"]]⟩ := by
      rw [same]
      rfl
    constructor
    · intro origin has
      obtain rfl := Finding.loadable.inj (found.symm.trans has)
      refine ⟨by decide, fun place member => ⟨_, List.mem_singleton_self _, ?_⟩⟩
      revert place
      decide
    · intro place has
      cases found.symm.trans has
  · exact FileTree.provides_of_absent (find_app same)

def deployment : Deployment where
  toRuntime := runtime
  basePath := [["app"]]
  basePlaces := [["app", "requests"]]
  provides := List.forall_mem_singleton.mpr provides_app
  atomic := by
    intro name origin file resolved has
    have within : origin.Within [["app", "requests"]] :=
      FileTree.resolve_within (List.forall_mem_singleton.mpr provides_app) resolved
    obtain ⟨dir, listed, inside⟩ := within.inside file (by simp [Origin.places, has])
    rw [List.mem_singleton] at listed
    subst listed
    exact ⟨.ok (), by simp [runtime, inside]⟩
  reserved := by
    intro name taken
    apply search_app
    intro same
    rw [same] at taken
    revert taken
    decide

def ref (root name : String) : PluginRef where
  repo := root
  name := name
  pluginType := .manifest
  path := ["app", ".cache", root, "plugins", name]
  manifestPath := some ["app", ".cache", root, "plugins", name, "manifest.json"]
  repoPath := some ["app", ".cache", root]

def plugin (root name : String)
    (known : (root, name) = ("a", "one") ∨ (root, name) = ("b", "two")) :
    deployment.Discovered where
  ref := ref root name
  root := ["app", ".cache", root]
  checkout := rfl
  source := List.prefix_append ["app", ".cache", root] _
  inside := by
    rcases known with ⟨⟨⟩⟩ | ⟨⟨⟩⟩ <;> decide
  own := by
    intro entry listed name' present
    apply search_app
    intro same
    rw [same] at present
    apply present
    revert entry
    rcases known with ⟨⟨⟩⟩ | ⟨⟨⟩⟩ <;> decide

def first : deployment.Discovered := plugin "a" "one" (.inl rfl)
def second : deployment.Discovered := plugin "b" "two" (.inr rfl)

def inOrder : SetOrder := ⟨id, fun _ => .refl _⟩
def backwards : SetOrder := ⟨List.reverse, fun names => names.reverse_perm⟩

def fresh : Interp := ⟨[["app"]], ∅, []⟩

/-- A fresh interpreter is as it is between loads. -/
theorem settled_fresh : deployment.Settled fresh where
  path := rfl
  environment := by rintro name origin ⟨⟩
  parents := by
    intro name parent nested
    obtain ⟨last, stored, -, cached⟩ := nestedIn_eq_some.mp nested
    cases cached

/-- The interpreter after the first plugin has been loaded. -/
def afterFirst (order : SetOrder) : Interp :=
  (deployment.loadDumper order first.ref { fresh with trace := [] }).2

end Namespaced

end BiothingsPulse
