import BiothingsPulse.Plugins.Discovery
import BiothingsPulse.Service.Operations
import Mathlib.Data.Set.Card

/-!
# The rebuilt catalog

A rebuild merges the plugins of all repositories under one key that joins the names of
repository and plugin. Plugin names come from file names and have no slash, so the key
tells the two apart whatever the repository is called, and nothing is lost in merging.
-/

namespace BiothingsPulse

open Foundation

/-- A plain name is what stands after the last slash. -/
theorem takeWhile_reverse_key {repo name : List Char} (plain : '/' ∉ name) :
    (repo ++ '/' :: name).reverse.takeWhile (· ≠ '/') = name.reverse := by
  have kept : ∀ c ∈ name.reverse, decide (c ≠ '/') = true := by
    intro c inside
    exact decide_eq_true fun slash => plain (slash ▸ List.mem_reverse.mp inside)
  rw [List.reverse_append, List.reverse_cons, List.append_assoc,
    List.takeWhile_append_of_pos kept]
  exact List.append_nil _

/-- Two keys that end in plain names are equal only if both parts are. -/
theorem append_slash_inj {repo other name plugin : List Char} (plain : '/' ∉ name)
    (free : '/' ∉ plugin) (same : repo ++ '/' :: name = other ++ '/' :: plugin) :
    repo = other ∧ name = plugin := by
  have names : name = plugin := by
    rw [← List.reverse_inj, ← takeWhile_reverse_key plain, same,
      takeWhile_reverse_key free]
  subst names
  exact ⟨List.append_cancel_right same, rfl⟩

/-- Joined names tell the repository and the plugin apart. -/
theorem key_inj {repo other name plugin : String} (plain : '/' ∉ name.toList)
    (free : '/' ∉ plugin.toList) (same : repo ++ "/" ++ name = other ++ "/" ++ plugin) :
    repo = other ∧ name = plugin := by
  have lists := congrArg String.toList same
  rw [String.toList_append, String.toList_append, String.toList_append, String.toList_append,
    List.append_assoc, List.append_assoc] at lists
  obtain ⟨repos, names⟩ := append_slash_inj plain free lists
  exact ⟨String.toList_injective repos, String.toList_injective names⟩

/-- What is inserted under new and distinct keys is appended. -/
theorem Catalog.foldl_insert_refs {catalog : Catalog} {refs : List PluginRef}
    (distinct : ((catalog.refs ++ refs).map PluginRef.key).Nodup) :
    (refs.foldl Catalog.insert catalog).refs = catalog.refs ++ refs := by
  induction refs generalizing catalog with
  | nil => exact (List.append_nil _).symm
  | cons ref rest ih =>
      have fresh : ref.key ∉ catalog.refs.map PluginRef.key := by
        intro inside
        rw [List.map_append, List.nodup_append] at distinct
        exact distinct.2.2 _ inside _ (List.mem_map_of_mem List.mem_cons_self) rfl
      have inserted : (catalog.insert ref).refs = catalog.refs ++ [ref] := if_neg fresh
      rw [List.foldl_cons, ih, inserted, List.append_assoc]
      · rfl
      · rw [inserted, List.append_assoc]
        exact distinct

namespace PulseService

variable {codec : StateCodec}

/-- A sync knows the checkouts of the repositories that it was asked for. -/
theorem syncRegistry_absent {world : World} {repos : List RepoSpec}
    {localPaths : String → Option PyPath} (synced : syncRegistry world repos = .ok localPaths)
    {name : String} (absent : name ∉ repos.map RepoSpec.name) : localPaths name = none := by
  induction repos generalizing localPaths with
  | nil =>
      obtain rfl := Except.ok.inj synced
      rfl
  | cons spec rest ih =>
      rw [List.map_cons, List.mem_cons, not_or] at absent
      rw [syncRegistry] at synced
      cases checkout : world.syncRepo spec with
      | error exc =>
          rw [checkout] at synced
          dsimp only at synced
          split at synced
          · exact ih synced absent.2
          · cases synced
      | ok path =>
          rw [checkout] at synced
          obtain ⟨later, others, rfl⟩ := Loop.map_eq_ok.mp synced
          dsimp only
          rw [ih others absent.2, if_neg absent.1]
          rfl

/-- Under distinct names, each repository has the path of its own checkout. -/
theorem syncRegistry_own {world : World} {repos : List RepoSpec}
    {localPaths : String → Option PyPath} (synced : syncRegistry world repos = .ok localPaths)
    (distinct : (repos.map RepoSpec.name).Nodup) :
    ∀ spec ∈ repos, localPaths spec.name = (world.syncRepo spec).toOption := by
  induction repos generalizing localPaths with
  | nil => exact fun _ member => absurd member List.not_mem_nil
  | cons first rest ih =>
      rw [List.map_cons, List.nodup_cons] at distinct
      rw [syncRegistry] at synced
      cases checkout : world.syncRepo first with
      | error exc =>
          rw [checkout] at synced
          dsimp only at synced
          split at synced
          · refine List.forall_mem_cons.mpr ⟨?_, ih synced distinct.2⟩
            rw [syncRegistry_absent synced distinct.1, checkout]
            rfl
          · cases synced
      | ok path =>
          rw [checkout] at synced
          obtain ⟨later, others, rfl⟩ := Loop.map_eq_ok.mp synced
          dsimp only
          refine List.forall_mem_cons.mpr ⟨?_, fun spec member => ?_⟩
          · rw [syncRegistry_absent others distinct.1, if_pos rfl, checkout]
            rfl
          · have different : spec.name ≠ first.name := fun same =>
              distinct.1 (same ▸ List.mem_map_of_mem member)
            rw [if_neg different, Option.or_none, ih others distinct.2 spec member]

/-- The plugins that a rebuild discovers in a repository. -/
def discovered (world : World) (localPaths : String → Option PyPath) (spec : RepoSpec) :
    List PluginRef :=
  match localPaths spec.name with
  | none => []
  | some path => (world.discoverPlugins spec.name path spec).toOption.getD []

/-- A rebuild that completes has inserted what each repository's discovery returned. -/
theorem discover_eq_ok {world : World} {localPaths : String → Option PyPath}
    {repos : List RepoSpec} {catalog rebuilt : Catalog}
    (completed : discover world localPaths repos catalog = .ok rebuilt) :
    rebuilt = (repos.flatMap (discovered world localPaths)).foldl Catalog.insert catalog ∧
      ∀ spec ∈ repos, ∀ path, localPaths spec.name = some path →
        ∃ refs, world.discoverPlugins spec.name path spec = .ok refs := by
  induction repos generalizing catalog with
  | nil => exact ⟨(Except.ok.inj completed).symm, fun _ member => absurd member List.not_mem_nil⟩
  | cons first rest ih =>
      rw [discover] at completed
      rw [List.flatMap_cons, List.foldl_append, discovered]
      cases located : localPaths first.name with
      | none =>
          rw [located] at completed
          obtain ⟨same, others⟩ := ih completed
          refine ⟨same, List.forall_mem_cons.mpr ⟨fun path found => ?_, others⟩⟩
          rw [located] at found
          cases found
      | some path =>
          rw [located] at completed
          dsimp only at completed
          cases found : world.discoverPlugins first.name path first with
          | error exc => rw [found] at completed; cases completed
          | ok refs =>
              rw [found] at completed
              obtain ⟨same, others⟩ := ih completed
              dsimp only
              rw [found]
              refine ⟨same, List.forall_mem_cons.mpr ⟨fun other own => ?_, others⟩⟩
              rw [located] at own
              obtain rfl := Option.some.inj own
              exact ⟨refs, found⟩

end PulseService

private theorem Registry.resolvedRepos_distinct {registry : Registry}
    (distinct : (registry.repos.map RepoSpec.name).Nodup) :
    (registry.resolvedRepos.map RepoSpec.name).Nodup := by
  have names : registry.resolvedRepos.map RepoSpec.name =
      (registry.repos.filter RepoSpec.enabled).map RepoSpec.name := by
    rw [resolvedRepos, List.map_map]
    rfl
  rw [names]
  exact (List.filter_sublist.map _).nodup distinct

/-- The world in which discovery goes through the given checkouts. -/
def World.discovering (world : World) (checkouts : Checkouts) : World :=
  { world with discoverPlugins := checkouts.discoverPlugins }

section Exact

variable {codec : StateCodec} (checkouts : Checkouts) (world : World) (registry : Registry)

/-- The entry for a pair: the repository is enabled and synced, and the entry is the one that
its checkout has for the name. -/
def Expects (repo name : String) (entry : PluginRef) : Prop :=
  ∃ spec ∈ registry.resolvedRepos, spec.name = repo ∧ ∃ root, world.syncRepo spec = .ok root ∧
    checkouts.expected repo root spec name = some entry

/-- **The catalog is exact.** It has one entry for each pair that has one and no other, the
count is the number of these pairs, and looking up a plain plugin name finds its pair's. -/
structure CatalogExact (after : PulseService codec) (count : ℕ) : Prop where
  entries : ∀ entry, entry ∈ after.catalog.refs ↔
    Expects checkouts world registry entry.repo entry.name entry
  single : (after.catalog.refs.map fun entry => (entry.repo, entry.name)).Nodup
  counted : count =
    Set.ncard {pair : String × String |
      ∃ entry, Expects checkouts world registry pair.1 pair.2 entry}
  found : ∀ repo plugin, '/' ∉ plugin.toList → ∀ entry,
    after.getRef repo plugin = some entry ↔ Expects checkouts world registry repo plugin entry

variable {checkouts world registry}

private theorem Expects.plain {repo name : String} {entry : PluginRef}
    (expects : Expects checkouts world registry repo name entry) :
    entry.repo = repo ∧ entry.name = name ∧ '/' ∉ entry.name.toList := by
  obtain ⟨spec, _, rfl, root, _, found⟩ := expects
  exact Checkouts.expected_plain found

variable {localPaths : String → Option PyPath} {rebuilt : Catalog}
  (distinct : (registry.repos.map RepoSpec.name).Nodup)
  (synced : PulseService.syncRegistry world registry.resolvedRepos = .ok localPaths)
  (completed : PulseService.discover (world.discovering checkouts) localPaths
    registry.resolvedRepos .empty = .ok rebuilt)

include distinct synced completed

/-- What was discovered in a repository, by the expectation for its names. -/
theorem discovered_exact {spec : RepoSpec} (member : spec ∈ registry.resolvedRepos) :
    (∀ entry, entry ∈ PulseService.discovered (world.discovering checkouts) localPaths spec ↔
        ∃ root, world.syncRepo spec = .ok root ∧
          checkouts.expected spec.name root spec entry.name = some entry) ∧
      ((PulseService.discovered (world.discovering checkouts) localPaths spec).map
        PluginRef.name).Nodup := by
  have own := PulseService.syncRegistry_own synced
    (Registry.resolvedRepos_distinct distinct) spec member
  unfold PulseService.discovered
  rw [own]
  cases checkout : world.syncRepo spec with
  | error exc =>
      refine ⟨fun entry => ?_, List.nodup_nil⟩
      apply iff_of_false List.not_mem_nil
      rintro ⟨root, found, _⟩
      cases found
  | ok root =>
      rw [checkout] at own
      obtain ⟨refs, found⟩ := (PulseService.discover_eq_ok completed).2 spec member root own
      have listed : checkouts.discoverPlugins spec.name root spec = .ok refs := found
      obtain ⟨exact, names⟩ := Checkouts.discoverPlugins_exact listed
      have same : ((world.discovering checkouts).discoverPlugins spec.name root spec).toOption.getD
          [] = refs := by
        rw [found]
        rfl
      rw [show (Except.ok root : Except PyExc PyPath).toOption = some root from rfl]
      dsimp only
      rw [same]
      refine ⟨fun entry => (exact entry).trans ?_, names⟩
      constructor
      · intro expects
        exact ⟨root, rfl, expects⟩
      · rintro ⟨other, equal, expects⟩
        obtain rfl := Except.ok.inj equal
        exact expects

/-- A discovered plugin is of its repository, and its name has no slash. -/
theorem repo_of_discovered {spec : RepoSpec} (member : spec ∈ registry.resolvedRepos)
    {entry : PluginRef}
    (listed : entry ∈ PulseService.discovered (world.discovering checkouts) localPaths spec) :
    entry.repo = spec.name ∧ '/' ∉ entry.name.toList := by
  obtain ⟨root, _, expects⟩ :=
    ((discovered_exact distinct synced completed member).1 entry).mp listed
  obtain ⟨repo, _, plain⟩ := Checkouts.expected_plain expects
  exact ⟨repo, plain⟩

private theorem discovered_pairs_nodup :
    ((registry.resolvedRepos.flatMap
      (PulseService.discovered (world.discovering checkouts) localPaths)).map
        fun entry => (entry.repo, entry.name)).Nodup := by
  rw [List.map_flatMap, List.nodup_flatMap]
  constructor
  · intro spec member
    apply List.Nodup.of_map Prod.snd
    rw [List.map_map]
    exact (discovered_exact distinct synced completed member).2
  · have apart : registry.resolvedRepos.Pairwise fun first second => first.name ≠ second.name :=
      List.pairwise_map.mp (Registry.resolvedRepos_distinct distinct)
    refine List.Pairwise.imp_of_mem ?_ apart
    intro first second left right different pair early late
    obtain ⟨entry, listed, rfl⟩ := List.mem_map.mp early
    obtain ⟨other, found, same⟩ := List.mem_map.mp late
    have repos := (Prod.mk.inj same).1
    rw [(repo_of_discovered distinct synced completed left listed).1,
      (repo_of_discovered distinct synced completed right found).1] at repos
    exact different repos.symm

/-- No two of them have one key, for no name has a slash. -/
theorem discovered_keys_nodup :
    ((registry.resolvedRepos.flatMap
      (PulseService.discovered (world.discovering checkouts) localPaths)).map
        PluginRef.key).Nodup := by
  have pairs := discovered_pairs_nodup distinct synced completed
  refine List.Nodup.map_on ?_ (List.Nodup.of_map _ pairs)
  intro entry listed other found same
  obtain ⟨first, left, inside⟩ := List.mem_flatMap.mp listed
  obtain ⟨second, right, among⟩ := List.mem_flatMap.mp found
  have plain := (repo_of_discovered distinct synced completed left inside).2
  have plain' := (repo_of_discovered distinct synced completed right among).2
  obtain ⟨repos, plugins⟩ := key_inj plain plain' same
  exact List.inj_on_of_nodup_map pairs listed found (Prod.ext repos plugins)

/-- The rebuilt catalog merges the discovered plugins without losing one. -/
theorem rebuilt_refs :
    rebuilt.refs = registry.resolvedRepos.flatMap
        (PulseService.discovered (world.discovering checkouts) localPaths) ∧
      (rebuilt.refs.map fun entry => (entry.repo, entry.name)).Nodup ∧
      ∀ entry, entry ∈ rebuilt.refs ↔
        Expects checkouts world registry entry.repo entry.name entry := by
  have merged : rebuilt.refs = registry.resolvedRepos.flatMap
      (PulseService.discovered (world.discovering checkouts) localPaths) := by
    rw [(PulseService.discover_eq_ok completed).1]
    exact Catalog.foldl_insert_refs (discovered_keys_nodup distinct synced completed)
  rw [merged]
  refine ⟨rfl, discovered_pairs_nodup distinct synced completed, fun entry => ?_⟩
  constructor
  · intro listed
    obtain ⟨spec, member, inside⟩ := List.mem_flatMap.mp listed
    obtain ⟨root, checkout, expects⟩ :=
      ((discovered_exact distinct synced completed member).1 entry).mp inside
    have repo := (repo_of_discovered distinct synced completed member inside).1
    exact ⟨spec, member, repo.symm, root, checkout, repo ▸ expects⟩
  · rintro ⟨spec, member, repo, root, checkout, expects⟩
    refine List.mem_flatMap.mpr ⟨spec, member, ?_⟩
    exact ((discovered_exact distinct synced completed member).1 entry).mpr
      ⟨root, checkout, repo ▸ expects⟩

/-- So it is exact in any service that has it. -/
theorem catalogExact_of_rebuilt {after : PulseService codec} (holds : after.catalog = rebuilt) :
    CatalogExact checkouts world registry after rebuilt.refs.length := by
  obtain ⟨_, pairs, entries⟩ := rebuilt_refs distinct synced completed
  subst holds
  have identified {repo name : String} {entry : PluginRef} :
      Expects checkouts world registry repo name entry ↔
        entry ∈ after.catalog.refs ∧ entry.repo = repo ∧ entry.name = name := by
    constructor
    · intro expects
      obtain ⟨rfl, rfl, _⟩ := expects.plain
      exact ⟨(entries entry).mpr expects, rfl, rfl⟩
    · rintro ⟨listed, rfl, rfl⟩
      exact (entries entry).mp listed
  refine ⟨entries, pairs, ?_, ?_⟩
  · have expected : {pair : String × String |
          ∃ entry, Expects checkouts world registry pair.1 pair.2 entry} =
        (after.catalog.refs.map fun entry => (entry.repo, entry.name)).toFinset := by
      ext pair
      rw [Set.mem_ofPred_eq, List.coe_toFinset, Set.mem_ofPred_eq, List.mem_map]
      refine exists_congr fun entry => ?_
      rw [identified, Prod.ext_iff]
    rw [expected, Set.ncard_coe_finset, List.toFinset_card_of_nodup pairs, List.length_map]
  · intro repo plugin free entry
    rw [PulseService.getRef, Catalog.get?_eq_some_iff, identified]
    refine and_congr_right fun listed => ?_
    have plain := ((entries entry).mp listed).plain.2.2
    constructor
    · exact key_inj plain free
    · rintro ⟨rfl, rfl⟩
      rfl

end Exact

/-- A sync and discovery completes when its steps do. -/
theorem PulseService.syncAndDiscover_of_ok {codec : StateCodec} (world : World)
    (service : PulseService codec) {registry : Registry}
    {localPaths : String → Option PyPath} {rebuilt : Catalog}
    (read : world.registry = .ok registry)
    (synced : syncRegistry world registry.resolvedRepos = .ok localPaths)
    (completed : discover world localPaths registry.resolvedRepos .empty = .ok rebuilt) :
    service.syncAndDiscover world = (.ok rebuilt.refs.length,
      { service.note [.sync registry.resolvedRepos] with catalog := rebuilt }) := by
  simp only [syncAndDiscover, read, synced, completed]

/-- A sync and discovery raises and leaves the catalog, or completes with a rebuilt one. -/
theorem PulseService.syncAndDiscover_cases {codec : StateCodec} (world : World)
    (service : PulseService codec) :
    (∃ exc after, service.syncAndDiscover world = (.error exc, after) ∧
        after.catalog = service.catalog) ∨
      ∃ registry localPaths rebuilt after, world.registry = .ok registry ∧
        syncRegistry world registry.resolvedRepos = .ok localPaths ∧
        discover world localPaths registry.resolvedRepos .empty = .ok rebuilt ∧
        service.syncAndDiscover world = (.ok rebuilt.refs.length, after) ∧
        after.catalog = rebuilt := by
  cases read : world.registry with
  | error exc => exact .inl ⟨exc, service, by simp only [syncAndDiscover, read], rfl⟩
  | ok registry =>
      let opened := service.note [.sync registry.resolvedRepos]
      cases synced : syncRegistry world registry.resolvedRepos with
      | error exc =>
          exact .inl ⟨exc, opened, by simp only [syncAndDiscover, read, synced, opened], rfl⟩
      | ok localPaths =>
          cases completed : discover world localPaths registry.resolvedRepos .empty with
          | error exc =>
              exact .inl ⟨exc, opened,
                by simp only [syncAndDiscover, read, synced, completed, opened], rfl⟩
          | ok rebuilt =>
              exact .inr ⟨registry, localPaths, rebuilt, _, rfl, synced, completed,
                syncAndDiscover_of_ok world service read synced completed, rfl⟩

/-- Syncing does not depend on how plugins are discovered. -/
theorem syncRegistry_discovering (world : World) (checkouts : Checkouts)
    (repos : List RepoSpec) :
    PulseService.syncRegistry (world.discovering checkouts) repos =
      PulseService.syncRegistry world repos := by
  induction repos with
  | nil => rfl
  | cons spec rest ih =>
      rw [PulseService.syncRegistry, PulseService.syncRegistry, ih]
      rfl

/-- **The rebuilt catalog is exact.** For a registry whose repositories have distinct names, a
sync and discovery that completes leaves the exact catalog and returns its size, and one
that raises leaves the catalog there was. -/
theorem syncAndDiscover_exact {codec : StateCodec} (checkouts : Checkouts) (world : World)
    (service : PulseService codec)
    (distinct : ∀ registry, world.registry = .ok registry →
      (registry.repos.map RepoSpec.name).Nodup) :
    (∀ count after,
        service.syncAndDiscover (world.discovering checkouts) = (.ok count, after) →
        ∃ registry, world.registry = .ok registry ∧
          CatalogExact checkouts world registry after count) ∧
      ∀ exc after, service.syncAndDiscover (world.discovering checkouts) = (.error exc, after) →
        after.catalog = service.catalog := by
  obtain ⟨exc, after, raised, same⟩ |
      ⟨registry, localPaths, rebuilt, after, read, synced, completed, returned, holds⟩ :=
    service.syncAndDiscover_cases (world.discovering checkouts)
  · rw [raised]
    refine ⟨fun count after ran => ?_, fun exc after ran => ?_⟩
    · cases (Prod.mk.inj ran).1
    · rw [← (Prod.mk.inj ran).2]
      exact same
  · rw [returned]
    rw [syncRegistry_discovering] at synced
    refine ⟨fun count after ran => ?_, fun exc after ran => ?_⟩
    · obtain ⟨counted, rfl⟩ := Prod.mk.inj ran
      obtain rfl := Except.ok.inj counted
      exact ⟨registry, read,
        catalogExact_of_rebuilt (distinct registry read) synced completed holds⟩
    · cases (Prod.mk.inj ran).1

section Checkouts

private def hubPaths : List PyPath :=
  [["hub", "plugins", "clinvar"], ["hub", "plugins", "clinvar", "dump.py"],
    ["hub", "plugins", "clinvar", "manifest.json"], ["hub", "src", "plugins", "dbsnp"],
    ["hub", "src", "plugins", "dbsnp", "dbsnp_dump.py"], ["genes", "plugins", "clinvar"],
    ["genes", "plugins", "clinvar", "manifest.json"]]

/-- Whether a component of a path fits one of a pattern. -/
private def fits (component pattern : String) : Bool :=
  pattern = "*" || pattern = component ||
    pattern = "*.py" && ".py".toList.isSuffixOf component.toList

/-- One repository has a plugin twice, with a manifest and as an advanced one, and an advanced
plugin of its own; the other one has a plugin of the same name as the first. -/
def hubCheckouts : Checkouts where
  glob dir pattern := .ok (hubPaths.filter fun path =>
    let inside := path.drop dir.length
    let parts := joinPath [] pattern
    dir.isPrefixOf path && inside.length = parts.length && (inside.zipWith fits parts).all id)
  isFile path := .ok ('.' ∈ (pathName path).toList)
  isDir path := .ok ('.' ∉ (pathName path).toList)
  present path := .ok (path ∈ hubPaths)
  readText _ := none
  resolve := .ok
  netloc _ := .ok "github.com"
  plain := by
    intro dir pattern paths globs path member
    obtain rfl := Except.ok.inj globs
    have plain : ∀ path ∈ hubPaths, ∀ component ∈ path, '/' ∉ component.toList := by decide
    exact plain path (List.mem_filter.mp member).1

def registeredSpec (name : String) : RepoSpec :=
  { name := name, gitUrl := "https://github.com/biothings/" ++ name ++ ".git" }

/-- Three repositories are registered, and one of them cannot be synced. -/
def hubWorld : World :=
  { World.quiet with
    registry :=
      .ok { repos := [registeredSpec "gone", registeredSpec "hub", registeredSpec "genes"] }
    syncRepo := fun spec =>
      if spec.name = "gone" then .error ⟨.ordinary, "GitError", "repository not found"⟩
      else .ok [spec.name] }

/-- Of three repositories one fails to sync, and the other two make up the catalog. -/
theorem syncAndDiscover_exact_hub :
    ∃ after, ({ settings := {} } : PulseService plainCodec).syncAndDiscover
        (hubWorld.discovering hubCheckouts) = (.ok 3, after) ∧
      (after.catalog.refs.map fun ref => (ref.key, ref.pluginType)) =
        [("hub/clinvar", .manifest), ("hub/dbsnp", .advanced), ("genes/clinvar", .manifest)] ∧
      ∃ registry, hubWorld.registry = .ok registry ∧
        CatalogExact hubCheckouts hubWorld registry after 3 := by
  have exact := syncAndDiscover_exact hubCheckouts hubWorld
    ({ settings := {} } : PulseService plainCodec) (by
      intro registry read
      obtain rfl := Except.ok.inj read
      decide)
  have discovered : ((({ settings := {} } : PulseService plainCodec).syncAndDiscover
      (hubWorld.discovering hubCheckouts)).1.toOption,
      (({ settings := {} } : PulseService plainCodec).syncAndDiscover
        (hubWorld.discovering hubCheckouts)).2.catalog.refs.map
          fun ref => (ref.key, ref.pluginType)) =
    (some 3, [("hub/clinvar", .manifest), ("hub/dbsnp", .advanced),
      ("genes/clinvar", .manifest)]) := by decide +kernel
  cases ran : ({ settings := {} } : PulseService plainCodec).syncAndDiscover
    (hubWorld.discovering hubCheckouts) with
  | mk outcome after =>
      rw [ran] at discovered
      obtain ⟨returned, entries⟩ := Prod.mk.inj discovered
      cases outcome with
      | error exc => cases returned
      | ok count =>
          obtain rfl := Option.some.inj returned
          exact ⟨after, rfl, entries, exact.1 3 after ran⟩

end Checkouts

end BiothingsPulse
