import BiothingsPulse.Checker.Workers

/-!
# Plugin code and the modules of other repositories

Plugin code binds modules of its own repository and of the base environment alone, in
every interleaving of the workers' steps in which code that is being checked leaves
alone what a load of another repository has made available (`Untouched`), and no purge
reads the path of a namespace package that is gone or has changed (`Steady`).
-/

namespace BiothingsPulse

open Foundation Transition Interp

variable {ι : Type}

namespace Process

variable {tree : FileTree}

/-- No directory of a checkout on `sys.path` has a first component, and no cached module
with that first component lies in the checkout. -/
def Untouched (state : Process ι tree) (root : PyPath) (head : Component) : Prop :=
  (∀ dir ∈ state.interp.path, root <+: dir → tree.find dir head = .absent) ∧
  ∀ name ∈ state.interp.modules.keys, name.head = head →
    ∀ origin ∈ state.interp.modules.lookup name, ∀ place ∈ origin.places, ¬root <+: place

/-- What code in its check phase may import while a load is under way. -/
def Aside (state : Process ι tree) (worker : ι) (name : DottedName) : Prop :=
  ∀ holder ∈ state.lock, holder.worker ≠ worker → ∀ plugin ∈ state.checking worker,
    (plugin.root = holder.plugin.root ∧ holder.phase.purges = false) ∨
      state.Untouched holder.plugin.root name.head

/-- The modules that a load still has to visit. -/
def pending (state : Process ι tree) : List DottedName :=
  match state.lock with
  | some ⟨_, _, .purging todo⟩ => todo
  | _ => []

/-- The module that a purge visits next has the path that it was loaded with. -/
def Steady (state : Process ι tree) : Prop :=
  ∀ name ∈ state.pending.head?, ∀ origin ∈ state.interp.modules.lookup name,
    state.interp.pathOf tree name origin = .ok (origin.locations.getD [])

def Careful (state : Process ι tree) : ι × Action tree → Prop
  | (worker, .importing name _) => state.Aside worker name
  | (_, .move .visit) => state.Steady
  | _ => True

instance [DecidableEq ι] (state : Process ι tree) (label : ι × Action tree) :
    Decidable (state.Careful label) :=
  match label with
  | (worker, .importing _ _) =>
      inferInstanceAs (Decidable (∀ holder ∈ state.lock, holder.worker ≠ worker →
        ∀ plugin ∈ state.checking worker,
          (plugin.root = holder.plugin.root ∧ holder.phase.purges = false) ∨ (_ ∧ _)))
  | (_, .move .visit) =>
      inferInstanceAs (Decidable (∀ name ∈ _, ∀ origin ∈ _, _ = Except.ok _))
  | (_, .move (.enter _)) | (_, .move .insert) | (_, .move (.register _))
  | (_, .move (.withdraw _)) | (_, .move .close) | (_, .move .remove) | (_, .move (.collect _))
  | (_, .acquire _) | (_, .release _) | (_, .finish) => isTrue trivial

private theorem Untouched.cached {state : Process ι tree} {root : PyPath} {head : Component}
    (untouched : state.Untouched root head) (name : DottedName) (origin : Origin)
    (same : name.head = head) (cached : state.interp.modules.lookup name = some origin) :
    ∀ place ∈ origin.places, ¬root <+: place := by
  exact untouched.2 name (mem_keys.mpr ⟨origin, cached⟩) same origin cached

end Process

namespace Deployment

variable (deployment : Deployment)

/-- The first components of the names that the loader makes up. -/
def Reserved (head : Component) : Prop := "pulseadv_".toList <+: head.val.toList

/-- A module of the base environment. -/
def Base (name : DottedName) (origin : Origin) : Prop :=
  origin.Within deployment.basePlaces ∧ ¬Reserved name.head

/-- An interpreter while no load has begun or after it has ended. -/
structure Free (interp : Interp) : Prop where
  path : interp.path = deployment.basePath
  modules : ∀ name origin, interp.modules.lookup name = some origin → deployment.Base name origin

/-- An interpreter during a load from a checkout. -/
structure Occupied (root : PyPath) (interp : Interp) : Prop where
  path : ∀ dir ∈ interp.path, dir ∈ deployment.basePath ∨ root <+: dir
  modules : ∀ name origin, interp.modules.lookup name = some origin →
    origin.Within (root :: deployment.basePlaces)
  reserved : ∀ name origin, Reserved name.head → interp.modules.lookup name = some origin →
    origin.Within [root]

/-- Modules known before a load are modules of the base environment. -/
def Known (before : List DottedName) (interp : Interp) : Prop :=
  ∀ name ∈ before, ∃ origin, interp.modules.lookup name = some origin ∧
    deployment.Base name origin

/-- What holds while a load of a plugin is in a phase. -/
def During (plugin : Checkout deployment.tree) (interp : Interp) : LoadPhase → Prop
  | .started => deployment.Free interp
  | .opened before added todo =>
      deployment.Occupied plugin.root interp ∧ deployment.Known before interp ∧
        added.foldl List.erase interp.path = deployment.basePath ∧
        todo ⊆ importRoots deployment.tree plugin.ref
  | .closing before added =>
      deployment.Occupied plugin.root interp ∧ deployment.Known before interp ∧
        added.foldl List.erase interp.path = deployment.basePath
  | .purging todo =>
      deployment.Occupied plugin.root interp ∧ interp.path = deployment.basePath ∧
        ∀ name origin, interp.modules.lookup name = some origin → name ∉ todo →
          deployment.Base name origin
  | .aborted => False

variable {deployment} {root : PyPath} {interp : Interp}

private theorem Free.occupied (free : deployment.Free interp) (root : PyPath) :
    deployment.Occupied root interp where
  path := by
    rw [free.path]
    exact fun _ listed => .inl listed
  modules := by
    intro name origin cached
    exact (free.modules name origin cached).1.mono (List.subset_cons_self _ _)
  reserved := fun name origin reserved cached =>
    absurd reserved (free.modules name origin cached).2

private theorem loadEntries_subset {tree : FileTree} {ref : PluginRef} {release : Option DottedName}
    {entries : List PyPath} (chosen : loadEntries tree ref release = some entries) :
    entries ⊆ importRoots tree ref := by
  cases release with
  | some release =>
      simp only [loadEntries] at chosen
      split at chosen
      · next manifest =>
          cases chosen
          exact releaseEntries_subset tree manifest release
      · cases chosen
  | none =>
      simp only [loadEntries] at chosen
      split at chosen
      · next advanced located =>
          cases chosen
          simp [importRoots, advanced, located]
      · cases chosen

section Importing

variable (outcome : PyPath → Except PyExc Unit) (name : DottedName)

private theorem not_within_nil {origin : Origin} : ¬origin.Within [] := by
  intro within
  obtain ⟨place, member⟩ := List.exists_mem_of_ne_nil _ within.some
  obtain ⟨dir, listed, -⟩ := within.inside place member
  cases listed

/-- What lies in a checkout or in the environment, and not in the checkout, lies in the
environment. -/
theorem within_basePlaces {origin : Origin} (within : origin.Within (root :: deployment.basePlaces))
    (outside : ∀ place ∈ origin.places, ¬root <+: place) :
    origin.Within deployment.basePlaces := by
  refine ⟨within.some, ?_⟩
  intro place member
  obtain ⟨dir, listed, inside⟩ := within.inside place member
  rcases List.mem_cons.mp listed with rfl | base
  · exact absurd inside (outside place member)
  · exact ⟨dir, base, inside⟩

/-- With nothing but the base environment on the path, an import finds nothing else. -/
theorem Free.importing (free : deployment.Free interp) :
    deployment.Free (importName deployment.tree (atOnce outcome) name interp).2 ∧
      ∀ origin, (importName deployment.tree (atOnce outcome) name interp).1 = .ok origin →
        origin.Within deployment.basePlaces := by
  have located : interp.Located deployment.tree (fun _ => True) deployment.basePlaces :=
    { path := fun name _ dir listed =>
        deployment.provides dir (by rwa [free.path] at listed) name
      modules := fun name origin _ cached => (free.modules name origin cached).1 }
  have unreserved : interp.Located deployment.tree Reserved [] :=
    { path := by
        intro head reserved dir listed
        rw [free.path] at listed
        exact FileTree.provides_of_absent (Foreign.absent (deployment.reserved head reserved) listed)
      modules := fun name origin reserved cached =>
        absurd reserved (free.modules name origin cached).2 }
  have still : ∀ file interp, (atOnce outcome file interp).2 = interp := fun _ _ => rfl
  obtain ⟨after, within⟩ := located.importName still name
  obtain ⟨afterUnreserved, -⟩ := unreserved.importName still name
  refine ⟨⟨?_, ?_⟩, fun origin => within origin trivial⟩
  · rw [(importName_grows still name interp).path, free.path]
  · intro other origin cached
    exact ⟨after.modules other origin trivial cached,
      fun reserved => not_within_nil (afterUnreserved.modules other origin reserved cached)⟩

private theorem Occupied.importing (occupied : deployment.Occupied root interp) :
    deployment.Occupied root (importName deployment.tree (atOnce outcome) name interp).2 ∧
      ∀ origin, (importName deployment.tree (atOnce outcome) name interp).1 = .ok origin →
        origin.Within (root :: deployment.basePlaces) := by
  have located : interp.Located deployment.tree (fun _ => True) (root :: deployment.basePlaces) :=
    { path := by
        intro head _ dir listed
        rcases occupied.path dir listed with base | own
        · exact (deployment.provides dir base head).mono (List.subset_cons_self _ _)
        · exact FileTree.provides_of_inside ⟨root, List.mem_cons_self, own⟩
      modules := fun name origin _ => occupied.modules name origin }
  have reserved : interp.Located deployment.tree Reserved [root] :=
    { path := by
        intro head reserved dir listed
        rcases occupied.path dir listed with base | own
        · exact FileTree.provides_of_absent
            (Foreign.absent (deployment.reserved head reserved) base)
        · exact FileTree.provides_of_inside ⟨root, List.mem_cons_self, own⟩
      modules := occupied.reserved }
  have still : ∀ file interp, (atOnce outcome file interp).2 = interp := fun _ _ => rfl
  obtain ⟨after, within⟩ := located.importName still name
  obtain ⟨afterReserved, -⟩ := reserved.importName still name
  refine ⟨⟨?_, fun other origin => after.modules other origin trivial, afterReserved.modules⟩,
    fun origin => within origin trivial⟩
  rw [(importName_grows still name interp).path]
  exact occupied.path

private theorem Known.importing {before : List DottedName}
    (known : deployment.Known before interp) :
    deployment.Known before (importName deployment.tree (atOnce outcome) name interp).2 := by
  intro other member
  obtain ⟨origin, cached, base⟩ := known other member
  have grown : Grows name.head interp
      (importName deployment.tree (atOnce outcome) name interp).2 :=
    importName_grows (fun _ _ => rfl) name interp
  exact ⟨origin, grown.keeps other origin cached, base⟩

/-- During a load, importing what the load has not made available finds modules of the
environment, and caches no others. -/
theorem Occupied.importing_aside (occupied : deployment.Occupied root interp)
    (absent : ∀ dir ∈ interp.path, root <+: dir → deployment.tree.find dir name.head = .absent)
    (uncached : ∀ other origin, other.head = name.head →
      interp.modules.lookup other = some origin → ∀ place ∈ origin.places, ¬root <+: place) :
    (∀ other origin, other.head = name.head →
      (importName deployment.tree (atOnce outcome) name interp).2.modules.lookup other =
        some origin → deployment.Base other origin) ∧
      ∀ origin, (importName deployment.tree (atOnce outcome) name interp).1 = .ok origin →
        origin.Within deployment.basePlaces := by
  have located : interp.Located deployment.tree (· = name.head) deployment.basePlaces :=
    { path := by
        rintro _ rfl dir listed
        rcases occupied.path dir listed with base | own
        · exact deployment.provides dir base name.head
        · exact FileTree.provides_of_absent (absent dir listed own)
      modules := fun other origin same cached =>
        within_basePlaces (occupied.modules other origin cached)
          (uncached other origin same cached) }
  have unreserved : interp.Located deployment.tree
      (fun head => head = name.head ∧ Reserved head) [] :=
    { path := by
        rintro _ ⟨rfl, reserved⟩ dir listed
        apply FileTree.provides_of_absent
        rcases occupied.path dir listed with base | own
        · exact Foreign.absent (deployment.reserved _ reserved) base
        · exact absent dir listed own
      modules := by
        rintro other origin ⟨same, reserved⟩ cached
        obtain ⟨place, member, inside⟩ := (occupied.reserved other origin reserved cached).place
        exact absurd inside (uncached other origin same cached place member) }
  have still : ∀ file interp, (atOnce outcome file interp).2 = interp := fun _ _ => rfl
  obtain ⟨after, within⟩ := located.importName still name
  obtain ⟨afterUnreserved, -⟩ := unreserved.importName still name
  refine ⟨fun other origin same cached => ⟨after.modules other origin same cached, ?_⟩,
    fun origin => within origin rfl⟩
  intro reserved
  exact not_within_nil (afterUnreserved.modules other origin ⟨same, reserved⟩ cached)

/-- Before its purge, a load may be joined by imports of its own repository. -/
theorem During.importing {plugin : Checkout deployment.tree} {phase : LoadPhase}
    (during : deployment.During plugin interp phase) (early : phase.purges = false) :
    deployment.During plugin (importName deployment.tree (atOnce outcome) name interp).2 phase ∧
      ∀ origin, (importName deployment.tree (atOnce outcome) name interp).1 = .ok origin →
        origin.Within (plugin.root :: deployment.basePlaces) := by
  have grown : Grows name.head interp
      (importName deployment.tree (atOnce outcome) name interp).2 :=
    importName_grows (fun _ _ => rfl) name interp
  cases phase with
  | started =>
      have after := (Free.importing outcome name during).1
      exact ⟨after, (Occupied.importing outcome name (Free.occupied during plugin.root)).2⟩
  | opened before added todo =>
      obtain ⟨occupied, known, erased, listed⟩ := during
      obtain ⟨after, within⟩ := occupied.importing outcome name
      exact ⟨⟨after, known.importing outcome name, by rw [grown.path, erased], listed⟩, within⟩
  | closing before added =>
      obtain ⟨occupied, known, erased⟩ := during
      obtain ⟨after, within⟩ := occupied.importing outcome name
      exact ⟨⟨after, known.importing outcome name, by rw [grown.path, erased]⟩, within⟩
  | purging todo => cases early
  | aborted => exact during.elim

/-- A load may be joined at any time by imports of what it has not made available. -/
theorem During.importing_aside {plugin : Checkout deployment.tree} {phase : LoadPhase}
    (during : deployment.During plugin interp phase)
    (absent : ∀ dir ∈ interp.path, plugin.root <+: dir →
      deployment.tree.find dir name.head = .absent)
    (uncached : ∀ other origin, other.head = name.head →
      interp.modules.lookup other = some origin →
      ∀ place ∈ origin.places, ¬plugin.root <+: place) :
    deployment.During plugin (importName deployment.tree (atOnce outcome) name interp).2 phase ∧
      ∀ origin, (importName deployment.tree (atOnce outcome) name interp).1 = .ok origin →
        origin.Within deployment.basePlaces := by
  have grown : Grows name.head interp
      (importName deployment.tree (atOnce outcome) name interp).2 :=
    importName_grows (fun _ _ => rfl) name interp
  cases phase with
  | started => exact Free.importing outcome name during
  | opened before added todo =>
      exact ⟨(During.importing outcome name during rfl).1,
        (during.1.importing_aside outcome name absent uncached).2⟩
  | closing before added =>
      exact ⟨(During.importing outcome name during rfl).1,
        (during.1.importing_aside outcome name absent uncached).2⟩
  | purging todo =>
      obtain ⟨occupied, path, visited⟩ := during
      obtain ⟨based, within⟩ := occupied.importing_aside outcome name absent uncached
      refine ⟨⟨(occupied.importing outcome name).1, by rw [grown.path, path], ?_⟩, within⟩
      intro other origin cached done
      by_cases same : other.head = name.head
      · exact based other origin same cached
      · rw [grown.others other same] at cached
        exact visited other origin cached done
  | aborted => exact during.elim

end Importing

section Moving

variable {plugin : Checkout deployment.tree}

private theorem reserved_of_uniqueName {stem : String} {name : DottedName}
    (unique : uniqueName deployment.tree plugin.ref stem = some name) : Reserved name.head := by
  unfold uniqueName at unique
  split at unique
  · next dotted _ =>
      cases unique
      exact Runtime.prefix_head_fileModule dotted stem
  · cases unique

private theorem Known.differs {before : List DottedName} (known : deployment.Known before interp)
    {name other : DottedName} (reserved : Reserved other.head) (member : name ∈ before) :
    name ≠ other := by
  rintro rfl
  obtain ⟨origin, -, base⟩ := known name member
  exact base.2 reserved

private theorem Occupied.register (occupied : deployment.Occupied root interp) {name : DottedName}
    {origin : Origin} (within : origin.Within [root]) :
    deployment.Occupied root (interp.register name origin) where
  path := occupied.path
  modules := by
    intro other origin' cached
    rcases lookup_register_eq_some.mp cached with ⟨-, rfl⟩ | ⟨-, cachedBefore⟩
    · exact within.mono (by simp)
    · exact occupied.modules other origin' cachedBefore
  reserved := by
    intro other origin' reserved cached
    rcases lookup_register_eq_some.mp cached with ⟨-, rfl⟩ | ⟨-, cachedBefore⟩
    · exact within
    · exact occupied.reserved other origin' reserved cachedBefore

private theorem Occupied.pop (occupied : deployment.Occupied root interp) (name : DottedName) :
    deployment.Occupied root (interp.pop name) where
  path := occupied.path
  modules := by
    intro other origin cached
    exact occupied.modules other origin (lookup_pop_eq_some.mp cached).2
  reserved := by
    intro other origin reserved cached
    exact occupied.reserved other origin reserved (lookup_pop_eq_some.mp cached).2

/-- A steady visit drops the module or leaves one of the environment. -/
theorem Occupied.visited (occupied : deployment.Occupied root interp) {name : DottedName}
    (steady : ∀ origin, interp.modules.lookup name = some origin →
      interp.pathOf deployment.tree name origin = .ok (origin.locations.getD [])) :
    ∃ after, purgeOne deployment.tree root name interp = (.ok (), after) ∧
      deployment.Occupied root after ∧ after.path = interp.path ∧
      (∀ origin, after.modules.lookup name = some origin → deployment.Base name origin) ∧
      ∀ other, other ≠ name → after.modules.lookup other = interp.modules.lookup other := by
  unfold purgeOne
  cases cached : interp.modules.lookup name with
  | none =>
      refine ⟨interp, rfl, occupied, rfl, ?_, fun _ _ => rfl⟩
      intro origin present
      rw [cached] at present
      cases present
  | some origin =>
      simp only [steady origin cached]
      by_cases under : (origin.locations.getD [] ++ origin.file.toList).any (startsUnder root)
      · refine ⟨interp.pop name, by rw [if_pos under], occupied.pop name, rfl, ?_, ?_⟩
        · intro origin' present
          rw [lookup_pop, if_pos rfl] at present
          cases present
        · intro other differs
          rw [lookup_pop, if_neg differs]
      · refine ⟨interp, by rw [if_neg under], occupied, rfl, ?_, fun _ _ => rfl⟩
        have outside : ∀ place ∈ origin.places, ¬root <+: place := by
          intro place member inside
          exact under (List.any_eq_true.mpr ⟨place, member, startsUnder_of_prefix inside⟩)
        intro origin' present
        rw [cached] at present
        cases present
        refine ⟨within_basePlaces (occupied.modules name origin cached) outside, ?_⟩
        intro reserved
        obtain ⟨place, member, inside⟩ := (occupied.reserved name origin reserved cached).place
        exact outside place member inside

private theorem Known.register {before : List DottedName} (known : deployment.Known before interp)
    {name : DottedName} {origin : Origin} (reserved : Reserved name.head) :
    deployment.Known before (interp.register name origin) := by
  intro other member
  obtain ⟨origin, cached, base⟩ := known other member
  refine ⟨origin, ?_, base⟩
  rw [lookup_register, if_neg (known.differs reserved member), cached]

private theorem Known.pop {before : List DottedName} (known : deployment.Known before interp)
    {name : DottedName} (reserved : Reserved name.head) :
    deployment.Known before (interp.pop name) := by
  intro other member
  obtain ⟨origin, cached, base⟩ := known other member
  refine ⟨origin, ?_, base⟩
  rw [lookup_pop, if_neg (known.differs reserved member), cached]

private theorem During.entered (free : deployment.Free interp) {release : Option DottedName}
    {entries : List PyPath}
    (chosen : loadEntries deployment.tree plugin.ref release = some entries) :
    deployment.During plugin interp (.opened interp.modules.keys [] entries) := by
  refine ⟨free.occupied plugin.root, ?_, free.path, loadEntries_subset chosen⟩
  intro name member
  obtain ⟨origin, cached⟩ := mem_keys.mp member
  exact ⟨origin, cached, free.modules name origin cached⟩

/-- An entry put in front is the next to be erased. -/
theorem During.inserted {before : List DottedName} {added todo : List PyPath} {entry : PyPath}
    (during : deployment.During plugin interp (.opened before added (entry :: todo))) :
    deployment.During plugin { interp with path := entry :: interp.path }
      (.opened before (added ++ [entry]) todo) := by
  obtain ⟨occupied, known, erased, listed⟩ := during
  rw [List.cons_subset] at listed
  refine ⟨⟨?_, occupied.modules, occupied.reserved⟩, known, ?_, listed.2⟩
  · intro dir member
    rcases List.mem_cons.mp member with rfl | member
    · exact .inr (plugin.inside dir listed.1)
    · exact occupied.path dir member
  · calc (added ++ [entry]).foldl List.erase (entry :: interp.path)
          = ((entry :: interp.path).diff added).erase entry := by
            rw [List.foldl_append, List.diff_eq_foldl]
            rfl
        _ = interp.path.diff added := by rw [List.diff_erase, List.erase_cons_head]
        _ = deployment.basePath := by rw [List.diff_eq_foldl, erased]

private theorem During.registered {before : List DottedName} {added : List PyPath} {stem : String}
    {name : DottedName} (during : deployment.During plugin interp (.opened before added []))
    (unique : uniqueName deployment.tree plugin.ref stem = some name) :
    deployment.During plugin
      (interp.register name ⟨some (plugin.ref.path ++ [stem ++ ".py"]), none⟩)
      (.opened before added []) := by
  obtain ⟨occupied, known, erased, listed⟩ := during
  have within : (⟨some (plugin.ref.path ++ [stem ++ ".py"]), none⟩ : Origin).Within
      [plugin.root] :=
    Origin.within_file ⟨plugin.root, by simp, plugin.source.trans (List.prefix_append _ _)⟩
  exact ⟨occupied.register within, known.register (reserved_of_uniqueName unique), erased, listed⟩

/-- What was known before the load is of the environment, so that all else is to be visited. -/
theorem During.collected {before : List DottedName} (order : SetOrder)
    (during : deployment.During plugin interp (.closing before [])) :
    deployment.During plugin interp (.purging (order.order (newNames before interp))) := by
  obtain ⟨occupied, known, erased⟩ := during
  refine ⟨occupied, erased, ?_⟩
  intro name origin cached unlisted
  have present : name ∈ interp.modules.keys := mem_keys.mpr ⟨origin, cached⟩
  rw [(order.perm _).mem_iff, newNames, List.mem_filter] at unlisted
  have member : name ∈ before := by simpa [present] using unlisted
  obtain ⟨origin', cached', base⟩ := known name member
  rw [cached] at cached'
  cases cached'
  exact base

private theorem During.visited {name : DottedName} {todo : List DottedName}
    (during : deployment.During plugin interp (.purging (name :: todo)))
    (steady : ∀ origin, interp.modules.lookup name = some origin →
      interp.pathOf deployment.tree name origin = .ok (origin.locations.getD [])) :
    ∃ after, purgeOne deployment.tree plugin.root name interp = (.ok (), after) ∧
      deployment.During plugin after (.purging todo) := by
  obtain ⟨occupied, path, visited⟩ := during
  obtain ⟨after, ran, occupied', path', base, others⟩ := occupied.visited steady
  refine ⟨after, ran, occupied', path'.trans path, ?_⟩
  intro other origin cached done
  by_cases same : other = name
  · subst same
    exact base origin cached
  · rw [others other same] at cached
    exact visited other origin cached (by simp [same, done])

/-- Each step of the holder keeps what holds during its load. -/
theorem During.moved {move : Move} {phase phase' : LoadPhase} {interp' : Interp}
    (during : deployment.During plugin interp phase)
    (moved : plugin.move move phase interp = some (phase', interp'))
    (steady : move = .visit → ∀ name todo, phase = .purging (name :: todo) →
      ∀ origin, interp.modules.lookup name = some origin →
        interp.pathOf deployment.tree name origin = .ok (origin.locations.getD [])) :
    deployment.During plugin interp' phase' := by
  unfold Checkout.move at moved
  split at moved
  · -- enter
    next release =>
      obtain ⟨entries, chosen, same⟩ := Option.map_eq_some_iff.mp moved
      cases same
      exact During.entered during chosen
  · -- insert
    next before added entry todo =>
      split at moved
      · cases moved
        obtain ⟨occupied, known, erased, listed⟩ := during
        exact ⟨occupied, known, erased, (List.cons_subset.mp listed).2⟩
      · cases moved
        exact during.inserted
  · -- register
    next stem before added =>
      obtain ⟨name, unique, same⟩ := Option.map_eq_some_iff.mp moved
      cases same
      exact during.registered unique
  · -- withdraw
    next stem before added =>
      obtain ⟨name, unique, same⟩ := Option.map_eq_some_iff.mp moved
      cases same
      obtain ⟨occupied, known, erased, listed⟩ := during
      exact ⟨occupied.pop name, known.pop (reserved_of_uniqueName unique), erased, listed⟩
  · -- close
    cases moved
    obtain ⟨occupied, known, erased, -⟩ := during
    exact ⟨occupied, known, erased⟩
  · -- remove
    cases moved
    obtain ⟨occupied, known, erased⟩ := during
    refine ⟨⟨?_, occupied.modules, occupied.reserved⟩, known, erased⟩
    exact fun dir member => occupied.path dir (List.mem_of_mem_erase member)
  · -- collect
    next order before =>
      cases moved
      exact during.collected order
  · -- visit
    next name todo =>
      obtain ⟨after, ran, kept⟩ := during.visited (steady rfl name todo rfl)
      rw [ran] at moved
      cases moved
      exact kept
  · cases moved

/-- A load leaves nothing behind. -/
theorem During.leaves {loaded : Bool} {phase : LoadPhase}
    (during : deployment.During plugin interp phase) (leaves : Process.leaves loaded phase) :
    deployment.Free interp := by
  cases phase with
  | started => exact during
  | opened before added todo => cases leaves
  | closing before added => cases leaves
  | purging todo =>
      cases todo with
      | nil =>
          obtain ⟨-, path, visited⟩ := during
          exact ⟨path, fun name origin cached => visited name origin cached List.not_mem_nil⟩
      | cons name todo => cases leaves
  | aborted => exact during.elim

end Moving

/-- The import resolved to modules of the repository and of the environment. -/
def Isolated (deployment : Deployment) (executed : Executed deployment.tree) : Prop :=
  ∀ origin, executed.result = .ok origin →
    origin.Within (executed.plugin.root :: deployment.basePlaces)

/-- What holds of the shared interpreter in every careful run. -/
structure Orders (deployment : Deployment) (state : Process ι deployment.tree) : Prop where
  free : state.lock = none → deployment.Free state.interp
  during : ∀ holder ∈ state.lock, deployment.During holder.plugin state.interp holder.phase
  log : ∀ executed ∈ state.log, Isolated deployment executed

namespace Orders

variable [DecidableEq ι] {state after : Process ι deployment.tree} {worker : ι}

omit [DecidableEq ι] in
/-- What an import has to keep. -/
theorem of_importing (orders : Orders deployment state) {name : DottedName}
    {outcome : PyPath → Except PyExc Unit} {plugin : Checkout deployment.tree}
    (free : state.lock = none →
      deployment.Free (importName deployment.tree (atOnce outcome) name state.interp).2)
    (during : ∀ holder ∈ state.lock, deployment.During holder.plugin
      (importName deployment.tree (atOnce outcome) name state.interp).2 holder.phase)
    (within : ∀ origin,
      (importName deployment.tree (atOnce outcome) name state.interp).1 = .ok origin →
        origin.Within (plugin.root :: deployment.basePlaces)) :
    Orders deployment (state.imported plugin name outcome) where
  free := free
  during := during
  log := by
    intro executed member
    rcases List.mem_append.mp member with earlier | now
    · exact orders.log executed earlier
    · rw [List.mem_singleton] at now
      subst now
      exact within

private theorem imported (orders : Orders deployment state) {name : DottedName}
    {outcome : PyPath → Except PyExc Unit} (aside : state.Aside worker name)
    {plugin : Checkout deployment.tree} (executing : state.executing worker = some plugin) :
    Orders deployment (state.imported plugin name outcome) := by
  have based {origin : Origin} (within : origin.Within deployment.basePlaces) :
      origin.Within (plugin.root :: deployment.basePlaces) :=
    within.mono (List.subset_cons_self _ _)
  cases locked : state.lock with
  | none =>
      obtain ⟨free, within⟩ := (orders.free locked).importing outcome name
      apply orders.of_importing (fun _ => free) ?_ fun origin ok => based (within origin ok)
      intro holder held
      rw [locked] at held
      cases held
  | some holder =>
      have during := orders.during holder locked
      have keeps (kept : deployment.During holder.plugin
          (importName deployment.tree (atOnce outcome) name state.interp).2 holder.phase)
          (within : ∀ origin,
            (importName deployment.tree (atOnce outcome) name state.interp).1 = .ok origin →
              origin.Within (plugin.root :: deployment.basePlaces)) :
          Orders deployment (state.imported plugin name outcome) := by
        apply orders.of_importing ?_ ?_ within
        · intro unlocked
          rw [locked] at unlocked
          cases unlocked
        · intro other held
          rw [locked] at held
          cases held
          exact kept
      by_cases own : holder.worker = worker
      · -- The load's own code, before its purge.
        have early : holder.plugin = plugin ∧ holder.phase.purges = false := by
          simp only [Process.executing, locked, if_pos own] at executing
          split at executing <;> simp_all [LoadPhase.purges]
        obtain ⟨kept, within⟩ := during.importing outcome name early.2
        rw [early.1] at within
        exact keeps kept within
      · simp only [Process.executing, locked, if_neg own] at executing
        rcases aside holder locked own plugin executing with ⟨same, early⟩ | untouched
        · obtain ⟨kept, within⟩ := during.importing outcome name early
          rw [← same] at within
          exact keeps kept within
        · obtain ⟨kept, within⟩ :=
            during.importing_aside outcome name untouched.1 untouched.cached
          exact keeps kept fun origin ok => based (within origin ok)

private theorem step {label : ι × Action deployment.tree} (orders : Orders deployment state)
    (careful : state.Careful label) (stepped : state.next label = some after) :
    Orders deployment after := by
  obtain ⟨worker, action⟩ := label
  cases action with
  | acquire plugin =>
      simp only [Process.next] at stepped
      split at stepped
      · next unlocked _ =>
          cases stepped
          refine ⟨nofun, ?_, orders.log⟩
          rintro holder ⟨⟩
          exact orders.free unlocked
      · cases stepped
  | move move =>
      simp only [Process.next] at stepped
      split at stepped
      · cases stepped
      · next holder locked =>
          split at stepped
          · obtain ⟨⟨phase, interp⟩, moved, same⟩ := Option.map_eq_some_iff.mp stepped
            cases same
            refine ⟨nofun, ?_, orders.log⟩
            rintro _ ⟨⟩
            apply (orders.during holder locked).moved moved
            rintro rfl name todo visiting
            obtain ⟨owner, plugin, _⟩ := holder
            cases visiting
            exact careful name (by simp [Process.pending, locked])
          · cases stepped
  | importing name outcome =>
      obtain ⟨plugin, executing, same⟩ := Option.map_eq_some_iff.mp stepped
      cases same
      exact orders.imported careful executing
  | release loaded =>
      simp only [Process.next] at stepped
      split at stepped
      · cases stepped
      · next holder locked =>
          split at stepped
          · next leaving =>
              cases stepped
              refine ⟨fun _ => (orders.during holder locked).leaves leaving.2, ?_, orders.log⟩
              rintro _ ⟨⟩
          · cases stepped
  | finish =>
      obtain ⟨plugin, -, same⟩ := Option.map_eq_some_iff.mp stepped
      cases same
      exact ⟨orders.free, orders.during, orders.log⟩

end Orders

/-- A directory that neither lies in one of the given ones nor contains it. -/
def Elsewhere (dirs : List PyPath) (root : PyPath) : Prop :=
  ∀ dir ∈ dirs, ¬dir <+: root ∧ ¬root <+: dir

instance (dirs : List PyPath) (root : PyPath) : Decidable (Elsewhere dirs root) :=
  inferInstanceAs (Decidable (∀ dir ∈ dirs, ¬dir <+: root ∧ ¬root <+: dir))

private theorem not_under_elsewhere {dirs : List PyPath} {root : PyPath}
    (elsewhere : Elsewhere dirs root) {place : PyPath} (inside : Inside dirs place) :
    ¬root <+: place := by
  intro under
  obtain ⟨dir, listed, above⟩ := inside
  obtain ⟨notBelow, notAbove⟩ := elsewhere dir listed
  rcases List.prefix_or_prefix_of_prefix above under with below | contains
  · exact notBelow below
  · exact notAbove contains

end Deployment

/-! Two workers load the plugins of the two repositories, the second one while the first
plugin is being checked. -/

namespace Namespaced

def succeeds (_ : PyPath) : Except PyExc Unit := .ok ()

def idle : Process Bool deployment.tree := ⟨fresh, none, fun _ => none, []⟩

def loadsFirst : List (Bool × Action deployment.tree) :=
  [.acquire first.toCheckout, .move (.enter (some common)), .move .insert,
    .importing common succeeds, .move .close, .move .remove, .move (.collect inOrder),
    .move .visit, .move .visit, .move .visit, .release true].map (false, ·)

def beginsSecond : List (Bool × Action deployment.tree) :=
  [.acquire second.toCheckout, .move (.enter (some common)), .move .insert].map (true, ·)

private theorem free_fresh : deployment.Free fresh where
  path := rfl
  modules := by rintro name origin ⟨⟩

/-- The check of the first plugin imports a module of the environment during the second
load, and its own release module, in vain, after it. -/
def careful : List (Bool × Action deployment.tree) :=
  loadsFirst ++ beginsSecond ++ [(false, .importing (.top requests) succeeds)] ++
    [.importing common succeeds, .move .close, .move .remove, .move (.collect inOrder),
      .move .visit, .move .visit, .move .visit, .move .visit, .release true].map (true, ·) ++
    [(false, .importing common succeeds)]

/-- The check of the first plugin imports its release module while the import root of the
second is on `sys.path`. -/
def careless : List (Bool × Action deployment.tree) :=
  loadsFirst ++ beginsSecond ++ [(false, .importing common succeeds)]

end Namespaced

end BiothingsPulse
