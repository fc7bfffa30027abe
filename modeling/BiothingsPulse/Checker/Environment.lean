import BiothingsPulse.Checker.Locations
import BiothingsPulse.Checker.Loader

/-!
# The base environment

The modules that `sys.path` provides outside of loads are the same in every
interpreter: importing one has an outcome of its own (`environment`) and changes no
other module, whatever else is cached. Two interpreters that differ only in which of
these modules they have cached already (`Alike`) therefore execute code alike.
-/

namespace BiothingsPulse

open Foundation.Agreement Interp

/-- A runtime together with the `sys.path` that the process started with. -/
structure Deployment extends Runtime where
  basePath : List PyPath
  /-- The directories and files in which the modules lie that the base path has. -/
  basePlaces : List PyPath
  provides : ∀ dir ∈ basePath, ∀ name : Component, tree.Provides basePlaces dir name
  atomic : ∀ name origin file, tree.resolve basePath name = some origin →
    origin.file = some file → ∃ outcome, body file = .environment outcome
  /-- The names that the loader makes up are not taken. -/
  reserved : ∀ name : Component, "pulseadv_".toList <+: name.val.toList →
    tree.search basePath name = none

namespace Deployment

variable (deployment : Deployment)

/-- No module of the environment has this first component. -/
def Foreign (head : Component) : Prop := deployment.tree.search deployment.basePath head = none

variable {deployment} in
/-- No directory of the base path has what the environment does not. -/
theorem Foreign.absent {name : Component} (foreign : deployment.Foreign name) {dir : PyPath}
    (listed : dir ∈ deployment.basePath) : deployment.tree.find dir name = .absent :=
  FileTree.search_eq_none_iff.mp foreign dir listed

variable {deployment} in
private theorem Foreign.ne {name other : DottedName} (foreign : deployment.Foreign name.head)
    (provided : ¬deployment.Foreign other.head) : other ≠ name := by
  rintro rfl
  exact provided foreign

def outcomeOf (origin : Origin) : Except PyExc Origin :=
  match origin.file.map deployment.body with
  | some (.environment (.error exc)) => .error exc
  | _ => .ok origin

/-- What importing a module of the environment comes to. -/
def environment : DottedName → Except PyExc Origin
  | .top name =>
      match deployment.tree.search deployment.basePath name with
      | none => .error (notFound (.top name))
      | some origin => deployment.outcomeOf origin
  | .sub parent name =>
      match environment parent with
      | .error exc => .error exc
      | .ok above =>
          match above.locations with
          | none => .error (notPackage parent name)
          | some locations =>
              match deployment.tree.search locations name with
              | none => .error (notFound (.sub parent name))
              | some origin => deployment.outcomeOf origin

section Environment

variable {deployment}

private theorem imported_ok {origin imported : Origin}
    (ok : deployment.outcomeOf origin = .ok imported) : imported = origin := by
  unfold outcomeOf at ok
  split at ok
  · cases ok
  · exact (Except.ok.inj ok).symm

/-- A module of the environment without a parent is found on the base path. -/
theorem environment_top_ok {name : Component} {origin : Origin}
    (ok : deployment.environment (.top name) = .ok origin) :
    deployment.tree.search deployment.basePath name = some origin := by
  unfold environment at ok
  split at ok
  · cases ok
  · next found =>
      rw [found, imported_ok ok]

/-- A module of the environment with a parent is found in the path of the parent. -/
theorem environment_sub_ok {parent : DottedName} {name : Component} {origin : Origin}
    (ok : deployment.environment (.sub parent name) = .ok origin) :
    ∃ above locations, deployment.environment parent = .ok above ∧
      above.locations = some locations ∧ deployment.tree.search locations name = some origin := by
  unfold environment at ok
  split at ok
  · cases ok
  · next above okAbove =>
      split at ok
      · cases ok
      · next locations has =>
          split at ok
          · cases ok
          · next found =>
              refine ⟨above, locations, okAbove, has, ?_⟩
              rw [found, imported_ok ok]

private theorem resolve_of_environment {name : DottedName} {origin : Origin}
    (ok : deployment.environment name = .ok origin) :
    deployment.tree.resolve deployment.basePath name = some origin := by
  induction name generalizing origin with
  | top name => exact environment_top_ok ok
  | sub parent name ih =>
      obtain ⟨above, locations, okAbove, has, found⟩ := environment_sub_ok ok
      simp [FileTree.resolve, ih okAbove, has, found]

end Environment

/-- An interpreter with modules of the environment, and modules that lie in one
checkout. -/
structure Sound (root : PyPath) (state : Interp) : Prop where
  located : state.Located deployment.tree deployment.Foreign [root]
  path : ∀ name, ¬deployment.Foreign name →
    deployment.tree.search state.path name = deployment.tree.search deployment.basePath name
  environment : ∀ name origin, ¬deployment.Foreign name.head →
    state.modules.lookup name = some origin → deployment.environment name = .ok origin
  parents : ∀ name parent, ¬deployment.Foreign parent.head → state.nestedIn name = some parent →
    ∃ above, state.modules.lookup parent = some above

namespace Sound

variable {deployment} {root : PyPath} {state : Interp} {name : DottedName} {origin : Origin}

/-- Only the search path and what is cached matter. -/
theorem congr (sound : deployment.Sound root state) {other : Interp}
    (path : other.path = state.path)
    (lookup : ∀ name, other.modules.lookup name = state.modules.lookup name) :
    deployment.Sound root other where
  located :=
    ⟨by rw [path]; exact sound.located.path,
      fun name origin chosen => by rw [lookup]; exact sound.located.modules name origin chosen⟩
  path := by rw [path]; exact sound.path
  environment := fun name origin => by rw [lookup]; exact sound.environment name origin
  parents := fun name parent provided nested => by
    rw [nestedIn_congr (lookup name)] at nested
    rw [lookup]
    exact sound.parents name parent provided nested

private theorem register_foreign (sound : deployment.Sound root state)
    (foreign : deployment.Foreign name.head) (within : origin.Within [root]) :
    deployment.Sound root (state.register name origin) where
  located := sound.located.register fun _ => within
  path := sound.path
  environment := by
    intro other origin' provided cached
    rw [lookup_register, if_neg (foreign.ne provided)] at cached
    exact sound.environment other origin' provided cached
  parents := by
    intro other parent provided nested
    obtain ⟨last, stored, rfl, -⟩ := nestedIn_eq_some.mp nested
    have differs : DottedName.sub parent last ≠ name := foreign.ne provided
    rw [nestedIn_register differs] at nested
    rw [lookup_register, if_neg (foreign.ne provided)]
    exact sound.parents _ parent provided nested

private theorem register_provided (sound : deployment.Sound root state)
    (provided : ¬deployment.Foreign name.head) (ok : deployment.environment name = .ok origin)
    (parent : ∀ parent last, name = .sub parent last →
      ∃ above, state.modules.lookup parent = some above) :
    deployment.Sound root (state.register name origin) where
  located := sound.located.register fun foreign => absurd foreign provided
  path := sound.path
  environment := by
    intro other origin' provided' cached
    rcases lookup_register_eq_some.mp cached with ⟨rfl, rfl⟩ | ⟨-, cachedBefore⟩
    · exact ok
    · exact sound.environment other origin' provided' cachedBefore
  parents := by
    intro other above provided' nested
    rw [lookup_register]
    split
    · exact ⟨origin, rfl⟩
    · by_cases same : other = name
      · obtain ⟨last, -, named, -⟩ := nestedIn_eq_some.mp nested
        exact parent above last (same.symm.trans named)
      · rw [nestedIn_register same] at nested
        exact sound.parents other above provided' nested

private theorem pop_foreign (sound : deployment.Sound root state)
    (foreign : deployment.Foreign name.head) : deployment.Sound root (state.pop name) where
  located := sound.located.pop name
  path := sound.path
  environment := by
    intro other origin' provided cached
    exact sound.environment other origin' provided (lookup_pop_eq_some.mp cached).2
  parents := by
    intro other parent provided nested
    rw [lookup_pop, if_neg (foreign.ne provided)]
    exact sound.parents other parent provided (nestedIn_pop nested).2

/-- The path of a cached module of the environment can be read, and is the one it was
found with. -/
theorem pathOf_provided (sound : deployment.Sound root state)
    (provided : ¬deployment.Foreign name.head) (ok : deployment.environment name = .ok origin)
    (cached : state.modules.lookup name = some origin) :
    state.pathOf deployment.tree name origin = .ok (origin.locations.getD []) := by
  induction name generalizing origin with
  | top name =>
      rcases origin with ⟨_ | file, _ | stored⟩ <;> simp only [Interp.pathOf, Option.getD]
      rw [sound.path name provided, environment_top_ok ok]
      rfl
  | sub parent name ih =>
      rcases origin with ⟨_ | file, _ | stored⟩ <;> simp only [Interp.pathOf, Option.getD]
      obtain ⟨above, cachedAbove⟩ := sound.parents (.sub parent name) parent provided
        (nestedIn_eq_some.mpr ⟨name, stored, rfl, cached⟩)
      have okAbove := sound.environment parent above provided cachedAbove
      obtain ⟨above', locations, okAbove', has, found⟩ := environment_sub_ok ok
      rw [okAbove] at okAbove'
      cases okAbove'
      rw [cachedAbove]
      simp only [ih provided okAbove cachedAbove, has, Option.getD_some, Except.map, found]
      rfl

end Sound

/-- Executing a file of the environment is over at once. -/
def Atomic (exec : PyPath → Interp → Except PyExc Unit × Interp) : Prop :=
  ∀ file outcome state, deployment.body file = .environment outcome →
    exec file state = (outcome, state)

/-- What importing a module of the environment does to an interpreter. -/
structure Grown (root : PyPath) (name : DottedName) (before after : Interp) : Prop where
  sound : deployment.Sound root after
  path : after.path = before.path
  trace : after.trace = before.trace
  foreign : ∀ other, deployment.Foreign other.head →
    after.modules.lookup other = before.modules.lookup other
  cached : ∀ origin, deployment.environment name = .ok origin →
    after.modules.lookup name = some origin

namespace Grown

variable {deployment} {root : PyPath} {before middle after : Interp} {name : DottedName}

private theorem of_cached (sound : deployment.Sound root before)
    (provided : ¬deployment.Foreign name.head) {origin : Origin}
    (cached : before.modules.lookup name = some origin) :
    deployment.environment name = .ok origin ∧ deployment.Grown root name before before := by
  have ok := sound.environment name origin provided cached
  refine ⟨ok, sound, rfl, rfl, fun _ _ => rfl, ?_⟩
  intro origin' ok'
  rw [ok] at ok'
  cases ok'
  exact cached

private theorem of_failed (sound : deployment.Sound root before) {exc : PyExc}
    (failed : deployment.environment name = .error exc) :
    deployment.Grown root name before before := by
  refine ⟨sound, rfl, rfl, fun _ _ => rfl, ?_⟩
  intro origin ok
  rw [failed] at ok
  cases ok

/-- The package of a module is imported before it. -/
theorem trans {parent : DottedName} (first : deployment.Grown root parent before middle)
    (later : deployment.Grown root name middle after) :
    deployment.Grown root name before after where
  sound := later.sound
  path := later.path.trans first.path
  trace := later.trace.trans first.trace
  foreign := fun other chosen => (later.foreign other chosen).trans (first.foreign other chosen)
  cached := later.cached

end Grown

namespace Sound

variable {deployment} {root : PyPath} {state : Interp} {name : DottedName}
  {exec : PyPath → Interp → Except PyExc Unit × Interp}

private theorem load_provided (sound : deployment.Sound root state)
    (atomic : deployment.Atomic exec) (provided : ¬deployment.Foreign name.head) {origin : Origin}
    (resolved : deployment.tree.resolve deployment.basePath name = some origin)
    (outcome : deployment.environment name = deployment.outcomeOf origin)
    (missing : state.modules.lookup name = none)
    (parent : ∀ parent last, name = .sub parent last →
      ∃ above, state.modules.lookup parent = some above) :
    ∃ after, load exec name origin state = (deployment.environment name, after) ∧
      deployment.Grown root name state after := by
  have registered (ok : deployment.environment name = .ok origin) :
      deployment.Grown root name state (state.register name origin) := by
    refine ⟨sound.register_provided provided ok parent, rfl, rfl, ?_, ?_⟩
    · intro other foreign
      rw [lookup_register, if_neg (foreign.ne provided).symm]
    · intro origin' ok'
      rw [ok] at ok'
      cases ok'
      simp
  unfold load
  cases has : origin.file with
  | none =>
      have ok : deployment.environment name = .ok origin := by
        rw [outcome, outcomeOf, has]
        rfl
      exact ⟨_, by rw [ok], registered ok⟩
  | some file =>
      obtain ⟨executed, body⟩ := deployment.atomic name origin file resolved has
      simp only [atomic file executed _ body]
      cases executed with
      | ok done =>
          have ok : deployment.environment name = .ok origin := by
            simp [outcome, outcomeOf, has, body]
          exact ⟨_, by rw [ok], registered ok⟩
      | error exc =>
          have failed : deployment.environment name = .error exc := by
            simp [outcome, outcomeOf, has, body]
          have same (other : DottedName) :
              ((state.register name origin).pop name).modules.lookup other =
                state.modules.lookup other := by
            rw [lookup_pop, lookup_register]
            split
            · next same => rw [same, missing]
            · rfl
          refine ⟨(state.register name origin).pop name, by rw [failed], sound.congr rfl same, rfl,
            rfl, fun other _ => same other, ?_⟩
          intro origin' ok
          rw [failed] at ok
          cases ok

/-- With its package imported, a module of the environment is loaded from the path of the
package, or there is none. -/
theorem loadFrom_provided (sound : deployment.Sound root state) (atomic : deployment.Atomic exec)
    {parent : DottedName} {last : Component}
    (provided : ¬deployment.Foreign (DottedName.sub parent last).head)
    {above : Origin} {locations : List PyPath} (ok : deployment.environment parent = .ok above)
    (cached : state.modules.lookup parent = some above) (has : above.locations = some locations)
    (missing : state.modules.lookup (.sub parent last) = none) :
    ∃ after, loadFrom deployment.tree exec locations (.sub parent last) last state =
        (deployment.environment (.sub parent last), after) ∧
      deployment.Grown root (.sub parent last) state after := by
  unfold loadFrom
  cases found : deployment.tree.search locations last with
  | none =>
      have failed : deployment.environment (.sub parent last) =
          .error (notFound (.sub parent last)) := by
        simp [Deployment.environment, ok, has, found]
      exact ⟨state, by rw [failed], Grown.of_failed sound failed⟩
  | some origin =>
      have resolved : deployment.tree.resolve deployment.basePath (.sub parent last) =
          some origin := by
        simp [FileTree.resolve, resolve_of_environment ok, has, found]
      apply sound.load_provided atomic provided resolved _ missing
      · rintro _ _ ⟨⟩
        exact ⟨above, cached⟩
      · simp [Deployment.environment, ok, has, found]

/-- Importing a module of the environment has the same outcome in every sound
interpreter. -/
theorem importName_provided (sound : deployment.Sound root state)
    (atomic : deployment.Atomic exec) (provided : ¬deployment.Foreign name.head) :
    ∃ after, importName deployment.tree exec name state = (deployment.environment name, after) ∧
      deployment.Grown root name state after := by
  induction name generalizing state with
  | top name =>
      unfold importName
      cases cached : state.modules.lookup (.top name) with
      | some origin =>
          obtain ⟨ok, grown⟩ := Grown.of_cached sound provided cached
          exact ⟨state, by rw [ok], grown⟩
      | none =>
          simp only [loadFrom, sound.path name provided]
          cases found : deployment.tree.search deployment.basePath name with
          | none => exact absurd found provided
          | some origin =>
              apply sound.load_provided atomic provided found _ cached
              · rintro parent last ⟨⟩
              · simp [Deployment.environment, found]
  | sub parent name ih =>
      have providedParent : ¬deployment.Foreign parent.head := provided
      unfold importName
      cases cached : state.modules.lookup (.sub parent name) with
      | some origin =>
          obtain ⟨ok, grown⟩ := Grown.of_cached sound provided cached
          exact ⟨state, by rw [ok], grown⟩
      | none =>
          obtain ⟨middle, ran, grown⟩ := ih sound providedParent
          simp only [ran]
          cases outcome : deployment.environment parent with
          | error exc =>
              have failed : deployment.environment (.sub parent name) = .error exc := by
                simp [Deployment.environment, outcome]
              exact ⟨middle, by rw [failed], grown.trans (Grown.of_failed grown.sound failed)⟩
          | ok above =>
              have cachedParent := grown.cached above outcome
              simp only
              cases cachedNow : middle.modules.lookup (.sub parent name) with
              | some origin =>
                  obtain ⟨ok, grownNow⟩ := Grown.of_cached grown.sound provided cachedNow
                  exact ⟨middle, by rw [ok], grown.trans grownNow⟩
              | none =>
                  simp only [grown.sound.pathOf_provided providedParent outcome cachedParent]
                  cases has : above.locations with
                  | none =>
                      have failed : deployment.environment (.sub parent name) =
                          .error (notPackage parent name) := by
                        simp [Deployment.environment, outcome, has]
                      exact ⟨middle, by simp [failed],
                        grown.trans (Grown.of_failed grown.sound failed)⟩
                  | some locations =>
                      obtain ⟨after, loaded, grownNow⟩ := grown.sound.loadFrom_provided atomic
                        provided outcome cachedParent has cachedNow
                      exact ⟨after, by simpa using loaded, grown.trans grownNow⟩

end Sound

/-- Interpreters on one search path that differ at most in which modules of the
environment are cached. -/
structure Alike (root : PyPath) (path : List PyPath) (left right : Interp) : Prop where
  soundLeft : deployment.Sound root left
  soundRight : deployment.Sound root right
  pathLeft : left.path = path
  pathRight : right.path = path
  trace : left.trace = right.trace
  foreign : ∀ name, deployment.Foreign name.head →
    left.modules.lookup name = right.modules.lookup name

namespace Alike

variable {deployment} {root : PyPath} {path : List PyPath}

/-- Registering a module of the checkout keeps two interpreters alike. -/
theorem register {left right : Interp} (alike : deployment.Alike root path left right)
    (name : DottedName) (foreign : deployment.Foreign name.head) {origin : Origin}
    (within : origin.Within [root]) :
    deployment.Alike root path (left.register name origin) (right.register name origin) where
  soundLeft := alike.soundLeft.register_foreign foreign within
  soundRight := alike.soundRight.register_foreign foreign within
  pathLeft := alike.pathLeft
  pathRight := alike.pathRight
  trace := alike.trace
  foreign := by
    intro other chosen
    rw [lookup_register, lookup_register, alike.foreign other chosen]

/-- Dropping a module that the environment does not have keeps two interpreters alike. -/
theorem pop {left right : Interp} (alike : deployment.Alike root path left right)
    (name : DottedName) (foreign : deployment.Foreign name.head) :
    deployment.Alike root path (left.pop name) (right.pop name) where
  soundLeft := alike.soundLeft.pop_foreign foreign
  soundRight := alike.soundRight.pop_foreign foreign
  pathLeft := alike.pathLeft
  pathRight := alike.pathRight
  trace := alike.trace
  foreign := by
    intro other chosen
    rw [lookup_pop, lookup_pop, alike.foreign other chosen]

/-- Noting the same result keeps two interpreters alike. -/
theorem note {left right : Interp} (alike : deployment.Alike root path left right)
    (name : DottedName) (result : Except PyExc Origin) :
    deployment.Alike root path (left.note name result) (right.note name result) where
  soundLeft := alike.soundLeft.congr rfl fun _ => rfl
  soundRight := alike.soundRight.congr rfl fun _ => rfl
  pathLeft := alike.pathLeft
  pathRight := alike.pathRight
  trace := by rw [Interp.note, Interp.note, alike.trace]
  foreign := alike.foreign

private theorem correspondence :
    Correspondence deployment.tree deployment.Foreign [root] (deployment.Alike root path) where
  located := fun _ _ alike => alike.soundLeft.located
  path := fun _ _ alike => alike.pathLeft.trans alike.pathRight.symm
  lookup := fun _ _ alike => alike.foreign
  register := fun _ _ alike name _ foreign within => alike.register name foreign within
  pop := fun _ _ alike name foreign => alike.pop name foreign

variable {exec : PyPath → Interp → Except PyExc Unit × Interp}

/-- An import comes to the same in two interpreters that are alike. -/
theorem importName (atomic : deployment.Atomic exec)
    (executing : ∀ file, Respects (deployment.Alike root path) (exec file)) (name : DottedName) :
    Respects (deployment.Alike root path) (importName deployment.tree exec name) := by
  intro left right alike
  by_cases chosen : deployment.Foreign name.head
  · obtain ⟨same, after, -⟩ := correspondence.importName executing alike chosen
    exact ⟨same, after⟩
  · obtain ⟨left', ranLeft, grownLeft⟩ := alike.soundLeft.importName_provided atomic chosen
    obtain ⟨right', ranRight, grownRight⟩ := alike.soundRight.importName_provided atomic chosen
    rw [ranLeft, ranRight]
    refine ⟨rfl, grownLeft.sound, grownRight.sound, ?_, ?_, ?_, ?_⟩
    · rw [grownLeft.path, alike.pathLeft]
    · rw [grownRight.path, alike.pathRight]
    · rw [grownLeft.trace, grownRight.trace, alike.trace]
    · intro other foreign
      rw [grownLeft.foreign other foreign, grownRight.foreign other foreign,
        alike.foreign other foreign]

/-- Code runs alike in two interpreters that are alike. -/
theorem run (atomic : deployment.Atomic exec)
    (executing : ∀ file, Respects (deployment.Alike root path) (exec file)) (code : Code) :
    Respects (deployment.Alike root path) (run deployment.tree exec code) := by
  induction code with
  | done => exact Respects.const _
  | raise exc => exact Respects.const _
  | imp name next ih =>
      intro left right alike
      obtain ⟨result, left', right', ranLeft, ranRight, after⟩ :=
        (importName atomic executing name).runs alike
      have noted := after.note name result
      simp only [Interp.run, ranLeft, ranRight, noted.trace]
      exact ih _ _ _ noted

end Alike

/-- A file of the environment is executed in one step at any depth. -/
theorem atomic_execFile (limit : ℕ) :
    deployment.Atomic (execFile deployment.tree deployment.body limit) := by
  intro file outcome state body
  cases limit <;> simp [execFile, body]

/-- A file executes alike in two interpreters that are alike. -/
theorem Alike.execFile {deployment : Deployment} {root : PyPath} {path : List PyPath} (limit : ℕ)
    (file : PyPath) :
    Respects (deployment.Alike root path)
      (execFile deployment.tree deployment.body limit file) := by
  induction limit generalizing file with
  | zero =>
      intro left right alike
      cases body : deployment.body file <;> simp [Interp.execFile, body, alike]
  | succ limit ih =>
      intro left right alike
      cases body : deployment.body file with
      | environment outcome => simp [Interp.execFile, body, alike]
      | plugin code =>
          simp only [Interp.execFile, body]
          exact Alike.run (deployment.atomic_execFile limit) ih code left right alike

end Deployment

end BiothingsPulse
