import BiothingsPulse.Foundation.Once
import BiothingsPulse.Python.Values

/-!
# Bootstrapping the SDK

Importing a hub module of the SDK initialises it from the module that the environment
names. The initialisation sets the environment and the top-level `config` module before
the first such import, at most once however many threads ask for it, and anew after one that
has raised.
-/

namespace BiothingsPulse

open Foundation Once

/-- The top-level `config` module. -/
inductive ConfigModule where
  /-- The permissive proxy for the imports of plugins. -/
  | plugin
  /-- A module that was there before. -/
  | other (file : String)
  deriving DecidableEq

/-- What the initialisation looks at and sets, for the whole process. -/
inductive Slot where
  | environ (name : String)
  /-- `sys.modules["config"]`. -/
  | config
  /-- `biothings.hub`, by the module that the SDK was configured from. -/
  | hub
  deriving DecidableEq

abbrev Slot.Value : Slot → Type
  | .config => ConfigModule
  | .environ _ | .hub => String

abbrev Surroundings : Type := (slot : Slot) → Option slot.Value

/-- Fill a slot if it is empty. -/
def Surroundings.setdefault (surroundings : Surroundings) (slot : Slot) (value : slot.Value) :
    Surroundings :=
  Function.update surroundings slot (some ((surroundings slot).getD value))

namespace Bootstrap

inductive Preparation where
  | setdefault (slot : Slot) (value : slot.Value)
  | importHub

def hubConfigModule : String := "biothings_pulse.hub_config"

/-- `import biothings.hub`, code of the SDK, by what it may come to and leave behind. -/
structure HubImport where
  runs : Surroundings → Except PyExc Unit → Surroundings → Prop
  /-- It comes to an end. -/
  ends : ∀ now, ∃ result next, runs now result next
  /-- The SDK configures itself from the module that the environment names. -/
  configures : ∀ {now next module}, now .hub = none →
    now (.environ "HUB_CONFIG") = some module → runs now (.ok ()) next →
      next = Function.update now .hub (some module)
  /-- A module whose import raises is not there afterwards. -/
  leaves : ∀ {now exc next}, runs now (.error exc) next → next = now

/-- The import may succeed wherever a module is named to it. -/
def HubImport.MayLoad (hub : HubImport) : Prop :=
  ∀ now module, now .hub = none → now (.environ "HUB_CONFIG") = some module →
    ∃ next, hub.runs now (.ok ()) next

/-- What one preparation may come to. -/
inductive Prepares (hub : HubImport) :
    Preparation → Surroundings → Except PyExc Unit → Surroundings → Prop where
  | setdefault {slot : Slot} {value : slot.Value} {now : Surroundings} :
      Prepares hub (.setdefault slot value) now (.ok ()) (now.setdefault slot value)
  | importHub {now next : Surroundings} {result : Except PyExc Unit}
      (ran : hub.runs now result next) : Prepares hub .importHub now result next

/-- The slots that the initialisation fills, with their defaults. -/
def defaults : List Preparation :=
  [.setdefault (.environ "HUB_CONFIG") hubConfigModule,
    .setdefault (.environ "HUB_VERBOSE") "0",
    .setdefault .config .plugin]

/-- Other code leaves the slots of the initialisation alone. -/
def Untouched (before after : Surroundings) : Prop :=
  after .hub = before .hub ∧
    ∀ slot value, .setdefault slot value ∈ defaults → after slot = before slot

/-- The initialisation that is guarded by the flag and the lock. -/
def ensureBiothingsReady (hub : HubImport) : Task Surroundings PyExc Preparation where
  body := defaults ++ [.importHub]
  performs := Prepares hub
  meanwhile := Untouched

section Surroundings

variable {start now next : Surroundings} {slot other : Slot}

/-- The slot has what it had, or the default where it was empty. -/
def Defaulted (start now : Surroundings) (slot : Slot) (value : slot.Value) : Prop :=
  now slot = some ((start slot).getD value)

/-- The slot is as it was, or filled as it is to be. -/
def Kept (start now : Surroundings) (slot : Slot) (value : slot.Value) : Prop :=
  now slot = start slot ∨ Defaulted start now slot value

private theorem setdefault_of_ne {value : slot.Value} (different : other ≠ slot) :
    now.setdefault slot value other = now other :=
  Function.update_of_ne different _ _

private theorem Kept.setdefault {value : slot.Value} (kept : Kept start now slot value) :
    Defaulted start (now.setdefault slot value) slot value := by
  have content : now.setdefault slot value slot = some ((now slot).getD value) :=
    Function.update_self ..
  rw [Defaulted, content]
  obtain same | defaulted := kept
  · rw [same]
  · rw [defaulted]
    rfl

/-- No slot has two defaults. -/
theorem default_unique {first second : slot.Value}
    (one : .setdefault slot first ∈ defaults) (two : .setdefault slot second ∈ defaults) :
    first = second := by
  simp only [defaults, List.mem_cons, Preparation.setdefault.injEq, List.not_mem_nil,
    or_false] at one two
  rcases one with ⟨rfl, one⟩ | ⟨rfl, one⟩ | ⟨rfl, one⟩ <;> simp_all

/-- The SDK's own slot has no default. -/
theorem ne_hub_of_default {value : slot.Value} (member : .setdefault slot value ∈ defaults) :
    slot ≠ .hub := by
  rintro rfl
  simp [defaults] at member

end Surroundings

section Outline

variable (start : Surroundings) {hub : HubImport} {now next : Surroundings}

/-- The module that the SDK is configured from. -/
def configuredFrom : String := (start (.environ "HUB_CONFIG")).getD hubConfigModule

/-- The slots are kept, those whose default is not still to be set are filled, and the SDK
is imported unless that is still to be done. -/
structure Prepared (todo : List Preparation) (now : Surroundings) : Prop where
  kept : ∀ slot value, .setdefault slot value ∈ defaults → Kept start now slot value
  filled : ∀ slot value, .setdefault slot value ∈ defaults → .setdefault slot value ∉ todo →
    Defaulted start now slot value
  unimported : .importHub ∈ todo → now .hub = none
  imported : .importHub ∉ todo → now .hub = some (configuredFrom start)

variable {start}

/-- The import comes last, when every slot is filled. -/
theorem todo_of_importHub {todo : List Preparation}
    (suffix : (.importHub :: todo) <:+ (ensureBiothingsReady hub).body) : todo = [] := by
  simpa [ensureBiothingsReady, defaults, List.suffix_cons_iff] using suffix

private theorem Prepared.stable {todo : List Preparation} (prepared : Prepared start todo now)
    (untouched : Untouched now next) : Prepared start todo next where
  kept slot value member := by
    rw [Kept, Defaulted, untouched.2 slot value member]
    exact prepared.kept slot value member
  filled slot value member done := by
    rw [Defaulted, untouched.2 slot value member]
    exact prepared.filled slot value member done
  unimported later := untouched.1.trans (prepared.unimported later)
  imported done := untouched.1.trans (prepared.imported done)

private theorem Prepared.setdefault {slot : Slot} {value : slot.Value} {todo : List Preparation}
    (member : .setdefault slot value ∈ defaults)
    (prepared : Prepared start (.setdefault slot value :: todo) now) :
    Prepared start todo (now.setdefault slot value) := by
  have own : Defaulted start (now.setdefault slot value) slot value :=
    (prepared.kept slot value member).setdefault
  have hub : now.setdefault slot value .hub = now .hub :=
    setdefault_of_ne (ne_hub_of_default member).symm
  refine ⟨fun other content default => ?_, fun other content default done => ?_,
    fun later => ?_, fun done => ?_⟩
  · by_cases same : other = slot
    · subst same
      exact default_unique member default ▸ .inr own
    · rw [Kept, Defaulted, setdefault_of_ne same]
      exact prepared.kept other content default
  · by_cases same : other = slot
    · subst same
      exact default_unique member default ▸ own
    · rw [Defaulted, setdefault_of_ne same]
      refine prepared.filled other content default fun listed => ?_
      obtain first | rest := List.mem_cons.mp listed
      · cases first
        exact same rfl
      · exact done rest
  · exact hub.trans (prepared.unimported (List.mem_cons_of_mem _ later))
  · refine hub.trans (prepared.imported fun listed => ?_)
    obtain first | rest := List.mem_cons.mp listed
    · cases first
    · exact done rest

/-- The SDK is configured from the module that the environment names by then. -/
theorem Prepared.imports {module : String} (prepared : Prepared start [.importHub] now)
    (named : now (.environ "HUB_CONFIG") = some module) :
    Prepared start [] (Function.update now .hub (some module)) := by
  have default : Preparation.setdefault (.environ "HUB_CONFIG") hubConfigModule ∈ defaults := by
    simp [defaults]
  have configured : Defaulted start now (.environ "HUB_CONFIG") hubConfigModule :=
    prepared.filled _ _ default (by simp)
  have frame : ∀ slot value, .setdefault slot value ∈ defaults →
      Function.update now .hub (some module) slot = now slot := fun slot value member =>
    Function.update_of_ne (ne_hub_of_default member) _ _
  refine ⟨fun slot value member => ?_, fun slot value member _ => ?_, nofun, fun _ => ?_⟩
  · rw [Kept, Defaulted, frame slot value member]
    exact prepared.kept slot value member
  · rw [Defaulted, frame slot value member]
    exact prepared.filled slot value member (by simp)
  · rw [Function.update_self, ← named]
    exact configured

/-- At the import the environment names a module. -/
theorem Prepared.named (prepared : Prepared start [.importHub] now) :
    now (.environ "HUB_CONFIG") = some (configuredFrom start) :=
  prepared.filled _ _ (by simp [defaults]) (by simp)

private theorem Prepared.perform {step : Preparation} {todo : List Preparation}
    (suffix : (step :: todo) <:+ (ensureBiothingsReady hub).body)
    (prepared : Prepared start (step :: todo) now)
    (performed : Prepares hub step now (.ok ()) next) : Prepared start todo next := by
  cases performed with
  | setdefault =>
      have member := suffix.subset List.mem_cons_self
      simp only [ensureBiothingsReady, List.mem_append, List.mem_singleton, reduceCtorEq,
        or_false] at member
      exact prepared.setdefault member
  | importHub ran =>
      cases todo_of_importHub suffix
      have named := prepared.named
      exact hub.configures (prepared.unimported List.mem_cons_self) named ran ▸
        prepared.imports named

/-- An import that raises leaves everything to be done again. -/
theorem Prepared.fail {step : Preparation} {todo : List Preparation} {exc : PyExc}
    (suffix : (step :: todo) <:+ (ensureBiothingsReady hub).body)
    (prepared : Prepared start (step :: todo) now)
    (performed : Prepares hub step now (.error exc) next) :
    Prepared start (ensureBiothingsReady hub).body next := by
  cases performed with
  | importHub ran =>
      rw [hub.leaves ran]
      exact {
        kept := prepared.kept
        filled := fun _ _ member done => absurd (List.mem_append_left _ member) done
        unimported := fun _ => prepared.unimported List.mem_cons_self
        imported := fun done => absurd (List.mem_append_right _ List.mem_cons_self) done }

private theorem prepared_start (unimported : start .hub = none) :
    Prepared start (ensureBiothingsReady hub).body start where
  kept _ _ _ := .inl rfl
  filled _ _ member done := absurd (List.mem_append_left _ member) done
  unimported _ := unimported
  imported done := absurd (List.mem_append_right _ List.mem_cons_self) done

/-- What is known of the surroundings at each point of the initialisation. -/
def outline (hub : HubImport) (start : Surroundings) : Outline (ensureBiothingsReady hub) where
  before := Prepared start (ensureBiothingsReady hub).body
  during := Prepared start
  start _ prepared := prepared
  perform _ _ _ _ suffix prepared performed := prepared.perform suffix performed
  fail _ _ _ _ _ suffix prepared performed := prepared.fail suffix performed
  before_stable _ _ prepared untouched := prepared.stable untouched
  during_stable _ _ _ prepared untouched := prepared.stable untouched

/-- Only the import raises. -/
theorem importHub_of_raised {step : Preparation} {exc : PyExc}
    (raised : Prepares hub step now (.error exc) next) : step = .importHub := by
  cases raised
  rfl

private theorem prepares_total (step : Preparation) (now : Surroundings) :
    ∃ result next, Prepares hub step now result next := by
  cases step with
  | setdefault slot value => exact ⟨_, _, .setdefault⟩
  | importHub =>
      obtain ⟨result, next, ran⟩ := hub.ends now
      exact ⟨result, next, .importHub ran⟩

/-- In its place every preparation can succeed. -/
theorem Prepared.succeeds (loads : hub.MayLoad) (step : Preparation) (todo : List Preparation)
    (now : Surroundings) (suffix : (step :: todo) <:+ (ensureBiothingsReady hub).body)
    (prepared : Prepared start (step :: todo) now) :
    ∃ next, Prepares hub step now (.ok ()) next := by
  cases step with
  | setdefault slot value => exact ⟨_, .setdefault⟩
  | importHub =>
      cases todo_of_importHub suffix
      obtain ⟨next, ran⟩ :=
        loads now _ (prepared.unimported List.mem_cons_self) prepared.named
      exact ⟨next, .importHub ran⟩

end Outline

section Retried

/-- An import that is not run again once it has succeeded, and may raise until then. -/
private inductive Imports : Surroundings → Except PyExc Unit → Surroundings → Prop where
  | imported {module : String} {now : Surroundings} (before : now .hub = some module) :
      Imports now (.ok ()) now
  | imports {module : String} {now : Surroundings} (first : now .hub = none)
      (named : now (.environ "HUB_CONFIG") = some module) :
      Imports now (.ok ()) (Function.update now .hub (some module))
  | raises {exc : PyExc} {now : Surroundings} (first : now .hub = none) :
      Imports now (.error exc) now

private def sdkImport : HubImport where
  runs := Imports
  ends now := by
    cases hub : now .hub with
    | none => exact ⟨.error ⟨.ordinary, "", ""⟩, now, .raises hub⟩
    | some module => exact ⟨.ok (), now, .imported hub⟩
  configures first named ran := by
    cases ran with
    | imported before => exact nomatch before.symm.trans first
    | imports _ own => rw [Option.some.inj (named.symm.trans own)]
  leaves ran := by
    cases ran
    rfl

private theorem sdkImport_mayLoad : sdkImport.MayLoad :=
  fun _ _ first named => ⟨_, .imports first named⟩

private abbrev noModule : PyExc := ⟨.ordinary, "ImportError", "No module named 'biothings'"⟩

private abbrev Retry : Type := Process (Fin 3) Surroundings PyExc Preparation

/-- The first call is about to perform the body, in an environment that names nothing. -/
private def begun : Retry :=
  { (Process.initial _ _ _ fun _ => none : Retry).move 0
      (.running (ensureBiothingsReady sdkImport).body) with lock := some 0 }

/-- Every slot is filled, and the import is still to be performed. -/
private def filled : Retry :=
  { begun with
    phase := Function.update begun.phase 0 (.running [.importHub])
    shared := ((begun.shared.setdefault (.environ "HUB_CONFIG") hubConfigModule).setdefault
      (.environ "HUB_VERBOSE") "0").setdefault .config .plugin }

/-- The import has raised and the call has returned. -/
private def raised : Retry :=
  { filled with
    phase := Function.update begun.phase 0 (.returned (.error noModule))
    lock := none }

/-- A second call has begun anew. -/
private def anew : Retry :=
  { raised.move 1 (.running (ensureBiothingsReady sdkImport).body) with lock := some 1 }

/-- A third call waits for the second one. -/
private def retried : Retry :=
  { anew with phase := Function.update anew.phase 2 .waiting }

private theorem filled_of_begun :
    ∃ events, Transition.Run (Step (ensureBiothingsReady sdkImport)) begun events filled := by
  have environ : Step (ensureBiothingsReady sdkImport) begun
      (.perform 0 (.setdefault (.environ "HUB_CONFIG") hubConfigModule) (.ok ())) _ :=
    .perform rfl .setdefault
  have run := Transition.Run.snoc (.snoc (.snoc .nil environ)
    (.perform (Function.update_self ..) .setdefault))
    (.perform (Function.update_self ..) .setdefault)
  simp only [Process.move, Function.update_idem] at run
  exact ⟨_, run⟩

private theorem raised_of_filled :
    ∃ events, Transition.Run (Step (ensureBiothingsReady sdkImport)) filled events raised := by
  have failed : Step (ensureBiothingsReady sdkImport) filled
      (.perform 0 .importHub (.error noModule)) _ :=
    .fail rfl (.importHub (.raises rfl))
  have run := Transition.Run.snoc (.snoc .nil failed) (.release (Function.update_self ..))
  simp only [Process.move, filled, Function.update_idem] at run
  exact ⟨_, run⟩

private theorem retried_of_raised :
    ∃ events, Transition.Run (Step (ensureBiothingsReady sdkImport)) raised events retried := by
  obtain ⟨events, begins⟩ :=
    @exists_begun _ _ _ _ _ (ensureBiothingsReady sdkImport) raised 1 .idle rfl rfl
  have called : Step (ensureBiothingsReady sdkImport) anew (.call 2) _ := .call .idle
  have run := (Transition.Run.snoc begins called).snoc (.missed (Function.update_self ..) rfl)
  simp only [Process.move, Function.update_idem] at run
  exact ⟨_, run⟩

private theorem exists_retried :
    ∃ events, Transition.Run (Step (ensureBiothingsReady sdkImport))
      (Process.initial (Fin 3) PyExc Preparation fun _ => none) events retried := by
  obtain ⟨_, first⟩ := @exists_begun _ _ _ _ _ (ensureBiothingsReady sdkImport)
    (Process.initial (Fin 3) PyExc Preparation fun _ => none) 0 .idle rfl rfl
  obtain ⟨_, fills⟩ := filled_of_begun
  obtain ⟨_, raises⟩ := raised_of_filled
  obtain ⟨_, retries⟩ := retried_of_raised
  exact ⟨_, ((first.append fills).append raises).append retries⟩

end Retried

section Runs

variable {ι : Type} [DecidableEq ι] {hub : HubImport} {start : Surroundings}
  {events : List (Event ι PyExc Preparation)} {state : Process ι Surroundings PyExc Preparation}

/-- **The SDK is initialised once, and in order.** However threads call the initialisation and
whatever imports raise: one thread at a time has the lock, the body comes to its end at most
once, the SDK is imported only with every slot filled, a call that ends well leaves the slots
with the values they had or their defaults and the SDK configured from what the environment
named, and a call raises only what an import has raised in its thread. -/
theorem ensureBiothingsReady_once (unimported : start .hub = none)
    (run : Transition.Run (Step (ensureBiothingsReady hub))
      (Process.initial ι PyExc Preparation start) events state) :
    (∀ first second, (state.phase first).Critical → (state.phase second).Critical →
      first = second) ∧
    events.countP Event.completes = state.ready.toNat ∧
    (∀ thread todo, state.phase thread = .running (.importHub :: todo) →
      Prepared start [.importHub] state.shared) ∧
    (∀ thread, (state.phase thread).Ends (.ok ()) →
      state.ready = true ∧ Prepared start [] state.shared) ∧
    (∀ thread exc, (state.phase thread).Ends (.error exc) →
      .perform thread .importHub (.error exc) ∈ events) := by
  have before : (outline hub start).before start := prepared_start unimported
  have described : (outline hub start).Describes state :=
    (Outline.describes_initial before).run run
  refine ⟨fun _ _ => described.locked.exclusive, completions_of_run before run, ?_, ?_, ?_⟩
  · intro thread todo here
    obtain ⟨_, suffix, prepared⟩ := here ▸ described.fits thread
    cases todo_of_importHub suffix
    exact prepared
  · intro thread ends
    have ready := (described.fits thread).passed ends
    exact ⟨ready, described.ready ready⟩
  · intro thread exc ends
    obtain ⟨step, raised⟩ := raised_of_run run ends
    obtain ⟨now, next, performed⟩ := performed_of_run run raised
    exact importHub_of_raised performed ▸ raised

omit [DecidableEq ι] in
/-- A call raises, and when it is made again the hub is prepared. -/
theorem ensureBiothingsReady_once_retried :
    ∃ (events : List (Event (Fin 3) PyExc Preparation)) (state : Retry),
      .perform 0 .importHub (.error noModule) ∈ events ∧
      events.countP Event.completes = 1 ∧ state.shared (.environ "HUB_VERBOSE") = some "0" ∧
        state.shared .config = some .plugin ∧ state.shared .hub = some hubConfigModule := by
  obtain ⟨events, run⟩ := exists_retried
  have described := (Outline.describes_initial (prepared_start rfl) :
    (outline sdkImport fun _ => none).Describes _).run run
  have resting : (retried.phase 0).Resting := .returned _
  obtain ⟨later, state, again, returned⟩ :=
    described.recovers (Prepared.succeeds sdkImport_mayLoad) resting
  obtain ⟨_, _, _, _, raises⟩ := ensureBiothingsReady_once rfl run
  obtain ⟨_, completed, _, passed, _⟩ := ensureBiothingsReady_once rfl (run.append again)
  obtain ⟨ready, prepared⟩ := passed 0 (returned ▸ .returned _)
  refine ⟨events ++ later, state, List.mem_append_left _ (raises 0 noModule (.returned _)), ?_,
    prepared.filled (.environ "HUB_VERBOSE") "0" ?_ List.not_mem_nil,
    prepared.filled .config .plugin ?_ List.not_mem_nil, prepared.imported List.not_mem_nil⟩
  · rw [completed, ready]
    rfl
  · simp [defaults]
  · simp [defaults]

/-- **No call waits for ever.** While calls are under way one of them can go on, a thread takes
at most nine steps for each of its calls, and a thread that is not in a call can always make
one that ends well if the import may succeed, however many imports have raised before. -/
theorem ensureBiothingsReady_progress (unimported : start .hub = none) (loads : hub.MayLoad)
    (run : Transition.Run (Step (ensureBiothingsReady hub))
      (Process.initial ι PyExc Preparation start) events state) (thread : ι) :
    (¬ (state.phase thread).Resting → ∃ other,
      CanAdvance (ensureBiothingsReady hub) state other) ∧
    events.countP (Event.steps thread) ≤ 9 * events.countP (Event.calls thread) ∧
    ((state.phase thread).Resting → ∃ later final,
      Transition.Run (Step (ensureBiothingsReady hub)) state later final ∧
        final.phase thread = .returned (.ok ())) := by
  have before : (outline hub start).before start := prepared_start unimported
  have described : (outline hub start).Describes state :=
    (Outline.describes_initial before).run run
  refine ⟨described.advances prepares_total, ?_,
    described.recovers (Prepared.succeeds loads)⟩
  rw [Nat.mul_comm]
  exact steps_of_run run thread

omit [DecidableEq ι] in
/-- One call has raised and another waits; the process goes on, and a call made again succeeds.
-/
theorem ensureBiothingsReady_progress_retried :
    ∃ events state, Transition.Run (Step (ensureBiothingsReady sdkImport))
        (Process.initial (Fin 3) PyExc Preparation fun _ => none) events state ∧
      state.phase 0 = .returned (.error noModule) ∧ state.phase 2 = .waiting ∧
      (∃ thread, CanAdvance (ensureBiothingsReady sdkImport) state thread) ∧
      ∃ later final, Transition.Run (Step (ensureBiothingsReady sdkImport)) state later final ∧
        final.phase 0 = .returned (.ok ()) := by
  obtain ⟨events, run⟩ := exists_retried
  have waits := (ensureBiothingsReady_progress rfl sdkImport_mayLoad run 2).1
  have recovers := (ensureBiothingsReady_progress rfl sdkImport_mayLoad run 0).2.2
  exact ⟨events, retried, run, rfl, rfl, waits nofun, recovers (.returned _)⟩

end Runs

end Bootstrap

end BiothingsPulse
