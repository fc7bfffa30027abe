import BiothingsPulse.Foundation.Loop
import BiothingsPulse.Foundation.Transition
import Mathlib.Logic.Function.Basic

/-!
# Programs of atomic steps and their interleavings

A thread runs a program whose steps are atomic on a state that all threads share;
what a program does next may depend on the state its last step found. Alone, a
program is a state-passing function. In a pool any thread may move next, and the
shared state may change from outside in between. A discipline, which consists of an
invariant and of the changes that are allowed, holds over every interleaving when
each program keeps it whatever allowed changes the others make between its steps.
-/

namespace Foundation.Threads

open Transition

/-- A program over a shared state of type `σ` that returns a `ρ`. -/
inductive Program (σ ρ : Type) where
  | done (result : ρ)
  /-- One atomic step, and the program that goes on from the state it found. -/
  | step (write : σ → σ) (next : σ → Program σ ρ)

namespace Program

variable {σ ρ τ α β ε : Type}

/-- What a program returns that has no more steps to take. -/
def result? : Program σ ρ → Option ρ
  | .done result => some result
  | .step _ _ => none

/-- A program has a result if and only if it is done. -/
theorem result?_eq_some {program : Program σ ρ} {result : ρ} :
    program.result? = some result ↔ program = .done result := by
  cases program with
  | done own => exact ⟨fun same => congrArg done (Option.some.inj same), fun | rfl => rfl⟩
  | step write next => exact ⟨nofun, nofun⟩

def bind : Program σ ρ → (ρ → Program σ τ) → Program σ τ
  | .done result, rest => rest result
  | .step write next, rest => .step write fun state => (next state).bind rest

def map (image : ρ → τ) (program : Program σ ρ) : Program σ τ :=
  program.bind fun result => .done (image result)

/-- One atomic operation. -/
def atomic (operation : σ → ρ × σ) : Program σ ρ :=
  .step (fun state => (operation state).2) fun state => .done (operation state).1

/-- One atomic reading. -/
def read (observe : σ → ρ) : Program σ ρ := atomic fun state => (observe state, state)

/-- One atomic change. -/
def change (write : σ → σ) : Program σ Unit := atomic fun state => ((), write state)

/-- Go on with the value of a program unless it raised. -/
def andThen (first : Program σ (Except ε ρ)) (rest : ρ → Program σ (Except ε τ)) :
    Program σ (Except ε τ) :=
  first.bind fun
    | .error failure => .done (.error failure)
    | .ok value => rest value

/-- Run the body on each element in order, leaving at the first that raises. -/
def forEach (body : α → Program σ (Except ε Unit)) : List α → Program σ (Except ε Unit)
  | [] => .done (.ok ())
  | element :: rest => (body element).andThen fun _ => forEach body rest

/-- The images of the elements, leaving at the first that raises. -/
def collect (image : α → Program σ (Except ε β)) : List α → Program σ (Except ε (List β))
  | [] => .done (.ok [])
  | element :: rest =>
      (image element).andThen fun value =>
        (collect image rest).map fun others => others.map fun others => value :: others

/-- The elements that pass a test, leaving at the first whose test raises. -/
def select (test : α → Program σ (Except ε Bool)) : List α → Program σ (Except ε (List α))
  | [] => .done (.ok [])
  | element :: rest =>
      (test element).andThen fun passes =>
        (select test rest).map fun others =>
          others.map fun others => if passes then element :: others else others

section Alone

/-- What a program does when nothing else touches the state. -/
def alone : Program σ ρ → σ → ρ × σ
  | .done result, state => (result, state)
  | .step write next, state => (next state).alone (write state)

/-- Run alone, a program that is done has its result. -/
@[simp] theorem alone_done (result : ρ) (state : σ) :
    (done result : Program σ ρ).alone state = (result, state) := rfl

/-- Run alone, a step writes before what comes next. -/
@[simp] theorem alone_step (write : σ → σ) (next : σ → Program σ ρ) (state : σ) :
    (step write next).alone state = (next state).alone (write state) := rfl

/-- Run alone, programs run one after the other. -/
@[simp] theorem alone_bind (program : Program σ ρ) (rest : ρ → Program σ τ) (state : σ) :
    (program.bind rest).alone state =
      (rest (program.alone state).1).alone (program.alone state).2 := by
  induction program generalizing state with
  | done result => rfl
  | step write next ih => exact ih state (write state)

/-- Run alone, an atomic operation is performed at once. -/
@[simp] theorem alone_atomic (operation : σ → ρ × σ) (state : σ) :
    (atomic operation).alone state = operation state := rfl

/-- Run alone, a read observes the state. -/
@[simp] theorem alone_read (observe : σ → ρ) (state : σ) :
    (read observe).alone state = (observe state, state) := rfl

/-- Run alone, a change is written. -/
@[simp] theorem alone_change (write : σ → σ) (state : σ) :
    (change write).alone state = ((), write state) := rfl

end Alone

section Implements

/-- Alone, and while some condition stays, a program returns what an operation on an
image of the shared state returns, and does to the image what the operation does. -/
def Implements (image : σ → τ) (stays : σ → Prop) (program : Program σ ρ)
    (operation : τ → ρ × τ) : Prop :=
  ∀ state, stays state → (program.alone state).1 = (operation (image state)).1 ∧
    image (program.alone state).2 = (operation (image state)).2 ∧ stays (program.alone state).2

variable {image : σ → τ} {stays : σ → Prop}

/-- What is implemented may be written in another way. -/
theorem Implements.congr {program : Program σ ρ} {operation other : τ → ρ × τ}
    (implements : Implements image stays program operation)
    (same : ∀ state, operation state = other state) : Implements image stays program other :=
  funext same ▸ implements

/-- A program that is done implements what only returns. -/
theorem Implements.done (result : ρ) :
    Implements image stays (.done result) fun state => (result, state) :=
  fun _ staying => ⟨rfl, rfl, staying⟩

/-- One step implements an operation that it agrees with. -/
theorem Implements.atomic {concrete : σ → ρ × σ} {operation : τ → ρ × τ}
    (agrees : ∀ state, stays state → (concrete state).1 = (operation (image state)).1 ∧
      image (concrete state).2 = (operation (image state)).2 ∧ stays (concrete state).2) :
    Implements image stays (.atomic concrete) operation :=
  agrees

/-- A read implements what is observed of the image. -/
theorem Implements.read {observe : σ → ρ} {value : τ → ρ}
    (agrees : ∀ state, stays state → observe state = value (image state)) :
    Implements image stays (.read observe) fun state => (value state, state) :=
  .atomic fun state staying => ⟨agrees state staying, rfl, staying⟩

/-- Programs in sequence implement operations in sequence. -/
theorem Implements.bind {program : Program σ ρ} {rest : ρ → Program σ α}
    {operation : τ → ρ × τ} {next : ρ → τ → α × τ}
    (first : Implements image stays program operation)
    (second : ∀ result, Implements image stays (rest result) (next result)) :
    Implements image stays (program.bind rest)
      fun state => next (operation state).1 (operation state).2 := by
  intro state staying
  obtain ⟨returned, reached, stayed⟩ := first state staying
  rw [alone_bind]
  dsimp only
  rw [← returned, ← reached]
  exact second _ _ stayed

/-- The result may be converted. -/
theorem Implements.map {program : Program σ ρ} {operation : τ → ρ × τ}
    (first : Implements image stays program operation) (convert : ρ → α) :
    Implements image stays (program.map convert)
      fun state => (convert (operation state).1, (operation state).2) :=
  first.bind fun result => .done (convert result)

/-- Programs that go on unless they fail implement operations that do. -/
theorem Implements.andThen {program : Program σ (Except ε ρ)}
    {rest : ρ → Program σ (Except ε α)} {operation : τ → Except ε ρ × τ}
    {next : ρ → τ → Except ε α × τ}
    (first : Implements image stays program operation)
    (second : ∀ value, Implements image stays (rest value) (next value)) :
    Implements image stays (program.andThen rest) fun state =>
      match operation state with
      | (.error failure, after) => (.error failure, after)
      | (.ok value, after) => next value after := by
  intro state staying
  obtain ⟨returned, reached, stayed⟩ := first state staying
  rw [Program.andThen, alone_bind]
  dsimp only
  rcases ran : operation (image state) with ⟨failure | value, after⟩ <;>
    rw [ran] at returned reached <;> rw [returned]
  · exact ⟨rfl, reached, stayed⟩
  · obtain rfl : image (program.alone state).2 = after := reached
    exact second value _ stayed

/-- A loop of programs implements a loop of operations. -/
theorem Implements.forEach {body : α → Program σ (Except ε Unit)}
    {operation : α → τ → Except ε Unit × τ} (elements : List α)
    (each : ∀ element, Implements image stays (body element) (operation element)) :
    Implements image stays (Program.forEach body elements)
      (Loop.forEach operation elements) := by
  induction elements with
  | nil => exact .done _
  | cons element rest ih =>
      intro state staying
      have goes := (each element).andThen (fun _ => ih) state staying
      dsimp only at goes
      rw [Program.forEach, Loop.forEach]
      rcases ran : operation element (image state) with ⟨_ | _, after⟩ <;> rw [ran] at goes <;>
        exact goes

/-- Images that only read are collected in the one state. -/
theorem Implements.collect {found : α → Program σ (Except ε β)} {value : α → τ → Except ε β}
    (elements : List α)
    (reads : ∀ element, Implements image stays (found element)
      fun state => (value element state, state)) :
    Implements image stays (Program.collect found elements)
      fun state => (Loop.collect (value · state) elements, state) := by
  induction elements with
  | nil => exact .done _
  | cons element rest ih =>
      intro state staying
      obtain ⟨returned, reached, stayed⟩ := (reads element).andThen (fun first =>
        ih.map fun others => others.map fun others => first :: others) state staying
      dsimp only at returned reached ⊢
      rw [Program.collect, Loop.collect]
      cases first : value element (image state) with
      | error failure =>
          rw [first] at returned reached
          exact ⟨returned, reached, stayed⟩
      | ok value =>
          rw [first] at returned reached
          refine ⟨returned.trans ?_, reached, stayed⟩
          dsimp only
          cases Loop.collect _ rest <;> rfl

/-- Tests that only read select in the one state. -/
theorem Implements.select {test : α → Program σ (Except ε Bool)} {answer : α → τ → Except ε Bool}
    (elements : List α)
    (reads : ∀ element, Implements image stays (test element)
      fun state => (answer element state, state)) :
    Implements image stays (Program.select test elements)
      fun state => (Loop.select (answer · state) elements, state) := by
  induction elements with
  | nil => exact .done _
  | cons element rest ih =>
      intro state staying
      obtain ⟨returned, reached, stayed⟩ := (reads element).andThen (fun passes =>
        ih.map fun others => others.map fun others =>
          if passes then element :: others else others) state staying
      dsimp only at returned reached ⊢
      rw [Program.select, Loop.select]
      cases tested : answer element (image state) with
      | error failure =>
          rw [tested] at returned reached
          exact ⟨returned, reached, stayed⟩
      | ok passes =>
          rw [tested] at returned reached
          refine ⟨returned.trans ?_, reached, stayed⟩
          dsimp only
          cases Loop.select _ rest <;> rfl

end Implements

section Preserves

/-- Run alone, the program keeps a property of the state. -/
def Preserves (holds : σ → Prop) (program : Program σ ρ) : Prop :=
  ∀ state, holds state → holds (program.alone state).2

variable {holds : σ → Prop}

/-- A program that is done preserves everything. -/
theorem Preserves.done (result : ρ) : Preserves holds (.done result) := fun _ => id

/-- Programs in sequence preserve what each of them preserves. -/
theorem Preserves.bind {program : Program σ ρ} {rest : ρ → Program σ τ}
    (first : Preserves holds program) (second : ∀ result, Preserves holds (rest result)) :
    Preserves holds (program.bind rest) := by
  intro state held
  rw [alone_bind]
  exact second _ _ (first state held)

/-- Converting the result preserves what the program does. -/
theorem Preserves.map {program : Program σ ρ} (image : ρ → τ) (first : Preserves holds program) :
    Preserves holds (program.map image) :=
  first.bind fun _ => .done _

/-- A read preserves everything. -/
theorem Preserves.read (observe : σ → ρ) : Preserves holds (Program.read observe) := fun _ => id

/-- Programs that go on unless they fail preserve what each of them preserves. -/
theorem Preserves.andThen {first : Program σ (Except ε ρ)} {rest : ρ → Program σ (Except ε τ)}
    (preserves : Preserves holds first) (second : ∀ value, Preserves holds (rest value)) :
    Preserves holds (first.andThen rest) := by
  refine preserves.bind ?_
  rintro (_ | value)
  · exact .done _
  · exact second value

/-- A loop preserves what its body preserves. -/
theorem Preserves.forEach {body : α → Program σ (Except ε Unit)} (elements : List α)
    (each : ∀ element, Preserves holds (body element)) :
    Preserves holds (Program.forEach body elements) := by
  induction elements with
  | nil => exact .done _
  | cons element rest ih => exact (each element).andThen fun _ => ih

/-- Selecting preserves what each test preserves. -/
theorem Preserves.select {test : α → Program σ (Except ε Bool)} (elements : List α)
    (each : ∀ element, Preserves holds (test element)) :
    Preserves holds (Program.select test elements) := by
  induction elements with
  | nil => exact .done _
  | cons element rest ih => exact (each element).andThen fun _ => ih.map _

end Preserves

section Inert

/-- While some condition stays, no step of the program changes the state. -/
def Inert (stays : σ → Prop) : Program σ ρ → Prop
  | .done _ => True
  | .step write next => ∀ state, stays state → write state = state ∧ Inert stays (next state)

variable {stays : σ → Prop}

/-- Inert programs in sequence are inert. -/
theorem Inert.bind {program : Program σ ρ} {rest : ρ → Program σ τ}
    (first : Inert stays program) (second : ∀ result, Inert stays (rest result)) :
    Inert stays (program.bind rest) := by
  induction program with
  | done result => exact second result
  | step write next ih =>
      intro state staying
      obtain ⟨same, goes⟩ := first state staying
      exact ⟨same, ih state goes⟩

/-- An inert program is inert with another result. -/
theorem Inert.map {program : Program σ ρ} (image : ρ → τ) (first : Inert stays program) :
    Inert stays (program.map image) :=
  first.bind fun _ => trivial

/-- What goes on from a reading has to be inert for the values that can be read only. -/
theorem Inert.read_bind {observe : σ → ρ} {rest : ρ → Program σ τ}
    (second : ∀ state, stays state → Inert stays (rest (observe state))) :
    Inert stays ((Program.read observe).bind rest) :=
  fun state staying => ⟨rfl, second state staying⟩

/-- A read is inert. -/
theorem Inert.read (observe : σ → ρ) : Inert stays (Program.read observe) :=
  fun _ _ => ⟨rfl, trivial⟩

/-- Inert programs that go on unless they fail are inert. -/
theorem Inert.andThen {first : Program σ (Except ε ρ)} {rest : ρ → Program σ (Except ε τ)}
    (inert : Inert stays first) (second : ∀ value, Inert stays (rest value)) :
    Inert stays (first.andThen rest) := by
  refine inert.bind ?_
  rintro (_ | value)
  · trivial
  · exact second value

/-- Collecting is inert if taking each image is. -/
theorem Inert.collect {image : α → Program σ (Except ε β)} (elements : List α)
    (each : ∀ element, Inert stays (image element)) :
    Inert stays (Program.collect image elements) := by
  induction elements with
  | nil => trivial
  | cons element rest ih => exact (each element).andThen fun _ => ih.map _

/-- A program that is inert while a property holds keeps the property. -/
theorem Inert.preserves {program : Program σ ρ} (inert : Inert stays program) :
    Preserves stays program := by
  induction program with
  | done result => exact .done result
  | step write next ih =>
      intro state staying
      obtain ⟨same, goes⟩ := inert state staying
      rw [alone_step, same]
      exact ih state goes state staying

/-- It does not change the state that it is run in. -/
theorem Inert.unchanged {program : Program σ ρ} (inert : Inert stays program) {state : σ}
    (staying : stays state) : (program.alone state).2 = state := by
  induction program with
  | done result => rfl
  | step write next ih =>
      obtain ⟨same, goes⟩ := inert state staying
      rw [alone_step, same]
      exact ih state goes

end Inert

end Program

/-- An invariant of the shared state, and which states may follow which. -/
structure Discipline (σ : Type) where
  holds : σ → Prop
  later : σ → σ → Prop
  refl : ∀ state, later state state
  trans : ∀ {first second third}, later first second → later second third → later first third

namespace Discipline

variable {σ ρ τ α β ε : Type} (discipline : Discipline σ)

/-- A change that keeps the discipline. -/
def Allows (before after : σ) : Prop := discipline.later before after ∧ discipline.holds after

/-- A program that, after the known state, keeps the discipline in each of its steps,
whatever allowed changes precede the step, and returns what `yields` describes. -/
def Keeps (yields : ρ → σ → Prop) : Program σ ρ → σ → Prop
  | .done result, known => yields result known
  | .step write next, known =>
      ∀ state, discipline.later known state → discipline.holds state →
        discipline.Allows state (write state) ∧ Keeps yields (next state) (write state)

variable {discipline} {yields : ρ → σ → Prop} {returns : τ → σ → Prop}

/-- What a program yields may be weakened. -/
theorem Keeps.mono {weaker : ρ → σ → Prop}
    (weaken : ∀ result state, yields result state → weaker result state)
    {program : Program σ ρ} {known : σ} (keeps : discipline.Keeps yields program known) :
    discipline.Keeps weaker program known := by
  induction program generalizing known with
  | done result => exact weaken result known keeps
  | step write next ih =>
      intro state after holds
      obtain ⟨allowed, goes⟩ := keeps state after holds
      exact ⟨allowed, ih state goes⟩

/-- What is kept after a state is kept after any later one. -/
theorem Keeps.of_later (stable : ∀ result before after, discipline.later before after →
      yields result before → yields result after)
    {program : Program σ ρ} {known state : σ} (later : discipline.later known state)
    (keeps : discipline.Keeps yields program known) :
    discipline.Keeps yields program state := by
  cases program with
  | done result => exact stable result known state later keeps
  | step write next =>
      intro found after holds
      exact keeps found (discipline.trans later after) holds

/-- Programs in sequence keep a discipline if the second does from what the first yields. -/
theorem Keeps.bind {program : Program σ ρ} {rest : ρ → Program σ τ} {known : σ}
    (keeps : discipline.Keeps yields program known)
    (goesOn : ∀ result state, discipline.later known state → yields result state →
      discipline.Keeps returns (rest result) state) :
    discipline.Keeps returns (program.bind rest) known := by
  induction program generalizing known with
  | done result => exact goesOn result known (discipline.refl known) keeps
  | step write next ih =>
      intro state after holds
      obtain ⟨allowed, goes⟩ := keeps state after holds
      refine ⟨allowed, ih state goes ?_⟩
      intro result last follows
      exact goesOn result last (discipline.trans after (discipline.trans allowed.1 follows))

/-- Converting the result keeps a discipline. -/
theorem Keeps.map {program : Program σ ρ} {image : ρ → τ} {known : σ}
    (keeps : discipline.Keeps (fun result state => returns (image result) state) program known) :
    discipline.Keeps returns (program.map image) known :=
  keeps.bind fun _ _ _ yielded => yielded

/-- An atomic operation keeps the discipline when it does so in every later state. -/
theorem Keeps.atomic {operation : σ → ρ × σ} {known : σ}
    (operates : ∀ state, discipline.later known state → discipline.holds state →
      discipline.Allows state (operation state).2 ∧
        yields (operation state).1 (operation state).2) :
    discipline.Keeps yields (Program.atomic operation) known :=
  operates

/-- A read keeps a discipline and yields what holds of the state that it observes. -/
theorem Keeps.read {observe : σ → ρ} {known : σ}
    (observed : ∀ state, discipline.later known state → discipline.holds state →
      yields (observe state) state) :
    discipline.Keeps yields (Program.read observe) known :=
  Keeps.atomic fun state after holds =>
    ⟨⟨discipline.refl state, holds⟩, observed state after holds⟩

/-- A change keeps a discipline that allows it. -/
theorem Keeps.change {write : σ → σ} {known : σ} {yields : Unit → σ → Prop}
    (writes : ∀ state, discipline.later known state → discipline.holds state →
      discipline.Allows state (write state) ∧ yields () (write state)) :
    discipline.Keeps yields (Program.change write) known :=
  Keeps.atomic writes

/-- What describes a value that is returned; nothing is said of what is raised. -/
def Returns (gives : ρ → σ → Prop) : Except ε ρ → σ → Prop
  | .ok value, state => gives value state
  | .error _, _ => True

/-- Programs that go on unless they fail keep a discipline if each does from what the one
before it gives. -/
theorem Keeps.andThen {gives : ρ → σ → Prop} {first : Program σ (Except ε ρ)}
    {rest : ρ → Program σ (Except ε τ)} {known : σ}
    (keeps : discipline.Keeps (Returns gives) first known)
    (goesOn : ∀ value state, discipline.later known state → gives value state →
      discipline.Keeps (Returns returns) (rest value) state) :
    discipline.Keeps (Returns returns) (first.andThen rest) known := by
  refine keeps.bind ?_
  intro result state after yielded
  cases result with
  | error failure => trivial
  | ok value => exact goesOn value state after yielded

/-- A loop keeps a discipline that its body keeps. -/
theorem Keeps.forEach {body : α → Program σ (Except ε Unit)} {elements : List α} {known : σ}
    (keeps : ∀ element ∈ elements, ∀ state, discipline.later known state →
      discipline.Keeps (Returns fun _ _ => True) (body element) state) :
    discipline.Keeps (Returns fun _ _ => True) (Program.forEach body elements) known := by
  induction elements generalizing known with
  | nil => trivial
  | cons element rest ih =>
      rw [List.forall_mem_cons] at keeps
      refine (keeps.1 known (discipline.refl known)).andThen ?_
      intro _ state after _
      apply ih
      intro other member last follows
      exact keeps.2 other member last (discipline.trans after follows)

/-- A collection describes each of its images by what stays true of it. -/
theorem Keeps.collect {describes : α → β → σ → Prop}
    (stable : ∀ element value before after, discipline.later before after →
      describes element value before → describes element value after)
    {image : α → Program σ (Except ε β)} {elements : List α} {known : σ}
    (keeps : ∀ element ∈ elements, ∀ state, discipline.later known state →
      discipline.Keeps (Returns (describes element)) (image element) state) :
    discipline.Keeps
      (Returns fun values state => List.Forall₂ (describes · · state) elements values)
      (Program.collect image elements) known := by
  induction elements generalizing known with
  | nil => exact List.Forall₂.nil
  | cons element rest ih =>
      rw [List.forall_mem_cons] at keeps
      refine (keeps.1 known (discipline.refl known)).andThen ?_
      intro value state after described
      have goes := ih fun other member last follows =>
        keeps.2 other member last (discipline.trans after follows)
      refine goes.bind ?_
      intro others last follows collected
      cases others with
      | error failure => trivial
      | ok values => exact .cons (stable _ _ _ _ follows described) collected

/-- A selection whose tests keep the discipline is a part of the list. -/
theorem Keeps.select {test : α → Program σ (Except ε Bool)} {elements : List α} {known : σ}
    (keeps : ∀ element ∈ elements, ∀ state, discipline.later known state →
      discipline.Keeps (Returns fun _ _ => True) (test element) state) :
    discipline.Keeps (Returns fun selected _ => selected.Sublist elements)
      (Program.select test elements) known := by
  induction elements generalizing known with
  | nil => exact List.Sublist.refl []
  | cons element rest ih =>
      rw [List.forall_mem_cons] at keeps
      refine (keeps.1 known (discipline.refl known)).andThen ?_
      intro passes state after _
      have goes := ih fun other member last follows =>
        keeps.2 other member last (discipline.trans after follows)
      refine goes.bind ?_
      intro others last follows selected
      cases others with
      | error failure => trivial
      | ok values =>
          cases passes with
          | true => exact selected.cons_cons element
          | false => exact selected.cons element

/-- What is yielded is yielded after the state it was known from. -/
theorem Keeps.since {program : Program σ ρ} {base known : σ} (later : discipline.later base known)
    (keeps : discipline.Keeps yields program known) :
    discipline.Keeps (fun result state => discipline.later base state ∧ yields result state)
      program known := by
  induction program generalizing known with
  | done result => exact ⟨later, keeps⟩
  | step write next ih =>
      intro state after holds
      obtain ⟨allowed, goes⟩ := keeps state after holds
      exact ⟨allowed, ih state (discipline.trans later (discipline.trans after allowed.1)) goes⟩

end Discipline

section Pool

variable {Thread σ : Type} {ρ : Thread → Type}

/-- The shared state and what each thread has left to do. -/
structure Pool (σ : Type) (ρ : Thread → Type) where
  shared : σ
  program : (thread : Thread) → Program σ (ρ thread)

variable [DecidableEq Thread]

namespace Pool

/-- A thread that has not returned takes its next step. -/
def advance (pool : Pool σ ρ) (thread : Thread) : Option (Pool σ ρ) :=
  match pool.program thread with
  | .done _ => none
  | .step write next => some {
      shared := write pool.shared
      program := Function.update pool.program thread (next pool.shared) }

/-- A thread moves, or the shared state changes from outside. -/
inductive Moves (outside : σ → σ → Prop) (before : Pool σ ρ) : Option Thread → Pool σ ρ → Prop
  | thread {thread : Thread} {after : Pool σ ρ} (advanced : before.advance thread = some after) :
      Moves outside before (some thread) after
  | outside {shared : σ} (changed : outside before.shared shared) :
      Moves outside before none { before with shared := shared }

/-- What one thread's step does to the pool. -/
theorem advance_cases {before after : Pool σ ρ} {thread : Thread}
    (advanced : before.advance thread = some after) :
    ∃ write next, before.program thread = .step write next ∧
      after.shared = write before.shared ∧
      after.program = Function.update before.program thread (next before.shared) := by
  unfold advance at advanced
  split at advanced
  · cases advanced
  · rename_i write next stepping
    obtain rfl := Option.some.inj advanced
    exact ⟨write, next, stepping, rfl, rfl⟩

/-- A pool under a discipline: the invariant holds, and every thread keeps the
discipline from some state it knows. -/
structure Disciplined (discipline : Discipline σ) (yields : (thread : Thread) → ρ thread → σ → Prop)
    (pool : Pool σ ρ) : Prop where
  holds : discipline.holds pool.shared
  keeps : ∀ thread, ∃ known, discipline.later known pool.shared ∧
    discipline.Keeps (yields thread) (pool.program thread) known

/-- A move keeps a pool under its discipline, and leads to a later state. -/
theorem Disciplined.moves {discipline : Discipline σ}
    {yields : (thread : Thread) → ρ thread → σ → Prop} {outside : σ → σ → Prop}
    (outsideKeeps : ∀ before after, discipline.holds before → outside before after →
      discipline.Allows before after)
    {before after : Pool σ ρ} {mover : Option Thread}
    (disciplined : before.Disciplined discipline yields)
    (moved : Moves outside before mover after) :
    discipline.later before.shared after.shared ∧ after.Disciplined discipline yields := by
  cases moved with
  | outside changed =>
      obtain ⟨later, holds⟩ := outsideKeeps _ _ disciplined.holds changed
      refine ⟨later, holds, ?_⟩
      intro thread
      obtain ⟨known, earlier, keeps⟩ := disciplined.keeps thread
      exact ⟨known, discipline.trans earlier later, keeps⟩
  | @thread mover after advanced =>
      obtain ⟨write, next, stepping, shared, program⟩ := advance_cases advanced
      obtain ⟨known, earlier, keeps⟩ := disciplined.keeps mover
      rw [stepping] at keeps
      obtain ⟨⟨later, holds⟩, goes⟩ := keeps before.shared earlier disciplined.holds
      rw [← shared] at later holds goes
      refine ⟨later, holds, ?_⟩
      intro thread
      by_cases same : thread = mover
      · subst same
        refine ⟨after.shared, discipline.refl _, ?_⟩
        rw [program, Function.update_self]
        exact goes
      · obtain ⟨other, before, continues⟩ := disciplined.keeps thread
        refine ⟨other, discipline.trans before later, ?_⟩
        rw [program, Function.update_of_ne same]
        exact continues

/-- **Disciplined programs interleave safely.** When each program keeps the
discipline from the start, then after any interleaving the invariant holds, the
state is later than the start, and what a thread has returned was described by its
postcondition in a state no later than the present one. -/
theorem interleaving {discipline : Discipline σ}
    {yields : (thread : Thread) → ρ thread → σ → Prop} {outside : σ → σ → Prop}
    (outsideKeeps : ∀ before after, discipline.holds before → outside before after →
      discipline.Allows before after)
    {start final : Pool σ ρ} {movers : List (Option Thread)}
    (holds : discipline.holds start.shared)
    (keeps : ∀ thread, discipline.Keeps (yields thread) (start.program thread) start.shared)
    (run : Run (Moves outside) start movers final) :
    discipline.holds final.shared ∧ discipline.later start.shared final.shared ∧
      ∀ thread result, final.program thread = .done result →
        ∃ known, discipline.later start.shared known ∧ discipline.later known final.shared ∧
          yields thread result known := by
  obtain ⟨later, holding, kept⟩ := run.invariant
    (fun pool => discipline.later start.shared pool.shared ∧
      pool.Disciplined discipline fun thread result state =>
        discipline.later start.shared state ∧ yields thread result state)
    ⟨discipline.refl _, holds, fun thread =>
      ⟨start.shared, discipline.refl _, (keeps thread).since (discipline.refl _)⟩⟩
    (by
      intro before mover after disciplined moved
      obtain ⟨later, kept⟩ := disciplined.2.moves outsideKeeps moved
      exact ⟨discipline.trans disciplined.1 later, kept⟩)
  refine ⟨holding, later, ?_⟩
  intro thread result returned
  obtain ⟨known, earlier, yielded⟩ := kept thread
  rw [returned] at yielded
  exact ⟨known, yielded.1, earlier, yielded.2⟩

/-- The moves of the others leave a thread's program alone. -/
theorem program_of_idle {outside : σ → σ → Prop} {start final : Pool σ ρ}
    {movers : List (Option Thread)} {thread : Thread} (idle : some thread ∉ movers)
    (run : Run (Moves outside) start movers final) :
    final.program thread = start.program thread := by
  induction run with
  | nil => rfl
  | snoc earlier moved ih =>
      rw [List.mem_append, List.mem_singleton, not_or] at idle
      rw [← ih idle.1]
      cases moved with
      | outside changed => rfl
      | thread advanced =>
          obtain ⟨write, next, _, _, program⟩ := advance_cases advanced
          rw [program]
          exact Function.update_of_ne (fun same => idle.2 (congrArg some same)) _ _

/-- **What a thread returns is described from its first step on.** A thread that has
not moved yet, in the course of disciplined programs, returns what its postcondition
describes relative to the state it starts from, whatever the others do meanwhile. -/
theorem interleaving_since {discipline : Discipline σ} {outside : σ → σ → Prop}
    (outsideKeeps : ∀ before after, discipline.holds before → outside before after →
      discipline.Allows before after)
    {start middle final : Pool σ ρ} {earlier later : List (Option Thread)}
    (holds : discipline.holds start.shared)
    (keeps : ∀ thread,
      discipline.Keeps (fun _ _ => True) (start.program thread) start.shared)
    {thread : Thread} {yields : σ → ρ thread → σ → Prop}
    (own : ∀ base, discipline.Keeps (yields base) (start.program thread) base)
    (run : Run (Moves outside) start earlier middle) (idle : some thread ∉ earlier)
    (goesOn : Run (Moves outside) middle later final) {result : ρ thread}
    (returned : final.program thread = .done result) :
    ∃ known, discipline.later middle.shared known ∧ discipline.later known final.shared ∧
      yields middle.shared result known := by
  have disciplined : middle.Disciplined discipline fun _ _ _ => True :=
    run.invariant _
      (show start.Disciplined discipline fun _ _ _ => True from
        ⟨holds, fun thread => ⟨_, discipline.refl _, keeps thread⟩⟩)
      fun _ _ _ kept moved => (kept.moves outsideKeeps moved).2
  have keepsOn (other : Thread) : discipline.Keeps
      (Function.update (fun _ _ _ => True) thread (yields middle.shared) other)
      (middle.program other) middle.shared := by
    by_cases same : other = thread
    · subst same
      rw [Function.update_self, program_of_idle idle run]
      exact own middle.shared
    · rw [Function.update_of_ne same]
      obtain ⟨known, before, kept⟩ := disciplined.keeps other
      exact kept.of_later (fun _ _ _ _ _ => trivial) before
  obtain ⟨_, _, described⟩ := interleaving outsideKeeps disciplined.holds keepsOn goesOn
  obtain ⟨known, after, before, yielded⟩ := described thread result returned
  rw [Function.update_self] at yielded
  exact ⟨known, after, before, yielded⟩

section Without

variable {quiet : Thread → Bool} {before after rest : Pool σ ρ} {thread : Thread}

/-- The moves that are left when some threads are taken out. -/
def without (quiet : Thread → Bool) (movers : List (Option Thread)) : List (Option Thread) :=
  movers.filter fun mover => mover.all fun thread => !quiet thread

omit [DecidableEq Thread] in
private theorem without_append_outside (movers : List (Option Thread)) :
    without quiet (movers ++ [none]) = without quiet movers ++ [none] := by
  rw [without, List.filter_append]
  rfl

omit [DecidableEq Thread] in
private theorem without_append_quiet (silent : quiet thread = true)
    (movers : List (Option Thread)) :
    without quiet (movers ++ [some thread]) = without quiet movers := by
  simp [without, silent]

omit [DecidableEq Thread] in
private theorem without_append_loud (loud : quiet thread = false) (movers : List (Option Thread)) :
    without quiet (movers ++ [some thread]) = without quiet movers ++ [some thread] := by
  simp [without, loud]

/-- Two pools differ in what the quiet threads have left to do only. -/
structure AgreeExcept (quiet : Thread → Bool) (rest pool : Pool σ ρ) : Prop where
  shared : rest.shared = pool.shared
  program : ∀ thread, quiet thread = false → rest.program thread = pool.program thread

/-- A thread that is not quiet makes the same step in both pools. -/
theorem AgreeExcept.advance (agree : AgreeExcept quiet rest before) (loud : quiet thread = false)
    (advanced : before.advance thread = some after) :
    ∃ next, rest.advance thread = some next ∧ AgreeExcept quiet next after := by
  obtain ⟨write, next, stepping, written, program⟩ := advance_cases advanced
  refine ⟨⟨write rest.shared, Function.update rest.program thread (next rest.shared)⟩, ?_, ?_, ?_⟩
  · rw [Pool.advance, agree.program thread loud, stepping]
  · rw [written, agree.shared]
  · intro other otherLoud
    rw [program, agree.shared]
    dsimp only
    by_cases same : other = thread
    · subst same
      rw [Function.update_self, Function.update_self]
    · rw [Function.update_of_ne same, Function.update_of_ne same, agree.program other otherLoud]

/-- The step of an inert thread changes nothing but what it has left to do. -/
theorem advance_of_inert {stays : σ → Prop} (staying : stays before.shared)
    (inert : (before.program thread).Inert stays) (advanced : before.advance thread = some after) :
    after.shared = before.shared ∧ (after.program thread).Inert stays ∧
      ∀ other, other ≠ thread → after.program other = before.program other := by
  obtain ⟨write, next, stepping, written, program⟩ := advance_cases advanced
  rw [stepping] at inert
  obtain ⟨unchanged, goesOn⟩ := inert before.shared staying
  refine ⟨written.trans unchanged, ?_, ?_⟩
  · rw [program, Function.update_self]
    exact goesOn
  · intro other different
    rw [program, Function.update_of_ne different]

/-- **Inert threads can be taken out.** The other threads and the changes from outside
make the same run without them: the shared state is the same after it, and so is what
each other thread has left to do. -/
theorem exists_run_without {discipline : Discipline σ}
    {yields : (thread : Thread) → ρ thread → σ → Prop} {outside : σ → σ → Prop}
    (outsideKeeps : ∀ before after, discipline.holds before → outside before after →
      discipline.Allows before after)
    {stays : σ → Prop}
    (stable : ∀ before after, discipline.later before after → stays before → stays after)
    {start final : Pool σ ρ} {movers : List (Option Thread)}
    (disciplined : start.Disciplined discipline yields) (staying : stays start.shared)
    (inert : ∀ thread, quiet thread = true → (start.program thread).Inert stays)
    (run : Run (Moves outside) start movers final) :
    ∃ rest, Run (Moves outside) start (without quiet movers) rest ∧
      AgreeExcept quiet rest final := by
  suffices carried : final.Disciplined discipline yields ∧ stays final.shared ∧
      (∀ thread, quiet thread = true → (final.program thread).Inert stays) ∧
      ∃ rest, Run (Moves outside) start (without quiet movers) rest ∧
        AgreeExcept quiet rest final from carried.2.2.2
  induction run with
  | nil => exact ⟨disciplined, staying, inert, start, .nil, rfl, fun _ _ => rfl⟩
  | @snoc movers mover before after earlier moved ih =>
      obtain ⟨disciplined, staying, inert, rest, goes, agree⟩ := ih
      obtain ⟨later, kept⟩ := disciplined.moves outsideKeeps moved
      refine ⟨kept, stable _ _ later staying, ?_⟩
      cases moved with
      | @outside changedTo changed =>
          rw [without_append_outside]
          exact ⟨inert, { rest with shared := changedTo },
            .snoc goes (.outside (agree.shared ▸ changed)), rfl, agree.program⟩
      | @thread mover after advanced =>
          cases silent : quiet mover with
          | true =>
              obtain ⟨unchanged, own, others⟩ :=
                advance_of_inert staying (inert mover silent) advanced
              rw [without_append_quiet silent]
              refine ⟨?_, rest, goes, agree.shared.trans unchanged.symm, ?_⟩
              · intro thread quietThread
                by_cases same : thread = mover
                · exact same ▸ own
                · exact others thread same ▸ inert thread quietThread
              · intro thread loud
                have different : thread ≠ mover := by
                  rintro rfl
                  cases loud.symm.trans silent
                rw [others thread different, agree.program thread loud]
          | false =>
              obtain ⟨next, advancedToo, agrees⟩ := agree.advance silent advanced
              rw [without_append_loud silent]
              refine ⟨?_, next, .snoc goes (.thread advancedToo), agrees⟩
              intro thread quietThread
              obtain ⟨_, _, _, _, program⟩ := advance_cases advanced
              have different : thread ≠ mover := by
                rintro rfl
                cases quietThread.symm.trans silent
              rw [program, Function.update_of_ne different]
              exact inert thread quietThread

end Without

/-- What a schedule of the threads comes to is a run. -/
theorem run_of_schedule (outside : σ → σ → Prop) {start final : Pool σ ρ} {schedule : List Thread}
    (computed : schedule.foldlM advance start = some final) :
    Run (Moves outside) start (schedule.map some) final := by
  have run : Run (ofFun fun (pool : Pool σ ρ) (mover : Option Thread) => mover.bind pool.advance)
      start (schedule.map some) final := by
    apply Run.of_foldlM
    rwa [List.foldlM_map]
  refine run.mono ?_
  intro before mover after stepped
  cases mover with
  | none => cases stepped
  | some thread => exact .thread stepped

/-- A thread that moves alone from some point on returns what its program does alone. -/
theorem run_alone (outside : σ → σ → Prop) (start : Pool σ ρ) (thread : Thread) :
    ∃ movers final, (∀ mover ∈ movers, mover = some thread) ∧
      Run (Moves outside) start movers final ∧
      final.shared = ((start.program thread).alone start.shared).2 ∧
      final.program = Function.update start.program thread
        (.done ((start.program thread).alone start.shared).1) := by
  generalize stands : start.program thread = program
  induction program generalizing start with
  | done result =>
      refine ⟨[], start, nofun, .nil, rfl, ?_⟩
      rw [Program.alone_done, ← stands, Function.update_eq_self]
  | step write next ih =>
      obtain ⟨after, advanced⟩ : ∃ after, start.advance thread = some after := by
        unfold advance
        rw [stands]
        exact ⟨_, rfl⟩
      obtain ⟨otherWrite, otherNext, stepping, shared, program⟩ := advance_cases advanced
      rw [stands] at stepping
      obtain ⟨rfl, rfl⟩ := Program.step.inj stepping
      have goesOn : after.program thread = next start.shared := by
        rw [program, Function.update_self]
      obtain ⟨movers, final, own, run, reached, returned⟩ := ih start.shared after goesOn
      refine ⟨some thread :: movers, final, ?_, ?_, ?_, ?_⟩
      · rintro mover (_ | ⟨_, member⟩)
        · rfl
        · exact own mover member
      · exact (Run.snoc .nil (.thread advanced)).append run
      · rw [reached, shared]
        rfl
      · rw [returned, program, Function.update_idem, shared]
        rfl

end Pool

end Pool

end Foundation.Threads
