import Mathlib.Data.List.Basic

/-!
# Loops that leave at the first failure

A loop runs its body on the elements of a list in order, threads a state through
the runs and leaves at the first one that fails; what a failing run did to the
state stays done. When failing is a property of the element alone, the elements
the loop reaches are a prefix of the list that can be read off beforehand
(`reached`), and so is everything the runs append to an observable log. The
comprehensions are the loops that build a list in the same way.
-/

namespace Foundation.Loop

variable {α σ ε τ : Type*}

/-- Run the body on each element in order, leaving at the first that fails. -/
def forEach (body : α → σ → Except ε Unit × σ) : List α → σ → Except ε Unit × σ
  | [], state => (.ok (), state)
  | element :: rest, state =>
      match body element state with
      | (.ok _, state) => forEach body rest state
      | (.error failure, state) => (.error failure, state)

/-- The elements up to the first one that stops the loop, which is included. -/
def reached (stops : α → Bool) : List α → List α
  | [] => []
  | element :: rest => if stops element then [element] else element :: reached stops rest

section Reached

variable {stops : α → Bool}

/-- What a loop reaches are the first of the elements. -/
theorem reached_prefix (elements : List α) : reached stops elements <+: elements := by
  induction elements with
  | nil => exact List.prefix_refl _
  | cons element rest ih =>
      unfold reached
      split
      · exact ⟨rest, rfl⟩
      · exact (List.prefix_cons_inj element).mpr ih

/-- The whole list is reached exactly when only its last element may stop the loop. -/
theorem reached_eq_self_iff {elements : List α} :
    reached stops elements = elements ↔ ∀ element ∈ elements.dropLast, stops element = false := by
  induction elements with
  | nil => simp [reached]
  | cons element rest ih =>
      cases rest with
      | nil => simp [reached]
      | cons next rest =>
          rw [List.dropLast_cons_cons, List.forall_mem_cons, ← ih, reached]
          cases stopped : stops element <;> simp

end Reached

section Body

variable {body : α → σ → Except ε Unit × σ} {stops : α → Bool}

/-- A step that succeeds is followed by the rest. -/
theorem forEach_cons_of_ok {element : α} {rest : List α} {state next : σ}
    (ran : body element state = (.ok (), next)) :
    forEach body (element :: rest) state = forEach body rest next := by
  rw [forEach, ran]

/-- A step that fails is the last. -/
theorem forEach_cons_of_error {element : α} {rest : List α} {state next : σ} {failure : ε}
    (ran : body element state = (.error failure, next)) :
    forEach body (element :: rest) state = (.error failure, next) := by
  rw [forEach, ran]

/-- A loop whose body never fails comes to its end. -/
theorem forEach_eq_ok {elements : List α}
    (goes : ∀ element ∈ elements, ∀ state, (body element state).1.isOk = true) (state : σ) :
    ∃ next, forEach body elements state = (.ok (), next) := by
  induction elements generalizing state with
  | nil => exact ⟨state, rfl⟩
  | cons element rest ih =>
      rw [List.forall_mem_cons] at goes
      have running := goes.1 state
      rcases ran : body element state with ⟨_ | _, next⟩ <;> rw [ran] at running
      · cases running
      · rw [forEach_cons_of_ok ran]
        exact ih goes.2 next

/-- What each run appends to a log, the loop appends for the elements it reaches. -/
theorem forEach_log (log : σ → List τ) (emits : α → List τ) {elements : List α}
    (stopping : ∀ element ∈ elements, ∀ state, (body element state).1.isOk = !stops element)
    (logging : ∀ element ∈ elements, ∀ state,
      log (body element state).2 = log state ++ emits element) (state : σ) :
    log (forEach body elements state).2 =
      log state ++ (reached stops elements).flatMap emits := by
  induction elements generalizing state with
  | nil => simp [forEach, reached]
  | cons element rest ih =>
      rw [List.forall_mem_cons] at stopping logging
      have stopped := stopping.1 state
      have logged := logging.1 state
      rcases ran : body element state with ⟨_ | _, next⟩ <;> rw [ran] at stopped logged
      · have stops : stops element = true := by
          simpa [Except.isOk, Except.toBool] using stopped
        rw [forEach_cons_of_error ran, logged, reached, if_pos stops, List.flatMap_singleton]
      · have goes : stops element = false := by
          simpa [Except.isOk, Except.toBool] using stopped
        rw [forEach_cons_of_ok ran, ih stopping.2 logging.2, logged, reached, goes,
          if_neg Bool.false_ne_true, List.flatMap_cons, List.append_assoc]

/-- An observation that no run of the listed elements changes is unchanged. -/
theorem forEach_frame {β : Type*} (observe : σ → β) (elements : List α)
    (frame : ∀ element ∈ elements, ∀ state, observe (body element state).2 = observe state)
    (state : σ) : observe (forEach body elements state).2 = observe state := by
  induction elements generalizing state with
  | nil => rfl
  | cons element rest ih =>
      rw [List.forall_mem_cons] at frame
      have unchanged := frame.1 state
      rcases ran : body element state with ⟨_ | _, next⟩ <;> rw [ran] at unchanged
      · rw [forEach_cons_of_error ran]
        exact unchanged
      · rw [forEach_cons_of_ok ran, ih frame.2]
        exact unchanged

/-- The loop over a list whose earlier part stops nowhere goes on with its later part. -/
theorem forEach_append {before : List α}
    (goes : ∀ element ∈ before, ∀ state, (body element state).1.isOk = true) (after : List α)
    (state : σ) :
    forEach body (before ++ after) state = forEach body after (forEach body before state).2 := by
  induction before generalizing state with
  | nil => rfl
  | cons element rest ih =>
      rw [List.forall_mem_cons] at goes
      have running := goes.1 state
      rcases ran : body element state with ⟨_ | _, next⟩ <;> rw [ran] at running
      · cases running
      · rw [List.cons_append, forEach_cons_of_ok ran, forEach_cons_of_ok ran, ih goes.2]

end Body

section Comprehension

universe u

variable {α β : Type u} {ε : Type*}

/-- A sequence that succeeds has succeeded in its first part. -/
theorem bind_eq_ok {first : Except ε α} {next : α → Except ε β} {result : β} :
    first >>= next = .ok result ↔ ∃ value, first = .ok value ∧ next value = .ok result := by
  cases first with
  | error failure => exact iff_of_false nofun nofun
  | ok value =>
      constructor
      · exact fun returned => ⟨value, rfl, returned⟩
      · rintro ⟨_, ⟨⟩, returned⟩
        exact returned

/-- The image of an outcome is a value if and only if the outcome was one. -/
theorem map_eq_ok {first : Except ε α} {image : α → β} {result : β} :
    first.map image = .ok result ↔ ∃ value, first = .ok value ∧ image value = result := by
  cases first with
  | error failure => exact iff_of_false nofun nofun
  | ok value =>
      constructor
      · exact fun returned => ⟨value, rfl, Except.ok.inj returned⟩
      · rintro ⟨_, ⟨⟩, rfl⟩
        rfl

/-- The elements that pass a test which may fail, as a comprehension selects them. -/
def select (test : α → Except ε Bool) : List α → Except ε (List α)
  | [] => .ok []
  | element :: rest =>
      match test element with
      | .error failure => .error failure
      | .ok passes => do
          let others ← select test rest
          return if passes then element :: others else others

/-- Where the tests succeed, a selection filters by their answers. -/
theorem select_eq_filter {test : α → Except ε Bool} {passes : α → Bool} {elements : List α}
    (answers : ∀ element ∈ elements, test element = .ok (passes element)) :
    select test elements = .ok (elements.filter passes) := by
  induction elements with
  | nil => rfl
  | cons element rest ih =>
      rw [List.forall_mem_cons] at answers
      rw [select, answers.1, ih answers.2, List.filter_cons]
      rfl

/-- A selection that succeeds filters by the answers it got. -/
theorem select_eq_ok {test : α → Except ε Bool} {elements selected : List α}
    (chosen : select test elements = .ok selected) :
    selected = elements.filter fun element => (test element).toOption.getD false := by
  induction elements generalizing selected with
  | nil => exact (Except.ok.inj chosen).symm
  | cons element rest ih =>
      rw [select] at chosen
      cases tested : test element with
      | error failure => rw [tested] at chosen; cases chosen
      | ok passes =>
          rw [tested] at chosen
          obtain ⟨following, others, returned⟩ := bind_eq_ok.mp chosen
          obtain rfl := Except.ok.inj returned
          rw [List.filter_cons, tested, ← ih others]
          rfl

/-- What is selected keeps the order of the elements. -/
theorem select_sublist {test : α → Except ε Bool} {elements selected : List α}
    (chosen : select test elements = .ok selected) : selected.Sublist elements := by
  rw [select_eq_ok chosen]
  exact List.filter_sublist

/-- The images under a function which may fail, in order. -/
def collect (image : α → Except ε β) : List α → Except ε (List β)
  | [] => .ok []
  | element :: rest => do
      let value ← image element
      let others ← collect image rest
      return value :: others

/-- A collection succeeds exactly when every image exists. -/
theorem collect_isOk (image : α → Except ε β) (elements : List α) :
    (collect image elements).isOk = elements.all fun element => (image element).isOk := by
  induction elements with
  | nil => rfl
  | cons element rest ih =>
      rw [List.all_cons, ← ih, collect]
      cases image element with
      | error failure => rfl
      | ok value => cases collect image rest <;> rfl

/-- What is collected from a list begins with the image of its first element. -/
theorem collect_cons_eq_ok {image : α → Except ε β} {element : α} {rest : List α}
    {values : List β} (collected : collect image (element :: rest) = .ok values) :
    ∃ value others, image element = .ok value ∧ collect image rest = .ok others ∧
      values = value :: others := by
  obtain ⟨value, first, later⟩ := bind_eq_ok.mp collected
  obtain ⟨others, following, returned⟩ := bind_eq_ok.mp later
  exact ⟨value, others, first, following, (Except.ok.inj returned).symm⟩

/-- A collected list has the image of each element in its place. -/
theorem collect_forall₂ {image : α → Except ε β} {elements : List α} {values : List β}
    (collected : collect image elements = .ok values) :
    List.Forall₂ (fun element value => image element = .ok value) elements values := by
  induction elements generalizing values with
  | nil =>
      obtain rfl := Except.ok.inj collected
      exact .nil
  | cons element rest ih =>
      obtain ⟨value, others, first, following, rfl⟩ := collect_cons_eq_ok collected
      exact .cons first (ih following)

/-- What each image preserves of its element, the collected list preserves. -/
theorem collect_map {γ : Type*} {image : α → Except ε β} {observe : β → γ} {expected : α → γ}
    (preserved : ∀ element value, image element = .ok value → observe value = expected element)
    {elements : List α} {values : List β} (collected : collect image elements = .ok values) :
    values.map observe = elements.map expected := by
  induction elements generalizing values with
  | nil =>
      obtain rfl := Except.ok.inj collected
      rfl
  | cons element rest ih =>
      obtain ⟨value, others, first, following, rfl⟩ := collect_cons_eq_ok collected
      rw [List.map_cons, List.map_cons, preserved element value first, ih following]

end Comprehension

section Gathering

variable {ι : Type*} {take : ι → Option β}

/-- A collector that takes what it wants from what a number of readings return, and fails
when a reading does. -/
structure Gathers (take : ι → Option β) (collector : Except ε (List β))
    (readings : List (Except ε (List ι))) : Prop where
  isOk : collector.isOk = readings.all Except.isOk
  mem : ∀ values, collector = .ok values → ∀ value, value ∈ values ↔
    ∃ reading ∈ readings, ∃ items, reading = .ok items ∧ ∃ item ∈ items, take item = some value

/-- A collector that takes what it wants from one reading. -/
theorem Gathers.single (take : ι → Option β) (reading : Except ε (List ι)) :
    Gathers take (reading.map (List.filterMap take)) [reading] where
  isOk := by cases reading <;> rfl
  mem values returned value := by
    cases reading with
    | error failure => cases returned
    | ok items =>
        obtain rfl := Except.ok.inj returned
        simp

/-- Nothing is gathered from nothing. -/
theorem Gathers.nil : Gathers take (.ok [] : Except ε (List β)) [] where
  isOk := rfl
  mem values returned value := by
    obtain rfl := Except.ok.inj returned
    simp

/-- A collector after another. -/
theorem Gathers.append {first second : Except ε (List β)}
    {before after : List (Except ε (List ι))} (left : Gathers take first before)
    (right : Gathers take second after) :
    Gathers take (do return (← first) ++ (← second)) (before ++ after) where
  isOk := by
    rw [List.all_append, ← left.isOk, ← right.isOk]
    cases first with
    | error failure => rfl
    | ok values => cases second <;> rfl
  mem values returned value := by
    obtain ⟨own, early, later⟩ := bind_eq_ok.mp returned
    obtain ⟨others, late, appended⟩ := bind_eq_ok.mp later
    obtain rfl := Except.ok.inj appended
    rw [List.mem_append, left.mem own early, right.mem others late]
    simp only [List.mem_append, or_and_right, exists_or]

/-- Collectors one after another. -/
theorem Gathers.collect {image : α → Except ε (List β)}
    {readings : α → List (Except ε (List ι))} {elements : List α}
    (each : ∀ element ∈ elements, Gathers take (image element) (readings element)) :
    Gathers take ((Loop.collect image elements).map List.flatten)
      (elements.flatMap readings) := by
  induction elements with
  | nil => exact Gathers.nil
  | cons element rest ih =>
      rw [List.forall_mem_cons] at each
      have both := each.1.append (ih each.2)
      rw [List.flatMap_cons]
      convert both using 1
      rw [Loop.collect]
      cases image element with
      | error failure => rfl
      | ok values => cases Loop.collect image rest <;> rfl

end Gathering

end Foundation.Loop
