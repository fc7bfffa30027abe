import BiothingsPulse.Foundation.HtmlTokenizer

/-!
# Templates of HTML

HTML that is put together from markup and values. A scan of the markup alone tells where each
value stands; where text may stand there and the value is read as text, it tells the state
after the whole, whatever the values are.
-/

namespace Foundation.HtmlTokenizer

/-- A piece of a template. -/
inductive Piece (Value : Type*) where
  | markup (text : String)
  | value (value : Value)

variable {Value : Type*}

section Scan

def Piece.written (text : Value → List Char) : Piece Value → List Char
  | .markup fixed => fixed.toList
  | .value filled => text filled

/-- The template with its values written out. -/
def written (text : Value → List Char) (html : List (Piece Value)) : List Char :=
  html.flatMap (Piece.written text)

/-- The state after a value, if it stands where text may stand. -/
def scanValue : State → Option State
  | .text context => if context.isQuotable then some (.text context) else none
  | .reference _ _ => none
  | .markup _ => none

def scanPiece (state : State) : Piece Value → Option State
  | .markup markup => some (run state markup.toList)
  | .value _ => scanValue state

/-- The state after a template, from its markup alone. -/
def scan (state : State) (html : List (Piece Value)) : Option State := html.foldlM scanPiece state

private theorem scan_append (state : State) (before after : List (Piece Value)) :
    scan state (before ++ after) = (scan state before).bind fun between => scan between after :=
  List.foldlM_append

private theorem scan_cons (state : State) (piece : Piece Value) (rest : List (Piece Value)) :
    scan state (piece :: rest) = (scanPiece state piece).bind fun between => scan between rest :=
  List.foldlM_cons

private theorem scanValue_eq_some {state after : State} (scanned : scanValue state = some after) :
    ∃ context : Context, context.isQuotable = true ∧ state = .text context ∧ after = state := by
  cases state with
  | text context =>
      obtain ⟨quotable, same⟩ := Option.ite_none_right_eq_some.mp scanned
      exact ⟨context, quotable, rfl, (Option.some.inj same).symm⟩
  | reference stage context => cases scanned
  | markup markup => cases scanned

/-- The characters of the template's markup, piece by piece; a value has none of its own. -/
inductive Spelled : List (Piece Value) → List (Option (List Char)) → Prop where
  | nil : Spelled [] []
  | markup {rest : List (Piece Value)} {spelling : List (Option (List Char))}
      (characters : List Char) :
      Spelled rest spelling →
        Spelled (.markup (String.ofList characters) :: rest) (some characters :: spelling)
  | value {rest : List (Piece Value)} {spelling : List (Option (List Char))} (value : Value) :
      Spelled rest spelling → Spelled (.value value :: rest) (none :: spelling)

/-- The scan, of characters that are at hand. -/
def scanSpelling (state : State) : List (Option (List Char)) → Option State
  | [] => some state
  | some characters :: rest => scanSpelling (run state characters) rest
  | none :: rest => (scanValue state).bind fun after => scanSpelling after rest

/-- Where the values end up depends on the spelling of a template alone. -/
theorem scan_eq_scanSpelling {html : List (Piece Value)} {spelling : List (Option (List Char))}
    (spelled : Spelled html spelling) (state : State) :
    scan state html = scanSpelling state spelling := by
  induction spelled generalizing state with
  | nil => rfl
  | markup characters spelled ih =>
      rw [scan_cons, scanPiece, String.toList_ofList, Option.bind_some, ih]
      rfl
  | value value spelled ih =>
      rw [scan_cons, scanPiece, scanSpelling]
      exact congrArg _ (funext ih)

end Scan

/-- Wherever text may stand, the text is read as such. -/
def Quotable (text : List Char) : Prop :=
  ∀ context : Context, context.isQuotable = true → Within context text

section Flows

variable {text : Value → List Char} {state after : State}
  {html first second : List (Piece Value)}

/-- From the one state the tokenizer goes through the template to the other, and reads every
value as text. -/
structure Flows (text : Value → List Char) (state : State) (html : List (Piece Value))
    (after : State) : Prop where
  scanned : scan state html = some after
  quotable : ∀ value, Piece.value value ∈ html → Quotable (text value)

/-- Without text the tokenizer stays where it is. -/
theorem Flows.nil (state : State) : Flows text state [] state where
  scanned := rfl
  quotable _ inside := absurd inside List.not_mem_nil

/-- Texts that flow into each other flow in one. -/
theorem Flows.append (between : State) (before : Flows text state first between)
    (next : Flows text between second after) : Flows text state (first ++ second) after where
  scanned := by rw [scan_append, before.scanned, Option.bind_some, next.scanned]
  quotable value inside := by
    obtain early | late := List.mem_append.mp inside
    · exact before.quotable value early
    · exact next.quotable value late

/-- Templates that lead back to the state, one after another. -/
theorem Flows.flatMap {Item : Type*} {items : List Item} {template : Item → List (Piece Value)}
    (each : ∀ item ∈ items, Flows text state (template item) state) :
    Flows text state (items.flatMap template) state := by
  induction items with
  | nil => exact Flows.nil state
  | cons item rest ih =>
      rw [List.forall_mem_cons] at each
      exact each.1.append state (ih each.2)

/-- A template that flows on is one up to a piece and from it on. -/
theorem Flows.split (flows : Flows text state (first ++ second) after) :
    ∃ between, Flows text state first between ∧ Flows text between second after := by
  have scanned := flows.scanned
  rw [scan_append] at scanned
  obtain ⟨between, before, next⟩ := Option.bind_eq_some_iff.mp scanned
  refine ⟨between, ⟨before, ?_⟩, ⟨next, ?_⟩⟩
  · intro value inside
    exact flows.quotable value (List.mem_append_left second inside)
  · intro value inside
    exact flows.quotable value (List.mem_append_right first inside)

/-- The tokenizer ends where the scan does. -/
theorem Flows.run_written (flows : Flows text state html after) :
    run state (written text html) = after := by
  induction html generalizing state with
  | nil => exact Option.some.inj flows.scanned
  | cons piece rest ih =>
      have scanned := flows.scanned
      rw [scan_cons] at scanned
      obtain ⟨between, step, goesOn⟩ := Option.bind_eq_some_iff.mp scanned
      have next : Flows text between rest after :=
        ⟨goesOn, fun value inside => flows.quotable value (List.mem_cons_of_mem piece inside)⟩
      rw [written, List.flatMap_cons, run_append]
      cases piece with
      | markup fixed =>
          obtain rfl := Option.some.inj step
          exact ih next
      | value filled =>
          obtain ⟨context, quotable, rfl, rfl⟩ := scanValue_eq_some step
          have within := flows.quotable filled List.mem_cons_self context quotable
          exact (congrArg (run · _) within.returns).trans (ih next)

/-- Every value is read where text stands, and as text. -/
theorem Flows.within {before rest : List (Piece Value)} {value : Value}
    (flows : Flows text state (before ++ .value value :: rest) after) :
    ∃ context : Context, context.isQuotable = true ∧
      run state (written text before) = .text context ∧ Within context (text value) := by
  obtain ⟨between, start, here⟩ := flows.split
  have scanned := here.scanned
  rw [scan_cons] at scanned
  obtain ⟨reached, step, -⟩ := Option.bind_eq_some_iff.mp scanned
  obtain ⟨context, quotable, rfl, -⟩ := scanValue_eq_some step
  have read := here.quotable value List.mem_cons_self context quotable
  exact ⟨context, quotable, start.run_written, read⟩

end Flows

end Foundation.HtmlTokenizer
