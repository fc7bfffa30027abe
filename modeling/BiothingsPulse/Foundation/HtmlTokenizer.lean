import Mathlib.Data.List.Basic
import Mathlib.Data.List.Infix

/-!
# The states of an HTML tokenizer

The states that the tokenizer of an HTML document goes through where no element has switched
it to raw text, one character at a time. Text stands between tags or is the value of an
attribute; a character reference is part of the text that it stands in. Every other state is
one of the markup: a token, or a part of one, begins or ends when text is left or entered.
-/

namespace Foundation.HtmlTokenizer

/-- Where text may stand. -/
inductive Context where
  | data
  | doubleQuoted
  | singleQuoted
  | unquoted
  deriving DecidableEq, Repr

/-- How far a character reference has been read. -/
inductive Stage where
  | ampersand
  | named
  | numeric
  | hexStart
  | hexadecimal
  | decimal
  deriving DecidableEq, Repr

inductive Markup where
  | tagOpen
  | endTagOpen
  | tagName
  | selfClosingStartTag
  | beforeAttributeName
  | attributeName
  | afterAttributeName
  | beforeAttributeValue
  | afterAttributeValueQuoted
  /-- A comment that is none, a declaration or an instruction: up to the next `>`. -/
  | bogusComment
  | markupDeclarationOpen
  | markupDeclarationDash
  | commentStart
  | commentStartDash
  | comment
  | commentLessThan
  | commentLessThanBang
  | commentLessThanBangDash
  | commentLessThanBangDashDash
  | commentEndDash
  | commentEnd
  | commentEndBang
  deriving DecidableEq, Repr

inductive State where
  | text (context : Context)
  | reference (stage : Stage) (context : Context)
  | markup (markup : Markup)
  deriving DecidableEq, Repr

/-- The text that the state is in. -/
def State.context? : State → Option Context
  | .text context => some context
  | .reference _ context => some context
  | .markup _ => none

def isSpace (c : Char) : Bool := c = '\t' || c = '\n' || c = '\x0c' || c = '\r' || c = ' '

def isHexDigit (c : Char) : Bool :=
  c.isDigit || (decide ('a' ≤ c) && decide (c ≤ 'f')) || (decide ('A' ≤ c) && decide (c ≤ 'F'))

def Context.step (context : Context) (c : Char) : State :=
  match context with
  | .data =>
      if c = '&' then .reference .ampersand .data
      else if c = '<' then .markup .tagOpen
      else .text .data
  | .doubleQuoted =>
      if c = '"' then .markup .afterAttributeValueQuoted
      else if c = '&' then .reference .ampersand .doubleQuoted
      else .text .doubleQuoted
  | .singleQuoted =>
      if c = '\'' then .markup .afterAttributeValueQuoted
      else if c = '&' then .reference .ampersand .singleQuoted
      else .text .singleQuoted
  | .unquoted =>
      if isSpace c then .markup .beforeAttributeName
      else if c = '&' then .reference .ampersand .unquoted
      else if c = '>' then .text .data
      else .text .unquoted

/-- A reference goes on, ends with a semicolon, or is left to the text. -/
def Stage.step (stage : Stage) (context : Context) (c : Char) : State :=
  match stage with
  | .ampersand =>
      if c.isAlphanum then .reference .named context
      else if c = '#' then .reference .numeric context
      else context.step c
  | .named =>
      if c.isAlphanum then .reference .named context
      else if c = ';' then .text context
      else context.step c
  | .numeric =>
      if c = 'x' ∨ c = 'X' then .reference .hexStart context
      else if c.isDigit then .reference .decimal context
      else context.step c
  | .hexStart => if isHexDigit c then .reference .hexadecimal context else context.step c
  | .hexadecimal =>
      if isHexDigit c then .reference .hexadecimal context
      else if c = ';' then .text context
      else context.step c
  | .decimal =>
      if c.isDigit then .reference .decimal context
      else if c = ';' then .text context
      else context.step c

section Markup

/-- After an attribute's name. -/
def stepAfterAttributeName (c : Char) : State :=
  if isSpace c then .markup .afterAttributeName
  else if c = '/' then .markup .selfClosingStartTag
  else if c = '=' then .markup .beforeAttributeValue
  else if c = '>' then .text .data
  else .markup .attributeName

/-- Before an attribute's name. -/
def stepBeforeAttributeName (c : Char) : State :=
  if isSpace c then .markup .beforeAttributeName
  else if c = '/' ∨ c = '>' then stepAfterAttributeName c
  else .markup .attributeName

def stepBogusComment (c : Char) : State := if c = '>' then .text .data else .markup .bogusComment

def stepComment (c : Char) : State :=
  if c = '<' then .markup .commentLessThan
  else if c = '-' then .markup .commentEndDash
  else .markup .comment

def stepCommentEndDash (c : Char) : State :=
  if c = '-' then .markup .commentEnd else stepComment c

def stepCommentEnd (c : Char) : State :=
  if c = '>' then .text .data
  else if c = '!' then .markup .commentEndBang
  else if c = '-' then .markup .commentEnd
  else stepComment c

def Markup.step (markup : Markup) (c : Char) : State :=
  match markup with
  | .tagOpen =>
      if c = '!' then .markup .markupDeclarationOpen
      else if c = '/' then .markup .endTagOpen
      else if c.isAlpha then .markup .tagName
      else if c = '?' then .markup .bogusComment
      else Context.data.step c
  | .endTagOpen =>
      if c.isAlpha then .markup .tagName
      else if c = '>' then .text .data
      else stepBogusComment c
  | .tagName =>
      if isSpace c then .markup .beforeAttributeName
      else if c = '/' then .markup .selfClosingStartTag
      else if c = '>' then .text .data
      else .markup .tagName
  | .selfClosingStartTag => if c = '>' then .text .data else stepBeforeAttributeName c
  | .beforeAttributeName => stepBeforeAttributeName c
  | .attributeName =>
      if isSpace c ∨ c = '/' ∨ c = '>' then stepAfterAttributeName c
      else if c = '=' then .markup .beforeAttributeValue
      else .markup .attributeName
  | .afterAttributeName => stepAfterAttributeName c
  | .beforeAttributeValue =>
      if isSpace c then .markup .beforeAttributeValue
      else if c = '"' then .text .doubleQuoted
      else if c = '\'' then .text .singleQuoted
      else if c = '>' then .text .data
      else Context.unquoted.step c
  | .afterAttributeValueQuoted =>
      if isSpace c then .markup .beforeAttributeName
      else if c = '/' then .markup .selfClosingStartTag
      else if c = '>' then .text .data
      else stepBeforeAttributeName c
  | .bogusComment => stepBogusComment c
  | .markupDeclarationOpen =>
      if c = '-' then .markup .markupDeclarationDash else stepBogusComment c
  | .markupDeclarationDash => if c = '-' then .markup .commentStart else stepBogusComment c
  | .commentStart =>
      if c = '-' then .markup .commentStartDash
      else if c = '>' then .text .data
      else stepComment c
  | .commentStartDash =>
      if c = '-' then .markup .commentEnd
      else if c = '>' then .text .data
      else stepComment c
  | .comment => stepComment c
  | .commentLessThan =>
      if c = '!' then .markup .commentLessThanBang
      else if c = '<' then .markup .commentLessThan
      else stepComment c
  | .commentLessThanBang =>
      if c = '-' then .markup .commentLessThanBangDash else stepComment c
  | .commentLessThanBangDash =>
      if c = '-' then .markup .commentLessThanBangDashDash else stepCommentEndDash c
  | .commentLessThanBangDashDash => stepCommentEnd c
  | .commentEndDash => stepCommentEndDash c
  | .commentEnd => stepCommentEnd c
  | .commentEndBang =>
      if c = '-' then .markup .commentEndDash
      else if c = '>' then .text .data
      else stepComment c

end Markup

def step (state : State) (c : Char) : State :=
  match state with
  | .text context => context.step c
  | .reference stage context => stage.step context c
  | .markup markup => markup.step c

/-- The state after a text. -/
def run (state : State) (text : List Char) : State := text.foldl step state

/-- Without text the tokenizer stays where it is. -/
@[simp] theorem run_nil (state : State) : run state [] = state := rfl

/-- Text is tokenized character by character. -/
@[simp] theorem run_cons (state : State) (c : Char) (text : List Char) :
    run state (c :: text) = run (step state c) text := rfl

/-- Text is tokenized from left to right. -/
theorem run_append (state : State) (before after : List Char) :
    run state (before ++ after) = run (run state before) after := List.foldl_append

/-- The character stands for itself in quoted text and between tags. -/
def isPlain (c : Char) : Bool := c ≠ '<' && c ≠ '&' && c ≠ '"'

/-- Text between tags, or between double quotes. -/
def Context.isQuotable : Context → Bool
  | .data => true
  | .doubleQuoted => true
  | _ => false

section Within

variable {context : Context} {text before after : List Char}

/-- The text is read within the context: no token begins or ends inside, and afterwards the
tokenizer is where it was. -/
structure Within (context : Context) (text : List Char) : Prop where
  inside : ∀ part, part <+: text → (run (.text context) part).context? = some context
  returns : run (.text context) text = .text context

/-- The empty text stays in its context. -/
theorem Within.nil (context : Context) : Within context [] where
  inside part begins := by
    obtain rfl := List.prefix_nil.mp begins
    rfl
  returns := rfl

/-- Texts that stay in a context do so one after the other. -/
theorem Within.append (first : Within context before) (second : Within context after) :
    Within context (before ++ after) where
  inside part begins := by
    obtain early | late := List.prefix_or_prefix_of_prefix begins (List.prefix_append before after)
    · exact first.inside part early
    · obtain ⟨rest, rfl⟩ := late
      rw [run_append, first.returns]
      exact second.inside rest ((List.prefix_append_right_inj before).mp begins)
  returns := by rw [run_append, first.returns, second.returns]

/-- So do the images of the members of a list. -/
theorem Within.flatMap {α : Type*} {pieces : List α} {image : α → List Char}
    (each : ∀ piece ∈ pieces, Within context (image piece)) :
    Within context (pieces.flatMap image) := by
  induction pieces with
  | nil => exact Within.nil context
  | cons piece rest ih =>
      rw [List.forall_mem_cons] at each
      exact each.1.append (ih each.2)

private theorem step_plain {c : Char} (quotable : context.isQuotable = true)
    (plain : isPlain c = true) : step (.text context) c = .text context := by
  simp only [isPlain, Bool.and_eq_true, decide_eq_true_eq] at plain
  obtain ⟨⟨lt, amp⟩, quote⟩ := plain
  cases context with
  | data => exact (if_neg amp).trans (if_neg lt)
  | doubleQuoted => exact (if_neg quote).trans (if_neg amp)
  | singleQuoted => cases quotable
  | unquoted => cases quotable

/-- A plain character is text. -/
theorem Within.plain {c : Char} (quotable : context.isQuotable = true)
    (plain : isPlain c = true) : Within context [c] where
  inside part begins := by
    obtain rfl | ⟨rest, rfl, ends⟩ := List.prefix_cons_iff.mp begins
    · rfl
    · obtain rfl := List.prefix_nil.mp ends
      rw [run_cons, step_plain quotable plain]
      rfl
  returns := step_plain quotable plain

/-- A text of plain characters is text. -/
theorem Within.of_plain (quotable : context.isQuotable = true)
    (plain : ∀ c ∈ text, isPlain c = true) : Within context text := by
  have characters : Within context (text.flatMap fun c => [c]) :=
    Within.flatMap fun c inside => Within.plain quotable (plain c inside)
  rwa [List.flatMap_singleton'] at characters

end Within

section References

variable {context : Context} {name : List Char}

private theorem run_named (alphanumeric : ∀ c ∈ name, c.isAlphanum = true) :
    run (.reference .named context) name = .reference .named context := by
  induction name with
  | nil => rfl
  | cons c name ih =>
      rw [List.forall_mem_cons] at alphanumeric
      rw [run_cons]
      exact (congrArg (run · name) (if_pos alphanumeric.1)).trans (ih alphanumeric.2)

private theorem step_ampersand (quotable : context.isQuotable = true) :
    step (.text context) '&' = .reference .ampersand context := by
  cases context with
  | data => rfl
  | doubleQuoted => rfl
  | singleQuoted => cases quotable
  | unquoted => cases quotable

/-- A reference by name, up to some part of the name. -/
theorem run_ampersand (quotable : context.isQuotable = true) (nonempty : name ≠ [])
    (alphanumeric : ∀ c ∈ name, c.isAlphanum = true) :
    run (.text context) ('&' :: name) = .reference .named context := by
  cases name with
  | nil => exact absurd rfl nonempty
  | cons c name =>
      rw [List.forall_mem_cons] at alphanumeric
      have goes : step (.reference .ampersand context) c = .reference .named context :=
        if_pos alphanumeric.1
      rw [run_cons, step_ampersand quotable, run_cons, goes, run_named alphanumeric.2]

/-- A reference by name is text. -/
theorem Within.reference (quotable : context.isQuotable = true) (nonempty : name ≠ [])
    (alphanumeric : ∀ c ∈ name, c.isAlphanum = true) :
    Within context ('&' :: (name ++ [';'])) := by
  have returns : run (.text context) ('&' :: (name ++ [';'])) = .text context := by
    rw [← List.cons_append, run_append, run_ampersand quotable nonempty alphanumeric]
    rfl
  refine ⟨?_, returns⟩
  intro part begins
  obtain rfl | ⟨rest, rfl, within⟩ := List.prefix_cons_iff.mp begins
  · rfl
  · obtain rfl | shorter := List.prefix_concat_iff.mp within
    · rw [returns]
      rfl
    · cases rest with
      | nil =>
          rw [run_cons, step_ampersand quotable]
          rfl
      | cons c rest =>
          rw [run_ampersand quotable (List.cons_ne_nil c rest) fun d inside =>
            alphanumeric d (shorter.subset inside)]
          rfl

end References

end Foundation.HtmlTokenizer
