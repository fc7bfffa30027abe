import BiothingsPulse.Dashboard.Render
import BiothingsPulse.Foundation.CharacterReferences

/-!
# What the payload cannot do to the tables

Every value in the HTML of the rows and of the repositories stands in text or in a quoted
attribute, is read as text there, and leaves the tokenizer where it was, whatever texts the
payload holds; decoding an escaped text gives the text of the payload back.
-/

namespace BiothingsPulse.Dashboard

open Foundation Foundation.HtmlTokenizer
open Foundation.CharacterReferences (NamedReferences decode decode_reference decode_cons)

section Plain

/-- The text has no character that ends or escapes text. -/
def Plain (text : List Char) : Prop := ∀ c ∈ text, isPlain c = true

private theorem Plain.quotable {text : List Char} (plain : Plain text) : Quotable text :=
  fun _ quotable => Within.of_plain quotable plain

private theorem Plain.append {first second : List Char} (before : Plain first)
    (after : Plain second) : Plain (first ++ second) := by
  intro c inside
  obtain early | late := List.mem_append.mp inside
  · exact before c early
  · exact after c late

/-- A class of characters that leaves out the special ones is plain. -/
theorem isPlain_of_class (among : Char → Bool) (lt : among '<' = false) (amp : among '&' = false)
    (quote : among '"' = false) {c : Char} (holds : among c = true) : isPlain c = true := by
  have other : ∀ d, among d = false → c ≠ d := by
    intro d fails same
    rw [← same, holds] at fails
    cases fails
  simp only [isPlain, Bool.and_eq_true, decide_eq_true_eq]
  exact ⟨⟨other '<' lt, other '&' amp⟩, other '"' quote⟩

private theorem plain_toDigits (n : ℕ) : Plain (Nat.toDigits 10 n) := by
  intro c inside
  exact isPlain_of_class Char.isDigit rfl rfl rfl
    (Nat.isDigit_of_mem_toDigits (by decide) (by decide) inside)

private theorem plain_toString (n : ℕ) : Plain (toString n).toList := by
  rw [Nat.toString_eq_repr, Nat.toList_repr]
  exact plain_toDigits n

end Plain

section Escaping

/-- A character stays, or becomes the reference by name that stands for it. -/
theorem escapeChar_cases (c : Char) :
    (isPlain c = true ∧ escapeChar c = [c]) ∨
      ∃ name : List Char, name ≠ [] ∧ (∀ d ∈ name, d.isAlphanum = true) ∧
        (∀ references : NamedReferences, references.lookup (name ++ [';']) = some [c]) ∧
        escapeChar c = '&' :: (name ++ [';']) := by
  by_cases amp : c = '&'
  · subst c
    exact .inr ⟨"amp".toList, by decide, List.all_eq_true.mp rfl, NamedReferences.amp, rfl⟩
  by_cases lt : c = '<'
  · subst c
    exact .inr ⟨"lt".toList, by decide, List.all_eq_true.mp rfl, NamedReferences.lt, rfl⟩
  by_cases gt : c = '>'
  · subst c
    exact .inr ⟨"gt".toList, by decide, List.all_eq_true.mp rfl, NamedReferences.gt, rfl⟩
  by_cases quote : c = '"'
  · subst c
    exact .inr ⟨"quot".toList, by decide, List.all_eq_true.mp rfl, NamedReferences.quot, rfl⟩
  · left
    constructor
    · simp only [isPlain, Bool.and_eq_true, decide_eq_true_eq]
      exact ⟨⟨lt, amp⟩, quote⟩
    · rw [escapeChar, if_neg amp, if_neg lt, if_neg gt, if_neg quote]

private theorem quotable_esc (x : String) : Quotable (esc x) := by
  intro context quotable
  apply Within.flatMap
  intro c inside
  obtain ⟨plain, same⟩ | ⟨name, nonempty, alphanumeric, listed, same⟩ :=
    escapeChar_cases c
  · rw [same]
    exact Within.plain quotable plain
  · rw [same]
    exact Within.reference quotable nonempty alphanumeric

variable (references : NamedReferences) (inAttribute : Bool)

private theorem decode_escapeChar (c : Char) (rest : List Char) :
    decode references inAttribute (escapeChar c ++ rest) =
      c :: decode references inAttribute rest := by
  obtain ⟨plain, same⟩ | ⟨name, nonempty, alphanumeric, listed, same⟩ :=
    escapeChar_cases c
  · rw [same]
    apply decode_cons
    rintro rfl
    cases plain
  · rw [same]
    apply decode_reference nonempty ?_ (listed references)
    intro letter
    cases alphanumeric '#' letter

/-- Decoding gives the escaped text back. -/
theorem decode_esc (x : String) (rest : List Char) :
    decode references inAttribute (esc x ++ rest) =
      x.toList ++ decode references inAttribute rest := by
  rw [esc]
  induction x.toList with
  | nil => rfl
  | cons c others ih =>
      rw [List.flatMap_cons, List.append_assoc, decode_escapeChar, ih, List.cons_append]

/-- A plain text has nothing to decode. -/
theorem Plain.decode {text : List Char} (plain : Plain text) (rest : List Char) :
    decode references inAttribute (text ++ rest) = text ++ decode references inAttribute rest := by
  induction text with
  | nil => rfl
  | cons c others ih =>
      obtain ⟨here, further⟩ := List.forall_mem_cons.mp plain
      have other : c ≠ '&' := by
        rintro rfl
        cases here
      rw [List.cons_append, decode_cons other, ih further, List.cons_append]

private theorem isPlain_hexDigit : ∀ n < 16, isPlain (hexDigit n) = true := by decide

private theorem plain_percentEncoded (byte : UInt8) : Plain (percentEncoded byte) := by
  have small : byte.toNat < 256 := byte.toNat_lt
  rw [Plain, percentEncoded, List.forall_mem_cons, List.forall_mem_cons, List.forall_mem_singleton]
  exact ⟨rfl, isPlain_hexDigit _ (Nat.div_lt_of_lt_mul small),
    isPlain_hexDigit _ (Nat.mod_lt _ (by decide))⟩

private theorem plain_encodeURIComponent (x : String) : Plain (encodeURIComponent x) := by
  intro d inside
  obtain ⟨c, among, encoded⟩ := List.mem_flatMap.mp inside
  by_cases unreserved : isUriUnreserved c = true
  · rw [if_pos unreserved, List.mem_singleton] at encoded
    rw [encoded]
    exact isPlain_of_class isUriUnreserved rfl rfl rfl unreserved
  · rw [if_neg unreserved] at encoded
    obtain ⟨byte, inByte, digit⟩ := List.mem_flatMap.mp encoded
    exact plain_percentEncoded byte d digit

end Escaping

section Values

variable (browser : Browser)

private theorem plain_ago (elapsed : Int) : Plain (ago elapsed).toList := by
  unfold ago
  split
  · next sec l found =>
      have letter : l ∈ ["d", "h", "m"] :=
        List.mem_map_of_mem (f := Prod.snd) (List.mem_of_find?_eq_some found)
      have plain : Plain l.toList := by
        simp only [List.mem_cons, List.not_mem_nil, or_false] at letter
        obtain rfl | rfl | rfl := letter <;> exact List.all_eq_true.mp rfl
      rw [String.toList_append, String.toList_append]
      exact ((plain_toString _).append plain).append (List.all_eq_true.mp rfl)
  · rw [String.toList_append]
    exact (plain_toString _).append (List.all_eq_true.mp rfl)

private theorem plain_agoText (iso : Option String) : Plain (agoText browser iso).toList := by
  rw [agoText]
  cases (truthy iso).bind browser.parseDate with
  | none => exact List.all_eq_true.mp rfl
  | some t => exact plain_ago _

private theorem plain_countText (view : View) (r : String) : Plain
    (countText browser view r).toList := by
  unfold countText
  cases known : browser.inherited r with
  | none => exact plain_toString _
  | some text =>
      change Plain (text ++ String.ofList _).toList
      rw [String.toList_append, String.toList_ofList]
      apply Plain.append (browser.inherited_plain r text known)
      intro c inside
      rw [List.eq_of_mem_replicate inside]
      rfl

end Values

section Templates

-- The templates are scanned character by character.
set_option maxRecDepth 4000

/-- Between tags. -/
abbrev between : State := .text .data

/-- A template flows as its markup does, if what it writes as it is is plain. -/
theorem flows_of_spelled {state after : State} {html : Html} {spelling : List (Option (List Char))}
    (spelled : Spelled html spelling) (scanned : scanSpelling state spelling = some after)
    (plain : ∀ text, raw text ∈ html → Plain text.toList) :
    Flows Payload.text state html after where
  scanned := (scan_eq_scanSpelling spelled state).trans scanned
  quotable value inside := by
    cases value with
    | escaped payload => exact quotable_esc payload
    | component payload => exact (plain_encodeURIComponent payload).quotable
    | raw text => exact (plain text inside).quotable

variable (browser : Browser) (view : View) (d : SourcePayload)

private theorem flows_timeAgo (iso : Option String) :
    Flows Payload.text between (timeAgo browser iso) between := by
  unfold timeAgo
  split
  · exact flows_of_spelled (by repeat constructor) rfl (by simp [raw])
  · split
    · exact flows_of_spelled (by repeat constructor) rfl (by simp [raw])
    · exact flows_of_spelled (by repeat constructor) rfl (by simp [raw, plain_ago])

private theorem flows_ver (v : Option String) : Flows Payload.text between (ver v) between := by
  unfold ver
  split
  · exact flows_of_spelled (by repeat constructor) rfl (by simp [raw, escaped])
  · exact flows_of_spelled (by repeat constructor) rfl (by simp [raw])

private theorem flows_repoChip (r : String) :
    Flows Payload.text between (repoChip browser view r) between := by
  unfold repoChip
  split_ifs <;>
    exact flows_of_spelled (by repeat constructor) rfl (by simp [raw, escaped, plain_countText])

private theorem flows_urlCell : Flows Payload.text between (urlCell d) between := by
  unfold urlCell
  split
  · exact flows_of_spelled (by repeat constructor) rfl (by simp [raw])
  · exact flows_of_spelled (by repeat constructor) rfl (by simp [raw, escaped, plain_toDigits])

private theorem flows_errCell : Flows Payload.text between (errCell d) between := by
  unfold errCell
  split
  · exact flows_of_spelled (by repeat constructor) rfl (by simp [raw, escaped])
  · exact flows_of_spelled (by repeat constructor) rfl (by simp [raw])

private theorem flows_curSeen : Flows Payload.text between (curSeen browser d) between := by
  unfold curSeen
  split
  · exact flows_of_spelled (by repeat constructor) rfl (by simp [raw, plain_agoText])
  · exact flows_of_spelled (by repeat constructor) rfl (by simp [raw])

private theorem flows_prevCell : Flows Payload.text between (prevCell browser d) between := by
  unfold prevCell
  split
  · apply (flows_ver _).append between
    exact flows_of_spelled (by repeat constructor) rfl (by simp [raw, plain_agoText])
  · exact flows_of_spelled (by repeat constructor) rfl (by simp [raw])

private theorem flows_sourceLink : Flows Payload.text between (sourceLink d) between := by
  unfold sourceLink
  split
  · exact flows_of_spelled (by repeat constructor) rfl (by simp [raw, escaped, codeSvg])
  · exact flows_of_spelled (by repeat constructor) rfl (by simp [raw])

private theorem flows_jsonUrl :
    Flows Payload.text (.text .doubleQuoted) (jsonUrl d) (.text .doubleQuoted) :=
  flows_of_spelled (by repeat constructor) rfl (by simp [raw, component, jsonUrl])

private theorem flows_typeIcon (t : String) : Flows Payload.text between (typeIcon t) between := by
  unfold typeIcon
  split_ifs
  · exact flows_of_spelled (by repeat constructor) rfl (by simp [raw, advancedSvg])
  · exact flows_of_spelled (by repeat constructor) rfl (by simp [raw, manifestSvg])

private theorem flows_recheckButton : Flows Payload.text between (recheckButton d) between :=
  flows_of_spelled (by repeat constructor) rfl (by simp [raw, escaped, recheckButton, recheckSvg])

private theorem flows_sourceCell : Flows Payload.text between (sourceCell d) between := by
  iterate 6 refine Flows.append between ?_ ?_
  iterate 2 refine Flows.append (.text .doubleQuoted) ?_ ?_
  · exact flows_of_spelled (by repeat constructor) rfl (by simp [raw])
  · exact flows_jsonUrl d
  · exact flows_of_spelled (by repeat constructor) rfl (by simp [raw, escaped])
  · exact flows_typeIcon d.pluginType
  · exact flows_of_spelled (by repeat constructor) rfl (by simp [raw])
  · exact flows_sourceLink d
  · exact flows_of_spelled (by repeat constructor) rfl (by simp [raw])
  · exact flows_recheckButton d
  · exact flows_of_spelled (by repeat constructor) rfl (by simp [raw])

private theorem flows_statusCell : Flows Payload.text between (statusCell d) between := by
  iterate 2 refine Flows.append between ?_ ?_
  · exact flows_of_spelled (by repeat constructor) rfl (by simp [raw, escaped])
  · exact flows_errCell d
  · exact flows_of_spelled (by repeat constructor) rfl (by simp [raw])

private theorem flows_versionCell : Flows Payload.text between (versionCell browser d) between := by
  iterate 4 refine Flows.append between ?_ ?_
  · exact flows_of_spelled (by repeat constructor) rfl (by simp [raw])
  · exact flows_ver d.currentVersion
  · split_ifs <;> exact flows_of_spelled (by repeat constructor) rfl (by simp [raw])
  · exact flows_curSeen browser d
  · exact flows_of_spelled (by repeat constructor) rfl (by simp [raw])

private theorem flows_checkedCell : Flows Payload.text between (checkedCell browser d) between := by
  iterate 3 refine Flows.append between ?_ ?_
  · exact flows_of_spelled (by repeat constructor) rfl (by simp [raw, escaped])
  · exact flows_timeAgo browser d.checkedAt
  · exact flows_of_spelled (by repeat constructor) rfl (by simp [raw, calSvg])
  · exact flows_of_spelled (by repeat constructor) rfl (by simp [raw])

private theorem flows_rowHtml : Flows Payload.text between (rowHtml browser d) between := by
  have lineBreak : Flows Payload.text between [.markup "\n      "] between :=
    flows_of_spelled (by repeat constructor) rfl (by simp [raw])
  iterate 12 refine Flows.append between ?_ ?_
  · split_ifs <;> exact flows_of_spelled (by repeat constructor) rfl (by simp [raw])
  · exact flows_sourceCell d
  · exact lineBreak
  · exact flows_statusCell d
  · exact lineBreak
  · exact flows_versionCell browser d
  · exact flows_of_spelled (by repeat constructor) rfl (by simp [raw])
  · exact flows_prevCell browser d
  · exact flows_of_spelled (by repeat constructor) rfl (by simp [raw])
  · exact flows_urlCell d
  · exact flows_of_spelled (by repeat constructor) rfl (by simp [raw])
  · exact flows_checkedCell browser d
  · exact flows_of_spelled (by repeat constructor) rfl (by simp [raw])

private theorem flows_renderRows : Flows Payload.text between
    (renderRows browser view) between := by
  unfold renderRows emptyText
  split_ifs
  · exact flows_of_spelled (by repeat constructor) rfl (by simp [raw])
  · exact flows_of_spelled (by repeat constructor) rfl (by simp [raw])
  · exact Flows.flatMap fun d _ => flows_rowHtml browser d

private theorem flows_renderRepos : Flows Payload.text between
    (renderRepos browser view) between := by
  unfold renderRepos
  split_ifs
  · exact Flows.nil between
  · apply Flows.append between
    · exact flows_of_spelled (by repeat constructor) rfl (by simp [raw])
    · exact Flows.flatMap fun r _ => flows_repoChip browser view r

end Templates

section Contained

/-- What an escaped text is read as, once the character references in it are decoded. -/
def Payload.content : Payload → Option (List Char)
  | .escaped payload => some payload.toList
  | .component payload => some (encodeURIComponent payload)
  | .raw _ => none

private theorem decode_text (references : NamedReferences) (inAttribute : Bool) {value : Payload}
    {content : List Char} (escapes : value.content = some content) (rest : List Char) :
    decode references inAttribute (value.text ++ rest) =
      content ++ decode references inAttribute rest := by
  cases value with
  | escaped payload =>
      obtain rfl := Option.some.inj escapes
      exact decode_esc references inAttribute payload rest
  | component payload =>
      obtain rfl := Option.some.inj escapes
      exact (plain_encodeURIComponent payload).decode references inAttribute rest
  | raw text => cases escapes

/-- The HTML starts and ends between tags. Every value in it stands in text or in a quoted
attribute and is read within it; what is escaped decodes to its content. -/
structure Contained (references : NamedReferences) (html : Html) : Prop where
  ends : run between html.text = between
  within : ∀ (before : Html) (value : Payload) (rest : Html),
    html = before ++ .value value :: rest →
      ∃ context : Context, context.isQuotable = true ∧
        run between before.text = .text context ∧ Within context value.text
  decodes : ∀ (value : Payload) (content : List Char), .value value ∈ html →
    value.content = some content → ∀ (inAttribute : Bool) (rest : List Char),
      decode references inAttribute (value.text ++ rest) =
        content ++ decode references inAttribute rest

private theorem Contained.of_flows (references : NamedReferences) {html : Html}
    (flows : Flows Payload.text between html between) : Contained references html where
  ends := flows.run_written
  within before value rest parts := by
    subst parts
    exact flows.within
  decodes _ _ _ escapes inAttribute rest := decode_text references inAttribute escapes rest

/-- **No payload breaks out of the tables.** Whatever the sources hold, in the rows and in the
repositories, and in each row and each repository of them. -/
theorem tables_contained (references : NamedReferences) (browser : Browser) (view : View) :
    Contained references (renderRows browser view) ∧
      Contained references (renderRepos browser view) ∧
      (∀ d : SourcePayload, Contained references (rowHtml browser d)) ∧
      ∀ r : String, Contained references (repoChip browser view r) :=
  ⟨.of_flows references (flows_renderRows browser view),
    .of_flows references (flows_renderRepos browser view),
    fun d => .of_flows references (flows_rowHtml browser d),
    fun r => .of_flows references (flows_repoChip browser view r)⟩

example : esc "\"><script>" = "&quot;&gt;&lt;script&gt;".toList := rfl

end Contained

end BiothingsPulse.Dashboard
