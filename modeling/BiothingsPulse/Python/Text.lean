import Mathlib.Data.List.Infix
import Mathlib.Data.List.TakeWhile

/-!
# Text

The string operations of the service that test or cut text, on lists of characters.
-/

namespace BiothingsPulse

/-- The white space that `str.strip` removes. -/
def isPySpace (c : Char) : Bool :=
  let code := c.toNat
  (9 ≤ code && code ≤ 13) || (28 ≤ code && code ≤ 32) || code = 0x85 || code = 0xA0 ||
    code = 0x1680 || (0x2000 ≤ code && code ≤ 0x200A) || code = 0x2028 || code = 0x2029 ||
    code = 0x202F || code = 0x205F || code = 0x3000

def pyStrip (text : List Char) : List Char :=
  ((text.dropWhile isPySpace).reverse.dropWhile isPySpace).reverse

def lowered (text : String) : List Char := text.toList.map Char.toLower

/-- Lower case, as far as it decides a comparison with ASCII text: of the other characters
only the Kelvin sign lowers to an ASCII letter. -/
def pyLower (text : List Char) : List Char :=
  text.map fun c => if c.toNat = 0x212A then 'k' else c.toLower

/-- The characters at which `str.splitlines` breaks. -/
def isLineBreak (c : Char) : Bool :=
  let code := c.toNat
  (10 ≤ code && code ≤ 13) || (28 ≤ code && code ≤ 30) || code = 0x85 || code = 0x2028 ||
    code = 0x2029

/-- The lines of what follows a part of a line, which is given in reverse. -/
def splitLinesAfter (line : List Char) : List Char → List (List Char)
  | [] => if line = [] then [] else [line.reverse]
  | '\r' :: '\n' :: rest => line.reverse :: splitLinesAfter [] rest
  | c :: rest =>
      if isLineBreak c then line.reverse :: splitLinesAfter [] rest
      else splitLinesAfter (c :: line) rest

def splitLines (text : List Char) : List (List Char) := splitLinesAfter [] text

/-- Whether some part of the text is the given one. -/
def contains (part text : List Char) : Bool := text.tails.any part.isPrefixOf

/-- The code points of letters and digits. -/
theorem toNat_of_isAlphanum {c : Char} (plain : c.isAlphanum = true) :
    48 ≤ c.toNat ∧ c.toNat ≤ 57 ∨ 65 ≤ c.toNat ∧ c.toNat ≤ 90 ∨
      97 ≤ c.toNat ∧ c.toNat ≤ 122 := by
  obtain letter | digit := Bool.or_eq_true_iff.mp plain
  · obtain upper | lower := Bool.or_eq_true_iff.mp letter
    · obtain ⟨low, high⟩ := of_decide_eq_true upper
      exact .inr (.inl ⟨UInt32.le_iff_toNat_le.mp low, UInt32.le_iff_toNat_le.mp high⟩)
    · obtain ⟨low, high⟩ := Bool.and_eq_true_iff.mp lower
      exact .inr (.inr ⟨UInt32.le_iff_toNat_le.mp (of_decide_eq_true low),
        UInt32.le_iff_toNat_le.mp (of_decide_eq_true high)⟩)
  · exact .inl (Char.isDigit_iff_toNat.mp digit)

section Comments

/-- The line up to its comment, which begins at the start or after white space. -/
def uncommented (afterSpace : Bool) : List Char → List Char
  | [] => []
  | c :: rest =>
      if c = '#' ∧ afterSpace = true then [] else c :: uncommented (isPySpace c) rest

variable {text raw : List Char}

private theorem takeWhile_uncommented (afterSpace : Bool) (raw : List Char) :
    (uncommented afterSpace raw).takeWhile (· ≠ '#') = raw.takeWhile (· ≠ '#') := by
  induction raw generalizing afterSpace with
  | nil => rfl
  | cons c rest ih =>
      rw [uncommented]
      by_cases hash : c = '#'
      · subst hash
        cases afterSpace <;> rfl
      · rw [if_neg fun both => hash both.1, List.takeWhile_cons, List.takeWhile_cons, ih]

/-- A `#` that is left stands neither at the start nor after white space. -/
theorem uncommented_hash {afterSpace : Bool} (hash : '#' ∈ uncommented afterSpace raw) :
    afterSpace = false ∧ (uncommented afterSpace raw).head? = some '#' ∨
      ∃ before c after, uncommented afterSpace raw = before ++ c :: '#' :: after ∧
        isPySpace c = false ∧ '#' ∉ before ++ [c] := by
  induction raw generalizing afterSpace with
  | nil => cases hash
  | cons c rest ih =>
      rw [uncommented] at hash ⊢
      by_cases comment : c = '#' ∧ afterSpace = true
      · rw [if_pos comment] at hash
        cases hash
      · rw [if_neg comment] at hash ⊢
        by_cases same : c = '#'
        · subst same
          exact .inl ⟨Bool.eq_false_iff.mpr fun spaced => comment ⟨rfl, spaced⟩, rfl⟩
        · right
          have later := (List.mem_cons.mp hash).resolve_left (Ne.symm same)
          obtain ⟨solid, first⟩ | ⟨before, d, after, split, solid, free⟩ := ih later
          · obtain ⟨after, follows⟩ := List.head?_eq_some_iff.mp first
            refine ⟨[], c, after, congrArg (c :: ·) follows, solid, ?_⟩
            rw [List.nil_append, List.mem_singleton]
            exact Ne.symm same
          · refine ⟨c :: before, d, after, congrArg (c :: ·) split, solid, ?_⟩
            rw [List.cons_append, List.mem_cons, not_or]
            exact ⟨Ne.symm same, free⟩

private theorem dropWhile_append_cons {test : Char → Bool} {c : Char} (kept : test c = false)
    (before after : List Char) :
    (before ++ c :: after).dropWhile test = before.dropWhile test ++ c :: after := by
  rw [List.dropWhile_append, List.dropWhile_cons, kept]
  cases before.dropWhile test <;> rfl

/-- Stripping keeps everything from one solid character to another. -/
theorem pyStrip_append_cons {c : Char} (solid : isPySpace c = false)
    (before after : List Char) :
    pyStrip (before ++ c :: after) =
      before.dropWhile isPySpace ++ c :: (after.reverse.dropWhile isPySpace).reverse := by
  rw [pyStrip, dropWhile_append_cons solid, List.reverse_append, List.reverse_cons,
    List.append_assoc, List.singleton_append, dropWhile_append_cons solid]
  simp

/-- Stripping keeps what is no space. -/
theorem mem_pyStrip {c : Char} (inside : c ∈ text) (solid : isPySpace c = false) :
    c ∈ pyStrip text := by
  obtain ⟨before, after, rfl⟩ := List.append_of_mem inside
  rw [pyStrip_append_cons solid]
  simp

private theorem mem_of_mem_pyStrip {c : Char} (inside : c ∈ pyStrip text) : c ∈ text := by
  rw [pyStrip, List.mem_reverse] at inside
  have first := (List.dropWhile_sublist _).mem inside
  rw [List.mem_reverse] at first
  exact (List.dropWhile_sublist _).mem first

/-- A text without white space is stripped of nothing. -/
theorem pyStrip_of_forall (solid : ∀ c ∈ text, isPySpace c = false) : pyStrip text = text := by
  have kept {part : List Char} (inside : ∀ c ∈ part, c ∈ text) :
      part.dropWhile isPySpace = part := by
    cases part with
    | nil => rfl
    | cons c rest => rw [List.dropWhile_cons, solid c (inside c List.mem_cons_self)]; rfl
  rw [pyStrip, kept fun _ inside => inside, kept fun _ inside => List.mem_reverse.mp inside,
    List.reverse_reverse]

/-- A text without a comment is as it is. -/
theorem takeWhile_free (free : '#' ∉ text) : text.takeWhile (· ≠ '#') = text := by
  rw [List.takeWhile_eq_self_iff]
  exact fun c inside => decide_eq_true fun hash => free (hash ▸ inside)

private theorem takeWhile_hash (free : '#' ∉ text) (rest : List Char) :
    (text ++ '#' :: rest).takeWhile (· ≠ '#') = text := by
  have others : ∀ c ∈ text, decide (c ≠ '#') = true := fun c inside =>
    decide_eq_true fun hash => free (hash ▸ inside)
  rw [List.takeWhile_append_of_pos others, List.takeWhile_cons_of_neg (by decide),
    List.append_nil]

/-- What is left of a line that is cut at its first `#` is what is left of the requirement
in it. -/
theorem pyStrip_takeWhile (raw : List Char) :
    pyStrip (raw.takeWhile (· ≠ '#')) =
      (pyStrip (uncommented true raw)).takeWhile (· ≠ '#') := by
  rw [← takeWhile_uncommented true raw]
  by_cases hash : '#' ∈ uncommented true raw
  · obtain ⟨spaced, _⟩ | ⟨before, c, after, split, solid, free⟩ := uncommented_hash hash
    · cases spaced
    · have left : '#' ∉ before.dropWhile isPySpace ++ [c] := by
        intro inside
        apply free
        rw [List.mem_append] at inside ⊢
        exact inside.imp_left (List.dropWhile_sublist _).mem
      have right : (('#' :: after).reverse.dropWhile isPySpace).reverse =
          '#' :: (after.reverse.dropWhile isPySpace).reverse := by
        rw [List.reverse_cons, dropWhile_append_cons rfl, List.reverse_append]
        rfl
      rw [split, List.append_cons before c, takeWhile_hash free, ← List.append_cons,
        pyStrip_append_cons solid, pyStrip_append_cons solid, right,
        List.append_cons _ c ('#' :: _), takeWhile_hash left]
      rfl
  · rw [takeWhile_free hash, takeWhile_free fun inside => hash (mem_of_mem_pyStrip inside)]

/-- A prefix without `#` of a text whose characters are replaced, but for `#`, is one of the
part before the first `#`. -/
theorem prefix_map_takeWhile {replace : Char → Char} (hash : replace '#' = '#')
    {start text : List Char} (free : '#' ∉ start) (begins : start <+: text.map replace) :
    start <+: (text.takeWhile (· ≠ '#')).map replace := by
  induction text generalizing start with
  | nil => exact begins
  | cons c rest ih =>
      cases start with
      | nil => exact List.nil_prefix
      | cons d others =>
          obtain ⟨same, follows⟩ := List.cons_prefix_cons.mp begins
          rw [List.mem_cons, not_or] at free
          have kept : c ≠ '#' := by
            rintro rfl
            exact free.1 (hash.symm.trans same.symm)
          rw [List.takeWhile_cons, if_pos (decide_eq_true kept), List.map_cons]
          exact List.cons_prefix_cons.mpr ⟨same, ih free.2 follows⟩

end Comments

end BiothingsPulse
