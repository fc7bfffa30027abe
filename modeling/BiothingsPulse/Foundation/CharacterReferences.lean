import Mathlib.Data.List.Infix

/-!
# Character references

The text that the character references of a piece of HTML stand for. The table of the named
references is a parameter: of a name and its longer variants the longest that is written is
taken, and a semicolon ends every name that has one.
-/

namespace Foundation.CharacterReferences

/-- The named references, each name with its semicolon where it has one. -/
structure NamedReferences where
  lookup : List Char → Option (List Char)
  semicolon : ∀ name characters, lookup name = some characters → ';' ∉ name.dropLast
  amp : lookup "amp;".toList = some ['&']
  lt : lookup "lt;".toList = some ['<']
  gt : lookup "gt;".toList = some ['>']
  quot : lookup "quot;".toList = some ['"']

/-- The references of the special characters alone. -/
def specialReferences : List (List Char × List Char) :=
  [("amp;".toList, ['&']), ("lt;".toList, ['<']), ("gt;".toList, ['>']), ("quot;".toList, ['"'])]

private theorem specialReferences_semicolon :
    ∀ listed ∈ specialReferences, ';' ∉ listed.1.dropLast := by
  decide

instance : Inhabited NamedReferences where
  default.lookup name := (specialReferences.find? fun listed => listed.1 = name).map Prod.snd
  default.semicolon name characters listed := by
    obtain ⟨found, search, -⟩ := Option.map_eq_some_iff.mp listed
    have same : found.1 = name := by simpa using List.find?_some search
    subst same
    exact specialReferences_semicolon found (List.mem_of_find?_eq_some search)
  default.amp := by decide
  default.lt := by decide
  default.gt := by decide
  default.quot := by decide

/-- What the codes stand for that are not those of the characters. -/
def c1Replacements : List (ℕ × ℕ) :=
  [(0x80, 0x20AC), (0x82, 0x201A), (0x83, 0x0192), (0x84, 0x201E), (0x85, 0x2026), (0x86, 0x2020),
    (0x87, 0x2021), (0x88, 0x02C6), (0x89, 0x2030), (0x8A, 0x0160), (0x8B, 0x2039), (0x8C, 0x0152),
    (0x8E, 0x017D), (0x91, 0x2018), (0x92, 0x2019), (0x93, 0x201C), (0x94, 0x201D), (0x95, 0x2022),
    (0x96, 0x2013), (0x97, 0x2014), (0x98, 0x02DC), (0x99, 0x2122), (0x9A, 0x0161), (0x9B, 0x203A),
    (0x9C, 0x0153), (0x9E, 0x017E), (0x9F, 0x0178)]

/-- The character of a code. -/
def characterOf (code : ℕ) : Char :=
  if code = 0 ∨ ¬ code.isValidChar then '\uFFFD'
  else Char.ofNat ((c1Replacements.lookup code).getD code)

def hexValue (c : Char) : Option ℕ :=
  if c.isDigit then some (c.toNat - '0'.toNat)
  else if 'a' ≤ c ∧ c ≤ 'f' then some (c.toNat - 'a'.toNat + 10)
  else if 'A' ≤ c ∧ c ≤ 'F' then some (c.toNat - 'A'.toNat + 10)
  else none

def decimalValue (c : Char) : Option ℕ := if c.isDigit then some (c.toNat - '0'.toNat) else none

/-- The number that the digits in front spell, and how many there are. -/
def leadingNumber (base : ℕ) (value : Char → Option ℕ) (text : List Char) : ℕ × ℕ :=
  let digits := text.takeWhile fun c => (value c).isSome
  (digits.foldl (fun number c => number * base + (value c).getD 0) 0, digits.length)

/-- What a reference by number stands for, and how many characters it takes after the `&#`. -/
def numericReference (text : List Char) : Option (List Char × ℕ) :=
  let hexadecimal := text.head?.any fun c => c = 'x' || c = 'X'
  let (number, length) :=
    if hexadecimal then leadingNumber 16 hexValue text.tail
    else leadingNumber 10 decimalValue text
  let taken := if hexadecimal then length + 1 else length
  if length = 0 then none
  else some ([characterOf number], if (text.drop taken).head? = some ';' then taken + 1 else taken)

section Decode

variable (references : NamedReferences) (inAttribute : Bool)

/-- The longest name in front, and what it stands for. -/
def longestName (text : List Char) : Option (List Char × List Char) :=
  text.inits.reverse.findSome? fun name =>
    (references.lookup name).map fun characters => (name, characters)

/-- What a reference by name stands for, and how many characters it takes after the `&`. In an
attribute a name without a semicolon may go on with other characters. -/
def namedReference (text : List Char) : Option (List Char × ℕ) :=
  match longestName references text with
  | none => none
  | some (name, characters) =>
      let next := (text.drop name.length).head?
      if inAttribute ∧ name.getLast? ≠ some ';' ∧
          next.any fun c => c = '=' || c.isAlphanum then none
      else some (characters, name.length)

def reference (text : List Char) : Option (List Char × ℕ) :=
  if text.head? = some '#' then
    (numericReference text.tail).map fun (characters, length) => (characters, length + 1)
  else namedReference references inAttribute text

/-- Decode what follows the rest of a reference of the given length. -/
def decodeAfter : ℕ → List Char → List Char
  | _, [] => []
  | taken + 1, _ :: rest => decodeAfter taken rest
  | 0, c :: rest =>
      if c = '&' then
        match reference references inAttribute rest with
        | none => '&' :: decodeAfter 0 rest
        | some (characters, length) => characters ++ decodeAfter length rest
      else c :: decodeAfter 0 rest

/-- Replace the character references by what they stand for. -/
def decode (text : List Char) : List Char := decodeAfter references inAttribute 0 text

end Decode

section Properties

variable {references : NamedReferences} {inAttribute : Bool} {name characters : List Char}

/-- No name goes on after a semicolon. -/
theorem longestName_semicolon (listed : references.lookup (name ++ [';']) = some characters)
    (rest : List Char) :
    longestName references (name ++ ';' :: rest) = some (name ++ [';'], characters) := by
  have longer : ∀ other ∈ (rest.inits.tail.map fun more => name ++ [';'] ++ more).reverse,
      (references.lookup other).map (fun characters => (other, characters)) = none := by
    intro other member
    obtain ⟨more, among, rfl⟩ := List.mem_map.mp (List.mem_reverse.mp member)
    rw [Option.map_eq_none_iff, Option.eq_none_iff_forall_not_mem]
    intro found lookup
    cases more with
    | nil => cases rest <;> simp at among
    | cons c more =>
        apply references.semicolon _ found lookup
        rw [List.append_assoc, List.dropLast_append_of_ne_nil (by simp)]
        simp
  have whole : name ++ ';' :: rest = name ++ [';'] ++ rest := by simp
  rw [longestName, whole, List.inits_append, List.reverse_append, List.findSome?_append,
    List.findSome?_eq_none_iff.mpr longer, Option.none_or, List.inits_append]
  simp [listed]

private theorem decodeAfter_append (taken rest : List Char) :
    decodeAfter references inAttribute taken.length (taken ++ rest) =
      decode references inAttribute rest := by
  induction taken with
  | nil => rfl
  | cons c taken ih => exact ih

/-- A listed name with its semicolon stands for its characters. -/
theorem decode_reference (nonempty : name ≠ []) (letters : '#' ∉ name)
    (listed : references.lookup (name ++ [';']) = some characters) (rest : List Char) :
    decode references inAttribute ('&' :: (name ++ [';']) ++ rest) =
      characters ++ decode references inAttribute rest := by
  have whole : name ++ [';'] ++ rest = name ++ ';' :: rest := by simp
  have notNumeric : (name ++ [';'] ++ rest).head? ≠ some '#' := by
    cases name with
    | nil => exact absurd rfl nonempty
    | cons c others =>
        rintro ⟨rfl⟩
        exact letters List.mem_cons_self
  have closed : ¬ (inAttribute = true ∧ (name ++ [';']).getLast? ≠ some ';' ∧
      ((name ++ [';'] ++ rest).drop (name ++ [';']).length).head?.any
        (fun c => c = '=' || c.isAlphanum) = true) := by
    simp
  have found : reference references inAttribute (name ++ [';'] ++ rest) =
      some (characters, (name ++ [';']).length) := by
    rw [reference, if_neg notNumeric, namedReference, whole, longestName_semicolon listed, ← whole]
    exact if_neg closed
  rw [decode, List.cons_append, decodeAfter, if_pos rfl, found]
  exact congrArg _ (decodeAfter_append (name ++ [';']) rest)

/-- A character other than an ampersand stands for itself. -/
theorem decode_cons {c : Char} (other : c ≠ '&') (rest : List Char) :
    decode references inAttribute (c :: rest) = c :: decode references inAttribute rest := by
  rw [decode, decodeAfter, if_neg other]
  rfl

end Properties

end Foundation.CharacterReferences
