import Mathlib.Data.List.Induction

/-!
# Unquoting

`urllib.parse.unquote` on ASCII text: a percent sign with two hexadecimal digits stands for
a byte, and the bytes are read as UTF-8.
-/

namespace BiothingsPulse

def hexValue (c : Char) : Option ℕ :=
  if '0' ≤ c ∧ c ≤ '9' then some (c.toNat - 48)
  else if 'A' ≤ c ∧ c ≤ 'F' then some (c.toNat - 55)
  else if 'a' ≤ c ∧ c ≤ 'f' then some (c.toNat - 87)
  else none

/-- The byte of two hexadecimal digits. -/
def escapedByte (high low : Char) : Option UInt8 :=
  match hexValue high, hexValue low with
  | some h, some l => some (UInt8.ofNat (16 * h + l))
  | _, _ => none

/-- The bytes of a text; a percent sign before anything but two digits stands for itself. -/
def unquoteToBytes : List Char → List UInt8
  | '%' :: high :: low :: rest =>
      match escapedByte high low with
      | some byte => byte :: unquoteToBytes rest
      | none => 37 :: unquoteToBytes (high :: low :: rest)
  | c :: rest => String.utf8EncodeChar c ++ unquoteToBytes rest
  | [] => []

/-- The text, where the bytes are UTF-8; other bytes would be replaced. -/
def unquote (text : List Char) : Option (List Char) :=
  (unquoteToBytes text).toByteArray.utf8Decode?.map Array.toList

/-- An escape is the byte that it spells. -/
theorem unquoteToBytes_escape {high low : Char} {byte : UInt8}
    (escaped : escapedByte high low = some byte) (rest : List Char) :
    unquoteToBytes ('%' :: high :: low :: rest) = byte :: unquoteToBytes rest := by
  rw [unquoteToBytes, escaped]

/-- A character that begins no escape is its encoding. -/
theorem unquoteToBytes_cons {c : Char} (plain : c ≠ '%') (rest : List Char) :
    unquoteToBytes (c :: rest) = String.utf8EncodeChar c ++ unquoteToBytes rest := by
  rw [unquoteToBytes]
  rintro _ _ _ rfl
  exact absurd rfl plain

/-- A text is read back from its bytes. -/
theorem unquote_of_bytes {text result : List Char}
    (bytes : unquoteToBytes text = result.flatMap String.utf8EncodeChar) :
    unquote text = some result := by
  have encoded : (unquoteToBytes text).toByteArray = result.utf8Encode := by rw [bytes]; rfl
  rw [unquote, encoded, List.utf8Decode?_utf8Encode]
  rfl

end BiothingsPulse
