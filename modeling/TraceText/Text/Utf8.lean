import TraceText.Text.Basic

/-!
# UTF-8

Texts as bytes and back.  A sequence of bytes that is not the encoding of a text, because it is cut
short, longer than needed, or denotes no character, is refused.

## Main definitions

* `Utf8.encode` — the bytes of a text
* `Utf8.decode?` — the text of bytes
* `Utf8.length` — the number of bytes of a text
-/

namespace TraceText.Utf8

/-- The bytes of a text. -/
def encode (t : Text) : List UInt8 := t.flatMap String.utf8EncodeChar

@[simp] theorem encode_nil : encode [] = [] := rfl

@[simp] theorem encode_append (t u : Text) : encode (t ++ u) = encode t ++ encode u := by
  simp [encode]

/-- The number of bytes of a text. -/
def length (t : Text) : Nat := (t.map Char.utf8Size).foldr (· + ·) 0

/-- The six bits of a continuation byte. -/
def tail? (b : UInt8) : Option Nat :=
  if 0x80 ≤ b ∧ b < 0xC0 then some (b.toNat - 0x80) else none

/-- The character of a number, if it is a scalar value of at least `least`. -/
def scalar? (least n : Nat) : Option Char :=
  if h : n.isValidChar then if least ≤ n then some (Char.ofNatAux n h) else none else none

/-- The first character of a sequence of bytes, and the bytes behind it. -/
def first? : List UInt8 → Option (Char × List UInt8)
  | [] => none
  | a :: rest =>
    if a < 0x80 then (scalar? 0 a.toNat).map fun c => (c, rest)
    else if 0xC0 ≤ a ∧ a < 0xE0 then
      match rest with
      | b :: rest => do
        let n := (a.toNat - 0xC0) * 64 + (← tail? b)
        return (← scalar? 0x80 n, rest)
      | _ => none
    else if 0xE0 ≤ a ∧ a < 0xF0 then
      match rest with
      | b :: c :: rest => do
        let n := ((a.toNat - 0xE0) * 64 + (← tail? b)) * 64 + (← tail? c)
        return (← scalar? 0x800 n, rest)
      | _ => none
    else if 0xF0 ≤ a ∧ a < 0xF8 then
      match rest with
      | b :: c :: d :: rest => do
        let n := (((a.toNat - 0xF0) * 64 + (← tail? b)) * 64 + (← tail? c)) * 64 + (← tail? d)
        return (← scalar? 0x10000 n, rest)
      | _ => none
    else none

/-- The text of bytes.  Every character takes at least one byte, so the number of bytes bounds the
number of characters. -/
def decodeFrom : Nat → List UInt8 → Option Text
  | _, [] => some []
  | 0, _ :: _ => none
  | fuel + 1, b :: bytes => do
    let (c, rest) ← first? (b :: bytes)
    return c :: (← decodeFrom fuel rest)

/-- The text of bytes, if they are the encoding of one. -/
def decode? (bytes : List UInt8) : Option Text := decodeFrom bytes.length bytes

end TraceText.Utf8
