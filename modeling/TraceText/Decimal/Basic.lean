import TraceText.Text.Basic

/-!
# Decimal numerals

How natural numbers and integers are written in decimal, and how digits are read back.

## Main definitions

* `Decimal.digits`, `Decimal.ofInt` — the numeral of a natural number, of an integer
* `Decimal.padded` — a numeral filled up with zeros on the left
* `Decimal.value` — the number that a list of digits denotes
* `Decimal.spanDigits` — a text split after the digits at its start
* `Decimal.readDigits` — the number at the start of a text, of bounded length
-/

namespace TraceText.Decimal

/-- The numeral of a natural number, without leading zeros. -/
def digits (n : Nat) : Text := Nat.toDigits 10 n

/-- The numeral of an integer, with a minus sign if it is negative. -/
def ofInt (i : Int) : Text :=
  if i < 0 then '-' :: digits i.natAbs else digits i.natAbs

/-- The numeral of `n`, filled up with zeros on the left to at least `width` characters. -/
def padded (width n : Nat) : Text :=
  List.replicate (width - (digits n).length) '0' ++ digits n

/-- The number that decimal digits denote; the empty list denotes zero. -/
def value (ds : Text) : Nat := Nat.ofDigitChars 10 ds 0

/-- A text split after the digits at its start. -/
def spanDigits (t : Text) : Text × Text := (t.takeWhile Char.isDigit, t.dropWhile Char.isDigit)

/-- The number at the start of a text: as many digits as there are, but no more than `most`; there
must be at least `least`. -/
def readDigits (least most : Nat) (t : Text) : Option (Nat × Text) :=
  let ds := (t.take most).takeWhile Char.isDigit
  if ds.length < least then none else some (value ds, t.drop ds.length)

@[simp] theorem spanDigits_append (t : Text) : (spanDigits t).1 ++ (spanDigits t).2 = t :=
  List.takeWhile_append_dropWhile

@[simp] theorem value_nil : value [] = 0 := rfl

@[simp] theorem value_digits (n : Nat) : value (digits n) = n :=
  Nat.ofDigitChars_ten_toDigits

theorem isDigit_of_mem_digits {n : Nat} {c : Char} (h : c ∈ digits n) : c.isDigit = true :=
  Nat.isDigit_of_mem_toDigits (by decide) (by decide) h

theorem digits_injective {m n : Nat} (h : digits m = digits n) : m = n := by
  have := congrArg value h
  simpa using this

theorem ofInt_natCast (n : Nat) : ofInt n = digits n := by
  simp [ofInt]

theorem isDigit_of_mem_padded {width n : Nat} {c : Char} (h : c ∈ padded width n) :
    c.isDigit = true := by
  rcases List.mem_append.1 h with h | h
  · rw [List.eq_of_mem_replicate h]; decide
  · exact isDigit_of_mem_digits h

end TraceText.Decimal
