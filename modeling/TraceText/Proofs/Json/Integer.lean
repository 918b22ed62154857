import TraceText.Json.Reader
import TraceText.Proofs.Decimal
import TraceText.Proofs.Traversal

/-!
# Integers in JSON

The literal of an integer consists of digits, perhaps behind a minus sign, without a point, an
exponent or needless zeros.  Where an integer fits 64 bits, with or without a sign, its literal is
read as this integer, which is written by the same literal.  The exception is the negative zero.

## Main definitions

* `Json.IsInteger`, `Json.IsExactInteger` — the literal of an integer, and of one that fits 64 bits
* `Json.EndsNumber` — what follows cannot belong to a number
* `Json.LiteralAt` — the literal of an integer stands at a place

## Main results

* `Json.IsExactInteger.ofInt_eq` — an integer is written by the literal by which it is read
* `Json.readValue_eq_int_iff` — integers are what is read from literals
-/

namespace TraceText.Json

/-! ### Literals -/

/-- The literal of an integer: a numeral, perhaps behind a minus sign. -/
inductive IsInteger : Text → Int → Prop where
  | nonneg {ds : Text} (h : Decimal.IsNumeral ds) : IsInteger ds (Decimal.value ds)
  | neg {ds : Text} (h : Decimal.IsNumeral ds) : IsInteger ('-' :: ds) (-(Decimal.value ds : Int))

/-- The literal of an integer that is read exactly: it fits 64 bits, with or without a sign, and is
not that of the negative zero. -/
structure IsExactInteger (lit : Text) (i : Int) : Prop where
  isInteger : IsInteger lit i
  low : minInt ≤ i
  high : i ≤ maxNat
  ne_negZero : lit ≠ "-0".toList

/-- A text cannot continue the literal of an integer, to another number. -/
def EndsNumber (rest : Text) : Prop :=
  ∀ c ∈ rest.head?, c.isDigit = false ∧ c ≠ '.' ∧ c ≠ 'e' ∧ c ≠ 'E'

/-- The literal of an integer stands at a place, behind blanks. -/
def LiteralAt (place lit : Text) (i : Int) : Prop :=
  ∃ rest, IsExactInteger lit i ∧ EndsNumber rest ∧ skipSpace place = lit ++ rest

variable {lit rest : Text} {i : Int}

/-- Behind a minus sign, only a lone zero denotes zero. -/
theorem value_pos_of_neg {ds : Text} (h : Decimal.IsNumeral ds) (hzero : '-' :: ds ≠ "-0".toList) :
    0 < Decimal.value ds := by
  rw [Nat.pos_iff_ne_zero]
  intro hvalue
  have hwritten := Decimal.digits_value h
  rw [hvalue] at hwritten
  exact hzero (congrArg ('-' :: ·) hwritten.symm)

/-- An integer is written by the literal by which it is read. -/
theorem IsExactInteger.ofInt_eq (h : IsExactInteger lit i) : Decimal.ofInt i = lit := by
  obtain ⟨hinteger, -, -, hzero⟩ := h
  cases hinteger with
  | nonneg hnumeral => rw [Decimal.ofInt_natCast, Decimal.digits_value hnumeral]
  | neg hnumeral =>
    have hpos := value_pos_of_neg hnumeral hzero
    rw [Decimal.ofInt, if_pos (by omega), Int.natAbs_neg, Int.natAbs_natCast,
      Decimal.digits_value hnumeral]

/-! ### Reading -/

theorem readDigits_eq_ok_iff {t ds : Text} :
    readDigits t = .ok (ds, rest) ↔ ds ≠ [] ∧ Decimal.spanDigits t = (ds, rest) := by
  unfold readDigits
  dsimp only
  split
  · next hnone =>
    constructor
    · intro h
      cases h
    · intro h
      rw [h.2] at hnone
      exact absurd hnone h.1
  · next hsome =>
    constructor
    · intro h
      cases h
      exact ⟨hsome, rfl⟩
    · intro h
      rw [h.2]

theorem readFraction_eq_none_iff {t : Text} :
    readFraction t = .ok (none, rest) ↔ t = rest ∧ ∀ c ∈ rest.head?, c ≠ '.' := by
  unfold readFraction
  split
  · next t =>
    constructor
    · intro h
      obtain ⟨_, -, heq⟩ := map_eq_ok_iff.mp h
      cases heq
    · intro h
      obtain ⟨rfl, hpoint⟩ := h
      exact absurd rfl (hpoint '.' rfl)
  · next hpoint =>
    constructor
    · intro h
      cases h
      refine ⟨rfl, ?_⟩
      rintro c hc rfl
      obtain ⟨_, heq⟩ := List.head?_eq_some_iff.mp hc
      exact hpoint _ heq
    · intro h
      rw [h.1]

theorem readExponent_eq_none_iff {t : Text} :
    readExponent t = .ok (none, rest) ↔ t = rest ∧ ∀ c ∈ rest.head?, c ≠ 'e' ∧ c ≠ 'E' := by
  cases t with
  | nil =>
    constructor
    · intro h
      cases h
      exact ⟨rfl, nofun⟩
    · intro h
      rw [← h.1]
      rfl
  | cons c t =>
    by_cases hc : c = 'e' ∨ c = 'E'
    · constructor
      · intro h
        simp only [readExponent, if_pos hc] at h
        obtain ⟨_, -, heq⟩ := map_eq_ok_iff.mp h
        cases heq
      · intro h
        obtain ⟨rfl, hplain⟩ := h
        exact absurd hc (not_or.mpr (hplain c rfl))
    · simp only [readExponent, if_neg hc]
      constructor
      · intro h
        cases h
        refine ⟨rfl, ?_⟩
        rintro _ ⟨⟩
        exact not_or.mp hc
      · intro h
        rw [h.1]

/-- A number behind its sign. -/
def readUnsigned (negative : Bool) (t : Text) : Except JsonError (Numeral × Text) := do
  let (whole, t) ← readDigits t
  if whole.length ≠ 1 ∧ whole.head? = some '0' then throw .malformed
  let (fraction, t) ← readFraction t
  let (exponent, t) ← readExponent t
  return (⟨negative, whole, fraction, exponent⟩, t)

theorem readNumeral_minus (t : Text) : readNumeral ('-' :: t) = readUnsigned true t := rfl

theorem readNumeral_of_ne {t : Text} (h : t.head? ≠ some '-') :
    readNumeral t = readUnsigned false t := by
  cases t with
  | nil => rfl
  | cons c t =>
    have hsign : c ≠ '-' := fun heq => h (congrArg some heq)
    unfold readNumeral
    split
    next hparts =>
    split at hparts
    · next heq => exact absurd (List.cons.inj heq).1 hsign
    · cases hparts
      rfl

/-- A number has no parts but digits exactly if it is a numeral. -/
theorem readUnsigned_eq_ok_iff {negative sign : Bool} {t ds : Text} :
    readUnsigned negative t = .ok (⟨sign, ds, none, none⟩, rest) ↔
      sign = negative ∧ Decimal.IsNumeral ds ∧ EndsNumber rest ∧ t = ds ++ rest := by
  constructor
  · intro h
    obtain ⟨⟨whole, t₁⟩, hwhole, h⟩ := bind_eq_ok_iff.mp h
    dsimp only at h
    split at h
    · cases h
    next hlong =>
    obtain ⟨⟨fraction, t₂⟩, hfraction, h⟩ := bind_eq_ok_iff.mp h
    obtain ⟨⟨exponent, t₃⟩, hexponent, heq⟩ := bind_eq_ok_iff.mp h
    cases heq
    obtain ⟨rfl, he⟩ := readExponent_eq_none_iff.mp hexponent
    obtain ⟨rfl, hpoint⟩ := readFraction_eq_none_iff.mp hfraction
    obtain ⟨hne, hspan⟩ := readDigits_eq_ok_iff.mp hwhole
    obtain ⟨hdigits, hend, rfl⟩ := Decimal.spanDigits_eq_iff.mp hspan
    refine ⟨rfl, ⟨hne, hdigits, ?_⟩, fun c hc => ⟨hend c hc, hpoint c hc, he c hc⟩, rfl⟩
    -- a zero in front of other digits would have been refused
    intro hhead
    have hlength : ds.length = 1 := by
      by_contra hne
      exact hlong ⟨hne, hhead⟩
    obtain ⟨c, rfl⟩ := List.length_eq_one_iff.mp hlength
    rw [Option.some.inj hhead]
  · intro h
    obtain ⟨rfl, hnumeral, hrest, rfl⟩ := h
    have hwhole : readDigits (ds ++ rest) = .ok (ds, rest) :=
      readDigits_eq_ok_iff.mpr ⟨hnumeral.ne_nil, Decimal.spanDigits_eq_iff.mpr
        ⟨hnumeral.isDigit, fun c hc => (hrest c hc).1, rfl⟩⟩
    have hlong : ¬ (ds.length ≠ 1 ∧ ds.head? = some '0') := by
      intro hlong
      exact hlong.1 (by rw [hnumeral.alone hlong.2]; rfl)
    have hfraction : readFraction rest = .ok (none, rest) :=
      readFraction_eq_none_iff.mpr ⟨rfl, fun c hc => (hrest c hc).2.1⟩
    have hexponent : readExponent rest = .ok (none, rest) :=
      readExponent_eq_none_iff.mpr ⟨rfl, fun c hc => (hrest c hc).2.2⟩
    simp only [readUnsigned, hwhole, bind, Except.bind, if_neg hlong, hfraction, hexponent]
    rfl

/-- A number is an integer by the way in which it is written, whatever float it would be
otherwise. -/
theorem written_eq_int_iff {float : Option Json} (hfloat : float ≠ some (.int i)) (n : Numeral) :
    (if n.fraction.isSome || n.exponent.isSome then float
      else if n.negative then
        if (Decimal.value n.whole : Int) = 0 ∨ -minInt < (Decimal.value n.whole : Int) then float
        else some (.int (-(Decimal.value n.whole : Int)))
      else if (Decimal.value n.whole : Int) ≤ maxNat then some (.int (Decimal.value n.whole : Int))
      else float) = some (.int i) ↔
    n.fraction = none ∧ n.exponent = none ∧
      if n.negative then i = -(Decimal.value n.whole : Int) ∧ i ≠ 0 ∧ minInt ≤ i
      else i = Decimal.value n.whole ∧ i ≤ maxNat := by
  obtain ⟨negative, whole, fraction, exponent⟩ := n
  dsimp only
  by_cases hparts : (fraction.isSome || exponent.isSome) = true
  · rw [if_pos hparts]
    constructor
    · intro h
      exact absurd h hfloat
    · intro h
      obtain ⟨rfl, rfl, -⟩ := h
      cases hparts
  · rw [if_neg hparts]
    obtain ⟨rfl, rfl⟩ : fraction = none ∧ exponent = none := by simpa using hparts
    simp only [true_and]
    cases negative with
    | false =>
      rw [if_neg Bool.false_ne_true, if_neg Bool.false_ne_true]
      split
      · next hfits =>
        constructor
        · intro h
          cases h
          exact ⟨rfl, hfits⟩
        · intro h
          rw [h.1]
      · next hlarge =>
        constructor
        · intro h
          exact absurd h hfloat
        · intro h
          exact absurd (h.1 ▸ h.2) hlarge
    | true =>
      rw [if_pos rfl, if_pos rfl]
      split
      · next hmisfit =>
        constructor
        · intro h
          exact absurd h hfloat
        · intro h
          omega
      · next hfits =>
        constructor
        · intro h
          cases h
          omega
        · intro h
          rw [h.1]

/-- What is written without a point and without an exponent is an integer if it fits 64 bits and is
no negative zero. -/
theorem ofNumeral_eq_int_iff {n : Numeral} :
    ofNumeral n = some (.int i) ↔ n.fraction = none ∧ n.exponent = none ∧
      if n.negative then i = -(Decimal.value n.whole : Int) ∧ i ≠ 0 ∧ minInt ≤ i
      else i = Decimal.value n.whole ∧ i ≤ maxNat := by
  unfold ofNumeral
  dsimp only
  generalize Binary64.ofDecimal n.negative _ _ = x
  -- a float is no integer
  cases x with
  | finite negative m q => exact written_eq_int_iff (by simp) n
  | _ =>
    dsimp only
    exact written_eq_int_iff (by simp) n

theorem readNumber_eq_ok_iff {t : Text} {json : Json} :
    readNumber t = .ok (json, rest) ↔
      ∃ n, readNumeral t = .ok (n, rest) ∧ ofNumeral n = some json := by
  constructor
  · intro h
    obtain ⟨⟨n, t'⟩, hread, h⟩ := bind_eq_ok_iff.mp h
    dsimp only at h
    split at h
    · next hvalue =>
      cases h
      exact ⟨n, hread, hvalue⟩
    · cases h
  · intro h
    obtain ⟨n, hread, hvalue⟩ := h
    simp only [readNumber, hread, bind, Except.bind, hvalue]
    rfl

/-- A number is read as an integer exactly if it is the literal of one. -/
theorem readNumber_eq_int_iff {t : Text} :
    readNumber t = .ok (.int i, rest) ↔
      ∃ lit, IsExactInteger lit i ∧ EndsNumber rest ∧ t = lit ++ rest := by
  simp only [readNumber_eq_ok_iff, ofNumeral_eq_int_iff]
  constructor
  · intro h
    obtain ⟨⟨negative, ds, fraction, exponent⟩, hread, rfl, rfl, hvalue⟩ := h
    by_cases hminus : t.head? = some '-'
    · obtain ⟨t, rfl⟩ := List.head?_eq_some_iff.mp hminus
      rw [readNumeral_minus] at hread
      obtain ⟨rfl, hnumeral, hrest, rfl⟩ := readUnsigned_eq_ok_iff.mp hread
      obtain ⟨rfl, hne, hlow⟩ : i = -(Decimal.value ds : Int) ∧ i ≠ 0 ∧ minInt ≤ i := hvalue
      have hhigh : -(Decimal.value ds : Int) ≤ maxNat := by
        have hmax : (0 : Int) ≤ maxNat := by decide
        omega
      refine ⟨_, ⟨.neg hnumeral, hlow, hhigh, ?_⟩, hrest, rfl⟩
      -- the negative zero is read as a float
      intro hzero
      rw [(List.cons.inj hzero).2] at hne
      exact hne rfl
    · rw [readNumeral_of_ne hminus] at hread
      obtain ⟨rfl, hnumeral, hrest, rfl⟩ := readUnsigned_eq_ok_iff.mp hread
      obtain ⟨rfl, hhigh⟩ : i = Decimal.value ds ∧ i ≤ maxNat := hvalue
      have hlow : minInt ≤ (Decimal.value ds : Int) := by
        have hmin : minInt ≤ 0 := by decide
        omega
      refine ⟨_, ⟨.nonneg hnumeral, hlow, hhigh, ?_⟩, hrest, rfl⟩
      rintro rfl
      exact absurd (hnumeral.isDigit '-' List.mem_cons_self) (by decide)
  · intro h
    obtain ⟨lit, ⟨hlit, hlow, hhigh, hzero⟩, hrest, rfl⟩ := h
    cases hlit with
    | nonneg hnumeral =>
      -- a digit is no sign
      have hsign : (lit ++ rest).head? ≠ some '-' := by
        rw [List.head?_append_of_ne_nil _ hnumeral.ne_nil]
        intro hminus
        exact absurd (hnumeral.isDigit '-' (List.mem_of_mem_head? hminus)) (by decide)
      refine ⟨⟨false, lit, none, none⟩, ?_, rfl, rfl, rfl, hhigh⟩
      rw [readNumeral_of_ne hsign]
      exact readUnsigned_eq_ok_iff.mpr ⟨rfl, hnumeral, hrest, rfl⟩
    | @neg ds hnumeral =>
      have hpos := value_pos_of_neg hnumeral hzero
      refine ⟨⟨true, ds, none, none⟩, ?_, rfl, rfl, rfl, by omega, hlow⟩
      exact readUnsigned_eq_ok_iff.mpr ⟨rfl, hnumeral, hrest, rfl⟩

/-- A literal begins with a minus sign or a digit. -/
theorem first_of_readNumber_int {t : Text} (h : readNumber t = .ok (.int i, rest)) :
    ∀ c ∈ t.head?, c = '-' ∨ c.isDigit = true := by
  obtain ⟨lit, hlit, -, rfl⟩ := readNumber_eq_int_iff.mp h
  intro c hc
  cases hlit.isInteger with
  | nonneg hnumeral =>
    right
    rw [List.head?_append_of_ne_nil _ hnumeral.ne_nil] at hc
    exact hnumeral.isDigit c (List.mem_of_mem_head? hc)
  | neg _ =>
    left
    exact (Option.some.inj hc).symm

/-- Where a number is read as a value, it is read as a number. -/
theorem readNumber_of_readValue {depth : Nat} {place : Text} {json : Json}
    (hnumber : (∃ i, json = .int i) ∨ ∃ x, json = .float x)
    (h : readValue (depth + 1) place = .ok (json, rest)) :
    readNumber (skipSpace place) = .ok (json, rest) := by
  unfold readValue at h
  split at h
  case h_7 => exact h
  case h_5 | h_6 =>
    split at h
    · cases h
    · obtain ⟨_, -, heq⟩ := bind_eq_ok_iff.mp h
      cases heq
      simp at hnumber
  all_goals
    obtain ⟨_, -, heq⟩ := bind_eq_ok_iff.mp h
    cases heq
    simp at hnumber

/-- Where a value is read, it is an integer exactly if its literal stands there. -/
theorem readValue_eq_int_iff {depth : Nat} {place : Text} :
    (∃ rest, readValue (depth + 1) place = .ok (.int i, rest)) ↔ ∃ lit, LiteralAt place lit i := by
  have hnumber : (∃ lit, LiteralAt place lit i) ↔
      ∃ rest, readNumber (skipSpace place) = .ok (.int i, rest) := by
    simp only [readNumber_eq_int_iff, LiteralAt]
    exact exists_comm
  rw [hnumber]
  apply exists_congr
  intro rest
  constructor
  · exact readNumber_of_readValue (.inl ⟨i, rfl⟩)
  · intro h
    -- no other value begins with a sign or a digit
    have hfirst := first_of_readNumber_int h
    unfold readValue
    split
    case h_7 => exact h
    all_goals
      next heq =>
        rw [heq] at hfirst
        exact absurd (hfirst _ rfl) (by decide)

end TraceText.Json
