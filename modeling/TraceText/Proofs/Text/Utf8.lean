import TraceText.Text.Utf8

/-!
# Texts are read back from their bytes

The bytes of a text are decoded to this text again, and no other bytes are decoded at all.  No byte
of a character beyond ASCII looks like an ASCII character, so that bytes can be cut where such
characters are.

## Main results

* `Utf8.first?_encodeChar` — a character is read back from its bytes
* `Utf8.decode?_encode` — a text is read back from its bytes
* `Utf8.eq_of_mem_encodeChar` — an ASCII byte is always an ASCII character
* `Utf8.decode?_eq_some_iff` — exactly the bytes of texts are decoded
-/

namespace TraceText.Utf8

theorem scalar?_toNat {least : Nat} {c : Char} (h : least ≤ c.toNat) :
    scalar? least c.toNat = some c := by
  have hvalid : c.toNat.isValidChar := c.valid
  rw [scalar?, dif_pos hvalid, if_pos h]
  rfl

theorem tail?_ofNat (n : Nat) : tail? (UInt8.ofNat (n % 64 + 128)) = some (n % 64) := by
  have hn : (UInt8.ofNat (n % 64 + 128)).toNat = n % 64 + 128 := by
    rw [UInt8.toNat_ofNat']
    omega
  have hrange : 0x80 ≤ UInt8.ofNat (n % 64 + 128) ∧ UInt8.ofNat (n % 64 + 128) < 0xC0 := by
    rw [UInt8.le_iff_toNat_le, UInt8.lt_iff_toNat_lt, hn]
    change 128 ≤ _ ∧ _ < 192
    omega
  rw [tail?, if_pos hrange, hn, Nat.add_sub_cancel]

/-! ### One character

How many bytes a character has shows in the first one. -/

section Lead

variable {a : UInt8}

theorem first?_one (h : a.toNat < 0x80) (rest : List UInt8) :
    first? (a :: rest) = (scalar? 0 a.toNat).map fun c => (c, rest) := by
  have ha : a < 0x80 := UInt8.lt_iff_toNat_lt.mpr h
  simp only [first?, if_pos ha]

theorem first?_two (h : 0xC0 ≤ a.toNat) (h' : a.toNat < 0xE0) (b : UInt8) (rest : List UInt8) :
    first? (a :: b :: rest) = do
      let n := (a.toNat - 0xC0) * 64 + (← tail? b)
      return (← scalar? 0x80 n, rest) := by
  have ha : ¬ a < 0x80 := by
    rw [UInt8.lt_iff_toNat_lt]
    change ¬ _ < 128
    omega
  have ha' : 0xC0 ≤ a ∧ a < 0xE0 := ⟨UInt8.le_iff_toNat_le.mpr h, UInt8.lt_iff_toNat_lt.mpr h'⟩
  simp only [first?, if_neg ha, if_pos ha']

theorem first?_three (h : 0xE0 ≤ a.toNat) (h' : a.toNat < 0xF0) (b c : UInt8)
    (rest : List UInt8) :
    first? (a :: b :: c :: rest) = do
      let n := ((a.toNat - 0xE0) * 64 + (← tail? b)) * 64 + (← tail? c)
      return (← scalar? 0x800 n, rest) := by
  have ha : ¬ a < 0x80 ∧ ¬ (0xC0 ≤ a ∧ a < 0xE0) := by
    rw [UInt8.lt_iff_toNat_lt, UInt8.le_iff_toNat_le, UInt8.lt_iff_toNat_lt]
    change ¬ _ < 128 ∧ ¬ (192 ≤ _ ∧ _ < 224)
    omega
  have ha' : 0xE0 ≤ a ∧ a < 0xF0 := ⟨UInt8.le_iff_toNat_le.mpr h, UInt8.lt_iff_toNat_lt.mpr h'⟩
  simp only [first?, if_neg ha.1, if_neg ha.2, if_pos ha']

theorem first?_four (h : 0xF0 ≤ a.toNat) (h' : a.toNat < 0xF8) (b c d : UInt8)
    (rest : List UInt8) :
    first? (a :: b :: c :: d :: rest) = do
      let n := (((a.toNat - 0xF0) * 64 + (← tail? b)) * 64 + (← tail? c)) * 64 + (← tail? d)
      return (← scalar? 0x10000 n, rest) := by
  have ha : ¬ a < 0x80 ∧ ¬ (0xC0 ≤ a ∧ a < 0xE0) ∧ ¬ (0xE0 ≤ a ∧ a < 0xF0) := by
    rw [UInt8.lt_iff_toNat_lt, UInt8.le_iff_toNat_le, UInt8.lt_iff_toNat_lt,
      UInt8.le_iff_toNat_le, UInt8.lt_iff_toNat_lt]
    change ¬ _ < 128 ∧ ¬ (192 ≤ _ ∧ _ < 224) ∧ ¬ (224 ≤ _ ∧ _ < 240)
    omega
  have ha' : 0xF0 ≤ a ∧ a < 0xF8 := ⟨UInt8.le_iff_toNat_le.mpr h, UInt8.lt_iff_toNat_lt.mpr h'⟩
  simp only [first?, if_neg ha.1, if_neg ha.2.1, if_neg ha.2.2, if_pos ha']

end Lead

theorem toNat_lt (c : Char) : c.toNat < 0x110000 := by
  have hvalid := c.valid
  simp only [UInt32.isValidChar, Nat.isValidChar] at hvalid
  change c.val.toNat < _
  omega

/-- A character is read back from its bytes. -/
theorem first?_encodeChar (c : Char) (rest : List UInt8) :
    first? (String.utf8EncodeChar c ++ rest) = some (c, rest) := by
  have hmax := toNat_lt c
  have hval : c.val.toNat = c.toNat := rfl
  -- the first byte, which also holds the highest bits
  have hlead {n : Nat} (hn : n < 256) : (UInt8.ofNat n).toNat = n := by
    rw [UInt8.toNat_ofNat']
    omega
  -- one case for each number of bytes; what they hold adds up to the character again
  simp only [String.utf8EncodeChar, hval]
  split
  · have hn := @hlead c.toNat (by omega)
    rw [List.singleton_append, first?_one (by omega), hn, scalar?_toNat (Nat.zero_le _)]
    rfl
  · split
    · have hn := @hlead (c.toNat / 64 % 32 + 192) (by omega)
      have hc : (c.toNat / 64 % 32 + 192 - 0xC0) * 64 + c.toNat % 64 = c.toNat := by omega
      have hleast : 0x80 ≤ c.toNat := by omega
      rw [List.cons_append, List.singleton_append, first?_two (by omega) (by omega), hn,
        tail?_ofNat]
      simp only [Option.bind_eq_bind, Option.bind_some, hc, scalar?_toNat hleast]
      rfl
    · split
      · have hn := @hlead (c.toNat / 4096 % 16 + 224) (by omega)
        have hc : ((c.toNat / 4096 % 16 + 224 - 0xE0) * 64 + c.toNat / 64 % 64) * 64 +
            c.toNat % 64 = c.toNat := by omega
        have hleast : 0x800 ≤ c.toNat := by omega
        simp only [List.cons_append, List.nil_append]
        rw [first?_three (by omega) (by omega), hn, tail?_ofNat, tail?_ofNat]
        simp only [Option.bind_eq_bind, Option.bind_some, hc, scalar?_toNat hleast]
        rfl
      · have hn := @hlead (c.toNat / 262144 % 8 + 240) (by omega)
        have hc : (((c.toNat / 262144 % 8 + 240 - 0xF0) * 64 + c.toNat / 4096 % 64) * 64 +
            c.toNat / 64 % 64) * 64 + c.toNat % 64 = c.toNat := by omega
        have hleast : 0x10000 ≤ c.toNat := by omega
        simp only [List.cons_append, List.nil_append]
        rw [first?_four (by omega) (by omega), hn, tail?_ofNat, tail?_ofNat, tail?_ofNat]
        simp only [Option.bind_eq_bind, Option.bind_some, hc, scalar?_toNat hleast]
        rfl

/-! ### Texts -/

theorem encode_cons (c : Char) (t : Text) : encode (c :: t) = String.utf8EncodeChar c ++ encode t :=
  rfl

theorem decodeFrom_encode {fuel : Nat} {t : Text} (h : (encode t).length ≤ fuel) :
    decodeFrom fuel (encode t) = some t := by
  induction t generalizing fuel with
  | nil => rw [encode_nil, decodeFrom]
  | cons c t ih =>
    have hpos : 0 < (String.utf8EncodeChar c).length := by
      rw [String.length_utf8EncodeChar]
      exact c.utf8Size_pos
    rw [encode_cons, List.length_append] at h
    obtain ⟨fuel, rfl⟩ : ∃ n, fuel = n + 1 := ⟨fuel - 1, by omega⟩
    have hfirst := first?_encodeChar c (encode t)
    rw [encode_cons]
    cases hb : String.utf8EncodeChar c ++ encode t with
    | nil =>
      rw [hb] at hfirst
      cases hfirst
    | cons b bytes =>
      rw [hb] at hfirst
      have hrest : decodeFrom fuel (encode t) = some t := ih (by omega)
      simp only [decodeFrom, hfirst, Option.bind_eq_bind, Option.bind_some, hrest]
      rfl

/-- A text is read back from its bytes. -/
@[simp] theorem decode?_encode (t : Text) : decode? (encode t) = some t :=
  decodeFrom_encode (Nat.le_refl _)

/-! ### ASCII bytes -/

theorem encodeChar_of_lt {c : Char} (h : c.toNat < 0x80) :
    String.utf8EncodeChar c = [UInt8.ofNat c.toNat] := by
  have hval : c.val.toNat = c.toNat := rfl
  simp only [String.utf8EncodeChar, hval, if_pos (show c.toNat ≤ 127 by omega)]

/-- No byte of a character beyond ASCII looks like ASCII. -/
theorem le_toNat_of_mem_encodeChar {c : Char} {b : UInt8} (h : 0x80 ≤ c.toNat)
    (hb : b ∈ String.utf8EncodeChar c) : 0x80 ≤ b.toNat := by
  have hval : c.val.toNat = c.toNat := rfl
  have hbyte {n : Nat} (hn : 0x80 ≤ n % 256) : 0x80 ≤ (UInt8.ofNat n).toNat := by
    rwa [UInt8.toNat_ofNat']
  simp only [String.utf8EncodeChar, hval, if_neg (show ¬ c.toNat ≤ 127 by omega)] at hb
  split at hb
  · simp only [List.mem_cons, List.not_mem_nil, or_false] at hb
    rcases hb with rfl | rfl <;> exact hbyte (by omega)
  · split at hb
    · simp only [List.mem_cons, List.not_mem_nil, or_false] at hb
      rcases hb with rfl | rfl | rfl <;> exact hbyte (by omega)
    · simp only [List.mem_cons, List.not_mem_nil, or_false] at hb
      rcases hb with rfl | rfl | rfl | rfl <;> exact hbyte (by omega)

/-- An ASCII byte in a character is all of this character. -/
theorem eq_of_mem_encodeChar {c : Char} {b : UInt8} (hb : b ∈ String.utf8EncodeChar c)
    (h : b.toNat < 0x80) : c = Char.ofNat b.toNat := by
  by_cases hc : c.toNat < 0x80
  · rw [encodeChar_of_lt hc, List.mem_singleton] at hb
    have hn : b.toNat = c.toNat := by
      rw [hb, UInt8.toNat_ofNat']
      omega
    rw [hn, Char.ofNat_toNat]
  · have := le_toNat_of_mem_encodeChar (Nat.le_of_not_lt hc) hb
    omega

/-! ### Bytes that are decoded

What is decoded are the bytes of a text and nothing else.  Again there is one case for each number
of bytes of a character. -/

theorem toNat_of_scalar? {least n : Nat} {c : Char} (h : scalar? least n = some c) :
    c.toNat = n ∧ least ≤ n := by
  unfold scalar? at h
  by_cases hvalid : n.isValidChar
  · rw [dif_pos hvalid] at h
    by_cases hleast : least ≤ n
    · rw [if_pos hleast] at h
      obtain rfl := Option.some.inj h
      exact ⟨rfl, hleast⟩
    · rw [if_neg hleast] at h
      cases h
  · rw [dif_neg hvalid] at h
    cases h

theorem toNat_of_tail? {b : UInt8} {n : Nat} (h : tail? b = some n) :
    b.toNat = n + 128 ∧ n < 64 := by
  unfold tail? at h
  split at h
  · next hrange =>
    simp only [UInt8.le_iff_toNat_le, UInt8.lt_iff_toNat_lt, UInt8.reduceToNat] at hrange
    have hn : b.toNat - 0x80 = n := Option.some.inj h
    omega
  · cases h

section Bytes

variable {c : Char} {a b d e : UInt8}

theorem encodeChar_two (hlow : 0x80 ≤ c.toNat) (hhigh : c.toNat < 0x800)
    (ha : a.toNat = c.toNat / 64 + 0xC0) (hb : b.toNat = c.toNat % 64 + 0x80) :
    String.utf8EncodeChar c = [a, b] := by
  have hval : c.val.toNat = c.toNat := rfl
  simp only [String.utf8EncodeChar, hval, if_neg (show ¬ c.toNat ≤ 127 by omega),
    if_pos (show c.toNat ≤ 2047 by omega), List.cons.injEq, ← UInt8.toNat_inj, ha, hb,
    UInt8.toNat_ofNat', and_true]
  omega

theorem encodeChar_three (hlow : 0x800 ≤ c.toNat) (hhigh : c.toNat < 0x10000)
    (ha : a.toNat = c.toNat / 4096 + 0xE0) (hb : b.toNat = c.toNat / 64 % 64 + 0x80)
    (hd : d.toNat = c.toNat % 64 + 0x80) : String.utf8EncodeChar c = [a, b, d] := by
  have hval : c.val.toNat = c.toNat := rfl
  simp only [String.utf8EncodeChar, hval, if_neg (show ¬ c.toNat ≤ 127 by omega),
    if_neg (show ¬ c.toNat ≤ 2047 by omega), if_pos (show c.toNat ≤ 65535 by omega),
    List.cons.injEq, ← UInt8.toNat_inj, ha, hb, hd, UInt8.toNat_ofNat', and_true]
  omega

theorem encodeChar_four (hlow : 0x10000 ≤ c.toNat)
    (ha : a.toNat = c.toNat / 262144 + 0xF0) (hb : b.toNat = c.toNat / 4096 % 64 + 0x80)
    (hd : d.toNat = c.toNat / 64 % 64 + 0x80) (he : e.toNat = c.toNat % 64 + 0x80) :
    String.utf8EncodeChar c = [a, b, d, e] := by
  have hval : c.val.toNat = c.toNat := rfl
  have hmax := toNat_lt c
  simp only [String.utf8EncodeChar, hval, if_neg (show ¬ c.toNat ≤ 127 by omega),
    if_neg (show ¬ c.toNat ≤ 2047 by omega), if_neg (show ¬ c.toNat ≤ 65535 by omega),
    List.cons.injEq, ← UInt8.toNat_inj, ha, hb, hd, he, UInt8.toNat_ofNat', and_true]
  omega

end Bytes

/-- What is decoded as a character begins with the bytes of this character. -/
theorem eq_encodeChar_append_of_first? {bytes rest : List UInt8} {c : Char}
    (h : first? bytes = some (c, rest)) : bytes = String.utf8EncodeChar c ++ rest := by
  cases bytes with
  | nil => cases h
  | cons a after =>
    simp only [first?, UInt8.lt_iff_toNat_lt, UInt8.le_iff_toNat_le, UInt8.reduceToNat] at h
    split at h
    · obtain ⟨_, hc, heq⟩ := Option.map_eq_some_iff.mp h
      cases heq
      obtain ⟨hn, -⟩ := toNat_of_scalar? hc
      rw [encodeChar_of_lt (by omega), hn, UInt8.ofNat_toNat]
      rfl
    -- a character that is cut short is not decoded
    split at h
    · rcases after with _ | ⟨b, after⟩
      · cases h
      simp only [Option.bind_eq_bind, Option.bind_eq_some_iff] at h
      obtain ⟨x, hx, _, hc, heq⟩ := h
      cases heq
      obtain ⟨hb, hx⟩ := toNat_of_tail? hx
      obtain ⟨hn, hleast⟩ := toNat_of_scalar? hc
      have hbytes : String.utf8EncodeChar c = [a, b] := by
        apply encodeChar_two <;> omega
      rw [hbytes]
      rfl
    split at h
    · rcases after with _ | ⟨b, _ | ⟨d, after⟩⟩
      · cases h
      · cases h
      simp only [Option.bind_eq_bind, Option.bind_eq_some_iff] at h
      obtain ⟨x, hx, y, hy, _, hc, heq⟩ := h
      cases heq
      obtain ⟨hb, hx⟩ := toNat_of_tail? hx
      obtain ⟨hd, hy⟩ := toNat_of_tail? hy
      obtain ⟨hn, hleast⟩ := toNat_of_scalar? hc
      have hbytes : String.utf8EncodeChar c = [a, b, d] := by
        apply encodeChar_three <;> omega
      rw [hbytes]
      rfl
    split at h
    · rcases after with _ | ⟨b, _ | ⟨d, _ | ⟨e, after⟩⟩⟩
      · cases h
      · cases h
      · cases h
      simp only [Option.bind_eq_bind, Option.bind_eq_some_iff] at h
      obtain ⟨x, hx, y, hy, z, hz, _, hc, heq⟩ := h
      cases heq
      obtain ⟨hb, hx⟩ := toNat_of_tail? hx
      obtain ⟨hd, hy⟩ := toNat_of_tail? hy
      obtain ⟨he, hz⟩ := toNat_of_tail? hz
      obtain ⟨hn, hleast⟩ := toNat_of_scalar? hc
      have hbytes : String.utf8EncodeChar c = [a, b, d, e] := by
        apply encodeChar_four <;> omega
      rw [hbytes]
      rfl
    · cases h

theorem eq_encode_of_decodeFrom {fuel : Nat} {bytes : List UInt8} {t : Text}
    (h : decodeFrom fuel bytes = some t) : bytes = encode t := by
  induction fuel generalizing bytes t with
  | zero =>
    cases bytes with
    | nil =>
      cases h
      rfl
    | cons b bytes => cases h
  | succ fuel ih =>
    cases bytes with
    | nil =>
      cases h
      rfl
    | cons b bytes =>
      simp only [decodeFrom, Option.bind_eq_bind, Option.bind_eq_some_iff] at h
      obtain ⟨⟨c, rest⟩, hfirst, t, hrest, heq⟩ := h
      cases heq
      dsimp only at hrest ⊢
      rw [eq_encodeChar_append_of_first? hfirst, ih hrest, encode_cons]

/-- Exactly the bytes of a text are decoded to it. -/
theorem decode?_eq_some_iff {bytes : List UInt8} {t : Text} :
    decode? bytes = some t ↔ bytes = encode t := by
  constructor
  · exact eq_encode_of_decodeFrom
  · rintro rfl
    exact decode?_encode t

end TraceText.Utf8
