import TraceText.Template.Marker

/-!
# Where markers begin

A marker begins at a position of a text if an opening brace stands there, at least one character
that is no closing brace follows, and then a closing brace.  The scan of a template finds the
leftmost marker, goes on behind it, and loses nothing.

## Main definitions

* `Marker.BeginsAt` — whether a marker begins at a position
* `Marker.join` — the text of literals, markers and a tail
* `Marker.IsLeftmost` — whether markers are the leftmost ones from a position on
* `Marker.fuse`, `Marker.append` — literals and markers behind a literal, or behind others

## Main results

* `Marker.split_cons_of_marker`, `Marker.split_cons_of_not_beginsAt` — the two steps of the scan
* `Marker.join_split` — the scan loses nothing
* `Marker.isLeftmost_split` — it finds the leftmost markers
-/

namespace TraceText.Marker

/-- Whether characters can stand between the braces of a marker. -/
def IsBody (body : Text) : Prop := body ≠ [] ∧ '}' ∉ body

/-- Whether a marker begins at position `i` of a text. -/
def BeginsAt (t : Text) (i : Nat) : Prop :=
  ∃ body rest, IsBody body ∧ t.drop i = '{' :: body ++ '}' :: rest

/-- The text of literals with the markers behind them, and a tail. -/
def join : List (Text × Text) → Text → Text
  | [], tail => tail
  | (literal, body) :: rest, tail => literal ++ '{' :: body ++ '}' :: join rest tail

/-- Whether the markers behind these literals, and no others, are found by a scan of the text that
goes on from position `start`: each is the leftmost one at or behind the end of the one before. -/
def IsLeftmost (t : Text) : Nat → List (Text × Text) → Prop
  | start, [] => ∀ i, start ≤ i → ¬ BeginsAt t i
  | start, (literal, body) :: rest =>
    BeginsAt t (start + literal.length) ∧
      (∀ i, start ≤ i → i < start + literal.length → ¬ BeginsAt t i) ∧
      IsLeftmost t (start + literal.length + body.length + 2) rest

/-! ### Markers at the start of a text -/

theorem atStart?_marker {body : Text} (h : IsBody body) (rest : Text) :
    atStart? ('{' :: body ++ '}' :: rest) = some (body, rest) := by
  obtain ⟨hne, hmem⟩ := h
  have hall : ∀ c ∈ body, decide (c ≠ '}') = true := by
    intro c hc
    exact decide_eq_true fun heq => hmem (heq ▸ hc)
  have htake : (body ++ '}' :: rest).takeWhile (· ≠ '}') = body := by
    rw [List.takeWhile_append_of_pos hall]
    simp
  have hdrop : (body ++ '}' :: rest).dropWhile (· ≠ '}') = '}' :: rest := by
    rw [List.dropWhile_append_of_pos hall]
    simp
  obtain ⟨b, body', rfl⟩ := List.exists_cons_of_ne_nil hne
  simp only [List.cons_append] at htake hdrop ⊢
  simp only [atStart?, htake, hdrop]

theorem eq_marker_of_atStart? {t body rest : Text} (h : atStart? t = some (body, rest)) :
    IsBody body ∧ t = '{' :: body ++ '}' :: rest := by
  unfold atStart? at h
  split at h
  · next u =>
    split at h
    · next b body' c rest' htake hdrop =>
      obtain ⟨rfl, rfl⟩ := Prod.mk.inj (Option.some.inj h)
      -- the body ends only at a closing brace
      have hc : c = '}' := by
        have hstop := List.head?_dropWhile_not (fun c => decide (c ≠ '}')) u
        rw [hdrop] at hstop
        simpa using hstop
      have hbody : '}' ∉ b :: body' := by
        intro hmem
        rw [← htake] at hmem
        simpa using List.all_eq_true.mp List.all_takeWhile _ hmem
      refine ⟨⟨List.cons_ne_nil _ _, hbody⟩, ?_⟩
      rw [List.cons_append, ← htake, ← hc, ← hdrop, hc, List.takeWhile_append_dropWhile]
    · cases h
  · cases h

/-- A marker begins at the start of a text exactly if it is found there. -/
theorem beginsAt_zero_iff {t : Text} : BeginsAt t 0 ↔ (atStart? t).isSome := by
  constructor
  · rintro ⟨body, rest, hbody, heq⟩
    rw [List.drop_zero] at heq
    rw [heq, atStart?_marker hbody]
    rfl
  · intro h
    obtain ⟨⟨body, rest⟩, hsome⟩ := Option.isSome_iff_exists.mp h
    obtain ⟨hbody, heq⟩ := eq_marker_of_atStart? hsome
    exact ⟨body, rest, hbody, heq⟩

/-- A marker that begins in a text begins there also if more text stands around it. -/
theorem beginsAt_append_left {u t : Text} {i : Nat} :
    BeginsAt (u ++ t) (u.length + i) ↔ BeginsAt t i := by
  unfold BeginsAt
  rw [List.drop_length_add_append]

theorem BeginsAt.lt_length {t : Text} {i : Nat} (h : BeginsAt t i) : i < t.length := by
  obtain ⟨body, rest, -, heq⟩ := h
  rcases Nat.lt_or_ge i t.length with hlt | hge
  · exact hlt
  · rw [List.drop_eq_nil_of_le hge] at heq
    cases heq

theorem BeginsAt.append_right {t : Text} {i : Nat} (h : BeginsAt t i) (u : Text) :
    BeginsAt (t ++ u) i := by
  have hle := Nat.le_of_lt h.lt_length
  obtain ⟨body, rest, hbody, heq⟩ := h
  refine ⟨body, rest ++ u, hbody, ?_⟩
  rw [List.drop_append_of_le_length hle, heq, List.append_assoc]
  rfl

/-! ### Steps of the scan -/

/-- Literals and markers behind a further literal. -/
def fuse {β : Type} (literal : Text) : List (Text × β) × Text → List (Text × β) × Text
  | ([], tail) => ([], literal ++ tail)
  | ((first, b) :: rest, tail) => ((literal ++ first, b) :: rest, tail)

/-- Literals and markers behind others. -/
def append {β : Type} (x y : List (Text × β) × Text) : List (Text × β) × Text :=
  (x.1 ++ (fuse x.2 y).1, (fuse x.2 y).2)

theorem split_nil : Marker.split [] = ([], []) := by
  rw [Marker.split]

/-- At a marker the scan goes on behind it. -/
theorem split_cons_of_marker {body : Text} (h : IsBody body) (rest : Text) :
    Marker.split ('{' :: body ++ '}' :: rest) =
      (([], body) :: (Marker.split rest).1, (Marker.split rest).2) := by
  have hstart := atStart?_marker h rest
  rw [List.cons_append] at hstart ⊢
  rw [Marker.split]
  split
  · next body' rest' heq =>
    obtain ⟨rfl, rfl⟩ := Prod.mk.inj (Option.some.inj (heq.symm.trans hstart))
    rfl
  · next heq =>
    rw [heq] at hstart
    cases hstart

/-- Anywhere else the scan adds a character to the next literal. -/
theorem split_cons_of_not_beginsAt {c : Char} {t : Text} (h : ¬ BeginsAt (c :: t) 0) :
    Marker.split (c :: t) = fuse [c] (Marker.split t) := by
  rw [beginsAt_zero_iff, Option.not_isSome_iff_eq_none] at h
  rw [Marker.split]
  split
  · next heq =>
    rw [h] at heq
    cases heq
  · rcases Marker.split t with ⟨_ | ⟨⟨literal, body⟩, rest⟩, tail⟩ <;> rfl

/-- The scan as a principle of induction: a text is empty, or begins with a marker, or begins with
a character that belongs to a literal. -/
@[elab_as_elim]
theorem scan_induction {P : Text → Prop} (nil : P [])
    (marker : ∀ body rest, IsBody body → P rest → P ('{' :: body ++ '}' :: rest))
    (literal : ∀ c t, ¬ BeginsAt (c :: t) 0 → P t → P (c :: t)) (t : Text) : P t := by
  have literal' (c : Char) (t : Text) (h : atStart? (c :: t) = none) (ih : P t) : P (c :: t) := by
    refine literal c t ?_ ih
    rw [beginsAt_zero_iff, h]
    exact Bool.false_ne_true
  -- the last two cases differ in whether a marker is found behind the character
  induction t using Marker.split.induct with
  | case1 => exact nil
  | case2 c t body rest h _ _ _ _ ih =>
    obtain ⟨hbody, heq⟩ := eq_marker_of_atStart? h
    rw [heq]
    exact marker body rest hbody ih
  | case3 c t h _ _ ih => exact literal' c t h ih
  | case4 c t h _ _ _ _ _ ih => exact literal' c t h ih

/-! ### What the scan finds -/

theorem join_fuse (literal : Text) (x : List (Text × Text) × Text) :
    join (fuse literal x).1 (fuse literal x).2 = literal ++ join x.1 x.2 := by
  rcases x with ⟨_ | ⟨⟨first, body⟩, rest⟩, tail⟩ <;> simp [fuse, join]

/-- The scan loses nothing. -/
theorem join_split (t : Text) : join (Marker.split t).1 (Marker.split t).2 = t := by
  induction t using scan_induction with
  | nil =>
    rw [split_nil]
    rfl
  | marker body rest hbody ih =>
    rw [split_cons_of_marker hbody, join, ih]
    rfl
  | literal c t h ih =>
    rw [split_cons_of_not_beginsAt h, join_fuse, ih]
    rfl

theorem bodies_fuse {β : Type} (literal : Text) (x : List (Text × β) × Text) :
    (fuse literal x).1.map Prod.snd = x.1.map Prod.snd := by
  rcases x with ⟨_ | ⟨first, rest⟩, tail⟩ <;> rfl

/-- What stands between the braces of a marker is a body. -/
theorem isBody_of_mem_split {t body : Text} (h : body ∈ (Marker.split t).1.map Prod.snd) :
    IsBody body := by
  induction t using scan_induction with
  | nil =>
    rw [split_nil] at h
    cases h
  | marker body' rest hbody ih =>
    rw [split_cons_of_marker hbody, List.map_cons] at h
    rcases List.mem_cons.mp h with rfl | hrest
    · exact hbody
    · exact ih hrest
  | literal c t hc ih =>
    rw [split_cons_of_not_beginsAt hc, bodies_fuse] at h
    exact ih h

/-- A character of a literal at the start of the scan moves the start one position back. -/
theorem IsLeftmost.fuse {t : Text} {start : Nat} {c : Char} {x : List (Text × Text) × Text}
    (hstart : ¬ BeginsAt t start) (h : IsLeftmost t (start + 1) x.1) :
    IsLeftmost t start (Marker.fuse [c] x).1 := by
  -- besides the start itself, every position is one that `h` is about
  have skip {i : Nat} (hi : start ≤ i) (hlater : start + 1 ≤ i → ¬ BeginsAt t i) :
      ¬ BeginsAt t i := by
    rcases Nat.eq_or_lt_of_le hi with rfl | hlt
    · exact hstart
    · exact hlater hlt
  rcases x with ⟨_ | ⟨⟨first, body⟩, rest⟩, tail⟩
  · intro i hi
    exact skip hi (h i)
  · obtain ⟨hbegins, hbefore, hrest⟩ := h
    have hlength : start + 1 + first.length = start + (c :: first).length := by
      rw [List.length_cons]
      omega
    rw [hlength] at hbegins hbefore hrest
    exact ⟨hbegins, fun i hi hlt => skip hi fun hlater => hbefore i hlater hlt, hrest⟩

/-- The scan finds the leftmost markers. -/
theorem isLeftmost_split (u t : Text) : IsLeftmost (u ++ t) u.length (Marker.split t).1 := by
  -- `u` is what the scan has already left behind
  induction t using scan_induction generalizing u with
  | nil =>
    rw [split_nil, List.append_nil]
    intro i hi h
    exact absurd h.lt_length (Nat.not_lt_of_le hi)
  | marker body rest hbody ih =>
    rw [split_cons_of_marker hbody]
    refine ⟨?_, ?_, ?_⟩
    · rw [List.length_nil, beginsAt_append_left]
      exact ⟨body, rest, hbody, rfl⟩
    · intro i hi hlt
      rw [List.length_nil] at hlt
      omega
    · have hrest := ih (u ++ '{' :: body ++ ['}'])
      simpa [Nat.add_assoc] using hrest
  | literal c t hc ih =>
    rw [split_cons_of_not_beginsAt hc]
    refine IsLeftmost.fuse ?_ ?_
    · exact fun h => hc (beginsAt_append_left (i := 0).mp h)
    · have hrest := ih (u ++ [c])
      simpa using hrest

/-- Literals between leftmost markers, and the tail behind the last one, hide no marker. -/
theorem IsLeftmost.not_beginsAt {u tail : Text} {segments : List (Text × Text)}
    (h : IsLeftmost (u ++ join segments tail) u.length segments) :
    (∀ literal ∈ segments.map Prod.fst, ∀ i, ¬ BeginsAt literal i) ∧ ∀ i, ¬ BeginsAt tail i := by
  induction segments generalizing u with
  | nil =>
    refine ⟨fun literal hmem => absurd hmem List.not_mem_nil, fun i hi => ?_⟩
    exact h (u.length + i) (Nat.le_add_right _ _) (beginsAt_append_left.mpr hi)
  | cons segment rest ih =>
    obtain ⟨literal, body⟩ := segment
    obtain ⟨-, hbefore, hrest⟩ := h
    have hlater := ih (u := u ++ literal ++ '{' :: body ++ ['}'])
      (by simpa [join, Nat.add_assoc] using hrest)
    refine ⟨fun literal' hmem i hi => ?_, hlater.2⟩
    rcases List.mem_cons.mp hmem with rfl | hmem
    · -- a marker within the literal would begin before the leftmost one of the text
      refine hbefore (u.length + i) (Nat.le_add_right _ _) ?_ ?_
      · exact Nat.add_lt_add_left hi.lt_length _
      · rw [beginsAt_append_left, join, List.append_assoc]
        exact hi.append_right _
    · exact hlater.1 literal' hmem i hi

end TraceText.Marker
