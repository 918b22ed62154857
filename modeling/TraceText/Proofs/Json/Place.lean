import TraceText.Proofs.Json.Distinct
import TraceText.Proofs.Json.Integer

/-!
# Places of values in a line

A reader goes through a line from the left and never back, so it always stands at some place of the
line: a part that reaches to the end.  Every value that is read from a line, at whatever depth, is
read at such a place.

## Main definitions

* `Json.StandsAt`, `Json.StandIn` — a value is read at a place in a line, or several are
* `Json.Reader.Shortens` — a reader goes on to the right
* `Json.Reader.YieldsIn` — within a line, a reader yields only what has a given property

## Main results

* `Json.readValue_shortens` — the reader of values goes on to the right
* `Json.StandsAt.standIn_children` — what a value holds stands in the line as well
* `Json.standIn_of_readEnvelope` — and so do the fields of a record
-/

namespace TraceText.Json

/-- A value is read at a place in a line. -/
def StandsAt (line place : Text) (json : Json) : Prop :=
  place <:+ line ∧ ∃ depth rest, readValue depth place = .ok (json, rest)

/-- All values of these members stand in a line. -/
def StandIn (line : Text) (members : List (Text × Json)) : Prop :=
  ∀ member ∈ members, ∃ place, StandsAt line place member.2

/-- A reader goes on to the right. -/
def Reader.Shortens {α : Type} (read : Reader α) : Prop :=
  ∀ ⦃t : Text⦄ ⦃x : α⦄ ⦃rest : Text⦄, read t = .ok (x, rest) → rest <:+ t

/-- A reader that is put to a place in a line goes on to another, and yields only what has a given
property. -/
def Reader.YieldsIn {α : Type} (line : Text) (read : Reader α) (P : α → Prop) : Prop :=
  ∀ ⦃t : Text⦄ ⦃x : α⦄ ⦃rest : Text⦄, t <:+ line → read t = .ok (x, rest) → rest <:+ line ∧ P x

section

variable {α : Type} {line : Text} {read : Reader α} {P : α → Prop}

theorem Reader.Shortens.yieldsIn (h : read.Shortens) : read.YieldsIn line fun _ => True :=
  fun _ _ _ ht hread => ⟨(h hread).trans ht, trivial⟩

theorem Reader.Shortens.of_yieldsIn {P : Text → α → Prop}
    (h : ∀ line, read.YieldsIn line (P line)) : read.Shortens :=
  fun t _ _ hread => (h t List.suffix_rfl hread).1

end

/-! ### Words and strings -/

theorem skipSpace_suffix (t : Text) : skipSpace t <:+ t := List.dropWhile_suffix _

theorem suffix_of_skipSpace {c : Char} {t rest : Text} (h : skipSpace t = c :: rest) : rest <:+ t :=
  (List.suffix_cons c rest).trans (h ▸ skipSpace_suffix t)

theorem readWord_suffix {word t rest : Text} (h : readWord word t = .ok rest) : rest <:+ t := by
  unfold readWord at h
  split at h
  · next hstrip =>
    cases h
    rw [Text.stripStart_eq_some_iff.mp hstrip]
    exact List.suffix_append word rest
  · cases h

theorem readMark_suffix {mark : Char} {t rest : Text} (h : readMark mark t = .ok rest) :
    rest <:+ t :=
  (readWord_suffix h).trans (skipSpace_suffix t)

theorem readString_shortens : readString.Shortens := by
  intro t x rest h
  fun_induction readString t generalizing x rest
  case case2 =>
    cases h
    exact List.suffix_cons _ _
  case case5 ih =>
    obtain ⟨⟨_, _⟩, hread, heq⟩ := map_eq_ok_iff.mp h
    cases heq
    exact (ih hread).trans ⟨[_, _, _, _, _, _, _, _, _, _, _, _], rfl⟩
  case case9 ih =>
    obtain ⟨⟨_, _⟩, hread, heq⟩ := map_eq_ok_iff.mp h
    cases heq
    exact (ih hread).trans ⟨[_, _, _, _, _, _], rfl⟩
  case case10 ih =>
    obtain ⟨⟨_, _⟩, hread, heq⟩ := map_eq_ok_iff.mp h
    cases heq
    exact (ih hread).trans ⟨[_, _], rfl⟩
  case case13 ih =>
    obtain ⟨⟨_, _⟩, hread, heq⟩ := map_eq_ok_iff.mp h
    cases heq
    exact (ih hread).trans (List.suffix_cons _ _)
  -- in all other cases the string is refused
  all_goals cases h

theorem skipString_suffix {t rest : Text} (h : skipString t = .ok rest) : rest <:+ t := by
  fun_induction skipString t generalizing rest
  case case2 =>
    cases h
    exact List.suffix_cons _ _
  case case3 ih => exact (ih h).trans ⟨[_, _, _, _, _, _], rfl⟩
  case case5 ih => exact (ih h).trans ⟨[_, _], rfl⟩
  case case8 ih => exact (ih h).trans (List.suffix_cons _ _)
  all_goals cases h

/-! ### Numbers -/

theorem readDigits_suffix {t ds rest : Text} (h : readDigits t = .ok (ds, rest)) : rest <:+ t := by
  unfold readDigits at h
  dsimp only at h
  split at h
  · cases h
  · cases h
    exact List.dropWhile_suffix _

theorem readFraction_shortens : readFraction.Shortens := by
  intro t x rest h
  unfold readFraction at h
  split at h
  · obtain ⟨⟨_, _⟩, hdigits, heq⟩ := map_eq_ok_iff.mp h
    cases heq
    exact (readDigits_suffix hdigits).trans (List.suffix_cons _ _)
  · cases h
    exact List.suffix_rfl

theorem readExponent_shortens : readExponent.Shortens := by
  intro t x rest h
  unfold readExponent at h
  split at h
  · split at h
    · dsimp only at h
      obtain ⟨⟨_, _⟩, hdigits, heq⟩ := map_eq_ok_iff.mp h
      cases heq
      refine ((readDigits_suffix hdigits).trans ?_).trans (List.suffix_cons _ _)
      -- a sign may stand before the digits
      split
      · exact List.suffix_cons _ _
      · exact List.suffix_cons _ _
      · exact List.suffix_rfl
    · cases h
      exact List.suffix_rfl
  · cases h
    exact List.suffix_rfl

theorem readNumeral_suffix {t rest : Text} {n : Numeral} (h : readNumeral t = .ok (n, rest)) :
    rest <:+ t := by
  unfold readNumeral at h
  dsimp only at h
  obtain ⟨⟨_, _⟩, hdigits, h⟩ := bind_eq_ok_iff.mp h
  dsimp only at h
  split at h
  · cases h
  obtain ⟨⟨_, _⟩, hfraction, h⟩ := bind_eq_ok_iff.mp h
  obtain ⟨⟨_, _⟩, hexponent, heq⟩ := bind_eq_ok_iff.mp h
  cases heq
  refine (readExponent_shortens hexponent).trans ((readFraction_shortens hfraction).trans
    ((readDigits_suffix hdigits).trans ?_))
  split
  · exact List.suffix_cons _ _
  · exact List.suffix_rfl

theorem readNumber_shortens : Reader.Shortens readNumber := by
  intro t json rest h
  obtain ⟨n, hnumeral, -⟩ := readNumber_eq_ok_iff.mp h
  exact readNumeral_suffix hnumeral

/-! ### Lists and objects -/

theorem nextElement_suffix {close : Char} {first : Bool} {t rest : Text}
    (h : nextElement close first t = .ok (some rest)) : rest <:+ t := by
  refine List.IsSuffix.trans ?_ (skipSpace_suffix t)
  unfold nextElement at h
  split at h
  · cases h
  next c after heq =>
  rw [heq]
  split at h
  · cases h
  split at h
  · cases h
    exact List.suffix_rfl
  split at h
  · -- a comma, and perhaps blanks
    refine List.IsSuffix.trans ?_ (List.suffix_cons c after)
    refine List.IsSuffix.trans ?_ (skipSpace_suffix after)
    split at h
    · cases h
    next heq =>
    rw [heq]
    split at h
    · cases h
    · cases h
      exact List.suffix_rfl
  · cases h

section Combinators

variable {α : Type} {line : Text} {read : Reader α} {P : α → Prop}

theorem readElements_yieldsIn (h : read.YieldsIn line P) {close : Char} {fuel : Nat}
    {first : Bool} :
    Reader.YieldsIn line (readElements close read fuel first) fun xs => ∀ x ∈ xs, P x := by
  induction fuel generalizing first with
  | zero => nofun
  | succ fuel ih =>
    intro t xs rest ht hread
    obtain ⟨next, hnext, hread⟩ := bind_eq_ok_iff.mp hread
    cases next with
    | none =>
      obtain ⟨t, hmark, heq⟩ := bind_eq_ok_iff.mp hread
      cases heq
      exact ⟨(readMark_suffix hmark).trans ht, nofun⟩
    | some t =>
      obtain ⟨⟨x, t⟩, hx, hread⟩ := bind_eq_ok_iff.mp hread
      obtain ⟨⟨xs, t⟩, hxs, heq⟩ := bind_eq_ok_iff.mp hread
      cases heq
      -- the others are read at the place where the first one ends
      have hfirst := h ((nextElement_suffix hnext).trans ht) hx
      have hothers := ih hfirst.1 hxs
      exact ⟨hothers.1, List.forall_mem_cons.mpr ⟨hfirst.2, hothers.2⟩⟩

theorem readMember_yieldsIn (h : read.YieldsIn line P) :
    Reader.YieldsIn line (readMember read) fun member => P member.2 := by
  intro t member rest ht hread
  obtain ⟨_, hquote, hread⟩ := bind_eq_ok_iff.mp hread
  obtain ⟨⟨_, _⟩, hname, hread⟩ := bind_eq_ok_iff.mp hread
  obtain ⟨_, hcolon, hread⟩ := bind_eq_ok_iff.mp hread
  obtain ⟨⟨_, _⟩, hx, heq⟩ := bind_eq_ok_iff.mp hread
  cases heq
  have hplace := (readMark_suffix hcolon).trans
    ((readString_shortens hname).trans (readMark_suffix hquote))
  exact h (hplace.trans ht) hx

theorem readParts_yieldsIn {readPart : Text → α → Reader α}
    (h : ∀ name parts, P parts → (readPart name parts).YieldsIn line P) {fuel : Nat}
    {first : Bool} {parts : α} (hparts : P parts) :
    Reader.YieldsIn line (readParts readPart fuel first parts) P := by
  induction fuel generalizing first parts with
  | zero => nofun
  | succ fuel ih =>
    intro t x rest ht hread
    obtain ⟨next, hnext, hread⟩ := bind_eq_ok_iff.mp hread
    cases next with
    | none =>
      cases hread
      exact ⟨ht, hparts⟩
    | some t =>
      obtain ⟨_, hquote, hread⟩ := bind_eq_ok_iff.mp hread
      obtain ⟨⟨name, _⟩, hname, hread⟩ := bind_eq_ok_iff.mp hread
      obtain ⟨⟨next, _⟩, hpart, hread⟩ := bind_eq_ok_iff.mp hread
      have hplace := (readString_shortens hname).trans
        ((readMark_suffix hquote).trans (nextElement_suffix hnext))
      have hadded := h name parts hparts (hplace.trans ht) hpart
      exact ih hadded.2 hadded.1 hread

theorem readOnce_yieldsIn (h : read.YieldsIn line P) {name : Text} {known : Option α} :
    Reader.YieldsIn line (readOnce name known read) fun x => ∀ y ∈ x, P y := by
  intro t x rest ht hread
  unfold readOnce at hread
  split at hread
  · cases hread
  · obtain ⟨_, hcolon, hread⟩ := bind_eq_ok_iff.mp hread
    obtain ⟨⟨x, _⟩, hx, heq⟩ := bind_eq_ok_iff.mp hread
    cases heq
    have hvalue := h ((readMark_suffix hcolon).trans ht) hx
    refine ⟨hvalue.1, ?_⟩
    rintro _ ⟨⟩
    exact hvalue.2

theorem readItem_yieldsIn (h : read.YieldsIn line P) {first : Bool} :
    Reader.YieldsIn line (readItem first read) fun x => ∀ y ∈ x, P y := by
  intro t x rest ht hread
  obtain ⟨next, hnext, hread⟩ := bind_eq_ok_iff.mp hread
  cases next with
  | none =>
    cases hread
    exact ⟨ht, nofun⟩
  | some t =>
    obtain ⟨⟨x, _⟩, hx, heq⟩ := bind_eq_ok_iff.mp hread
    cases heq
    have hvalue := h ((nextElement_suffix hnext).trans ht) hx
    refine ⟨hvalue.1, ?_⟩
    rintro _ ⟨⟩
    exact hvalue.2

theorem readOptional_shortens (h : read.Shortens) : Reader.Shortens (readOptional read) := by
  intro t x rest hread
  unfold readOptional at hread
  split at hread
  · next hfirst =>
    obtain ⟨_, hword, heq⟩ := bind_eq_ok_iff.mp hread
    cases heq
    exact (readWord_suffix hword).trans (suffix_of_skipSpace hfirst)
  · obtain ⟨⟨x, _⟩, hx, heq⟩ := bind_eq_ok_iff.mp hread
    cases heq
    exact (h hx).trans (skipSpace_suffix t)

theorem readElements_shortens (h : read.Shortens) {close : Char} {fuel : Nat} {first : Bool} :
    Reader.Shortens (readElements close read fuel first) :=
  .of_yieldsIn fun _ => readElements_yieldsIn h.yieldsIn

theorem readMember_shortens (h : read.Shortens) : Reader.Shortens (readMember read) :=
  .of_yieldsIn fun _ => readMember_yieldsIn h.yieldsIn

theorem readParts_shortens {readPart : Text → α → Reader α}
    (h : ∀ name parts, (readPart name parts).Shortens) {fuel : Nat} {first : Bool} {parts : α} :
    Reader.Shortens (readParts readPart fuel first parts) :=
  .of_yieldsIn fun _ => readParts_yieldsIn (fun name parts _ => (h name parts).yieldsIn) trivial

theorem readOnce_shortens (h : read.Shortens) {name : Text} {known : Option α} :
    Reader.Shortens (readOnce name known read) :=
  .of_yieldsIn fun _ => readOnce_yieldsIn h.yieldsIn

theorem readItem_shortens (h : read.Shortens) {first : Bool} :
    Reader.Shortens (readItem first read) :=
  .of_yieldsIn fun _ => readItem_yieldsIn h.yieldsIn

end Combinators

/-! ### Values -/

/-- The reader of values goes on to the right. -/
theorem readValue_shortens (depth : Nat) : Reader.Shortens (readValue depth) := by
  -- what is nested is read with less depth left
  induction depth with
  | zero => nofun
  | succ depth ih =>
    intro t json rest hread
    unfold readValue at hread
    split at hread
    case h_1 hfirst | h_2 hfirst | h_3 hfirst =>
      obtain ⟨_, hword, heq⟩ := bind_eq_ok_iff.mp hread
      cases heq
      exact (readWord_suffix hword).trans (suffix_of_skipSpace hfirst)
    case h_4 hfirst =>
      obtain ⟨⟨_, _⟩, hstring, heq⟩ := bind_eq_ok_iff.mp hread
      cases heq
      exact (readString_shortens hstring).trans (suffix_of_skipSpace hfirst)
    case h_5 hfirst =>
      split at hread
      · cases hread
      · obtain ⟨⟨_, _⟩, hitems, heq⟩ := bind_eq_ok_iff.mp hread
        cases heq
        exact (readElements_shortens ih hitems).trans (suffix_of_skipSpace hfirst)
    case h_6 hfirst =>
      split at hread
      · cases hread
      · obtain ⟨⟨_, _⟩, hmembers, heq⟩ := bind_eq_ok_iff.mp hread
        cases heq
        exact (readElements_shortens (readMember_shortens ih) hmembers).trans
          (suffix_of_skipSpace hfirst)
    case h_7 => exact (readNumber_shortens hread).trans (skipSpace_suffix t)

theorem skipNested_shortens (fuel : Nat) : Reader.Shortens (skipNested fuel) := by
  induction fuel with
  | zero => nofun
  | succ fuel ih =>
    intro t x rest hread
    unfold skipNested at hread
    split at hread
    case h_1 hfirst | h_2 hfirst | h_3 hfirst =>
      obtain ⟨_, hword, heq⟩ := bind_eq_ok_iff.mp hread
      cases heq
      exact (readWord_suffix hword).trans (suffix_of_skipSpace hfirst)
    case h_4 hfirst =>
      obtain ⟨_, hstring, heq⟩ := bind_eq_ok_iff.mp hread
      cases heq
      exact (skipString_suffix hstring).trans (suffix_of_skipSpace hfirst)
    case h_5 hfirst =>
      obtain ⟨⟨_, _⟩, hitems, heq⟩ := bind_eq_ok_iff.mp hread
      cases heq
      exact (readElements_shortens ih hitems).trans (suffix_of_skipSpace hfirst)
    case h_6 hfirst =>
      obtain ⟨⟨_, _⟩, hmembers, heq⟩ := bind_eq_ok_iff.mp hread
      cases heq
      refine (readElements_shortens ?_ hmembers).trans (suffix_of_skipSpace hfirst)
      -- a name, a colon and a value
      intro t x rest hmember
      obtain ⟨_, hquote, hmember⟩ := bind_eq_ok_iff.mp hmember
      obtain ⟨_, hname, hmember⟩ := bind_eq_ok_iff.mp hmember
      obtain ⟨_, hcolon, hvalue⟩ := bind_eq_ok_iff.mp hmember
      exact (ih hvalue).trans ((readMark_suffix hcolon).trans
        ((skipString_suffix hname).trans (readMark_suffix hquote)))
    case h_7 =>
      obtain ⟨⟨_, _⟩, hnumeral, heq⟩ := bind_eq_ok_iff.mp hread
      cases heq
      exact (readNumeral_suffix hnumeral).trans (skipSpace_suffix t)

theorem skipValue_suffix {t rest : Text} (h : skipValue t = .ok rest) : rest <:+ t := by
  obtain ⟨⟨_, _⟩, hskip, heq⟩ := bind_eq_ok_iff.mp h
  cases heq
  exact skipNested_shortens _ hskip

/-! ### What a value holds -/

theorem readValue_yieldsIn (line : Text) (depth : Nat) :
    Reader.YieldsIn line (readValue depth) fun json => ∃ place, StandsAt line place json := by
  intro t json rest ht hread
  exact ⟨(readValue_shortens depth hread).trans ht, t, ht, depth, rest, hread⟩

theorem readNumber_cases {t rest : Text} {json : Json} (h : readNumber t = .ok (json, rest)) :
    (∃ i, json = .int i) ∨ ∃ x, x.IsFinite ∧ json = .float x := by
  obtain ⟨n, -, hvalue⟩ := readNumber_eq_ok_iff.mp h
  exact ofNumeral_cases hvalue

/-- What the items of a list and the members of an object are read from. -/
theorem nested_of_readValue {depth : Nat} {t rest : Text} {json : Json}
    (hread : readValue (depth + 1) t = .ok (json, rest)) :
    (∀ items, json = .array items → ∃ inner fuel rest, inner <:+ t ∧
      readElements ']' (readValue depth) fuel true inner = .ok (items, rest)) ∧
    ∀ members, json = .object members → ∃ inner fuel read rest, inner <:+ t ∧
      readElements '}' (readMember (readValue depth)) fuel true inner = .ok (read, rest) ∧
      members = ofMembers read := by
  unfold readValue at hread
  split at hread
  case h_5 hfirst =>
    split at hread
    · cases hread
    · obtain ⟨⟨_, _⟩, hitems, heq⟩ := bind_eq_ok_iff.mp hread
      cases heq
      refine ⟨?_, nofun⟩
      rintro _ ⟨⟩
      exact ⟨_, _, _, suffix_of_skipSpace hfirst, hitems⟩
  case h_6 hfirst =>
    split at hread
    · cases hread
    · obtain ⟨⟨_, _⟩, hmembers, heq⟩ := bind_eq_ok_iff.mp hread
      cases heq
      refine ⟨nofun, ?_⟩
      rintro _ ⟨⟩
      exact ⟨_, _, _, _, suffix_of_skipSpace hfirst, hmembers, rfl⟩
  case h_7 =>
    rcases readNumber_cases hread with ⟨_, rfl⟩ | ⟨_, -, rfl⟩
    · exact ⟨nofun, nofun⟩
    · exact ⟨nofun, nofun⟩
  all_goals
    obtain ⟨_, -, heq⟩ := bind_eq_ok_iff.mp hread
    cases heq
    exact ⟨nofun, nofun⟩

/-- The items of a list stand in the line in which the list does. -/
theorem StandsAt.exists_item {line place : Text} {items : List Json}
    (h : StandsAt line place (.array items)) : ∀ item ∈ items, ∃ here, StandsAt line here item := by
  obtain ⟨hplace, depth, rest, hread⟩ := h
  cases depth with
  | zero => cases hread
  | succ depth =>
    obtain ⟨inner, _, _, hinner, hitems⟩ := (nested_of_readValue hread).1 items rfl
    exact (readElements_yieldsIn (readValue_yieldsIn line depth) (hinner.trans hplace) hitems).2

/-- The members of an object stand in the line in which the object does. -/
theorem StandsAt.standIn {line place : Text} {members : List (Text × Json)}
    (h : StandsAt line place (.object members)) : StandIn line members := by
  obtain ⟨hplace, depth, rest, hread⟩ := h
  cases depth with
  | zero => cases hread
  | succ depth =>
    obtain ⟨inner, _, read, _, hinner, hmembers, rfl⟩ := (nested_of_readValue hread).2 members rfl
    have hall := readElements_yieldsIn (readMember_yieldsIn (readValue_yieldsIn line depth))
      (hinner.trans hplace) hmembers
    intro member hmember
    exact hall.2 member (mem_of_mem_ofMembers member hmember)

/-- What a value holds stands in the line in which the value does. -/
theorem StandsAt.standIn_children {line place : Text} {json : Json}
    (h : StandsAt line place json) : StandIn line json.children := by
  intro child hchild
  cases json with
  | array items => exact h.exists_item child.2 (mem_of_mem_numbered hchild)
  | object members => exact h.standIn child (mem_of_mem_children_object hchild)
  | _ => cases hchild

/-- Whatever is found in members that stand in a line, at whatever depth, stands in the line. -/
theorem StandIn.positionsIn {line : Text} {members : List (Text × Json)}
    (h : StandIn line members) :
    ∀ p ∈ KeyedTree.positionsIn members, ∃ place, StandsAt line place p.2 := by
  have hstep (json : Json) (h : ∃ place, StandsAt line place json) :
      StandIn line (KeyedTree.children json) := by
    obtain ⟨place, hplace⟩ := h
    exact hplace.standIn_children
  apply (KeyedTree.forall_mem_positionsIn_iff
    (P := fun json => ∃ place, StandsAt line place json)).mpr
  intro member hmember
  exact KeyedTree.everywhere_of_step hstep (h member hmember)

/-! ### The fields of a record -/

theorem readText_shortens : Reader.Shortens readText := by
  intro t x rest hread
  unfold readText at hread
  split at hread
  · next hfirst => exact (readString_shortens hread).trans (suffix_of_skipSpace hfirst)
  · cases hread

theorem readInt64_shortens : Reader.Shortens readInt64 := by
  intro t i rest hread
  unfold readInt64 at hread
  split at hread
  · cases hread
  · next hfirst =>
    split at hread
    · obtain ⟨⟨value, _⟩, hnumber, hread⟩ := bind_eq_ok_iff.mp hread
      have hsuffix := (readNumber_shortens hnumber).trans (hfirst ▸ skipSpace_suffix t)
      dsimp only at hread
      split at hread
      · split at hread
        · cases hread
          exact hsuffix
        · cases hread
      · cases hread
    · cases hread

/-- Members of a clock are read one after another. -/
theorem clockPart_shortens (name : Text) (parts : ClockParts) :
    Reader.Shortens (readClock.clockPart name parts) := by
  intro t parts' rest hread
  unfold readClock.clockPart at hread
  split at hread
  · obtain ⟨⟨_, _⟩, honce, heq⟩ := bind_eq_ok_iff.mp hread
    cases heq
    exact readOnce_shortens readInt64_shortens honce
  split at hread
  · obtain ⟨⟨_, _⟩, honce, heq⟩ := bind_eq_ok_iff.mp hread
    cases heq
    exact readOnce_shortens readInt64_shortens honce
  split at hread
  · obtain ⟨⟨_, _⟩, honce, heq⟩ := bind_eq_ok_iff.mp hread
    cases heq
    exact readOnce_shortens (readOptional_shortens readText_shortens) honce
  · -- a member of another name is skipped
    obtain ⟨_, hcolon, hread⟩ := bind_eq_ok_iff.mp hread
    obtain ⟨_, hskip, heq⟩ := bind_eq_ok_iff.mp hread
    cases heq
    exact (skipValue_suffix hskip).trans (readMark_suffix hcolon)

theorem readClock_shortens : Reader.Shortens readClock := by
  intro t clock rest hread
  unfold readClock at hread
  split at hread
  · next hfirst =>
    simp only [bind_eq_ok_iff] at hread
    obtain ⟨⟨_, _⟩, hparts, _, hclose, heq⟩ := hread
    cases heq
    exact (readMark_suffix hclose).trans
      ((readParts_shortens clockPart_shortens hparts).trans (suffix_of_skipSpace hfirst))
  · next hfirst =>
    simp only [bind_eq_ok_iff] at hread
    obtain ⟨⟨_, _⟩, hrate, ⟨_, _⟩, horigin, ⟨_, _⟩, htime, _, -, _, hclose, heq⟩ := hread
    cases heq
    have hitems := (readItem_shortens (readOptional_shortens readText_shortens) htime).trans
      ((readItem_shortens readInt64_shortens horigin).trans
        (readItem_shortens readInt64_shortens hrate))
    exact (readMark_suffix hclose).trans (hitems.trans (suffix_of_skipSpace hfirst))
  · cases hread

variable {line : Text}

theorem readMap_yieldsIn : Reader.YieldsIn line readMap (StandIn line) := by
  intro t members rest ht hread
  unfold readMap at hread
  split at hread
  · next hfirst =>
    obtain ⟨⟨_, _⟩, hmembers, heq⟩ := bind_eq_ok_iff.mp hread
    cases heq
    have hall := readElements_yieldsIn (readMember_yieldsIn (readValue_yieldsIn line _))
      ((suffix_of_skipSpace hfirst).trans ht) hmembers
    exact ⟨hall.1, fun member hmember => hall.2 member (mem_of_mem_ofMembers member hmember)⟩
  · cases hread

/-- Of the members of a line, only `fields` brings in values. -/
theorem envelopePart_yieldsIn (name : Text) (parts : EnvelopeParts)
    (h : ∀ fields ∈ parts.fields, StandIn line fields) :
    Reader.YieldsIn line (readEnvelopeValue.envelopePart name parts) fun parts =>
      ∀ fields ∈ parts.fields, StandIn line fields := by
  intro t parts' rest ht hread
  unfold readEnvelopeValue.envelopePart at hread
  iterate 2
    split at hread
    · obtain ⟨⟨_, _⟩, honce, heq⟩ := bind_eq_ok_iff.mp hread
      cases heq
      exact ⟨(readOnce_shortens readText_shortens honce).trans ht, h⟩
  split at hread
  · obtain ⟨⟨_, _⟩, honce, heq⟩ := bind_eq_ok_iff.mp hread
    cases heq
    exact ⟨(readOnce_shortens (readOptional_shortens readText_shortens) honce).trans ht, h⟩
  split at hread
  · obtain ⟨⟨_, _⟩, honce, heq⟩ := bind_eq_ok_iff.mp hread
    cases heq
    exact ⟨(readOnce_shortens (readOptional_shortens readClock_shortens) honce).trans ht, h⟩
  split at hread
  · obtain ⟨⟨_, _⟩, honce, heq⟩ := bind_eq_ok_iff.mp hread
    cases heq
    exact readOnce_yieldsIn readMap_yieldsIn ht honce
  · obtain ⟨_, hcolon, hread⟩ := bind_eq_ok_iff.mp hread
    obtain ⟨_, hskip, heq⟩ := bind_eq_ok_iff.mp hread
    cases heq
    exact ⟨((skipValue_suffix hskip).trans (readMark_suffix hcolon)).trans ht, h⟩

theorem standIn_getD {fields : Option (List (Text × Json))}
    (h : ∀ members ∈ fields, StandIn line members) : StandIn line (fields.getD []) := by
  cases fields with
  | none => nofun
  | some members => exact h members rfl

theorem readEnvelopeValue_yieldsIn :
    Reader.YieldsIn line readEnvelopeValue fun envelope => StandIn line envelope.fields := by
  intro t envelope rest ht hread
  unfold readEnvelopeValue at hread
  split at hread
  · next hfirst =>
    simp only [bind_eq_ok_iff] at hread
    obtain ⟨⟨parts, _⟩, hparts, _, -, _, -, _, hclose, heq⟩ := hread
    cases heq
    -- to begin with, there are no fields
    have hnone : ∀ fields ∈ (none : Option (List (Text × Json))), StandIn line fields := nofun
    have hread := readParts_yieldsIn envelopePart_yieldsIn hnone
      ((suffix_of_skipSpace hfirst).trans ht) hparts
    exact ⟨(readMark_suffix hclose).trans hread.1, standIn_getD hread.2⟩
  · next hfirst =>
    simp only [bind_eq_ok_iff] at hread
    obtain ⟨⟨_, _⟩, htype, _, -, ⟨_, _⟩, hstart, _, -, ⟨_, _⟩, hend, _, -, ⟨_, _⟩, hclock, _, -,
      ⟨fields, _⟩, hfields, _, hclose, heq⟩ := hread
    cases heq
    -- in a list, the fields come behind all the rest
    have hplace := (readItem_shortens (readOptional_shortens readClock_shortens) hclock).trans
      ((readItem_shortens (readOptional_shortens readText_shortens) hend).trans
        ((readItem_shortens readText_shortens hstart).trans
          ((readItem_shortens readText_shortens htype).trans (suffix_of_skipSpace hfirst))))
    have hread := readItem_yieldsIn readMap_yieldsIn (hplace.trans ht) hfields
    exact ⟨(readMark_suffix hclose).trans hread.1, standIn_getD hread.2⟩
  · cases hread

/-- The fields of a record stand in its line. -/
theorem standIn_of_readEnvelope {envelope : Envelope} (h : readEnvelope line = .ok envelope) :
    StandIn line envelope.fields := by
  obtain ⟨⟨_, _⟩, hread, hfinished⟩ := bind_eq_ok_iff.mp h
  dsimp only at hfinished
  split at hfinished
  · cases hfinished
    exact (readEnvelopeValue_yieldsIn List.suffix_rfl hread).2
  · cases hfinished

end TraceText.Json
