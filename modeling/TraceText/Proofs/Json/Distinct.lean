import TraceText.Proofs.Binary64
import TraceText.Proofs.Traversal
import TraceText.Proofs.Tree
import TraceText.Record.Decode

/-!
# JSON values as trees

An object holds its members, and a list its items, named by their places.  Members that begin with a
dollar sign do not count, and neither does anything inside of an object with a marker key, which
stands for a single value.  The reader lets no object have two members of one name, so in whatever
it reads a path leads to one value at most.

## Main definitions

* `Json.isMarked`, `Json.plainMembers` — how the keys of an object are told apart
* `Json.children` — what a JSON value holds by name
* `Json.Reader.Yields` — a reader yields only what has a given property

## Main results

* `Json.readValue_yields_distinct` — in whatever is read, names are distinct
* `Json.distinct_of_readEnvelope` — the same for the fields of a line
-/

namespace TraceText

namespace Json

/-! ### What a JSON value holds -/

/-- The keys that make an object a timestamp, an instant or a stack trace. -/
def markerKeys : List Text := ["$ticks", "$epochMillis", "$instant", "$frames"]

/-- Whether an object has a marker key. -/
def isMarked (members : List (Text × Json)) : Bool :=
  members.any fun member => decide (member.1 ∈ markerKeys)

/-- The members of an object whose names do not begin with a dollar sign. -/
def plainMembers (members : List (Text × Json)) : List (Text × Json) :=
  members.filter fun member => decide (member.1.head? ≠ some '$')

/-- The items of a list, each named by its place, from a given place on. -/
def numbered (place : Nat) (items : List Json) : List (Text × Json) :=
  (items.zipIdx place).map fun p => (Decimal.digits p.2, p.1)

/-- What a JSON value holds by name. -/
def children : Json → List (Text × Json)
  | array items => numbered 0 items
  | object members => if isMarked members then [] else plainMembers members
  | _ => []

theorem mem_of_mem_numbered {place : Nat} {items : List Json} {child : Text × Json}
    (h : child ∈ numbered place items) : child.2 ∈ items := by
  obtain ⟨p, hp, rfl⟩ := List.mem_map.mp h
  exact List.fst_mem_of_mem_zipIdx hp

theorem mem_of_mem_children_object {members : List (Text × Json)} {child : Text × Json}
    (h : child ∈ (object members).children) : child ∈ members := by
  change child ∈ if isMarked members then [] else plainMembers members at h
  split at h
  · exact absurd h List.not_mem_nil
  · exact List.mem_of_mem_filter h

instance : KeyedTree Json where
  children := children
  sizeOf_child_lt {json child} h := by
    cases json with
    | array items =>
      have hlt := List.sizeOf_lt_of_mem (mem_of_mem_numbered h)
      simp only [array.sizeOf_spec]
      omega
    | object members =>
      have hlt := List.sizeOf_lt_of_mem (mem_of_mem_children_object h)
      obtain ⟨name, value⟩ := child
      simp only [object.sizeOf_spec, Prod.mk.sizeOf_spec] at hlt ⊢
      omega
    | _ => cases h

/-! ### Distinct names -/

open KeyedTree

theorem nodup_names_numbered (place : Nat) (items : List Json) :
    ((numbered place items).map Prod.fst).Nodup := by
  have hplaces : (numbered place items).map Prod.fst =
      (List.range' place items.length).map Decimal.digits := by
    rw [numbered, List.map_map, ← List.zipIdx_map_snd place items, List.map_map]
    rfl
  rw [hplaces]
  exact (List.nodup_range' ..).map fun _ _ => Decimal.digits_injective

theorem distinct_of_children_nil {json : Json} (h : json.children = []) : Distinct json := by
  refine everywhere_iff.mpr ?_
  change (json.children.map Prod.fst).Nodup ∧ ∀ child ∈ json.children, _
  rw [h]
  exact ⟨List.nodup_nil, nofun⟩

theorem distinct_array {items : List Json} (h : ∀ item ∈ items, Distinct item) :
    Distinct (array items) :=
  everywhere_iff.mpr
    ⟨nodup_names_numbered 0 items, fun _ hchild => h _ (mem_of_mem_numbered hchild)⟩

/-- The members of an object have distinct names, and so has all that they hold. -/
def DistinctMembers (members : List (Text × Json)) : Prop :=
  (members.map Prod.fst).Nodup ∧ ∀ member ∈ members, Distinct member.2

theorem distinct_object {members : List (Text × Json)} (h : DistinctMembers members) :
    Distinct (object members) := by
  refine everywhere_iff.mpr ⟨?_, fun child hchild => h.2 _ (mem_of_mem_children_object hchild)⟩
  change ((if isMarked members then [] else plainMembers members).map Prod.fst).Nodup
  split
  · exact List.nodup_nil
  · exact h.1.sublist (List.filter_sublist.map Prod.fst)

/-- A name is added behind the others, unless it is there already. -/
theorem names_insert (members : List (Text × Json)) (name : Text) (value : Json) :
    (insert members name value).map Prod.fst =
      if name ∈ members.map Prod.fst then members.map Prod.fst
      else members.map Prod.fst ++ [name] := by
  induction members with
  | nil => rfl
  | cons member rest ih =>
    obtain ⟨known, old⟩ := member
    by_cases hknown : known = name
    · simp [insert, hknown]
    · have hname : name ≠ known := fun h => hknown h.symm
      simp only [insert, hknown, if_false, List.map_cons, ih, List.mem_cons, hname, false_or]
      split <;> rfl

theorem mem_insert {members : List (Text × Json)} {name : Text} {value : Json}
    {member : Text × Json} (h : member ∈ insert members name value) :
    member ∈ members ∨ member = (name, value) := by
  induction members with
  | nil => exact .inr (List.mem_singleton.mp h)
  | cons first rest ih =>
    obtain ⟨known, old⟩ := first
    unfold insert at h
    split at h
    · next hknown =>
      rcases List.mem_cons.mp h with rfl | h
      · exact .inr (by rw [hknown])
      · exact .inl (List.mem_cons_of_mem _ h)
    · rcases List.mem_cons.mp h with rfl | h
      · exact .inl List.mem_cons_self
      · exact (ih h).imp_left (List.mem_cons_of_mem _)

theorem nodup_names_insert {members : List (Text × Json)} (h : (members.map Prod.fst).Nodup)
    (name : Text) (value : Json) : ((insert members name value).map Prod.fst).Nodup := by
  rw [names_insert]
  split
  · exact h
  · next hnew => exact List.nodup_append'.mpr ⟨h, List.nodup_singleton name, by simpa using hnew⟩

/-- However often a name occurs in a text, it names one member. -/
theorem nodup_names_ofMembers (read : List (Text × Json)) :
    ((ofMembers read).map Prod.fst).Nodup := by
  unfold ofMembers
  refine List.foldlRecOn (motive := fun known : List (Text × Json) => (known.map Prod.fst).Nodup)
    read _ List.nodup_nil ?_
  intro known hknown member _
  exact nodup_names_insert hknown member.1 member.2

theorem mem_of_mem_ofMembers {read : List (Text × Json)} :
    ∀ member ∈ ofMembers read, member ∈ read := by
  unfold ofMembers
  refine List.foldlRecOn
    (motive := fun known : List (Text × Json) => ∀ member ∈ known, member ∈ read) read _ nofun ?_
  intro known hknown member hmember other hother
  rcases mem_insert hother with h | rfl
  · exact hknown other h
  · exact hmember

/-! ### What readers yield -/

/-- A reader yields only what has a given property. -/
def Reader.Yields {α : Type} (read : Reader α) (P : α → Prop) : Prop :=
  ∀ ⦃t : Text⦄ ⦃x : α⦄ ⦃rest : Text⦄, read t = .ok (x, rest) → P x

section Yields

variable {α : Type} {read : Reader α} {P : α → Prop}

theorem readElements_yields (h : read.Yields P) {close : Char} {fuel : Nat} {first : Bool} :
    Reader.Yields (readElements close read fuel first) fun xs => ∀ x ∈ xs, P x := by
  induction fuel generalizing first with
  | zero => nofun
  | succ fuel ih =>
    intro t xs rest hread
    obtain ⟨next, -, hread⟩ := bind_eq_ok_iff.mp hread
    cases next with
    | none =>
      obtain ⟨t, -, heq⟩ := bind_eq_ok_iff.mp hread
      cases heq
      nofun
    | some t =>
      obtain ⟨⟨x, t⟩, hx, hread⟩ := bind_eq_ok_iff.mp hread
      obtain ⟨⟨xs, t⟩, hxs, heq⟩ := bind_eq_ok_iff.mp hread
      cases heq
      exact List.forall_mem_cons.mpr ⟨h hx, ih hxs⟩

theorem readMember_yields (h : read.Yields P) :
    Reader.Yields (readMember read) fun member => P member.2 := by
  intro t member rest hread
  obtain ⟨t, -, hread⟩ := bind_eq_ok_iff.mp hread
  obtain ⟨⟨name, t⟩, -, hread⟩ := bind_eq_ok_iff.mp hread
  obtain ⟨t, -, hread⟩ := bind_eq_ok_iff.mp hread
  obtain ⟨⟨x, t⟩, hx, heq⟩ := bind_eq_ok_iff.mp hread
  cases heq
  exact h hx

/-- An invariant of the parts of an object holds when all of them are read. -/
theorem readParts_yields {readPart : Text → α → Reader α}
    (h : ∀ name parts, P parts → (readPart name parts).Yields P) {fuel : Nat} {first : Bool}
    {parts : α} (hparts : P parts) : Reader.Yields (readParts readPart fuel first parts) P := by
  induction fuel generalizing first parts with
  | zero => nofun
  | succ fuel ih =>
    intro t x rest hread
    obtain ⟨next, -, hread⟩ := bind_eq_ok_iff.mp hread
    cases next with
    | none =>
      cases hread
      exact hparts
    | some t =>
      obtain ⟨t, -, hread⟩ := bind_eq_ok_iff.mp hread
      obtain ⟨⟨name, t⟩, -, hread⟩ := bind_eq_ok_iff.mp hread
      obtain ⟨⟨next, t⟩, hnext, hread⟩ := bind_eq_ok_iff.mp hread
      exact ih (h name parts hparts hnext) hread

theorem readOnce_yields (h : read.Yields P) {name : Text} {known : Option α} :
    Reader.Yields (readOnce name known read) fun x => ∀ y ∈ x, P y := by
  intro t x rest hread
  unfold readOnce at hread
  -- a member that is given twice is refused
  split at hread
  · cases hread
  · obtain ⟨t, -, hread⟩ := bind_eq_ok_iff.mp hread
    obtain ⟨⟨x, t⟩, hx, heq⟩ := bind_eq_ok_iff.mp hread
    cases heq
    rintro _ ⟨⟩
    exact h hx

theorem readItem_yields (h : read.Yields P) {first : Bool} :
    Reader.Yields (readItem first read) fun x => ∀ y ∈ x, P y := by
  intro t x rest hread
  obtain ⟨next, -, hread⟩ := bind_eq_ok_iff.mp hread
  cases next with
  | none =>
    cases hread
    nofun
  | some t =>
    obtain ⟨⟨x, t⟩, hx, heq⟩ := bind_eq_ok_iff.mp hread
    cases heq
    rintro _ ⟨⟩
    exact h hx

end Yields

/-! ### What is read has distinct names -/

/-- A number is an integer or a float, which is finite. -/
theorem ofNumeral_cases {n : Numeral} {json : Json} (h : ofNumeral n = some json) :
    (∃ i, json = .int i) ∨ ∃ x, x.IsFinite ∧ json = .float x := by
  unfold ofNumeral at h
  dsimp only at h
  have hfloat := Binary64.ofDecimal_cases n.negative
    (Decimal.value (n.whole ++ n.fraction.getD []))
    (n.exponent.getD 0 - (n.fraction.getD []).length)
  generalize Binary64.ofDecimal n.negative _ _ = x at h hfloat
  cases x with
  | finite negative m q =>
    have hfinite := hfloat.resolve_right nofun
    dsimp only at h
    split_ifs at h
    all_goals
      cases h
      simp [hfinite]
  | _ =>
    dsimp only at h
    split_ifs at h
    all_goals
      cases h
      simp

/-- A number holds nothing. -/
theorem children_ofNumeral {n : Numeral} {json : Json} (h : ofNumeral n = some json) :
    json.children = [] := by
  rcases ofNumeral_cases h with ⟨_, rfl⟩ | ⟨_, -, rfl⟩
  · rfl
  · rfl

theorem readNumber_yields_distinct : Reader.Yields readNumber Distinct := by
  intro t json rest hread
  obtain ⟨⟨numeral, t⟩, -, hread⟩ := bind_eq_ok_iff.mp hread
  dsimp only at hread
  split at hread
  · next hnumeral =>
    cases hread
    exact distinct_of_children_nil (children_ofNumeral hnumeral)
  · cases hread

theorem distinctMembers_ofMembers {read : List (Text × Json)}
    (h : ∀ member ∈ read, Distinct member.2) : DistinctMembers (ofMembers read) :=
  ⟨nodup_names_ofMembers read, fun member hmember => h member (mem_of_mem_ofMembers member hmember)⟩

/-- Whatever is read, each object in it has distinct names. -/
theorem readValue_yields_distinct (depth : Nat) : Reader.Yields (readValue depth) Distinct := by
  -- what is nested is read with less depth left
  induction depth with
  | zero => nofun
  | succ depth ih =>
    intro t json rest hread
    unfold readValue at hread
    split at hread
    case h_1 | h_2 | h_3 | h_4 =>
      obtain ⟨_, -, heq⟩ := bind_eq_ok_iff.mp hread
      cases heq
      exact distinct_of_children_nil rfl
    case h_5 =>
      split at hread
      · cases hread
      · obtain ⟨⟨items, _⟩, hitems, heq⟩ := bind_eq_ok_iff.mp hread
        cases heq
        exact distinct_array (readElements_yields ih hitems)
    case h_6 =>
      split at hread
      · cases hread
      · obtain ⟨⟨members, _⟩, hmembers, heq⟩ := bind_eq_ok_iff.mp hread
        cases heq
        have hdistinct := readElements_yields (readMember_yields ih) hmembers
        exact distinct_object (distinctMembers_ofMembers hdistinct)
    case h_7 => exact readNumber_yields_distinct hread

theorem readMap_yields_distinct : Reader.Yields readMap DistinctMembers := by
  intro t members rest hread
  unfold readMap at hread
  split at hread
  · obtain ⟨⟨members, _⟩, hmembers, heq⟩ := bind_eq_ok_iff.mp hread
    cases heq
    have hmember := readMember_yields (readValue_yields_distinct (depthLimit - 2))
    exact distinctMembers_ofMembers (readElements_yields hmember hmembers)
  · cases hread

/-- Of the members of a line, only `fields` brings in fields. -/
theorem envelopePart_yields (name : Text) (parts : EnvelopeParts)
    (h : ∀ fields ∈ parts.fields, DistinctMembers fields) :
    Reader.Yields (readEnvelopeValue.envelopePart name parts) fun parts =>
      ∀ fields ∈ parts.fields, DistinctMembers fields := by
  intro t parts' rest hread
  unfold readEnvelopeValue.envelopePart at hread
  -- the type, the times and the clock leave the fields as they are
  iterate 4
    split at hread
    · obtain ⟨_, -, heq⟩ := bind_eq_ok_iff.mp hread
      cases heq
      exact h
  split at hread
  · obtain ⟨⟨fields, _⟩, hfields, heq⟩ := bind_eq_ok_iff.mp hread
    cases heq
    exact readOnce_yields readMap_yields_distinct hfields
  · simp only [bind_eq_ok_iff] at hread
    obtain ⟨_, -, _, -, heq⟩ := hread
    cases heq
    exact h

theorem distinctMembers_getD {fields : Option (List (Text × Json))}
    (h : ∀ members ∈ fields, DistinctMembers members) : DistinctMembers (fields.getD []) := by
  cases fields with
  | none => exact ⟨List.nodup_nil, nofun⟩
  | some members => exact h members rfl

theorem readEnvelopeValue_yields_distinct :
    Reader.Yields readEnvelopeValue fun envelope => DistinctMembers envelope.fields := by
  intro t envelope rest hread
  unfold readEnvelopeValue at hread
  split at hread
  · simp only [bind_eq_ok_iff] at hread
    obtain ⟨⟨parts, _⟩, hparts, _, -, _, -, _, -, heq⟩ := hread
    cases heq
    have hnone : ∀ fields ∈ (none : Option (List (Text × Json))), DistinctMembers fields := nofun
    exact distinctMembers_getD (readParts_yields envelopePart_yields hnone hparts)
  · simp only [bind_eq_ok_iff] at hread
    obtain ⟨_, -, _, -, _, -, _, -, _, -, _, -, _, -, _, -, ⟨fields, _⟩, hfields, _, -, heq⟩ :=
      hread
    cases heq
    exact distinctMembers_getD (readItem_yields readMap_yields_distinct hfields)
  · cases hread

/-- The fields of a line have distinct names, and so has all that they hold. -/
theorem distinct_of_readEnvelope {line : Text} {envelope : Envelope}
    (h : readEnvelope line = .ok envelope) : DistinctMembers envelope.fields := by
  obtain ⟨⟨read, rest⟩, hread, hfinished⟩ := bind_eq_ok_iff.mp h
  dsimp only at hfinished
  split at hfinished
  · cases hfinished
    exact readEnvelopeValue_yields_distinct hread
  · cases hfinished

end Json

end TraceText
