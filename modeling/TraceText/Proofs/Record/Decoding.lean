import TraceText.Proofs.Json.Distinct

/-!
# Records keep the tree of a line

The fields of a record are the members of a line's `fields`, decoded one by one and in their order.
The same holds at every depth: a list becomes an object whose fields are named by their places, and
an object keeps all members but those that begin with a dollar sign.  An object with a marker key
becomes a value without fields instead.  So each leaf of the tree is found in the record under the
same path, once, and nothing else is.

## Main definitions

* `Json.isLeaf`, `Value.isLeaf` — what can have no fields
* `Value.Encodes`, `Value.Mirrors` — a JSON value is decoded to a value, and how
* `Json.leaves`, `Value.leaves` — all leaves, each behind its path

## Main results

* `Value.mirrors_of_encodes` — what one level of a JSON value is decoded to
* `Value.aligned_fieldPositions` — what the positions of fields are decoded to
* `Record.decode_keeps_tree` — the record of a line has the tree of the line
-/

namespace TraceText

open KeyedTree

/-! ### Trees on both sides -/

/-- Whether a value is no object. -/
def Value.isLeaf : Value → Bool
  | .object _ _ _ => false
  | _ => true

/-- Whether a JSON value stands for a value without fields: it is neither a list nor an object, or
it is an object with a marker key. -/
def Json.isLeaf : Json → Bool
  | .array _ => false
  | .object members => Json.isMarked members
  | _ => true

/-- The leaves of the members of an object, each behind its path. -/
def Json.leaves (members : List (Text × Json)) : List (List Text × Json) :=
  (positionsIn members).filter fun p => p.2.isLeaf

/-- The values at any depth of fields that are no objects, each behind its path. -/
def Value.leaves (fields : Fields) : List (List Text × Value) :=
  (positionsIn fields).filter fun p => p.2.isLeaf

/-! ### Objects with a marker key -/

theorem Json.isMarked_eq_false_iff {members : List (Text × Json)} :
    isMarked members = false ↔ ∀ key ∈ markerKeys, members.lookup key = none := by
  simp only [isMarked, List.any_eq_false, decide_eq_true_eq, List.lookup_eq_none_iff, bne_iff_ne]
  constructor
  · rintro h _ hkey member hmember rfl
    exact h member hmember hkey
  · intro h member hmember hkey
    exact h member.1 hkey member hmember rfl

namespace Value

/-- An object is decoded as a whole if and only if it has a marker key. -/
theorem ofMarked_eq_none_iff {clock : TickClock} {members : List (Text × Json)} :
    ofMarked clock members = none ↔ Json.isMarked members = false := by
  simp only [Json.isMarked_eq_false_iff, Json.markerKeys, List.forall_mem_cons,
    List.not_mem_nil, false_implies, implies_true, and_true]
  unfold ofMarked
  cases members.lookup "$ticks".toList with
  | some _ => simp
  | none =>
    cases members.lookup "$epochMillis".toList with
    | some _ => simp
    | none =>
      cases members.lookup "$instant".toList with
      | some _ => simp
      | none => cases members.lookup "$frames".toList <;> simp

/-- What an object with a marker key is decoded to has no fields. -/
theorem isLeaf_of_ofMarked {clock : TickClock} {members : List (Text × Json)} {value : Value}
    (h : ofMarked clock members = some (.ok value)) : value.isLeaf = true := by
  unfold ofMarked at h
  split at h
  · replace h := Option.some.inj h
    split at h <;> cases h
    rfl
  split at h
  · replace h := Option.some.inj h
    split at h <;> cases h
    rfl
  split at h
  · replace h := Option.some.inj h
    split at h
    · obtain ⟨t, -, rfl⟩ := map_eq_ok_iff.mp h
      rfl
    · cases h
  split at h
  · obtain ⟨frames, -, rfl⟩ := map_eq_ok_iff.mp (Option.some.inj h)
    rfl
  · cases h

/-! ### One level of the tree -/

/-- A JSON value is decoded to a value. -/
def Encodes (clock : TickClock) (json : Json) (value : Value) : Prop :=
  ofJson clock json = .ok value

/-- How one level of a JSON value is decoded.  What is neither a list nor an object is kept as it
is, and an object with a marker key becomes a value without fields.  A list becomes a generic object
with the items under their places.  An object keeps its members but for those that begin with a
dollar sign, in their order. -/
inductive Mirrors (clock : TickClock) : Json → Value → Prop where
  | null : Mirrors clock .null .null
  | bool (b : Bool) : Mirrors clock (.bool b) (.bool b)
  | int {i : Int} (hfits : i ≤ Json.maxInt) : Mirrors clock (.int i) (.int i none)
  | natural {i : Int} (hlarge : Json.maxInt < i) : Mirrors clock (.int i) (.natural i.toNat)
  | float (x : Binary64) : Mirrors clock (.float x) (.float x)
  | str (t : Text) : Mirrors clock (.str t) (.str t)
  | marked {members : List (Text × Json)} {value : Value}
      (hmarked : Json.isMarked members = true) (hleaf : value.isLeaf = true)
      (hvalue : ofMarked clock members = some (.ok value)) :
      Mirrors clock (.object members) value
  | array {items : List Json} {fields : Fields}
      (hfields : Aligned (Encodes clock) (Json.numbered 0 items) fields) :
      Mirrors clock (.array items) (.object arrayType .generic fields)
  | object {members : List (Text × Json)} {kind : ObjectKind} {fields : Fields}
      (hmarked : Json.isMarked members = false) (hkind : declaredKind members = .ok kind)
      (hfields : Aligned (Encodes clock) (Json.plainMembers members) fields) :
      Mirrors clock (.object members) (.object (declaredType members) kind fields)

variable {clock : TickClock}

theorem aligned_ofItems {place : Nat} {items : List Json} {fields : Fields}
    (h : ofItems clock place items = .ok fields) :
    Aligned (Encodes clock) (Json.numbered place items) fields := by
  induction items generalizing place fields with
  | nil =>
    cases h
    exact .nil
  | cons item rest ih =>
    rw [ofItems] at h
    simp only [bind_eq_ok_iff] at h
    obtain ⟨value, hvalue, fields, hfields, heq⟩ := h
    cases heq
    exact .cons ⟨rfl, hvalue⟩ (ih hfields)

theorem aligned_ofMembers {members : List (Text × Json)} {fields : Fields}
    (h : ofMembers clock members = .ok fields) :
    Aligned (Encodes clock) (Json.plainMembers members) fields := by
  induction members generalizing fields with
  | nil =>
    cases h
    exact .nil
  | cons member rest ih =>
    obtain ⟨name, json⟩ := member
    rw [ofMembers] at h
    by_cases hdollar : name.head? = some '$'
    · -- such a member is passed over on both sides
      rw [if_pos hdollar] at h
      rw [Json.plainMembers, List.filter_cons_of_neg (by simpa using hdollar)]
      exact ih h
    · rw [if_neg hdollar] at h
      simp only [bind_eq_ok_iff] at h
      obtain ⟨value, hvalue, fields, hfields, heq⟩ := h
      cases heq
      rw [Json.plainMembers, List.filter_cons_of_pos (by simpa using hdollar)]
      exact .cons ⟨rfl, hvalue⟩ (ih hfields)

/-- Whatever is decoded is so level by level. -/
theorem mirrors_of_encodes {json : Json} {value : Value} (h : Encodes clock json value) :
    Mirrors clock json value := by
  unfold Encodes at h
  cases json with
  | null =>
    cases h
    exact .null
  | bool b =>
    cases h
    exact .bool b
  | int i =>
    rw [ofJson] at h
    split at h
    · next hfits =>
      cases h
      exact .int hfits
    · next hlarge =>
      cases h
      exact .natural (Int.not_le.mp hlarge)
  | float x =>
    cases h
    exact .float x
  | str t =>
    cases h
    exact .str t
  | array items =>
    rw [ofJson] at h
    obtain ⟨fields, hfields, rfl⟩ := map_eq_ok_iff.mp h
    exact .array (aligned_ofItems hfields)
  | object members =>
    rw [ofJson] at h
    cases hmarked : ofMarked clock members with
    | some result =>
      -- it is decoded as a whole, so it has a marker key
      simp only [hmarked] at h
      subst h
      refine .marked ?_ (isLeaf_of_ofMarked hmarked) hmarked
      by_contra hnot
      have hnone : ofMarked clock members = none :=
        ofMarked_eq_none_iff.mpr (Bool.eq_false_iff.mpr hnot)
      exact Option.some_ne_none _ (hmarked.symm.trans hnone)
    | none =>
      simp only [hmarked, bind_eq_ok_iff] at h
      obtain ⟨kind, hkind, fields, hfields, heq⟩ := h
      cases heq
      exact .object (ofMarked_eq_none_iff.mp hmarked) hkind (aligned_ofMembers hfields)

namespace Mirrors

variable {json : Json} {value : Value}

theorem isLeaf_eq (h : Mirrors clock json value) : json.isLeaf = value.isLeaf := by
  cases h with
  | marked hmarked hleaf => exact hmarked.trans hleaf.symm
  | object hmarked => exact hmarked
  | _ => rfl

theorem aligned_children (h : Mirrors clock json value) :
    Aligned (Encodes clock) json.children value.children := by
  cases h with
  | @marked members _ hmarked hleaf =>
    have hjson : (Json.object members).children = [] := if_pos hmarked
    have hvalue : value.children = [] := by
      cases value with
      | object => cases hleaf
      | _ => rfl
    rw [hjson, hvalue]
    exact .nil
  | array hfields => exact hfields
  | @object members _ fields hmarked _ hfields =>
    have hjson : (Json.object members).children = Json.plainMembers members :=
      if_neg (Bool.eq_false_iff.mp hmarked)
    rw [hjson]
    exact hfields
  | _ => exact .nil

end Mirrors

/-- Fields that are decoded one by one have the positions of what they are decoded from. -/
theorem aligned_fieldPositions {members : List (Text × Json)} {fields : Fields}
    (h : Aligned (Encodes clock) members fields) :
    Aligned (Mirrors clock) (positionsIn members) (positionsIn fields) := by
  have hstep (json : Json) (value : Value) (h : Encodes clock json value) :
      Aligned (Encodes clock) (KeyedTree.children json) (KeyedTree.children value) :=
    (mirrors_of_encodes h).aligned_children
  have hpositions := aligned_positionsIn h fun member _ _ => aligned_positions hstep
  exact hpositions.mono fun _ _ => mirrors_of_encodes

end Value

/-! ### The tree of a record -/

namespace Record

theorem aligned_fieldsOf {clock : TickClock} {members : List (Text × Json)} {fields : Fields}
    (h : fieldsOf clock members = .ok fields) :
    Aligned (Value.Encodes clock) members fields := by
  induction members generalizing fields with
  | nil =>
    cases h
    exact .nil
  | cons member rest ih =>
    rw [fieldsOf] at h
    simp only [bind_eq_ok_iff, mapError_eq_ok_iff] at h
    obtain ⟨value, hvalue, fields, hfields, heq⟩ := h
    cases heq
    exact .cons ⟨rfl, hvalue⟩ (ih hfields)

/-- The fields of a record are decoded on the clock that the envelope describes. -/
theorem fieldsOf_of_ofEnvelope {e : Envelope} {r : Record} (h : ofEnvelope e = .ok r) :
    ∃ clock, clockOf e.clock = .ok clock ∧ fieldsOf clock e.fields = .ok r.fields := by
  unfold ofEnvelope at h
  obtain ⟨startTime, -, h⟩ := bind_eq_ok_iff.mp h
  dsimp only at h
  -- the end is given or is the start, and the fields do not depend on it
  split at h
  all_goals
    simp only [bind_eq_ok_iff, mapError_eq_ok_iff] at h
    obtain ⟨_, -, clock, hclock, fields, hfields, heq⟩ := h
    cases heq
    exact ⟨clock, hclock, hfields⟩

/-- The record of a line has the fields of the line, and at every depth what these hold, under the
same paths and in the same order; no path leads to two values. -/
theorem decode_keeps_tree {line : Text} {r : Record} (h : decode line = .ok r) :
    ∃ envelope clock,
      Json.readEnvelope (Text.trim line) = .ok envelope ∧ clockOf envelope.clock = .ok clock ∧
      r.fields.map Prod.fst = envelope.fields.map Prod.fst ∧
      Aligned (Value.Encodes clock) envelope.fields r.fields ∧
      Aligned (Value.Mirrors clock) (positionsIn envelope.fields) (positionsIn r.fields) ∧
      Aligned (Value.Mirrors clock) (Json.leaves envelope.fields) (Value.leaves r.fields) ∧
      ((positionsIn r.fields).map Prod.fst).Nodup := by
  obtain ⟨envelope, henvelope, h⟩ := bind_eq_ok_iff.mp h
  replace henvelope := mapError_eq_ok_iff.mp henvelope
  obtain ⟨clock, hclock, hfields⟩ := fieldsOf_of_ofEnvelope h
  have haligned := aligned_fieldsOf hfields
  have hpositions := Value.aligned_fieldPositions haligned
  refine ⟨envelope, clock, henvelope, hclock, haligned.keys_eq, haligned, hpositions,
    hpositions.filter fun _ _ h => h.isLeaf_eq, ?_⟩
  -- the reader saw to it that names are distinct
  obtain ⟨hnames, hdistinct⟩ := Json.distinct_of_readEnvelope henvelope
  rw [hpositions.keys_eq]
  exact nodup_paths_positionsIn hnames fun member hmember => (hdistinct member hmember).nodup_paths

/-- A line with a list inside of an object, and with a timestamp under a name that begins with a
dollar sign, which the record keeps at its top. -/
theorem decode_keeps_tree_nested :
    let line : Text := "\x7b\"type\":\"t\",\"startTime\":\"2024-03-05T10:00:00Z\"," ++
      "\"fields\":\x7b\"a\":\x7b\"$type\":\"x\",\"b\":[1,null]\x7d," ++
      "\"$c\":\x7b\"$ticks\":5\x7d\x7d\x7d"
    ∃ r, decode line = .ok r ∧ r.fields.map Prod.fst = (["a", "$c"] : List Text) ∧
      ((positionsIn r.fields).map Prod.fst).Nodup := by
  intro line
  have hnames : (Json.readEnvelope (Text.trim line)).map (fun e => e.fields.map Prod.fst) =
      .ok (["a", "$c"] : List Text) := by
    decide +kernel
  have hok : (decode line).isOk = true := by decide +kernel
  obtain ⟨r, hr⟩ : ∃ r, decode line = .ok r := by
    cases hdecode : decode line with
    | error e => rw [hdecode] at hok; cases hok
    | ok r => exact ⟨r, rfl⟩
  obtain ⟨envelope, _, henvelope, -, htop, -, -, -, hnodup⟩ := decode_keeps_tree hr
  obtain ⟨_, hread, hfields⟩ := map_eq_ok_iff.mp hnames
  obtain rfl := Except.ok.inj (henvelope.symm.trans hread)
  exact ⟨r, hr, htop.trans hfields, hnodup⟩

end Record

end TraceText
