import TraceText.Proofs.Record.Decoding
import TraceText.Record.Print

/-!
# Members that are ignored

Not every member of an object below the top of a line's fields counts.  If the object has a marker
key, nothing else in it does.  Otherwise its members under plain names count, and its type and its
kind if they are strings; all else that begins with a dollar sign does not.  An entry of a stack
trace is read for its type, its method and its line alone, even if it has a marker key.

So lines are projected to the members that count.  What is decoded, or why nothing is, can be told
from this projection: whatever stands in place of the members that are ignored, the record or the
error is the same.

## Main definitions

* `Json.Relevance` — which members of an object count, by the part that it plays
* `Json.Relevance.ofValues`, `Json.Relevance.ofLines` — every object is taken for a value, or
  entries of stack traces are told apart
* `Json.keep` — what is left of a JSON value without the members that are ignored
* `Json.Agree` — members of a line's fields that differ only in what is ignored

## Main results

* `Frame.ofJson_keep`, `Value.ofJson_keep` — what is left is decoded like the whole
* `Record.ignored_members_do_not_matter` — ignored members have no influence on a record
* `Record.frame_entry_read_past_marker` — a marker key decides nothing in a stack trace
-/

namespace TraceText

namespace Json

/-! ### Which members count -/

/-- The part that a JSON value plays in the fields of a line. -/
inductive Role where
  /-- It is decoded by itself. -/
  | value
  /-- It is the stack trace behind a marker key. -/
  | trace
  /-- It is an entry of a stack trace. -/
  | entry
  deriving DecidableEq

/-- Which members of an object count, by their names. -/
abbrev Relevance := Role → List (Text × Json) → Text → Bool

/-- The key that decides about an object: the first of all marker keys that it has. -/
def decidingKey? (members : List (Text × Json)) : Option Text :=
  markerKeys.find? fun key => (members.lookup key).isSome

/-- Whether an object has a string under a name. -/
def holdsText (members : List (Text × Json)) (name : Text) : Bool :=
  ((members.lookup name).bind Value.text?).isSome

/-- Whether a member of this name counts in an object that is decoded by itself: it is the deciding
one, or there is none and it has a plain name or declares the type or the kind. -/
def countsInValue (members : List (Text × Json)) (name : Text) : Bool :=
  match decidingKey? members with
  | some key => decide (name = key)
  | none =>
    decide (name.head? ≠ some '$') ||
      decide (name = "$type".toList ∨ name = "$kind".toList) && holdsText members name

/-- The members for which an entry of a stack trace is read. -/
def frameKeys : List Text := ["type", "method", "line"]

namespace Relevance

/-- Every object is taken for a value that is decoded by itself. -/
def ofValues : Relevance := fun _ => countsInValue

/-- Entries of stack traces are told apart from objects that are decoded by themselves. -/
def ofLines : Relevance
  | .entry => fun _ => frameKeys.contains
  | _ => countsInValue

end Relevance

namespace Role

/-- The part that the items of a list play. -/
def item : Role → Role
  | trace => entry
  | _ => value

/-- The part that the members of an object play. -/
def member (role : Role) (members : List (Text × Json)) : Role :=
  if role = value ∧ decidingKey? members = some "$frames".toList then trace else value

end Role

mutual

/-- What is left of a JSON value when members that do not count are removed, at any depth. -/
def keep (relevance : Relevance) (role : Role) : Json → Json
  | .array items => .array (keepItems relevance role.item items)
  | .object members =>
    .object (keepMembers relevance (relevance role members) (role.member members) members)
  | json => json

/-- What is left of the items of a list. -/
def keepItems (relevance : Relevance) (role : Role) : List Json → List Json
  | [] => []
  | item :: rest => item.keep relevance role :: keepItems relevance role rest

/-- What is left of members that count if their names do. -/
def keepMembers (relevance : Relevance) (counts : Text → Bool) (role : Role) :
    List (Text × Json) → List (Text × Json)
  | [] => []
  | (name, json) :: rest =>
    if counts name then (name, json.keep relevance role) :: keepMembers relevance counts role rest
    else keepMembers relevance counts role rest

end

/-- The fields of two lines differ only in members that do not count.  All names at the top do. -/
def Agree (relevance : Relevance) (members members' : List (Text × Json)) : Prop :=
  keepMembers relevance (fun _ => true) .value members =
    keepMembers relevance (fun _ => true) .value members'

/-! ### What is left -/

section Keep

variable (relevance : Relevance) (role : Role)

theorem keepItems_eq_map (items : List Json) :
    keepItems relevance role items = items.map (keep relevance role) := by
  induction items with
  | nil => rfl
  | cons item rest ih => rw [keepItems, ih, List.map_cons]

/-- A member is found among those that are left if its name counts. -/
theorem lookup_keepMembers (counts : Text → Bool) (members : List (Text × Json)) (name : Text) :
    (keepMembers relevance counts role members).lookup name =
      if counts name then (members.lookup name).map (keep relevance role) else none := by
  induction members with
  | nil => simp [keepMembers]
  | cons member rest ih =>
    obtain ⟨known, json⟩ := member
    rw [keepMembers]
    by_cases hname : name = known
    · subst hname
      cases hcounts : counts name with
      | true => simp
      | false => simpa [hcounts] using ih
    · have hne : (name == known) = false := beq_false_of_ne hname
      cases hcounts : counts known with
      | true => simpa [List.lookup_cons, hne] using ih
      | false => simpa [List.lookup_cons, hne] using ih

end Keep

end Json

/-! ### Stack traces -/

namespace Frame

open Json

variable (relevance : Relevance) (role : Role)

theorem textOfJson_keep (json : Json) :
    textOfJson (json.keep relevance role) = textOfJson json := by
  cases json <;> rfl

theorem lineOfJson_keep (json : Json) :
    lineOfJson (json.keep relevance role) = lineOfJson json := by
  cases json <;> rfl

/-- The check for faults passes over members of an entry under other names. -/
theorem checkMembers_keepMembers (members : List (Text × Json)) :
    checkMembers (keepMembers relevance frameKeys.contains role members) =
      checkMembers members := by
  induction members with
  | nil => rfl
  | cons member rest ih =>
    obtain ⟨name, json⟩ := member
    rw [keepMembers]
    by_cases hname : frameKeys.contains name
    · rw [if_pos hname, checkMembers, checkMembers, ih, textOfJson_keep, lineOfJson_keep]
    · rw [if_neg hname, ih, checkMembers]
      simp only [List.contains_iff_mem, frameKeys, List.mem_cons, List.not_mem_nil, or_false,
        not_or] at hname
      rw [if_neg (by tauto), if_neg hname.2.2]

theorem member_keepMembers (members : List (Text × Json)) {name : String}
    (hname : frameKeys.contains name.toList) :
    member (keepMembers relevance frameKeys.contains role members) name =
      (member members name).map (keep relevance role) := by
  rw [member, lookup_keepMembers, if_pos hname, member]
  cases members.lookup name.toList <;> rfl

/-- A text that an entry needs is read from what is left of it. -/
theorem bind_member_keepMembers {α : Type} (members : List (Text × Json)) {name : String}
    (hname : frameKeys.contains name.toList) (next : Text → Except ShapeError α) :
    (do next (← textOfJson (← member
        (keepMembers relevance frameKeys.contains role members) name))) =
      (do next (← textOfJson (← member members name))) := by
  rw [member_keepMembers relevance role members hname]
  cases member members name with
  | error e => rfl
  | ok json => exact congrArg (· >>= next) (textOfJson_keep relevance role json)

/-- An entry of a stack trace is read from the members that count in it. -/
theorem ofJson_keep (json : Json) : ofJson (json.keep .ofLines .entry) = ofJson json := by
  cases json with
  | array items =>
    rw [keep, keepItems_eq_map]
    match items with
    | [] => rfl
    | [typeName] => simp only [List.map_cons, List.map_nil, ofJson, textOfJson_keep]
    | typeName :: method :: rest =>
      have hline : lineOfJson ((rest.map (keep .ofLines .value)).headD (.int 0)) =
          lineOfJson (rest.headD (.int 0)) := by
        cases rest with
        | nil => rfl
        | cons line rest => exact lineOfJson_keep _ _ line
      simp only [Role.item, List.map_cons, ofJson, textOfJson_keep, hline, List.length_cons,
        List.length_map]
  | object members =>
    let kept := keepMembers .ofLines frameKeys.contains .value members
    have hline : lineOfJson ((kept.lookup "line".toList).getD (.int 0)) =
        lineOfJson ((members.lookup "line".toList).getD (.int 0)) := by
      rw [lookup_keepMembers, if_pos (by decide)]
      cases members.lookup "line".toList with
      | none => rfl
      | some line => exact lineOfJson_keep _ _ line
    have htype : frameKeys.contains "type".toList := by decide
    have hmethod : frameKeys.contains "method".toList := by decide
    change ofJson (.object kept) = ofJson (.object members)
    rw [ofJson, ofJson, checkMembers_keepMembers, hline]
    simp only [kept, bind_member_keepMembers _ _ _ htype, bind_member_keepMembers _ _ _ hmethod]
  | _ => rfl

end Frame

/-! ### Values -/

namespace Value

open Json

variable (relevance : Relevance) (role : Role)

theorem int64?_keep (json : Json) : int64? (json.keep relevance role) = int64? json := by
  cases json <;> rfl

theorem text?_keep (json : Json) : text? (json.keep relevance role) = text? json := by
  cases json <;> rfl

theorem framesOfJson_keep (json : Json) :
    framesOfJson (json.keep .ofLines .trace) = framesOfJson json := by
  cases json with
  | array items =>
    have hentries : Frame.ofJson ∘ keep .ofLines .entry = Frame.ofJson :=
      funext Frame.ofJson_keep
    rw [keep, keepItems_eq_map, framesOfJson, framesOfJson, List.mapM_map]
    exact congrArg (items.mapM ·) hentries
  | _ => rfl

/-- What is left of the members of an object that is decoded by itself. -/
def keptMembers (members : List (Text × Json)) : List (Text × Json) :=
  keepMembers .ofLines (countsInValue members) (Role.value.member members) members

variable {members : List (Text × Json)}

theorem lookup_keptMembers_of_counts {name : Text} (h : countsInValue members name = true) :
    (keptMembers members).lookup name =
      (members.lookup name).map (keep .ofLines (Role.value.member members)) := by
  rw [keptMembers, lookup_keepMembers, if_pos h]

theorem lookup_keptMembers_of_eq_none {name : Text} (h : members.lookup name = none) :
    (keptMembers members).lookup name = none := by
  rw [keptMembers, lookup_keepMembers, h, Option.map_none, ite_self]

theorem countsInValue_of_decidingKey? {key : Text} (h : decidingKey? members = some key) :
    countsInValue members key = true := by
  simp [countsInValue, h]

/-- The deciding member of an object is left, and decides alike. -/
theorem ofMarked_keptMembers (clock : TickClock) (members : List (Text × Json)) :
    ofMarked clock (keptMembers members) = ofMarked clock members := by
  have hlookup {key : Text} (hkey : decidingKey? members = some key) :=
    lookup_keptMembers_of_counts (countsInValue_of_decidingKey? hkey)
  unfold ofMarked
  -- the keys are tried in the order in which they decide, so the first one that is present is left
  cases hticks : members.lookup "$ticks".toList with
  | some ticks =>
    have hkey : decidingKey? members = some "$ticks".toList := by
      simp only [decidingKey?, markerKeys, List.find?_cons, Option.isSome, hticks]
    simp only [hlookup hkey, hticks, Option.map_some, int64?_keep]
  | none =>
    rw [lookup_keptMembers_of_eq_none hticks]
    cases hmillis : members.lookup "$epochMillis".toList with
    | some millis =>
      have hkey : decidingKey? members = some "$epochMillis".toList := by
        simp only [decidingKey?, markerKeys, List.find?_cons, Option.isSome, hticks, hmillis]
      simp only [hlookup hkey, hmillis, Option.map_some, int64?_keep]
    | none =>
      rw [lookup_keptMembers_of_eq_none hmillis]
      cases hinstant : members.lookup "$instant".toList with
      | some instant =>
        have hkey : decidingKey? members = some "$instant".toList := by
          simp only [decidingKey?, markerKeys, List.find?_cons, Option.isSome, hticks, hmillis,
            hinstant]
        simp only [hlookup hkey, hinstant, Option.map_some, text?_keep]
      | none =>
        rw [lookup_keptMembers_of_eq_none hinstant]
        cases hframes : members.lookup "$frames".toList with
        | some frames =>
          have hkey : decidingKey? members = some "$frames".toList := by
            simp only [decidingKey?, markerKeys, List.find?_cons, Option.isSome, hticks, hmillis,
              hinstant, hframes]
          have hrole : Role.value.member members = .trace := if_pos ⟨rfl, hkey⟩
          simp only [hlookup hkey, hframes, hrole, Option.map_some, framesOfJson_keep]
        | none => rw [lookup_keptMembers_of_eq_none hframes]

section Unmarked

variable (h : decidingKey? members = none)

include h

theorem countsInValue_of_plain {name : Text} (hname : name.head? ≠ some '$') :
    countsInValue members name = true := by
  simp only [countsInValue, h, decide_eq_true hname, Bool.true_or]

/-- What an object declares is left if it is a string, and is nothing otherwise. -/
theorem bind_text?_keptMembers {name : Text}
    (hname : name = "$type".toList ∨ name = "$kind".toList) :
    ((keptMembers members).lookup name).bind text? = (members.lookup name).bind text? := by
  have hdollar : name.head? = some '$' := by
    rcases hname with rfl | rfl <;> rfl
  have hcounts : countsInValue members name = holdsText members name := by
    simp only [countsInValue, h, hdollar, decide_eq_true hname]
    simp
  rw [keptMembers, lookup_keepMembers, hcounts]
  cases htext : holdsText members name with
  | true =>
    rw [if_pos rfl]
    cases members.lookup name with
    | none => rfl
    | some json => exact text?_keep _ _ json
  | false =>
    have hnone : (members.lookup name).bind text? = none :=
      Option.isNone_iff_eq_none.mp (Option.isSome_eq_false_iff.mp htext)
    rw [hnone]
    rfl

theorem declaredType_keptMembers : declaredType (keptMembers members) = declaredType members := by
  rw [declaredType, bind_text?_keptMembers h (.inl rfl), declaredType]

theorem declaredKind_keptMembers : declaredKind (keptMembers members) = declaredKind members := by
  rw [declaredKind, bind_text?_keptMembers h (.inr rfl), declaredKind]

end Unmarked

theorem decidingKey?_eq_none_iff {clock : TickClock} :
    decidingKey? members = none ↔ ofMarked clock members = none := by
  rw [ofMarked_eq_none_iff, isMarked_eq_false_iff, decidingKey?, List.find?_eq_none]
  simp only [Bool.not_eq_true, Option.isSome_eq_false_iff, Option.isNone_iff_eq_none]

variable {clock : TickClock}

theorem ofItems_keepItems {items : List Json}
    (h : ∀ item ∈ items, ofJson clock (item.keep .ofLines .value) = ofJson clock item)
    (place : Nat) :
    ofItems clock place (keepItems .ofLines .value items) = ofItems clock place items := by
  induction items generalizing place with
  | nil => rfl
  | cons item rest ih =>
    obtain ⟨hitem, hrest⟩ := List.forall_mem_cons.mp h
    rw [keepItems, ofItems, ofItems, hitem]
    simp only [ih hrest]

/-- Members that are left out are passed over anyway, if those with plain names are left. -/
theorem ofMembers_keepMembers {counts : Text → Bool}
    (hplain : ∀ name : Text, name.head? ≠ some '$' → counts name = true)
    (h : ∀ member ∈ plainMembers members,
      ofJson clock (member.2.keep .ofLines .value) = ofJson clock member.2) :
    ofMembers clock (keepMembers .ofLines counts .value members) = ofMembers clock members := by
  induction members with
  | nil => rfl
  | cons member rest ih =>
    obtain ⟨name, json⟩ := member
    by_cases hdollar : name.head? = some '$'
    · rw [plainMembers, List.filter_cons_of_neg (by simpa using hdollar)] at h
      rw [keepMembers, ofMembers, if_pos hdollar]
      split
      · rw [ofMembers, if_pos hdollar, ih h]
      · exact ih h
    · rw [plainMembers, List.filter_cons_of_pos (by simpa using hdollar)] at h
      obtain ⟨hjson, hrest⟩ := List.forall_mem_cons.mp h
      rw [keepMembers, if_pos (hplain name hdollar), ofMembers, ofMembers, hjson, ih hrest]

theorem mem_numbered_of_mem {items : List Json} {item : Json} (h : item ∈ items) (place : Nat) :
    ∃ child ∈ numbered place items, child.2 = item := by
  have hitems : (numbered place items).map Prod.snd = items := by
    rw [numbered, List.map_map]
    exact List.zipIdx_map_fst place items
  rw [← hitems] at h
  exact List.mem_map.mp h

/-- What is left of a JSON value is decoded like the whole: to the same value, or with the same
error. -/
theorem ofJson_keep (json : Json) :
    ofJson clock (json.keep .ofLines .value) = ofJson clock json := by
  -- members that are passed over or that do not decide are not among the branches of the tree
  induction json using KeyedTree.induction with
  | node json ih =>
    cases json with
    | array items =>
      have hitems : ∀ item ∈ items,
          ofJson clock (item.keep .ofLines .value) = ofJson clock item := by
        intro item hitem
        obtain ⟨child, hchild, rfl⟩ := mem_numbered_of_mem hitem 0
        exact ih child hchild
      rw [keep, ofJson, ofJson]
      exact congrArg (Except.map _) (ofItems_keepItems hitems 0)
    | object members =>
      change ofJson clock (.object (keptMembers members)) = _
      rw [ofJson, ofJson, ofMarked_keptMembers]
      cases hmarked : ofMarked clock members with
      | some result => rfl
      | none =>
        have hkey := decidingKey?_eq_none_iff.mpr hmarked
        have hrole : Role.value.member members = .value := by simp [Role.member, hkey]
        have hchildren : KeyedTree.children (Json.object members) = plainMembers members :=
          if_neg (Bool.eq_false_iff.mp (ofMarked_eq_none_iff.mp hmarked))
        have hmembers : ofMembers clock (keptMembers members) = ofMembers clock members := by
          rw [keptMembers, hrole]
          refine ofMembers_keepMembers (fun _ => countsInValue_of_plain hkey) ?_
          intro member hmember
          exact ih member (hchildren.symm ▸ hmember)
        simp only [declaredKind_keptMembers hkey, declaredType_keptMembers hkey, hmembers]
    | _ => rfl

end Value

/-! ### Records -/

namespace Record

open Json

theorem fieldsOf_keepMembers (clock : TickClock) (members : List (Text × Json)) :
    fieldsOf clock (keepMembers .ofLines (fun _ => true) .value members) =
      fieldsOf clock members := by
  induction members with
  | nil => rfl
  | cons member rest ih =>
    obtain ⟨name, json⟩ := member
    rw [keepMembers, if_pos rfl, fieldsOf, fieldsOf, Value.ofJson_keep, ih]

/-- Fields that differ only in members that do not count give the same record, or the same error. -/
theorem ignored_members_do_not_matter {members members' : List (Text × Json)}
    (h : Agree .ofLines members members') :
    (∀ clock, fieldsOf clock members = fieldsOf clock members') ∧
      ∀ e : Envelope, ofEnvelope { e with fields := members } =
        ofEnvelope { e with fields := members' } := by
  have hfields : ∀ clock, fieldsOf clock members = fieldsOf clock members' := by
    intro clock
    rw [← fieldsOf_keepMembers clock members, h, fieldsOf_keepMembers]
  refine ⟨hfields, fun e => ?_⟩
  simp only [ofEnvelope, hfields]

/-- What would not be decoded does no harm where it is ignored: behind a deciding key, under a name
that begins with a dollar sign, and in an entry of a stack trace. -/
theorem ignored_members_do_not_matter_amid_faults :
    let broken : Json := .object [("$kind", .str "none")]
    let frame (rest : List (Text × Json)) : Json :=
      .object (("type", .str "t") :: ("method", .str "m") :: rest)
    let members : List (Text × Json) :=
      [("$a", .object [("b", broken), ("$epochMillis", .int 5), ("$instant", .null)]),
        ("c", .object [("$type", .int 1), ("d", .array [.object [("$e", broken)]])]),
        ("f", .object [("$frames", .array [frame [("$ticks", broken)]])])]
    let members' : List (Text × Json) :=
      [("$a", .object [("$epochMillis", .int 5), ("$frames", broken)]),
        ("c", .object [("d", .array [.object []]), ("$kind", broken)]),
        ("f", .object [("$frames", .array [frame []])])]
    Agree .ofLines members members' ∧
      fieldsOf .standard members = fieldsOf .standard members' := by
  intro broken frame members members'
  have h : Agree .ofLines members members' := by
    rfl
  exact ⟨h, (ignored_members_do_not_matter h).1 .standard⟩

/-- The fields of an event with a stack trace, whose only entry has a marker key. -/
def tracedAt (typeName : Text) : List (Text × Json) :=
  [("f", .object [("$frames",
    .array [.object [("$ticks", .int 1), ("type", .str typeName), ("method", .str "m")]])])]

/-- An entry of a stack trace is read past a marker key, which would decide alone if the entry were
a value. -/
theorem frame_entry_read_past_marker :
    Agree .ofValues (tracedAt "a") (tracedAt "b") ∧
      fieldsOf .standard (tracedAt "a") ≠ fieldsOf .standard (tracedAt "b") := by
  refine ⟨rfl, fun heq => ?_⟩
  have htexts := congrArg (Except.map (fieldsText 1)) heq
  revert htexts
  decide +kernel

end Record

end TraceText
