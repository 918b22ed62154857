import Mathlib.Data.List.Forall2
import Mathlib.Data.List.Nodup
import TraceText.Record.Basic

/-!
# Trees whose branches have names

JSON values and the values of records both hold others by name.  A position in such a tree is
reached along a path of names.  Listed in the order in which they stand, the positions describe a
tree entirely: two trees that agree on every level agree on all positions.

## Main definitions

* `Aligned` — the same keys in the same order, with related entries
* `KeyedTree` — a type of things that hold smaller ones by name
* `KeyedTree.positions`, `KeyedTree.positionsIn` — every position with its path, in one tree or in
  several
* `KeyedTree.Everywhere` — a property holds at every position
* `KeyedTree.Distinct` — no two branches of one node have the same name
* `KeyedTree.Level` — what a chain of keys leads to
* `Value.children` — what a value of a record holds by name

## Main results

* `KeyedTree.Distinct.nodup_paths` — a path leads to one position at most
* `KeyedTree.aligned_positions` — a relation that passes on to branches aligns the positions
* `KeyedTree.Level.exists_aligned` — and it relates whatever the same chain of keys leads to
-/

namespace TraceText

/-! ### Lists with keys -/

section Aligned

variable {κ α β : Type} {R S : α → β → Prop}

/-- The same keys in the same order, each with a related entry. -/
def Aligned (R : α → β → Prop) : List (κ × α) → List (κ × β) → Prop :=
  List.Forall₂ fun p q => q.1 = p.1 ∧ R p.2 q.2

namespace Aligned

theorem keys_eq {ps : List (κ × α)} {qs : List (κ × β)} (h : Aligned R ps qs) :
    qs.map Prod.fst = ps.map Prod.fst := by
  induction h with
  | nil => rfl
  | cons hhead _ ih => rw [List.map_cons, List.map_cons, hhead.1, ih]

theorem mono (hmono : ∀ x y, R x y → S x y) {ps : List (κ × α)} {qs : List (κ × β)}
    (h : Aligned R ps qs) : Aligned S ps qs :=
  List.Forall₂.imp (fun p q hpq => ⟨hpq.1, hmono p.2 q.2 hpq.2⟩) h

/-- Entries may be chosen by a property on which related ones agree. -/
theorem filter {f : α → Bool} {g : β → Bool} (hagree : ∀ x y, R x y → f x = g y)
    {ps : List (κ × α)} {qs : List (κ × β)} (h : Aligned R ps qs) :
    Aligned R (ps.filter fun p => f p.2) (qs.filter fun q => g q.2) := by
  refine List.rel_filter ?_ h
  rintro p q ⟨-, hpq⟩
  exact Bool.eq_iff_iff.mp (hagree p.2 q.2 hpq)

theorem append {ps ps' : List (κ × α)} {qs qs' : List (κ × β)} (h : Aligned R ps qs)
    (h' : Aligned R ps' qs') : Aligned R (ps ++ ps') (qs ++ qs') :=
  List.rel_append h h'

/-- Keys may be changed alike on both sides. -/
theorem mapKeys {μ : Type} (f : κ → μ) {ps : List (κ × α)} {qs : List (κ × β)}
    (h : Aligned R ps qs) :
    Aligned R (ps.map fun p => (f p.1, p.2)) (qs.map fun q => (f q.1, q.2)) := by
  refine List.rel_map ?_ h
  rintro p q ⟨hkey, hpq⟩
  exact ⟨congrArg f hkey, hpq⟩

/-- Each entry on the right is related to one on the left. -/
theorem exists_of_mem {ps : List (κ × α)} {qs : List (κ × β)} (h : Aligned R ps qs) {q : κ × β}
    (hq : q ∈ qs) : ∃ p ∈ ps, q.1 = p.1 ∧ R p.2 q.2 := by
  induction h with
  | nil => cases hq
  | @cons p _ ps _ hpq _ ih =>
    rcases List.mem_cons.mp hq with rfl | hq
    · exact ⟨p, List.mem_cons_self, hpq⟩
    · obtain ⟨p', hp', hrelated⟩ := ih hq
      exact ⟨p', List.mem_cons_of_mem p hp', hrelated⟩

/-- Behind one key there are related entries. -/
theorem exists_lookup [BEq κ] [LawfulBEq κ] {ps : List (κ × α)} {qs : List (κ × β)} {key : κ}
    {y : β} (h : Aligned R ps qs) (hy : qs.lookup key = some y) :
    ∃ x, ps.lookup key = some x ∧ R x y := by
  induction h with
  | nil => cases hy
  | @cons p q ps qs hpq _ ih =>
    obtain ⟨hkey, hrelated⟩ := hpq
    rw [List.lookup_cons, hkey] at hy
    rw [List.lookup_cons]
    split
    · next hfound =>
      rw [hfound] at hy
      exact ⟨p.2, rfl, Option.some.inj hy ▸ hrelated⟩
    · next hother =>
      rw [hother] at hy
      exact ih hy

end Aligned

end Aligned

/-! ### Trees -/

/-- A type of trees: what a tree holds directly has a name and is smaller. -/
class KeyedTree (α : Type) [SizeOf α] where
  children : α → List (Text × α)
  sizeOf_child_lt {x : α} {child : Text × α} : child ∈ children x → sizeOf child.2 < sizeOf x

namespace KeyedTree

variable {α β : Type} [SizeOf α] [SizeOf β] [KeyedTree α] [KeyedTree β]

/-- All positions of a tree in the order in which they stand, each with the path that leads to it
and the tree that is found there. -/
def positions (x : α) : List (List Text × α) :=
  ([], x) :: (children x).attach.flatMap fun child =>
    (positions child.1.2).map fun p => (child.1.1 :: p.1, p.2)
termination_by sizeOf x
decreasing_by exact sizeOf_child_lt child.2

/-- All positions of several trees, each tree behind its name. -/
def positionsIn (trees : List (Text × α)) : List (List Text × α) :=
  trees.flatMap fun tree => (positions tree.2).map fun p => (tree.1 :: p.1, p.2)

theorem positions_eq (x : α) : positions x = ([], x) :: positionsIn (children x) := by
  let below (child : Text × α) := (positions child.2).map fun p => (child.1 :: p.1, p.2)
  have hunattach : ((children x).attach.flatMap fun child => below child.1) =
      (children x).flatMap below := by
    rw [List.flatMap_subtype (g := below) fun _ _ => rfl, List.unattach_attach]
  rw [positions, positionsIn]
  exact congrArg (([], x) :: ·) hunattach

/-- Induction on trees, where each comes after all that it holds. -/
@[elab_as_elim]
theorem induction {motive : α → Prop}
    (node : ∀ x, (∀ child ∈ children x, motive child.2) → motive x) (x : α) : motive x :=
  node x fun child hchild =>
    have := sizeOf_child_lt hchild
    induction node child.2
termination_by sizeOf x

theorem mem_positionsIn {trees : List (Text × α)} {p : List Text × α} :
    p ∈ positionsIn trees ↔
      ∃ tree ∈ trees, ∃ q ∈ positions tree.2, (tree.1 :: q.1, q.2) = p := by
  simp only [positionsIn, List.mem_flatMap, List.mem_map]

/-! ### Properties at every position -/

/-- A property of all that is found in a tree, the tree itself included. -/
def Everywhere (P : α → Prop) (x : α) : Prop := ∀ p ∈ positions x, P p.2

theorem everywhere_iff {P : α → Prop} {x : α} :
    Everywhere P x ↔ P x ∧ ∀ child ∈ children x, Everywhere P child.2 := by
  unfold Everywhere
  rw [positions_eq]
  constructor
  · intro h
    refine ⟨h _ List.mem_cons_self, fun child hchild q hq => ?_⟩
    have hbelow : (child.1 :: q.1, q.2) ∈ positionsIn (children x) :=
      mem_positionsIn.mpr ⟨child, hchild, q, hq, rfl⟩
    exact h (child.1 :: q.1, q.2) (List.mem_cons_of_mem _ hbelow)
  · rintro ⟨hnode, hbelow⟩ p hp
    rcases List.mem_cons.mp hp with rfl | hp
    · exact hnode
    · obtain ⟨child, hchild, q, hq, rfl⟩ := mem_positionsIn.mp hp
      exact hbelow child hchild q hq

theorem Everywhere.self {P : α → Prop} {x : α} (h : Everywhere P x) : P x :=
  (everywhere_iff.mp h).1

theorem Everywhere.child {P : α → Prop} {x : α} (h : Everywhere P x) {child : Text × α}
    (hchild : child ∈ children x) : Everywhere P child.2 :=
  (everywhere_iff.mp h).2 child hchild

/-- A property that passes on to branches holds everywhere. -/
theorem everywhere_of_step {P : α → Prop} (hstep : ∀ x, P x → ∀ child ∈ children x, P child.2)
    {x : α} (h : P x) : Everywhere P x := by
  induction x using induction with
  | node x ih =>
    exact everywhere_iff.mpr ⟨h, fun child hchild => ih child hchild (hstep x h child hchild)⟩

/-- A property holds at all positions of several trees if it holds everywhere in each of them. -/
theorem forall_mem_positionsIn_iff {P : α → Prop} {trees : List (Text × α)} :
    (∀ p ∈ positionsIn trees, P p.2) ↔ ∀ tree ∈ trees, Everywhere P tree.2 := by
  constructor
  · intro h tree htree q hq
    exact h (tree.1 :: q.1, q.2) (mem_positionsIn.mpr ⟨tree, htree, q, hq, rfl⟩)
  · intro h p hp
    obtain ⟨tree, htree, q, hq, rfl⟩ := mem_positionsIn.mp hp
    exact h tree htree q hq

/-- What holds everywhere in a tree does so in whatever is found there. -/
theorem Everywhere.of_mem {P : α → Prop} {x : α} (h : Everywhere P x) {p : List Text × α}
    (hp : p ∈ positions x) : Everywhere P p.2 := by
  induction x using induction generalizing p with
  | node x ih =>
    rw [positions_eq] at hp
    rcases List.mem_cons.mp hp with rfl | hp
    · exact h
    · obtain ⟨child, hchild, q, hq, rfl⟩ := mem_positionsIn.mp hp
      have hfound : Everywhere P q.2 := ih child hchild (h.child hchild) hq
      exact hfound

/-! ### Paths that lead to one position -/

/-- Nowhere in the tree do two branches of one node have the same name. -/
def Distinct : α → Prop := Everywhere fun x => ((children x).map Prod.fst).Nodup

/-- Paths of several trees are distinct if those of each tree are, and no two have one name. -/
theorem nodup_paths_positionsIn {trees : List (Text × α)} (hnames : (trees.map Prod.fst).Nodup)
    (h : ∀ tree ∈ trees, ((positions tree.2).map Prod.fst).Nodup) :
    ((positionsIn trees).map Prod.fst).Nodup := by
  have hpaths : (positionsIn trees).map Prod.fst =
      trees.flatMap fun tree => ((positions tree.2).map Prod.fst).map (tree.1 :: ·) := by
    simp only [positionsIn, List.map_flatMap, List.map_map]
    rfl
  rw [hpaths, List.nodup_flatMap]
  refine ⟨fun tree htree => (h tree htree).map (List.cons_injective), ?_⟩
  -- paths into different trees differ in their first step
  refine (List.pairwise_map.mp hnames).imp fun {a b} hne => ?_
  simp only [Function.onFun, List.disjoint_left, List.mem_map]
  rintro _ ⟨p, -, rfl⟩ ⟨q, -, heq⟩
  exact hne (List.cons.inj heq).1.symm

/-- In a tree with distinct names, a path leads to one position at most. -/
theorem Distinct.nodup_paths {x : α} (h : Distinct x) : ((positions x).map Prod.fst).Nodup := by
  induction x using induction with
  | node x ih =>
    have hbelow : ((positionsIn (children x)).map Prod.fst).Nodup :=
      nodup_paths_positionsIn h.self fun child hchild => ih child hchild (h.child hchild)
    rw [positions_eq, List.map_cons, List.nodup_cons]
    refine ⟨?_, hbelow⟩
    -- only the tree itself is reached without a step
    intro hmem
    obtain ⟨p, hp, hnil⟩ := List.mem_map.mp hmem
    obtain ⟨child, -, q, -, rfl⟩ := mem_positionsIn.mp hp
    cases hnil

/-! ### Trees of the same shape -/

section Aligned

variable {R : α → β → Prop}

/-- Positions of several trees are aligned if those of related trees are. -/
theorem aligned_positionsIn {xs : List (Text × α)} {ys : List (Text × β)} (h : Aligned R xs ys)
    (hpositions : ∀ x ∈ xs, ∀ y, R x.2 y → Aligned R (positions x.2) (positions y)) :
    Aligned R (positionsIn xs) (positionsIn ys) := by
  induction h with
  | nil => exact .nil
  | @cons x y xs ys hxy _ ih =>
    obtain ⟨hname, hrelated⟩ := hxy
    have hhead := (hpositions x List.mem_cons_self y.2 hrelated).mapKeys (x.1 :: ·)
    have htail := ih fun x hx => hpositions x (List.mem_cons_of_mem _ hx)
    simp only [positionsIn, List.flatMap_cons] at htail ⊢
    rw [hname]
    exact hhead.append htail

/-- Where related trees hold related ones under the same names, all their positions are related and
are reached along the same paths. -/
theorem aligned_positions (hstep : ∀ x y, R x y → Aligned R (children x) (children y)) {x : α}
    {y : β} (h : R x y) : Aligned R (positions x) (positions y) := by
  induction x using induction generalizing y with
  | node x ih =>
    rw [positions_eq, positions_eq]
    exact .cons ⟨rfl, h⟩ (aligned_positionsIn (hstep x y h) fun child hchild _ => ih child hchild)

end Aligned

/-! ### What a chain of keys leads to -/

/-- A chain of keys leads from several trees to those that its last tree holds. -/
inductive Level : List (Text × α) → List Text → List (Text × α) → Prop where
  | top (trees : List (Text × α)) : Level trees [] trees
  | inside {trees level : List (Text × α)} {key : Text} {keys : List Text} {x : α}
      (h : trees.lookup key = some x) (hinner : Level (children x) keys level) :
      Level trees (key :: keys) level

namespace Level

variable {R : α → β → Prop} {P : α → Prop} {keys : List Text}

/-- A property of trees that passes on to branches holds wherever a chain of keys leads. -/
theorem forall_mem (hstep : ∀ x, P x → ∀ child ∈ children x, P child.2)
    {trees level : List (Text × α)} (h : Level trees keys level) (htrees : ∀ t ∈ trees, P t.2) :
    ∀ t ∈ level, P t.2 := by
  induction h with
  | top => exact htrees
  | inside hlookup _ ih =>
    obtain ⟨before, after, rfl, -⟩ := List.lookup_eq_some_iff.mp hlookup
    apply ih
    apply hstep
    exact htrees (_, _) (List.mem_append_right _ List.mem_cons_self)

/-- The same chain leads from related trees to related ones. -/
theorem exists_aligned (hstep : ∀ x y, R x y → Aligned R (children x) (children y))
    {ys level : List (Text × β)} (h : Level ys keys level) {xs : List (Text × α)}
    (haligned : Aligned R xs ys) : ∃ level', Level xs keys level' ∧ Aligned R level' level := by
  induction h generalizing xs with
  | top => exact ⟨xs, .top xs, haligned⟩
  | inside hlookup _ ih =>
    obtain ⟨x, hx, hrelated⟩ := haligned.exists_lookup hlookup
    obtain ⟨level', hlevel, hlevels⟩ := ih (hstep _ _ hrelated)
    exact ⟨level', .inside hx hlevel, hlevels⟩

end Level

end KeyedTree

/-! ### Values as trees -/

/-- The fields of a value. -/
def Value.children : Value → Fields
  | .object _ _ fields => fields
  | _ => []

instance : KeyedTree Value where
  children := Value.children
  sizeOf_child_lt {value child} h := by
    cases value with
    | object typeName kind fields =>
      have hlt : sizeOf child < sizeOf fields := List.sizeOf_lt_of_mem h
      obtain ⟨name, inner⟩ := child
      simp only [Value.object.sizeOf_spec, Prod.mk.sizeOf_spec] at hlt ⊢
      omega
    | _ => cases h

end TraceText
