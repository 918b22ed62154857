import TraceText.Yaml.Scalar

/-!
# YAML nodes

A node is a scalar, a sequence or a mapping.  A node can be anchored, and an alias stands for an
anchored node.

## Main definitions

* `Yaml.Node` — the nodes; `Node.anchored` lists the anchored ones below a node
* `Yaml.Node.size` — the size of what is written
* `Yaml.Document` — the node of a document with everything that aliases stand for
* `Yaml.Lookup` — what is found in a document, with a bound on the aliases that are followed
* `Yaml.Document.resolve` — a node, or what it stands for
* `Yaml.Document.text`, `optionalText`, `truth`, `items`, `members` — what a node holds, if it is of
  the kind that is asked for
-/

namespace TraceText.Yaml

/-- A part of a document. -/
inductive Node where
  /-- What stands for the node that is anchored by a number. -/
  | link (number : Nat)
  | scalar (tag : Option Text) (style : Style) (text : Text)
  | sequence (items : List Node)
  | mapping (pairs : List (Node × Node))
  | anchor (number : Nat) (node : Node)
  deriving Repr, Inhabited

namespace Node

/-- What stands where nothing is written. -/
def absent : Node := scalar none .plain []

mutual

/-- The anchored nodes below a node, with their numbers, in the order in which they begin. -/
def anchored : Node → List (Nat × Node)
  | link _ => []
  | scalar _ _ _ => []
  | sequence items => anchoredItems items
  | mapping pairs => anchoredPairs pairs
  | anchor number node => (number, node) :: anchored node

/-- The anchored nodes below the items of a sequence. -/
def anchoredItems : List Node → List (Nat × Node)
  | [] => []
  | item :: rest => anchored item ++ anchoredItems rest

/-- The anchored nodes below the pairs of a mapping. -/
def anchoredPairs : List (Node × Node) → List (Nat × Node)
  | [] => []
  | (key, value) :: rest => anchored key ++ anchored value ++ anchoredPairs rest

end

mutual

/-- The size of a node as it is written: one for each scalar and alias, two for the limits of each
collection. -/
def size : Node → Nat
  | link _ => 1
  | scalar _ _ _ => 1
  | sequence items => 2 + sizeItems items
  | mapping pairs => 2 + sizePairs pairs
  | anchor _ node => size node

/-- The size of the items of a sequence. -/
def sizeItems : List Node → Nat
  | [] => 0
  | item :: rest => size item + sizeItems rest

/-- The size of the pairs of a mapping. -/
def sizePairs : List (Node × Node) → Nat
  | [] => 0
  | (key, value) :: rest => size key + size value + sizePairs rest

end

/-- A node without its anchor. -/
def bare : Node → Node
  | anchor _ node => bare node
  | node => node

end Node

/-- A document. -/
structure Document where
  root : Node
  /-- The anchored nodes with their numbers, in the order in which they begin. -/
  anchored : List (Nat × Node)
  deriving Inhabited

/-- What is found in a document, if anything is.  The state is the number of aliases that may still
be followed. -/
abbrev Lookup := StateT Nat Option

namespace Lookup

/-- Nothing is found. -/
def nothing : Lookup α := fun _ => none

/-- One alias followed, if there may be more. -/
def follow : Lookup Unit := fun
  | 0 => none
  | left + 1 => some ((), left)

end Lookup

namespace Document

/-- The document of a node. -/
def ofNode (root : Node) : Document := ⟨root, root.anchored⟩

/-- The number of aliases that may be followed, so that little text cannot stand for a lot. -/
def mostFollowed (d : Document) : Nat := 100 * d.root.size

/-- What is found in a document, starting at its root. -/
def find? (d : Document) (lookup : Node → Lookup α) : Option α :=
  ((lookup d.root).run d.mostFollowed).map (·.1)

/-- A node without its anchor or, for an alias, the last node with its number. -/
def resolve (d : Document) (node : Node) : Lookup Node :=
  match node.bare with
  | .link number => do
    Lookup.follow
    return ((d.anchored.reverse.lookup number).getD .absent).bare
  | node => return node

/-- The tag of nodes without a value. -/
def nullTag : Text := "tag:yaml.org,2002:null"

/-- The tag of truth values. -/
def boolTag : Text := "tag:yaml.org,2002:bool"

/-- Whether a plain text says that there is no value. -/
def isNull (t : Text) : Bool :=
  t == "~".toList || t == "null".toList || t == "Null".toList || t == "NULL".toList

/-- The truth value that a text denotes. -/
def truthOf? (t : Text) : Option Bool :=
  if t = "true".toList ∨ t = "True".toList ∨ t = "TRUE".toList then some true
  else if t = "false".toList ∨ t = "False".toList ∨ t = "FALSE".toList then some false
  else none

/-- The text of a scalar, however it is written. -/
def text (d : Document) (node : Node) : Lookup Text := do
  match ← d.resolve node with
  | .scalar _ _ text => return text
  | _ => Lookup.nothing

/-- The text of a scalar that may be without a value: a plain one can be empty or say so, unless it
has a tag.  With the tag of nodes without a value it has to say so. -/
def optionalText (d : Document) (node : Node) : Lookup (Option Text) := do
  match ← d.resolve node with
  | .scalar none .plain text => return if text = [] ∨ isNull text then none else some text
  | .scalar (some tag) .plain text =>
    if tag ≠ nullTag then return some text
    else if isNull text then return none
    else Lookup.nothing
  | .scalar _ _ text => return some text
  | _ => Lookup.nothing

/-- The truth value of a plain scalar, or of a block with the tag of truth values. -/
def truth (d : Document) (node : Node) : Lookup Bool := do
  match ← d.resolve node with
  | .scalar _ .plain text => truthOf? text
  | .scalar (some tag) .literal text => if tag = boolTag then truthOf? text else Lookup.nothing
  | _ => Lookup.nothing

/-- The items of a sequence; an empty plain scalar has none. -/
def items (d : Document) (node : Node) : Lookup (List Node) := do
  match ← d.resolve node with
  | .sequence items => return items
  | .scalar _ .plain [] => return []
  | _ => Lookup.nothing

/-- The members of a mapping, whose keys have to be scalars; an empty plain scalar has none. -/
def members (d : Document) (node : Node) : Lookup (List (Text × Node)) := do
  match ← d.resolve node with
  | .mapping pairs => pairs.mapM fun (key, value) => do return (← d.text key, value)
  | .scalar _ .plain [] => return []
  | _ => Lookup.nothing

end Document

end TraceText.Yaml
