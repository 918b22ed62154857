import TraceText.Yaml.Node
import TraceText.Yaml.TokenStream

/-!
# YAML documents

The nodes that tokens describe.  In brackets and braces parts are separated by commas; in blocks
every part has its own indicator.  Where a part is left out, an absent node stands.

## Main definitions

* `Yaml.Handles` — what the handles of tags stand for
* `Yaml.readNode` — the node at the start of tokens
* `Yaml.readDocument` — the only document of a text
-/

namespace TraceText.Yaml

/-- What the handles of tags stand for. -/
abbrev Handles := List (Text × Text)

/-- The handles that need no declaration. -/
def defaultHandles : Handles := [("!", "!"), ("!!", "tag:yaml.org,2002:")]

/-- The tag in full, if its handle is known. -/
def Handles.expand? (handles : Handles) (t : Tag) : Option Text :=
  if t.handle = [] then some t.suffix else (handles.lookup t.handle).map (· ++ t.suffix)

/-- What precedes the content of a node. -/
structure Properties where
  anchor : Option Nat
  tag : Option Text
  deriving Inhabited

/-- The properties at the start of tokens: an anchor and a tag, in any order. -/
def readProperties (handles : Handles) (ts : List Token) : Option (Properties × List Token) :=
  match ts with
  | .anchor number :: .tag t :: rest => do return (⟨some number, ← handles.expand? t⟩, rest)
  | .tag t :: .anchor number :: rest => do return (⟨some number, ← handles.expand? t⟩, rest)
  | .anchor number :: rest => some (⟨some number, none⟩, rest)
  | .tag t :: rest => do return (⟨none, ← handles.expand? t⟩, rest)
  | ts => some (⟨none, none⟩, ts)

namespace Properties

/-- A node with an anchor, if there is one. -/
def attach (p : Properties) (node : Node) : Node :=
  match p.anchor with
  | some number => .anchor number node
  | none => node

/-- A scalar with its tag. -/
def scalar (p : Properties) (style : Style) (text : Text) : Node :=
  p.attach (.scalar p.tag style text)

/-- Whether there are none. -/
def isEmpty (p : Properties) : Bool := p.anchor.isNone && p.tag.isNone

end Properties

/-- The place of a node: what it can be and which tokens may follow when it is left out. -/
inductive Place where
  /-- In brackets or braces. -/
  | flow
  /-- In a block. -/
  | block
  /-- In a block mapping, where a sequence need not be indented. -/
  | blockMapping
  deriving DecidableEq, Repr

/-- Whether the part in front of a token is left out. -/
def isLeftOut (ends : List Token) : List Token → Bool
  | [] => false
  | t :: _ => ends.contains t

/-- A part that may be left out, if one of the tokens `ends` follows. -/
def readPart (ends : List Token) (read : List Token → Option (Node × List Token))
    (ts : List Token) : Option (Node × List Token) :=
  if isLeftOut ends ts then some (.absent, ts) else read ts

mutual

/-- The node at the start of tokens.  The first argument bounds the number of calls; of two that
follow each other at least one takes a token. -/
def readNode (handles : Handles) : Nat → Place → List Token → Option (Node × List Token)
  | 0, _, _ => none
  | _ + 1, _, .link number :: rest => some (.link number, rest)
  | fuel + 1, place, ts => do
    let (p, ts) ← readProperties handles ts
    match place, ts with
    | .blockMapping, .blockEntry :: _ => do
      let (items, rest) ← readLooseItems handles fuel ts
      return (p.attach (.sequence items), rest)
    | _, .scalar style text :: rest => return (p.scalar style text, rest)
    | _, .flowSequenceStart :: rest => do
      let (items, rest) ← readFlowItems handles fuel true rest
      return (p.attach (.sequence items), rest)
    | _, .flowMappingStart :: rest => do
      let (pairs, rest) ← readFlowPairs handles fuel true rest
      return (p.attach (.mapping pairs), rest)
    | place, ts =>
      match decide (place = .flow), ts with
      | false, .blockSequenceStart :: rest => do
        let (items, rest) ← readBlockItems handles fuel rest
        return (p.attach (.sequence items), rest)
      | false, .blockMappingStart :: rest => do
        let (pairs, rest) ← readBlockPairs handles fuel rest
        return (p.attach (.mapping pairs), rest)
      | _, ts => if p.isEmpty then none else return (p.scalar .plain [], ts)

/-- The items of an indented sequence. -/
def readBlockItems (handles : Handles) : Nat → List Token → Option (List Node × List Token)
  | 0, _ => none
  | fuel + 1, .blockEntry :: ts => do
    let (item, ts) ← readPart [.blockEntry, .blockEnd] (readNode handles fuel .block) ts
    let (items, ts) ← readBlockItems handles fuel ts
    return (item :: items, ts)
  | _ + 1, .blockEnd :: ts => some ([], ts)
  | _ + 1, _ => none

/-- The items of a sequence that is not indented. -/
def readLooseItems (handles : Handles) : Nat → List Token → Option (List Node × List Token)
  | 0, _ => none
  | fuel + 1, .blockEntry :: ts => do
    let (item, ts) ← readPart [.blockEntry, .key, .value, .blockEnd]
      (readNode handles fuel .block) ts
    let (items, ts) ← readLooseItems handles fuel ts
    return (item :: items, ts)
  | _ + 1, ts => some ([], ts)

/-- The pairs of a block mapping.  A key or a value may be left out. -/
def readBlockPairs (handles : Handles) :
    Nat → List Token → Option (List (Node × Node) × List Token)
  | 0, _ => none
  | _ + 1, .blockEnd :: ts => some ([], ts)
  | fuel + 1, .key :: ts => do
    let (key, ts) ← readPart [.key, .value, .blockEnd] (readNode handles fuel .blockMapping) ts
    let (value, ts) ← readBlockValue handles fuel ts
    let (pairs, ts) ← readBlockPairs handles fuel ts
    return ((key, value) :: pairs, ts)
  | _ + 1, _ => none

/-- The value behind a key in a block mapping. -/
def readBlockValue (handles : Handles) : Nat → List Token → Option (Node × List Token)
  | 0, _ => none
  | fuel + 1, .value :: ts =>
    readPart [.key, .value, .blockEnd] (readNode handles fuel .blockMapping) ts
  | _ + 1, ts => some (.absent, ts)

/-- The items of a sequence in brackets.  A key makes an item a mapping of one pair; where such a
key is left out, the token in its place is passed over. -/
def readFlowItems (handles : Handles) :
    Nat → Bool → List Token → Option (List Node × List Token)
  | 0, _, _ => none
  | _ + 1, _, .flowSequenceEnd :: ts => some ([], ts)
  | fuel + 1, isFirst, ts => do
    let ts ← if isFirst then some ts else match ts with
      | .flowEntry :: ts => some ts
      | _ => none
    match ts with
    | .flowSequenceEnd :: ts => return ([], ts)
    | .key :: ts => do
      let (key, ts) ← if isLeftOut [.value, .flowEntry, .flowSequenceEnd] ts
        then some (.absent, ts.tail) else readNode handles fuel .flow ts
      let (value, ts) ← readFlowValue handles fuel [.flowEntry, .flowSequenceEnd] ts
      let (items, ts) ← readFlowItems handles fuel false ts
      return (.mapping [(key, value)] :: items, ts)
    | ts => do
      let (item, ts) ← readNode handles fuel .flow ts
      let (items, ts) ← readFlowItems handles fuel false ts
      return (item :: items, ts)

/-- The pairs of a mapping in braces.  A node by itself is a key without a value. -/
def readFlowPairs (handles : Handles) :
    Nat → Bool → List Token → Option (List (Node × Node) × List Token)
  | 0, _, _ => none
  | _ + 1, _, .flowMappingEnd :: ts => some ([], ts)
  | fuel + 1, isFirst, ts => do
    let ts ← if isFirst then some ts else match ts with
      | .flowEntry :: ts => some ts
      | _ => none
    match ts with
    | .flowMappingEnd :: ts => return ([], ts)
    | .key :: ts => do
      let ends := [.value, .flowEntry, .flowMappingEnd]
      let (key, ts) ← readPart ends (readNode handles fuel .flow) ts
      let (value, ts) ← readFlowValue handles fuel [.flowEntry, .flowMappingEnd] ts
      let (pairs, ts) ← readFlowPairs handles fuel false ts
      return ((key, value) :: pairs, ts)
    | ts => do
      let (key, ts) ← readNode handles fuel .flow ts
      let (pairs, ts) ← readFlowPairs handles fuel false ts
      return ((key, .absent) :: pairs, ts)

/-- The value behind a key in brackets or braces. -/
def readFlowValue (handles : Handles) :
    Nat → List Token → List Token → Option (Node × List Token)
  | 0, _, _ => none
  | fuel + 1, ends, .value :: ts => readPart ends (readNode handles fuel .flow) ts
  | _ + 1, _, ts => some (.absent, ts)

end

/-- The directives before a document. -/
def readDirectives : List Token → List Directive × List Token
  | .directive d :: rest =>
    let (ds, rest) := readDirectives rest
    (d :: ds, rest)
  | ts => ([], ts)

/-- What the handles of tags stand for after directives.  Only versions 1.1 and 1.2 are known, and
nothing must be declared twice. -/
def handlesOf (ds : List Directive) : Option Handles :=
  let versions := ds.filterMap fun
    | .version major minor => some (major, minor)
    | _ => none
  let declared := ds.filterMap fun
    | .handle handle start => some (handle, start)
    | _ => none
  if versions.length ≤ 1 ∧ versions.all [(1, 1), (1, 2)].contains ∧ (declared.map (·.1)).Nodup then
    some (declared ++ defaultHandles)
  else none

/-- Whether the document that a mark starts has no content. -/
def hasNoContent : List Token → Bool
  | [] => true
  | .directive _ :: _ => true
  | .documentStart :: _ => true
  | .documentEnd :: _ => true
  | _ => false

/-- The root of the first document and what follows it.  Directives need a mark behind them. -/
def readRoot (ts : List Token) : Option (Node × List Token) :=
  let fuel := 2 * ts.length + 2
  match readDirectives ts with
  | (ds, .documentStart :: rest) => do
    let handles ← handlesOf ds
    if hasNoContent rest then return (.absent, rest) else readNode handles fuel .block rest
  | ([], ts) => readNode defaultHandles fuel .block ts
  | _ => none

/-- Whether tokens are only the ends of documents. -/
def isOver (ts : List Token) : Bool := ts.all (· == .documentEnd)

/-- The only document of a text, or none if the text has no content at all.  The result is missing
if the text is not YAML or has several documents. -/
def readDocument (t : Text) : Option (Option Document) := do
  match ← tokens t with
  | [] => return none
  | ts =>
    let (root, rest) ← readRoot ts
    if isOver rest then return some (.ofNode root) else none

end TraceText.Yaml
