import TraceText.IoError
import TraceText.Text.Utf8

/-!
# Trees of files

Paths lead through directories, step by step, from the one that is worked in.

## Main definitions

* `FileTree` — a file, or a directory with what it holds
* `FileTree.find` — what a path leads to
* `FileTree.create` — an empty file created at a path, or an existing one emptied
* `FileTree.insert` — a file or directory put at a path
* `recordFiles` — the files of a directory that hold records
-/

namespace TraceText

/-- A file, a directory, or what cannot be read. -/
inductive FileTree where
  | file (content : List UInt8)
  /-- A directory; the names of its entries are distinct. -/
  | directory (entries : List (Text × FileTree))
  | unreadable (e : IoError)
  deriving Inhabited

namespace FileTree

/-- A directory without entries. -/
def empty : FileTree := .directory []

/-- The entries of a directory; all else has none. -/
def entries : FileTree → List (Text × FileTree)
  | directory entries => entries
  | _ => []

/-! ## Paths -/

/-- The parts of a path between slashes. -/
def parts (path : Text) : List Text := Text.splitOn '/' path

/-- The step to the directory above. -/
def upward : Text := ['.', '.']

/-- The step to the outermost directory. -/
def root : Text := ['/']

/-- The most bytes that a path can have. -/
def longestPath : Nat := 4095

/-- The most bytes that a name in a path can have. -/
def longestName : Nat := 255

/-- Whether a text has more than `most` bytes. -/
def exceeds (most : Nat) (t : Text) : Bool := most < (Utf8.encode t).length

/-- The steps of a path. -/
def steps (path : Text) : List Text :=
  let named := (parts path).filter fun part => decide (part ≠ [] ∧ part ≠ ['.'])
  if path.head? = some '/' then root :: named else named

/-- The last part of a path. -/
def lastPart (path : Text) : Text := (parts path).getLast?.getD []

/-- Whether a path can only lead to a directory. -/
def asksDirectory (path : Text) : Bool := [[], ['.'], upward].contains (lastPart path)

/-- Steps without those that lead back. -/
def straighten (steps : List Text) : List Text :=
  (steps.foldl (fun (back : List Text) step =>
    match back with
    | last :: rest => if step = upward ∧ last ≠ upward then rest else step :: back
    | [] => [step]) []).reverse

/-- What steps lead to from `here`, which lies in the directories `above`, innermost first. -/
def walk (above : List FileTree) (here : FileTree) : List Text → Except IoError FileTree
  | [] =>
    match here with
    | unreadable e => .error e
    | tree => .ok tree
  | step :: rest =>
    match here with
    | directory entries =>
      match decide (step = upward), above with
      | true, outer :: above => walk above outer rest
      | _, above =>
        match entries.lookup step with
        | some entry => walk (here :: above) entry rest
        | none =>
          -- the outermost directory is always there
          if step = root then walk [] empty rest
          else .error (if exceeds longestName step then .nameTooLong else .notFound)
    | file _ => .error .notDirectory
    | unreadable e => .error e

/-- What a path leads to. -/
def find (tree : FileTree) (path : Text) : Except IoError FileTree :=
  if path = [] then .error .notFound
  else if exceeds longestPath path then .error .nameTooLong
  else match walk [] tree (steps path) with
    | .ok (.file content) =>
      if asksDirectory path then .error .notDirectory else .ok (.file content)
    | result => result

/-- The bytes of the file at a path. -/
def read (tree : FileTree) (path : Text) : Except IoError (List UInt8) :=
  match tree.find path with
  | .ok (.file content) => .ok content
  | .ok _ => .error .isDirectory
  | .error e => .error e

/-! ## Changes -/

/-- An entry put under a name, in the place of the one that has it. -/
def assign (name : Text) (tree : FileTree) : List (Text × FileTree) → List (Text × FileTree)
  | [] => [(name, tree)]
  | (known, old) :: rest =>
    if known = name then (name, tree) :: rest else (known, old) :: assign name tree rest

/-- Something put where steps lead; directories are made on the way. -/
def put (new : FileTree) : List Text → FileTree → FileTree
  | [], _ => new
  | step :: rest, tree =>
    let inner := put new rest ((tree.entries.lookup step).getD empty)
    .directory (assign step inner tree.entries)

/-- Where a path leads; two paths to one file lead to the same place. -/
def place (path : Text) : List Text := straighten (steps path)

/-- Something put at a path; directories are made on the way. -/
def insert (tree : FileTree) (path : Text) (new : FileTree) : FileTree := put new (place path) tree

/-- A directory made at a path, if there is none. -/
def insertDirectory (tree : FileTree) (path : Text) : FileTree :=
  match tree.find path with
  | .ok (.directory _) => tree
  | _ => tree.insert path empty

/-- Why nothing can be created at a path that leads to nothing readable, if `e` says why it does
not; none if a file can be created there. -/
def refusal? (tree : FileTree) (path : Text) (e : IoError) : Option IoError :=
  match walk [] tree (steps path).dropLast with
  | .error e => some e
  | .ok (.directory _) =>
    if lastPart path = [] then some .isDirectory
    else if asksDirectory path ∨ e ≠ .notFound then some e
    else none
  | .ok _ => some .notDirectory

/-- An empty file created at a path, or an existing one emptied.  Its directory has to exist. -/
def create (tree : FileTree) (path : Text) : Except IoError FileTree :=
  let created := tree.insert path (.file [])
  if path = [] then .error .notFound
  else if exceeds longestPath path then .error .nameTooLong
  else match tree.find path with
    | .ok (.directory _) => .error .isDirectory
    | .ok _ => .ok created
    | .error e => match tree.refusal? path e with
      | some e => .error e
      | none => .ok created

/-- The name of an entry of the directory at a path. -/
def entryPath (path name : Text) : Text :=
  if path.getLast? = some '/' then path ++ name else path ++ '/' :: name

end FileTree

/-- What the names of files with records end in. -/
def recordSuffix : Text := ".jsonl"

/-- Whether a file with this name holds records: there is something before the suffix. -/
def isRecordName (name : Text) : Bool :=
  recordSuffix.isSuffixOf name && recordSuffix.length < name.length

/-- Whether a name comes before another, or is the same, in the order of their bytes. -/
def nameLe (a b : Text) : Bool := decide (Utf8.encode a ≤ Utf8.encode b)

/-- The files with records among the entries of a directory, in the order of their names. -/
def recordFiles (entries : List (Text × FileTree)) : List (Text × List UInt8) :=
  let files := entries.filterMap fun
    | (name, .file content) => if isRecordName name then some (name, content) else none
    | _ => none
  files.mergeSort fun a b => nameLe a.1 b.1

end TraceText
