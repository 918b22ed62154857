import Std.Time.DateTime.Timestamp
import TraceText.CommandLine.Run

/-!
# The command

The files that a command line names are read, the command is run on them, and what it leaves behind
is written.

## Main definitions

* `snapshot` — the files that a command line names, as a tree
* `main` — the command
-/

namespace TraceText

/-- What lies at a path.  Of a directory only the files with records are read. -/
def readEntry (path : Text) : IO FileTree := do
  let located := System.mkFilePath [String.ofList path]
  if ← located.isDir then
    let mut entries := #[]
    for entry in ← located.readDir do
      let name := entry.fileName.toList
      if isRecordName name && !(← entry.path.isDir) then
        entries := entries.push (name, .file (← IO.FS.readBinFile entry.path).toList)
    return .directory entries.toList
  try
    return .file (← IO.FS.readBinFile located).toList
  catch e =>
    return .unreadable ⟨.other, (toString e).toList⟩

/-- The directory in which a path lies. -/
def parentPath (path : Text) : Text :=
  let parent := (path.reverse.dropWhile (· ≠ '/')).reverse
  if parent = [] then ['.'] else parent

/-- A tree with what lies at a path, if there is anything. -/
def addPath (tree : FileTree) (path : Text) : IO FileTree := do
  if path ≠ [] && (← (System.mkFilePath [String.ofList path]).pathExists) then
    return tree.insert path (← readEntry path)
  else
    return tree

/-- The files that a command line names, as a tree. -/
def snapshot (o : Options) : IO FileTree := do
  let mut tree := FileTree.empty
  if let some path := o.output then
    let parent := parentPath path
    if ← (System.mkFilePath [String.ofList parent]).isDir then
      tree := tree.insertDirectory parent
    tree ← addPath tree path
  for path in o.config.toList ++ o.arguments.getLast?.toList do
    tree ← addPath tree path
  return tree

/-- All bytes of an input. -/
partial def readAll (input : IO.FS.Stream) (read : ByteArray) : IO ByteArray := do
  let bytes ← input.read 65536
  if bytes.isEmpty then return read else readAll input (read ++ bytes)

/-- The present time. -/
def presentTime : IO Instant := do
  let now ← Std.Time.Timestamp.now
  return (Instant.ofNanos? now.toNanosecondsSinceUnixEpoch.toInt).getD .epoch

/-- What a command leaves behind, written. -/
def leave (before : FileTree) (output : Option Text) (exit : Exit) : IO UInt32 := do
  if let some path := output then
    match before.read path, exit.files.read path with
    | .ok old, .ok new =>
      if old ≠ new then IO.FS.writeBinFile (String.ofList path) ⟨new.toArray⟩
    | .error _, .ok new => IO.FS.writeBinFile (String.ofList path) ⟨new.toArray⟩
    | _, .error _ => pure ()
  for message in exit.messages do
    IO.eprintln (String.ofList message)
  try
    let stdout ← IO.getStdout
    stdout.write ⟨exit.stdout.toArray⟩
    stdout.flush
  catch _ => pure ()
  return exit.code.toUInt32

end TraceText

open TraceText in
/-- The command. -/
def main (arguments : List String) : IO UInt32 := do
  let arguments := arguments.map String.toList
  match Options.parse arguments with
  | .ok (.run o) => do
    let files ← snapshot o
    let stdin ← if o.arguments.getLast? = some standardInput
      then readAll (← IO.getStdin) .empty else pure .empty
    leave files o.output (commandLine arguments files stdin.toList (← presentTime))
  | _ => leave .empty none (commandLine arguments .empty [] .epoch)
