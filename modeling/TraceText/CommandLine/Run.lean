import TraceText.CommandLine.Buffered
import TraceText.CommandLine.Options
import TraceText.Configuration
import TraceText.FileTree

/-!
# Runs of the command line

A run takes its configuration from the command line or from a file, reads its input from files or
from the standard input, and writes to the standard output or to a file.  The configuration is
checked before anything is read or written.  Reading and writing need buffers, and a run for which
there are none breaks off before it reads anything.

The file for the output may be among the files that are read.  What is read there is what has left
the buffer by then, so the content of other files is known when a run begins, but not of this one.

## Main definitions

* `Invocation` — a configuration and the input that it is applied to
* `RunError` — why a run fails
* `Crash` — why a run breaks off
* `Outcome` — what a run leaves behind; `Outcome.exitCode`
* `RunState.process` — inputs processed in order
* `Options.run` — a run with given options
* `commandLineWithin`, `commandLine` — a command with given arguments
-/

namespace TraceText

/-- A configuration and the input that it is applied to. -/
structure Invocation where
  configuration : Configuration
  /-- The path of a file or directory, or a hyphen for the standard input. -/
  input : Text
  deriving DecidableEq, Inhabited

/-- Why a run fails. -/
inductive RunError where
  /-- With a configuration file there is more than one argument. -/
  | notOnlyInput
  | tooFewArguments
  | noEvent
  /-- One of several event names has no template. -/
  | unpairedEvent
  | load (path : Text) (e : ConfigError)
  | configuration (e : ConfigError)
  | createOutput (path : Text) (e : IoError)
  | openInput (path : Text) (e : IoError)
  | processing (e : ProcessingError)
  deriving DecidableEq, Repr

/-- The wording of the fault in a template, which is told once more behind the failure that it
causes. -/
def ConfigError.cause? : ConfigError → Option Text
  | .template _ e => some e.message
  | _ => none

/-- The wording of the cause of a failure, which is told once more behind the failure. -/
def ProcessingError.cause? : ProcessingError → Option Text
  | .render _ e => some e.message
  | .io e => some e.message
  | _ => none

/-- A message with its cause behind it. -/
def withCause (message : Text) (cause : Option Text) : Text :=
  message ++ (match cause with
    | some cause => ": " ++ cause
    | none => "")

/-- The wording of a failed run. -/
def RunError.message : RunError → Text
  | notOnlyInput => "With --config only the input argument is expected"
  | tooFewArguments => "Expected <RANGE> <EVENT> [<TEMPLATE>] ... <INPUT>"
  | noEvent => "Expected at least one event name"
  | unpairedEvent => "Every event name needs a template when more than one is given"
  | load path e => "Failed to load '" ++ path ++ "': " ++ e.message
  | configuration e => withCause e.message e.cause?
  | createOutput path e => "Failed to create output file '" ++ path ++ "': " ++ e.message
  | openInput path e => "Failed to open input file '" ++ path ++ "': " ++ e.message
  | processing e => withCause e.message e.cause?

/-- Why a run breaks off: there is no buffer of the size that is asked for. -/
inductive Crash where
  /-- No memory has so many bytes. -/
  | capacityOverflow
  /-- The system does not grant as much. -/
  | outOfMemory (size : Nat)
  deriving DecidableEq, Repr

/-- The exit code of a run that breaks off.  The system ends a run that it grants no memory. -/
def Crash.exitCode : Crash → Nat
  | capacityOverflow => 101
  | outOfMemory _ => 134

/-- The wording of what a run breaks off with. -/
def Crash.message : Crash → Text
  | capacityOverflow => "capacity overflow"
  | outOfMemory size => "memory allocation of " ++ Decimal.digits size ++ " bytes failed"

/-- What a run leaves behind. -/
structure Outcome where
  /-- What has been written to the standard output. -/
  stdout : List UInt8
  files : FileTree
  warnings : List Warning
  /-- What happened to records. -/
  counts : Counts
  failure : Option RunError

/-- The exit code of a run: zero unless it failed or passed over faults. -/
def Outcome.exitCode (o : Outcome) : Nat :=
  if o.failure.isSome ∨ 0 < o.counts.errors then 1 else 0

/-! ## Invocations -/

/-- The configuration in the file at a path. -/
def loadConfiguration (files : FileTree) (path : Text) : Except ConfigError Configuration :=
  match files.read path with
  | .error e => .error (.unreadable e)
  | .ok bytes =>
    match Utf8.decode? bytes with
    | none => .error (.unreadable .notUtf8)
    | some text => Configuration.read text

/-- The routes that pairs of an event name and a template describe. -/
def pairedRoutes : List Text → Option (List RouteSpec)
  | [] => some []
  | event :: template :: rest => (pairedRoutes rest).map (⟨event, some template⟩ :: ·)
  | [_] => none

/-- The routes that event names with templates describe.  A single name needs no template. -/
def routesOf : List Text → Except RunError (List RouteSpec)
  | [] => .error .noEvent
  | [event] => .ok [⟨event, none⟩]
  | events =>
    match pairedRoutes events with
    | some routes => .ok routes
    | none => .error .unpairedEvent

namespace Options

/-- What the arguments describe, if there is no configuration file: range, routes and input. -/
def ownInvocation (o : Options) : Except RunError Invocation :=
  match o.arguments with
  | range :: first :: rest => do
    let routes ← routesOf ((first :: rest).dropLast)
    return ⟨⟨some range, o.has .utc, routes⟩, (first :: rest).getLast (by simp)⟩
  | _ => .error .tooFewArguments

/-- What the configuration file and the only argument describe. -/
def loadedInvocation (o : Options) (files : FileTree) (path : Text) :
    Except RunError Invocation :=
  match o.arguments with
  | [input] => do
    let c ← (loadConfiguration files path).mapError (.load path)
    return ⟨{ c with utc := c.utc || o.has .utc }, input⟩
  | _ => .error .notOnlyInput

/-- The invocation that options describe. -/
def invocation (o : Options) (files : FileTree) : Except RunError Invocation :=
  match o.config with
  | some path => o.loadedInvocation files path
  | none => o.ownInvocation

/-- The size of the buffers, unless it is told otherwise. -/
def defaultBufferSize : Nat := 65536

/-- The size of the buffers, one for the output and one for each file that is read. -/
def capacity (o : Options) : Nat := o.bufferSize.getD defaultBufferSize

/-- The size of the largest buffer that can be addressed. -/
def maxCapacity : Nat := Nat.pow 2 63 - 1

/-- Why a run breaks off, if the system grants `memory` bytes to a buffer at most. -/
def crash? (o : Options) (memory : Nat) : Option Crash :=
  if maxCapacity < o.capacity then some .capacityOverflow
  else if memory < o.capacity then some (.outOfMemory o.capacity)
  else none

/-- The pipeline of options for a router. -/
def pipeline (o : Options) (router : Router) : Pipeline :=
  .start router (if o.has .skipErrors then .skip else .failFast)
    (o.maxLineLength.getD Pipeline.defaultMaxLineLength)

/-- What is read from a file with these bytes.  Without room in the buffer that is nothing. -/
def bytesRead (o : Options) (bytes : List UInt8) : List UInt8 :=
  if o.capacity = 0 then [] else bytes

end Options

/-! ## Input and output -/

/-- The name of the standard input among paths. -/
def standardInput : Text := ['-']

/-- Something that a run reads. -/
inductive Source where
  | bytes (bytes : List UInt8)
  /-- The file that the run itself writes. -/
  | output
  /-- It cannot be opened. -/
  | fault (e : RunError)

/-- What is read in a run, with the names of the inputs. -/
abbrev Sources := List (Option Text × Source)

/-- Whether a path leads to the file for the output, if there is one. -/
def isOutput (output : Option Text) (path : Text) : Bool :=
  output.any fun output => FileTree.place output = FileTree.place path

namespace Options

/-- What is read of the file at a path, which holds some bytes when the run begins. -/
def source (o : Options) (path : Text) (bytes : List UInt8) : Source :=
  if isOutput o.output path ∧ o.capacity ≠ 0 then .output else .bytes (o.bytesRead bytes)

/-- The inputs that a path leads to: the standard input, the files with records in a directory, or a
file. -/
def sources (o : Options) (files : FileTree) (stdin : List UInt8) (path : Text) : Sources :=
  if path = standardInput then [(none, .bytes stdin)]
  else match files.find path with
    | .ok (.directory entries) =>
      -- an entry whose path is too long cannot be looked at, so it is no file
      let found := (recordFiles entries).map fun (name, bytes) =>
        (FileTree.entryPath path name, bytes)
      (found.filter fun (path, _) => !FileTree.exceeds FileTree.longestPath path).map
        fun (path, bytes) => (some path, o.source path bytes)
    | _ =>
      match files.read path with
      | .ok bytes => [(some path, o.source path bytes)]
      | .error e => [(some path, .fault (.openInput path e))]

end Options

/-- How a run has gone so far. -/
structure RunState where
  pipeline : Pipeline
  /-- What the pipeline has handed over. -/
  sink : Sink
  warnings : List Warning
  /-- How much of it has reached the output. -/
  output : Buffered

/-- What a run leaves behind in memory, and why it fails, if it does. -/
structure RunResult where
  state : RunState
  failure : Option RunError

namespace RunState

/-- A run at its beginning. -/
def start (pipeline : Pipeline) (capacity : Nat) : RunState :=
  ⟨pipeline, .unbounded, [], .empty capacity⟩

/-- A run with the result of a call on its pipeline added, and the texts that the call has handed
over. -/
def after (s : RunState) (step : Step α) (texts : List Text) : RunState :=
  ⟨step.pipeline, step.sink, s.warnings ++ step.warnings, s.output.writeTexts texts⟩

/-- The output flushed at the end of a run. -/
def finish (s : RunState) : RunResult :=
  let step := s.pipeline.finish s.sink
  ⟨s.after step [], match step.result with
    | .ok _ => none
    | .error e => some (.processing e)⟩

/-- The lines that a run reads of an input. -/
def lines (s : RunState) : Source → Except RunError (List (List UInt8))
  | .bytes bytes => .ok (Input.mk bytes none).lines
  | .output =>
    -- a line has at least one byte with its end, so more lines are in no file
    match s.pipeline.readBack (Buffered.maxFileSize + 1) 0 s.output with
    | some lines => .ok lines
    | none => .error (.processing (.io .tooLarge))
  | .fault e => .error e

/-- All inputs processed in order, until one fails or nobody reads the output any more. -/
def process (s : RunState) : Sources → RunResult
  | [] => s.finish
  | (name, source) :: rest =>
    -- inputs that nobody wants are not even opened
    if s.pipeline.isClosed then s.finish
    else match s.lines source with
      | .error e => ⟨s, some e⟩
      | .ok lines =>
        let arrivals := Input.arrivalsFrom s.pipeline.maxLineLength [] 1 lines
        let step := s.pipeline.process (name.getD Pipeline.unnamedInput) arrivals s.sink
        let next := s.after step (s.pipeline.texts arrivals)
        match step.result with
        | .ok _ => next.process rest
        | .error e => ⟨next, some (.processing e)⟩

end RunState

/-- The file for the output created, if one is asked for. -/
def createOutput (files : FileTree) : Option Text → Except RunError FileTree
  | none => .ok files
  | some path => (files.create path).mapError (.createOutput path)

namespace Options

/-- A run that ends before anything is written. -/
def refused (files : FileTree) (e : RunError) : Outcome := ⟨[], files, [], .zero, some e⟩

/-- A run whose configuration has been checked and whose output exists.  In the end the buffer is
made empty, whether the run fails or not. -/
def runOn (o : Options) (files : FileTree) (stdin : List UInt8) (router : Router) (input : Text) :
    Outcome :=
  let result := RunState.process (.start (o.pipeline router) o.capacity)
    (o.sources files stdin input)
  let written := result.state.output.bytes
  let counts := result.state.pipeline.counts
  match o.output with
  | some path =>
    ⟨[], files.insert path (.file written), result.state.warnings, counts, result.failure⟩
  | none => ⟨written, files, result.state.warnings, counts, result.failure⟩

/-- What a run begins with.  The router is built before the output is created. -/
def prepare (o : Options) (files : FileTree) (now : Instant) :
    Except RunError (Invocation × Router × FileTree) := do
  let invocation ← o.invocation files
  let c := invocation.configuration
  let router ← (c.router c.zone now).mapError .configuration
  return (invocation, router, ← createOutput files o.output)

end Options

/-! ## The whole command line -/

/-- The name and version of the command. -/
def versionText : Text := "evprint 0.1.0"

/-- How the command is used. -/
def helpText : Text :=
  "Print structured trace events through per-event-type templates\n\n" ++
    "Usage: evprint [OPTIONS] <ARGS>...\n\n" ++
    "Arguments:\n" ++
    "  <ARGS>...  <RANGE> <EVENT> [<TEMPLATE>] ... <INPUT>; only <INPUT> with --config\n\n" ++
    "Options:\n" ++
    "  -c, --config <FILE>          YAML file with range and routes\n" ++
    "      --utc                    Show times in universal time\n" ++
    "      --skip-errors            Pass over records that cannot be shown\n" ++
    "      --debug                  Show what is done\n" ++
    "  -o, --output <FILE>          Write to a file\n" ++
    "      --buffer-size <N>        Bytes read at once [default: 65536]\n" ++
    "      --max-line-length <N>    Bytes of the longest line [default: 1048576]\n" ++
    "  -h, --help                   Print help\n" ++
    "  -V, --version                Print version"

/-- What a command leaves behind. -/
structure Exit where
  code : Nat
  stdout : List UInt8
  files : FileTree
  /-- What is told about faults, one message after another. -/
  messages : List Text

/-- What is shown by a command that only tells about itself. -/
def Exit.telling (files : FileTree) (t : Text) : Exit := ⟨0, Utf8.encode (t ++ ['\n']), files, []⟩

/-- What a run leaves behind, with all messages. -/
def Exit.ofOutcome (o : Outcome) : Exit :=
  let warning (w : Warning) : Text := "WARN " ++ w.message
  let failure (e : RunError) : Text := "Error: " ++ e.message
  ⟨o.exitCode, o.stdout, o.files, o.warnings.map warning ++ o.failure.toList.map failure⟩

/-- What is left behind by a run that breaks off. -/
def Exit.crashed (files : FileTree) (c : Crash) : Exit := ⟨c.exitCode, [], files, [c.message]⟩

/-- A run, if the system grants `memory` bytes to a buffer at most.  The output has been created by
the time at which there is no buffer for it. -/
def Options.run (o : Options) (memory : Nat) (files : FileTree) (stdin : List UInt8)
    (now : Instant) : Exit :=
  match o.prepare files now with
  | .error e => .ofOutcome (refused files e)
  | .ok (invocation, router, files) =>
    match o.crash? memory with
    | some c => .crashed files c
    | none => .ofOutcome (o.runOn files stdin router invocation.input)

/-- A command with given arguments, if the system grants `memory` bytes to a buffer at most. -/
def commandLineWithin (memory : Nat) (arguments : List Text) (files : FileTree)
    (stdin : List UInt8) (now : Instant) : Exit :=
  match Options.parse arguments with
  | .error e => ⟨2, [], files, [e.message]⟩
  | .ok .version => .telling files versionText
  | .ok .help => .telling files helpText
  | .ok (.run o) => o.run memory files stdin now

/-- A command with given arguments, if the system grants every buffer that can be addressed. -/
def commandLine (arguments : List Text) (files : FileTree) (stdin : List UInt8) (now : Instant) :
    Exit :=
  commandLineWithin Options.maxCapacity arguments files stdin now

end TraceText
