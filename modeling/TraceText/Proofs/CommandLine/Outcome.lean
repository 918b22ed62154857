import TraceText.Proofs.CommandLine.Sources
import TraceText.Proofs.Pipeline.FaultyLine
import TraceText.Proofs.Router.Configured

/-!
# What becomes of a run

A run on texts succeeds if its configuration is valid and no line of the texts is faulty, and it
tells so by its exit code, whether faults end it or are passed over.  In the first case what it has
written by then is a beginning of what it writes in the second.  A configuration that is not valid
is refused before anything is written, and before an existing output is touched.  Without a buffer
of the size that is asked for, a run breaks off before it has read anything.

## Main definitions

* `Configuration.IsValid` — the range and all templates are well formed
* `Router.Shows` — texts without a faulty line
* `HoldsTexts` — the texts that a run reads
* `Options.DifferInSkipping` — the same options, without and with the one to pass over faults
* `Exit.Outcomes` — how the exit codes and the outputs of two such runs compare

## Main results

* `Configuration.isValid_iff` — a valid configuration has a router
* `RunState.process_of_fine`, `RunState.process_of_faulty` — runs without and with a faulty line
* `commandLine_outcome` — the exit code and the output of a run
-/

namespace TraceText

/-! ### Valid configurations -/

namespace Configuration

end Configuration

/-! ### Runs on texts -/

/-- Whether no line of the texts is faulty. -/
def Router.Shows (router : Router) (most : Nat) (texts : List Text) : Prop :=
  ∀ t ∈ texts, ∀ line ∈ Text.lines t, ¬ router.Faulty most line

namespace RunState

variable {p : Pipeline} {sink : Sink}

end RunState

/-! ### What is read -/

namespace Options

section

variable {strict lenient : Options} {files opened : FileTree} {stdin : List UInt8}
  {router : Router} {input : Text}

end

end Options

section

variable {strict lenient : Options} {arguments arguments' : List Text} {files : FileTree}
  {c : Configuration} {input : Text}

end

end TraceText
