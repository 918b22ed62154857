import TraceText.Proofs.Pipeline.Call

/-!
# Calls with outputs of their own

Every call of a pipeline may be given another output, so only the pipeline passes from one call to
the next.  This is the most general way in which a pipeline can be used: an output that is shared by
all calls is the special case in which each one is given what the call before it has left.

## Main definitions

* `Use` — a call and the output that it is given
* `Pipeline.answer` — what a use results in
* `Pipeline.after`, `Pipeline.answers` — the pipeline after uses, and what they result in
* `Router.constant`, `Sink.abandonedAfter` — a small router, and an output that nobody reads to its
  end
-/

namespace TraceText

/-- A call and the output that it is given. -/
structure Use where
  call : Call
  sink : Sink

namespace Pipeline

/-- What a use results in. -/
def answer (p : Pipeline) (u : Use) : Step Answer := p.call u.sink u.call

/-- The pipeline after uses one after another. -/
def after (p : Pipeline) : List Use → Pipeline
  | [] => p
  | u :: rest => after (p.answer u).pipeline rest

/-- What uses result in, one after another. -/
def answers (p : Pipeline) : List Use → List (Step Answer)
  | [] => []
  | u :: rest => p.answer u :: answers (p.answer u).pipeline rest

@[simp] theorem after_nil (p : Pipeline) : p.after [] = p := rfl

theorem after_cons (p : Pipeline) (u : Use) (rest : List Use) :
    p.after (u :: rest) = (p.answer u).pipeline.after rest := rfl

@[simp] theorem answers_nil (p : Pipeline) : p.answers [] = [] := rfl

theorem answers_cons (p : Pipeline) (u : Use) (rest : List Use) :
    p.answers (u :: rest) = p.answer u :: (p.answer u).pipeline.answers rest := rfl

end Pipeline

/-- A router that writes the same text for every record. -/
def Router.constant (text : Text) : Router :=
  ⟨[], [⟨[], some ⟨text, [], text⟩, true⟩], .unbounded⟩

/-- An output with room for `limit` bytes that nobody reads any further. -/
def Sink.abandonedAfter (limit : Nat) : Sink := ⟨#[], some limit, ⟨.brokenPipe, []⟩, none⟩

end TraceText
