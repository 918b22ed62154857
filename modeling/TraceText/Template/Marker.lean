import TraceText.Text.Basic

/-!
# Markers in templates

A marker is an opening brace, at least one character that is no closing brace, and a closing brace.
A template alternates between literal text and markers; the leftmost marker comes first.

## Main definitions

* `Marker.atStart?` — the marker at the start of a text
* `Marker.split` — a text as literals with the markers behind them, and what follows the last one
-/

namespace TraceText.Marker

/-- The body of the marker at the start of a text, and what follows the marker. -/
def atStart? : Text → Option (Text × Text)
  | '{' :: t =>
    match t.takeWhile (· ≠ '}'), t.dropWhile (· ≠ '}') with
    | b :: body, _ :: rest => some (b :: body, rest)
    | _, _ => none
  | _ => none

theorem length_lt_of_atStart? {t body rest : Text} (h : atStart? t = some (body, rest)) :
    rest.length < t.length := by
  unfold atStart? at h
  split at h
  · rename_i t
    split at h
    · rename_i hb hd
      cases h
      have hs := (List.dropWhile_suffix (fun c => decide (c ≠ '}')) (l := t)).length_le
      rw [hd] at hs
      simp only [List.length_cons] at hs ⊢
      omega
    · cases h
  · cases h

/-- A template as literals, each with the body of the marker behind it, and the text that follows
the last marker. -/
def split : Text → List (Text × Text) × Text
  | [] => ([], [])
  | c :: t =>
    match h : atStart? (c :: t) with
    | some (body, rest) =>
      have : rest.length < t.length + 1 := length_lt_of_atStart? h
      let (segments, tail) := split rest
      (([], body) :: segments, tail)
    | none =>
      -- no marker begins here, so the character belongs to the literal of the next one
      match split t with
      | ([], tail) => ([], c :: tail)
      | ((literal, body) :: segments, tail) => ((c :: literal, body) :: segments, tail)
termination_by t => t.length

end TraceText.Marker
