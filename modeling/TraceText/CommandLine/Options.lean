import TraceText.Decimal.Basic
import TraceText.Pipeline.Basic

/-!
# Options of the command line

Options and other arguments can stand in any order.  The value of an option is the next argument,
or is given with it, behind an equals sign or behind the letter of the option.  Behind `--` there
are no options.

## Main definitions

* `Setting`, `Flag` — options with and without a value
* `Options` — what a command line asks for
* `UsageError` — why a command line is refused
* `Options.parse` — the request of a command line
-/

namespace TraceText

/-- An option with a value. -/
inductive Setting where
  | config
  | output
  | bufferSize
  | maxLineLength
  deriving DecidableEq, Repr

/-- An option without a value. -/
inductive Flag where
  | utc
  | skipErrors
  | debug
  deriving DecidableEq, Repr

/-- Why a command line is refused. -/
inductive UsageError where
  | unknownOption
  | missingValue
  | unexpectedValue
  | notNumber
  | repeated
  | noArguments
  deriving DecidableEq, Repr

/-- The wording of a refused command line. -/
def UsageError.message : UsageError → Text
  | unknownOption => "error: unexpected argument found"
  | missingValue => "error: a value is required for an option but none was supplied"
  | unexpectedValue => "error: unexpected value for an option found; no more were expected"
  | notNumber => "error: invalid value for an option: a number is expected"
  | repeated => "error: an option cannot be used multiple times"
  | noArguments => "error: the following required arguments were not provided: <ARGS>..."

/-- What a command line asks for. -/
structure Options where
  /-- The arguments that are no options. -/
  arguments : List Text
  config : Option Text
  output : Option Text
  bufferSize : Option Nat
  maxLineLength : Option Nat
  flags : List Flag
  deriving DecidableEq, Repr, Inhabited

/-- What a command line results in. -/
inductive Request where
  | run (o : Options)
  | version
  | help
  deriving DecidableEq, Repr

/-- What an argument is. -/
inductive Argument where
  | plain (t : Text)
  /-- Behind it there are no options. -/
  | separator
  | flag (f : Flag)
  /-- An option with a value, which may be part of the argument. -/
  | setting (s : Setting) (value : Option Text)
  | version
  | help
  deriving DecidableEq, Repr

namespace Argument

/-- An option without a value, given with one or not. -/
def withoutValue (a : Argument) : Option Text → Except UsageError Argument
  | none => .ok a
  | some _ => .error .unexpectedValue

/-- The option of a name of several letters. -/
def ofLongName (name : Text) (value : Option Text) : Except UsageError Argument :=
  if name = "config".toList then .ok (.setting .config value)
  else if name = "output".toList then .ok (.setting .output value)
  else if name = "buffer-size".toList then .ok (.setting .bufferSize value)
  else if name = "max-line-length".toList then .ok (.setting .maxLineLength value)
  else if name = "utc".toList then withoutValue (.flag .utc) value
  else if name = "skip-errors".toList then withoutValue (.flag .skipErrors) value
  else if name = "debug".toList then withoutValue (.flag .debug) value
  else if name = "version".toList then withoutValue .version value
  else if name = "help".toList then withoutValue .help value
  else .error .unknownOption

/-- The value that is given behind the letter of an option. -/
def attachedValue : Text → Option Text
  | [] => none
  | '=' :: value => some value
  | value => some value

/-- The option of one letter, with what follows the letter. -/
def ofShortName (letter : Char) (rest : Text) : Except UsageError Argument :=
  match letter with
  | 'c' => .ok (.setting .config (attachedValue rest))
  | 'o' => .ok (.setting .output (attachedValue rest))
  | 'V' => .ok .version
  | 'h' => .ok .help
  | _ => .error .unknownOption

/-- What an argument is where options can stand.  A hyphen alone is no option. -/
def ofText : Text → Except UsageError Argument
  | ['-', '-'] => .ok .separator
  | '-' :: '-' :: option =>
    match option.span (· ≠ '=') with
    | (name, []) => ofLongName name none
    | (name, _ :: value) => ofLongName name (some value)
  | '-' :: letter :: rest => ofShortName letter rest
  | t => .ok (.plain t)

end Argument

namespace Options

/-- What an empty command line asks for. -/
def initial : Options := ⟨[], none, none, none, none, []⟩

/-- The largest number that an option can have. -/
def maxNumber : Nat := Nat.pow 2 64 - 1

/-- The number that the value of an option denotes. -/
def numberOf (value : Text) : Except UsageError Nat :=
  let digits := (Text.stripStart ['+'] value).getD value
  if digits ≠ [] ∧ digits.all Char.isDigit ∧ Decimal.value digits ≤ maxNumber then
    .ok (Decimal.value digits)
  else .error .notNumber

/-- A value for an option that must not have one already. -/
def once (old : Option α) (new : Except UsageError α) : Except UsageError (Option α) :=
  match old with
  | some _ => .error .repeated
  | none => new.map some

/-- The path that the value of an option denotes. -/
def pathOf (value : Text) : Except UsageError Text :=
  if value = [] then .error .missingValue else .ok value

/-- An option with its value. -/
def set (o : Options) (s : Setting) (value : Text) : Except UsageError Options :=
  match s with
  | .config => do return { o with config := ← once o.config (pathOf value) }
  | .output => do return { o with output := ← once o.output (pathOf value) }
  | .bufferSize => do return { o with bufferSize := ← once o.bufferSize (numberOf value) }
  | .maxLineLength => do
    return { o with maxLineLength := ← once o.maxLineLength (numberOf value) }

/-- An option without a value. -/
def raise (o : Options) (f : Flag) : Except UsageError Options :=
  if o.flags.contains f then .error .repeated else .ok { o with flags := f :: o.flags }

/-- Whether an option without a value is given. -/
def has (o : Options) (f : Flag) : Bool := o.flags.contains f

/-- The request of a command line; there has to be an argument that is no option. -/
def request (o : Options) : Except UsageError Request :=
  if o.arguments = [] then .error .noArguments else .ok (.run o)

/-- An argument that is no option. -/
def add (o : Options) (t : Text) : Options := { o with arguments := o.arguments ++ [t] }

/-- The request of a command line of which `o` has been read.  Version and help are shown as soon as
they are asked for, whatever follows. -/
def parseFrom (o : Options) : List Text → Except UsageError Request
  | [] => o.request
  | t :: rest => do
    match ← Argument.ofText t with
    | .plain t => parseFrom (o.add t) rest
    | .separator => (rest.foldl add o).request
    | .flag f => parseFrom (← o.raise f) rest
    | .setting s (some value) => parseFrom (← o.set s value) rest
    | .setting s none =>
      match rest with
      | [] => throw .missingValue
      | value :: rest =>
        -- what looks like an option is never the value of one
        match ← Argument.ofText value with
        | .plain value => parseFrom (← o.set s value) rest
        | _ => throw .missingValue
    | .version => return .version
    | .help => return .help

/-- The request of a command line. -/
def parse (arguments : List Text) : Except UsageError Request := parseFrom initial arguments

end Options

end TraceText
