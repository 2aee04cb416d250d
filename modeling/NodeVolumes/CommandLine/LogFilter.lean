import NodeVolumes.CommandLine.Arguments
import NodeVolumes.Text.Blank

/-! # Which messages are logged

A filter is a list of directives, each with a level for the messages of some part of the program. The
directive for the most specific part decides; later directives for one part replace earlier ones.

* `Directive.ofText?` reads `LEVEL`, `PART`, `PART=LEVEL` or `PART[{FIELD}]=LEVEL`.
* `LogFilter.shows` tells whether a message of a part and level is logged. -/

namespace NodeVolumes.CommandLine

/-- The levels of messages, from the gravest on. -/
inductive LogLevel where
  | off
  | error
  | warn
  | info
  | debug
  | trace
  deriving DecidableEq, Repr

namespace LogLevel

/-- The place of a level in the order of detail. -/
def rank : LogLevel → Nat
  | off => 0
  | error => 1
  | warn => 2
  | info => 3
  | debug => 4
  | trace => 5

/-- The name of a level in logs. -/
def name : LogLevel → String
  | off => "OFF"
  | error => "ERROR"
  | warn => "WARN"
  | info => "INFO"
  | debug => "DEBUG"
  | trace => "TRACE"

/-- All levels. -/
def all : List LogLevel := [off, error, warn, info, debug, trace]

/-- The number that digits write, possibly after a plus sign. -/
def number? (s : String) : Option Nat :=
  let digits := if s.startsWith "+" then s.toList.drop 1 else s.toList
  if digits ≠ [] ∧ digits.all Char.isDigit then
    some (digits.foldl (fun n d => 10 * n + (d.toNat - '0'.toNat)) 0)
  else none

/-- The level with a name, in letters of either case, or with a number. -/
def ofText? (s : String) : Option LogLevel :=
  all.find? fun l => s.toUpper = l.name || number? s = some l.rank

/-- The level that the command line sets; an unknown name stands for the usual one. -/
def ofOption (s : String) : LogLevel :=
  match ofText? s with
  | some l => if s.toLower = l.name.toLower && l ≠ off then l else info
  | none => info

end LogLevel

/-- The level for the messages of a part of the program, all of it when the name is empty, or only for
those of them that carry a field. -/
structure Directive where
  part : String
  field : Option String
  level : LogLevel
  deriving DecidableEq, Repr

namespace Directive

/-- Tells the characters that the name of a part starts with. -/
def startsPart (c : Char) : Bool := c.isAlphanum || c = '-' || c = ':' || c = '_'

/-- The level behind an equals sign; none of either is the most detailed one. -/
def levelBehind? : List Char → Option LogLevel
  | '=' :: level => if level = [] then some .trace else LogLevel.ofText? (String.ofList level)
  | rest => if rest.all Text.isBlank then some .trace else none

/-- Reads what follows an opening bracket behind the name of a part: the name of a field in braces, the
closing bracket and a level. Anything else in the brackets is about spans and does not count here. -/
def ofBracket? (part : String) : List Char → Option Directive
  | '\x7b' :: rest =>
    match rest.span (· ≠ '\x7d') with
    | (field, '\x7d' :: ']' :: rest) =>
      if field = [] ∨ '=' ∈ field then none
      else (levelBehind? rest).map fun l => ⟨part, some (String.ofList field), l⟩
    | _ => none
  | _ => none

/-- Reads a directive. A level alone is for all parts, and a part alone has the most detailed level. -/
def ofText? (s : String) : Option Directive :=
  match s.toList.span fun c => c ≠ '=' ∧ c ≠ '[' with
  | ([], '[' :: rest) => ofBracket? "" rest
  | ([], _) => none
  | (c :: cs, rest) =>
    let part := String.ofList (c :: cs)
    if !startsPart c then none
    else match rest with
      | [] => some ((LogLevel.ofText? part).elim ⟨part, none, .trace⟩ fun l => ⟨"", none, l⟩)
      | '[' :: rest => ofBracket? part rest
      | level => (levelBehind? level).map fun l => ⟨part, none, l⟩

/-- Reads directives that are separated by commas; those that cannot be read do not count. -/
def ofList (s : String) : List Directive :=
  (s.toList.splitOn ',').filterMap fun cs => ofText? (String.ofList cs)

end Directive

/-- Directives, the earlier ones first. -/
structure LogFilter where
  directives : List Directive
  deriving DecidableEq, Repr

namespace LogFilter

/-- The part of the program that starts it. -/
def startPart : String := "localpv_provisioner"

/-- The only field of the messages that the program logs. -/
def messageField : String := "message"

/-- The filter that the environment and the command line set. -/
def ofSetup (environment : String) (level : LogLevel) : LogFilter :=
  ⟨Directive.ofList environment ++ [⟨"", none, level⟩, ⟨"hyper", none, .warn⟩, ⟨"kube", none, .info⟩]⟩

/-- Tells whether one directive is at least as specific as another one. The longer name of a part counts
first and the condition on a field second. -/
def atLeast (d e : Directive) : Bool :=
  e.part.length < d.part.length ||
    (e.part.length = d.part.length && (e.field.isNone || d.field.isSome))

/-- The most specific of the directives about a part; of equally specific ones the last. -/
def decisive? (f : LogFilter) (part : String) : Option Directive :=
  (f.directives.filter fun d => part.startsWith d.part && d.field.all (· = messageField)).foldl
    (fun best d => if best.all (atLeast d) then some d else best) none

/-- Tells whether a message of a part and level is logged. -/
def shows (f : LogFilter) (part : String) (level : LogLevel) : Bool :=
  match f.decisive? part with
  | some d => level.rank ≤ d.level.rank
  | none => false

end LogFilter
end NodeVolumes.CommandLine
