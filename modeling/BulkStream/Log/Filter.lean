import BulkStream.Log
import BulkStream.Log.Pattern

/-!
Which log lines are shown. A filter is a list of directives; of those that speak of a line the most
specific one decides, and it decides by the level. Directives are written with commas between them,
each as a level, as a target, or as a target and a level with an equals sign between. Brackets behind
the target ask for more: for a span, for a field in braces, or for a field with a value. Only a field
without a value concerns lines, since there are no spans.
-/
namespace BulkStream

open Settings Text

structure Directive where
  /-- Targets that begin so; without it, all targets. -/
  target : Option String := none
  /-- Lines that have this field; without it, all lines. -/
  field : Option String := none
  /-- Verbosity of the least important level shown; nothing is shown at 0. -/
  verbosity : Nat
deriving DecidableEq, Repr

namespace Directive

def speaksOf (line : LogLine) (d : Directive) : Bool :=
  d.target.all (line.target.startsWith ·) && d.field.all (line.fieldNames.contains ·)

/-- A longer target is more specific than a shorter one, and any target more than none. -/
def targetRank (d : Directive) : Nat := d.target.elim 0 (·.utf8ByteSize + 1)

/-- Of two directives on one line, whether the first is at least as specific as the second: the target
counts first, then whether there is a field, then the field's name. -/
def isAtLeast (d e : Directive) : Bool :=
  if d.targetRank = e.targetRank then
    match e.field, d.field with
    | none, _ => true
    | some _, none => false
    | some name, some other => !(other < name)
  else e.targetRank < d.targetRank

def shows (line : LogLine) (d : Directive) : Bool := line.level.verbosity ≤ d.verbosity

end Directive

/-- Directives, of which a later one replaces an earlier one that is equally specific. -/
abbrev Filter := List Directive

namespace Filter

def prefer (best : Option Directive) (d : Directive) : Option Directive :=
  match best with
  | none => some d
  | some b => if d.isAtLeast b then some d else some b

/-- A line of which no directive speaks is not shown. -/
def shows (f : Filter) (line : LogLine) : Bool :=
  ((f.filter (·.speaksOf line)).foldl prefer none).any (·.shows line)

def verbosity? (text : String) : Option Nat :=
  match (word? text).filter (· ≤ 5) with
  | some n => some n
  | none =>
      match text.map Char.toLower with
      | "off" => some 0
      | "error" => some 1
      | "warn" => some 2
      | "info" => some 3
      | "debug" => some 4
      | "trace" => some 5
      | _ => none

def everything : Nat := 5

/-- The text between two positions, counted in bytes, if they lie between characters. -/
def cut (text : String) (start stop : Nat) : Option String :=
  String.fromUTF8? (text.toUTF8.extract start stop)

def byteLength (cs : List Char) : Nat := (String.ofList cs).utf8ByteSize

/-- Verbosity of the level written from a position on; where none is, everything is shown. -/
def levelFrom (text : String) (position : Nat) : Option Nat := do
  let level ← cut text position text.utf8ByteSize
  if level = "" then return everything else verbosity? level

/-- Verbosity of the level behind brackets, if there is one. -/
def levelBehind (text : String) (position : Nat) : List Char → Option Nat
  | [] => some everything
  | '=' :: _ => levelFrom text (position + 1)
  | _ => none

/-- A directive with brackets, where `cs` follows the opening one at the given position. Nothing
inside means that it concerns no line. -/
def bracketed? (text : String) (target : Option String) (position : Nat) (cs : List Char) :
    Option (Option Directive) := do
  let span := cs.takeWhile fun c => c ≠ ']' ∧ c ≠ '{'
  let position := position + byteLength span
  match cs.drop span.length with
  | ']' :: rest =>
      let _ ← levelBehind text (position + 1) rest
      return none
  | '{' :: rest =>
      let held := rest.takeWhile (· ≠ '}')
      if held = [] then failure
      let stop := position + 1 + byteLength held
      let field ← cut text (position + 1) stop
      match rest.drop held.length, field.splitOn "=" with
      | '}' :: ']' :: rest, name :: values =>
          let verbosity ← levelBehind text (stop + 2) rest
          match values with
          | [] =>
              if span = [] then return some { target, field := some name, verbosity } else return none
          | value :: _ => if Pattern.isValue value then return none else failure
      | _, _ => failure
  | _ => failure

def startsTarget (c : Char) : Bool := isAlphanumeric c || c == '-' || c == ':' || c == '_'

/-- A directive, if it is well-formed. It is scanned without the blanks around it, but its parts are
taken by their positions from the text with the blanks: such in front shift every part, and such at
the end belong to the last one. -/
def directive? (text : String) : Option (Option Directive) :=
  match trim text.toList with
  | [] => none
  | '[' :: cs => bracketed? text none 1 cs
  | c :: cs =>
      if startsTarget c then do
        let name := (c :: cs).takeWhile fun c => c ≠ '=' ∧ c ≠ '['
        let position := byteLength name
        match (c :: cs).drop name.length with
        | '=' :: _ =>
            let target ← cut text 0 position
            return some { target, verbosity := ← levelFrom text (position + 1) }
        | '[' :: rest => bracketed? text (← cut text 0 position) (position + 1) rest
        | _ =>
            match verbosity? text with
            | some verbosity => return some { verbosity }
            | none => return some { target := text, verbosity := everything }
      else none

def ofText? (text : String) : Option Filter := do
  return (← ((text.splitOn ",").filter (· ≠ "")).mapM directive?).filterMap id

/-- What is shown unless the user asks otherwise: everything from `info` up. -/
def standard : Filter :=
  [{ target := "fifocap", verbosity := 3 }, { target := "fifocap_engine", verbosity := 3 }]

def variableName : String := "RUST_LOG"

end Filter

end BulkStream
