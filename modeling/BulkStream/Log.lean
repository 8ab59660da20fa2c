/-!
Log lines: a level, the part of the program that speaks, a message, and fields beside it.
-/
namespace BulkStream

inductive Level
  | error
  | warn
  | info
  | debug
  | trace
deriving DecidableEq, Repr

namespace Level

def name : Level → String
  | .error => "ERROR"
  | .warn => "WARN"
  | .info => "INFO"
  | .debug => "DEBUG"
  | .trace => "TRACE"

/-- Larger for less important lines. -/
def verbosity : Level → Nat
  | .error => 1
  | .warn => 2
  | .info => 3
  | .debug => 4
  | .trace => 5

end Level

structure LogLine where
  level : Level
  /-- Which part of the program speaks. -/
  target : String
  message : String
  /-- Names and values written behind the message. -/
  fields : List (String × String) := []
deriving DecidableEq, Repr

def controlsTerminal (c : Char) : Bool :=
  ['\x07', '\x08', '\x0c', '\x1b', '\x7f'].contains c || (0x80 ≤ c.toNat && c.toNat ≤ 0x9f)

def hexadecimal (n : Nat) : String := String.ofList (Nat.toDigits 16 n)

/-- A character that controls a terminal is shown by its number. -/
def visible (c : Char) : String :=
  if !controlsTerminal c then c.toString
  else if c.toNat < 0x10 then "\\x0" ++ hexadecimal c.toNat
  else if c.toNat < 0x80 then "\\x" ++ hexadecimal c.toNat
  else "\\u\x7b" ++ hexadecimal c.toNat ++ "\x7d"

namespace LogLine

/-- Names of all fields. The message is one of them. -/
def fieldNames (line : LogLine) : List String := "message" :: line.fields.map (·.1)

def fieldTexts (line : LogLine) : List String :=
  line.fields.map fun (name, value) => name ++ "=" ++ value

/-- The message, in which nothing controls a terminal, with its fields behind it. -/
def text (line : LogLine) : String :=
  " ".intercalate (String.join (line.message.toList.map visible) :: line.fieldTexts)

def display (line : LogLine) : String :=
  String.ofList (List.replicate (5 - line.level.name.length) ' ') ++ line.level.name ++ " " ++
    line.target ++ ": " ++ line.text

end LogLine

end BulkStream
