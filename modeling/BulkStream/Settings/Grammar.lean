import BulkStream.Settings.Usage

/-!
Arguments of a command, and how they are read. An argument with a long name is written `--name`, one
with a short name `-n`. A value is attached (`--name=value`, `-nvalue`, `-n=value`) or is the next
word, unless that word looks like an argument itself; flags take no value and can share a word (`-ab`).
Any other word is the value of the positional argument, as is each word after `--`.

Values are judged late: one in a word of its own only once the next argument is met. A word that is
no argument at all is therefore reported before a bad value ahead of it.
-/
namespace BulkStream.Settings

abbrev Variables := List (String × String)

/-- The arguments `κ` of a command, and the options `ω` that they set. -/
structure Grammar (κ ω : Type) where
  /-- All arguments, in the order in which their variables are looked up. -/
  arguments : List κ
  long : κ → Option String
  short : κ → Option Char
  takesValue : κ → Bool
  positional : κ
  /-- Environment variable that stands in for an argument not given. -/
  environmentName : κ → Option String
  /-- Set an argument to a value. A flag that is merely given has none. -/
  set : κ → Option String → ω → Except UsageError ω

/-- The name in a word such as `--name` or `--name=value`, and the value. -/
def longForm? (word : String) : Option (String × Option String) :=
  match word.toList with
  | '-' :: '-' :: rest =>
      let name := String.ofList (rest.takeWhile (· ≠ '='))
      match rest.dropWhile (· ≠ '=') with
      | [] => some (name, none)
      | _ :: value => some (name, some (String.ofList value))
  | _ => none

/-- The characters behind the dash of a word that is not a dash alone. -/
def shortForm? (word : String) : Option (List Char) :=
  match word.toList with
  | '-' :: c :: rest => some (c :: rest)
  | _ => none

structure Reading (κ ω : Type) where
  options : ω
  given : List κ := []
  /-- An argument whose value is not judged yet, and the value if it has come. -/
  pending : Option (κ × Option String) := none
  /-- The positional argument has been met. -/
  placed : Bool := false
  /-- All words that follow are positional. -/
  trailing : Bool := false
deriving Repr

namespace Grammar

variable {κ ω : Type} [DecidableEq κ]

def ofLong? (g : Grammar κ ω) (name : String) : Option κ :=
  g.arguments.find? (g.long · = some name)

def ofShort? (g : Grammar κ ω) (c : Char) : Option κ := g.arguments.find? (g.short · = some c)

/-- Set an argument. A missing value is noticed before a repetition, and that before a bad value. -/
def supply (g : Grammar κ ω) (argument : κ) (value : Option String) (r : Reading κ ω) :
    Except UsageError (Reading κ ω) := do
  if g.takesValue argument && value.isNone then throw .invalidValue
  if argument ∈ r.given then throw .repeatedArgument
  let options ← g.set argument value r.options
  return { r with options, given := argument :: r.given }

def settle (g : Grammar κ ω) (r : Reading κ ω) : Except UsageError (Reading κ ω) :=
  match r.pending with
  | none => .ok r
  | some (argument, value) => g.supply argument value { r with pending := none }

def supplyNow (g : Grammar κ ω) (argument : κ) (value : Option String) (r : Reading κ ω) :
    Except UsageError (Reading κ ω) := do
  g.supply argument value (← g.settle r)

/-- Leave an argument pending, after setting the one before. -/
def suspend (g : Grammar κ ω) (argument : κ) (value : Option String) (r : Reading κ ω) :
    Except UsageError (Reading κ ω) := do
  return { ← g.settle r with pending := some (argument, value) }

def readLong (g : Grammar κ ω) (name : String) (value : Option String) (r : Reading κ ω) :
    Except UsageError (Reading κ ω) :=
  match g.ofLong? name with
  | none => .error .unknownArgument
  | some argument =>
      match g.takesValue argument, value with
      | true, none => g.suspend argument none r
      | true, some value => g.supplyNow argument (some value) r
      | false, none => g.supplyNow argument none r
      | false, some _ => .error .needlessValue

/-- Read the characters of a word in its short form. An argument that takes a value takes the rest
of the word for it. -/
def readShort (g : Grammar κ ω) : List Char → Reading κ ω → Except UsageError (Reading κ ω)
  | [], r => .ok r
  | c :: rest, r =>
      match g.ofShort? c with
      | none => .error .unknownArgument
      | some argument =>
          if g.takesValue argument then
            match rest with
            | [] => g.suspend argument none r
            | '=' :: value => g.supplyNow argument (some (String.ofList value)) r
            | value => g.supplyNow argument (some (String.ofList value)) r
          else do readShort g rest (← g.supplyNow argument none r)

def readPlace (g : Grammar κ ω) (word : String) (r : Reading κ ω) :
    Except UsageError (Reading κ ω) :=
  if r.placed then .error .unknownArgument
  else g.suspend g.positional (some word) { r with placed := true }

def readWord (g : Grammar κ ω) (word : String) (r : Reading κ ω) :
    Except UsageError (Reading κ ω) :=
  if r.trailing then g.readPlace word r
  else if word = "--" then .ok { r with trailing := true }
  else
    match longForm? word, shortForm? word with
    | some (name, value), _ => g.readLong name value r
    | none, some cs => g.readShort cs r
    | none, none =>
        match r.pending with
        | some (argument, none) => .ok { r with pending := some (argument, some word) }
        | _ => g.readPlace word r

/-- Set the arguments not given from their variables. -/
def consult (g : Grammar κ ω) (environment : Variables) (r : Reading κ ω) :
    Except UsageError (Reading κ ω) :=
  g.arguments.foldlM (fun r argument =>
    if argument ∈ r.given then .ok r
    else
      match (g.environmentName argument).bind (environment.lookup ·) with
      | none => .ok r
      | some value => g.supply argument (some value) r) r

def read (g : Grammar κ ω) (environment : Variables) (words : List String) (options : ω) :
    Except UsageError ω := do
  let r ← words.foldlM (fun r word => g.readWord word r) { options }
  return (← g.consult environment (← g.settle r)).options

end Grammar

end BulkStream.Settings
