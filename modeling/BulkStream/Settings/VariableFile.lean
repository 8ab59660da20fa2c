import BulkStream.Settings.Grammar
import BulkStream.Settings.QuotedLines
import BulkStream.Text.Alphanumeric

/-!
Files that set variables, a line `NAME=value` for each. Names may follow the word `export`. A value
between single quotes is taken as it is; elsewhere a backslash escapes the next character, and `$NAME`
or `$` with a name in braces stands for the value of another variable. Variables that are set already
keep their values. The first line that is not understood ends the reading.
-/
namespace BulkStream.Settings

open Text

/-- A point within a value. Names of variables are held with the latest character first. -/
inductive Place
  | plain
  | weak
  /-- Behind a backslash, where the flag tells of double quotes. -/
  | escape (quoted : Bool)
  | strong
  /-- In the name behind a dollar sign. -/
  | name (quoted : Bool) (held : List Char)
  | braced (quoted : Bool) (held : List Char)
  | ended
  | comment
deriving DecidableEq, Repr

namespace Place

/-- Text inside or outside of double quotes. -/
def text (quoted : Bool) : Place := if quoted then .weak else .plain

/-- The value of a variable whose name is held. -/
def expand (lookup : String → Option String) (held : List Char) : List Char :=
  ((lookup (String.ofList held.reverse)).getD "").toList

/-- What a character adds to the value, and the point behind it. -/
def next (lookup : String → Option String) (c : Char) : Place → Option (List Char × Place)
  | .plain =>
      if c = '$' then some ([], .name false [])
      else if c = '\'' then some ([], .strong)
      else if c = '"' then some ([], .weak)
      else if c = '\\' then some ([], .escape false)
      else if c = ' ' ∨ c = '\t' then some ([], .ended)
      else some ([c], .plain)
  | .weak =>
      if c = '$' then some ([], .name true [])
      else if c = '"' then some ([], .plain)
      else if c = '\\' then some ([], .escape true)
      else some ([c], .weak)
  | .escape quoted =>
      if c ∈ ['\\', '\'', '"', '$', ' '] then some ([c], text quoted)
      else if c = 'n' then some (['\n'], text quoted)
      else none
  | .strong => if c = '\'' then some ([], .plain) else some ([c], .strong)
  | .name quoted held =>
      if isAlphanumeric c then some ([], .name quoted (c :: held))
      else if c = '{' ∧ held = [] then some ([], .braced quoted [])
      else if c = '$' then some (expand lookup held, .name quoted [])
      else some (expand lookup held ++ [c], text quoted)
  | .braced quoted held =>
      if c = '}' then some (expand lookup held, text quoted)
      else some ([], .braced quoted (c :: held))
  | .ended =>
      if c = ' ' ∨ c = '\t' then some ([], .ended)
      else if c = '#' then some ([], .comment)
      else none
  | .comment => some ([], .comment)

/-- What the end of the line adds to the value. Quotes and braces must be closed by then. -/
def atEnd? (lookup : String → Option String) : Place → Option (List Char)
  | .name false held => some (expand lookup held)
  | .plain | .escape false | .ended | .comment => some []
  | .weak | .strong | .escape true | .name true _ | .braced _ _ => none

end Place

def readValue (lookup : String → Option String) : Place → List Char → Option (List Char)
  | place, [] => place.atEnd? lookup
  | place, c :: cs => do
      let (added, place) ← place.next lookup c
      return added ++ (← readValue lookup place cs)

def startsName (c : Char) : Bool := c.isAlpha || c == '_'

def continuesName (c : Char) : Bool := c.isAlphanum || c == '_' || c == '.'

def readName (cs : List Char) : Option (List Char × List Char) :=
  if (cs.head?.any startsName) then
    some (cs.takeWhile continuesName, (cs.dropWhile continuesName).dropWhile isBlank)
  else none

def readEquals : List Char → Option (List Char)
  | '=' :: cs => some cs
  | _ => none

/-- The name that a line sets, and what is written behind the equals sign. -/
def readTarget (cs : List Char) : Option (List Char × List Char) := do
  let (name, rest) ← readName cs
  match readEquals rest with
  | some rest => return (name, rest)
  | none =>
      if name ≠ "export".toList then failure
      let (name, rest) ← readName rest
      return (name, ← readEquals rest)

/-- The variable that a line sets, if it sets one; nothing at all if it is not understood. -/
def readLine (lookup : String → Option String) (line : List Char) :
    Option (Option (String × String)) :=
  let cs := trim line
  if cs = [] ∨ cs.head? = some '#' then some none
  else do
    let (name, rest) ← readTarget cs
    let rest := rest.dropWhile isBlank
    let value ←
      if rest = [] ∨ rest.head? = some '#' then pure [] else readValue lookup .plain rest
    return some (String.ofList name, String.ofList value)

namespace Variables

/-- The value of a name in a text. Variables are told as texts `NAME=value`, and such a name may reach
into the value: with `A` set to `B=1`, the value of `A=B` is `1`. -/
def valueOf? (v : Variables) (name : String) : Option String := do
  if name = "" then none
  let value ← v.lookup (String.ofList (name.toList.takeWhile (· ≠ '=')))
  match name.toList.dropWhile (· ≠ '=') with
  | [] => return value
  | _ :: reached => return String.ofList (← (reached ++ ['=']).isPrefixOf? value.toList)

/-- Set a variable that is not set. -/
def define (name value : String) (v : Variables) : Variables :=
  if (v.lookup name).isSome then v else (name, value) :: v

/-- Set what lines say, up to the first that is not understood. -/
def readLines : List (Option (List Char)) → Variables → Variables
  | [], v | none :: _, v => v
  | some line :: lines, v =>
      match readLine v.valueOf? line with
      | none => v
      | some none => readLines lines v
      | some (some (name, value)) => readLines lines (define name value v)

def readFile (bytes : Bytes) (v : Variables) : Variables := readLines (quotedLines bytes) v

end Variables

end BulkStream.Settings
