import BulkStream.Settings.Numeral
import BulkStream.Text.Alphanumeric
import BulkStream.Text.Blank

/-!
Patterns for the values of fields: regular expressions that know no classes of characters beyond
ASCII and no letter cases but those of ASCII. Nothing is matched against a pattern here; what counts
is whether it is well-formed. A pattern stands in braces and holds no closing brace, so that a counted
repetition, a class by name or a number in braces is never complete.
-/
namespace BulkStream.Pattern

open Settings Text

structure Mode where
  /-- A letter stands for both its cases. -/
  folded : Bool := false
  /-- Characters are matched, not bytes. -/
  wide : Bool := true
  /-- Blanks are skipped, and comments behind a hash. -/
  spaced : Bool := false
deriving DecidableEq, Repr

/-- What follows blanks and comments. -/
def skipBlanks : (comment : Bool) → List Char → List Char
  | _, [] => []
  | true, c :: cs => skipBlanks (c ≠ '\n') cs
  | false, c :: cs =>
      if c = '#' then skipBlanks true cs
      else if isBlank c then skipBlanks false cs
      else c :: cs

namespace Mode

def skip (m : Mode) (cs : List Char) : List Char := if m.spaced then skipBlanks false cs else cs

/-- Cases of all scripts would have to be known. -/
def isBlind (m : Mode) : Bool := m.folded && m.wide

end Mode

inductive Atom
  /-- A character, which may be written as the number of a byte. -/
  | character (c : Char) (asByte : Bool)
  | anyCharacter
  /-- An edge of the text, of a line or of a word. -/
  | edge (ofWord : Bool)
  /-- Digits, blanks or word characters, or all others. -/
  | family (negated : Bool)
deriving DecidableEq, Repr

namespace Atom

def isAscii (c : Char) : Bool := c.toNat < 0x80

/-- An atom that can stand by itself. In bytes it must not match a part of a character. -/
def stands (m : Mode) : Atom → Bool
  | .character c asByte => if m.wide then !m.folded else !asByte || isAscii c
  | .anyCharacter => m.wide
  | .edge ofWord => !(ofWord && m.wide)
  | .family negated => !m.wide && !negated

/-- An atom that can be an item of a set. -/
def belongs (m : Mode) : Atom → Bool
  | .character c _ => if m.wide then !m.folded else isAscii c
  | .family negated => !m.wide && !negated
  | .anyCharacter | .edge _ => false

/-- Two atoms that can be the ends of a range. -/
def spans (m : Mode) (first last : Atom) : Bool :=
  match first, last with
  | .character a _, .character b _ => a.toNat ≤ b.toNat && first.belongs m && last.belongs m
  | _, _ => false

end Atom

def hexDigit? (c : Char) : Option Nat :=
  if isDigit c then some (c.toNat - '0'.toNat)
  else if 'a' ≤ c ∧ c ≤ 'f' then some (c.toNat - 'a'.toNat + 10)
  else if 'A' ≤ c ∧ c ≤ 'F' then some (c.toNat - 'A'.toNat + 10)
  else none

/-- Value of so many hexadecimal digits behind those with the given value, and what follows. -/
def readHex (m : Mode) : (count value : Nat) → List Char → Option (Nat × List Char)
  | 0, value, cs => some (value, cs)
  | count + 1, value, cs =>
      match m.skip cs with
      | [] => none
      | c :: cs => do readHex m count (16 * value + (← hexDigit? c)) cs

def readNumbered (m : Mode) (digits : Nat) (cs : List Char) : Option (Atom × List Char) := do
  let (value, cs) ← readHex m digits 0 cs
  if value.isValidChar then return (.character (.ofNat value) (digits = 2), cs) else none

def control? : Char → Option Char
  | 'a' => '\x07'
  | 't' => '\t'
  | 'n' => '\n'
  | 'v' => '\x0b'
  | 'f' => '\x0c'
  | 'r' => '\r'
  | _ => none

def readEscape (m : Mode) : List Char → Option (Atom × List Char)
  | [] => none
  | c :: cs =>
      if c = 'x' then readNumbered m 2 cs
      else if c = 'u' then readNumbered m 4 cs
      else if c = 'U' then readNumbered m 8 cs
      else if c ∈ ['d', 's', 'w'] then some (.family false, cs)
      else if c ∈ ['D', 'S', 'W'] then some (.family true, cs)
      else if c ∈ ['A', 'z'] then some (.edge false, cs)
      else if c ∈ ['b', 'B', '<', '>'] then some (.edge true, cs)
      else
        match control? c with
        | some control => some (.character control false, cs)
        | none => if Atom.isAscii c && !c.isAlphanum then some (.character c false, cs) else none

def readAtom (m : Mode) : List Char → Option (Atom × List Char)
  | [] => none
  | '\\' :: cs => readEscape m cs
  | '.' :: cs => some (.anyCharacter, cs)
  | '^' :: cs | '$' :: cs => some (.edge false, cs)
  | c :: cs => some (.character c false, cs)

def readMember (m : Mode) : List Char → Option (Atom × List Char)
  | [] => none
  | '\\' :: cs => readEscape m cs
  | c :: cs => some (.character c false, cs)

/-- The next character that is not skipped, where a hash is skipped like a blank. -/
def peek (m : Mode) (cs : List Char) : Option Char :=
  if m.spaced then
    match cs.dropWhile isBlank with
    | '#' :: cs => (cs.dropWhile isBlank).head?
    | cs => cs.head?
  else cs.head?

/-- What follows one item of a set or a range of them. -/
def readRange (m : Mode) (cs : List Char) : Option (List Char) := do
  let (first, cs) ← readMember m cs
  let single := if first.belongs m then some (m.skip cs) else none
  match m.skip cs with
  | [] => none
  | '-' :: rest =>
      if peek m rest = some ']' ∨ peek m rest = some '-' then single
      else
        let (last, rest) ← readMember m (m.skip rest)
        if first.spans m last then return rest else none
  | _ => single

def asciiClassNames : List String :=
  ["alnum", "alpha", "ascii", "blank", "cntrl", "digit", "graph", "lower", "print", "punct", "space",
    "upper", "word", "xdigit"]

/-- A class such as `[:alpha:]` behind its opening bracket, whether it is negated, and what follows. -/
def readAsciiClass : List Char → Option (Bool × List Char)
  | ':' :: cs =>
      let (negated, cs) := match cs with | '^' :: cs => (true, cs) | cs => (false, cs)
      match cs.dropWhile (· ≠ ':') with
      | ':' :: ']' :: rest =>
          if asciiClassNames.contains (String.ofList (cs.takeWhile (· ≠ ':'))) then some (negated, rest)
          else none
      | _ => none
  | _ => none

/-- What has been read of a set. Its height is the depth to which sets, operations on sets and
successions of items are nested in it, and an operation takes all that is in front of it. -/
structure Items where
  /-- Height of what the latest operator stands behind. -/
  operand : Option Nat := none
  count : Nat := 0
  tallest : Nat := 0
deriving DecidableEq, Repr

namespace Items

def add (s : Items) (height : Nat) : Items :=
  { s with count := s.count + 1, tallest := max s.tallest height }

/-- Height of the items since the latest operator. -/
def rowHeight (s : Items) : Nat := if s.count < 2 then s.tallest else s.tallest + 1

def height (s : Items) : Nat :=
  match s.operand with
  | none => s.rowHeight
  | some operand => max operand s.rowHeight + 1

def operate (s : Items) : Items := { operand := s.height }

end Items

/-- The number of leading hyphens, and what follows. -/
def skipHyphens (m : Mode) : (steps : Nat) → List Char → Nat × List Char
  | 0, cs => (0, cs)
  | steps + 1, cs =>
      match m.skip cs with
      | '-' :: cs =>
          let (count, cs) := skipHyphens m steps cs
          (count + 1, cs)
      | cs => (0, cs)

/-- The items that stand for themselves at the beginning of a set, which are hyphens or a closing
bracket, and what follows. A negation may come before. A negated set of bytes would match parts of
characters. -/
def openSet (m : Mode) (cs : List Char) : Option (Items × List Char) :=
  let (negated, cs) :=
    match m.skip cs with
    | '^' :: cs => (true, cs)
    | cs => (false, cs)
  let (count, cs) :=
    match skipHyphens m cs.length cs with
    | (0, ']' :: cs) => (1, cs)
    | opened => opened
  if negated && !m.wide || m.isBlind && count ≠ 0 then none else some ({ count }, cs)

/-- The height of a set, which is open with others around it, and what follows. -/
def readSet (m : Mode) : (steps : Nat) → Items → (outer : List Items) → List Char →
    Option (Nat × List Char)
  | 0, _, _, _ => none
  | steps + 1, s, outer, cs =>
      match m.skip cs with
      | [] => none
      | ']' :: cs =>
          match outer with
          | [] => some (s.height + 1, cs)
          | around :: outer => readSet m steps (around.add (s.height + 1)) outer cs
      | '[' :: cs =>
          match readAsciiClass cs with
          | some (negated, cs) =>
              if m.isBlind || negated && !m.wide then none else readSet m steps (s.add 0) outer cs
          | none => do
              let (inner, cs) ← openSet m cs
              readSet m steps inner (s :: outer) cs
      | '&' :: '&' :: cs | '-' :: '-' :: cs | '~' :: '~' :: cs => readSet m steps s.operate outer cs
      | cs => do readSet m steps (s.add 0) outer (← readRange m cs)

/-- What has been read of a group, or of the whole pattern. A part's height is the depth to which
groups, repetitions, sets, sequences and alternatives are nested in it. -/
structure Nest where
  /-- Greatest height of the alternatives before the one that is being read. -/
  before : Option Nat := none
  parts : Nat := 0
  tallest : Nat := 0
  /-- Height of the part that comes before, if it can be repeated. -/
  latest : Option Nat := none
deriving DecidableEq, Repr

namespace Nest

/-- A part that can be repeated. -/
def add (l : Nest) (height : Nat) : Nest :=
  { l with parts := l.parts + 1, tallest := max l.tallest height, latest := height }

/-- Flags count as a part, but cannot be repeated. -/
def addFlags (l : Nest) : Nest := { l with parts := l.parts + 1, latest := none }

def repeat? (l : Nest) : Option Nest :=
  l.latest.map fun height =>
    { l with tallest := max l.tallest (height + 1), latest := some (height + 1) }

/-- Height of the alternative that is being read. -/
def sequenceHeight (l : Nest) : Nat := if l.parts < 2 then l.tallest else l.tallest + 1

def branch (l : Nest) : Nest := { before := max (l.before.getD 0) l.sequenceHeight }

def height (l : Nest) : Nat :=
  match l.before with
  | none => l.sequenceHeight
  | some before => max before l.sequenceHeight + 1

end Nest

def heightLimit : Nat := 250

structure Reading where
  mode : Mode := {}
  nest : Nest := {}
  /-- What to go back to where the open groups end, the innermost first. -/
  outer : List (Mode × Nest) := []
  names : List (List Char) := []
deriving Repr

namespace Reading

def add (r : Reading) (height : Nat) : Reading := { r with nest := r.nest.add height }

def enter (r : Reading) (mode : Mode) : Reading :=
  { r with mode, nest := {}, outer := (r.mode, r.nest) :: r.outer }

def leave (r : Reading) : Option Reading :=
  match r.outer with
  | [] => none
  | (mode, nest) :: outer => some { r with mode, nest := nest.add (r.nest.height + 1), outer }

def isComplete (r : Reading) : Bool := r.outer.isEmpty && r.nest.height ≤ heightLimit

end Reading

/-- The mode that flags set, the flags, how they end, and what follows. Those behind a hyphen are
cleared. -/
def readFlags : (set : Bool) → (flags : List Char) → Mode → List Char →
    Option (Mode × List Char × Char × List Char)
  | _, _, _, [] => none
  | set, flags, m, c :: cs =>
      if c = ':' ∨ c = ')' then if flags.head? = some '-' then none else some (m, flags, c, cs)
      else if c ∈ flags then none
      else
        match c with
        | '-' => readFlags false (c :: flags) m cs
        | 'i' => readFlags set (c :: flags) { m with folded := set } cs
        | 'u' => readFlags set (c :: flags) { m with wide := set } cs
        | 'x' => readFlags set (c :: flags) { m with spaced := set } cs
        | 'm' | 's' | 'U' | 'R' => readFlags set (c :: flags) m cs
        | _ => none

def startsGroupName (c : Char) : Bool := c == '_' || isAlphabetic c

def continuesGroupName (c : Char) : Bool := isAlphanumeric c || ['_', '.', '[', ']'].contains c

def readGroupName (r : Reading) (cs : List Char) : Option (Reading × List Char) :=
  let name := cs.takeWhile (· ≠ '>')
  match cs.dropWhile (· ≠ '>') with
  | [] => none
  | _ :: rest =>
      if name.head?.any startsGroupName && name.all continuesGroupName && !r.names.contains name then
        some ({ r.enter r.mode with names := name :: r.names }, rest)
      else none

/-- What follows the parenthesis that opens a group, or flags for the rest of the group around. -/
def readGroup (r : Reading) (cs : List Char) : Option (Reading × List Char) :=
  match r.mode.skip cs with
  | '?' :: 'P' :: '<' :: cs | '?' :: '<' :: cs => readGroupName r cs
  | '?' :: cs =>
      match readFlags true [] r.mode cs with
      | none | some (_, [], ')', _) => none
      | some (mode, _, ')', cs) => some ({ r with mode, nest := r.nest.addFlags }, cs)
      | some (mode, _, _, cs) => some (r.enter mode, cs)
  | cs => some (r.enter r.mode, cs)

/-- Whether the rest of a pattern is well-formed. Each step takes a character at least. -/
def isWellFormed : (steps : Nat) → Reading → List Char → Bool
  | 0, _, _ => false
  | steps + 1, r, cs =>
      match r.mode.skip cs with
      | [] => r.isComplete
      | '{' :: _ => false
      | '(' :: cs => (readGroup r cs).any fun (r, cs) => isWellFormed steps r cs
      | ')' :: cs => r.leave.any fun r => isWellFormed steps r cs
      | '|' :: cs => isWellFormed steps { r with nest := r.nest.branch } cs
      | '[' :: cs =>
          (do
            let (items, cs) ← openSet r.mode cs
            readSet r.mode steps items [] cs).any fun (height, cs) =>
              isWellFormed steps (r.add height) cs
      | '?' :: cs | '*' :: cs | '+' :: cs =>
          r.nest.repeat?.any fun nest =>
            isWellFormed steps { r with nest } (match cs with | '?' :: cs => cs | cs => cs)
      | cs =>
          (readAtom r.mode cs).any fun (atom, cs) =>
            atom.stands r.mode && isWellFormed steps (r.add 0) cs

/-- A number with or without a point and an exponent, but without a sign. -/
def isDecimal (cs : List Char) : Bool :=
  let text := cs.map Char.toLower
  if text = "inf".toList ∨ text = "infinity".toList ∨ text = "nan".toList then true
  else
    let whole := text.takeWhile isDigit
    let rest := text.drop whole.length
    let (places, rest) :=
      match rest with
      | '.' :: rest => (rest.takeWhile isDigit, rest.dropWhile isDigit)
      | rest => ([], rest)
    (whole ≠ [] || places ≠ []) &&
      match rest with
      | [] => true
      | 'e' :: '+' :: digits | 'e' :: '-' :: digits | 'e' :: digits => (digits? digits).isSome
      | _ => false

/-- A text that can be asked of a field: a number, which may have a plus sign, or a pattern. -/
def isValue (text : String) : Bool :=
  match text.toList with
  | '+' :: cs => isDecimal cs
  | cs => isWellFormed (cs.length + 1) {} cs

end BulkStream.Pattern
