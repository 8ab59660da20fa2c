import BulkStream.Fault

/-!
Whole numbers as users write them: digits only, after a sign if there is one.
-/
namespace BulkStream.Settings

def isDigit (c : Char) : Bool := '0' ≤ c && c ≤ '9'

def digits? : List Char → Option Nat
  | [] => none
  | cs =>
      if cs.all isDigit then some (cs.foldl (fun n c => 10 * n + (c.toNat - '0'.toNat)) 0) else none

/-- A number after an optional plus sign. -/
def natural? (text : String) : Option Nat :=
  match text.toList with
  | '+' :: digits => digits? digits
  | digits => digits? digits

def word? (text : String) : Option Nat := (natural? text).filter (· < countLimit)

/-- A number of at most 8 bits. Zero may also be written with a minus sign. -/
def octet? (text : String) : Option Nat :=
  match text.toList with
  | '-' :: digits => (digits? digits).filter (· = 0)
  | _ => (natural? text).filter (· < 256)

end BulkStream.Settings
