/-!
Numbers in columns: a double with a fixed number of decimal places, rounded from its exact value
with a tie going to the even neighbour, and text set to the right of a column.
-/
namespace BulkStream.Text

/-- The quotient of two numbers, rounded to the nearest whole number, a tie to the even one. -/
def roundDiv (numerator denominator : Nat) : Nat :=
  let quotient := numerator / denominator
  let twice := 2 * (numerator % denominator)
  if twice < denominator then quotient
  else if denominator < twice then quotient + 1
  else quotient + quotient % 2

/-- A finite double is `mantissa * 2 ^ up / 2 ^ down`, with its sign apart. -/
structure Magnitude where
  mantissa : Nat
  up : Nat
  down : Nat
deriving DecidableEq, Repr

namespace Magnitude

/-- The leading bit of a mantissa, which is not stored. -/
def hiddenBit : Nat := 0x10000000000000

/-- The magnitude in the bits of a double, unless they mean infinity or no number at all. -/
def ofBits? (bits : UInt64) : Option Magnitude :=
  let field := bits.toNat / hiddenBit % 2048
  let fraction := bits.toNat % hiddenBit
  if field = 2047 then none
  else if field = 0 then some ⟨fraction, 0, 1074⟩
  else some ⟨fraction + hiddenBit, field - 1075, 1075 - field⟩

/-- The value times a power of ten, as a whole number. -/
def scaled (m : Magnitude) (places : Nat) : Nat :=
  roundDiv (m.mantissa * Nat.pow 2 m.up * Nat.pow 10 places) (Nat.pow 2 m.down)

end Magnitude

/-- Digits of a number with at least the given count, filled with zeros on the left. -/
def zeroPadded (width n : Nat) : String :=
  let digits := Nat.toDigits 10 n
  String.ofList (List.replicate (width - digits.length) '0' ++ digits)

/-- Whole part and fraction of a number counted in units of `10 ^ -places`. -/
def decimalPoint (places n : Nat) : String :=
  if places = 0 then zeroPadded 1 n
  else
    let unit := Nat.pow 10 places
    zeroPadded 1 (n / unit) ++ "." ++ zeroPadded places (n % unit)

/-- A double with `places` digits after the point. -/
def fixedPlaces (places : Nat) (x : Float) : String :=
  let sign := if 0x8000000000000000 ≤ x.toBits.toNat then "-" else ""
  match Magnitude.ofBits? x.toBits with
  | some m => sign ++ decimalPoint places (m.scaled places)
  | none => if x.isNaN then "NaN" else sign ++ "inf"

/-- Text moved to the right end of a column. -/
def rightAligned (width : Nat) (text : String) : String :=
  String.ofList (List.replicate (width - text.length) ' ') ++ text

/-- Lower-case hexadecimal digits of a word, eight of them. -/
def hexWord (w : UInt32) : String :=
  let digits := Nat.toDigits 16 w.toNat
  String.ofList (List.replicate (8 - digits.length) '0' ++ digits)

end BulkStream.Text
