import BulkStream.Proofs.LineGrammar
import BulkStream.Proofs.TextReference

/-!
Reading back the lines that a source writes. A line has no white space before its newline and its
three parts are as wide as the reader allows, so the numbers read are the numbers written.
-/
namespace BulkStream.Integrity

/-- No white space anywhere, so no newline and nothing to strip at the end. -/
def Visible (bytes : Bytes) : Prop := ∀ b ∈ bytes, ¬White b

namespace Visible

theorem append {a b : Bytes} (ha : Visible a) (hb : Visible b) : Visible (a ++ b) := by
  intro byte member
  rcases List.mem_append.mp member with left | right
  · exact ha byte left
  · exact hb byte right

theorem newline_notMem {bytes : Bytes} (h : Visible bytes) : newline ∉ bytes := by
  intro member
  exact h newline member (by simp [White, newline])

theorem stripReturn_eq {bytes : Bytes} (h : Visible bytes) : stripReturn bytes = bytes := by
  rw [stripReturn, if_neg]
  intro last
  exact h 0x0d (List.mem_of_getLast? last) (by simp [White])

end Visible

end BulkStream.Integrity

namespace BulkStream.Peripheral

open Integrity

/-- No white space, and no control byte either. -/
def Printable (bytes : Bytes) : Prop := ∀ b ∈ bytes, 0x30 ≤ b.toNat

theorem Printable.visible {bytes : Bytes} (h : Printable bytes) : Visible bytes :=
  fun b member => not_white_of_le (h b member)

theorem printable_digits (width n : Nat) : Printable (digitBytes width n) :=
  fun b member => (digitBytes_digits width n b member).1

theorem printable_filler (n : Nat) : Printable (filler n) := by
  intro b member
  obtain ⟨i, -, rfl⟩ := List.mem_map.mp member
  have turn : (n % 26 + i) % 52 < 52 := Nat.mod_lt _ (by decide)
  rw [letter]
  split
  · simp
    omega
  · simp
    omega

/-- A number, a filler and the next number. -/
def numberedLine (start : Nat) (filler : Bytes) : Bytes :=
  digitBytes numberWidth start ++ (filler ++ digitBytes numberWidth (nextNumber start))

theorem nextNumber_lt (n : Nat) : nextNumber n < lineModulus := Nat.mod_lt _ (by decide)

section NumberedLine

variable {start : Nat} {filler : Bytes}

theorem length_numberedLine (wide : filler.length = fillerWidth) :
    (numberedLine start filler).length = 106 := by
  simp [numberedLine, wide, numberWidth, fillerWidth]

theorem visible_numberedLine (word : Visible filler) : Visible (numberedLine start filler) :=
  (printable_digits _ _).visible.append (word.append (printable_digits _ _).visible)

theorem ofBytes?_numberedLine (below : start < lineModulus) (wide : filler.length = fillerWidth)
    (word : Visible filler) :
    Line.ofBytes? (numberedLine start filler) = some ⟨start, nextNumber start⟩ := by
  have six {m : Nat} (small : m < lineModulus) : m < 10 ^ 6 := Nat.lt_trans small (by decide)
  have read := ofBytes?_digitBytes filler [] (six below) (six (nextNumber_lt start)) wide word
  rw [List.append_nil] at read
  exact read

end NumberedLine

/-- A line without its newline. -/
def lineBody (n : Nat) : Bytes :=
  digitBytes numberWidth n ++ (filler n ++ digitBytes numberWidth (nextNumber n))

theorem textLine_eq (n : Nat) : textLine n = lineBody n ++ [newline] := by
  simp [textLine, lineBody, newline]

theorem length_filler (n : Nat) : (filler n).length = fillerWidth := by simp [filler]

theorem visible_lineBody (n : Nat) : Visible (lineBody n) :=
  visible_numberedLine (printable_filler n).visible

theorem length_lineBody (n : Nat) : (lineBody n).length = 106 :=
  length_numberedLine (length_filler n)

theorem ofBytes?_lineBody {n : Nat} (h : n < lineModulus) :
    Line.ofBytes? (lineBody n) = some ⟨n, nextNumber n⟩ :=
  ofBytes?_numberedLine h (length_filler n) (printable_filler n).visible

end BulkStream.Peripheral
