import Mathlib.Data.List.TakeWhile
import Mathlib.Data.Nat.Digits.Defs
import BulkStream.Peripheral.Record

/-!
The grammar of a text record, stated without the reader. A line is a number, a filler and a number,
each behind white space, and anything after them; every part is the longest run of its kind that
stands at its place. The reader accepts exactly these lines and finds the numbers written in them.
-/
namespace BulkStream.Integrity

/-- Space, tab, line feed, form feed or carriage return. -/
def White (b : UInt8) : Prop := b ∈ ([0x20, 0x09, 0x0a, 0x0c, 0x0d] : List UInt8)

/-- One of the ten ASCII digits. -/
def Digit (b : UInt8) : Prop := 0x30 ≤ b.toNat ∧ b.toNat ≤ 0x39

def WhiteSpace (run : Bytes) : Prop := ∀ b ∈ run, White b

/-- At most so many bytes, all of a class. -/
def AtMost (width : Nat) (ofClass : UInt8 → Prop) (run : Bytes) : Prop :=
  run.length ≤ width ∧ ∀ b ∈ run, ofClass b

/-- Before `rest` there stands a run of a kind, and none that starts with it is longer. -/
structure Longest (kind : Bytes → Prop) (run rest : Bytes) : Prop where
  ofKind : kind run
  longest : ∀ front, front <+: run ++ rest → kind front → front.length ≤ run.length

/-- White space, then a run of a kind with at least one byte, then `rest`. -/
structure FieldAt (kind : Bytes → Prop) (white run rest : Bytes) : Prop where
  skipped : Longest WhiteSpace white (run ++ rest)
  taken : Longest kind run rest
  some_bytes : run ≠ []

/-- The number that decimal digits write, the highest first. -/
def numeral (digits : Bytes) : Nat := Nat.ofDigits 10 (digits.reverse.map fun b => b.toNat - 0x30)

/-- The number, filler and number that a line starts with, as its bytes write them. -/
def IsRecord (bytes first last : Bytes) : Prop :=
  ∃ white₁ white₂ filler white₃ tail : Bytes,
    bytes = white₁ ++ (first ++ (white₂ ++ (filler ++ (white₃ ++ (last ++ tail))))) ∧
      FieldAt (AtMost 6 Digit) white₁ first (white₂ ++ (filler ++ (white₃ ++ (last ++ tail)))) ∧
      FieldAt (AtMost 94 fun b => ¬White b) white₂ filler (white₃ ++ (last ++ tail)) ∧
      FieldAt (AtMost 6 Digit) white₃ last tail

theorem isBlank_iff (b : UInt8) : isBlank b = true ↔ White b := by
  simp [isBlank, White, or_assoc]

theorem isDigit_iff (b : UInt8) : isDigit b = true ↔ Digit b := by
  simp [isDigit, Digit, UInt8.le_iff_toNat_le]

theorem not_white_of_le {b : UInt8} (h : 0x30 ≤ b.toNat) : ¬White b := by
  simp only [White, List.mem_cons, List.not_mem_nil, or_false, ← UInt8.toNat_inj, not_or]
  simp
  omega

theorem Digit.not_white {b : UInt8} (h : Digit b) : ¬White b := not_white_of_le h.1

theorem decimalValue_eq_numeral (digits : Bytes) : decimalValue digits = numeral digits := by
  rw [decimalValue, numeral, Nat.ofDigits_eq_foldr, List.foldr_map, List.foldl_eq_foldr_reverse]
  simp only [Nat.add_comm, Nat.cast_id]

/-- As many digits as a number has keep it below a million. -/
theorem numeral_lt {digits : Bytes} (h : AtMost 6 Digit digits) : numeral digits < 10 ^ 6 := by
  have single : ∀ d ∈ digits.reverse.map fun b => b.toNat - 0x30, d < 10 := by
    intro d member
    obtain ⟨b, inside, rfl⟩ := List.mem_map.mp member
    have bounds := h.2 b (List.mem_reverse.mp inside)
    rw [Digit] at bounds
    omega
  have below := Nat.ofDigits_lt_base_pow_length (by decide : 1 < 10) single
  rw [List.length_map, List.length_reverse] at below
  exact below.trans_le (Nat.pow_le_pow_right (by decide) h.1)

theorem AtMost.front {width : Nat} {ofClass : UInt8 → Prop} {run front : Bytes}
    (h : AtMost width ofClass run) (before : front <+: run) : AtMost width ofClass front :=
  ⟨before.length_le.trans h.1, fun b member => h.2 b (before.subset member)⟩

namespace Longest

variable {kind : Bytes → Prop} {run rest other otherRest : Bytes}

theorem unique (h : Longest kind run rest) (h' : Longest kind other otherRest)
    (same : run ++ rest = other ++ otherRest) : run = other ∧ rest = otherRest := by
  have before : run <+: other ++ otherRest := same ▸ List.prefix_append run rest
  have behind : other <+: run ++ rest := same ▸ List.prefix_append other otherRest
  have runs : run = other := by
    apply (List.prefix_of_prefix_length_le before (List.prefix_append other otherRest)
      (h'.longest run before h.ofKind)).eq_of_length_le
    exact h.longest other behind h'.ofKind
  subst runs
  exact ⟨rfl, List.append_cancel_left same⟩

theorem of_full {width : Nat} {ofClass : UInt8 → Prop} (full : run.length = width)
    (all : ∀ b ∈ run, ofClass b) : Longest (AtMost width ofClass) run rest :=
  ⟨⟨full.le, all⟩, fun _ _ h => full.symm ▸ h.1⟩

/-- There is no white space before a byte of another kind. -/
theorem no_white {b : UInt8} {rest : Bytes} (visible : ¬White b) :
    Longest WhiteSpace [] (b :: rest) := by
  refine ⟨by simp [WhiteSpace], ?_⟩
  intro front before white
  cases front with
  | nil => exact Nat.le_refl 0
  | cons c front =>
      obtain ⟨rfl, -⟩ := List.cons_prefix_cons.mp before
      exact absurd (white c List.mem_cons_self) visible

end Longest

theorem length_le_takeWhile {inClass : UInt8 → Bool} {front bytes : Bytes} (before : front <+: bytes)
    (all : ∀ b ∈ front, inClass b = true) : front.length ≤ (bytes.takeWhile inClass).length := by
  obtain ⟨behind, rfl⟩ := before
  rw [List.takeWhile_append_of_pos all, List.length_append]
  exact Nat.le_add_right _ _

/-- What is skipped and what is left. -/
theorem longest_blank (bytes : Bytes) :
    bytes = bytes.takeWhile isBlank ++ skipBlank bytes ∧
      Longest WhiteSpace (bytes.takeWhile isBlank) (skipBlank bytes) := by
  have whole : bytes.takeWhile isBlank ++ skipBlank bytes = bytes :=
    List.takeWhile_append_dropWhile
  refine ⟨whole.symm, ?_, ?_⟩
  · intro b member
    exact (isBlank_iff b).mp (List.mem_takeWhile_imp member)
  · intro front before white
    rw [whole] at before
    exact length_le_takeWhile before fun b member => (isBlank_iff b).mpr (white b member)

theorem longest_leadingRun (width : Nat) {inClass : UInt8 → Bool} {ofClass : UInt8 → Prop}
    (same : ∀ b, inClass b = true ↔ ofClass b) (bytes : Bytes) :
    bytes = leadingRun width inClass bytes ++ bytes.drop (leadingRun width inClass bytes).length ∧
      Longest (AtMost width ofClass) (leadingRun width inClass bytes)
        (bytes.drop (leadingRun width inClass bytes).length) := by
  have short : leadingRun width inClass bytes <+: bytes.take width := List.takeWhile_prefix _
  have whole := List.prefix_iff_eq_append.mp (short.trans (List.take_prefix width bytes))
  refine ⟨whole.symm, ⟨short.length_le.trans (List.length_take_le width bytes), ?_⟩, ?_⟩
  · intro b member
    exact (same b).mp (List.mem_takeWhile_imp member)
  · intro front before allowed
    rw [whole] at before
    exact length_le_takeWhile (List.prefix_take_iff.mpr ⟨before, allowed.1⟩) fun b member =>
      (same b).mpr (allowed.2 b member)

theorem field?_eq_some_iff (width : Nat) {inClass : UInt8 → Bool} {ofClass : UInt8 → Prop}
    (same : ∀ b, inClass b = true ↔ ofClass b) {bytes run rest : Bytes} :
    field? width inClass bytes = some (run, rest) ↔
      ∃ white, bytes = white ++ (run ++ rest) ∧ FieldAt (AtMost width ofClass) white run rest := by
  obtain ⟨skipped, white⟩ := longest_blank bytes
  obtain ⟨taken, longest⟩ := longest_leadingRun width same (skipBlank bytes)
  constructor
  · intro read
    simp only [field?, List.isEmpty_iff, Option.ite_none_left_eq_some, Option.some.injEq,
      Prod.mk.injEq] at read
    obtain ⟨some_bytes, rfl, rfl⟩ := read
    exact ⟨_, taken ▸ skipped, taken ▸ white, longest, some_bytes⟩
  · rintro ⟨before, rfl, field⟩
    obtain ⟨-, left⟩ := white.unique field.skipped skipped.symm
    rw [left] at taken longest
    obtain ⟨run_eq, rest_eq⟩ := longest.unique field.taken taken.symm
    simp only [field?, left, run_eq, List.isEmpty_iff, field.some_bytes, if_false,
      List.drop_left]

theorem ofBytes?_eq_some_iff (bytes : Bytes) (line : Line) :
    Line.ofBytes? bytes = some line ↔
      ∃ first last, IsRecord bytes first last ∧ line = ⟨numeral first, numeral last⟩ := by
  have visible (b : UInt8) : (!isBlank b) = true ↔ ¬White b := by
    rw [← isBlank_iff, Bool.not_eq_true', Bool.not_eq_true]
  simp only [Line.ofBytes?, Option.bind_eq_bind, Option.bind_eq_some_iff, Prod.exists,
    Option.pure_def, Option.some.injEq, field?_eq_some_iff numberWidth isDigit_iff,
    field?_eq_some_iff fillerWidth visible, decimalValue_eq_numeral]
  constructor
  · rintro ⟨first, _, ⟨white₁, rfl, number₁⟩, filler, _, ⟨white₂, rfl, word⟩, last, tail,
      ⟨white₃, rfl, number₂⟩, rfl⟩
    exact ⟨first, last, ⟨white₁, white₂, filler, white₃, tail, rfl, number₁, word, number₂⟩, rfl⟩
  · rintro ⟨first, last, ⟨white₁, white₂, filler, white₃, tail, rfl, number₁, word, number₂⟩, rfl⟩
    exact ⟨first, _, ⟨white₁, rfl, number₁⟩, filler, _, ⟨white₂, rfl, word⟩, last, tail,
      ⟨white₃, rfl, number₂⟩, rfl⟩

/-- A run as wide as it may be, of bytes that are not white, is a field with no white space. -/
theorem FieldAt.of_full {width : Nat} {ofClass : UInt8 → Prop} {run rest : Bytes}
    (full : run.length = width) (positive : 0 < width) (all : ∀ b ∈ run, ofClass b)
    (visible : ∀ b ∈ run, ¬White b) : FieldAt (AtMost width ofClass) [] run rest := by
  cases run with
  | nil =>
      rw [List.length_nil] at full
      omega
  | cons b run =>
      exact ⟨.no_white (visible b List.mem_cons_self), .of_full full all, List.cons_ne_nil b run⟩

/-- A few digits are no record: the first number takes them all. -/
theorem ofBytes?_digits {bytes : Bytes} (digits : AtMost 6 Digit bytes) :
    Line.ofBytes? bytes = none := by
  apply Option.eq_none_iff_forall_ne_some.mpr
  intro line read
  obtain ⟨first, last, ⟨white, white₂, filler, white₃, tail, rfl, number, word, -⟩, -⟩ :=
    (ofBytes?_eq_some_iff _ _).mp read
  have behind : first ++ (white₂ ++ (filler ++ (white₃ ++ (last ++ tail)))) <:+
      white ++ (first ++ (white₂ ++ (filler ++ (white₃ ++ (last ++ tail))))) :=
    List.suffix_append _ _
  have longest := number.taken.longest _ List.prefix_rfl
    ⟨behind.length_le.trans digits.1, fun b member => digits.2 b (behind.subset member)⟩
  have nothing : filler = [] := by
    apply List.eq_nil_of_length_eq_zero
    simp only [List.length_append] at longest
    omega
  exact word.some_bytes nothing

end BulkStream.Integrity

namespace BulkStream.Peripheral

open Integrity

theorem digitBytes_digits (width n : Nat) : ∀ b ∈ digitBytes width n, Digit b := by
  induction width generalizing n with
  | zero => simp [digitBytes]
  | succ width ih =>
      intro b member
      rcases List.mem_append.mp member with front | last
      · exact ih (n / 10) b front
      · have digit : n % 10 < 10 := Nat.mod_lt n (by decide)
        rw [List.mem_singleton.mp last]
        simp [Digit]
        omega

theorem decimalValue_digitBytes (width n : Nat) :
    decimalValue (digitBytes width n) = n % 10 ^ width := by
  induction width generalizing n with
  | zero => simp [digitBytes, decimalValue, Nat.mod_one]
  | succ width ih =>
      have front := ih (n / 10)
      rw [decimalValue] at front
      rw [digitBytes, decimalValue, List.foldl_append, front, Nat.pow_succ', Nat.mod_mul]
      simp
      omega

theorem numeral_digitBytes {n : Nat} (h : n < 10 ^ 6) : numeral (digitBytes 6 n) = n := by
  rw [← decimalValue_eq_numeral, decimalValue_digitBytes, Nat.mod_eq_of_lt h]

/-- A number with all its digits needs no white space before it, and ends where they end. -/
theorem fieldAt_digitBytes (n : Nat) (rest : Bytes) :
    FieldAt (AtMost 6 Digit) [] (digitBytes 6 n) rest :=
  .of_full (length_digitBytes 6 n) (by decide) (digitBytes_digits 6 n)
    fun b member => (digitBytes_digits 6 n b member).not_white

/-- Numbers with all their digits around a filler of full width need no white space between them. -/
theorem ofBytes?_digitBytes {start ended : Nat} (filler tail : Bytes)
    (low : start < 10 ^ 6) (high : ended < 10 ^ 6) (wide : filler.length = 94)
    (word : ∀ b ∈ filler, ¬White b) :
    Line.ofBytes? (digitBytes 6 start ++ (filler ++ (digitBytes 6 ended ++ tail))) =
      some ⟨start, ended⟩ := by
  rw [ofBytes?_eq_some_iff]
  refine ⟨digitBytes 6 start, digitBytes 6 ended, ⟨[], [], filler, [], tail, rfl,
    fieldAt_digitBytes start _, ?_, fieldAt_digitBytes ended tail⟩, ?_⟩
  · exact .of_full wide (by decide) word word
  · rw [numeral_digitBytes low, numeral_digitBytes high]

/-- Whatever follows a number with all its digits, what is read starts with that number. -/
theorem start_of_digitBytes {start : Nat} (low : start < 10 ^ 6) {tail : Bytes} {line : Line}
    (read : Line.ofBytes? (digitBytes 6 start ++ tail) = some line) : line.start = start := by
  have first : field? numberWidth isDigit (digitBytes 6 start ++ tail) =
      some (digitBytes 6 start, tail) := by
    rw [field?_eq_some_iff numberWidth isDigit_iff]
    exact ⟨[], rfl, fieldAt_digitBytes start tail⟩
  simp only [Line.ofBytes?, first, Option.bind_eq_bind, Option.bind_some, Option.bind_eq_some_iff,
    Option.pure_def, Option.some.injEq] at read
  obtain ⟨_, -, _, -, rfl⟩ := read
  rw [decimalValue_digitBytes, Nat.mod_eq_of_lt low]

/-- A line is read just where it is a record, and what is read are the numbers that it writes; on the
way no value goes past 32 bits. Two numbers with leading zeros around 94 bytes that are not white come
back as they were written, whatever follows them. -/
theorem line_read_iff_record (bytes : Bytes) :
    (∀ line, Line.ofBytes? bytes = some line ↔
      ∃ first last, IsRecord bytes first last ∧ line = ⟨numeral first, numeral last⟩) ∧
    (∀ first last, IsRecord bytes first last → ∀ front, front <+: first ∨ front <+: last →
      decimalValue front < 2 ^ 32) ∧
    ∀ (start ended : Nat) (filler tail : Bytes), start < 10 ^ 6 → ended < 10 ^ 6 →
      filler.length = 94 → (∀ b ∈ filler, ¬White b) →
      bytes = digitBytes 6 start ++ (filler ++ (digitBytes 6 ended ++ tail)) →
      Line.ofBytes? bytes = some ⟨start, ended⟩ := by
  have within {digits front : Bytes} (number : AtMost 6 Digit digits) (before : front <+: digits) :
      decimalValue front < 2 ^ 32 := by
    rw [decimalValue_eq_numeral]
    exact (numeral_lt (number.front before)).trans (by decide)
  refine ⟨ofBytes?_eq_some_iff bytes, ?_, ?_⟩
  · rintro first last ⟨_, _, _, _, _, -, number₁, -, number₂⟩ front before
    rcases before with before | before
    · exact within number₁.taken.ofKind before
    · exact within number₂.taken.ofKind before
  · rintro start ended filler tail low high wide word rfl
    exact ofBytes?_digitBytes filler tail low high wide word

/-- Digits everywhere: only their widths keep the parts of this line apart. -/
theorem digits_around_digits_read :
    Line.ofBytes? (digitBytes 6 999999 ++
        (List.replicate 94 0x37 ++ (digitBytes 6 8 ++ [0x35, 0x36]))) = some ⟨999999, 8⟩ := by
  have sevens : ∀ b ∈ List.replicate 94 (0x37 : UInt8), ¬White b := by
    intro b member
    rw [List.eq_of_mem_replicate member]
    exact Digit.not_white ⟨by decide, by decide⟩
  exact (line_read_iff_record _).2.2 999999 8 (List.replicate 94 0x37) [0x35, 0x36] (by decide)
    (by decide) List.length_replicate sevens rfl

end BulkStream.Peripheral
