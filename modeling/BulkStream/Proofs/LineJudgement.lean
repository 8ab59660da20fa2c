import BulkStream.Proofs.TextReference

/-!
The judgement of a line. A line is either no record, which shows by itself, or it has two numbers;
what came before it is only asked whether the first of them was expected. So lines that are judged
one after another pass on nothing but the number that the last of them ends with.
-/
namespace BulkStream.Integrity

/-- What a first number shows against the one that was expected. -/
def skipOf (expected : Option Nat) (start : Nat) : List Anomaly :=
  match expected with
  | none => []
  | some number => if start = number then [] else [.skip number start]

/-- What the two numbers of a line show against each other. -/
def mismatchOf (start ended : Nat) : List Anomaly :=
  if ended = nextNumber start then [] else [.mismatch start ended (nextNumber start)]

theorem length_skipOf_le (expected : Option Nat) (start : Nat) :
    (skipOf expected start).length ≤ 1 := by
  cases expected with
  | none => simp [skipOf]
  | some number => simp only [skipOf]; split <;> simp

theorem length_mismatchOf_le (start ended : Nat) : (mismatchOf start ended).length ≤ 1 := by
  rw [mismatchOf]; split <;> simp

theorem judgeLine_record {line : Bytes} {start ended : Nat} (short : line.length ≤ 4096)
    (read : Line.ofBytes? (stripReturn line) = some ⟨start, ended⟩) (expected : Option Nat)
    (ordinal : Nat) :
    judgeLine expected ordinal line =
      (skipOf expected start ++ mismatchOf start ended, some ended) := by
  simp only [judgeLine, Nat.not_lt.mpr short, if_false, read]
  rfl

/-- A line is judged as no record whatever came before it, or else by the two numbers read from it.
-/
theorem judgeLine_cases (line : Bytes) :
    (∃ length, ∀ expected ordinal,
      judgeLine expected ordinal line = ([.malformed ordinal length], none)) ∨
    ∃ start ended, Line.ofBytes? (stripReturn line) = some ⟨start, ended⟩ ∧
      ∀ expected ordinal,
        judgeLine expected ordinal line =
          (skipOf expected start ++ mismatchOf start ended, some ended) := by
  by_cases long : 4096 < line.length
  · exact .inl ⟨line.length, fun expected ordinal => by simp only [judgeLine, long, if_true]⟩
  · cases read : Line.ofBytes? (stripReturn line) with
    | none =>
        refine .inl ⟨(stripReturn line).length, fun expected ordinal => ?_⟩
        simp only [judgeLine, long, if_false, read]
    | some record =>
        have judged := judgeLine_record (Nat.le_of_not_lt long) read
        exact .inr ⟨record.start, record.ended, rfl, judged⟩

/-- The number that a line ends with, which the next one should start with. -/
def endOf? (line : Bytes) : Option Nat := (judgeLine none 0 line).2

/-- What should start the line after the given ones. -/
def expectedAfter (expected : Option Nat) (lines : List Bytes) : Option Nat :=
  lines.foldl (fun _ line => endOf? line) expected

/-- What the next line should start with depends on the line before it alone. -/
theorem judgeLine_snd (expected : Option Nat) (ordinal : Nat) (line : Bytes) :
    (judgeLine expected ordinal line).2 = endOf? line := by
  rcases judgeLine_cases line with ⟨length, judged⟩ | ⟨start, ended, -, judged⟩
  · simp [endOf?, judged]
  · simp [endOf?, judged]

theorem judgeLines_append (expected : Option Nat) (ordinal : Nat) (front back : List Bytes) :
    judgeLines expected ordinal (front ++ back) =
      judgeLines expected ordinal front ++
        judgeLines (expectedAfter expected front) (ordinal + front.length) back := by
  induction front generalizing expected ordinal with
  | nil => rfl
  | cons line front ih =>
      simp [judgeLines, expectedAfter, ih, judgeLine_snd, Nat.add_assoc, Nat.add_comm 1]

theorem length_judgeLine_le (expected : Option Nat) (ordinal : Nat) (line : Bytes) :
    (judgeLine expected ordinal line).1.length ≤ 2 := by
  rcases judgeLine_cases line with ⟨length, judged⟩ | ⟨start, ended, -, judged⟩
  · simp [judged]
  · have skips := length_skipOf_le expected start
    have mismatches := length_mismatchOf_le start ended
    simp only [judged, List.length_append]
    omega

/-- What came before a line makes a difference of one anomaly at most. -/
theorem length_judgeLine_le_succ (expected other : Option Nat) (ordinal : Nat) (line : Bytes) :
    (judgeLine expected ordinal line).1.length ≤ (judgeLine other ordinal line).1.length + 1 := by
  rcases judgeLine_cases line with ⟨length, judged⟩ | ⟨start, ended, -, judged⟩
  · simp [judged]
  · have skips := length_skipOf_le expected start
    simp only [judged, List.length_append]
    omega

theorem length_judgeLines_le_succ (expected other : Option Nat) (ordinal : Nat)
    (lines : List Bytes) :
    (judgeLines expected ordinal lines).length ≤ (judgeLines other ordinal lines).length + 1 := by
  cases lines with
  | nil => exact Nat.zero_le _
  | cons line lines =>
      have first := length_judgeLine_le_succ expected other ordinal line
      simp only [judgeLines, judgeLine_snd, List.length_append]
      omega

/-- A skip, a mismatch or a line that is no record. -/
def Anomaly.OfLine (a : Anomaly) : Prop := a.isSkip ∨ a.isMismatch ∨ a.isMalformed

theorem judgeLine_ofLine (expected : Option Nat) (ordinal : Nat) (line : Bytes) :
    ∀ a ∈ (judgeLine expected ordinal line).1, a.OfLine := by
  rcases judgeLine_cases line with ⟨length, judged⟩ | ⟨start, ended, -, judged⟩
  · simp [judged, Anomaly.OfLine, Anomaly.isMalformed]
  · intro a member
    rw [judged] at member
    rcases List.mem_append.mp member with skip | mismatch
    · cases expected <;> simp_all [skipOf, Anomaly.OfLine, Anomaly.isSkip]
    · simp_all [mismatchOf, Anomaly.OfLine, Anomaly.isMismatch]

theorem judgeLines_ofLine (expected : Option Nat) (ordinal : Nat) (lines : List Bytes) :
    ∀ a ∈ judgeLines expected ordinal lines, a.OfLine := by
  induction lines generalizing expected ordinal with
  | nil => nofun
  | cons line lines ih =>
      intro a member
      rcases List.mem_append.mp member with here | later
      · exact judgeLine_ofLine expected ordinal line a here
      · exact ih _ _ a later

end BulkStream.Integrity
