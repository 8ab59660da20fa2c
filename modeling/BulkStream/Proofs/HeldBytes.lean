import BulkStream.Proofs.CheckerHistories

/-!
What a checker holds between two calls. It depends on the bytes of the segment alone: those behind
the last whole record, whatever chunks they came in. A line in progress that has grown too long is
only measured. So what is held stays small, however long the stream or a line of it is.
-/
namespace BulkStream.Integrity

/-- Bytes that a checker of the format holds at most. -/
def holdLimit : RecordFormat → Nat
  | .binary f => f.recordSize - 1
  | .text => 4096

namespace Checker

def held : Checker → Bytes
  | .binary c => c.held.toList
  | .text c => c.line.held.toList

/-- The checker holds what a segment leaves over. -/
def Holds (pattern : RecordFormat) (c : Checker) (bytes : Bytes) : Prop :=
  match pattern, c with
  | .binary f, .binary c =>
      c.held.toList = bytes.rtake (bytes.length % f.recordSize) ∧ c.held.size < f.recordSize
  | .text, .text c =>
      let tail := bytes.rtakeWhile (· ≠ newline)
      c.line.length = tail.length ∧ c.line.held.toList = if tail.length ≤ 4096 then tail else []
  | _, _ => False

variable {pattern : RecordFormat} {c : Checker}

theorem Holds.length_le {bytes : Bytes} (h : c.Holds pattern bytes) :
    c.held.length ≤ holdLimit pattern := by
  cases pattern <;> cases c
  · exact Nat.le_sub_one_of_lt h.2
  · exact h.elim
  · exact h.elim
  · rw [held, h.2, holdLimit]
    split
    · assumption
    · exact Nat.zero_le _

theorem Examined.keeps {records : List Bytes} {bytes : Bytes} {ended : Bool}
    (h : Examined pattern c records (remainder pattern bytes) ended) : c.Holds pattern bytes := by
  have part := h.part
  cases pattern <;> cases c
  · have holds := BinaryChecker.Examined.holds h
    exact ⟨congrArg Array.toList holds, (congrArg Array.size holds).trans_lt part⟩
  · exact h.elim
  · exact h.elim
  · have line := TextChecker.Examined.holds h
    simp only [OpenLine.extend, Nat.zero_add, lineLimit, remainder] at line
    refine ⟨congrArg OpenLine.length line, ?_⟩
    rw [line]
    dsimp only
    split <;> simp

end Checker

/-- Whatever calls are made of a new checker, it holds the bytes of the segment that stand behind the
last whole record, or behind the last newline as long as they are few enough for a line; of a longer
line it knows the length. So it never holds more than a line may have, or all but one byte of a
record. No `finish` but the first settles anything. -/
theorem held_follows_segment {pattern : RecordFormat} {fresh : Checker}
    (made : Checker.ofFormat pattern = .ok fresh) (calls : List Call) :
    let checker := fresh.after calls
    checker.Holds pattern (segment calls) ∧ checker.held.length ≤ holdLimit pattern ∧
      (.finish ∈ calls → checker.finish = checker) := by
  intro checker
  have history := Checker.Examined.history made calls
  have holds := history.keeps
  refine ⟨holds, holds.length_le, ?_⟩
  intro finished
  rw [decide_eq_true finished] at history
  exact history.finish_ended

/-- A line that begins behind a `finish` and grows one byte too long to be read, with another `finish`
in the middle of it. -/
theorem overlong_line_measured :
    let calls : List Call :=
      [.feed [0x31], .finish, .feed (List.replicate 4096 0x78), .finish, .feed [0x78]]
    ∃ c : TextChecker, (Checker.text {}).after calls = .text c ∧ c.line.length = 4097 ∧
      c.line.held.toList = [] := by
  intro calls
  refine ⟨_, rfl, ?_⟩
  have behind (a b d : Bytes) :
      segment [.feed a, .finish, .feed b, .finish, .feed d] = b ++ d := by
    simp [segment, sequel, fed]
  have bytes : segment calls = List.replicate 4097 0x78 :=
    (behind _ _ _).trans List.replicate_succ'.symm
  have tail : (segment calls).rtakeWhile (· ≠ newline) = List.replicate 4097 0x78 := by
    rw [bytes, List.rtakeWhile_eq_self_iff]
    intro b member
    rw [List.eq_of_mem_replicate member]
    decide
  have made : Checker.ofFormat .text = .ok (.text {}) := rfl
  obtain ⟨length, held⟩ := (held_follows_segment made calls).1
  rw [tail, List.length_replicate] at length held
  exact ⟨length, held⟩

end BulkStream.Integrity
