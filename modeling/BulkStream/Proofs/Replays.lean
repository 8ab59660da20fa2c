import BulkStream.Integrity.Replay
import BulkStream.Proofs.BinaryReference
import BulkStream.Proofs.TextReference

/-!
What a replay gives. Until the end of the file or an error, the bytes read go through the checker as
if they had been read at once. A reader that gives some data in pieces, with interruptions between
them, leads to the report on that data.
-/
namespace BulkStream.Integrity

theorem BinaryChecker.ofFormat_ok {format : BinaryFormat} {c : BinaryChecker}
    (made : ofFormat format = .ok c) : c = { format } ∧ 0 < c.format.recordSize := by
  rw [ofFormat] at made
  split at made
  · cases made
  · rename_i valid
    split at made
    · cases made
    · cases made
      exact ⟨rfl, (not_not.mp valid).positive⟩

theorem BinaryChecker.ofFormat_valid {format : BinaryFormat} {c : BinaryChecker}
    (made : ofFormat format = .ok c) : format.IsValid := by
  by_contra invalid
  rw [ofFormat, if_pos invalid] at made
  cases made

/-- A new checker that is fed goes through the bytes from their beginning. -/
theorem BinaryChecker.feed_new {format : BinaryFormat} {c : BinaryChecker}
    (made : ofFormat format = .ok c) (bytes : Bytes) : c.feed bytes = c.run bytes := by
  obtain ⟨new, positive⟩ := ofFormat_ok made
  have nothing : c.hold [] = c := by rw [new]; rfl
  have few : ([] : Bytes).length < c.format.recordSize := positive
  have fed := c.feed_hold bytes few
  rwa [nothing] at fed

namespace Checker

variable {format : RecordFormat} {fresh : Checker}

theorem ofFormat_ok (made : ofFormat format = .ok fresh) :
    fresh = .text {} ∨
      ∃ format c, BinaryChecker.ofFormat format = .ok c ∧ fresh = .binary c := by
  cases format with
  | text =>
      cases made
      exact .inl rfl
  | binary format =>
      cases h : BinaryChecker.ofFormat format with
      | error fault =>
          rw [ofFormat, h] at made
          cases made
      | ok c =>
          rw [ofFormat, h] at made
          cases made
          exact .inr ⟨format, c, h, rfl⟩

theorem feed_nil (made : ofFormat format = .ok fresh) : fresh.feed [] = fresh := by
  rcases ofFormat_ok made with rfl | ⟨format, c, new, rfl⟩
  · exact congrArg text (TextChecker.feed_open {} List.not_mem_nil)
  · obtain ⟨start, positive⟩ := BinaryChecker.ofFormat_ok new
    have few : ([] : Bytes).length < c.format.recordSize := positive
    refine congrArg binary ?_
    rw [BinaryChecker.feed_new new, c.run_short few, start]
    rfl

/-- Bytes fed one after another to a new checker are the same as fed at once. -/
theorem feed_feed (made : ofFormat format = .ok fresh) (a b : Bytes) :
    (fresh.feed a).feed b = fresh.feed (a ++ b) := by
  rcases ofFormat_ok made with rfl | ⟨format, c, new, rfl⟩
  · exact congrArg text (TextChecker.feed_append {} a b).symm
  · obtain ⟨-, positive⟩ := BinaryChecker.ofFormat_ok new
    refine congrArg binary ?_
    rw [BinaryChecker.feed_new new, BinaryChecker.feed_run _ positive c rfl,
      BinaryChecker.feed_new new]

/-- The report on some bytes. -/
def reportOn (fresh : Checker) (bytes : Bytes) : Report := (fresh.feed bytes).finish.report

end Checker

/-- The answer that tells the end of the file. -/
def isEnd : ReadAnswer → Bool
  | .ok bytes => bytes.isEmpty
  | .error _ => false

def beforeEnd (answers : List ReadAnswer) : List ReadAnswer := answers.takeWhile (!isEnd ·)

/-- The error of a read that is not repeated. -/
def failure? : ReadAnswer → Option DiskError
  | .ok _ | .error .interrupted => none
  | .error error => some error

def bytesOf : ReadAnswer → Bytes
  | .ok bytes => bytes
  | .error _ => []

/-- What a replay should come to: before the end of the file, the first error that is no
interruption, or else the report on all bytes. -/
def verdict (report : Bytes → Report) (answers : List ReadAnswer) : Except DiskError Report :=
  match (beforeEnd answers).findSome? failure? with
  | some error => .error error
  | none => .ok (report ((beforeEnd answers).flatMap bytesOf))

section

variable (report : Bytes → Report) (answers : List ReadAnswer)

theorem verdict_end : verdict report (.ok [] :: answers) = .ok (report []) := rfl

theorem verdict_piece {bytes : Bytes} (some_bytes : bytes ≠ []) :
    verdict report (.ok bytes :: answers) =
      verdict (fun later => report (bytes ++ later)) answers := by
  have goes_on : beforeEnd (.ok bytes :: answers) = .ok bytes :: beforeEnd answers :=
    List.takeWhile_cons_of_pos (by simpa [isEnd] using some_bytes)
  rw [verdict, goes_on]
  rfl

theorem verdict_interrupted :
    verdict report (.error .interrupted :: answers) = verdict report answers := rfl

theorem verdict_error {error : DiskError} (final : error ≠ .interrupted) :
    verdict report (.error error :: answers) = .error error := by
  cases error <;> first | contradiction | rfl

end

section

variable (c : Checker) (answers : List ReadAnswer)

theorem replay_piece {bytes : Bytes} (some_bytes : bytes ≠ []) :
    replay c (.ok bytes :: answers) = replay (c.feed bytes) answers := by
  cases bytes with
  | nil => contradiction
  | cons => rfl

theorem replay_error {error : DiskError} (final : error ≠ .interrupted) :
    replay c (.error error :: answers) = .error error := by
  cases error <;> first | contradiction | rfl

end

theorem replay_eq_verdict {format : RecordFormat} {fresh : Checker}
    (made : Checker.ofFormat format = .ok fresh) (answers : List ReadAnswer) (read : Bytes) :
    replay (fresh.feed read) answers =
      verdict (fun later => fresh.reportOn (read ++ later)) answers := by
  induction answers generalizing read with
  | nil =>
      change Except.ok (fresh.reportOn read) = .ok (fresh.reportOn (read ++ []))
      rw [List.append_nil]
  | cons answer answers ih =>
      cases answer with
      | ok bytes =>
          by_cases ended : bytes = []
          · subst ended
            rw [verdict_end, List.append_nil]
            rfl
          · rw [replay_piece _ _ ended, Checker.feed_feed made, ih, verdict_piece _ _ ended]
            simp only [List.append_assoc]
      | error error =>
          by_cases again : error = .interrupted
          · subst again
            exact ih read
          · rw [replay_error _ _ again, verdict_error _ _ again]

theorem checkDump_eq_verdict {format : RecordFormat} {fresh : Checker}
    (made : Checker.ofFormat format = .ok fresh) (answers : List ReadAnswer) :
    checkDump format answers = .ok (verdict fresh.reportOn answers) := by
  have replayed := replay_eq_verdict made answers []
  rw [Checker.feed_nil made] at replayed
  rw [checkDump, made]
  exact congrArg Except.ok replayed

/-- The answers of a reader that gives all of some data, in pieces of at least one byte and with
interruptions anywhere, and then tells the end. -/
inductive Reading : Bytes → List ReadAnswer → Prop
  | closed : Reading [] []
  | ended (answers : List ReadAnswer) : Reading [] (.ok [] :: answers)
  | piece {data : Bytes} {answers : List ReadAnswer} (bytes : Bytes) (some_bytes : bytes ≠ [])
      (h : Reading data answers) : Reading (bytes ++ data) (.ok bytes :: answers)
  | interrupted {data : Bytes} {answers : List ReadAnswer} (h : Reading data answers) :
      Reading data (.error .interrupted :: answers)

/-- Some bytes, or an interruption. -/
def ReadStep.goesOn : ReadStep → Bool
  | .atMost count => 0 < count
  | .fail error => error = .interrupted

namespace Reading

theorem verdict_eq {data : Bytes} {answers : List ReadAnswer} (h : Reading data answers)
    (report : Bytes → Report) : verdict report answers = .ok (report data) := by
  induction h generalizing report with
  | closed => rfl
  | ended answers => exact verdict_end report answers
  | piece bytes some_bytes _ ih => rw [verdict_piece report _ some_bytes, ih]
  | interrupted _ ih => rw [verdict_interrupted, ih]

theorem blockReads (data : Bytes) : Reading data (blockReads data) := by
  have positive : 0 < replayBlock := by decide
  induction data using block_induction positive with
  | short bytes few =>
      by_cases empty : bytes = []
      · subst empty
        rw [Integrity.blockReads, blocks_nil]
        exact .closed
      · rw [Integrity.blockReads, blocks_short empty (Nat.le_of_lt few)]
        have alone := Reading.piece bytes empty .closed
        rwa [List.append_nil] at alone
  | block block rest whole ih =>
      rw [Integrity.blockReads, blocks_cons block rest positive whole]
      refine .piece block ?_ ih
      rintro rfl
      cases whole

/-- A reader that follows a script of short reads and interruptions gives all data. -/
theorem scriptedReads {steps : List ReadStep} (data : Bytes)
    (short : ∀ step ∈ steps, step.goesOn = true) : Reading data (scriptedReads steps data) := by
  induction steps generalizing data with
  | nil => exact blockReads data
  | cons step steps ih =>
      have later (data : Bytes) := ih data fun step member => short step (.tail _ member)
      have goes_on := short step (.head _)
      cases step with
      | fail error =>
          cases (of_decide_eq_true goes_on : error = .interrupted)
          exact .interrupted (later data)
      | atMost count =>
          have positive : 0 < count := of_decide_eq_true goes_on
          by_cases empty : data = []
          · subst empty
            rw [Integrity.scriptedReads, List.take_nil]
            exact .ended _
          · have some_bytes : data.take (min count replayBlock) ≠ [] := by
              have room : 0 < replayBlock := by decide
              rw [Ne, List.take_eq_nil_iff, not_or]
              exact ⟨by omega, empty⟩
            have read := Reading.piece _ some_bytes (later (data.drop (min count replayBlock)))
            rwa [List.take_append_drop] at read

end Reading

end BulkStream.Integrity
