import BulkStream.Proofs.Examination
import BulkStream.Proofs.Replays

/-!
The calls of a checker, in any order. The first `finish` settles what is held and the later ones do
nothing, while a chunk may be fed at any time. So what a checker has examined, and what it holds,
can be read off the calls.
-/
namespace BulkStream.Integrity

/-- What may be asked of a checker. -/
inductive Call
  | feed (chunk : Bytes)
  | finish
deriving DecidableEq, Repr

/-- The bytes that calls feed. -/
def fed (calls : List Call) : Bytes :=
  calls.flatMap fun
    | .feed chunk => chunk
    | .finish => []

/-- The bytes fed before the first `finish`. -/
def opening (calls : List Call) : Bytes := fed (calls.takeWhile (· ≠ .finish))

/-- The bytes fed after the first `finish`. -/
def sequel (calls : List Call) : Bytes := fed (calls.dropWhile (· ≠ .finish))

/-- The bytes fed since the first `finish`, or since the start if there was none. -/
def segment (calls : List Call) : Bytes :=
  if .finish ∈ calls then sequel calls else opening calls

/-- The records examined by some calls. The first `finish` makes a record of what is left over, and
what is fed after it begins with a record. -/
def examined (pattern : RecordFormat) (calls : List Call) : List Bytes :=
  wholeRecords pattern (opening calls) ++
    (if .finish ∈ calls then lastRecord pattern (remainder pattern (opening calls)) else []) ++
    wholeRecords pattern (sequel calls)

/-- Before the first `finish` everything belongs to the opening. -/
theorem opening_of_notMem {calls : List Call} (going : .finish ∉ calls) :
    opening calls = fed calls ∧ sequel calls = [] := by
  have feeds : ∀ call ∈ calls, decide (call ≠ .finish) = true := by
    intro call member
    simpa using ne_of_mem_of_not_mem member going
  refine ⟨?_, ?_⟩
  · rw [opening, List.takeWhile_eq_self_iff.mpr feeds]
  · rw [sequel, List.dropWhile_eq_nil_iff.mpr feeds]
    rfl

theorem opening_append_finish {before : List Call} (going : .finish ∉ before) (after : List Call) :
    opening (before ++ .finish :: after) = fed before ∧
      sequel (before ++ .finish :: after) = fed after := by
  have feeds : ∀ call ∈ before, decide (call ≠ .finish) = true := by
    intro call member
    simpa using ne_of_mem_of_not_mem member going
  refine ⟨?_, ?_⟩
  · rw [opening, List.takeWhile_append_of_pos feeds]
    simp
  · rw [sequel, List.dropWhile_append_of_pos feeds]
    simp [fed]

namespace Checker

def perform (c : Checker) : Call → Checker
  | .feed chunk => c.feed chunk
  | .finish => c.finish

def after (c : Checker) (calls : List Call) : Checker := calls.foldl perform c

/-- What the checker has examined, what it holds, and whether it has been finished. -/
def Examined (pattern : RecordFormat) (c : Checker) (records : List Bytes) (rest : Bytes)
    (ended : Bool) : Prop :=
  match pattern, c with
  | .binary f, .binary c => c.Examined f records rest ended
  | .text, .text c => c.Examined records rest ended
  | _, _ => False

namespace Examined

variable {pattern : RecordFormat} {c : Checker} {records : List Bytes} {rest : Bytes} {ended : Bool}

theorem reported (h : Examined pattern c records rest ended) :
    c.report = .tally records.length (anomalies pattern records) := by
  cases pattern <;> cases c
  · exact BinaryChecker.Examined.reported h
  · exact h.elim
  · exact h.elim
  · exact TextChecker.Examined.reported h

theorem part (h : Examined pattern c records rest ended) : IsPart pattern rest := by
  cases pattern <;> cases c
  · exact BinaryChecker.Examined.part h
  · exact h.elim
  · exact h.elim
  · exact TextChecker.Examined.part h

theorem start (made : ofFormat pattern = .ok c) :
    pattern.IsValid ∧ Examined pattern c [] [] false := by
  cases pattern with
  | text =>
      cases made
      exact ⟨trivial, TextChecker.Examined.start⟩
  | binary f =>
      cases new : BinaryChecker.ofFormat f with
      | error fault => simp [ofFormat, new] at made
      | ok checker =>
          obtain rfl : .binary checker = c := by simpa [ofFormat, new] using made
          have valid := BinaryChecker.ofFormat_valid new
          obtain ⟨rfl, -⟩ := BinaryChecker.ofFormat_ok new
          exact ⟨valid, BinaryChecker.Examined.start valid⟩

theorem feed (h : Examined pattern c records rest ended) (valid : pattern.IsValid) (chunk : Bytes) :
    Examined pattern (c.feed chunk) (records ++ wholeRecords pattern (rest ++ chunk))
      (remainder pattern (rest ++ chunk)) ended := by
  cases pattern <;> cases c
  · exact BinaryChecker.Examined.feed h valid chunk
  · exact h.elim
  · exact h.elim
  · exact TextChecker.Examined.feed h chunk

theorem finish (h : Examined pattern c records rest false) (valid : pattern.IsValid) :
    Examined pattern c.finish (records ++ lastRecord pattern rest) [] true := by
  cases pattern <;> cases c
  · exact BinaryChecker.Examined.finish h valid
  · exact h.elim
  · exact h.elim
  · exact TextChecker.Examined.finish h

/-- Only the first call of `finish` does something. -/
theorem finish_ended (h : Examined pattern c records rest true) : c.finish = c := by
  cases pattern <;> cases c
  · exact congrArg binary (if_pos (BinaryChecker.Examined.finished h))
  · exact h.elim
  · exact h.elim
  · exact congrArg text (if_pos (TextChecker.Examined.finished h))

/-- Calls that feed one after another, with no `finish` among them that does something. -/
theorem feeds (h : Examined pattern c records rest ended) (valid : pattern.IsValid)
    (calls : List Call) (idle : .finish ∈ calls → ended = true) :
    Examined pattern (c.after calls) (records ++ wholeRecords pattern (rest ++ fed calls))
      (remainder pattern (rest ++ fed calls)) ended := by
  induction calls generalizing c records rest with
  | nil => simpa [fed, after, wholeRecords_part h.part, remainder_part h.part] using h
  | cons call calls ih =>
      have later : .finish ∈ calls → ended = true := fun member => idle (.tail _ member)
      cases call with
      | feed chunk =>
          have onward := ih (h.feed valid chunk) later
          rw [List.append_assoc, ← wholeRecords_append valid, ← remainder_append valid] at onward
          simpa [fed, after, perform, List.append_assoc] using onward
      | finish =>
          obtain rfl : ended = true := idle (.head _)
          have onward := ih h later
          simpa [fed, after, perform, h.finish_ended] using onward

/-- One call examines some more records, and none are forgotten. -/
theorem perform (h : Examined pattern c records rest ended) (valid : pattern.IsValid)
    (call : Call) :
    ∃ more rest' ended', Examined pattern (c.perform call) (records ++ more) rest' ended' ∧
      (call = .finish → more.length ≤ 1) := by
  cases call with
  | feed chunk => exact ⟨_, _, _, h.feed valid chunk, nofun⟩
  | finish =>
      cases ended with
      | false => exact ⟨_, _, _, h.finish valid, fun _ => length_lastRecord_le pattern rest⟩
      | true =>
          refine ⟨[], rest, true, ?_, fun _ => Nat.zero_le 1⟩
          rw [Checker.perform, h.finish_ended, List.append_nil]
          exact h

/-- After any calls a new checker has examined the records that the calls tell. -/
theorem history (made : ofFormat pattern = .ok c) (calls : List Call) :
    Examined pattern (c.after calls) (examined pattern calls)
      (remainder pattern (segment calls)) (decide (.finish ∈ calls)) := by
  obtain ⟨valid, new⟩ := start made
  by_cases finished : .finish ∈ calls
  · obtain ⟨before, rest, rfl, going⟩ := List.eq_append_cons_of_mem finished
    obtain ⟨opened, followed⟩ := opening_append_finish going rest
    have first := new.feeds valid before fun impossible => absurd impossible going
    have onward := (first.finish valid).feeds valid rest fun _ => rfl
    simpa [Checker.after, Checker.perform, examined, segment, opened, followed] using onward
  · obtain ⟨opened, followed⟩ := opening_of_notMem finished
    have onward := new.feeds valid calls fun impossible => absurd impossible finished
    have nothing := wholeRecords_part (isPart_nil valid)
    simpa [examined, segment, finished, opened, followed, nothing] using onward

end Examined

end Checker

end BulkStream.Integrity
