import BulkStream.Integrity.Checker
import BulkStream.Storage.Error

/-!
Replay of a dump through a checker. A reader is seen through the answers to its successive reads: some
bytes, none at the end of the file, or an error. The bytes may come in pieces of any size.
-/
namespace BulkStream.Integrity

/-- Most bytes asked for by one read. -/
def replayBlock : Nat := 65536

abbrev ReadAnswer := Except DiskError Bytes

/-- Feed what is read until the end of the file. A read that was interrupted is repeated; any other
error ends the replay where it stands. -/
def replayTo (c : Checker) : List ReadAnswer → Option DiskError × Checker
  | [] | .ok [] :: _ => (none, c.finish)
  | .ok bytes :: answers => replayTo (c.feed bytes) answers
  | .error .interrupted :: answers => replayTo c answers
  | .error error :: _ => (some error, c)

/-- The report on all that is read, or the error that cut the replay short. -/
def replay (c : Checker) (answers : List ReadAnswer) : Except DiskError Report :=
  match replayTo c answers with
  | (none, c) => .ok c.report
  | (some error, _) => .error error

def checkDump (format : RecordFormat) (answers : List ReadAnswer) :
    Except Fault (Except DiskError Report) := do
  let checker ← Checker.ofFormat format
  return replay checker answers

/-- The answers to whole-block reads of some data, up to its end. -/
def blockReads (data : Bytes) : List ReadAnswer := (blocks replayBlock data).map .ok

/-- What a reader may do on one read: give at most so many bytes, or fail. -/
inductive ReadStep
  | atMost (count : Nat)
  | fail (error : DiskError)
deriving DecidableEq, Repr

/-- The answers of a reader that follows a script, and then gives whole blocks. -/
def scriptedReads : List ReadStep → Bytes → List ReadAnswer
  | [], data => blockReads data
  | .atMost count :: steps, data =>
      let count := min count replayBlock
      .ok (data.take count) :: scriptedReads steps (data.drop count)
  | .fail error :: steps, data => .error error :: scriptedReads steps data

end BulkStream.Integrity
