import BulkStream.Session.Assembly

/-!
A clock and a stop flag that follow a plan: the clock moves on at each reading and at each wait, and
the flag is raised at set waits.
-/
namespace BulkStream.Rehearsal

open Session

/-- What a wait does to the clock and the flag as it begins. -/
structure Signal where
  advance : Nat := 0
  stop : Bool := false
deriving DecidableEq, Repr

structure Timeline where
  clock : Nat := 0
  /-- Nanoseconds by which each reading moves the clock. -/
  tick : Nat := 0
  /-- Nanoseconds by which each wait moves the clock. -/
  perWait : Nat := 0
  /-- Ordinal of the wait that raises the flag. -/
  stopAtWait : Option Nat := none
  stopRequested : Bool := false
  waits : Nat := 0
  /-- Signals of the waits to come; those past the end have none. -/
  signals : List Signal := []
deriving DecidableEq, Repr

namespace Timeline

def atWait (t : Timeline) : Timeline :=
  let signal := t.signals.headD {}
  { t with
    clock := t.clock + t.perWait + signal.advance
    stopRequested := t.stopRequested || t.stopAtWait == some t.waits || signal.stop
    waits := t.waits + 1
    signals := t.signals.tail }

def outside : Outside Timeline where
  meanwhile
    | .wait, t => t.atWait
    | _, t => t
  now t := (t.clock, { t with clock := t.clock + t.tick })
  stopRequested t := t.stopRequested

end Timeline

end BulkStream.Rehearsal
