import BulkStream.Fault

/-!
Answers that may be faults. A session can meet one fault only, a byte count past 64 bits; an answer
meets a property if it has it or is that fault, and then there were too many bytes.
-/
namespace BulkStream

variable {α β : Type} {excess : Prop}

/-- The answer has a property, or a count passed 64 bits and there is an excess of bytes. -/
def Meets (excess : Prop) (P : α → Prop) : Except Fault α → Prop
  | .ok a => P a
  | .error fault => fault = .countOverflow ∧ excess

namespace Meets

theorem ok {P : α → Prop} {a : α} (h : P a) : Meets excess P (.ok a) := h

theorem mono {P Q : α → Prop} {x : Except Fault α} (h : Meets excess P x)
    (imp : ∀ a, P a → Q a) : Meets excess Q x := by
  cases x with
  | ok a => exact imp a h
  | error fault => exact h

theorem widen {more : Prop} {P : α → Prop} {x : Except Fault α} (h : Meets excess P x)
    (imp : excess → more) : Meets more P x := by
  cases x with
  | ok a => exact h
  | error fault => exact h.imp_right imp

/-- Where there can be no excess there is an answer. -/
theorem answer {P : α → Prop} {x : Except Fault α} (h : Meets False P x) :
    ∃ a, x = .ok a ∧ P a := by
  cases x with
  | ok a => exact ⟨a, rfl, h⟩
  | error fault => exact h.2.elim

theorem bind {P : α → Prop} {Q : β → Prop} {x : Except Fault α} {next : α → Except Fault β}
    (h : Meets excess P x) (rest : ∀ a, x = .ok a → P a → Meets excess Q (next a)) :
    Meets excess Q (x >>= next) := by
  cases x with
  | ok a => exact rest a rfl h
  | error fault => exact h

theorem bind_ok {Q : β → Prop} {x : Except Fault α} {a : α} {next : α → Except Fault β}
    (answer : x = .ok a) (h : Meets excess Q (next a)) : Meets excess Q (x >>= next) := by
  rw [answer]
  exact h

end Meets

theorem addCount_meets (a b : Nat) :
    Meets (countLimit ≤ a + b) (fun sum => sum = a + b ∧ sum < countLimit) (addCount a b) := by
  rw [addCount]
  split
  · rename_i within
    exact ⟨rfl, within⟩
  · rename_i beyond
    exact ⟨rfl, Nat.le_of_not_lt beyond⟩

end BulkStream
