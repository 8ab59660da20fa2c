/-!
Queues: elements leave in the order in which they came. The latest are kept apart in reverse, so that
neither end is far away; `toList` tells all of them from the oldest to the latest.
-/
namespace BulkStream

structure Queue (α : Type) where
  oldest : List α := []
  /-- The latest first. -/
  latest : List α := []
deriving DecidableEq, Repr

namespace Queue

variable {α : Type}

def empty : Queue α := {}

def toList (q : Queue α) : List α := q.oldest ++ q.latest.reverse

def length (q : Queue α) : Nat := q.oldest.length + q.latest.length

def push (q : Queue α) (a : α) : Queue α := { q with latest := a :: q.latest }

/-- The oldest element, and the queue without it. -/
def pop? (q : Queue α) : Option (α × Queue α) :=
  match q.oldest with
  | a :: oldest => some (a, { q with oldest })
  | [] =>
      match q.latest.reverse with
      | [] => none
      | a :: oldest => some (a, { oldest })

@[simp] theorem toList_empty : (empty : Queue α).toList = [] := rfl

@[simp] theorem length_toList (q : Queue α) : q.toList.length = q.length := by
  simp [toList, length]

@[simp] theorem toList_push (q : Queue α) (a : α) : (q.push a).toList = q.toList ++ [a] := by
  simp [push, toList]

theorem toList_of_pop? {q rest : Queue α} {a : α} (h : q.pop? = some (a, rest)) :
    q.toList = a :: rest.toList := by
  simp only [pop?] at h
  split at h
  · rename_i oldest h'
    cases h
    simp only [toList, h', List.cons_append]
  · rename_i h'
    split at h
    · contradiction
    · rename_i oldest h''
      cases h
      simp only [toList, h', h'', List.nil_append, List.reverse_nil, List.append_nil]

end Queue

end BulkStream
