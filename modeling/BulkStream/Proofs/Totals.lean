import BulkStream.Proofs.ByteCount
import BulkStream.Proofs.Turns
import BulkStream.Proofs.Verdict

/-!
The totals that a session reads out, in its summary and in the event that tells of its end. Both are
what was counted on the way: the bytes credited, and the successful transfers taken in.
-/
namespace BulkStream.Session

variable {σ : Type} {env : Surroundings σ} {config : Config} {state : State} {world : σ}

/-- The bytes and transfers that a session tells of as it ends. -/
def Action.finished? : Action → Option (Nat × Nat)
  | .log (.finished bytes transfers _) => some (bytes, transfers)
  | _ => none

theorem Action.finished?_of_isPlain {a : Action} (h : a.isPlain = true) : a.finished? = none := by
  cases a with
  | log event =>
      cases event with
      | finished => cases h
      | stateChanged | primed | slotReleased | waitInterrupted | progress | transferFailed | stalled
      | drained | error => rfl
  | setMode | purge | submit | wait | cancelAll | payload | fill | progress => rfl

def Link.finishes (l : Link σ) : List (Nat × Nat) := l.transcript.filterMap Action.finished?

theorem Link.Course.finishes_eq {l m : Link σ} {actions : List Action}
    (h : l.Course env actions m) :
    m.finishes = l.finishes ++ actions.filterMap Action.finished? := by
  rw [Link.finishes, h.transcript_eq, List.filterMap_append, Link.finishes]

theorem finished?_plain {actions : List Action} (plain : actions.all Action.isPlain = true) :
    actions.filterMap Action.finished? = [] :=
  List.filterMap_eq_nil_iff.mpr fun a member =>
    Action.finished?_of_isPlain (List.all_eq_true.mp plain a member)

namespace Run

variable {run next : Run σ} {bytes transfers : Nat}

/-- Served slots say nothing of totals. -/
theorem Turn.finishes {actions : List Action} (h : Turn run next actions)
    (going : ∀ collected s, run ≠ .active (.settling collected) s) :
    actions.filterMap Action.finished? = [] := by
  have asked {slot : Nat} {flow : Flow} {said : List Action} (served : Served slot flow said) :
      said.filterMap Action.finished? = [] := by
    induction served with
    | unasked | withheld | stopped | filled => rfl
    | passed span _ ih => exact ih
  cases h with
  | plain plain => exact finished?_plain plain
  | submitted slot request result serving live served own plain =>
      rw [List.filterMap_append, asked served, List.filterMap_cons_none rfl, finished?_plain plain]
      rfl
  | stopped slot serving live served released plain =>
      rw [List.filterMap_append, asked served, finished?_plain plain]
      rfl
  | sampled => rfl
  | finished collected s before after milliseconds settling plain =>
      exact absurd settling (going collected s)

/-- The totals of a run: while it goes on, as counted so far, and then as read out. A session that
could not be set up tells none. -/
def Reports (bytes transfers : Nat) : Run σ → Prop
  | .active _ s => s.tracker.snapshot.bytes = bytes ∧ s.transfers = transfers ∧ s.link.finishes = []
  | .ended (.ok summary) l =>
      summary.bytes = bytes ∧ summary.transfers = transfers ∧ l.finishes = [(bytes, transfers)]
  | .ended (.error _) l => ∀ told ∈ l.finishes, told = (bytes, transfers)

theorem CountIs.bytes_eq {phase : Phase} {s : Stream σ} {total : Nat}
    (h : (active phase s).CountIs total) : s.tracker.snapshot.bytes = total := by
  cases phase with
  | priming index => exact h.1
  | cycling | handling | closing | draining | collecting | settling => exact h

theorem Reports.of_silent {error : StreamError} {l : Link σ} (nothing : l.finishes = []) :
    (ended (.error error) l).Reports bytes transfers := by
  intro told member
  rw [nothing] at member
  cases member

theorem Reports.started (h : Started env config state world run) : run.Reports 0 0 := by
  obtain ⟨actions, course, plain⟩ := h.course
  have nothing : run.link.finishes = [] := by
    rw [course.finishes_eq, finished?_plain plain]
    rfl
  cases h with
  | opened => exact ⟨rfl, rfl, nothing⟩
  | unset | unpurged | narrow | unallocated => exact .of_silent nothing

theorem Reports.finished {collected : Nat} {s : Stream σ}
    (h : (active (.settling collected) s).Reports bytes transfers) :
    (finish env (abandoned env collected s)).Reports bytes transfers := by
  obtain ⟨rfl, rfl, nothing⟩ := h
  obtain ⟨before, after, milliseconds, course, plain⟩ := finish_course env collected s
  have told : (finish env (abandoned env collected s)).link.finishes =
      [(s.tracker.snapshot.bytes, s.transfers)] := by
    rw [List.all_append, Bool.and_eq_true] at plain
    rw [course.finishes_eq, nothing, List.filterMap_append, finished?_plain plain.1]
    exact congrArg (_ :: ·) (finished?_plain plain.2)
  obtain ⟨l, finished, -⟩ := finish_read_out env (abandoned env collected s)
  rw [finished] at told ⊢
  cases outcome (abandoned env collected s).fatal (stopAtEnd env (abandoned env collected s)) with
  | ok termination => exact ⟨rfl, rfl, told⟩
  | error error =>
      intro pair member
      rw [show Link.finishes l = _ from told] at member
      exact List.mem_singleton.mp member

theorem Reports.stepped (h : run.Reports bytes transfers) (counted : run.CountIs bytes)
    (stepped : Stepped env config run next) :
    next.Reports (bytes + run.credits env) (transfers + run.accepts.toNat) := by
  have counts : next.CountIs (bytes + run.credits env) := counted.stepped stepped
  have told (going : ∀ collected s, run ≠ .active (.settling collected) s) :
      next.link.finishes = run.link.finishes := by
    obtain ⟨actions, course, turn⟩ := stepped.turn
    rw [course.finishes_eq, turn.finishes going, List.append_nil]
  cases stepped with
  | ended result l => exact h
  | settled collected s => exact h.finished
  | handled c completions s t handled =>
      refine ⟨counts.bytes_eq, ?_, (told fun _ _ other => nomatch other).trans h.2.2⟩
      rw [handled.transfers_eq, h.2.1]
      rfl
  | concluded s again t concluded =>
      have same : t.transfers = s.transfers := by
        cases concluded with
        | finished | stalled => rfl
        | again running busy t sampled beside => exact beside.transfers
      exact ⟨counts.bytes_eq, same.trans h.2.1, (told fun _ _ other => nomatch other).trans h.2.2⟩
  | queued | refused | spared | denied | entered | gathered | emptied | cancelled | cleared | waited
  | collected | ignored | emptyHanded =>
      exact ⟨counts.bytes_eq, h.2.1, (told fun _ _ other => nomatch other).trans h.2.2⟩

/-- The totals of a run are the bytes that it credited and the transfers that it took in. -/
theorem reports_at {n : Nat}
    (come : advance env config n (start env config state world) = .ok run) :
    run.Reports (credited env config n (start env config state world))
        (acceptances env config n (start env config state world)) ∧
      run.CountIs (credited env config n (start env config state world)) := by
  refine holds_at (fun run started => ⟨.started started, .started started⟩) ?_ come
  rintro n last next before stepped ⟨reports, counted⟩
  rw [credited_succ before, acceptances_succ before]
  exact ⟨reports.stepped counted stepped, counted.stepped stepped⟩

/-- What a session that ended well read out, and its link by then. -/
def summary? : Run σ → Option (Summary × Link σ)
  | .ended (.ok summary) l => some (summary, l)
  | _ => none

theorem ended_of_summary? {α : Type} (read : Summary × Link σ → α) {x : Except Fault (Run σ)}
    {a : α} (h : (x.toOption.bind summary?).map read = some a) :
    ∃ summary l, x = .ok (.ended (.ok summary) l) ∧ read (summary, l) = a := by
  cases x with
  | error fault => cases h
  | ok run =>
      cases run with
      | active phase s => cases h
      | ended result l =>
          cases result with
          | error error => cases h
          | ok summary => exact ⟨summary, l, rfl, Option.some.inj h⟩

/-- A session that goes on has a packet size and a pool with some property. -/
def Equipped (P : Nat → Pool → Prop) : Run σ → Prop
  | .active _ s => P s.packetSize s.pool
  | .ended _ _ => True

/-- What outlives every slot that is put in flight or released lasts from step to step. -/
theorem Equipped.stepped {P : Nat → Pool → Prop} (h : run.Equipped P)
    (put : ∀ size pool index slot, slot = .inFlight ∨ slot = .released → P size pool →
      P size (pool.put index slot))
    (idle : ∀ size pool, P size pool → P size (pool.mapSlots Pool.ifInFlight))
    (stepped : Stepped env config run next) : next.Equipped P := by
  cases stepped with
  | queued => exact put _ _ _ _ (.inl rfl) h
  | refused | spared | collected => exact put _ _ _ _ (.inr rfl) h
  | handled c completions s t handled =>
      change P t.packetSize t.pool
      rw [handled.packetSize_eq]
      cases handled.pool_eq with
      | inl same => exact same ▸ h
      | inr settled =>
          obtain ⟨slot, gone, changed⟩ := settled
          exact changed ▸ put _ _ _ _ gone h
  | concluded s again t concluded =>
      cases concluded with
      | finished | stalled => exact h
      | again running busy t sampled beside =>
          change P t.packetSize t.pool
          rw [beside.packetSize, beside.pool]
          exact h
  | emptied | cancelled => exact idle _ _ h
  | settled => exact finish_of_ended (fun _ _ => trivial) _
  | ended => trivial
  | denied | entered | gathered | cleared | waited | ignored | emptyHanded => exact h

/-- Every transfer of a session goes one way. -/
def Directed (direction : Direction) : Run σ → Prop
  | .active _ s => s.pool.direction = direction
  | .ended _ _ => True

theorem Directed.started (h : Started env config state world run) :
    run.Directed config.direction := by
  cases h with
  | opened size reset purged reported wide pool allocated =>
      obtain ⟨bufferLength, rfl⟩ := Pool.allocate_fresh allocated
      rfl
  | unset | unpurged | narrow | unallocated => trivial

theorem Directed.stepped {direction : Direction} (h : run.Directed direction)
    (stepped : Stepped env config run next) : next.Directed direction := by
  have equipped : run.Equipped fun _ pool => pool.direction = direction := h
  exact equipped.stepped (fun _ _ _ _ _ same => same) (fun _ _ same => same) stepped

theorem directed_at {n : Nat}
    (come : advance env config n (start env config state world) = .ok run) :
    run.Directed config.direction :=
  holds_at (fun _ => .started) (fun _ _ _ _ stepped directed => directed.stepped stepped) come

/-- The packet size that the transport names once the peripheral is set up. -/
def reportedSize (env : Surroundings σ) (state : State) (world : σ) : Nat :=
  env.packetSize (purging env state world).2.world

/-- A session keeps to one packet size, and to buffers of one length. -/
def Shaped (size length : Nat) : Run σ → Prop
  | .active _ s => s.packetSize = size ∧ s.pool.bufferLength = length
  | .ended _ _ => True

theorem Shaped.started (h : Started env config state world run) :
    run.Shaped (reportedSize env state world)
      (reportedSize env state world * config.packetsPerTransfer) := by
  cases h with
  | opened size reset purged reported wide pool allocated =>
      rw [reportedSize, reported]
      exact ⟨rfl, Pool.allocate_bufferLength allocated⟩
  | unset | unpurged | narrow | unallocated => trivial

theorem Shaped.stepped {size length : Nat} (h : run.Shaped size length)
    (stepped : Stepped env config run next) : next.Shaped size length := by
  have equipped : run.Equipped fun packetSize pool =>
    packetSize = size ∧ pool.bufferLength = length := h
  exact equipped.stepped (fun _ _ _ _ _ same => same) (fun _ _ same => same) stepped

theorem shaped_at {n : Nat} (come : advance env config n (start env config state world) = .ok run) :
    run.Shaped (reportedSize env state world)
      (reportedSize env state world * config.packetsPerTransfer) :=
  holds_at (fun _ => .started) (fun _ _ _ _ stepped shaped => shaped.stepped stepped) come

end Run

end BulkStream.Session
