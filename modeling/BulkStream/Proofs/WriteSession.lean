import BulkStream.Proofs.FifoService
import BulkStream.Proofs.Hosting
import BulkStream.Proofs.SlotOwnership

/-!
A session that writes to the simulated peripheral. The buffers that its consumer filled are, in order,
those that the peripheral has kept, those that failed, and those still queued. Only an error can be
behind a failed write or leave one in the queue, so a session without an error has lost nothing.
-/
namespace BulkStream.Session

open Peripheral

variable {σ : Type} {env : Surroundings σ} {config : Config} {state : State} {world : σ}

/-- A buffer that the consumer left in a fill and let be sent. -/
def Action.filled? : Action → Option Bytes
  | .fill _ _ left .proceed => some left
  | _ => none

def filled (actions : List Action) : List Bytes := actions.filterMap Action.filled?

theorem filled_append (before after : List Action) :
    filled (before ++ after) = filled before ++ filled after := List.filterMap_append

theorem filled_filter (actions : List Action) :
    filled (actions.filter Action.isOffer) = filled actions := by
  induction actions with
  | nil => rfl
  | cons action actions ih =>
      cases action with
      | payload slot span flow => exact ih
      | fill slot offered left flow =>
          cases flow with
          | stop => exact ih
          | proceed => exact congrArg (left :: ·) ih
      | _ => exact ih

theorem fill_offers {l m : Link σ} {slot : Nat} {offered left : Bytes} {flow : Flow}
    (answer : l.fill env slot offered = ((flow, left), m)) :
    filled m.offers = filled l.offers ++ (if flow = .proceed then [left] else []) ∧
      left.length = offered.length := by
  rw [Link.fill] at answer
  split at answer
  · cases answer
    exact ⟨(List.append_nil _).symm, rfl⟩
  · generalize env.fill offered l.world = asked at answer
    obtain ⟨⟨said, raw⟩, world⟩ := asked
    cases answer
    refine ⟨?_, length_fit _ _⟩
    rw [Link.offers_after, filled_append]
    cases flow <;> rfl

/-- A session that writes whole buffers of this length to a peripheral that keeps them. -/
structure Writes (host : Hosting env Fifo.transport) (length : Nat) (pool : Pool) (l : Link σ) :
    Prop where
  direction : pool.direction = .write
  bufferLength : pool.bufferLength = length
  held (i : Nat) (buffer : Bytes) (found : pool.slots[i]? = some (.held buffer)) :
    buffer.length = length
  keeps : (host.on l).config.keepWrites = true
  queued : ∀ r ∈ (host.on l).queue.toList, Fifo.IsWrite r

/-- Of the buffers filled so far the peripheral has kept some, those behind them failed, and the rest
are queued. Where one failed, the session met an error, or meets it in what was handed back. -/
structure Ledger (host : Hosting env Fifo.transport) (length : Nat) (fatal : Option StreamError)
    (unhandled : List Completion) (l : Link σ) (kept lost : List Bytes) : Prop where
  whole : ∀ buffer ∈ filled l.offers, buffer.length = length
  split : filled l.offers = kept ++ lost ++ (host.on l).queue.toList.map Request.buffer
  written : (host.on l).written = kept.flatten
  failed : lost ≠ [] → (host.on l).isFaulty = true ∧
    (fatal.isSome = true ∨ ∃ c ∈ unhandled, c.status ≠ .completed)

section

variable {host : Hosting env Fifo.transport} {length : Nat} {pool : Pool} {l m : Link σ}
  {fatal : Option StreamError} {unhandled : List Completion} {kept lost : List Bytes}
  {c : Completion}

theorem Writes.aside (h : Writes host length pool l) (aside : l.Aside env m) :
    Writes host length pool m := by
  have same := host.on_aside aside
  exact ⟨h.direction, h.bufferLength, h.held, same.symm ▸ h.keeps, same.symm ▸ h.queued⟩

theorem Writes.setMode (h : Writes host length pool l) (mode : Mode) :
    Writes host length pool (l.setMode env mode).2 := by
  have after := host.on_setMode_fifo mode l
  exact ⟨h.direction, h.bufferLength, h.held, after.symm ▸ h.keeps, after.symm ▸ h.queued⟩

theorem Writes.put (h : Writes host length pool l) (index : Nat) {slot : Slot}
    (gone : ∀ buffer, slot ≠ .held buffer) : Writes host length (pool.put index slot) l := by
  refine ⟨h.direction, h.bufferLength, ?_, h.keeps, h.queued⟩
  intro i buffer found
  cases Pool.found_put found with
  | inl same => exact absurd same.symm (gone buffer)
  | inr before => exact h.held i buffer before.2

theorem Writes.wait (h : Writes host length pool l) (after : host.on m = (host.on l).wait.2) :
    Writes host length pool m := by
  refine ⟨h.direction, h.bufferLength, h.held, ?_, ?_⟩
  · rw [after, Fifo.wait_config]
    exact h.keeps
  · intro r member
    rw [after] at member
    exact h.queued r (Fifo.wait_queue _ r member)

theorem Writes.submit (h : Writes host length pool l) (slot : Nat) {buffer : Bytes}
    (full : buffer.length = length) :
    (l.submit env (pool.request slot buffer)).1 = .ok () ∧
      Writes host length pool (l.submit env (pool.request slot buffer)).2 ∧
      host.on (l.submit env (pool.request slot buffer)).2 = { host.on l with
        queue := (host.on l).queue.push
          { slot, direction := .write, buffer, length } } := by
  have request : pool.request slot buffer = { slot, direction := .write, buffer, length } := by
    rw [Pool.request, h.direction, h.bufferLength, fit_of_length_eq full]
  have submitted : Prod.map id host.on (l.submit env (pool.request slot buffer)) =
      Fifo.submit (pool.request slot buffer) (host.on l) := host.on_submit _ l
  have accepted : Fifo.submit (pool.request slot buffer) (host.on l) = (.ok (), { host.on l with
      queue := (host.on l).queue.push { slot, direction := .write, buffer, length } }) := by
    rw [request]
    refine ((Fifo.submit_cases _ _).resolve_left ?_)
    rintro ⟨-, long⟩
    exact absurd full (Nat.ne_of_lt long)
  rw [accepted] at submitted
  have after : host.on (l.submit env (pool.request slot buffer)).2 = { host.on l with
      queue := (host.on l).queue.push { slot, direction := .write, buffer, length } } :=
    congrArg Prod.snd submitted
  refine ⟨congrArg Prod.fst submitted, ⟨h.direction, h.bufferLength, h.held, ?_, ?_⟩, after⟩
  · rw [after]
    exact h.keeps
  · intro r member
    rw [after, Queue.toList_push] at member
    rcases List.mem_append.mp member with earlier | last
    · exact h.queued r earlier
    · rw [List.mem_singleton.mp last]
      exact ⟨rfl, full.symm⟩

theorem Ledger.carry (h : Ledger host length fatal unhandled l kept lost)
    (offers : filled m.offers = filled l.offers)
    (queue : (host.on m).queue = (host.on l).queue)
    (written : (host.on m).written = (host.on l).written)
    (faulty : (host.on m).isFaulty = (host.on l).isFaulty) :
    Ledger host length fatal unhandled m kept lost := by
  refine ⟨offers.symm ▸ h.whole, ?_, written.trans h.written, faulty.symm ▸ h.failed⟩
  rw [offers, queue]
  exact h.split

theorem Ledger.quiet (h : Ledger host length fatal unhandled l kept lost) (quiet : l.Quiet env m) :
    Ledger host length fatal unhandled m kept lost := by
  have same := host.on_aside quiet.aside
  exact h.carry (congrArg filled quiet.offers_eq) (congrArg _ same) (congrArg _ same)
    (congrArg _ same)

theorem Ledger.setMode (h : Ledger host length fatal unhandled l kept lost) (mode : Mode) :
    Ledger host length fatal unhandled (l.setMode env mode).2 kept lost := by
  have after := host.on_setMode_fifo mode l
  exact h.carry (congrArg filled (Link.offers_setMode env l mode)) (by rw [after]; rfl)
    (by rw [after]; rfl) (by rw [after]; rfl)

theorem Ledger.fail (h : Ledger host length fatal unhandled l kept lost) (error : StreamError)
    (left : List Completion) :
    Ledger host length (fatal.or (some error)) left l kept lost := by
  refine ⟨h.whole, h.split, h.written, ?_⟩
  intro some
  refine ⟨(h.failed some).1, .inl ?_⟩
  rw [Option.isSome_or]
  exact Bool.or_true _

theorem Ledger.pass (h : Ledger host length fatal (c :: unhandled) l kept lost)
    (status : c.status = .completed) : Ledger host length fatal unhandled l kept lost := by
  refine ⟨h.whole, h.split, h.written, ?_⟩
  intro some
  obtain ⟨faulty, met | ⟨other, member, failed⟩⟩ := h.failed some
  · exact ⟨faulty, .inl met⟩
  · rcases List.mem_cons.mp member with rfl | later
    · exact absurd status failed
    · exact ⟨faulty, .inr ⟨other, later, failed⟩⟩

theorem Ledger.spared (h : Ledger host length fatal unhandled l kept lost) {slot : Nat}
    {offered left : Bytes} (answer : l.fill env slot offered = ((.stop, left), m)) :
    Ledger host length fatal unhandled m kept lost := by
  have same := host.on_aside (.of_fill answer)
  obtain ⟨offers, -⟩ := fill_offers answer
  rw [if_neg (by simp), List.append_nil] at offers
  exact h.carry offers (congrArg _ same) (congrArg _ same) (congrArg _ same)

theorem Ledger.sent (h : Ledger host length fatal unhandled l kept lost)
    (writes : Writes host length pool l) {slot : Nat} {offered left : Bytes}
    (full : offered.length = length) (answer : l.fill env slot offered = ((.proceed, left), m)) :
    Ledger host length fatal unhandled (m.submit env (pool.request slot left)).2 kept lost := by
  have same := host.on_aside (.of_fill answer)
  obtain ⟨offers, whole⟩ := fill_offers answer
  rw [if_pos rfl] at offers
  obtain ⟨-, -, after⟩ := (writes.aside (.of_fill answer)).submit slot (whole.trans full)
  rw [same] at after
  have all : filled (m.submit env (pool.request slot left)).2.offers = filled l.offers ++ [left] := by
    rw [Link.offers_submit, offers]
  refine ⟨?_, ?_, ?_, ?_⟩
  · rw [all]
    intro buffer member
    rcases List.mem_append.mp member with earlier | last
    · exact h.whole buffer earlier
    · rw [List.mem_singleton.mp last]
      exact whole.trans full
  · rw [all, after, h.split, Queue.toList_push, List.map_append, ← List.append_assoc]
    rfl
  · rw [after]
    exact h.written
  · rw [after]
    exact h.failed

/-- A wait takes the oldest writes. Once one has failed, no later one is kept. -/
theorem Ledger.wait (h : Ledger host length fatal [] l kept lost)
    (writes : Writes host length pool l) (offers : m.offers = l.offers)
    (after : host.on m = (host.on l).wait.2) :
    ∃ kept lost, Ledger host length fatal (host.on l).wait.1 m kept lost := by
  obtain ⟨kept', lost', took⟩ := Fifo.wait_took writes.keeps writes.queued
  refine ⟨kept ++ kept', lost ++ lost', offers.symm ▸ h.whole, ?_, ?_, ?_⟩
  · rw [offers, h.split, took.queue, after]
    cases lost with
    | nil => simp only [List.append_nil, List.append_assoc, List.nil_append]
    | cons buffer lost =>
        obtain ⟨faulty, -⟩ := h.failed (List.cons_ne_nil _ _)
        obtain ⟨-, none⟩ := took.faulty faulty
        simp only [none, List.append_nil, List.append_assoc, List.nil_append]
  · rw [after, took.written, h.written, List.flatten_append]
  · rw [after]
    intro some
    cases lost with
    | nil =>
        obtain ⟨faulty, bad⟩ := took.failed some
        exact ⟨faulty, .inr bad⟩
    | cons buffer lost =>
        obtain ⟨faulty, met | ⟨c, impossible, -⟩⟩ := h.failed (List.cons_ne_nil _ _)
        · exact ⟨(took.faulty faulty).1, .inl met⟩
        · cases impossible

/-- What a ledger comes to: of the buffers filled the peripheral has kept some in front, and all of
them in a session that came through. -/
def Settled (host : Hosting env Fifo.transport) (length : Nat) (through : Prop) (l : Link σ) :
    Prop :=
  ∃ kept rest, (∀ buffer ∈ filled l.offers, buffer.length = length) ∧
    filled l.offers = kept ++ rest ∧ (host.on l).written = kept.flatten ∧ (through → rest = [])

theorem Ledger.settled {through : Prop} (h : Ledger host length fatal unhandled l kept lost)
    (all : through → lost = [] ∧ (host.on l).queue.toList = []) : Settled host length through l := by
  refine ⟨kept, lost ++ (host.on l).queue.toList.map Request.buffer, h.whole, ?_, h.written, ?_⟩
  · rw [h.split, List.append_assoc]
  · intro done
    obtain ⟨none, idle⟩ := all done
    rw [none, idle]
    rfl

theorem Ledger.settled_fail (h : Ledger host length fatal unhandled l kept lost)
    (error : StreamError) : Settled host length (fatal.or (some error) = none) l := by
  refine h.settled ?_
  intro none
  exact absurd (Option.or_eq_none_iff.mp none).2 (Option.some_ne_none error)

theorem Settled.carry {through : Prop} (h : Settled host length through l)
    (offers : m.offers = l.offers) (received : (host.on m).received = (host.on l).received)
    {through' : Prop} (only : through' → through) : Settled host length through' m := by
  obtain ⟨kept, rest, whole, split, written, all⟩ := h
  refine ⟨kept, rest, offers.symm ▸ whole, offers.symm ▸ split, ?_, fun done => all (only done)⟩
  rw [Fifo.written, received]
  exact written

end

namespace Stream

variable {host : Hosting env Fifo.transport} {length : Nat} {unhandled : List Completion}
  {kept lost : List Bytes} {s t : Stream σ} {c : Completion}

theorem consumed_write {flow : Flow} {buffer : Bytes} (write : s.pool.direction = .write)
    (consumed : s.consumed env c = (flow, buffer, t)) :
    s.link.fill env c.slot (fit s.pool.bufferLength c.buffer) = ((flow, buffer), t.link) ∧
      t.pool = s.pool ∧ t.fatal = s.fatal := by
  rw [Stream.consumed, write] at consumed
  cases consumed
  exact ⟨rfl, rfl, rfl⟩

theorem handled_writes (writes : Writes host length s.pool s.link)
    (ledger : Ledger host length s.fatal (c :: unhandled) s.link kept lost)
    (handled : Handled env c s t) :
    Writes host length t.pool t.link ∧ Ledger host length t.fatal unhandled t.link kept lost := by
  have lent : Writes host length (s.pool.put c.slot .lent) s.link := writes.put c.slot (by simp)
  have full : (fit s.pool.bufferLength c.buffer).length = length := by
    rw [length_fit, writes.bufferLength]
  have refilled {flow : Flow} {buffer : Bytes} {u : Stream σ}
      (consumed : (s.succeeded c.slot).consumed env c = (flow, buffer, u)) :
      s.link.fill env c.slot (fit s.pool.bufferLength c.buffer) = ((flow, buffer), u.link) ∧
        u.pool = s.pool.put c.slot .lent ∧ u.fatal = s.fatal :=
    consumed_write (s := s.succeeded c.slot) writes.direction consumed
  cases handled with
  | stray stray => exact ⟨writes, ledger.fail _ unhandled⟩
  | failed own status =>
      have quiet : s.link.Quiet env (s.link.log env (.transferFailed c.slot c.status)) :=
        .log _ rfl .refl
      exact ⟨(writes.put c.slot (by simp)).aside quiet.aside,
        (ledger.quiet quiet).fail _ unhandled⟩
  | dropped own status quitting =>
      have quiet : s.link.Quiet env ((s.succeeded c.slot).freed env c.slot).link :=
        .log _ rfl .refl
      exact ⟨(lent.put c.slot (by simp)).aside quiet.aside, (ledger.pass status).quiet quiet⟩
  | stopped own status running buffer t consumed beside =>
      obtain ⟨answer, pool, fatal⟩ := refilled consumed
      have quiet : t.link.Quiet env (t.freed env c.slot).link := .log _ rfl .refl
      constructor
      · change Writes host length (t.pool.put c.slot .released) _
        rw [pool]
        exact ((lent.put c.slot (by simp)).aside (.of_fill answer)).aside quiet.aside
      · change Ledger host length t.fatal _ _ _ _
        rw [fatal]
        exact ((ledger.pass status).spared answer).quiet quiet
  | resubmitted own status running buffer t consumed beside accepted =>
      obtain ⟨answer, pool, fatal⟩ := refilled consumed
      obtain ⟨-, left⟩ := fill_offers answer
      constructor
      · change Writes host length (t.pool.put c.slot .inFlight)
          (t.link.submit env (t.pool.request c.slot buffer)).2
        rw [pool]
        exact ((lent.aside (.of_fill answer)).submit c.slot (left.trans full)).2.1.put c.slot
          (by simp)
      · change Ledger host length t.fatal _ (t.link.submit env (t.pool.request c.slot buffer)).2 _ _
        rw [pool, fatal]
        exact (ledger.pass status).sent lent full answer
  | refused own status running buffer t consumed beside source refused =>
      obtain ⟨answer, pool, -⟩ := refilled consumed
      obtain ⟨-, left⟩ := fill_offers answer
      obtain ⟨accepted, -⟩ := (lent.aside (.of_fill answer)).submit c.slot (left.trans full)
      rw [pool, accepted] at refused
      cases refused

end Stream

namespace Run

variable {host : Hosting env Fifo.transport} {length : Nat}

/-- A ledger for every phase of a run. Once it drains, only what the ledger came to is known. -/
def Writing (host : Hosting env Fifo.transport) (length : Nat) : Run σ → Prop
  | .active (.priming _) s | .active .cycling s =>
      Writes host length s.pool s.link ∧
        ∃ kept lost, Ledger host length s.fatal [] s.link kept lost
  | .active (.handling completions) s =>
      Writes host length s.pool s.link ∧
        ∃ kept lost, Ledger host length s.fatal completions s.link kept lost
  | .active .closing s | .active (.settling _) s => Settled host length (s.fatal = none) s.link
  | .active (.draining _ _) s | .active (.collecting _ _ _ _ _) s =>
      Settled host length (s.fatal = none) s.link ∧ (host.on s.link).queue.toList = []
  | .ended result l =>
      Settled host length (∃ summary, result = .ok summary ∧ summary.termination = .stopped) l

theorem idle_queue {s : Stream σ} (agrees : (host.custody Fifo.holding).AgreesWith s [])
    (none : s.pool.slotsInFlight = ∅) : (host.on s.link).queue.toList = [] := by
  have slots : (0 : Multiset Nat) = ((host.on s.link).held.map Request.slot : Multiset Nat) := by
    have eq := agrees.slots_eq
    rw [none] at eq
    exact eq.trans (Multiset.add_zero _)
  have held : (host.on s.link).held = [] := by
    simpa using slots.symm
  exact (List.append_eq_nil_iff.mp held).2

/-- A cycle that was the last one without an error leaves nothing queued. -/
theorem Writing.finished {s : Stream σ} {kept lost : List Bytes}
    (ledger : Ledger host length s.fatal [] s.link kept lost) (sound : s.Sound)
    (agrees : (host.custody Fifo.holding).AgreesWith s [])
    (quitting : (s.fatal.isSome || s.pool.live == 0) = true) :
    Settled host length (s.fatal = none) s.link := by
  refine ledger.settled ?_
  intro none
  rw [none, Option.isSome_none, Bool.false_or] at quitting
  refine ⟨?_, idle_queue agrees (sound.pool.slotsInFlight_empty (eq_of_beq quitting))⟩
  by_contra some
  obtain ⟨-, met | ⟨c, impossible, -⟩⟩ := ledger.failed some
  · rw [none] at met
    cases met
  · cases impossible

theorem Writing.stepped {run next : Run σ} (h : run.Writing host length) (sound : run.Sound)
    (holds : (host.custody Fifo.holding).Holds config state world run)
    (stepped : Stepped env config run next) : next.Writing host length := by
  cases stepped with
  | ended result l => exact h
  | queued index s buffer l inside prepared accepted =>
      obtain ⟨writes, kept, lost, ledger⟩ := h
      cases prepared with
      | blank _ read held =>
          rw [writes.direction] at read
          cases read
      | filled offered _ _ write held answer =>
          have full := writes.held index offered held
          have left := (fill_offers answer).2.trans full
          exact ⟨((writes.aside (.of_fill answer)).submit index left).2.1.put index (by simp),
            kept, lost, ledger.sent writes full answer⟩
  | refused index s buffer l inside prepared source answered =>
      obtain ⟨writes, -⟩ := h
      cases prepared with
      | blank _ read held =>
          rw [writes.direction] at read
          cases read
      | filled offered _ _ write held answer =>
          have left := (fill_offers answer).2.trans (writes.held index offered held)
          rw [((writes.aside (.of_fill answer)).submit index left).1] at answered
          cases answered
  | spared index s offered buffer l inside write held answer =>
      obtain ⟨writes, kept, lost, ledger⟩ := h
      exact ⟨(writes.put index (by simp)).aside (.of_fill answer), kept, lost,
        ledger.spared answer⟩
  | denied index s all source answer =>
      obtain ⟨-, kept, lost, ledger⟩ := h
      exact ((ledger.quiet (quiet_announced config s)).setMode .syncFifo).settled_fail _
  | entered index s all answer =>
      obtain ⟨writes, kept, lost, ledger⟩ := h
      exact ⟨((writes.aside (quiet_announced config s).aside).setMode .syncFifo).aside
          (quiet_opened _).aside, kept, lost,
        ((ledger.quiet (quiet_announced config s)).setMode .syncFifo).quiet (quiet_opened _)⟩
  | gathered s failure completions l awaited =>
      obtain ⟨writes, kept, lost, ledger⟩ := h
      obtain ⟨rfl, rfl, after⟩ := host.awaited_fifo awaited
      obtain ⟨kept, lost, onward⟩ := ledger.wait writes awaited.offers_eq after
      refine ⟨writes.wait after, kept, lost, ?_⟩
      change Ledger host length (s.fatal.or none) _ _ _ _
      rw [Option.or_none]
      exact onward
  | handled c completions s t handled =>
      obtain ⟨writes, kept, lost, ledger⟩ := h
      obtain ⟨writes, ledger⟩ := Stream.handled_writes writes ledger handled
      exact ⟨writes, kept, lost, ledger⟩
  | concluded s again t concluded =>
      obtain ⟨writes, kept, lost, ledger⟩ := h
      cases concluded with
      | finished quitting => exact Writing.finished ledger sound.stream holds quitting
      | stalled running idle =>
          have quiet : s.link.Quiet env (s.link.log env (.stalled config.waitMilliseconds)) :=
            .log _ rfl .refl
          exact (ledger.quiet quiet).settled_fail _
      | again running busy t sampled beside =>
          change Writes host length t.pool t.link ∧
            ∃ kept lost, Ledger host length t.fatal [] t.link kept lost
          rw [beside.pool, beside.fatal]
          exact ⟨writes.aside beside.aside, kept, lost, ledger.quiet beside.quiet⟩
  | emptied s none =>
      have quiet : s.link.Quiet env (idled env s).link := quiet_idled s
      exact Settled.carry h quiet.offers_eq (congrArg _ (host.on_aside quiet.aside)) id
  | cancelled s some =>
      have quiet : s.link.Quiet env (idled env s).link := quiet_idled s
      have after : host.on ((idled env s).link.cancelAll env) = (host.on s.link).cancelAll := by
        rw [host.on_cancelAll, host.on_aside quiet.aside]
        rfl
      have received : (host.on ((idled env s).link.cancelAll env)).received =
          (host.on s.link).received := by
        rw [after]
        rfl
      have idle : (host.on ((idled env s).link.cancelAll env)).queue.toList = [] := by
        rw [after]
        rfl
      exact ⟨Settled.carry h ((Link.offers_cancelAll env _).trans quiet.offers_eq) received id, idle⟩
  | cleared collected interrupted s none => exact h.1
  | waited collected interrupted s some answer completions answered =>
      obtain ⟨settled, idle⟩ := h
      obtain ⟨-, -, after⟩ := host.waited_fifo answered
      obtain ⟨still, received⟩ := Fifo.wait_idle idle
      rw [← after] at still received
      exact ⟨settled.carry (Link.offers_wait env s.link _) received id, still⟩
  | collected answer interrupted before collected c completions s own => exact h
  | ignored answer interrupted before collected c completions s stray => exact h
  | emptyHanded answer interrupted before collected s =>
      rcases afterWait_cases answer interrupted before collected with ⟨again, next⟩ | next
      · rw [next]
        exact h
      · rw [next]
        exact h.1
  | settled collected s =>
      obtain ⟨l, finished, quiet⟩ := finish_read_out env (abandoned env collected s)
      have offers : l.offers = s.link.offers :=
        quiet.offers_eq.trans (Link.offers_log env s.link _)
      have device : host.on l = host.on s.link :=
        (host.on_aside quiet.aside).trans (host.log _ _)
      rw [finished]
      refine Settled.carry h offers (congrArg _ device) ?_
      intro through
      exact outcome_stopped ((termination_iff fun _ => rfl).mp through)

theorem Writing.early {error : StreamError} {l : Link σ} (nothing : l.offers = [])
    (unwritten : (host.on l).received = .empty) : (failEarly env error l).Writing host length := by
  have quiet : l.Quiet env (failEarly env error l).link := quiet_failEarly error l
  have empty : Settled host length True l := by
    refine ⟨[], [], ?_, ?_, ?_, fun _ => rfl⟩
    · rw [nothing]
      intro buffer impossible
      cases impossible
    · rw [nothing]
      rfl
    · rw [Fifo.written, unwritten]
      rfl
  exact empty.carry quiet.offers_eq (congrArg _ (host.on_aside quiet.aside)) fun _ => trivial

theorem Writing.started {peripheral : Peripheral.Config} {run : Run σ}
    (fresh : Fifo.ofConfig peripheral = .ok (host.device world))
    (keep : peripheral.keepWrites = true) (write : config.direction = .write)
    (h : Started env config state world run) :
    run.Writing host (peripheral.packetSize * config.packetsPerTransfer) := by
  have purged : (purging env state world).2.offers = [] := offers_purging env state world
  have device := host.on_purging_fifo state fresh
  have unwritten : (host.on (purging env state world).2).received = .empty := by rw [device]
  have priming : (purging env state world).2.Quiet env
      ((purging env state world).2.transition env .priming) := .transition .priming .refl
  cases h with
  | unset source _ =>
      refine .early (offers_resetting env state world) ?_
      rw [host.on_resetting, (Fifo.ofConfig_ok fresh).2]
      rfl
  | unpurged source _ _ => exact .early purged unwritten
  | narrow size _ _ reported narrow => exact .early purged unwritten
  | unallocated size _ _ reported wide error refused =>
      refine .early (priming.offers_eq.trans purged) ?_
      rw [host.on_aside priming.aside]
      exact unwritten
  | opened size _ _ reported wide pool allocated =>
      have packetSize : size = peripheral.packetSize :=
        reported.symm.trans (host.packetSize_fifo fresh)
      have length := Pool.allocate_bufferLength allocated
      rw [packetSize] at length
      obtain ⟨bufferLength, rfl⟩ := Pool.allocate_fresh allocated
      have writes : Writes host (peripheral.packetSize * config.packetsPerTransfer)
          (Pool.fresh config.direction bufferLength config.transferCount)
          (purging env state world).2 := by
        refine ⟨write, length, ?_, ?_, ?_⟩
        · intro i buffer found
          obtain ⟨inside, -⟩ := Array.getElem?_eq_some_iff.mp found
          rw [← Pool.capacity, Pool.fresh_capacity] at inside
          rw [Pool.fresh_held bufferLength inside] at found
          cases found
          exact List.length_replicate.trans length
        · rw [device]
          exact keep
        · rw [device]
          intro r impossible
          cases impossible
      have ledger : Ledger host (peripheral.packetSize * config.packetsPerTransfer) none []
          (purging env state world).2 [] [] := by
        refine ⟨?_, ?_, ?_, fun some => absurd rfl some⟩
        · rw [purged]
          intro buffer impossible
          cases impossible
        · rw [purged, device]
          rfl
        · rw [device]
          rfl
      exact ⟨writes.aside priming.aside, [], [], ledger.quiet priming⟩

theorem Writing.settled {run : Run σ} (h : run.Writing host length) :
    Settled host length (∃ summary l, run = .ended (.ok summary) l ∧
      summary.termination = .stopped) run.link := by
  have active {phase : Phase} {s : Stream σ} : ¬ ∃ summary l,
      Run.active phase s = .ended (.ok summary) l ∧ summary.termination = .stopped := by
    rintro ⟨summary, l, impossible, -⟩
    cases impossible
  cases run with
  | ended result l =>
      refine Settled.carry h rfl rfl ?_
      rintro ⟨summary, l, same, stopped⟩
      cases same
      exact ⟨summary, rfl, stopped⟩
  | active phase s =>
      cases phase with
      | priming _ | cycling | handling _ =>
          obtain ⟨-, kept, lost, ledger⟩ := h
          exact ledger.settled fun through => absurd through active
      | closing | settling _ =>
          exact Settled.carry h rfl rfl fun through => absurd through active
      | draining _ _ | collecting _ _ _ _ _ =>
          exact Settled.carry h.1 rfl rfl fun through => absurd through active

end Run

/-- Among any surroundings that leave a fresh simulated peripheral to the session, whatever the
consumer answers and whenever a stop is requested, what a writing session has written by any point is
the concatenation of the first `m` buffers that the consumer filled and let be sent, each of them
whole; and of all of them, if the session ends because every slot was released. Only a byte count past
64 bits can keep a session from coming that far. -/
theorem written_eq_filled (host : Hosting env Fifo.transport) (config : Config) (state : State)
    (world : σ) (peripheral : Peripheral.Config)
    (fresh : Fifo.ofConfig peripheral = .ok (host.device world))
    (keep : peripheral.keepWrites = true) (write : config.direction = .write) (n : Nat) :
    (∃ run m, Run.advance env config n (Run.start env config state world) = .ok run ∧
        m ≤ (filled run.link.transcript).length ∧
        (host.on run.link).written = ((filled run.link.transcript).take m).flatten ∧
        (∀ buffer ∈ filled run.link.transcript,
          buffer.length = peripheral.packetSize * config.packetsPerTransfer) ∧
        ∀ summary l, run = .ended (.ok summary) l → summary.termination = .stopped →
          m = (filled run.link.transcript).length) ∨
      Run.advance env config n (Run.start env config state world) = .error .countOverflow := by
  have empty : (host.custody Fifo.holding).held world = 0 := by
    change ((host.device world).held : Multiset Request) = 0
    rw [(Fifo.ofConfig_ok fresh).2]
    rfl
  have begins (run : Run σ) (h : Run.Started env config state world run) :
      (host.custody Fifo.holding).Holds config state world run ∧
        run.Writing host (peripheral.packetSize * config.packetsPerTransfer) :=
    ⟨.started empty h, .started fresh keep write h⟩
  have kept : ∀ run next : Run σ, Run.Reached env config state world run → run.Sound →
      (host.custody Fifo.holding).Holds config state world run ∧
        run.Writing host (peripheral.packetSize * config.packetsPerTransfer) →
      Run.step env config run = .ok next → Run.Stepped env config run next →
      (host.custody Fifo.holding).Holds config state world next ∧
        next.Writing host (peripheral.packetSize * config.packetsPerTransfer) := by
    rintro run next reached sound ⟨holds, writing⟩ taken stepped
    exact ⟨holds.stepped reached sound taken stepped, writing.stepped sound holds stepped⟩
  refine (Run.run_keeps begins kept n).imp_left ?_
  rintro ⟨run, come, -, -, writing⟩
  obtain ⟨kept, rest, whole, split, written, all⟩ := writing.settled
  rw [Link.offers, filled_filter] at whole split
  refine ⟨run, kept.length, come, ?_, ?_, whole, ?_⟩
  · rw [split, List.length_append]
    exact Nat.le_add_right _ _
  · rw [split, List.take_left]
    exact written
  · intro summary l ended stopped
    rw [split, all ⟨summary, l, ended, stopped⟩, List.append_nil]

section

open Rehearsal

/-- A peripheral that keeps what it is written and fails after four transfers, before a consumer
that stops at its sixth buffer. -/
def sink : Assembly Fifo Timeline Audience where
  transport :=
    let config : Peripheral.Config :=
      { packetSize := 8, faultAfter := some 4, batch := some 2, keepWrites := true }
    { config, source := .start config.pattern config.dropEvery }
  outside := {}
  consumer := { onFill := { stop := [5] } }

def threeWrites : Config := { threeSlots with direction := .write }

/-- Six buffers of sixteen bytes are let go, and four of them written. -/
theorem sink_written_eq_filled : ∃ run m,
    Run.advance rehearsed threeWrites 30 (Run.start rehearsed threeWrites .idle sink) = .ok run ∧
      m ≤ (filled run.link.transcript).length ∧
      (rehearsedHosting.on run.link).written = ((filled run.link.transcript).take m).flatten ∧
      (∀ buffer ∈ filled run.link.transcript, buffer.length = 8 * 2) ∧
      (∀ summary l, run = .ended (.ok summary) l → summary.termination = .stopped →
        m = (filled run.link.transcript).length) ∧
      (rehearsedHosting.on run.link).written.length = 64 ∧
      (filled run.link.transcript).length = 6 ∧ run.link.state = .terminated := by
  have counts : (Run.advance rehearsed threeWrites 30
      (Run.start rehearsed threeWrites .idle sink)).toOption.map
        (fun run => ((rehearsedHosting.on run.link).written.length,
          (filled run.link.transcript).length, run.link.state)) = some (64, 6, .terminated) := by
    decide +kernel
  rcases written_eq_filled rehearsedHosting threeWrites .idle sink sink.transport.config rfl rfl rfl
      30 with ⟨run, m, come, few, written, whole, all⟩ | fault
  · rw [come] at counts
    obtain ⟨bytes, rest⟩ := Prod.mk.inj (Option.some.inj counts)
    obtain ⟨buffers, terminated⟩ := Prod.mk.inj rest
    exact ⟨run, m, come, few, written, whole, all, bytes, buffers, terminated⟩
  · rw [fault] at counts
    cases counts

end

end BulkStream.Session
