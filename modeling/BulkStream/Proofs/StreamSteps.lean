import BulkStream.Proofs.LinkFrame
import BulkStream.Proofs.Meets
import BulkStream.Proofs.PoolOperations
import BulkStream.Session.Run

/-!
What a session does with one completion. Delivering payload and filling a buffer stay beside the
transport and the pool; then the slot is released, or submitted again with at most one call. The
stream is sound throughout, so that no fault but a byte count past 64 bits can stop it.
-/
namespace BulkStream

namespace Tracker

/-- No window of bytes is negative, and the bytes are a count. -/
structure Sound (t : Tracker) : Prop where
  window : t.snapshot.previousBytes ≤ t.snapshot.bytes
  counted : t.snapshot.bytes < countLimit

def plus (t : Tracker) (bytes : Nat) : Tracker :=
  { t with snapshot := { t.snapshot with bytes := t.snapshot.bytes + bytes } }

theorem plus_plus (t : Tracker) (a b : Nat) : (t.plus a).plus b = t.plus (a + b) := by
  simp only [plus, Nat.add_assoc]

theorem start_sound (now interval : Nat) : (start now interval).Sound :=
  ⟨Nat.le_refl _, show 0 < countLimit by decide⟩

theorem credit_meets (t : Tracker) (bytes : Nat) :
    Meets (countLimit ≤ t.snapshot.bytes + bytes)
      (fun next => next = t.plus bytes ∧ (t.Sound → next.Sound)) (t.credit bytes) := by
  refine (addCount_meets t.snapshot.bytes bytes).bind ?_
  rintro total _ ⟨rfl, within⟩
  exact ⟨rfl, fun h => ⟨Nat.le_add_right_of_le h.window, within⟩⟩

theorem withRates_meets {s : Snapshot} (h : s.previousBytes ≤ s.bytes) :
    Meets False (fun next => next.previousBytes = s.previousBytes ∧ next.bytes = s.bytes)
      (withRates s) := by
  simp only [withRates, windowBytes, if_pos h]
  split <;> exact ⟨rfl, rfl⟩

theorem poll_meets {t : Tracker} (h : t.Sound) (now : Nat) :
    Meets False (fun sampled => ∀ next ∈ sampled,
      next.Sound ∧ next.snapshot.bytes = t.snapshot.bytes) (t.poll now) := by
  rw [poll]
  split
  · exact Meets.ok fun next absent => by cases absent
  · split
    · refine Meets.bind (withRates_meets h.window) ?_
      rintro s _ ⟨previous, bytes⟩ next found
      cases found
      refine ⟨⟨?_, ?_⟩, bytes⟩
      · rw [previous, bytes]
        exact h.window
      · rw [bytes]
        exact h.counted
    · intro next found
      cases found
      exact ⟨⟨h.window, h.counted⟩, rfl⟩

theorem Sound.rollForward {t : Tracker} (h : t.Sound) : t.rollForward.Sound :=
  ⟨Nat.le_refl _, h.counted⟩

end Tracker

namespace Session

variable {σ : Type} {env : Surroundings σ}

namespace Link

/-- What comes of offering spans in order, up to the first answer to stop. -/
def offer (env : Surroundings σ) (slot : Nat) : List Bytes → Link σ → Flow × Link σ
  | [], l => (.proceed, l)
  | span :: spans, l =>
      if span.isEmpty then offer env slot spans l
      else match l.payload env slot span with
        | (.proceed, l) => offer env slot spans l
        | (.stop, l) => (.stop, l)

/-- Bytes of the spans that are offered, the one that is answered by a stop included. -/
def offeredBytes (env : Surroundings σ) (slot : Nat) : List Bytes → Link σ → Nat
  | [], _ => 0
  | span :: spans, l =>
      if span.isEmpty then offeredBytes env slot spans l
      else span.length + match l.payload env slot span with
        | (.proceed, l) => offeredBytes env slot spans l
        | (.stop, _) => 0

theorem Aside.offer {l : Link σ} (slot : Nat) (spans : List Bytes) {m : Link σ}
    (h : l.Aside env m) : l.Aside env (m.offer env slot spans).2 := by
  induction spans generalizing m with
  | nil => exact h
  | cons span spans ih =>
      rw [Link.offer]
      split
      · exact ih h
      · have offered := h.payload slot span
        generalize m.payload env slot span = answered at offered ⊢
        obtain ⟨flow, m⟩ := answered
        cases flow with
        | proceed => exact ih offered
        | stop => exact offered

end Link

namespace Stream

/-- What holds of a stream between any two steps. -/
structure Sound (s : Stream σ) : Prop where
  pool : s.pool.Sound
  tracker : s.tracker.Sound
  packetSize : Packet.statusLength < s.packetSize

/-- The stream after something beside the transport and the pool: only the link has moved on, and
bytes may have been credited. -/
inductive Beside (env : Surroundings σ) (s : Stream σ) : Stream σ → Prop
  | mk (link : Link σ) (tracker : Tracker) (aside : s.link.Aside env link)
      (sound : s.tracker.Sound → tracker.Sound) : Beside env s { s with link, tracker }

theorem Beside.sound {s t : Stream σ} (h : Beside env s t) (sound : s.Sound) : t.Sound := by
  cases h with
  | mk link tracker _ grown => exact ⟨sound.pool, grown sound.tracker, sound.packetSize⟩

theorem Beside.refl (s : Stream σ) : Beside env s s := .mk s.link s.tracker .refl id

def credited (s : Stream σ) (bytes : Nat) (link : Link σ) : Stream σ :=
  { s with tracker := s.tracker.plus bytes, link }

theorem deliver_meets (slot : Nat) (spans : List Bytes) (s : Stream σ) :
    Meets (countLimit ≤ s.tracker.snapshot.bytes + s.link.offeredBytes env slot spans)
      (fun answer =>
        answer = ((s.link.offer env slot spans).1,
          s.credited (s.link.offeredBytes env slot spans) (s.link.offer env slot spans).2) ∧
        (s.tracker.Sound → answer.2.tracker.Sound))
      (s.deliver env slot spans) := by
  induction spans generalizing s with
  | nil => exact ⟨rfl, id⟩
  | cons span spans ih =>
      rw [deliver, Link.offer, Link.offeredBytes]
      split
      · exact ih s
      · refine ((Tracker.credit_meets s.tracker span.length).widen fun beyond => ?_).bind ?_
        · rw [← Nat.add_assoc]
          exact Nat.le_add_right_of_le beyond
        · rintro tracker _ ⟨rfl, sound⟩
          generalize s.link.payload env slot span = answered
          obtain ⟨flow, link⟩ := answered
          cases flow with
          | proceed =>
              refine ((ih (s.credited span.length link)).widen fun beyond => ?_).mono ?_
              · rw [← Nat.add_assoc]
                exact beyond
              · rintro answer ⟨rfl, grown⟩
                refine ⟨?_, fun h => grown (sound h)⟩
                simp only [credited, Tracker.plus_plus]
          | stop => exact ⟨rfl, sound⟩

/-- The received part of what a completion carries. -/
def received (s : Stream σ) (c : Completion) : Received := ⟨c.buffer.take c.length, s.packetSize⟩

/-- Bytes that passing on a successful transfer credits. -/
def worth (env : Surroundings σ) (c : Completion) (s : Stream σ) : Nat :=
  match s.pool.direction with
  | .read => s.link.offeredBytes env c.slot (s.received c).spans
  | .write => c.length

/-- What comes of passing on a successful transfer. -/
def consumed (env : Surroundings σ) (c : Completion) (s : Stream σ) : Flow × Bytes × Stream σ :=
  match s.pool.direction with
  | .read =>
      ((s.link.offer env c.slot (s.received c).spans).1, c.buffer,
        s.credited (s.worth env c) (s.link.offer env c.slot (s.received c).spans).2)
  | .write =>
      let filled := s.link.fill env c.slot (fit s.pool.bufferLength c.buffer)
      (filled.1.1, filled.1.2, s.credited (s.worth env c) filled.2)

theorem consume_meets (c : Completion) (s : Stream σ) (wide : Packet.statusLength < s.packetSize) :
    Meets (countLimit ≤ s.tracker.snapshot.bytes + s.worth env c)
      (fun answer => answer = s.consumed env c ∧ Beside env s answer.2.2) (s.consume env c) := by
  rw [consume, consumed, worth]
  cases s.pool.direction with
  | read =>
      have received : Received.ofBuffer c.buffer c.length s.packetSize = .ok (s.received c) :=
        if_pos wide
      refine Meets.bind_ok received ?_
      refine (deliver_meets c.slot (s.received c).spans s).bind ?_
      rintro answer _ ⟨rfl, sound⟩
      exact ⟨rfl, .mk _ _ (Link.Aside.refl.offer c.slot _) sound⟩
  | write =>
      refine (Tracker.credit_meets s.tracker c.length).bind ?_
      rintro tracker _ ⟨rfl, sound⟩
      exact ⟨rfl, .mk _ _ (Link.Aside.refl.fill c.slot (fit s.pool.bufferLength c.buffer)) sound⟩

/-- The stream once a completion of a slot in flight is taken in: the slot is lent. -/
def taken (s : Stream σ) (slot : Nat) : Stream σ :=
  { s with activity := s.activity + 1, pool := s.pool.put slot .lent }

def succeeded (s : Stream σ) (slot : Nat) : Stream σ :=
  { s.taken slot with transfers := s.transfers + 1 }

def freed (env : Surroundings σ) (s : Stream σ) (slot : Nat) : Stream σ :=
  { s with pool := s.pool.put slot .released }.log env
    (.slotReleased slot (s.pool.put slot .released).live)

def launched (env : Surroundings σ) (s : Stream σ) (slot : Nat) (buffer : Bytes) : Stream σ :=
  { s with
    pool := s.pool.put slot .inFlight
    link := (s.link.submit env (s.pool.request slot buffer)).2 }

def turnedDown (env : Surroundings σ) (s : Stream σ) (slot : Nat) (buffer : Bytes)
    (source : TransportError) : Stream σ :=
  { s with
    pool := s.pool.put slot .released
    link := (s.link.submit env (s.pool.request slot buffer)).2 }.log env
      (.error (StreamError.submission slot source).message) |>.fail (.submission slot source)

def spoiled (env : Surroundings σ) (s : Stream σ) (slot : Nat) (status : TransferStatus) :
    Stream σ :=
  { s with activity := s.activity + 1, pool := s.pool.put slot .released }.log env
    (.transferFailed slot status) |>.fail (.transport (.status status))

/-- What may come of handling a completion. -/
inductive Handled (env : Surroundings σ) (c : Completion) (s : Stream σ) : Stream σ → Prop
  | stray (stray : s.pool.slots[c.slot]? ≠ some .inFlight) :
      Handled env c s ({ s with activity := s.activity + 1 }.fail (Pool.notInFlight c.slot))
  | failed (own : s.pool.slots[c.slot]? = some .inFlight) (status : c.status ≠ .completed) :
      Handled env c s (s.spoiled env c.slot c.status)
  | dropped (own : s.pool.slots[c.slot]? = some .inFlight) (status : c.status = .completed)
      (quitting : (s.fatal.isSome || s.stopAll) = true) :
      Handled env c s ((s.succeeded c.slot).freed env c.slot)
  | stopped (own : s.pool.slots[c.slot]? = some .inFlight) (status : c.status = .completed)
      (running : (s.fatal.isSome || s.stopAll) = false) (buffer : Bytes) (t : Stream σ)
      (consumed : (s.succeeded c.slot).consumed env c = (.stop, buffer, t))
      (beside : Beside env (s.succeeded c.slot) t) :
      Handled env c s (t.freed env c.slot)
  | resubmitted (own : s.pool.slots[c.slot]? = some .inFlight) (status : c.status = .completed)
      (running : (s.fatal.isSome || s.stopAll) = false) (buffer : Bytes) (t : Stream σ)
      (consumed : (s.succeeded c.slot).consumed env c = (.proceed, buffer, t))
      (beside : Beside env (s.succeeded c.slot) t)
      (accepted : (t.link.submit env (t.pool.request c.slot buffer)).1 = .ok ()) :
      Handled env c s (t.launched env c.slot buffer)
  | refused (own : s.pool.slots[c.slot]? = some .inFlight) (status : c.status = .completed)
      (running : (s.fatal.isSome || s.stopAll) = false) (buffer : Bytes) (t : Stream σ)
      (consumed : (s.succeeded c.slot).consumed env c = (.proceed, buffer, t))
      (beside : Beside env (s.succeeded c.slot) t) (source : TransportError)
      (answer : (t.link.submit env (t.pool.request c.slot buffer)).1 = .error source) :
      Handled env c s (t.turnedDown env c.slot buffer source)

theorem Beside.pool_eq {s t : Stream σ} (h : Beside env s t) : t.pool = s.pool := by
  cases h
  rfl

/-- Handling a completion keeps what submissions and calls beside the transport keep. -/
theorem Handled.keeps {P : Link σ → Prop} {c : Completion} {s t : Stream σ}
    (h : Handled env c s t) (aside : ∀ l m : Link σ, l.Aside env m → P l → P m)
    (submit : ∀ (l : Link σ) (request : Request), P l → P (l.submit env request).2)
    (holds : P s.link) : P t.link := by
  have logged {l : Link σ} (holds : P l) (event : Event)
      (ordinary : (Action.log event).drained? = none) : P (l.log env event) :=
    aside l _ (Link.Aside.refl.log event ordinary) holds
  have alongside {u : Stream σ} (beside : Beside env (s.succeeded c.slot) u) : P u.link := by
    cases beside with
    | mk link tracker besides sound => exact aside _ _ besides holds
  cases h with
  | stray => exact holds
  | failed | dropped => exact logged holds _ rfl
  | stopped own status running buffer u consumed beside => exact logged (alongside beside) _ rfl
  | resubmitted own status running buffer u consumed beside accepted =>
      exact submit _ _ (alongside beside)
  | refused own status running buffer u consumed beside source answer =>
      exact logged (submit _ _ (alongside beside)) _ rfl

/-- Handling a completion leaves no slot lent: the slot that it bears is in flight again or released,
and a stray one changes nothing. -/
theorem Handled.pool_eq {c : Completion} {s t : Stream σ} (h : Handled env c s t) :
    t.pool = s.pool ∨
      ∃ slot, (slot = .inFlight ∨ slot = .released) ∧ t.pool = s.pool.put c.slot slot := by
  have settled {u : Stream σ} (beside : Beside env (s.succeeded c.slot) u) (slot : Slot) :
      u.pool.put c.slot slot = s.pool.put c.slot slot := by
    rw [beside.pool_eq]
    exact Pool.put_put s.pool c.slot .lent slot
  cases h with
  | stray => exact .inl rfl
  | failed own status => exact .inr ⟨.released, .inr rfl, rfl⟩
  | dropped own status quitting => exact .inr ⟨.released, .inr rfl, settled (.refl _) _⟩
  | stopped own status running buffer u consumed beside =>
      exact .inr ⟨.released, .inr rfl, settled beside _⟩
  | resubmitted own status running buffer u consumed beside accepted =>
      exact .inr ⟨.inFlight, .inl rfl, settled beside _⟩
  | refused own status running buffer u consumed beside source answer =>
      exact .inr ⟨.released, .inr rfl, settled beside _⟩

theorem Handled.capacity_eq {c : Completion} {s t : Stream σ} (h : Handled env c s t) :
    t.pool.capacity = s.pool.capacity := by
  cases h.pool_eq with
  | inl same => rw [same]
  | inr settled =>
      obtain ⟨slot, -, changed⟩ := settled
      rw [changed, Pool.put_capacity]

theorem Handled.packetSize_eq {c : Completion} {s t : Stream σ} (h : Handled env c s t) :
    t.packetSize = s.packetSize := by
  cases h with
  | stray | failed | dropped => rfl
  | stopped own status running buffer u consumed beside
  | resubmitted own status running buffer u consumed beside accepted
  | refused own status running buffer u consumed beside source answer =>
      cases beside
      rfl

theorem Handled.activity_eq {c : Completion} {s t : Stream σ} (h : Handled env c s t) :
    t.activity = s.activity + 1 := by
  cases h with
  | stray | failed | dropped => rfl
  | stopped own status running buffer u consumed beside
  | resubmitted own status running buffer u consumed beside accepted
  | refused own status running buffer u consumed beside source answer =>
      cases beside
      rfl

theorem release_eq {s : Stream σ} {slot : Nat} (sound : s.pool.Sound)
    (lent : s.pool.slots[slot]? = some .lent) : s.release env slot = .ok (s.freed env slot) := by
  rw [release, sound.release_eq lent rfl]
  rfl

theorem resubmit_accepted {s : Stream σ} {slot : Nat} {buffer : Bytes} (sound : s.pool.Sound)
    (lent : s.pool.slots[slot]? = some .lent)
    (accepted : (s.link.submit env (s.pool.request slot buffer)).1 = .ok ()) :
    s.resubmit env slot buffer = .ok (s.launched env slot buffer) := by
  rw [resubmit, sound.resubmit_accepted (Link.submit env) buffer s.link lent accepted]
  rfl

theorem resubmit_refused {s : Stream σ} {slot : Nat} {buffer : Bytes} (sound : s.pool.Sound)
    (lent : s.pool.slots[slot]? = some .lent) {source : TransportError}
    (refused : (s.link.submit env (s.pool.request slot buffer)).1 = .error source) :
    s.resubmit env slot buffer = .ok (s.turnedDown env slot buffer source) := by
  rw [resubmit, sound.resubmit_refused (Link.submit env) buffer s.link lent refused]
  rfl

/-- Bytes that handling a completion credits. -/
def credits (env : Surroundings σ) (c : Completion) (s : Stream σ) : Nat :=
  if s.pool.slots[c.slot]? = some .inFlight ∧ c.status = .completed ∧
      (s.fatal.isSome || s.stopAll) = false then
    (s.succeeded c.slot).worth env c
  else 0

/-- Once a successful transfer is passed on, its slot is released or submitted again. -/
def passedOn (env : Surroundings σ) (slot : Nat) :
    Flow × Bytes × Stream σ → Except Fault (Stream σ)
  | (.stop, _, t) => t.release env slot
  | (.proceed, buffer, t) => t.resubmit env slot buffer

theorem passedOn_meets {c : Completion} {s : Stream σ}
    (own : s.pool.slots[c.slot]? = some .inFlight) (status : c.status = .completed)
    (running : (s.fatal.isSome || s.stopAll) = false) {flow : Flow} {buffer : Bytes} {t : Stream σ}
    (consumed : (s.succeeded c.slot).consumed env c = (flow, buffer, t))
    (beside : Beside env (s.succeeded c.slot) t) :
    Meets False (Handled env c s) (passedOn env c.slot (flow, buffer, t)) := by
  have lent : t.pool.slots[c.slot]? = some .lent := by
    rw [beside.pool_eq]
    exact Pool.put_found own .lent
  have sound : t.pool.Sound := by
    rw [beside.pool_eq]
    exact Pool.put_sound _ _ _
  cases flow with
  | stop =>
      rw [passedOn, release_eq sound lent]
      exact Handled.stopped own status running buffer t consumed beside
  | proceed =>
      rw [passedOn]
      cases answer : (t.link.submit env (t.pool.request c.slot buffer)).1 with
      | ok =>
          rw [resubmit_accepted sound lent answer]
          exact Handled.resubmitted own status running buffer t consumed beside answer
      | error source =>
          rw [resubmit_refused sound lent answer]
          exact Handled.refused own status running buffer t consumed beside source answer

theorem handle_meets (c : Completion) (s : Stream σ) (h : s.Sound) :
    Meets (countLimit ≤ s.tracker.snapshot.bytes + s.credits env c) (Handled env c s)
      (s.handle env c) := by
  rw [handle]
  by_cases own : s.pool.slots[c.slot]? = some .inFlight
  · refine Meets.bind_ok (h.pool.complete_eq own) ?_
    change Meets _ (Handled env c s) ((s.taken c.slot).handleOwn env c)
    have lent : (s.pool.put c.slot .lent).slots[c.slot]? = some .lent := Pool.put_found own .lent
    have sound : (s.pool.put c.slot .lent).Sound := Pool.put_sound _ _ _
    rw [handleOwn]
    by_cases status : c.status = .completed
    · rw [if_neg fun other => other status]
      change Meets _ (Handled env c s)
        (if (s.fatal.isSome || s.stopAll) = true then (s.succeeded c.slot).release env c.slot
        else _)
      by_cases quitting : (s.fatal.isSome || s.stopAll) = true
      · rw [if_pos quitting, release_eq sound lent]
        exact Handled.dropped own status quitting
      · have running : (s.fatal.isSome || s.stopAll) = false := Bool.eq_false_iff.mpr quitting
        rw [if_neg quitting, credits, if_pos ⟨own, status, running⟩]
        refine (consume_meets c (s.succeeded c.slot) h.packetSize).bind ?_
        rintro ⟨flow, buffer, t⟩ _ ⟨consumed, beside⟩
        have passed : Meets (countLimit ≤ s.tracker.snapshot.bytes +
            (s.succeeded c.slot).worth env c) (Handled env c s)
            (passedOn env c.slot (flow, buffer, t)) :=
          (passedOn_meets own status running consumed.symm beside).widen False.elim
        cases flow <;> exact passed
    · rw [if_pos status]
      refine Meets.bind_ok (sound.release_eq lent rfl) ?_
      rw [Pool.put_put]
      exact Handled.failed own status
  · exact Meets.bind_ok (Pool.complete_stray own) (Handled.stray own)

theorem Handled.sound {c : Completion} {s t : Stream σ} (h : Handled env c s t) (sound : s.Sound) :
    t.Sound := by
  cases h with
  | stray stray => exact ⟨sound.pool, sound.tracker, sound.packetSize⟩
  | failed own status => exact ⟨Pool.put_sound _ _ _, sound.tracker, sound.packetSize⟩
  | dropped own status quitting => exact ⟨Pool.put_sound _ _ _, sound.tracker, sound.packetSize⟩
  | stopped own status running buffer t consumed beside
  | resubmitted own status running buffer t consumed beside accepted
  | refused own status running buffer t consumed beside source answer =>
      have succeeded : (s.succeeded c.slot).Sound :=
        ⟨Pool.put_sound _ _ _, sound.tracker, sound.packetSize⟩
      have after : t.Sound := beside.sound succeeded
      exact ⟨Pool.put_sound _ _ _, after.tracker, after.packetSize⟩

end Stream

end Session

end BulkStream
