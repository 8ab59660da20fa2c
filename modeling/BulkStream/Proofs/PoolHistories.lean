import BulkStream.Proofs.PoolCalls

/-!
Histories of a pool. After whatever calls, in whatever order and with whatever answers of the
transport and of the one who fills buffers, the counts of a pool agree with its table and every slot
has moved along its course: from held or lent to in flight by an accepted submission only, from
there back by completion or, if given up, to released, and never on from released.
-/
namespace BulkStream.Pool

section

variable {σ : Type} (submit : Request → σ → Except TransportError Unit × σ)
  (fill : Nat → Bytes → σ → (Flow × Bytes) × σ)

/-- Calls one after the other, each on the pool that the one before it left. -/
def work : List Operation → Pool → σ → Except Fault (List (Call σ))
  | [], _, _ => .ok []
  | operation :: rest, p, world => do
      let call ← perform submit fill operation p world
      let calls ← work rest call.after call.world
      return call :: calls

/-- Every operation is allowed when its turn comes. -/
def Permitted : List Operation → Pool → σ → Prop
  | [], _, _ => True
  | operation :: rest, p, world =>
      operation.Allowed p ∧
        match perform submit fill operation p world with
        | .ok call => Permitted rest call.after call.world
        | .error _ => True

end

/-- A move of slot `i` in a call of an operation that made the submissions. -/
inductive Moved (operation : Operation) (submissions : List Submission) (i : Nat) :
    Option Slot → Option Slot → Prop
  | stayed (slot : Option Slot) : Moved operation submissions i slot slot
  | taken (buffer : Bytes) (take : operation = .take i) :
      Moved operation submissions i (some (.held buffer)) (some .lent)
  | launched (slot : Slot) (idle : slot.isInFlight = false) (live : slot.isReleased = false)
      (accepted : ∃ s ∈ submissions, s.request.slot = i ∧ s.result = .ok ()) :
      Moved operation submissions i (some slot) (some .inFlight)
  | completed (complete : operation = .complete i) :
      Moved operation submissions i (some .inFlight) (some .lent)
  | freed (slot : Slot) (idle : slot.isInFlight = false) :
      Moved operation submissions i (some slot) (some .released)
  | abandoned (abandon : operation = .abandonInFlight) :
      Moved operation submissions i (some .inFlight) (some .released)

section

variable {p q : Pool} {operation : Operation} {submissions : List Submission} {index i : Nat}
  {result : Except StreamError Unit}

theorem Moved.mono {more : List Submission} {old new : Option Slot}
    (h : Moved operation submissions i old new) (subset : submissions ⊆ more) :
    Moved operation more i old new := by
  cases h with
  | stayed => exact .stayed _
  | taken buffer take => exact .taken buffer take
  | launched slot idle live accepted =>
      obtain ⟨s, member, accepted⟩ := accepted
      exact .launched slot idle live ⟨s, subset member, accepted⟩
  | completed complete => exact .completed complete
  | freed slot idle => exact .freed slot idle
  | abandoned abandon => exact .abandoned abandon

theorem put_other (p : Pool) (slot : Slot) (other : i ≠ index) :
    (p.put index slot).slots[i]? = p.slots[i]? := by
  simp [Array.getElem?_setIfInBounds_ne other.symm]

theorem Moved.put {old slot : Slot} (found : p.slots[index]? = some old)
    (h : Moved operation submissions index (some old) (some slot)) (i : Nat) :
    Moved operation submissions i p.slots[i]? (p.put index slot).slots[i]? := by
  by_cases same : i = index
  · subst same
    rw [found, put_found found]
    exact h
  · rw [put_other p slot same]
    exact .stayed _

theorem Moved.mapSlots {f : Slot → Slot}
    (each : ∀ slot, Moved operation submissions i (some slot) (some (f slot))) :
    Moved operation submissions i p.slots[i]? (p.mapSlots f).slots[i]? := by
  rw [mapSlots_slots, Array.getElem?_map]
  cases p.slots[i]? with
  | none => exact .stayed none
  | some slot => exact each slot

theorem Handed.moved {buffer : Bytes} {old : Slot}
    (handed : Handed p index buffer result q submissions) (found : p.slots[index]? = some old)
    (idle : old.isInFlight = false) (live : old.isReleased = false) (i : Nat) :
    Moved operation submissions i p.slots[i]? q.slots[i]? := by
  cases handed with
  | accepted =>
      exact .put found (.launched old idle live ⟨_, List.mem_singleton_self _, rfl, rfl⟩) i
  | refused source => exact .put found (.freed old idle) i

theorem SlotPrimed.moved (primed : SlotPrimed p index result q submissions) (i : Nat) :
    Moved operation submissions i p.slots[i]? q.slots[i]? := by
  cases primed with
  | passed => exact .stayed _
  | stopped buffer held => exact .put held (.freed (.held buffer) rfl) i
  | handed buffer filled held handed => exact handed.moved held rfl rfl i

theorem SlotPrimed.other (primed : SlotPrimed p index result q submissions) (other : i ≠ index) :
    q.slots[i]? = p.slots[i]? := by
  cases primed with
  | passed => rfl
  | stopped => exact put_other p _ other
  | handed _ _ _ handed => cases handed <;> exact put_other p _ other

theorem Primed.other {indices : List Nat} (primed : Primed indices p result q submissions)
    (outside : i ∉ indices) : q.slots[i]? = p.slots[i]? := by
  induction primed with
  | done => rfl
  | further slot onward ih =>
      rw [List.mem_cons, not_or] at outside
      exact (ih outside.2).trans (slot.other outside.1)
  | cut slot =>
      rw [List.mem_cons, not_or] at outside
      exact slot.other outside.1

theorem Primed.moved {indices : List Nat} (primed : Primed indices p result q submissions)
    (distinct : indices.Nodup) (i : Nat) :
    Moved operation submissions i p.slots[i]? q.slots[i]? := by
  induction primed with
  | done => exact .stayed _
  | @further index rest p q r result first later slot onward ih =>
      rw [List.nodup_cons] at distinct
      by_cases here : i = index
      · rw [onward.other (here ▸ distinct.1)]
        exact (slot.moved i).mono (List.subset_append_left first later)
      · rw [← slot.other here]
        exact (ih distinct.2).mono (List.subset_append_right first later)
  | cut slot => exact slot.moved i

theorem Effect.moved {answer : Except StreamError (Option Bytes)}
    (effect : Effect p operation answer q submissions) (i : Nat) :
    Moved operation submissions i p.slots[i]? q.slots[i]? := by
  cases effect with
  | primed primed => exact primed.moved List.nodup_range i
  | taken index buffer held =>
      by_cases here : i = index
      · subst here
        exact .put held (.taken buffer rfl) i
      · rw [put_other p .lent here]
        exact .stayed _
  | completed index running =>
      by_cases here : i = index
      · subst here
        exact .put running (.completed rfl) i
      · rw [put_other p .lent here]
        exact .stayed _
  | resubmitted index buffer lent handed => exact handed.moved lent rfl rfl i
  | freed index slot found idle live => exact .put found (.freed slot idle) i
  | kept | stray | spared => exact .stayed _
  | idleReleased =>
      apply Moved.mapSlots
      intro slot
      cases slot with
      | inFlight => exact .stayed _
      | held _ | lent | released => exact .freed _ rfl
  | abandoned =>
      apply Moved.mapSlots
      intro slot
      cases slot with
      | inFlight => exact .abandoned rfl
      | held _ | lent | released => exact .stayed _

theorem Handed.submission {buffer : Bytes} (handed : Handed p index buffer result q submissions)
    {s : Submission} (member : s ∈ submissions) : s.request.slot = index := by
  cases handed <;> rw [List.mem_singleton.mp member] <;> rfl

theorem SlotPrimed.submission (primed : SlotPrimed p index result q submissions) {s : Submission}
    (member : s ∈ submissions) : s.request.slot = index := by
  cases primed with
  | passed | stopped => cases member
  | handed _ _ _ handed => exact handed.submission member

theorem Primed.submission {indices : List Nat} (primed : Primed indices p result q submissions)
    {s : Submission} (member : s ∈ submissions) : s.request.slot ∈ indices := by
  induction primed with
  | done => cases member
  | further slot onward ih =>
      rcases List.mem_append.mp member with here | later
      · exact slot.submission here ▸ List.mem_cons_self
      · exact List.mem_cons_of_mem _ (ih later)
  | cut slot => exact slot.submission member ▸ List.mem_cons_self

/-- The transport refuses a slot: the call fails with its error, the slot is gone, and no slot behind
it is touched. -/
structure Refusal {α : Type} (p q : Pool) (result : Except StreamError α) (index : Nat)
    (source : TransportError) : Prop where
  answer : result = .error (.submission index source)
  released : q.slots[index]? = some .released
  behind (i : Nat) (later : index < i) : q.slots[i]? = p.slots[i]?

theorem Handed.refusal {buffer : Bytes} {slot : Slot}
    (handed : Handed p index buffer result q submissions) (found : p.slots[index]? = some slot)
    {s : Submission} (member : s ∈ submissions) {source : TransportError}
    (refused : s.result = .error source) : Refusal p q result s.request.slot source := by
  cases handed with
  | accepted =>
      rw [List.mem_singleton.mp member] at refused
      cases refused
  | refused cause =>
      rw [List.mem_singleton.mp member] at refused ⊢
      cases refused
      exact ⟨rfl, put_found found .released, fun i later => put_other p _ (Nat.ne_of_gt later)⟩

theorem SlotPrimed.refusal (primed : SlotPrimed p index result q submissions) {s : Submission}
    (member : s ∈ submissions) {source : TransportError} (refused : s.result = .error source) :
    Refusal p q result s.request.slot source := by
  cases primed with
  | passed | stopped => cases member
  | handed _ _ held handed => exact handed.refusal held member refused

theorem Primed.refusal {indices : List Nat} (primed : Primed indices p result q submissions)
    (ascending : indices.Pairwise (· < ·)) {s : Submission} (member : s ∈ submissions)
    {source : TransportError} (refused : s.result = .error source) :
    Refusal p q result s.request.slot source := by
  induction primed with
  | done => cases member
  | further slot onward ih =>
      rw [List.pairwise_cons] at ascending
      rcases List.mem_append.mp member with here | later
      · cases (slot.refusal here refused).answer
      · obtain ⟨answer, released, behind⟩ := ih ascending.2 later
        refine ⟨answer, released, ?_⟩
        intro i beyond
        have above : _ < s.request.slot := ascending.1 _ (onward.submission later)
        exact (behind i beyond).trans (slot.other (Nat.ne_of_gt (above.trans beyond)))
  | cut slot => exact slot.refusal member refused

theorem Handed.launched {buffer : Bytes} {slot : Slot}
    (handed : Handed p index buffer result q submissions) (found : p.slots[index]? = some slot)
    {s : Submission} (member : s ∈ submissions) (accepted : s.result = .ok ()) :
    s.request.slot ∈ q.slotsInFlight := by
  cases handed with
  | accepted =>
      rw [List.mem_singleton.mp member]
      exact mem_slotsInFlight.mpr (put_found found .inFlight)
  | refused source =>
      rw [List.mem_singleton.mp member] at accepted
      cases accepted

theorem SlotPrimed.launched (primed : SlotPrimed p index result q submissions) {s : Submission}
    (member : s ∈ submissions) (accepted : s.result = .ok ()) :
    s.request.slot ∈ q.slotsInFlight := by
  cases primed with
  | passed | stopped => cases member
  | handed _ _ held handed => exact handed.launched held member accepted

theorem Primed.launched {indices : List Nat} (primed : Primed indices p result q submissions)
    (distinct : indices.Nodup) {s : Submission} (member : s ∈ submissions)
    (accepted : s.result = .ok ()) : s.request.slot ∈ q.slotsInFlight := by
  induction primed with
  | done => cases member
  | further slot onward ih =>
      rw [List.nodup_cons] at distinct
      rcases List.mem_append.mp member with here | later
      · have running := mem_slotsInFlight.mp (slot.launched here accepted)
        rw [slot.submission here] at running ⊢
        exact mem_slotsInFlight.mpr ((onward.other distinct.1).trans running)
      · exact ih distinct.2 later
  | cut slot => exact slot.launched member accepted

variable {answer : Except StreamError (Option Bytes)}

theorem Effect.launched (effect : Effect p operation answer q submissions) {s : Submission}
    (member : s ∈ submissions) (accepted : s.result = .ok ()) :
    s.request.slot ∈ q.slotsInFlight := by
  cases effect with
  | primed primed => exact primed.launched List.nodup_range member accepted
  | resubmitted _ _ lent handed => exact handed.launched lent member accepted
  | taken | kept | completed | stray | freed | spared | idleReleased | abandoned => cases member

theorem Effect.refusal (effect : Effect p operation answer q submissions) {s : Submission}
    (member : s ∈ submissions) {source : TransportError} (refused : s.result = .error source) :
    Refusal p q answer s.request.slot source := by
  cases effect with
  | primed primed =>
      obtain ⟨rfl, released, behind⟩ := primed.refusal List.pairwise_lt_range member refused
      exact ⟨rfl, released, behind⟩
  | resubmitted _ _ lent handed =>
      obtain ⟨rfl, released, behind⟩ := handed.refusal lent member refused
      exact ⟨rfl, released, behind⟩
  | taken | kept | completed | stray | freed | spared | idleReleased | abandoned => cases member

theorem Primed.sound {indices : List Nat} (primed : Primed indices p result q submissions)
    (h : p.Sound) : q.Sound := by
  induction primed with
  | done => exact h
  | further slot onward ih => exact ih (slot.sound h)
  | cut slot => exact slot.sound h

theorem Effect.sound (effect : Effect p operation answer q submissions) (h : p.Sound) :
    q.Sound := by
  cases effect with
  | primed primed => exact primed.sound h
  | resubmitted _ _ lent handed => exact handed.sound
  | kept | stray | spared => exact h
  | taken index | completed index | freed index => exact put_sound p index _
  | idleReleased | abandoned => exact mapSlots_sound _ p

/-- What no operation changes: the number of slots, their direction and the length of a buffer. -/
def shape (p : Pool) : Nat × Direction × Nat := (p.capacity, p.direction, p.bufferLength)

@[simp] theorem shape_put (p : Pool) (index : Nat) (slot : Slot) :
    (p.put index slot).shape = p.shape :=
  congrArg (·, p.direction, p.bufferLength) (put_capacity p index slot)

@[simp] theorem shape_mapSlots (f : Slot → Slot) (p : Pool) : (p.mapSlots f).shape = p.shape :=
  congrArg (·, p.direction, p.bufferLength) Array.size_map

theorem Handed.shape_eq {buffer : Bytes} (handed : Handed p index buffer result q submissions) :
    q.shape = p.shape := by
  cases handed <;> simp

theorem SlotPrimed.shape_eq (primed : SlotPrimed p index result q submissions) :
    q.shape = p.shape := by
  cases primed with
  | passed => rfl
  | stopped => simp
  | handed _ _ _ handed => exact handed.shape_eq

theorem Primed.shape_eq {indices : List Nat} (primed : Primed indices p result q submissions) :
    q.shape = p.shape := by
  induction primed with
  | done => rfl
  | further slot onward ih => exact ih.trans slot.shape_eq
  | cut slot => exact slot.shape_eq

theorem Effect.shape_eq (effect : Effect p operation answer q submissions) :
    q.shape = p.shape := by
  cases effect with
  | primed primed => exact primed.shape_eq
  | resubmitted _ _ lent handed => exact handed.shape_eq
  | kept | stray | spared => rfl
  | taken | completed | freed | idleReleased | abandoned => simp

theorem bufferLength_of_shape (same : q.shape = p.shape) : q.bufferLength = p.bufferLength :=
  congrArg (fun shape => shape.2.2) same

theorem Handed.request_length {buffer : Bytes}
    (handed : Handed p index buffer result q submissions) :
    ∀ s ∈ submissions, s.request.length = p.bufferLength := by
  intro s member
  cases handed <;> rw [List.mem_singleton.mp member] <;> rfl

theorem SlotPrimed.request_length (primed : SlotPrimed p index result q submissions) :
    ∀ s ∈ submissions, s.request.length = p.bufferLength := by
  cases primed with
  | passed | stopped => nofun
  | handed _ _ _ handed => exact handed.request_length

theorem Primed.request_length {indices : List Nat}
    (primed : Primed indices p result q submissions) :
    ∀ s ∈ submissions, s.request.length = p.bufferLength := by
  induction primed with
  | done => nofun
  | further slot onward ih =>
      rw [bufferLength_of_shape slot.shape_eq] at ih
      exact List.forall_mem_append.mpr ⟨slot.request_length, ih⟩
  | cut slot => exact slot.request_length

/-- Every request of a pool moves a whole buffer. -/
theorem Effect.request_length (effect : Effect p operation answer q submissions) :
    ∀ s ∈ submissions, s.request.length = p.bufferLength := by
  cases effect with
  | primed primed => exact primed.request_length
  | resubmitted _ _ lent handed => exact handed.request_length
  | kept | stray | spared | taken | completed | freed | idleReleased | abandoned => nofun

end

/-- What holds of every call. -/
structure Call.Lawful {σ : Type} (c : Call σ) : Prop where
  /-- `inFlight` counts the slots in flight, `live` those that are not released. -/
  sound : c.after.Sound
  live_add_released : c.after.live + c.after.released = c.after.capacity
  shape : c.after.shape = c.before.shape
  released_stays (i : Nat) (gone : c.before.slots[i]? = some .released) :
    c.after.slots[i]? = some .released
  live_le : c.after.live ≤ c.before.live
  /-- A slot enters the transport by an accepted submission of it. -/
  enters (i : Nat) (idle : i ∉ c.before.slotsInFlight) (running : i ∈ c.after.slotsInFlight) :
    ∃ s ∈ c.submissions, s.request.slot = i ∧ s.result = .ok ()
  accepted (s : Submission) (made : s ∈ c.submissions) (accepted : s.result = .ok ()) :
    s.request.slot ∈ c.after.slotsInFlight
  /-- A slot leaves the transport when it is completed, or when all are given up. -/
  leaves (i : Nat) (running : i ∈ c.before.slotsInFlight) (idle : i ∉ c.after.slotsInFlight) :
    (c.operation = .complete i ∧ c.after.slots[i]? = some .lent) ∨
      (c.operation = .abandonInFlight ∧ c.after.slots[i]? = some .released)
  refused (s : Submission) (made : s ∈ c.submissions) (source : TransportError)
    (refused : s.result = .error source) :
    Refusal c.before c.after c.answer s.request.slot source
  /-- A slot whose resubmission is refused is the only one that changes. -/
  resubmit_refused (i : Nat) (buffer : Bytes) (source : TransportError)
    (resubmit : c.operation = .resubmit i buffer)
    (refused : c.answer = .error (.submission i source)) :
    c.after.slots = c.before.slots.setIfInBounds i .released ∧
      c.after.inFlight = c.before.inFlight ∧ c.after.live + 1 = c.before.live
  take_unheld (i : Nat) (take : c.operation = .take i)
    (unheld : ∀ buffer, c.before.slots[i]? ≠ some (.held buffer)) :
    c.answer = .ok none ∧ c.after = c.before
  release_gone (i : Nat) (release : c.operation = .release i)
    (gone : ∀ slot, c.before.slots[i]? = some slot →
      slot.isInFlight = true ∨ slot.isReleased = true) : c.after = c.before
  complete_stray (i : Nat) (complete : c.operation = .complete i)
    (stray : c.before.slots[i]? ≠ some .inFlight) :
    c.answer = .error (notInFlight i) ∧ c.after = c.before

section

variable {operation : Operation} {submissions : List Submission} {i : Nat} {new : Option Slot}

theorem Moved.of_released (h : Moved operation submissions i (some .released) new) :
    new = some .released := by
  cases h with
  | stayed | freed => rfl
  | launched _ _ live => cases live

theorem Moved.live {old : Option Slot} (h : Moved operation submissions i old new) {slot : Slot}
    (found : new = some slot) (live : slot.isReleased = false) :
    ∃ before, old = some before ∧ before.isReleased = false := by
  cases h with
  | stayed => exact ⟨slot, found, live⟩
  | taken buffer => exact ⟨_, rfl, rfl⟩
  | launched before _ live => exact ⟨before, rfl, live⟩
  | completed => exact ⟨_, rfl, rfl⟩
  | freed | abandoned =>
      cases found
      cases live

end

section

variable {p q : Pool} {operation : Operation} {submissions : List Submission} {i : Nat}
  {answer : Except StreamError (Option Bytes)}

theorem Effect.live_le (effect : Effect p operation answer q submissions) (h : p.Sound) :
    q.live ≤ p.live := by
  rw [h.live_eq, (effect.sound h).live_eq]
  apply Finset.card_le_card
  intro i member
  obtain ⟨slot, found, live⟩ := mem_slotsWhere.mp member
  obtain ⟨before, there, live⟩ := (effect.moved i).live found (by simpa using live)
  exact mem_slotsWhere.mpr ⟨before, there, by simp [live]⟩

theorem Effect.resubmit_refused {buffer : Bytes} {source : TransportError}
    (effect : Effect p (.resubmit i buffer) answer q submissions) (h : p.Sound)
    (refused : answer = .error (.submission i source)) :
    q.slots = p.slots.setIfInBounds i .released ∧ q.inFlight = p.inFlight ∧
      q.live + 1 = p.live := by
  cases effect with
  | resubmitted _ _ lent handed =>
      cases handed with
      | accepted => cases refused
      | refused _ =>
          have others : (p.put i .released).slotsInFlight = p.slotsInFlight :=
            slotsInFlight_put_absent (notMem_slotsInFlight lent rfl) rfl
          refine ⟨rfl, ?_, h.live_put_released lent rfl⟩
          rw [(put_sound p i .released).inFlight_eq, others, h.inFlight_eq]

theorem Effect.take_unheld (effect : Effect p (.take i) answer q submissions)
    (unheld : ∀ buffer, p.slots[i]? ≠ some (.held buffer)) : answer = .ok none ∧ q = p := by
  cases effect with
  | taken _ buffer held => exact absurd held (unheld buffer)
  | kept => exact ⟨rfl, rfl⟩

theorem Effect.release_gone (effect : Effect p (.release i) answer q submissions)
    (gone : ∀ slot, p.slots[i]? = some slot →
      slot.isInFlight = true ∨ slot.isReleased = true) : q = p := by
  cases effect with
  | freed _ slot found idle live => simpa [idle, live] using gone slot found
  | spared => rfl

theorem Effect.complete_stray (effect : Effect p (.complete i) answer q submissions)
    (stray : p.slots[i]? ≠ some .inFlight) : answer = .error (notInFlight i) ∧ q = p := by
  cases effect with
  | completed _ running => exact absurd running stray
  | stray => exact ⟨rfl, rfl⟩

end

variable {σ : Type}

theorem Effect.lawful {c : Call σ} (h : c.before.Sound)
    (effect : Effect c.before c.operation c.answer c.after c.submissions) : c.Lawful where
  sound := effect.sound h
  live_add_released := Nat.add_sub_of_le (effect.sound h).live_le_capacity
  shape := effect.shape_eq
  released_stays i gone := by
    have moved := effect.moved i
    rw [gone] at moved
    exact moved.of_released
  live_le := effect.live_le h
  enters i idle running := by
    rw [mem_slotsInFlight] at idle running
    have moved := effect.moved i
    rw [running] at moved
    generalize c.before.slots[i]? = old at moved idle
    cases moved with
    | stayed => exact absurd rfl idle
    | launched _ _ _ accepted => exact accepted
  accepted s made accepted := effect.launched made accepted
  leaves i running idle := by
    rw [mem_slotsInFlight] at idle running
    have moved := effect.moved i
    rw [running] at moved
    generalize c.after.slots[i]? = new at moved idle
    cases moved with
    | stayed => exact absurd rfl idle
    | launched => exact absurd rfl idle
    | completed complete => exact .inl ⟨complete, rfl⟩
    | freed _ held => cases held
    | abandoned abandon => exact .inr ⟨abandon, rfl⟩
  refused s made source refused := effect.refusal made refused
  resubmit_refused i buffer source resubmit refused :=
    (resubmit ▸ effect).resubmit_refused h refused
  take_unheld i take unheld := (take ▸ effect).take_unheld unheld
  release_gone i release gone := (release ▸ effect).release_gone gone
  complete_stray i complete stray := (complete ▸ effect).complete_stray stray

variable (submit : Request → σ → Except TransportError Unit × σ)
  (fill : Nat → Bytes → σ → (Flow × Bytes) × σ)

theorem Sound.work_lawful {p : Pool} (h : p.Sound) {operations : List Operation} {world : σ}
    (permitted : Permitted submit fill operations p world) :
    ∃ calls, work submit fill operations p world = .ok calls ∧
      calls.map Call.operation = operations ∧ ∀ c ∈ calls, c.Lawful := by
  induction operations generalizing p world with
  | nil => exact ⟨[], rfl, rfl, by simp⟩
  | cons operation rest ih =>
      obtain ⟨allowed, onward⟩ := permitted
      obtain ⟨call, done, rfl, rfl, effect⟩ := h.perform_effect submit fill allowed world
      rw [done] at onward
      obtain ⟨calls, worked, rfl, lawful⟩ := ih (effect.sound h) onward
      refine ⟨call :: calls, ?_, rfl, List.forall_mem_cons.mpr ⟨effect.lawful h, lawful⟩⟩
      rw [work, done]
      simp only [worked, bind, Except.bind, pure, Except.pure]

theorem Sound.work_request_length {p : Pool} (h : p.Sound) {operations : List Operation} {world : σ}
    (permitted : Permitted submit fill operations p world) {calls : List (Call σ)}
    (worked : work submit fill operations p world = .ok calls) :
    ∀ c ∈ calls, ∀ s ∈ c.submissions, s.request.length = p.bufferLength := by
  induction operations generalizing p world calls with
  | nil =>
      cases worked
      exact List.forall_mem_nil _
  | cons operation rest ih =>
      obtain ⟨allowed, onward⟩ := permitted
      obtain ⟨call, done, rfl, rfl, effect⟩ := h.perform_effect submit fill allowed world
      rw [done] at onward
      obtain ⟨later, worked', -, -⟩ := (effect.sound h).work_lawful submit fill onward
      rw [work, done] at worked
      simp only [worked', bind, Except.bind, pure, Except.pure, Except.ok.injEq] at worked
      have requests := ih (effect.sound h) onward worked'
      rw [bufferLength_of_shape effect.shape_eq] at requests
      rw [← worked, List.forall_mem_cons]
      exact ⟨effect.request_length, requests⟩

/-- A request that a pool allocated for packets of some size submits, whatever is asked of it. -/
inductive Submits (packetSize : Nat) : Request → Prop
  | made {σ : Type} (submit : Request → σ → Except TransportError Unit × σ)
      (fill : Nat → Bytes → σ → (Flow × Bytes) × σ) {direction : Direction}
      {packetsPerTransfer transferCount : Nat} {p : Pool}
      (allocated : allocate direction packetSize packetsPerTransfer transferCount = .ok p)
      {operations : List Operation} {world : σ}
      (permitted : Permitted submit fill operations p world) {calls : List (Call σ)}
      (worked : work submit fill operations p world = .ok calls) {c : Call σ} (call : c ∈ calls)
      {s : Submission} (submission : s ∈ c.submissions) : Submits packetSize s.request

theorem Submits.full {packetSize : Nat} {r : Request} (h : Submits packetSize r) :
    packetSize ∣ r.length := by
  cases h with
  | @made σ submit fill direction _ transferCount p allocated _ _ permitted _ worked _ call _ made =>
      have length := allocate_bufferLength allocated
      obtain ⟨bufferLength, rfl⟩ := allocate_fresh allocated
      have same := (fresh_sound direction bufferLength transferCount).work_request_length submit fill
        permitted worked _ call _ made
      rw [same, length]
      exact Nat.dvd_mul_right _ _

/-- Whatever is asked of an allocated pool, in whatever order, with whatever answers of the transport
and of the one who fills buffers: if only lent slots are resubmitted, every call comes to an end and
keeps the law. -/
theorem allocated_pool_lawful {direction : Direction}
    {packetSize packetsPerTransfer transferCount : Nat} {p : Pool}
    (allocated : allocate direction packetSize packetsPerTransfer transferCount = .ok p)
    (operations : List Operation) (world : σ)
    (permitted : Permitted submit fill operations p world) :
    ∃ calls, work submit fill operations p world = .ok calls ∧
      calls.map Call.operation = operations ∧ ∀ c ∈ calls, c.Lawful := by
  obtain ⟨bufferLength, rfl⟩ := allocate_fresh allocated
  exact (fresh_sound direction bufferLength transferCount).work_lawful submit fill permitted

section

/-- A transport that refuses the second submission; its state counts them. -/
def faltering (_ : Request) (made : Nat) : Except TransportError Unit × Nat :=
  (if made = 1 then .error .disconnected else .ok (), made + 1)

/-- One who fills every buffer but that of the third slot. -/
def grudging (index : Nat) (buffer : Bytes) (made : Nat) : (Flow × Bytes) × Nat :=
  ((if index = 2 then .stop else .proceed, buffer), made)

/-- Priming fails at the second of three slots and is repeated; the first slot goes round. -/
def interruptedPriming : List Operation :=
  [.prime, .prime, .take 1, .complete 0, .release 5, .resubmit 0 [1], .complete 2, .releaseIdle,
    .abandonInFlight]

theorem interrupted_priming_lawful :
    allocate .write 8 1 3 = .ok (fresh .write 8 3) ∧
      Permitted faltering grudging interruptedPriming (fresh .write 8 3) 0 ∧
      ∃ calls, work faltering grudging interruptedPriming (fresh .write 8 3) 0 = .ok calls ∧
        calls.map Call.operation = interruptedPriming ∧ ∀ c ∈ calls, c.Lawful := by
  have allocated : allocate .write 8 1 3 = .ok (fresh .write 8 3) := rfl
  have permitted : Permitted faltering grudging interruptedPriming (fresh .write 8 3) 0 :=
    ⟨trivial, trivial, trivial, trivial, trivial, rfl, trivial, trivial, trivial, trivial⟩
  exact ⟨allocated, permitted,
    allocated_pool_lawful faltering grudging allocated interruptedPriming 0 permitted⟩

end

end BulkStream.Pool
