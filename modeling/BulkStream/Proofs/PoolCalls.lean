import BulkStream.Proofs.PoolOperations

/-!
Calls of a pool's operations. A call is kept with what it was made on, its answer, the submissions
that it made and the pool it left. On a sound pool every allowed call comes to an end, with one of
the effects that its operation can have.
-/
namespace BulkStream.Pool

/-- A request as it was submitted, and the transport's answer. -/
structure Submission where
  request : Request
  result : Except TransportError Unit

inductive Operation
  | prime
  | take (index : Nat)
  | complete (index : Nat)
  | resubmit (index : Nat) (buffer : Bytes)
  | release (index : Nat)
  | releaseIdle
  | abandonInFlight

/-- Only a lent slot can be resubmitted; anything else can be asked of a pool at any time. -/
def Operation.Allowed : Operation → Pool → Prop
  | .resubmit index _, p => p.slots[index]? = some .lent
  | .prime, _ | .take _, _ | .complete _, _ | .release _, _ | .releaseIdle, _
  | .abandonInFlight, _ => True

/-- A call of one of the operations, with the submissions that it made and the state `world` that it
left behind. Its answer is an error or, where a buffer was taken, that buffer. -/
structure Call (σ : Type) where
  operation : Operation
  before : Pool
  answer : Except StreamError (Option Bytes)
  after : Pool
  submissions : List Submission
  world : σ

section

variable {σ : Type} (submit : Request → σ → Except TransportError Unit × σ)
  (fill : Nat → Bytes → σ → (Flow × Bytes) × σ)

/-- Submitting, with a note of every submission. -/
def noted (request : Request) (state : σ × List Submission) :
    Except TransportError Unit × σ × List Submission :=
  let (result, world) := submit request state.1
  (result, world, state.2 ++ [⟨request, result⟩])

def unnoted (index : Nat) (buffer : Bytes) (state : σ × List Submission) :
    (Flow × Bytes) × σ × List Submission :=
  let (answer, world) := fill index buffer state.1
  (answer, world, state.2)

/-- A handover as it is without the notes. -/
def plain (handover : Handover (σ × List Submission)) : Handover σ :=
  ⟨handover.result, handover.pool, handover.world.1⟩

variable {submit} in
theorem resubmit_noted (p : Pool) (index : Nat) (buffer : Bytes) (state : σ × List Submission) :
    p.resubmit submit index buffer state.1 =
      (p.resubmit (noted submit) index buffer state).map plain := by
  simp only [resubmit, noted]
  split
  · rfl
  · split <;> rename_i answer <;> simp only [answer]
    · rfl
    · cases forget _ index <;> rfl
  · rfl

variable {submit fill} in
theorem primeSlot_noted (p : Pool) (index : Nat) (state : σ × List Submission) :
    p.primeSlot submit fill index state.1 =
      (p.primeSlot (noted submit) (unnoted fill) index state).map plain := by
  simp only [primeSlot, unnoted]
  split
  · split
    · exact resubmit_noted _ index _ state
    · split <;> rename_i answer <;> simp only [answer]
      · exact resubmit_noted _ index _ (_, state.2)
      · cases release _ index <;> rfl
  · rfl

/-- Noting the submissions changes nothing in the priming of a pool. -/
theorem prime_noted (p : Pool) (state : σ × List Submission) :
    p.prime submit fill state.1 = (p.prime (noted submit) (unnoted fill) state).map plain := by
  have slotwise (indices : List Nat) : primeSlots submit fill indices p state.1 =
      (primeSlots (noted submit) (unnoted fill) indices p state).map plain := by
    induction indices generalizing p state with
    | nil => rfl
    | cons index rest ih =>
        rw [primeSlots, primeSlots, primeSlot_noted]
        cases primeSlot (noted submit) (unnoted fill) p index state with
        | error fault => rfl
        | ok handover =>
            obtain ⟨result, q, onward⟩ := handover
            cases result with
            | ok _ => exact ih q onward
            | error _ => rfl
  exact slotwise (List.range p.capacity)

def Call.ofHandover (operation : Operation) (before : Pool)
    (handover : Handover (σ × List Submission)) : Call σ :=
  { operation, before, answer := handover.result.map fun _ => none, after := handover.pool
    submissions := handover.world.2, world := handover.world.1 }

def perform (operation : Operation) (p : Pool) (world : σ) : Except Fault (Call σ) :=
  match operation with
  | .prime => do
      let handover ← p.prime (noted submit) (unnoted fill) (world, [])
      return Call.ofHandover operation p handover
  | .take index =>
      match p.take index with
      | some (buffer, after) => .ok ⟨operation, p, .ok (some buffer), after, [], world⟩
      | none => .ok ⟨operation, p, .ok none, p, [], world⟩
  | .complete index => do
      let (result, after) ← p.complete index
      return ⟨operation, p, result.map fun _ => none, after, [], world⟩
  | .resubmit index buffer => do
      let handover ← p.resubmit (noted submit) index buffer (world, [])
      return Call.ofHandover operation p handover
  | .release index => do
      let after ← p.release index
      return ⟨operation, p, .ok none, after, [], world⟩
  | .releaseIdle => do
      let after ← p.releaseIdle
      return ⟨operation, p, .ok none, after, [], world⟩
  | .abandonInFlight => do
      let after ← p.abandonInFlight
      return ⟨operation, p, .ok none, after, [], world⟩

end

/-! What each operation does to a sound pool. -/

/-- What comes of handing over a slot: it is in flight, or it is released. -/
inductive Handed (p : Pool) (index : Nat) (buffer : Bytes) :
    Except StreamError Unit → Pool → List Submission → Prop
  | accepted : Handed p index buffer (.ok ()) (p.put index .inFlight)
      [⟨p.request index buffer, .ok ()⟩]
  | refused (source : TransportError) : Handed p index buffer (.error (.submission index source))
      (p.put index .released) [⟨p.request index buffer, .error source⟩]

inductive SlotPrimed (p : Pool) (index : Nat) :
    Except StreamError Unit → Pool → List Submission → Prop
  | passed (unheld : ∀ buffer, p.slots[index]? ≠ some (.held buffer)) :
      SlotPrimed p index (.ok ()) p []
  | stopped (buffer : Bytes) (held : p.slots[index]? = some (.held buffer)) :
      SlotPrimed p index (.ok ()) (p.put index .released) []
  | handed (buffer filled : Bytes) (held : p.slots[index]? = some (.held buffer))
      {result : Except StreamError Unit} {q : Pool} {submissions : List Submission}
      (handed : Handed p index filled result q submissions) :
      SlotPrimed p index result q submissions

inductive Primed : List Nat → Pool → Except StreamError Unit → Pool → List Submission → Prop
  | done (p : Pool) : Primed [] p (.ok ()) p []
  | further {index : Nat} {rest : List Nat} {p q r : Pool} {result : Except StreamError Unit}
      {first later : List Submission} (slot : SlotPrimed p index (.ok ()) q first)
      (onward : Primed rest q result r later) :
      Primed (index :: rest) p result r (first ++ later)
  | cut {index : Nat} {rest : List Nat} {p q : Pool} {error : StreamError}
      {submissions : List Submission} (slot : SlotPrimed p index (.error error) q submissions) :
      Primed (index :: rest) p (.error error) q submissions

inductive Effect (p : Pool) :
    Operation → Except StreamError (Option Bytes) → Pool → List Submission → Prop
  | primed {result : Except StreamError Unit} {q : Pool} {submissions : List Submission}
      (primed : Primed (List.range p.capacity) p result q submissions) :
      Effect p .prime (result.map fun _ => none) q submissions
  | taken (index : Nat) (buffer : Bytes) (held : p.slots[index]? = some (.held buffer)) :
      Effect p (.take index) (.ok (some buffer)) (p.put index .lent) []
  | kept (index : Nat) (unheld : ∀ buffer, p.slots[index]? ≠ some (.held buffer)) :
      Effect p (.take index) (.ok none) p []
  | completed (index : Nat) (running : p.slots[index]? = some .inFlight) :
      Effect p (.complete index) (.ok none) (p.put index .lent) []
  | stray (index : Nat) (idle : p.slots[index]? ≠ some .inFlight) :
      Effect p (.complete index) (.error (notInFlight index)) p []
  | resubmitted (index : Nat) (buffer : Bytes) (lent : p.slots[index]? = some .lent)
      {result : Except StreamError Unit} {q : Pool} {submissions : List Submission}
      (handed : Handed p index buffer result q submissions) :
      Effect p (.resubmit index buffer) (result.map fun _ => none) q submissions
  | freed (index : Nat) (slot : Slot) (found : p.slots[index]? = some slot)
      (idle : slot.isInFlight = false) (live : slot.isReleased = false) :
      Effect p (.release index) (.ok none) (p.put index .released) []
  | spared (index : Nat) (gone : ∀ slot, p.slots[index]? = some slot →
      slot.isInFlight = true ∨ slot.isReleased = true) :
      Effect p (.release index) (.ok none) p []
  | idleReleased : Effect p .releaseIdle (.ok none) (p.mapSlots ifInFlight) []
  | abandoned : Effect p .abandonInFlight (.ok none) (p.mapSlots ifIdle) []

section

variable {σ : Type} (submit : Request → σ → Except TransportError Unit × σ)
  (fill : Nat → Bytes → σ → (Flow × Bytes) × σ) {p : Pool} {index : Nat}

theorem Sound.resubmit_handed (h : p.Sound) (lent : p.slots[index]? = some .lent) (buffer : Bytes)
    (state : σ × List Submission) :
    ∃ result q submissions world, p.resubmit (noted submit) index buffer state =
        .ok ⟨result, q, world, state.2 ++ submissions⟩ ∧ Handed p index buffer result q submissions := by
  cases answer : (submit (p.request index buffer) state.1).1 with
  | ok _ =>
      refine ⟨_, _, _, (submit (p.request index buffer) state.1).2, ?_, .accepted⟩
      rw [h.resubmit_accepted (noted submit) buffer state lent answer]
      simp only [noted, answer]
  | error source =>
      refine ⟨_, _, _, (submit (p.request index buffer) state.1).2, ?_, .refused source⟩
      rw [h.resubmit_refused (noted submit) buffer state lent answer]
      simp only [noted, answer]

theorem Sound.primeSlot_primed (h : p.Sound) (index : Nat) (state : σ × List Submission) :
    ∃ result q submissions world, p.primeSlot (noted submit) (unnoted fill) index state =
        .ok ⟨result, q, world, state.2 ++ submissions⟩ ∧ SlotPrimed p index result q submissions := by
  by_cases unheld : ∀ buffer, p.slots[index]? ≠ some (.held buffer)
  · refine ⟨.ok (), p, [], state.1, ?_, .passed unheld⟩
    rw [primeSlot, List.append_nil]
    split
    · rename_i found
      exact absurd found (unheld _)
    · rfl
  · push Not at unheld
    obtain ⟨buffer, held⟩ := unheld
    have lent : (p.put index .lent).slots[index]? = some .lent := put_found held .lent
    have handed (filled : Bytes) (state : σ × List Submission) :
        ∃ result q submissions world, (p.put index .lent).resubmit (noted submit) index filled state =
          .ok ⟨result, q, world, state.2 ++ submissions⟩ ∧ SlotPrimed p index result q submissions := by
      obtain ⟨result, q, submissions, world, answer, handed⟩ :=
        (put_sound p index .lent).resubmit_handed submit lent filled state
      refine ⟨result, q, submissions, world, answer, .handed buffer filled held ?_⟩
      cases handed with
      | accepted =>
          rw [put_put]
          exact .accepted
      | refused source =>
          rw [put_put]
          exact .refused source
    cases direction : p.direction with
    | read =>
        rw [h.primeSlot_read (noted submit) (unnoted fill) direction held]
        exact handed buffer state
    | write =>
        obtain ⟨⟨⟨flow, filled⟩, world⟩, answer⟩ : ∃ answered, fill index buffer state.1 = answered :=
          ⟨_, rfl⟩
        have asked : unnoted fill index buffer state = ((flow, filled), world, state.2) := by
          simp only [unnoted, answer]
        cases flow with
        | proceed =>
            rw [h.primeSlot_filled (noted submit) (unnoted fill) direction held asked]
            exact handed filled (world, state.2)
        | stop =>
            rw [h.primeSlot_stopped (noted submit) (unnoted fill) direction held asked]
            exact ⟨_, _, [], world, by rw [List.append_nil], .stopped buffer held⟩

theorem Handed.sound {p q : Pool} {index : Nat} {buffer : Bytes} {result : Except StreamError Unit}
    {submissions : List Submission} (handed : Handed p index buffer result q submissions) :
    q.Sound := by
  cases handed <;> exact put_sound p index _

theorem SlotPrimed.sound {p q : Pool} {index : Nat} {result : Except StreamError Unit}
    {submissions : List Submission} (primed : SlotPrimed p index result q submissions)
    (h : p.Sound) : q.Sound := by
  cases primed with
  | passed => exact h
  | stopped => exact put_sound p index .released
  | handed _ _ _ handed => exact handed.sound

theorem Sound.primeSlots_primed (h : p.Sound) (indices : List Nat) (state : σ × List Submission) :
    ∃ result q submissions world, primeSlots (noted submit) (unnoted fill) indices p state =
        .ok ⟨result, q, world, state.2 ++ submissions⟩ ∧ Primed indices p result q submissions := by
  induction indices generalizing p state with
  | nil => exact ⟨.ok (), p, [], state.1, by simp [primeSlots], .done p⟩
  | cons index rest ih =>
      obtain ⟨result, q, first, world, answer, slot⟩ := h.primeSlot_primed submit fill index state
      cases result with
      | error error =>
          refine ⟨.error error, q, first, world, ?_, .cut slot⟩
          rw [primeSlots, answer]
          rfl
      | ok _ =>
          obtain ⟨result, r, later, after, onward, primed⟩ :=
            ih (slot.sound h) (world, state.2 ++ first)
          refine ⟨result, r, first ++ later, after, ?_, .further slot primed⟩
          rw [primeSlots, answer, ← List.append_assoc]
          exact onward

/-- On a sound pool every allowed operation comes to an end, with one of its effects. -/
theorem Sound.perform_effect (h : p.Sound) {operation : Operation} (allowed : operation.Allowed p)
    (world : σ) : ∃ call, perform submit fill operation p world = .ok call ∧
      call.operation = operation ∧ call.before = p ∧
      Effect p operation call.answer call.after call.submissions := by
  cases operation with
  | prime =>
      obtain ⟨result, q, submissions, after, answer, primed⟩ :=
        h.primeSlots_primed submit fill (List.range p.capacity) (world, [])
      refine ⟨⟨.prime, p, result.map fun _ => none, q, submissions, after⟩, ?_, rfl, rfl,
        .primed primed⟩
      rw [perform, prime, answer]
      rfl
  | take index =>
      by_cases unheld : ∀ buffer, p.slots[index]? ≠ some (.held buffer)
      · refine ⟨⟨.take index, p, .ok none, p, [], world⟩, ?_, rfl, rfl, .kept index unheld⟩
        rw [perform, take_unheld unheld]
      · push Not at unheld
        obtain ⟨buffer, held⟩ := unheld
        refine ⟨⟨.take index, p, .ok (some buffer), _, [], world⟩, ?_, rfl, rfl,
          .taken index buffer held⟩
        rw [perform, h.take_held held]
        rfl
  | complete index =>
      by_cases running : p.slots[index]? = some .inFlight
      · refine ⟨⟨.complete index, p, .ok none, _, [], world⟩, ?_, rfl, rfl,
          .completed index running⟩
        rw [perform, h.complete_eq running]
        rfl
      · refine ⟨⟨.complete index, p, .error (notInFlight index), p, [], world⟩, ?_, rfl, rfl,
          .stray index running⟩
        rw [perform, complete_stray running]
        rfl
  | resubmit index buffer =>
      obtain ⟨result, q, submissions, after, answer, handed⟩ :=
        h.resubmit_handed submit allowed buffer (world, [])
      refine ⟨⟨.resubmit index buffer, p, result.map fun _ => none, q, submissions, after⟩, ?_, rfl,
        rfl, .resubmitted index buffer allowed handed⟩
      rw [perform, answer]
      rfl
  | release index =>
      by_cases gone : ∀ slot, p.slots[index]? = some slot →
          slot.isInFlight = true ∨ slot.isReleased = true
      · refine ⟨⟨.release index, p, .ok none, p, [], world⟩, ?_, rfl, rfl, .spared index gone⟩
        rw [perform, release_gone gone]
        rfl
      · push Not at gone
        obtain ⟨slot, found, idle, live⟩ := gone
        have idle : slot.isInFlight = false := Bool.eq_false_of_not_eq_true idle
        refine ⟨⟨.release index, p, .ok none, _, [], world⟩, ?_, rfl, rfl,
          .freed index slot found idle (Bool.eq_false_of_not_eq_true live)⟩
        rw [perform, h.release_eq found idle]
        rfl
  | releaseIdle =>
      refine ⟨⟨.releaseIdle, p, .ok none, _, [], world⟩, ?_, rfl, rfl, .idleReleased⟩
      rw [perform, h.releaseIdle_eq]
      rfl
  | abandonInFlight =>
      refine ⟨⟨.abandonInFlight, p, .ok none, _, [], world⟩, ?_, rfl, rfl, .abandoned⟩
      rw [perform, h.abandonInFlight_eq]
      rfl

end

end BulkStream.Pool
