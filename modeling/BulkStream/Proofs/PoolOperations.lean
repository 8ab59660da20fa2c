import BulkStream.Proofs.PoolCounts

/-!
The operations on a sound pool. Each is a change of the table after which the pool is counted anew:
no count is ever decremented at zero, and a lent slot can always be handed over.
-/
namespace BulkStream.Pool

variable {p : Pool} {index : Nat}

theorem decrement_card {n : Nat} {s : Finset Nat} (count : n = s.card) (h : index ∈ s) :
    decrement n = .ok (s.erase index).card := by
  have positive : 0 < s.card := Finset.card_pos.mpr ⟨index, h⟩
  rw [Finset.card_erase_of_mem h, count]
  cases card : s.card with
  | zero => omega
  | succ n => rfl

theorem liveSlots_put_erase {slot : Slot} (released : slot.isReleased = true) :
    (p.setSlot index slot).liveSlots = p.liveSlots.erase index :=
  slotsWhere_setSlot_erase p (by simp [released])

theorem Sound.live_put_released (h : p.Sound) {slot : Slot} (found : p.slots[index]? = some slot)
    (live : slot.isReleased = false) :
    (p.put index .released).live + 1 = p.live := by
  have member : index ∈ p.liveSlots := mem_slotsWhere.mpr ⟨slot, found, by simp [live]⟩
  calc (p.setSlot index .released).liveSlots.card + 1
    _ = (p.liveSlots.erase index).card + 1 := by rw [liveSlots_put_erase rfl]
    _ = p.live := by rw [Finset.card_erase_add_one member, h.live_eq]

theorem liveSlots_setSlot {old slot : Slot} (found : p.slots[index]? = some old)
    (live : old.isReleased = false) (stays : slot.isReleased = false) :
    (p.setSlot index slot).liveSlots = p.liveSlots := by
  obtain ⟨inside, -⟩ := Array.getElem?_eq_some_iff.mp found
  have member : index ∈ p.liveSlots := mem_slotsWhere.mpr ⟨old, found, by simp [live]⟩
  rw [liveSlots, slotsWhere_setSlot_insert p inside (by simp [stays]), ← liveSlots,
    Finset.insert_eq_of_mem member]

theorem slotsInFlight_setSlot {old slot : Slot} (found : p.slots[index]? = some old)
    (idle : old.isInFlight = false) (stays : slot.isInFlight = false) :
    (p.setSlot index slot).slotsInFlight = p.slotsInFlight := by
  rw [slotsInFlight, slotsWhere_setSlot_erase p stays, ← slotsInFlight,
    Finset.erase_eq_of_notMem (notMem_slotsInFlight found idle)]

theorem Sound.complete_eq (h : p.Sound) (found : p.slots[index]? = some .inFlight) :
    p.complete index = .ok (.ok (), p.put index .lent) := by
  have counted : decrement p.inFlight = .ok (p.setSlot index .lent).slotsInFlight.card := by
    rw [slotsInFlight, slotsWhere_setSlot_erase p rfl]
    exact decrement_card h.inFlight_eq (mem_slotsInFlight.mpr found)
  have live : p.live = (p.setSlot index .lent).liveSlots.card := by
    rw [liveSlots_setSlot found rfl rfl, h.live_eq]
  simp only [complete, found, counted]
  rw [put, recount, ← live]
  rfl

theorem complete_stray (stray : p.slots[index]? ≠ some .inFlight) :
    p.complete index = .ok (.error (notInFlight index), p) := by
  rw [complete]
  split
  · contradiction
  · rfl

theorem Sound.release_eq (h : p.Sound) {slot : Slot} (found : p.slots[index]? = some slot)
    (idle : slot.isInFlight = false) : p.release index = .ok (p.put index .released) := by
  cases slot with
  | inFlight => contradiction
  | released =>
      rw [h.put_self found, release, found]
  | held _ | lent =>
      have counted : decrement p.live = .ok (p.setSlot index .released).liveSlots.card := by
        rw [liveSlots_put_erase rfl]
        exact decrement_card h.live_eq (mem_slotsWhere.mpr ⟨_, found, rfl⟩)
      have inFlight : p.inFlight = (p.setSlot index .released).slotsInFlight.card := by
        rw [slotsInFlight_setSlot found rfl rfl, h.inFlight_eq]
      simp only [release, found, counted]
      rw [put, recount, ← inFlight]
      rfl

theorem release_inFlight (found : p.slots[index]? = some .inFlight) : p.release index = .ok p := by
  rw [release, found]

theorem release_gone (gone : ∀ slot, p.slots[index]? = some slot →
    slot.isInFlight = true ∨ slot.isReleased = true) : p.release index = .ok p := by
  rw [release]
  split
  · rename_i buffer found
    simpa [Slot.isInFlight, Slot.isReleased] using gone _ found
  · rename_i found
    simpa [Slot.isInFlight, Slot.isReleased] using gone _ found
  · rfl

theorem Sound.forget_eq (h : p.Sound) (found : p.slots[index]? = some .inFlight) :
    p.forget index = .ok (p.put index .released) := by
  have counted : decrement p.inFlight = .ok (p.setSlot index .released).slotsInFlight.card := by
    rw [slotsInFlight, slotsWhere_setSlot_erase p rfl]
    exact decrement_card h.inFlight_eq (mem_slotsInFlight.mpr found)
  have live : decrement p.live = .ok (p.setSlot index .released).liveSlots.card := by
    rw [liveSlots_put_erase rfl]
    exact decrement_card h.live_eq (mem_slotsWhere.mpr ⟨_, found, rfl⟩)
  simp only [forget, found, counted, live]
  rfl

theorem forget_idle (idle : p.slots[index]? ≠ some .inFlight) : p.forget index = .ok p := by
  rw [forget]
  split
  · contradiction
  · rfl

theorem Sound.launched_eq (h : p.Sound) (found : p.slots[index]? = some .lent) :
    { p.setSlot index .inFlight with inFlight := p.inFlight + 1 } = p.put index .inFlight := by
  obtain ⟨inside, -⟩ := Array.getElem?_eq_some_iff.mp found
  have absent : index ∉ p.slotsInFlight := notMem_slotsInFlight found rfl
  have counted : p.inFlight + 1 = (p.setSlot index .inFlight).slotsInFlight.card := by
    rw [slotsInFlight, slotsWhere_setSlot_insert p inside rfl, ← slotsInFlight,
      Finset.card_insert_of_notMem absent, h.inFlight_eq]
  have live : p.live = (p.setSlot index .inFlight).liveSlots.card := by
    rw [liveSlots_setSlot found rfl rfl, h.live_eq]
  rw [put, recount, ← counted, ← live]
  rfl

theorem take_unheld (unheld : ∀ buffer, p.slots[index]? ≠ some (.held buffer)) :
    p.take index = none := by
  rw [take]
  split
  · rename_i buffer found
    exact absurd found (unheld buffer)
  · rfl

/-- The request that hands over a slot. -/
def request (p : Pool) (index : Nat) (buffer : Bytes) : Request :=
  { slot := index, direction := p.direction, buffer := fit p.bufferLength buffer
    length := p.bufferLength }

section

variable {σ : Type} (submit : Request → σ → Except TransportError Unit × σ) (buffer : Bytes)
  (world : σ)

theorem Sound.resubmit_eq (h : p.Sound) (found : p.slots[index]? = some .lent) :
    p.resubmit submit index buffer world =
      match submit (p.request index buffer) world with
      | (.ok (), world) => .ok ⟨.ok (), p.put index .inFlight, world⟩
      | (.error source, world) => do
          let pool ← (p.put index .inFlight).forget index
          return ⟨.error (.submission index source), pool, world⟩ := by
  simp only [resubmit, found, h.launched_eq found]
  rfl

theorem Sound.resubmit_accepted (h : p.Sound) (found : p.slots[index]? = some .lent)
    (accepted : (submit (p.request index buffer) world).1 = .ok ()) :
    p.resubmit submit index buffer world =
      .ok ⟨.ok (), p.put index .inFlight, (submit (p.request index buffer) world).2⟩ := by
  rw [h.resubmit_eq submit buffer world found]
  generalize submit (p.request index buffer) world = answered at accepted ⊢
  obtain ⟨result, world⟩ := answered
  cases accepted
  rfl

theorem Sound.resubmit_refused (h : p.Sound) (found : p.slots[index]? = some .lent)
    {source : TransportError}
    (refused : (submit (p.request index buffer) world).1 = .error source) :
    p.resubmit submit index buffer world =
      .ok ⟨.error (.submission index source), p.put index .released,
        (submit (p.request index buffer) world).2⟩ := by
  rw [h.resubmit_eq submit buffer world found,
    (put_sound p index .inFlight).forget_eq (put_found found .inFlight), put_put]
  generalize submit (p.request index buffer) world = answered at refused ⊢
  obtain ⟨result, world⟩ := answered
  cases refused
  rfl

end

section

variable {σ : Type} (submit : Request → σ → Except TransportError Unit × σ)
  (fill : Nat → Bytes → σ → (Flow × Bytes) × σ) {buffer filled : Bytes} {world after : σ}

theorem Sound.lend_eq (h : p.Sound) (found : p.slots[index]? = some (.held buffer)) :
    p.setSlot index .lent = p.put index .lent := by
  have inFlight : p.inFlight = (p.setSlot index .lent).slotsInFlight.card := by
    rw [slotsInFlight_setSlot found rfl rfl, h.inFlight_eq]
  have live : p.live = (p.setSlot index .lent).liveSlots.card := by
    rw [liveSlots_setSlot found rfl rfl, h.live_eq]
  rw [put, recount, ← inFlight, ← live]
  rfl

theorem Sound.take_held (h : p.Sound) (found : p.slots[index]? = some (.held buffer)) :
    p.take index = some (buffer, p.put index .lent) := by
  simp only [take, found, h.lend_eq found]

theorem Sound.primeSlot_read (h : p.Sound) (read : p.direction = .read)
    (found : p.slots[index]? = some (.held buffer)) :
    p.primeSlot submit fill index world =
      (p.put index .lent).resubmit submit index buffer world := by
  simp only [primeSlot, found, read, h.lend_eq found]

theorem Sound.primeSlot_filled (h : p.Sound) (write : p.direction = .write)
    (found : p.slots[index]? = some (.held buffer))
    (answer : fill index buffer world = ((.proceed, filled), after)) :
    p.primeSlot submit fill index world =
      (p.put index .lent).resubmit submit index filled after := by
  simp only [primeSlot, found, write, h.lend_eq found, answer]

theorem Sound.primeSlot_stopped (h : p.Sound) (write : p.direction = .write)
    (found : p.slots[index]? = some (.held buffer))
    (answer : fill index buffer world = ((.stop, filled), after)) :
    p.primeSlot submit fill index world = .ok ⟨.ok (), p.put index .released, after⟩ := by
  simp only [primeSlot, found, write, h.lend_eq found, answer]
  rw [(put_sound p index .lent).release_eq (put_found found .lent) rfl, put_put]
  rfl

end

/-! Operations on every slot. -/

/-- What is left of a slot once the idle ones are released. -/
def ifInFlight : Slot → Slot
  | .inFlight => .inFlight
  | .held _ | .lent | .released => .released

/-- What is left of a slot once those in flight are given up. -/
def ifIdle : Slot → Slot
  | .inFlight => .released
  | slot => slot

/-- Going through the table slot by slot, where each visit changes its slot only. -/
theorem foldlM_slots {f : Pool → Nat → Except Fault Pool} {g : Slot → Slot}
    (each : ∀ p i slot, Sound p → p.slots[i]? = some slot → f p i = .ok (p.put i (g slot)))
    (idempotent : ∀ slot, g (g slot) = g slot) (indices : List Nat) (p : Pool) (h : p.Sound)
    (inside : ∀ i ∈ indices, i < p.capacity) :
    ∃ q, indices.foldlM f p = .ok q ∧ q.Sound ∧ q.direction = p.direction ∧
      q.bufferLength = p.bufferLength ∧
      ∀ i, q.slots[i]? = if i ∈ indices then (p.slots[i]?).map g else p.slots[i]? := by
  -- An index may come again, which is where `idempotent` is needed.
  induction indices generalizing p with
  | nil => exact ⟨p, rfl, h, rfl, rfl, fun i => by simp⟩
  | cons index indices ih =>
      have here : index < p.capacity := inside index List.mem_cons_self
      have found : p.slots[index]? = some p.slots[index] := Array.getElem?_eq_getElem here
      have rest : ∀ i ∈ indices, i < (p.put index (g p.slots[index])).capacity := by
        intro i hi
        rw [put_capacity]
        exact inside i (List.mem_cons_of_mem index hi)
      obtain ⟨q, folded, sound, direction, bufferLength, slots⟩ :=
        ih (p.put index (g p.slots[index])) (put_sound p _ _) rest
      refine ⟨q, ?_, sound, direction, bufferLength, ?_⟩
      · rw [List.foldlM_cons, each p index _ h found]
        exact folded
      · intro i
        rw [slots i, put_slots]
        by_cases same : index = i
        · subst same
          simp [Array.getElem?_setIfInBounds_self_of_lt here, found, idempotent]
        · simp [Array.getElem?_setIfInBounds_ne same, Ne.symm same]

theorem foldlM_range {f : Pool → Nat → Except Fault Pool} {g : Slot → Slot}
    (each : ∀ p i slot, Sound p → p.slots[i]? = some slot → f p i = .ok (p.put i (g slot)))
    (idempotent : ∀ slot, g (g slot) = g slot) (h : p.Sound) :
    (List.range p.capacity).foldlM f p = .ok (p.mapSlots g) := by
  obtain ⟨q, folded, sound, direction, bufferLength, slots⟩ :=
    foldlM_slots each idempotent (List.range p.capacity) p h fun i hi => List.mem_range.mp hi
  have table : q.slots = p.slots.map g := by
    apply Array.ext_getElem?
    intro i
    rw [slots i, Array.getElem?_map]
    by_cases inside : i < p.capacity
    · rw [if_pos (List.mem_range.mpr inside)]
    · rw [if_neg (by simpa using inside), Array.getElem?_eq_none (Nat.le_of_not_lt inside),
        Option.map_none]
  rw [folded, ← sound.recount_eq, mapSlots]
  exact congrArg Except.ok (recount_congr table direction bufferLength)

theorem Sound.releaseIdle_eq (h : p.Sound) : p.releaseIdle = .ok (p.mapSlots ifInFlight) := by
  refine foldlM_range ?_ ?_ h
  · intro p i slot sound found
    cases slot with
    | inFlight => rw [release_inFlight found, ifInFlight, sound.put_self found]
    | held _ | lent | released => exact sound.release_eq found rfl
  · intro slot
    cases slot <;> rfl

theorem Sound.abandonInFlight_eq (h : p.Sound) : p.abandonInFlight = .ok (p.mapSlots ifIdle) := by
  refine foldlM_range ?_ ?_ h
  · intro p i slot sound found
    cases slot with
    | inFlight => exact sound.forget_eq found
    | held _ | lent | released =>
        have idle : p.slots[i]? ≠ some .inFlight := by
          rw [found]
          simp
        rw [forget_idle idle, ifIdle, sound.put_self found]
        simp
  · intro slot
    cases slot <;> rfl

theorem slotsInFlight_releaseIdle (p : Pool) :
    (p.mapSlots ifInFlight).slotsInFlight = p.slotsInFlight := by
  ext i
  rw [mem_slotsInFlight, mem_slotsInFlight, mapSlots_slots, Array.getElem?_map]
  cases p.slots[i]? with
  | none => rfl
  | some slot => cases slot <;> simp [ifInFlight]

section

variable {direction : Direction} {packetSize packetsPerTransfer transferCount : Nat}

def fresh (direction : Direction) (bufferLength transferCount : Nat) : Pool :=
  { slots := Array.replicate transferCount (.held (List.replicate bufferLength 0))
    direction, bufferLength, inFlight := 0, live := transferCount }

theorem allocate_eq (direction : Direction) (packetSize packetsPerTransfer transferCount : Nat) :
    ∃ bufferLength, allocate direction packetSize packetsPerTransfer transferCount =
        .error (.allocation transferCount bufferLength) ∨
      allocate direction packetSize packetsPerTransfer transferCount =
        .ok (fresh direction bufferLength transferCount) := by
  simp only [allocate]
  generalize (if packetSize * packetsPerTransfer < countLimit then packetSize * packetsPerTransfer
    else 0) = bufferLength
  refine ⟨bufferLength, ?_⟩
  split
  · exact .inl rfl
  · exact .inr rfl

theorem fresh_held {direction : Direction} (bufferLength : Nat) {i : Nat}
    (inside : i < transferCount) :
    (fresh direction bufferLength transferCount).slots[i]? =
      some (.held (List.replicate bufferLength 0)) := by
  rw [fresh, Array.getElem?_replicate, if_pos inside]

theorem fresh_capacity (direction : Direction) (bufferLength transferCount : Nat) :
    (fresh direction bufferLength transferCount).capacity = transferCount := Array.size_replicate

theorem fresh_idle (direction : Direction) (bufferLength transferCount : Nat) :
    (fresh direction bufferLength transferCount).slotsInFlight = ∅ := by
  rw [Finset.eq_empty_iff_forall_notMem]
  intro i member
  rw [mem_slotsInFlight] at member
  obtain ⟨inside, -⟩ := Array.getElem?_eq_some_iff.mp member
  rw [← capacity, fresh_capacity] at inside
  rw [fresh_held bufferLength inside] at member
  cases member

theorem fresh_sound (direction : Direction) (bufferLength transferCount : Nat) :
    (fresh direction bufferLength transferCount).Sound := by
  have all : ∀ i ∈ Finset.range transferCount,
      ((fresh direction bufferLength transferCount).slots[i]?).any
        (fun slot => !slot.isReleased) = true := by
    intro i inside
    rw [fresh_held bufferLength (Finset.mem_range.mp inside)]
    rfl
  refine ⟨?_, ?_⟩
  · rw [fresh_idle]
    rfl
  · rw [liveSlots, slotsWhere, fresh_capacity, Finset.filter_true_of_mem all, Finset.card_range]
    rfl

theorem allocate_fresh
    (h : allocate direction packetSize packetsPerTransfer transferCount = .ok p) :
    ∃ bufferLength, p = fresh direction bufferLength transferCount := by
  obtain ⟨bufferLength, refused | granted⟩ :=
    allocate_eq direction packetSize packetsPerTransfer transferCount
  · rw [refused] at h
    contradiction
  · rw [granted] at h
    cases h
    exact ⟨bufferLength, rfl⟩

theorem allocate_bufferLength
    (h : allocate direction packetSize packetsPerTransfer transferCount = .ok p) :
    p.bufferLength = packetSize * packetsPerTransfer := by
  simp only [allocate] at h
  by_cases small : packetSize * packetsPerTransfer < countLimit
  · simp only [if_pos small] at h
    split at h
    · contradiction
    · cases h
      rfl
  · simp only [if_neg small, true_or, if_true] at h
    contradiction

theorem allocate_refused {error : StreamError}
    (h : allocate direction packetSize packetsPerTransfer transferCount = .error error) :
    ∃ bufferLength, error = .allocation transferCount bufferLength := by
  obtain ⟨bufferLength, refused | granted⟩ :=
    allocate_eq direction packetSize packetsPerTransfer transferCount
  · rw [refused] at h
    cases h
    exact ⟨bufferLength, rfl⟩
  · rw [granted] at h
    contradiction

end

end BulkStream.Pool
