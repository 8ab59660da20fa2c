import Mathlib.Data.Finset.Card
import Mathlib.Data.Finset.Range
import BulkStream.Pool

/-!
The counts of a pool. A pool is sound when its two counts agree with its table. Changing a slot and
counting anew gives a sound pool, and moves at most that slot into or out of any set of slots.
-/
namespace BulkStream.Pool

def slotsWhere (p : Pool) (kind : Slot → Bool) : Finset Nat :=
  (Finset.range p.capacity).filter fun i => (p.slots[i]?).any kind

/-- Slots that the transport owns. -/
def slotsInFlight (p : Pool) : Finset Nat := p.slotsWhere Slot.isInFlight

def liveSlots (p : Pool) : Finset Nat := p.slotsWhere fun slot => !slot.isReleased

/-- The counts agree with the table. -/
structure Sound (p : Pool) : Prop where
  inFlight_eq : p.inFlight = p.slotsInFlight.card
  live_eq : p.live = p.liveSlots.card

/-- The pool with its slots counted anew. -/
def recount (p : Pool) : Pool :=
  { p with inFlight := p.slotsInFlight.card, live := p.liveSlots.card }

/-- Put a slot into a state, and count anew. -/
def put (p : Pool) (index : Nat) (slot : Slot) : Pool := (p.setSlot index slot).recount

def mapSlots (f : Slot → Slot) (p : Pool) : Pool := { p with slots := p.slots.map f }.recount

theorem mem_slotsWhere {p : Pool} {kind : Slot → Bool} {i : Nat} :
    i ∈ p.slotsWhere kind ↔ ∃ slot, p.slots[i]? = some slot ∧ kind slot = true := by
  simp only [slotsWhere, Finset.mem_filter, Finset.mem_range, Option.any_eq_true]
  constructor
  · rintro ⟨-, slot, found, holds⟩
    exact ⟨slot, found, holds⟩
  · rintro ⟨slot, found, holds⟩
    obtain ⟨inside, -⟩ := Array.getElem?_eq_some_iff.mp found
    exact ⟨inside, slot, found, holds⟩

theorem mem_slotsInFlight {p : Pool} {i : Nat} :
    i ∈ p.slotsInFlight ↔ p.slots[i]? = some .inFlight := by
  rw [slotsInFlight, mem_slotsWhere]
  constructor
  · rintro ⟨slot, found, holds⟩
    cases slot <;> simp_all [Slot.isInFlight]
  · intro found
    exact ⟨.inFlight, found, rfl⟩

theorem notMem_slotsInFlight {p : Pool} {index : Nat} {slot : Slot}
    (found : p.slots[index]? = some slot) (idle : slot.isInFlight = false) :
    index ∉ p.slotsInFlight := by
  intro member
  rw [mem_slotsInFlight, found] at member
  cases member
  contradiction

theorem Sound.all_released {p : Pool} (h : p.Sound) (none : p.live = 0) (i : Nat) (slot : Slot)
    (found : p.slots[i]? = some slot) : slot = .released := by
  have empty : p.liveSlots = ∅ := Finset.card_eq_zero.mp (h.live_eq.symm.trans none)
  by_contra other
  have live : slot.isReleased = false := by
    cases slot with
    | released => contradiction
    | held _ | lent | inFlight => rfl
  have member : i ∈ p.liveSlots := mem_slotsWhere.mpr ⟨slot, found, by rw [live]; rfl⟩
  rw [empty] at member
  exact absurd member (Finset.notMem_empty i)

theorem Sound.live_le_capacity {p : Pool} (h : p.Sound) : p.live ≤ p.capacity := by
  rw [h.live_eq, liveSlots, slotsWhere]
  exact (Finset.card_filter_le _ _).trans (Finset.card_range p.capacity).le

theorem Sound.slotsInFlight_empty {p : Pool} (h : p.Sound) (none : p.live = 0) :
    p.slotsInFlight = ∅ := by
  rw [Finset.eq_empty_iff_forall_notMem]
  intro i member
  cases h.all_released none i _ (mem_slotsInFlight.mp member)

/-- A pool whose slots are all released counts none. -/
theorem Sound.counts_of_released {p : Pool} (h : p.Sound)
    (all : ∀ (i : Nat) (slot : Slot), p.slots[i]? = some slot → slot = .released) :
    p.inFlight = 0 ∧ p.live = 0 ∧ p.released = p.capacity := by
  have none {kind : Slot → Bool} (fails : kind .released = false) : (p.slotsWhere kind).card = 0 := by
    rw [Finset.card_eq_zero, Finset.eq_empty_iff_forall_notMem]
    intro i member
    obtain ⟨slot, found, holds⟩ := mem_slotsWhere.mp member
    rw [all i slot found, fails] at holds
    cases holds
  have live : p.live = 0 := h.live_eq.trans (none rfl)
  refine ⟨h.inFlight_eq.trans (none rfl), live, ?_⟩
  rw [released, live, Nat.sub_zero]

theorem slotsWhere_congr {p q : Pool} (h : p.slots = q.slots) (kind : Slot → Bool) :
    p.slotsWhere kind = q.slotsWhere kind := by
  rw [slotsWhere, slotsWhere, capacity, capacity, h]

theorem recount_sound (p : Pool) : p.recount.Sound :=
  ⟨congrArg Finset.card (slotsWhere_congr rfl _), congrArg Finset.card (slotsWhere_congr rfl _)⟩

theorem put_sound (p : Pool) (index : Nat) (slot : Slot) : (p.put index slot).Sound :=
  recount_sound _

theorem mapSlots_sound (f : Slot → Slot) (p : Pool) : (p.mapSlots f).Sound := recount_sound _

theorem Sound.recount_eq {p : Pool} (h : p.Sound) : p.recount = p := by
  rw [recount, ← h.inFlight_eq, ← h.live_eq]

@[simp] theorem put_slots (p : Pool) (index : Nat) (slot : Slot) :
    (p.put index slot).slots = p.slots.setIfInBounds index slot := rfl

theorem put_found {p : Pool} {index : Nat} {old : Slot} (found : p.slots[index]? = some old)
    (slot : Slot) : (p.put index slot).slots[index]? = some slot := by
  obtain ⟨inside, -⟩ := Array.getElem?_eq_some_iff.mp found
  rw [put_slots, Array.getElem?_setIfInBounds_self_of_lt inside]

/-- What is found in a pool is what was put there, or was there before. -/
theorem found_put {p : Pool} {index i : Nat} {old slot : Slot}
    (found : (p.put index slot).slots[i]? = some old) :
    old = slot ∨ index ≠ i ∧ p.slots[i]? = some old := by
  rw [put_slots, Array.getElem?_setIfInBounds] at found
  split at found
  · split at found
    · exact .inl (Option.some.inj found).symm
    · cases found
  · rename_i other
    exact .inr ⟨other, found⟩

@[simp] theorem put_capacity (p : Pool) (index : Nat) (slot : Slot) :
    (p.put index slot).capacity = p.capacity :=
  capacity_setSlot p index slot

@[simp] theorem mapSlots_slots (f : Slot → Slot) (p : Pool) :
    (p.mapSlots f).slots = p.slots.map f := rfl

theorem recount_congr {p q : Pool} (slots : p.slots = q.slots)
    (direction : p.direction = q.direction) (bufferLength : p.bufferLength = q.bufferLength) : p.recount = q.recount := by
  simp only [recount, slotsInFlight, liveSlots, slotsWhere_congr slots, slots, direction,
    bufferLength]

theorem put_put (p : Pool) (index : Nat) (a b : Slot) :
    (p.put index a).put index b = p.put index b :=
  recount_congr (Array.setIfInBounds_setIfInBounds a) rfl rfl

theorem Sound.put_self {p : Pool} (h : p.Sound) {index : Nat} {slot : Slot}
    (found : p.slots[index]? = some slot) : p.put index slot = p := by
  have same : p.slots.setIfInBounds index slot = p.slots := by
    obtain ⟨inside, -⟩ := Array.getElem?_eq_some_iff.mp found
    apply Array.ext_getElem?
    intro i
    by_cases here : index = i
    · subst here
      rw [Array.getElem?_setIfInBounds_self_of_lt inside, found]
    · rw [Array.getElem?_setIfInBounds_ne here]
  have counted : (p.setSlot index slot).recount = p.recount := recount_congr same rfl rfl
  rw [put, counted, h.recount_eq]

theorem slotsWhere_setSlot_insert (p : Pool) {kind : Slot → Bool} {index : Nat} {slot : Slot}
    (inside : index < p.capacity) (holds : kind slot = true) :
    (p.setSlot index slot).slotsWhere kind = insert index (p.slotsWhere kind) := by
  ext i
  rw [Finset.mem_insert, mem_slotsWhere, mem_slotsWhere, setSlot]
  by_cases same : index = i
  · subst same
    simp [Array.getElem?_setIfInBounds_self_of_lt inside, holds]
  · simp [Array.getElem?_setIfInBounds_ne same, Ne.symm same]

theorem slotsWhere_setSlot_erase (p : Pool) {kind : Slot → Bool} {index : Nat} {slot : Slot}
    (fails : kind slot = false) :
    (p.setSlot index slot).slotsWhere kind = (p.slotsWhere kind).erase index := by
  ext i
  rw [Finset.mem_erase, mem_slotsWhere, mem_slotsWhere, setSlot]
  by_cases same : index = i
  · subst same
    simp [Array.getElem?_setIfInBounds_self, fails]
  · simp [Array.getElem?_setIfInBounds_ne same, Ne.symm same]

theorem slotsInFlight_put_inFlight (p : Pool) {index : Nat} (inside : index < p.capacity) :
    (p.put index .inFlight).slotsInFlight = insert index p.slotsInFlight :=
  (slotsWhere_congr rfl _).trans (slotsWhere_setSlot_insert p inside rfl)

theorem slotsInFlight_put_idle (p : Pool) (index : Nat) {slot : Slot}
    (idle : slot.isInFlight = false) :
    (p.put index slot).slotsInFlight = p.slotsInFlight.erase index :=
  (slotsWhere_congr rfl _).trans (slotsWhere_setSlot_erase p idle)

theorem slotsInFlight_put_absent {p : Pool} {index : Nat} (absent : index ∉ p.slotsInFlight)
    {slot : Slot} (idle : slot.isInFlight = false) :
    (p.put index slot).slotsInFlight = p.slotsInFlight := by
  rw [slotsInFlight_put_idle p index idle, Finset.erase_eq_of_notMem absent]

end BulkStream.Pool
