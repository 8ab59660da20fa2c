import BulkStream.Proofs.Verdict

/-!
What a drain comes to. From any pool whose counts agree with its table it ends, whatever the transport
does meanwhile, after at most two waits for each slot that was in flight. It counts each of these
slots once, as collected or as abandoned, and leaves every slot released.
-/
namespace BulkStream.Session.Run

variable {σ : Type} {env : Surroundings σ} {config : Config}

/-- The end `d` of a drain that began with `s` and, once the idle slots were released, with the pool
`idle`. -/
structure Settlement (config : Config) (s : Stream σ) (idle : Pool) (waits : List Action)
    (collected abandoned : Nat) (d : Stream σ) : Prop where
  calls : d.link.calls = s.link.calls ++ if idle.inFlight = 0 then [] else .cancelAll :: waits
  each : ∀ call ∈ waits, ∃ result completions, call = .wait config.waitMilliseconds result completions
  few : waits.length ≤ 2 * idle.inFlight
  told : d.link.drains = s.link.drains ++ [(collected, abandoned)]
  shared : collected + abandoned = idle.inFlight
  /-- A slot handed back counts if it was in flight, and it counts once. -/
  collected_eq : collected = (idle.slotsInFlight ∩ handedBack waits).card
  released (i : Nat) (slot : Slot) (found : d.pool.slots[i]? = some slot) : slot = .released
  counts : d.pool.inFlight = 0 ∧ d.pool.live = 0 ∧ d.pool.released = d.pool.capacity
  capacity : d.pool.capacity = s.pool.capacity

theorem Collected.settlement {s d : Stream σ} {waits : List Action} {total : Nat}
    (h : Collected config s waits total d) (winding : Winding (idled env s) d) :
    Settlement config s (s.pool.mapSlots Pool.ifInFlight) waits total d.pool.slotsInFlight.card
      (abandoned env total d) := by
  have idle : (s.pool.mapSlots Pool.ifInFlight).inFlight = s.pool.slotsInFlight.card := by
    rw [(Pool.mapSlots_sound _ _).inFlight_eq, Pool.slotsInFlight_releaseIdle]
  have vacating : d.pool.Vacating := winding.vacating (Pool.vacating_releaseIdle s.pool)
  have none : s.pool.slotsInFlight.card = 0 ↔ s.pool.slotsInFlight = ∅ := Finset.card_eq_zero
  refine ⟨?_, h.each, idle.symm ▸ h.few, ?_, idle.symm ▸ h.count, ?_, vacating.abandoned,
    (Pool.mapSlots_sound _ _).counts_of_released vacating.abandoned, ?_⟩
  · simp only [idle, none]
    exact (Link.calls_log env d.link _).trans h.calls
  · rw [drains_abandoned, winding.drains, (quiet_idled s).aside.drains_eq]
  · have split := Finset.card_inter_add_card_sdiff s.pool.slotsInFlight (handedBack waits)
    have count := h.count
    rw [h.inFlight] at count
    rw [Pool.slotsInFlight_releaseIdle]
    omega
  · exact (Pool.capacity_mapSlots _ _).trans (winding.capacity.trans (Pool.capacity_mapSlots _ _))

/-- Whatever the transport does, a drain that begins with a sound pool ends and settles every slot.
While it collects, a completion of a slot that is not in flight changes nothing. -/
theorem drain_settles_every_slot (env : Surroundings σ) (config : Config) (s : Stream σ)
    (sound : s.pool.Sound) :
    ∃ idle n d waits collected abandoned, s.pool.releaseIdle = .ok idle ∧
      advance env config n (.active .closing s) = .ok (finish env d) ∧
      Settlement config s idle waits collected abandoned d ∧
      ∀ answer interrupted before (sofar : Nat) c completions (t : Stream σ),
        t.pool.slots[c.slot]? ≠ some .inFlight →
        step env config
            (.active (.collecting answer interrupted before sofar (c :: completions)) t) =
          .ok (.active (.collecting answer interrupted before sofar completions) t) := by
  obtain ⟨total, d, waits, -, winding, collected, -, leads, taken⟩ :=
    closing_leads env config s sound
  obtain ⟨n, come⟩ := leads.trans (Leads.of_step taken)
  refine ⟨_, n, _, waits, total, _, sound.releaseIdle_eq, come, collected.settlement winding, ?_⟩
  intro answer interrupted before sofar c completions t stray
  rw [step, Stream.collect_stray stray]
  rfl

section

open Rehearsal

/-- A device that is lost in the first wait. The next one is interrupted after it handed back one of
two slots and one that there is not, and the one after it hands back nothing. -/
def failingDrain : Assembly Script Timeline Audience where
  transport := {
    steps := [
      { result := .failed .disconnected },
      { cues := [{ slot := some 9 }, { slot := some 1 }], result := .interrupted },
      {}] }
  outside := {}
  consumer := {}

theorem failing_drain_settles : ∃ s idle n d waits collected abandoned,
    advance scripted { transferCount := 2 } 5
        (start scripted { transferCount := 2 } .idle failingDrain) = .ok (.active .closing s) ∧
      s.pool.releaseIdle = .ok idle ∧ idle.inFlight = 2 ∧
      advance scripted { transferCount := 2 } n (.active .closing s) = .ok (finish scripted d) ∧
      Settlement { transferCount := 2 } s idle waits collected abandoned d := by
  obtain ⟨s, come, flying⟩ : ∃ s, advance scripted { transferCount := 2 } 5
      (start scripted { transferCount := 2 } .idle failingDrain) = .ok (.active .closing s) ∧
        s.pool.releaseIdle.map Pool.inFlight = .ok 2 := by
    refine ⟨_, rfl, ?_⟩
    rfl
  obtain ⟨idle, n, d, waits, collected, abandoned, released, ended, settlement, -⟩ :=
    drain_settles_every_slot scripted { transferCount := 2 } s (sound_at come).stream.pool
  rw [released] at flying
  exact ⟨s, idle, n, d, waits, collected, abandoned, come, released, Except.ok.inj flying, ended,
    settlement⟩

end

end BulkStream.Session.Run
