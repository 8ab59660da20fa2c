import BulkStream.Proofs.Runs

/-!
A drain ends. Each of its waits brings back a slot or is the last, but for one interrupted wait in
between; so twice the slots in flight, and one more where a wait may still be interrupted, grow less
from wait to wait, and there are at most two waits for each slot. Nothing can fault meanwhile, and
what the session has recorded stays.
-/
namespace BulkStream

namespace Pool

/-- No buffer is with the pool or with the session. -/
def Vacating (p : Pool) : Prop :=
  ∀ (i : Nat) (slot : Slot), p.slots[i]? = some slot → slot = .inFlight ∨ slot = .released

theorem Vacating.put {p : Pool} (h : p.Vacating) (index : Nat) {settled : Slot}
    (gone : settled = .inFlight ∨ settled = .released) : (p.put index settled).Vacating := by
  intro i slot found
  cases found_put found with
  | inl same => exact same ▸ gone
  | inr before => exact h i slot before.2

theorem vacating_releaseIdle (p : Pool) : (p.mapSlots ifInFlight).Vacating := by
  intro i slot found
  rw [mapSlots_slots, Array.getElem?_map] at found
  obtain ⟨before, -, rfl⟩ := Option.map_eq_some_iff.mp found
  cases before with
  | inFlight => exact .inl rfl
  | held buffer | lent | released => exact .inr rfl

theorem capacity_mapSlots (f : Slot → Slot) (p : Pool) : (p.mapSlots f).capacity = p.capacity :=
  Array.size_map

theorem Vacating.abandoned {p : Pool} (h : p.Vacating) (i : Nat) (slot : Slot)
    (found : (p.mapSlots ifIdle).slots[i]? = some slot) : slot = .released := by
  rw [mapSlots_slots, Array.getElem?_map] at found
  obtain ⟨before, there, rfl⟩ := Option.map_eq_some_iff.mp found
  cases h i before there with
  | inl flying => rw [flying, ifIdle]
  | inr released => rw [released, ifIdle]; simp

theorem Vacating.released_abandoned {p : Pool} (h : p.Vacating) :
    (p.mapSlots ifIdle).released = p.capacity := by
  rw [((mapSlots_sound ifIdle p).counts_of_released h.abandoned).2.2, capacity_mapSlots]

end Pool

namespace Session.Run

variable {σ : Type} {env : Surroundings σ} {config : Config}

/-- A run comes from one point to another. -/
def Leads (env : Surroundings σ) (config : Config) (run next : Run σ) : Prop :=
  ∃ n, advance env config n run = .ok next

theorem Leads.refl (run : Run σ) : Leads env config run run := ⟨0, by cases run <;> rfl⟩

theorem Leads.trans {first second third : Run σ} (earlier : Leads env config first second)
    (later : Leads env config second third) : Leads env config first third := by
  obtain ⟨m, come⟩ := earlier
  obtain ⟨n, come'⟩ := later
  refine ⟨m + n, ?_⟩
  rw [advance_add, come]
  exact come'

theorem Leads.of_step {phase : Phase} {s : Stream σ} {next : Run σ}
    (taken : step env config (.active phase s) = .ok next) :
    Leads env config (.active phase s) next := by
  refine ⟨1, ?_⟩
  rw [advance, taken]
  cases next <;> rfl

/-- A stream that drains has recorded what it had before, and takes no slot up again. -/
structure Winding (s d : Stream σ) : Prop where
  fatal : d.fatal = s.fatal
  transfers : d.transfers = s.transfers
  capacity : d.pool.capacity = s.pool.capacity
  vacating : s.pool.Vacating → d.pool.Vacating
  drains : d.link.drains = s.link.drains

theorem Winding.refl (s : Stream σ) : Winding s s := ⟨rfl, rfl, rfl, id, rfl⟩

theorem Winding.trans {s t d : Stream σ} (first : Winding s t) (second : Winding t d) :
    Winding s d :=
  ⟨second.fatal.trans first.fatal, second.transfers.trans first.transfers,
    second.capacity.trans first.capacity, fun h => second.vacating (first.vacating h),
    second.drains.trans first.drains⟩

def slotsOf (completions : List Completion) : Finset Nat :=
  (completions.map Completion.slot).toFinset

/-- The slots that some waits hand back. -/
def handedBack (waits : List Action) : Finset Nat := slotsOf (waits.flatMap Action.completions)

theorem slotsOf_cons (c : Completion) (completions : List Completion) :
    slotsOf (c :: completions) = insert c.slot (slotsOf completions) := List.toFinset_cons

theorem handedBack_append (earlier later : List Action) :
    handedBack (earlier ++ later) = handedBack earlier ∪ handedBack later := by
  simp only [handedBack, slotsOf, List.flatMap_append, List.map_append, List.toFinset_append]

theorem handedBack_wait (milliseconds : Nat) (result : WaitResult) (completions : List Completion) :
    handedBack [.wait milliseconds result completions] = slotsOf completions := by
  rw [handedBack, List.flatMap_singleton, Action.completions]

/-- From one stream of a drain to a later one: the waits made in between, and the slots taken back. -/
structure Retrieved (milliseconds : Nat) (waits : List Action) (s d : Stream σ) : Prop where
  calls : d.link.calls = s.link.calls ++ waits
  each : ∀ call ∈ waits, ∃ result completions, call = .wait milliseconds result completions
  inFlight : d.pool.slotsInFlight = s.pool.slotsInFlight \ handedBack waits

theorem Retrieved.none (milliseconds : Nat) (s : Stream σ) : Retrieved milliseconds [] s s :=
  ⟨(List.append_nil _).symm, List.forall_mem_nil _, Finset.sdiff_empty.symm⟩

theorem Retrieved.trans {milliseconds : Nat} {earlier later : List Action} {s t d : Stream σ}
    (first : Retrieved milliseconds earlier s t) (second : Retrieved milliseconds later t d) :
    Retrieved milliseconds (earlier ++ later) s d := by
  refine ⟨?_, List.forall_mem_append.mpr ⟨first.each, second.each⟩, ?_⟩
  · rw [second.calls, first.calls, List.append_assoc]
  · rw [second.inFlight, first.inFlight, handedBack_append, sdiff_sdiff_left]
    rfl

/-- Slots still in flight, twice, and one more where the next wait may be interrupted. -/
def remaining (interrupted : Bool) (s : Stream σ) : Nat :=
  2 * s.pool.slotsInFlight.card + if interrupted then 0 else 1

theorem collecting_leads (env : Surroundings σ) (config : Config) (answer : WaitResult)
    (interrupted : Bool) (before : Nat) (completions : List Completion) (collected : Nat)
    (s : Stream σ) (h : s.pool.Sound) :
    ∃ back t, t.pool.Sound ∧ Winding s t ∧ t.link = s.link ∧
      t.pool.slotsInFlight = s.pool.slotsInFlight \ slotsOf completions ∧
      t.pool.slotsInFlight.card + back = s.pool.slotsInFlight.card ∧
      Leads env config (.active (.collecting answer interrupted before collected completions) s)
        (.active (.collecting answer interrupted before (collected + back) []) t) := by
  induction completions generalizing collected s with
  | nil => exact ⟨0, s, h, .refl s, rfl, Finset.sdiff_empty.symm, rfl, .refl _⟩
  | cons c completions ih =>
      by_cases own : s.pool.slots[c.slot]? = some .inFlight
      · let t : Stream σ := { s with pool := s.pool.put c.slot .released }
        have taken : step env config
            (.active (.collecting answer interrupted before collected (c :: completions)) s) =
            .ok (.active (.collecting answer interrupted before (collected + 1) completions) t) := by
          rw [step, Stream.collect_own h own]
          rfl
        have erased : t.pool.slotsInFlight = s.pool.slotsInFlight.erase c.slot :=
          Pool.slotsInFlight_put_idle s.pool c.slot rfl
        have fewer : t.pool.slotsInFlight.card + 1 = s.pool.slotsInFlight.card := by
          rw [erased]
          exact Finset.card_erase_add_one (Pool.mem_slotsInFlight.mpr own)
        have winding : Winding s t := ⟨rfl, rfl, Pool.put_capacity _ _ _, fun h => h.put _ (.inr rfl), rfl⟩
        obtain ⟨back, u, sound, onward, link, rest, count, leads⟩ :=
          ih (collected + 1) t (Pool.put_sound _ _ _)
        refine ⟨back + 1, u, sound, winding.trans onward, link, ?_, by omega,
          (Leads.of_step taken).trans ?_⟩
        · rw [rest, erased, slotsOf_cons, Finset.sdiff_insert, Finset.erase_sdiff_comm]
        · rw [Nat.add_comm back 1, ← Nat.add_assoc]
          exact leads
      · have taken : step env config
            (.active (.collecting answer interrupted before collected (c :: completions)) s) =
            .ok (.active (.collecting answer interrupted before collected completions) s) := by
          rw [step, Stream.collect_stray own]
          rfl
        have absent : c.slot ∉ s.pool.slotsInFlight := fun member =>
          own (Pool.mem_slotsInFlight.mp member)
        obtain ⟨back, u, sound, onward, link, rest, count, leads⟩ := ih collected s h
        refine ⟨back, u, sound, onward, link, ?_, count, (Leads.of_step taken).trans leads⟩
        rw [rest, slotsOf_cons, Finset.sdiff_insert_of_notMem absent]

/-- A wait of a drain was the last, or there is less to wait for. -/
theorem afterWait_remaining (answer : WaitResult) (interrupted : Bool) (before back : Nat)
    {s t : Stream σ} (count : t.pool.slotsInFlight.card + back = s.pool.slotsInFlight.card) :
    afterWait answer interrupted before (before + back) = .settling (before + back) ∨
      ∃ again, afterWait answer interrupted before (before + back) =
        .draining (before + back) again ∧ remaining again t < remaining interrupted s := by
  cases answer with
  | ok =>
      rw [afterWait]
      by_cases none : before + back = before
      · exact .inl (if_pos none)
      · refine .inr ⟨_, if_neg none, ?_⟩
        rw [remaining, remaining, if_neg Bool.false_ne_true]
        omega
  | interrupted =>
      cases interrupted with
      | false =>
          refine .inr ⟨_, rfl, ?_⟩
          rw [remaining, remaining, if_pos rfl, if_neg Bool.false_ne_true]
          omega
      | true => exact .inl rfl
  | failed error => exact .inl rfl

theorem draining_steps (env : Surroundings σ) (config : Config) (collected : Nat)
    (interrupted : Bool) (s : Stream σ) (h : s.pool.Sound) :
    ∃ next, Leads env config (.active (.draining collected interrupted) s) next ∧
      Stepped env config (.active (.draining collected interrupted) s) next := by
  have taken : step env config (.active (.draining collected interrupted) s) =
      .ok (drainOnce env config.waitMilliseconds collected interrupted s) := rfl
  exact ⟨_, Leads.of_step taken, drainOnce_stepped h collected interrupted⟩

/-- One wait of a drain, with what it brings back. -/
theorem draining_round (env : Surroundings σ) (config : Config) (collected : Nat)
    (interrupted : Bool) (s : Stream σ) (h : s.pool.Sound) (some : s.pool.slotsInFlight ≠ ∅) :
    ∃ back t call, t.pool.Sound ∧ Winding s t ∧ Retrieved config.waitMilliseconds [call] s t ∧
      t.pool.slotsInFlight.card + back = s.pool.slotsInFlight.card ∧
      (Leads env config (.active (.draining collected interrupted) s)
          (.active (.settling (collected + back)) t) ∨
        ∃ again, remaining again t < remaining interrupted s ∧
          Leads env config (.active (.draining collected interrupted) s)
            (.active (.draining (collected + back) again) t)) := by
  obtain ⟨next, way, stepped⟩ := draining_steps env config collected interrupted s h
  cases stepped with
  | cleared _ _ _ none => exact absurd none some
  | waited _ _ _ _ answer completions answered =>
      let waited : Stream σ := { s with link := (s.link.wait env config.waitMilliseconds).2 }
      have waiting : Winding s waited :=
        ⟨rfl, rfl, rfl, id, s.link.drains_wait env config.waitMilliseconds⟩
      obtain ⟨back, t, sound, onward, link, inFlight, count, leads⟩ :=
        collecting_leads env config answer interrupted collected completions collected waited h
      have after : step env config (.active
          (.collecting answer interrupted collected (collected + back) []) t) =
          .ok (.active (afterWait answer interrupted collected (collected + back)) t) := rfl
      have reached := (way.trans leads).trans (Leads.of_step after)
      have shared : t.pool.slotsInFlight.card + back = s.pool.slotsInFlight.card := count
      refine ⟨back, t, .wait config.waitMilliseconds answer completions, sound,
        waiting.trans onward, ⟨?_, List.forall_mem_singleton.mpr ⟨_, _, rfl⟩, ?_⟩, shared, ?_⟩
      · rw [link, Link.calls_wait, answered]
      · rw [inFlight, handedBack_wait]
      · cases afterWait_remaining answer interrupted collected back shared with
        | inl last => exact .inl (last ▸ reached)
        | inr again =>
            obtain ⟨again, more, less⟩ := again
            exact .inr ⟨again, less, more ▸ reached⟩

theorem draining_leads (env : Surroundings σ) (config : Config) (collected : Nat)
    (interrupted : Bool) (s : Stream σ) (h : s.pool.Sound) :
    ∃ total d waits, d.pool.Sound ∧ Winding s d ∧ Retrieved config.waitMilliseconds waits s d ∧
      waits.length ≤ remaining interrupted s - 1 ∧
      total + d.pool.slotsInFlight.card = collected + s.pool.slotsInFlight.card ∧
      Leads env config (.active (.draining collected interrupted) s)
        (.active (.settling total) d) := by
  induction rank : remaining interrupted s using Nat.strongRecOn
    generalizing collected interrupted s with
  | _ n ih =>
      by_cases none : s.pool.slotsInFlight = ∅
      · obtain ⟨next, way, stepped⟩ := draining_steps env config collected interrupted s h
        cases stepped with
        | cleared => exact ⟨collected, s, [], h, .refl s, .none _ s, Nat.zero_le _, rfl, way⟩
        | waited _ _ _ some => exact absurd none some
      · obtain ⟨back, t, call, sound, winding, retrieved, count, way⟩ :=
          draining_round env config collected interrupted s h none
        -- The slots in flight, of which there is one, count twice: this wait is paid for.
        have several : 2 ≤ remaining interrupted s := by
          have positive := Finset.card_pos.mpr (Finset.nonempty_iff_ne_empty.mpr none)
          rw [remaining]
          omega
        cases way with
        | inl last =>
            refine ⟨_, t, [call], sound, winding, retrieved, ?_, by omega, last⟩
            rw [List.length_singleton]
            omega
        | inr again =>
            obtain ⟨again, less, more⟩ := again
            obtain ⟨total, d, waits, sound', rest, waited, few, count', later⟩ :=
              ih _ (rank ▸ less) (collected + back) again t sound rfl
            refine ⟨total, d, call :: waits, sound', winding.trans rest, retrieved.trans waited, ?_,
              by omega, more.trans later⟩
            rw [List.length_cons]
            omega

/-- The waits of a whole drain, with how many slots they brought back: at most two for each slot in
flight, and none without a cancellation before. -/
structure Collected (config : Config) (s : Stream σ) (waits : List Action) (total : Nat)
    (d : Stream σ) : Prop where
  calls : d.link.calls =
    s.link.calls ++ if s.pool.slotsInFlight = ∅ then [] else .cancelAll :: waits
  each : ∀ call ∈ waits, ∃ result completions, call = .wait config.waitMilliseconds result completions
  few : waits.length ≤ 2 * s.pool.slotsInFlight.card
  inFlight : d.pool.slotsInFlight = s.pool.slotsInFlight \ handedBack waits
  count : total + d.pool.slotsInFlight.card = s.pool.slotsInFlight.card

/-- A session that begins to drain comes to its last step, and takes it. Where no slot is in flight,
there is nothing in between. -/
theorem closing_leads (env : Surroundings σ) (config : Config) (s : Stream σ) (h : s.pool.Sound) :
    ∃ total d waits, d.pool.Sound ∧ Winding (idled env s) d ∧ Collected config s waits total d ∧
      (s.pool.slotsInFlight = ∅ → total = 0 ∧ d = idled env s) ∧
      Leads env config (.active .closing s) (.active (.settling total) d) ∧
      step env config (.active (.settling total) d) = .ok (finish env (abandoned env total d)) := by
  have settles (total : Nat) (d : Stream σ) (sound : d.pool.Sound) :
      step env config (.active (.settling total) d) = .ok (finish env (abandoned env total d)) := by
    obtain ⟨next, taken, stepped⟩ : ∃ next, step env config (.active (.settling total) d) =
        .ok next ∧ Stepped env config (.active (.settling total) d) next :=
      (settle_meets sound total).answer
    cases stepped
    exact taken
  have idle : (idled env s).pool.Sound := Pool.mapSlots_sound _ _
  have kept : (idled env s).pool.slotsInFlight = s.pool.slotsInFlight :=
    Pool.slotsInFlight_releaseIdle s.pool
  have undisturbed : (idled env s).link.calls = s.link.calls := (quiet_idled s).aside.calls_eq
  obtain ⟨next, taken, stepped⟩ : ∃ next, step env config (.active .closing s) = .ok next ∧
      Stepped env config (.active .closing s) next := (drain_meets h).answer
  have way : Leads env config (.active .closing s) next := Leads.of_step taken
  cases stepped with
  | emptied _ none =>
      refine ⟨0, _, [], idle, .refl _, ⟨?_, List.forall_mem_nil _, Nat.zero_le _, ?_, ?_⟩,
        fun _ => ⟨rfl, rfl⟩, way, settles _ _ idle⟩
      · rw [if_pos none, List.append_nil, undisturbed]
      · rw [kept, none, Finset.empty_sdiff]
      · rw [kept, Nat.zero_add]
  | cancelled _ some =>
      let asked : Stream σ := { idled env s with link := (idled env s).link.cancelAll env }
      obtain ⟨total, d, waits, sound, onward, waited, few, count, later⟩ :=
        draining_leads env config 0 false asked idle
      have asking : Winding (idled env s) asked :=
        ⟨rfl, rfl, rfl, id, Link.drains_cancelAll env _⟩
      have same : asked.pool.slotsInFlight = s.pool.slotsInFlight := kept
      rw [same, Nat.zero_add] at count
      refine ⟨total, d, waits, sound, asking.trans onward,
        ⟨?_, waited.each, ?_, ?_, count⟩, fun none => absurd none some, way.trans later,
        settles _ _ sound⟩
      · rw [waited.calls, Link.calls_cancelAll, undisturbed, if_neg some, List.append_assoc]
        rfl
      · rw [remaining, same, if_neg Bool.false_ne_true] at few
        omega
      · rw [waited.inFlight, same]

end Session.Run

end BulkStream
