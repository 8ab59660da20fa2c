import BulkStream.Proofs.WindDown

/-!
The pace of streaming. At the top of each cycle every slot that is live is in flight. A cycle that
another follows has handled a completion, and one that is given none, though its wait succeeds and
slots are live, is the last: it times out. Once every slot is to be released there are at most as many
cycles to come as slots are live.
-/
namespace BulkStream

namespace Pool

/-- Below an index, no buffer is with the pool or with the session. -/
def VacatingBelow (p : Pool) (index : Nat) : Prop :=
  ∀ (i : Nat) (slot : Slot), i < index → p.slots[i]? = some slot → slot = .inFlight ∨ slot = .released

theorem VacatingBelow.put {p : Pool} {index : Nat} (h : p.VacatingBelow index) {settled : Slot}
    (gone : settled = .inFlight ∨ settled = .released) :
    (p.put index settled).VacatingBelow (index + 1) := by
  intro i slot below found
  cases found_put found with
  | inl same => exact same ▸ gone
  | inr before => exact h i slot (Nat.lt_of_le_of_ne (Nat.le_of_lt_succ below) before.1.symm) before.2

theorem VacatingBelow.vacating {p : Pool} {index : Nat} (h : p.VacatingBelow index)
    (all : ¬ index < p.capacity) : p.Vacating := by
  intro i slot found
  obtain ⟨inside, -⟩ := Array.getElem?_eq_some_iff.mp found
  exact h i slot (inside.trans_le (Nat.le_of_not_lt all)) found

theorem Vacating.live_eq {p : Pool} (h : p.Vacating) (sound : p.Sound) : p.live = p.inFlight := by
  have same : p.liveSlots = p.slotsInFlight := by
    ext i
    rw [liveSlots, mem_slotsWhere, mem_slotsInFlight]
    constructor
    · rintro ⟨slot, found, live⟩
      cases h i slot found with
      | inl flying => exact flying ▸ found
      | inr released =>
          rw [released] at live
          cases live
    · exact fun found => ⟨.inFlight, found, rfl⟩
  rw [sound.live_eq, sound.inFlight_eq, same]

end Pool

namespace Session

variable {σ : Type} {env : Surroundings σ} {config : Config} {state : State} {world : σ}

theorem Stream.Handled.vacating {c : Completion} {s t : Stream σ} (h : Handled env c s t)
    (vacating : s.pool.Vacating) : t.pool.Vacating := by
  cases h.pool_eq with
  | inl same => exact same ▸ vacating
  | inr settled =>
      obtain ⟨slot, gone, changed⟩ := settled
      exact changed ▸ vacating.put c.slot gone

namespace Stream

variable {s : Stream σ} {error : StreamError}

theorem refusal?_harsh {slot : Nat} {buffer : Bytes}
    (met : s.refusal? env slot buffer = some error) : error.isGraceful = false := by
  rw [refusal?] at met
  split at met <;> cases met
  rfl

theorem mishap?_harsh {c : Completion} (met : s.mishap? env c = some error) :
    error.isGraceful = false := by
  rw [mishap?] at met
  split at met
  · cases met
    rfl
  · split at met
    · cases met
      rfl
    · split at met
      · cases met
      · generalize (s.succeeded c.slot).consumed env c = answered at met
        obtain ⟨flow, buffer, t⟩ := answered
        cases flow with
        | stop => cases met
        | proceed => exact refusal?_harsh met

theorem waitMishap?_harsh {milliseconds : Nat} {l : Link σ}
    (met : waitMishap? env milliseconds l = some error) : error.isGraceful = false := by
  rw [waitMishap?] at met
  split at met
  · cases met
  · cases met
    rfl
  · obtain ⟨source, -, rfl⟩ := Option.map_eq_some_iff.mp met
    rfl

end Stream

namespace Run

variable {n : Nat} {run next : Run σ}

/-- What a session keeps up from cycle to cycle. -/
def InPace : Run σ → Prop
  | .active (.priming index) s => s.pool.VacatingBelow index ∧ s.activity = 0
  | .active .cycling s => s.pool.Vacating ∧ s.activity = 0 ∧ s.fatal = none
  | .active (.handling _) s => s.pool.Vacating
  | _ => True

theorem InPace.started (h : Started env config state world run) : run.InPace := by
  cases h with
  | unset | unpurged | narrow | unallocated => trivial
  | opened => exact ⟨fun i slot below => absurd below (Nat.not_lt_zero i), rfl⟩

theorem InPace.stepped (h : run.InPace) (unspoiled : run.Unspoiled)
    (stepped : Stepped env config run next) : next.InPace := by
  cases stepped with
  | queued => exact ⟨h.1.put (.inl rfl), h.2⟩
  | spared => exact ⟨h.1.put (.inr rfl), h.2⟩
  | entered index s all answer => exact ⟨h.1.vacating all, h.2, unspoiled.1⟩
  | gathered => exact h.1
  | handled c completions s t handled => exact handled.vacating h
  | concluded s again t concluded =>
      cases concluded with
      | finished | stalled => trivial
      | again running busy t sampled beside =>
          refine ⟨beside.pool ▸ h, Stream.sample_activity sampled, beside.fatal.trans ?_⟩
          exact Option.isSome_eq_false_iff.mp (Bool.or_eq_false_iff.mp running).1 |>
            Option.isNone_iff_eq_none.mp
  | emptyHanded answer interrupted before collected s =>
      rcases afterWait_cases answer interrupted before collected with ⟨again, next⟩ | next <;>
        rw [next] <;> trivial
  | settled => exact finish_of_ended (fun _ _ => trivial) _
  | ended | refused | denied | emptied | cancelled | cleared | waited | collected | ignored => trivial

theorem inPace_at (come : advance env config n (start env config state world) = .ok run) :
    run.InPace :=
  holds_at (fun _ => InPace.started)
    (fun _ _ _ before stepped held => held.stepped (heeded_at before).2 stepped) come

/-- The first error that a run has met is the one recorded. -/
def Met (first : Option StreamError) : Run σ → Prop
  | .active _ s => s.fatal = first
  | .ended _ _ => True

theorem Met.stepped {first : Option StreamError} {accepted : Nat} (h : run.Met first)
    (recorded : run.Recorded config first accepted) (stepped : Stepped env config run next) :
    next.Met (first.or (run.mishap? env config)) := by
  have later := recorded.stepped stepped
  have unmet {s : Stream σ} (same : s.fatal = first) : s.fatal = first.or none :=
    same.trans Option.or_none.symm
  cases stepped with
  | queued | spared | entered | gathered | handled => exact later.fatal
  | refused | denied => exact later.1.fatal
  | concluded s again t _ =>
      cases again with
      | true => exact later.fatal
      | false => exact later.1.fatal
  | emptied | cancelled | cleared | waited | collected | ignored | emptyHanded => exact unmet h
  | settled => exact finish_of_ended (fun _ _ => trivial) _
  | ended => trivial

theorem met_at (come : advance env config n (start env config state world) = .ok run) :
    run.Met (firstMishap env config n (start env config state world)) := by
  refine holds_at ?_ ?_ come
  · intro run started
    cases started with
    | unset | unpurged | narrow | unallocated => trivial
    | opened => rfl
  · intro n last next before stepped met
    rw [firstMishap_succ before]
    exact met.stepped (recorded_at before) stepped

/-- A cycle begins at this point of a run whose wait succeeds and hands over nothing, while no error is
recorded and a slot is live. -/
def IdleCycle (env : Surroundings σ) (config : Config) (state : State) (world : σ) (m : Nat) : Prop :=
  ∃ s, advance env config m (start env config state world) = .ok (.active .cycling s) ∧
    (Stream.await env config.waitMilliseconds s.link).1 = (none, []) ∧ s.fatal = none ∧
    s.pool.live ≠ 0

theorem cycle_gathers {s : Stream σ}
    (come : advance env config n (start env config state world) = .ok (.active .cycling s)) :
    advance env config (n + 1) (start env config state world) =
      .ok (.active (.handling (Stream.await env config.waitMilliseconds s.link).1.2)
        (s.roused env (Stream.await env config.waitMilliseconds s.link).1.1
          (Stream.await env config.waitMilliseconds s.link).2)) := by
  rw [advance_succ, come]
  exact step_cycling env config s

theorem primingMishap?_harsh {index : Nat} {s : Stream σ} {error : StreamError}
    (met : primingMishap? env config index s = some error) : error.isGraceful = false := by
  rw [primingMishap?] at met
  split at met
  · split at met
    · exact Stream.refusal?_harsh met
    · cases met
  · split at met <;> cases met
    rfl

/-- A run times out where a cycle has handled nothing and slots are live. -/
theorem mishap?_timeout {milliseconds : Nat} :
    run.mishap? env config = some (.livenessTimeout milliseconds) ↔
      milliseconds = config.waitMilliseconds ∧
        ∃ s, run = .active (.handling []) s ∧ s.pool.live ≠ 0 ∧ s.activity = 0 := by
  have graceful {P : Prop} (harsh : (StreamError.livenessTimeout milliseconds).isGraceful = false) :
      P := nomatch harsh
  constructor
  · intro met
    cases run with
    | ended result l => cases met
    | active phase s =>
        cases phase with
        | priming index => exact graceful (primingMishap?_harsh met)
        | cycling => exact graceful (Stream.waitMishap?_harsh met)
        | handling completions =>
            cases completions with
            | nil =>
                rw [mishap?] at met
                split at met
                · rename_i stuck
                  cases met
                  exact ⟨rfl, s, rfl, stuck⟩
                · cases met
            | cons c completions => exact graceful (Stream.mishap?_harsh met)
        | closing | draining | collecting | settling => cases met
  · rintro ⟨rfl, s, rfl, stuck⟩
    exact if_pos stuck

/-- Where a cycle has handled nothing, its waits handed over nothing. -/
theorem handled_nothing {s : Stream σ}
    (come : advance env config n (start env config state world) = .ok (.active (.handling []) s))
    (idle : s.activity = 0) :
    ∃ m before, n = m + 1 ∧
      advance env config m (start env config state world) = .ok (.active .cycling before) ∧
      (Stream.await env config.waitMilliseconds before.link).1.2 = [] ∧
      s = before.roused env (Stream.await env config.waitMilliseconds before.link).1.1
        (Stream.await env config.waitMilliseconds before.link).2 := by
  cases n with
  | zero =>
      have started := start_started env config state world
      have begins : start env config state world = .active (.handling []) s := Except.ok.inj come
      generalize start env config state world = run at started begins
      cases started <;> cases begins
  | succ m =>
      obtain ⟨last, reached, -, stepped⟩ := last_step come
      generalize here : active (.handling []) s = next at stepped
      cases stepped with
      | gathered before failure completions l awaited =>
          have gathers := cycle_gathers reached
          rw [come] at gathers
          simp only [Except.ok.injEq, active.injEq, Phase.handling.injEq] at gathers
          exact ⟨m, before, rfl, reached, gathers.1.symm, gathers.2⟩
      | handled c completions before t handled =>
          cases here
          rw [handled.activity_eq] at idle
          cases idle
      | concluded before again t _ => cases again <;> cases here
      | emptyHanded answer interrupted before collected t =>
          rcases afterWait_cases answer interrupted before collected with ⟨again, next⟩ | next <;>
            rw [next] at here <;> cases here
      | settled collected t =>
          obtain ⟨result, l, finished, -⟩ := finish_ended env (abandoned env collected t)
          rw [finished] at here
          cases here
      | ended | queued | refused | spared | denied | entered | emptied | cancelled | cleared | waited
      | collected | ignored => cases here

theorem stalls_iff (come : advance env config n (start env config state world) = .ok run)
    {milliseconds : Nat} :
    (firstMishap env config n (start env config state world) = none ∧
        run.mishap? env config = some (.livenessTimeout milliseconds)) ↔
      milliseconds = config.waitMilliseconds ∧
        ∃ m, n = m + 1 ∧ IdleCycle env config state world m := by
  have met := met_at come
  constructor
  · rintro ⟨unmet, timeout⟩
    obtain ⟨same, s, rfl, live, idle⟩ := mishap?_timeout.mp timeout
    obtain ⟨m, before, rfl, reached, nothing, rfl⟩ := handled_nothing come idle
    obtain ⟨unfailed, waited⟩ := Option.or_eq_none_iff.mp (met.trans unmet)
    exact ⟨same, m, rfl, before, reached, Prod.ext waited nothing, unfailed, live⟩
  · rintro ⟨rfl, m, rfl, s, reached, answer, unfailed, live⟩
    have gathers := cycle_gathers reached
    rw [answer, come] at gathers
    cases gathers
    have unmet : (s.roused env none (Stream.await env config.waitMilliseconds s.link).2).fatal =
        none := Option.or_eq_none_iff.mpr ⟨unfailed, rfl⟩
    exact ⟨met.symm.trans unmet, mishap?_timeout.mpr ⟨rfl, _, rfl, live, (inPace_at reached).2.1⟩⟩

/-- The first error that a run meets is that it timed out just if one of its cycles was idle. -/
theorem firstMishap_timeout (come : advance env config n (start env config state world) = .ok run)
    {milliseconds : Nat} :
    firstMishap env config n (start env config state world) =
        some (.livenessTimeout milliseconds) ↔
      milliseconds = config.waitMilliseconds ∧
        ∃ m, m + 2 ≤ n ∧ IdleCycle env config state world m := by
  induction n generalizing run with
  | zero =>
      constructor
      · intro impossible
        cases impossible
      · rintro ⟨-, m, within, -⟩
        cases within
  | succ n ih =>
      obtain ⟨last, before, -, -⟩ := last_step come
      rw [firstMishap_succ before, Option.or_eq_some_iff, ih before, stalls_iff before]
      constructor
      · rintro (⟨same, m, within, idle⟩ | ⟨same, m, rfl, idle⟩)
        · exact ⟨same, m, Nat.le_succ_of_le within, idle⟩
        · exact ⟨same, m, Nat.le_refl _, idle⟩
      · rintro ⟨same, m, within, idle⟩
        cases Nat.lt_or_eq_of_le within with
        | inl earlier => exact .inl ⟨same, m, Nat.le_of_lt_succ earlier, idle⟩
        | inr now => exact .inr ⟨same, m, by omega, idle⟩

/-- A cycle that handles nothing is the last. -/
theorem handling_none_closes {s : Stream σ}
    (come : advance env config n (start env config state world) = .ok (.active (.handling []) s))
    (idle : s.activity = 0) :
    ∃ t, advance env config (n + 1) (start env config state world) = .ok (.active .closing t) := by
  obtain ⟨next, taken, stepped⟩ : ∃ next, step env config (.active (.handling []) s) = .ok next ∧
      Stepped env config (.active (.handling []) s) next := (step_meets (sound_at come)).answer
  have onward : advance env config (n + 1) (start env config state world) = .ok next := by
    rw [advance_succ, come]
    exact taken
  cases stepped with
  | concluded _ again t concluded =>
      cases concluded with
      | finished | stalled => exact ⟨_, onward⟩
      | again running busy => exact absurd idle busy

/-- The top of a cycle is not where the end is decided. -/
theorem InPace.undecided {s : Stream σ} (h : (active .cycling s).InPace) :
    ¬ (active .cycling s).Decided := by
  rintro (failed | drains)
  · rw [h.2.2] at failed
    cases failed
  · cases drains

/-- A cycle that another follows is given a completion by its waits, and handles it. -/
theorem cycle_handles_some {m : Nat} {s t : Stream σ} (within : m < n)
    (earlier : advance env config m (start env config state world) = .ok (.active .cycling s))
    (come : advance env config n (start env config state world) = .ok (.active .cycling t)) :
    ∃ c rest u v, m + 2 < n ∧
      advance env config (m + 1) (start env config state world) =
        .ok (.active (.handling (c :: rest)) u) ∧
      Stream.Handled env c u v ∧
      advance env config (m + 2) (start env config state world) =
        .ok (.active (.handling rest) v) := by
  have gathers := cycle_gathers earlier
  have fresh : s.activity = 0 := (inPace_at earlier).2.1
  have one : m + 1 ≠ n := by
    rintro rfl
    rw [come] at gathers
    cases gathers
  have two : m + 2 ≤ n := by omega
  obtain ⟨next, follows⟩ := come_before come two
  generalize (Stream.await env config.waitMilliseconds s.link).1.2 = completions at gathers
  cases completions with
  | nil =>
      obtain ⟨u, closes⟩ := handling_none_closes gathers fresh
      have decided := lasts_to (fun _ _ stepped held => Decided.stepped held stepped) come two closes
        (.inr rfl)
      exact absurd decided (inPace_at come).undecided
  | cons c rest =>
      have stepped := step_between gathers follows
      cases stepped with
      | handled _ _ _ v handled =>
          refine ⟨c, rest, _, v, Nat.lt_of_le_of_ne two ?_, gathers, handled, follows⟩
          rintro rfl
          rw [come] at follows
          cases follows

/-- The pace of a run that has come to its `n`-th point. -/
structure Paced (env : Surroundings σ) (config : Config) (state : State) (world : σ) (n : Nat)
    (run : Run σ) : Prop where
  /-- As a cycle begins, no buffer is with the pool or with the session. -/
  engaged (s : Stream σ) (top : run = .active .cycling s) :
    s.pool.Vacating ∧ s.pool.live = s.pool.inFlight
  /-- Each cycle before has handled a completion. -/
  busy (m : Nat) (before : m < n) (s t : Stream σ) (top : run = .active .cycling t)
      (earlier : advance env config m (start env config state world) = .ok (.active .cycling s)) :
    ∃ c rest u v, m + 2 < n ∧
      advance env config (m + 1) (start env config state world) =
        .ok (.active (.handling (c :: rest)) u) ∧
      Stream.Handled env c u v ∧
      advance env config (m + 2) (start env config state world) = .ok (.active (.handling rest) v)
  timeout (phase : Phase) (s : Stream σ) (milliseconds : Nat) (here : run = .active phase s) :
    s.fatal = some (.livenessTimeout milliseconds) ↔ milliseconds = config.waitMilliseconds ∧
      ∃ m, m + 2 ≤ n ∧ IdleCycle env config state world m
  last (s : Stream σ) (top : run = .active .cycling s) (m : Nat) (before : m < n) :
    ¬ IdleCycle env config state world m
  /-- Once every slot is to be released there is one more cycle for each live slot, at most. -/
  windsDown (s : Stream σ) (top : run = .active .cycling s) (quitting : run.Quitting env) :
    ∃ k t, advance env config (n + k) (start env config state world) = .ok (.active .closing t) ∧
      cycles env config k run ≤ max 1 s.pool.live ∧
      t.link.waits.length ≤ s.link.waits.length + 2 * max 1 s.pool.live

theorem paced_at (come : advance env config n (start env config state world) = .ok run) :
    Paced env config state world n run := by
  have pace := inPace_at come
  have sound := sound_at come
  refine ⟨?_, ?_, ?_, ?_, ?_⟩
  · rintro s rfl
    exact ⟨pace.1, pace.1.live_eq sound.stream.pool⟩
  · rintro m before s t rfl earlier
    exact cycle_handles_some before earlier come
  · rintro phase s milliseconds rfl
    have met : s.fatal = firstMishap env config n (start env config state world) := met_at come
    rw [met]
    exact firstMishap_timeout come
  · rintro s rfl m before ⟨t, earlier, answer, -, -⟩
    obtain ⟨c, rest, u, v, -, handles, -⟩ := cycle_handles_some before earlier come
    have gathers := cycle_gathers earlier
    rw [handles, answer] at gathers
    cases gathers
  · rintro s rfl quitting
    obtain ⟨count, t, bound, few, k, reached, rfl⟩ :=
      cycling_leads env config s sound.stream pace.2.1 quitting
    refine ⟨k, t, ?_, bound, few.trans ?_⟩
    · rw [advance_add, come]
      exact reached
    · exact Nat.add_le_add_left (Nat.mul_le_mul_left 2 bound) _

/-- Whatever its surroundings do, a session keeps pace: its cycles begin with every live slot in flight
and handle something or are the last, it times out just where a cycle is idle, and once every slot is
to be released it winds down within a number of cycles. -/
theorem session_keeps_pace (env : Surroundings σ) (config : Config) (state : State) (world : σ)
    (n : Nat) :
    (∃ run, advance env config n (start env config state world) = .ok run ∧
        Paced env config state world n run) ∨
      advance env config n (start env config state world) = .error .countOverflow := by
  cases comes env config state world n with
  | inl coming =>
      obtain ⟨run, come, -⟩ := coming
      exact .inl ⟨run, come, paced_at come⟩
  | inr fault => exact .inr fault

end Run

end Session

end BulkStream
