import BulkStream.Proofs.Silence
import BulkStream.Proofs.Vacancy

/-!
How streaming winds down. While every slot is to be released as it completes, each completion releases
a slot or ends the session, so that a cycle which another follows leaves fewer slots live. From the
top of such a cycle on there are at most as many cycles as live slots, and one where there is none.
-/
namespace BulkStream.Session

variable {σ : Type} {env : Surroundings σ} {config : Config}

namespace Stream

variable {s t : Stream σ}

theorem Awaited.few_waits {milliseconds : Nat} {l m : Link σ} {failure : Option StreamError}
    {completions : List Completion} (h : Awaited env milliseconds l ((failure, completions), m)) :
    m.waits.length ≤ l.waits.length + 2 := by
  cases h with
  | once result _ answer whole => simp
  | again first result more cut answer => simp

theorem sample_activity (h : s.sample env = .ok t) : t.activity = s.activity := by
  rw [sample] at h
  dsimp only at h
  cases polled : s.tracker.poll (s.link.now env).1 with
  | error fault =>
      rw [polled] at h
      cases h
  | ok sampled =>
      rw [polled] at h
      cases sampled <;> cases h <;> rfl

/-- While every slot is to be released, nothing that comes back is credited. -/
theorem credits_stopping (stopping : s.stopAll = true) (c : Completion) : s.credits env c = 0 := by
  rw [credits, if_neg]
  rintro ⟨-, -, running⟩
  rw [stopping, Bool.or_true] at running
  cases running

/-- While every slot is to be released, a completion that meets no error releases one. -/
theorem Handled.live_lowers {c : Completion} (h : Handled env c s t) (sound : s.pool.Sound)
    (stopping : s.stopAll = true) (unfailed : t.fatal = none) : t.pool.live + 1 = s.pool.live := by
  have other (running : (s.fatal.isSome || s.stopAll) = false) : False := by
    rw [stopping, Bool.or_true] at running
    cases running
  have unmet (u : Stream σ) (error : StreamError) : (u.fail error).fatal ≠ none := fun none => by
    have failed := fail_isSome u error
    rw [none] at failed
    cases failed
  cases h with
  | stray stray => exact absurd unfailed (unmet _ _)
  | failed own status => exact absurd unfailed (unmet _ _)
  | dropped own status quitting =>
      change ((s.pool.put c.slot .lent).put c.slot .released).live + 1 = s.pool.live
      rw [Pool.put_put]
      exact sound.live_put_released own rfl
  | stopped own status running | resubmitted own status running | refused own status running =>
      exact (other running).elim

/-- From one stream to another that has handled so many completions while every slot is to be
released. -/
structure Shed (handled : Nat) (s t : Stream σ) : Prop where
  stopAll : t.stopAll = true
  waits : t.link.waits = s.link.waits
  activity : t.activity = s.activity + handled
  unfailed : t.fatal = none → s.fatal = none
  live : t.fatal = none → t.pool.live + handled = s.pool.live

theorem Shed.refl (stopping : s.stopAll = true) : Shed 0 s s := ⟨stopping, rfl, rfl, id, fun _ => rfl⟩

theorem Shed.after {c : Completion} {handled : Nat} {u : Stream σ} (more : Shed handled t u)
    (first : Handled env c s t) (sound : s.pool.Sound) (stopping : s.stopAll = true) :
    Shed (handled + 1) s u := by
  refine ⟨more.stopAll, more.waits.trans first.waits_eq, ?_, ?_, ?_⟩
  · rw [more.activity, first.activity_eq]
    omega
  · intro none
    have before := more.unfailed none
    rw [first.fatal_eq, Option.or_eq_none_iff] at before
    exact before.1
  · intro none
    have later := more.live none
    have now := first.live_lowers sound stopping (more.unfailed none)
    omega

end Stream

namespace Run

/-- A cycle begins here. -/
def isTop : Run σ → Bool
  | .active .cycling _ => true
  | _ => false

/-- Cycles that begin within the first `n` steps of a run. -/
def cycles (env : Surroundings σ) (config : Config) (n : Nat) (run : Run σ) : Nat :=
  (path env config n run).countP isTop

/-- A run comes from one point to another, and begins so many cycles on the way. -/
def Passes (env : Surroundings σ) (config : Config) (count : Nat) (run next : Run σ) : Prop :=
  ∃ n, advance env config n run = .ok next ∧ cycles env config n run = count

namespace Passes

theorem refl (run : Run σ) : Passes env config 0 run run := ⟨0, by cases run <;> rfl, rfl⟩

theorem trans {a b : Nat} {first second third : Run σ}
    (earlier : Passes env config a first second) (later : Passes env config b second third) :
    Passes env config (a + b) first third := by
  obtain ⟨m, come, rfl⟩ := earlier
  obtain ⟨n, onward, rfl⟩ := later
  refine ⟨m + n, ?_, ?_⟩
  · rw [advance_add, come]
    exact onward
  · rw [cycles, path_add come, List.countP_append, cycles, cycles]

theorem of_step {phase : Phase} {s : Stream σ} {next : Run σ}
    (taken : step env config (.active phase s) = .ok next) :
    Passes env config (active phase s).isTop.toNat (.active phase s) next := by
  refine ⟨1, ?_, ?_⟩
  · rw [advance, taken]
    cases next <;> rfl
  · have one : path env config 1 (.active phase s) = [.active phase s] := rfl
    rw [cycles, one, List.countP_singleton]
    cases (active phase s).isTop <;> rfl

end Passes

theorem handling_leads (env : Surroundings σ) (config : Config) (completions : List Completion)
    (s : Stream σ) (sound : s.Sound) (stopping : s.stopAll = true) :
    ∃ t, t.Sound ∧ Stream.Shed completions.length s t ∧
      Passes env config 0 (.active (.handling completions) s) (.active (.handling []) t) := by
  induction completions generalizing s with
  | nil => exact ⟨s, sound, .refl stopping, .refl _⟩
  | cons c completions ih =>
      have countable : ¬ (active (.handling (c :: completions)) s).Overfull env := by
        rw [Overfull, Stream.credits_stopping stopping, Nat.add_zero, Nat.not_le]
        exact sound.tracker.counted
      have whole : (active (.handling (c :: completions)) s).Sound := sound
      have meets : Meets _ (Stepped env config _) (step env config _) := step_meets whole
      obtain ⟨next, taken, stepped⟩ := (meets.widen countable).answer
      cases stepped with
      | handled _ _ _ t handled =>
          obtain ⟨u, sound', shed, later⟩ :=
            ih t (handled.sound sound) (handled.stopAll_eq.trans stopping)
          exact ⟨u, sound', shed.after handled sound.pool stopping, (Passes.of_step taken).trans later⟩

theorem step_cycling (env : Surroundings σ) (config : Config) (s : Stream σ) :
    step env config (.active .cycling s) =
      .ok (.active (.handling (Stream.await env config.waitMilliseconds s.link).1.2)
        (s.roused env (Stream.await env config.waitMilliseconds s.link).1.1
          (Stream.await env config.waitMilliseconds s.link).2)) := by
  rw [step, Stream.gather_eq]

/-- A cycle that begins while every slot is to be released handles what its waits hand over. -/
theorem cycle_handles (env : Surroundings σ) (config : Config) (s : Stream σ) (sound : s.Sound)
    (quitting : (active .cycling s).Quitting env) :
    ∃ handled t, t.Sound ∧ t.stopAll = true ∧ t.link.waits.length ≤ s.link.waits.length + 2 ∧
      t.activity = s.activity + handled ∧ (t.fatal = none → t.pool.live + handled = s.pool.live) ∧
      Passes env config 1 (.active .cycling s) (.active (.handling []) t) := by
  have taken := step_cycling env config s
  have awaited : Stream.Awaited env config.waitMilliseconds s.link
      (Stream.await env config.waitMilliseconds s.link) :=
    Stream.await_awaited config.waitMilliseconds s.link
  generalize Stream.await env config.waitMilliseconds s.link = answered at taken awaited
  obtain ⟨⟨failure, completions⟩, l⟩ := answered
  have gathered : Stepped env config (.active .cycling s)
      (.active (.handling completions) (s.roused env failure l)) := .gathered s _ _ l awaited
  have stopping : (s.roused env failure l).stopAll = true := StopsAll.stepped quitting gathered
  obtain ⟨t, sound, shed, handled⟩ :=
    handling_leads env config completions _ (gathered.sound sound) stopping
  refine ⟨completions.length, t, sound, shed.stopAll, ?_, shed.activity, shed.live,
    (Passes.of_step taken).trans handled⟩
  rw [shed.waits]
  exact awaited.few_waits

/-- A cycle that begins while every slot is to be released is the last, or leaves fewer slots
live. -/
theorem cycle_leads (env : Surroundings σ) (config : Config) (s : Stream σ) (sound : s.Sound)
    (fresh : s.activity = 0) (quitting : (active .cycling s).Quitting env) :
    ∃ t, t.link.waits.length ≤ s.link.waits.length + 2 ∧
      (Passes env config 1 (.active .cycling s) (.active .closing t) ∨
        Passes env config 1 (.active .cycling s) (.active .cycling t) ∧ t.Sound ∧
          t.activity = 0 ∧ t.stopAll = true ∧ 0 < t.pool.live ∧ t.pool.live < s.pool.live) := by
  obtain ⟨handled, t, sound, stopping, few, activity, lowers, way⟩ :=
    cycle_handles env config s sound quitting
  have whole : (active (.handling []) t).Sound := sound
  obtain ⟨next, taken, stepped⟩ : ∃ next, step env config (.active (.handling []) t) = .ok next ∧
      Stepped env config (.active (.handling []) t) next := (step_meets whole).answer
  have onward : Passes env config 1 (.active .cycling s) next := way.trans (Passes.of_step taken)
  have nextSound : next.Sound := stepped.sound sound
  cases stepped with
  | concluded _ _ u concluded =>
      cases concluded with
      | finished => exact ⟨t, few, .inl onward⟩
      | stalled =>
          refine ⟨_, ?_, .inl onward⟩
          change (t.link.log env _).waits.length ≤ _
          rw [Link.waits_log]
          exact few
      | again running busy _ sampled beside =>
          obtain ⟨unfailed, some⟩ := Bool.or_eq_false_iff.mp running
          have fewer : t.pool.live + handled = s.pool.live :=
            lowers (Option.isNone_iff_eq_none.mp (Option.isSome_eq_false_iff.mp unfailed))
          refine ⟨u, ?_, .inr ⟨onward, nextSound, Stream.sample_activity sampled,
            beside.stopAll stopping, ?_, ?_⟩⟩
          · rw [beside.aside.waits_eq]
            exact few
          · rw [beside.pool]
            exact Nat.pos_of_ne_zero (ne_of_beq_false some)
          · rw [beside.pool]
            omega

/-- From the top of a cycle that begins while every slot is to be released, a run comes to where it
drains, by at most as many cycles as slots are live, and one where none is. -/
theorem cycling_leads (env : Surroundings σ) (config : Config) (s : Stream σ) (sound : s.Sound)
    (fresh : s.activity = 0) (quitting : (active .cycling s).Quitting env) :
    ∃ count t, count ≤ max 1 s.pool.live ∧
      t.link.waits.length ≤ s.link.waits.length + 2 * count ∧
      Passes env config count (.active .cycling s) (.active .closing t) := by
  induction rank : s.pool.live using Nat.strongRecOn generalizing s with
  | _ live ih =>
      obtain ⟨t, few, last | ⟨way, sound', fresh', stopping, some, fewer⟩⟩ :=
        cycle_leads env config s sound fresh quitting
      · exact ⟨1, t, Nat.le_max_left 1 live, few, last⟩
      · obtain ⟨count, u, bound, few', later⟩ :=
          ih _ (rank ▸ fewer) t sound' fresh' (.inl stopping) rfl
        refine ⟨1 + count, u, ?_, by omega, way.trans later⟩
        rw [Nat.max_eq_right some] at bound
        omega

end Run

end BulkStream.Session
