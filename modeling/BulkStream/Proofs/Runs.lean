import BulkStream.Proofs.RunStart

/-!
Whole runs. What holds as a run begins and is kept by every step holds at every point of the run,
and nothing but a byte count past 64 bits can keep a run from going on.
-/
namespace BulkStream.Session.Run

variable {σ : Type} {env : Surroundings σ} {config : Config} {state : State} {world : σ}

def link : Run σ → Link σ
  | .active _ s => s.link
  | .ended _ l => l

theorem quiet_failEarly (error : StreamError) (l : Link σ) :
    l.Quiet env (failEarly env error l).link :=
  (Link.Quiet.refl.log (.error error.message) rfl).transition .terminated

theorem advance_succ (n : Nat) (run : Run σ) :
    advance env config (n + 1) run = advance env config n run >>= step env config := by
  induction n generalizing run with
  | zero =>
      cases run with
      | ended result l => rfl
      | active phase s => exact bind_pure (step env config (.active phase s))
  | succ n ih =>
      cases run with
      | ended result l => rfl
      | active phase s =>
          rw [advance, advance, bind_assoc]
          exact bind_congr ih

theorem advance_add (m n : Nat) (run : Run σ) :
    advance env config (m + n) run = advance env config m run >>= advance env config n := by
  induction n with
  | zero =>
      have stay : advance env config 0 = (pure : Run σ → Except Fault (Run σ)) := rfl
      rw [Nat.add_zero, stay, bind_pure]
  | succ n ih =>
      have onward : advance env config (n + 1) =
          fun run => advance env config n run >>= step env config := funext (advance_succ n)
      rw [← Nat.add_assoc, advance_succ, ih, onward, bind_assoc]

def Reached (env : Surroundings σ) (config : Config) (state : State) (world : σ) (run : Run σ) :
    Prop :=
  ∃ n, advance env config n (start env config state world) = .ok run

/-- The points from which a run takes its first `n` steps. -/
def path (env : Surroundings σ) (config : Config) (n : Nat) (run : Run σ) : List (Run σ) :=
  (List.range n).filterMap fun k => (advance env config k run).toOption

theorem path_succ {n : Nat} {run next : Run σ} (come : advance env config n run = .ok next) :
    path env config (n + 1) run = path env config n run ++ [next] := by
  rw [path, List.range_succ, List.filterMap_append, path, List.filterMap_cons, come]
  rfl

theorem path_add {m : Nat} {run mid : Run σ} (come : advance env config m run = .ok mid) (n : Nat) :
    path env config (m + n) run = path env config m run ++ path env config n mid := by
  have onward (k : Nat) : advance env config (m + k) run = advance env config k mid := by
    rw [advance_add, come]
    rfl
  simp only [path, List.range_add, List.filterMap_append, List.filterMap_map, Function.comp_def,
    onward]

/-- Every point of a run has a property, which may speak of how the run came there, as far as the
run can be followed. If it cannot, a completion carried too many bytes. -/
theorem run_keeps_at {P : Nat → Run σ → Prop}
    (begins : ∀ run, Started env config state world run → P 0 run)
    (kept : ∀ n run next, advance env config n (start env config state world) = .ok run →
      run.Sound → P n run → step env config run = .ok next → Stepped env config run next →
      P (n + 1) next) (n : Nat) :
    (∃ run, advance env config n (start env config state world) = .ok run ∧ run.Sound ∧
        P n run) ∨
      advance env config n (start env config state world) = .error .countOverflow ∧
        ∃ m < n, ∃ run, advance env config m (start env config state world) = .ok run ∧
          P m run ∧ run.Overfull env := by
  induction n with
  | zero =>
      have started := start_started env config state world
      exact .inl ⟨_, rfl, started.sound, begins _ started⟩
  | succ n ih =>
      rw [advance_succ]
      rcases ih with ⟨run, reached, sound, holds⟩ | ⟨fault, m, before, last⟩
      · have stepped : Meets (run.Overfull env) (Stepped env config run) (step env config run) :=
          step_meets sound
        rw [reached]
        change (∃ next, step env config run = .ok next ∧ _) ∨ step env config run = _ ∧ _
        cases taken : step env config run with
        | ok next =>
            rw [taken] at stepped
            exact .inl ⟨next, rfl, stepped.sound sound,
              kept n run next reached sound holds taken stepped⟩
        | error fault =>
            rw [taken] at stepped
            obtain ⟨rfl, overfull⟩ := stepped
            exact .inr ⟨rfl, n, Nat.lt_succ_self n, run, reached, holds, overfull⟩
      · rw [fault]
        exact .inr ⟨rfl, m, Nat.lt_succ_of_lt before, last⟩

/-- Every point of a run has a property, as far as the run can be followed. -/
theorem run_keeps {P : Run σ → Prop}
    (begins : ∀ run, Started env config state world run → P run)
    (kept : ∀ run next, Reached env config state world run → run.Sound → P run →
      step env config run = .ok next → Stepped env config run next → P next) (n : Nat) :
    (∃ run, advance env config n (start env config state world) = .ok run ∧ run.Sound ∧ P run) ∨
      advance env config n (start env config state world) = .error .countOverflow := by
  have each : ∀ n run next, advance env config n (start env config state world) = .ok run →
      run.Sound → P run → step env config run = .ok next → Stepped env config run next → P next := by
    intro n run next come
    exact kept run next ⟨n, come⟩
  rcases run_keeps_at begins each n with held | ⟨fault, -⟩
  · exact .inl held
  · exact .inr fault

/-- A run can be followed as far as its bytes can be counted. -/
theorem comes (env : Surroundings σ) (config : Config) (state : State) (world : σ) (n : Nat) :
    (∃ run, advance env config n (start env config state world) = .ok run ∧ run.Sound) ∨
      advance env config n (start env config state world) = .error .countOverflow := by
  have kept : (∃ run, advance env config n (start env config state world) = .ok run ∧ run.Sound ∧
        True) ∨
      advance env config n (start env config state world) = .error .countOverflow :=
    run_keeps (fun _ _ => trivial) (fun _ _ _ _ _ _ _ => trivial) n
  rcases kept with ⟨run, come, sound, -⟩ | fault
  · exact .inl ⟨run, come, sound⟩
  · exact .inr fault

theorem sound_at {n : Nat} {run : Run σ}
    (come : advance env config n (start env config state world) = .ok run) : run.Sound := by
  rcases comes env config state world n with ⟨other, same, sound⟩ | fault
  · simp only [come, Except.ok.injEq] at same
    exact same ▸ sound
  · simp [come] at fault

/-- The last step that came to a point, from the point before it. -/
theorem last_step {n : Nat} {next : Run σ}
    (come : advance env config (n + 1) (start env config state world) = .ok next) :
    ∃ run, advance env config n (start env config state world) = .ok run ∧ run.Sound ∧
      Stepped env config run next := by
  rw [advance_succ] at come
  rcases comes env config state world n with ⟨run, reached, sound⟩ | fault
  · rw [reached] at come
    have stepped : Meets (run.Overfull env) (Stepped env config run) (step env config run) :=
      step_meets sound
    have taken : step env config run = .ok next := come
    rw [taken] at stepped
    exact ⟨run, reached, sound, stepped⟩
  · rw [fault] at come
    cases come

theorem step_between {n : Nat} {run next : Run σ}
    (come : advance env config n (start env config state world) = .ok run)
    (onward : advance env config (n + 1) (start env config state world) = .ok next) :
    Stepped env config run next := by
  obtain ⟨last, before, -, stepped⟩ := last_step onward
  rw [come] at before
  cases before
  exact stepped

/-- What holds at the start and is kept by each step holds at every point that a run comes to. -/
@[elab_as_elim]
theorem holds_at {P : Nat → Run σ → Prop}
    (begins : ∀ run, Started env config state world run → P 0 run)
    (kept : ∀ n run next, advance env config n (start env config state world) = .ok run →
      Stepped env config run next → P n run → P (n + 1) next) {n : Nat} {run : Run σ}
    (come : advance env config n (start env config state world) = .ok run) : P n run := by
  induction n generalizing run with
  | zero =>
      cases come
      exact begins _ (start_started env config state world)
  | succ n ih =>
      obtain ⟨last, before, -, stepped⟩ := last_step come
      exact kept n last run before stepped (ih before)

/-- A run comes to each point before one that it comes to. -/
theorem come_before {n : Nat} {run : Run σ}
    (come : advance env config n (start env config state world) = .ok run) {m : Nat}
    (within : m ≤ n) : ∃ earlier, advance env config m (start env config state world) = .ok earlier := by
  obtain ⟨k, rfl⟩ := Nat.exists_eq_add_of_le within
  rw [advance_add] at come
  cases reached : advance env config m (start env config state world) with
  | ok earlier => exact ⟨earlier, rfl⟩
  | error fault =>
      rw [reached] at come
      cases come

/-- What lasts from step to step lasts from its first moment on. -/
theorem lasts_to {D : Run σ → Prop}
    (lasts : ∀ run next, Stepped env config run next → D run → D next) {n : Nat} {run : Run σ}
    (come : advance env config n (start env config state world) = .ok run) {m : Nat} (within : m ≤ n)
    {earlier : Run σ} (reached : advance env config m (start env config state world) = .ok earlier)
    (since : D earlier) : D run := by
  induction n generalizing run with
  | zero =>
      cases Nat.le_zero.mp within
      rw [come] at reached
      cases reached
      exact since
  | succ n ih =>
      cases Nat.lt_or_eq_of_le within with
      | inl inside =>
          obtain ⟨last, before, -, stepped⟩ := last_step come
          exact lasts last run stepped (ih before (Nat.le_of_lt_succ inside))
      | inr same =>
          subst same
          rw [come] at reached
          cases reached
          exact since

/-- What a run that has not faulted is seen to be, beside what holds of it. -/
theorem seen_with {α : Type} {P : Run σ → Prop} {x : Except Fault (Run σ)} {fault : Fault}
    (held : (∃ run, x = .ok run ∧ P run) ∨ x = .error fault) {see : Run σ → α} {a : α}
    (seen : x.toOption.map see = some a) : ∃ run, x = .ok run ∧ P run ∧ see run = a := by
  cases held with
  | inl held =>
      obtain ⟨run, rfl, holds⟩ := held
      exact ⟨run, rfl, holds, Option.some.inj seen⟩
  | inr faulted =>
      rw [faulted] at seen
      cases seen

end BulkStream.Session.Run
