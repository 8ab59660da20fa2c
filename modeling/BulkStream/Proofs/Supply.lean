import BulkStream.Proofs.Delivery
import BulkStream.Proofs.WriteSession

/-!
What a writing session submits. Each request carries a buffer as the consumer left it when it was asked
to fill it for that slot, and each buffer that the consumer fills and lets go is submitted at once. A
slot whose buffer it does not fill is released.
-/
namespace BulkStream

namespace Pool

/-- A buffer that was never submitted is as it was allocated. -/
def Blank (p : Pool) : Prop :=
  ∀ (i : Nat) (buffer : Bytes), p.slots[i]? = some (.held buffer) →
    buffer = List.replicate p.bufferLength 0

theorem Blank.put {p : Pool} (h : p.Blank) (index : Nat) {settled : Slot}
    (gone : settled = .inFlight ∨ settled = .released) : (p.put index settled).Blank := by
  intro i buffer found
  cases found_put found with
  | inl same =>
      subst same
      cases gone <;> contradiction
  | inr before => exact h i buffer before.2

theorem Vacating.blank {p : Pool} (h : p.Vacating) : p.Blank := by
  intro i buffer found
  cases h i _ found <;> contradiction

theorem fresh_blank (direction : Direction) (bufferLength transferCount : Nat) :
    (fresh direction bufferLength transferCount).Blank := by
  intro i buffer found
  obtain ⟨inside, -⟩ := Array.getElem?_eq_some_iff.mp found
  rw [← capacity, fresh_capacity] at inside
  rw [fresh_held bufferLength inside] at found
  cases found
  rfl

end Pool

namespace Session

variable {σ : Type} {env : Surroundings σ} {config : Config} {state : State} {world : σ}

/-- A request that is submitted, whether or not it is accepted. -/
def Action.submitted? : Action → Option Request
  | .submit request _ => some request
  | .setMode _ _ | .purge _ | .wait _ _ _ | .cancelAll | .payload _ _ _ | .fill _ _ _ _
  | .progress _ _ | .log _ => none

/-- The slot and the buffer, as the consumer left it, of a fill that it answered by going on. -/
def Action.supplied? : Action → Option (Nat × Bytes)
  | .fill slot _ left .proceed => some (slot, left)
  | _ => none

namespace Link

def submissions (l : Link σ) : List Request := l.transcript.filterMap Action.submitted?

def supplies (l : Link σ) : List (Nat × Bytes) := l.transcript.filterMap Action.supplied?

theorem submissions_services (l : Link σ) :
    l.submissions = l.services.filterMap Action.submitted? := by
  rw [submissions, services, List.filterMap_filter]
  refine List.filterMap_congr fun a _ => ?_
  cases a <;> rfl

theorem supplies_services (l : Link σ) : l.supplies = l.services.filterMap Action.supplied? := by
  rw [supplies, services, List.filterMap_filter]
  refine List.filterMap_congr fun a _ => ?_
  cases a <;> rfl

/-- A fill is withheld while a stop is requested; otherwise the consumer leaves a buffer of the same
length. -/
theorem fill_services {l m : Link σ} {slot : Nat} {offered left : Bytes} {flow : Flow}
    (answer : l.fill env slot offered = ((flow, left), m)) :
    l.stopRequested env = true ∧ flow = .stop ∧ m = l ∨
      l.stopRequested env = false ∧ left.length = offered.length ∧
        m.services = l.services ++ [.fill slot offered left flow] := by
  cases flag : l.stopRequested env with
  | true =>
      rw [fill, if_pos flag] at answer
      cases answer
      exact .inl ⟨rfl, rfl, rfl⟩
  | false =>
      rw [fill_down flag] at answer
      cases answer
      exact .inr ⟨rfl, length_fit _ _, l.services_after _ _⟩

/-- The submissions of a link carry what its consumer supplied, whole and in order. -/
structure Matched (length : Nat) (l : Link σ) : Prop where
  submissions : l.submissions = l.supplies.map fun supply => ⟨supply.1, .write, supply.2, length⟩
  whole : ∀ supply ∈ l.supplies, supply.2.length = length

theorem Matched.of_services {length : Nat} {l m : Link σ} (h : l.Matched length)
    (same : m.services = l.services) : m.Matched length := by
  refine ⟨?_, ?_⟩
  · rw [submissions_services, supplies_services, same, ← submissions_services, ← supplies_services]
    exact h.submissions
  · rw [supplies_services, same, ← supplies_services]
    exact h.whole

end Link

namespace Stream

variable {c : Completion} {s t : Stream σ}

/-- What comes of a buffer that is to be filled for a slot, in a session with buffers of this length. -/
inductive Refilled (env : Surroundings σ) (length slot : Nat) (offered : Bytes) (s t : Stream σ) : Prop
  | submitted (left : Bytes) (down : s.link.stopRequested env = false)
      (answer : (s.link.fill env slot offered).1 = (.proceed, left)) (whole : left.length = length)
      (result : Except TransportError Unit)
      (services : t.link.services = s.link.services ++
        [.fill slot offered left .proceed, .submit ⟨slot, .write, left, length⟩ result])
  | stopped (left : Bytes) (down : s.link.stopRequested env = false)
      (answer : (s.link.fill env slot offered).1 = (.stop, left))
      (services : t.link.services = s.link.services ++ [.fill slot offered left .stop])
      (gone : t.pool.slots[slot]? = some .released)
  | withheld (raised : s.link.stopRequested env = true)
      (services : t.link.services = s.link.services)
      (gone : t.pool.slots[slot]? = some .released)

theorem refilled_of_proceed {length slot : Nat} {offered left : Bytes} {m : Link σ} {pool : Pool}
    (answer : s.link.fill env slot offered = ((.proceed, left), m)) (full : offered.length = length)
    (write : pool.direction = .write) (whole : pool.bufferLength = length)
    {result : Except TransportError Unit}
    (services : t.link.services = m.services ++ [.submit (pool.request slot left) result]) :
    Refilled env length slot offered s t := by
  obtain ⟨-, impossible, -⟩ | ⟨down, same, filled⟩ := Link.fill_services answer
  · cases impossible
  · have request : pool.request slot left = ⟨slot, .write, left, length⟩ := by
      rw [Pool.request, write, whole, fit_of_length_eq (same.trans full)]
    refine .submitted left down (congrArg Prod.fst answer) (same.trans full) result ?_
    rw [services, filled, request, List.append_assoc]
    rfl

theorem refilled_of_stop {length slot : Nat} {offered left : Bytes} {m : Link σ}
    (answer : s.link.fill env slot offered = ((.stop, left), m))
    (services : t.link.services = m.services) (gone : t.pool.slots[slot]? = some .released) :
    Refilled env length slot offered s t := by
  obtain ⟨raised, -, rfl⟩ | ⟨down, -, filled⟩ := Link.fill_services answer
  · exact .withheld raised services gone
  · exact .stopped left down (congrArg Prod.fst answer) (services.trans filled) gone

/-- Nothing is submitted but what was just supplied. -/
theorem Refilled.matched {length slot : Nat} {offered : Bytes}
    (h : Refilled env length slot offered s t) (before : s.link.Matched length) :
    t.link.Matched length := by
  cases h with
  | submitted left down answer whole result services =>
      refine ⟨?_, ?_⟩
      · rw [Link.submissions_services, Link.supplies_services, services, List.filterMap_append,
          List.filterMap_append, ← Link.submissions_services, ← Link.supplies_services,
          before.submissions, List.map_append]
        rfl
      · rw [Link.supplies_services, services, List.filterMap_append, ← Link.supplies_services]
        exact List.forall_mem_append.mpr ⟨before.whole, List.forall_mem_singleton.mpr whole⟩
  | stopped left down answer services gone =>
      have unsubmitted : t.link.submissions = s.link.submissions := by
        rw [Link.submissions_services, services, List.filterMap_append, Link.submissions_services]
        exact List.append_nil _
      have unsupplied : t.link.supplies = s.link.supplies := by
        rw [Link.supplies_services, services, List.filterMap_append, Link.supplies_services]
        exact List.append_nil _
      exact ⟨by rw [unsubmitted, unsupplied, before.submissions], unsupplied ▸ before.whole⟩
  | withheld raised services gone => exact before.of_services services

/-- What handling a completion comes to for the supply of its slot. -/
inductive Resupplied (env : Surroundings σ) (length : Nat) (c : Completion) (s t : Stream σ) : Prop
  | due (due : s.Due c) (refilled : Refilled env length c.slot (fit length c.buffer) s t)
  | undue (other : ¬ s.Due c) (services : t.link.services = s.link.services)
      (gone : s.pool.slots[c.slot]? = some .inFlight → t.pool.slots[c.slot]? = some .released)

theorem Handled.resupplied {length : Nat} (h : Handled env c s t) (write : s.pool.direction = .write)
    (whole : s.pool.bufferLength = length) : Resupplied env length c s t := by
  have asked {flow : Flow} {buffer : Bytes} {u : Stream σ}
      (consumed : (s.succeeded c.slot).consumed env c = (flow, buffer, u)) :
      s.link.fill env c.slot (fit length c.buffer) = ((flow, buffer), u.link) := by
    obtain ⟨answer, -, -⟩ := consumed_write (s := s.succeeded c.slot) write consumed
    rw [← whole]
    exact answer
  have shaped {u : Stream σ} (beside : Beside env (s.succeeded c.slot) u) :
      u.pool.direction = .write ∧ u.pool.bufferLength = length := by
    rw [beside.pool_eq]
    exact ⟨write, whole⟩
  cases h with
  | stray stray => exact .undue (fun due => stray due.1) rfl fun own => absurd own stray
  | failed own status =>
      exact .undue (fun due => status due.2.1) (Link.services_log env s.link _)
        fun _ => Pool.put_found own .released
  | dropped own status quitting =>
      exact .undue (not_due_of_quitting quitting) (Link.services_log env s.link _)
        fun _ => freed_found own rfl
  | stopped own status running buffer t consumed beside =>
      exact .due (due_of_running own status running) (refilled_of_stop (asked consumed)
        (Link.services_log env t.link _) (freed_found own beside.pool_eq))
  | resubmitted own status running buffer t consumed beside accepted =>
      exact .due (due_of_running own status running) (refilled_of_proceed (asked consumed)
        (length_fit _ _) (shaped beside).1 (shaped beside).2 (Link.services_submit env t.link _))
  | refused own status running buffer t consumed beside source answer =>
      exact .due (due_of_running own status running) (refilled_of_proceed (asked consumed)
        (length_fit _ _) (shaped beside).1 (shaped beside).2
        ((Link.services_log env _ _).trans (Link.services_submit env t.link _)))

theorem Resupplied.matched {length : Nat} (h : Resupplied env length c s t)
    (before : s.link.Matched length) : t.link.Matched length := by
  cases h with
  | due due refilled => exact refilled.matched before
  | undue other services gone => exact before.of_services services

end Stream

namespace Run

variable {run next : Run σ} {n : Nat}

def Blank : Run σ → Prop
  | .active _ s => s.pool.Blank
  | .ended _ _ => True

theorem Blank.started (h : Started env config state world run) : run.Blank := by
  cases h with
  | opened size reset purged reported wide pool allocated =>
      obtain ⟨bufferLength, rfl⟩ := Pool.allocate_fresh allocated
      exact Pool.fresh_blank _ _ _
  | unset | unpurged | narrow | unallocated => trivial

theorem Blank.stepped (h : run.Blank) (stepped : Stepped env config run next) : next.Blank := by
  have equipped : run.Equipped fun _ pool => pool.Blank := h
  exact equipped.stepped (fun _ _ index _ gone blank => blank.put index gone)
    (fun _ pool _ => (Pool.vacating_releaseIdle pool).blank) stepped

theorem blank_at (come : advance env config n (start env config state world) = .ok run) :
    run.Blank :=
  holds_at (fun _ => .started) (fun _ _ _ _ stepped blank => blank.stepped stepped) come

/-- A slot that is primed for writing has a blank buffer filled. -/
theorem Prepared.fill_blank {index : Nat} {s : Stream σ} {buffer : Bytes} {l : Link σ}
    (h : Prepared env index s buffer l) (write : s.pool.direction = .write) (blank : s.pool.Blank) :
    s.link.fill env index (List.replicate s.pool.bufferLength 0) = ((.proceed, buffer), l) := by
  cases h with
  | blank _ read held => cases write.symm.trans read
  | filled offered _ _ write held answer =>
      cases blank index offered held
      exact answer

/-- A slot is primed by filling a blank buffer for it. -/
theorem primed_at {index : Nat} {s : Stream σ} (write : config.direction = .write)
    (inside : index < s.pool.capacity)
    (come : advance env config n (start env config state world) = .ok (.active (.priming index) s))
    (onward : advance env config (n + 1) (start env config state world) = .ok next) :
    ∃ phase t, next = .active phase t ∧
      Stream.Refilled env (reportedSize env state world * config.packetsPerTransfer) index
        (List.replicate (reportedSize env state world * config.packetsPerTransfer) 0) s t := by
  have directed : s.pool.direction = config.direction := directed_at come
  obtain ⟨-, whole⟩ := shaped_at come
  have blank : s.pool.Blank := blank_at come
  rw [← whole]
  cases step_between come onward with
  | queued _ _ buffer l _ prepared | refused _ _ buffer l _ prepared =>
      exact ⟨_, _, rfl, Stream.refilled_of_proceed (prepared.fill_blank (directed.trans write) blank)
        List.length_replicate (directed.trans write) rfl (Link.services_submit env l _)⟩
  | spared _ _ offered buffer l _ _ held answer =>
      cases blank index offered held
      exact ⟨_, _, rfl, Stream.refilled_of_stop answer rfl (released_put inside)⟩
  | denied _ _ all | entered _ _ all => exact absurd inside all

theorem resupplied_at {c : Completion} {completions : List Completion} {s : Stream σ}
    (write : config.direction = .write)
    (come : advance env config n (start env config state world) =
      .ok (.active (.handling (c :: completions)) s))
    (onward : advance env config (n + 1) (start env config state world) = .ok next) :
    ∃ t, next = .active (.handling completions) t ∧
      Stream.Resupplied env (reportedSize env state world * config.packetsPerTransfer) c s t := by
  have directed : s.pool.direction = config.direction := directed_at come
  obtain ⟨-, whole⟩ := shaped_at come
  cases step_between come onward with
  | handled _ _ _ t handled => exact ⟨t, rfl, handled.resupplied (directed.trans write) whole⟩

theorem Started.matched (h : Started env config state world run) (length : Nat) :
    run.link.Matched length := by
  refine ⟨?_, ?_⟩
  · rw [Link.submissions_services, Link.supplies_services, h.services_eq]
    rfl
  · rw [Link.supplies_services, h.services_eq]
    exact List.forall_mem_nil _

theorem matched_at (write : config.direction = .write)
    (come : advance env config n (start env config state world) = .ok run) :
    run.link.Matched (reportedSize env state world * config.packetsPerTransfer) := by
  induction n generalizing run with
  | zero =>
      cases come
      exact (start_started env config state world).matched _
  | succ n ih =>
      obtain ⟨last, before, -, stepped⟩ := last_step come
      have earlier := ih before
      by_cases attends : last.Attends
      · cases last with
        | ended result l => exact attends.elim
        | active phase s =>
            cases phase with
            | priming index =>
                obtain ⟨phase, t, rfl, refilled⟩ := primed_at write attends before come
                exact refilled.matched earlier
            | handling completions =>
                cases completions with
                | nil => exact attends.elim
                | cons c completions =>
                    obtain ⟨t, rfl, resupplied⟩ := resupplied_at write before come
                    exact resupplied.matched earlier
            | cycling | closing | draining | collecting | settling => exact attends.elim
      · exact earlier.of_services (stepped.services_eq attends)

/-- What a writing session, with buffers of this length, has submitted by the `n`-th point of its run. -/
structure Supplied (env : Surroundings σ) (config : Config) (state : State) (world : σ)
    (length n : Nat) (run : Run σ) : Prop where
  matched : run.link.Matched length
  primed (m : Nat) (before : m < n) (index : Nat) (s : Stream σ)
      (inside : index < s.pool.capacity)
      (come : advance env config m (start env config state world) =
        .ok (.active (.priming index) s)) :
    ∃ phase t, advance env config (m + 1) (start env config state world) = .ok (.active phase t) ∧
      Stream.Refilled env length index (List.replicate length 0) s t
  resupplied (m : Nat) (before : m < n) (c : Completion) (completions : List Completion)
      (s : Stream σ)
      (come : advance env config m (start env config state world) =
        .ok (.active (.handling (c :: completions)) s)) :
    ∃ t, advance env config (m + 1) (start env config state world) =
        .ok (.active (.handling completions) t) ∧
      Stream.Resupplied env length c s t
  /-- No buffer is filled or submitted otherwise, nor for a slot that is released. -/
  attended : Attended env config state world n run

theorem supplied_at (write : config.direction = .write)
    (come : advance env config n (start env config state world) = .ok run) :
    Supplied env config state world (reportedSize env state world * config.packetsPerTransfer) n
      run := by
  refine ⟨matched_at write come, ?_, ?_, attended_at come⟩
  · intro m before index s inside reached
    obtain ⟨next, onward⟩ := come_before come before
    obtain ⟨phase, t, rfl, refilled⟩ := primed_at write inside reached onward
    exact ⟨phase, t, onward, refilled⟩
  · intro m before c completions s reached
    obtain ⟨next, onward⟩ := come_before come before
    obtain ⟨t, rfl, resupplied⟩ := resupplied_at write reached onward
    exact ⟨t, onward, resupplied⟩

/-- Whatever its surroundings do, a writing session submits the buffers that its consumer fills and
lets go, each for its slot and in their order, and releases every other slot that completes. -/
theorem write_session_supplies (env : Surroundings σ) (config : Config)
    (write : config.direction = .write) (state : State) (world : σ) (n : Nat) :
    (∃ run, advance env config n (start env config state world) = .ok run ∧
        Supplied env config state world
          (reportedSize env state world * config.packetsPerTransfer) n run) ∨
      advance env config n (start env config state world) = .error .countOverflow := by
  cases comes env config state world n with
  | inl coming =>
      obtain ⟨run, come, -⟩ := coming
      exact .inl ⟨run, come, supplied_at write come⟩
  | inr fault => exact .inr fault

section

open Rehearsal

/-- A buffer is handed back too short and filled again, and the consumer answers the fill after that
with a stop. -/
def shortReturn : Assembly Script Timeline Audience where
  transport := { steps := [{ cues := [{ bufferLength := some 3 }] }, { cues := [{}] }] }
  outside := {}
  consumer := { onFill := { stop := [3] } }

def twoWrites : Config := { direction := .write, packetsPerTransfer := 2, transferCount := 2 }

theorem short_return_session_supplies : ∃ run,
    advance scripted twoWrites 20 (start scripted twoWrites .idle shortReturn) = .ok run ∧
      Supplied scripted twoWrites .idle shortReturn 16 20 run ∧
      run.link.submissions.length = 3 ∧ run.link.services.length = 7 := by
  have counts : (advance scripted twoWrites 20
      (start scripted twoWrites .idle shortReturn)).toOption.map
        (fun run => (run.link.submissions.length, run.link.services.length)) = some (3, 7) := by
    decide +kernel
  obtain ⟨run, come, supplied, seen⟩ :=
    seen_with (write_session_supplies scripted twoWrites rfl .idle shortReturn 20) counts
  obtain ⟨submissions, services⟩ := Prod.mk.inj seen
  exact ⟨run, come, supplied, submissions, services⟩

end

end Run

end Session

end BulkStream
