import BulkStream.Proofs.Hosting
import BulkStream.Proofs.SlotOwnership
import BulkStream.Proofs.Totals

/-!
Sessions without a live slot. Once every slot is released, and no error is met, a session comes to
its end with a summary. If it has waited before, it does not wait again. If its slots were all
released as they were to be submitted for the first time, it has still to begin a cycle, and waits
once for nothing.
-/
namespace BulkStream

theorem Pool.Sound.live_mapSlots {p : Pool} (h : p.Sound) (none : p.live = 0) {f : Slot → Slot}
    (stays : f .released = .released) : (p.mapSlots f).live = 0 := by
  rw [(mapSlots_sound f p).live_eq, Finset.card_eq_zero, Finset.eq_empty_iff_forall_notMem]
  intro i member
  obtain ⟨slot, found, live⟩ := mem_slotsWhere.mp member
  simp only [mapSlots_slots, Array.getElem?_map, Option.map_eq_some_iff] at found
  obtain ⟨before, there, rfl⟩ := found
  simp [h.all_released none i before there, stays, Slot.isReleased] at live

namespace Session

variable {σ : Type} {env : Surroundings σ} {config : Config} {state : State} {world : σ}

def Action.isWait : Action → Bool
  | .wait _ _ _ => true
  | .setMode _ _ | .purge _ | .submit _ _ | .cancelAll | .payload _ _ _ | .fill _ _ _ _
  | .progress _ _ | .log _ => false

namespace Link

/-- The waits that a session has made, in order. -/
def waits (l : Link σ) : List Action := l.calls.filter Action.isWait

theorem Aside.waits_eq {l m : Link σ} (h : l.Aside env m) : m.waits = l.waits := by
  simp only [waits, h.calls_eq]

variable (env : Surroundings σ) (l : Link σ)

@[simp] theorem waits_setMode (mode : Mode) : (l.setMode env mode).2.waits = l.waits := by
  simp [waits, calls_setMode, Action.isWait]

@[simp] theorem waits_submit (request : Request) : (l.submit env request).2.waits = l.waits := by
  simp [waits, calls_submit, Action.isWait]

@[simp] theorem waits_cancelAll : (l.cancelAll env).waits = l.waits := by
  simp [waits, calls_cancelAll, Action.isWait]

@[simp] theorem waits_purge : (l.purge env).2.waits = l.waits := by
  simp [waits, calls_purge, Action.isWait]

@[simp] theorem waits_wait (milliseconds : Nat) :
    (l.wait env milliseconds).2.waits = l.waits ++
      [.wait milliseconds (l.wait env milliseconds).1.1 (l.wait env milliseconds).1.2] := by
  simp [waits, calls_wait, Action.isWait]

@[simp] theorem waits_log (event : Event) : (l.log env event).waits = l.waits := by
  simp [waits]

@[simp] theorem waits_transition (state : State) : (l.transition env state).waits = l.waits := by
  simp [waits]

end Link

/-- Surroundings whose transport refuses no mode, and whose waits neither fail nor are
interrupted. -/
structure Unfailing (env : Surroundings σ) : Prop where
  setMode (mode : Mode) (world : σ) : (env.setMode mode world).1 = .ok ()
  wait (milliseconds : Nat) (world : σ) : (env.wait milliseconds world).1.1 = .ok

namespace Stream

/-- Every slot has been released, none of them by an error. -/
structure Vacant (s : Stream σ) : Prop where
  live : s.pool.live = 0
  unfailed : s.fatal = none

variable {milliseconds : Nat} {l m : Link σ} {failure : Option StreamError}
  {completions : List Completion}

theorem Awaited.waits_eq (unfailing : Unfailing env)
    (h : Awaited env milliseconds l ((failure, completions), m)) :
    failure = none ∧ m.waits = l.waits ++ [.wait milliseconds .ok completions] := by
  cases h with
  | once result completions answer whole =>
      have whole := unfailing.wait milliseconds l.world
      have ok : result = .ok := (congrArg Prod.fst answer).symm.trans whole
      subst ok
      exact ⟨rfl, by simp [answer]⟩
  | again completions result more cut answer =>
      have whole := unfailing.wait milliseconds l.world
      have impossible : WaitResult.interrupted = .ok := (congrArg Prod.fst cut).symm.trans whole
      cases impossible

theorem Handled.waits_eq {c : Completion} {s t : Stream σ} (h : Handled env c s t) :
    t.link.waits = s.link.waits := by
  refine h.keeps (P := fun l => l.waits = s.link.waits) ?_ ?_ rfl
  · exact fun l m aside same => aside.waits_eq.trans same
  · exact fun l request same => (Link.waits_submit env l request).trans same

end Stream

/-- Where no slot is in flight, nothing is left to be handled. -/
theorem Custody.AgreesWith.unhandled_eq_nil {custody : Custody env} {s : Stream σ}
    {unhandled : List Completion} (h : custody.AgreesWith s unhandled)
    (idle : s.pool.slotsInFlight = ∅) : unhandled = [] := by
  have count := congrArg Multiset.card h.slots_eq
  rw [idle, Multiset.card_add, Multiset.coe_card, List.length_map] at count
  have none : unhandled.length = 0 := Nat.eq_zero_of_add_eq_zero_left count.symm
  exact List.eq_nil_of_length_eq_zero none

namespace Run

/-- Whether a session has waited, by where it is: not before its first cycle, and always from then
on. A cycle that begins without a live slot is the first. -/
def Waited : Run σ → Prop
  | .active (.priming _) s => s.link.waits = []
  | .active .cycling s => s.pool.live = 0 → s.link.waits = []
  | .active (.handling _) s => s.link.waits ≠ []
  | .active _ s => s.fatal = none → s.link.waits ≠ []
  | .ended _ _ => True

theorem Waited.started {run : Run σ} (h : Started env config state world run) : run.Waited := by
  have reset : (resetting env state world).2.waits = [] := by
    rw [resetting, Link.waits_setMode, (quiet_configuring env state world).aside.waits_eq]
    rfl
  cases h with
  | unset | unpurged | narrow | unallocated => trivial
  | opened size _ _ reported wide pool allocated =>
      change ((purging env state world).2.transition env .priming).waits = []
      rw [Link.waits_transition, purging, Link.waits_purge, reset]

theorem Waited.stepped {run next : Run σ} (h : run.Waited) (stepped : Stepped env config run next) :
    next.Waited := by
  have failed (s : Stream σ) (error : StreamError) : (s.fail error).fatal ≠ none := by
    cases fatal : s.fatal <;> simp [Stream.fail, fatal]
  cases stepped with
  | ended => trivial
  | queued index s buffer l inside prepared accepted =>
      exact (Link.waits_submit env l _).trans (prepared.aside.waits_eq.trans h)
  | spared index s offered buffer l inside write held answer =>
      exact (Link.Aside.of_fill answer).waits_eq.trans h
  | refused | denied => exact fun none => absurd none (failed _ _)
  | entered index s all answer =>
      intro _
      change (opened env ((announced env config s).setMode env .syncFifo).2).2.waits = []
      rw [(quiet_opened _).aside.waits_eq, Link.waits_setMode,
        (quiet_announced config s).aside.waits_eq]
      exact h
  | gathered s failure completions l awaited =>
      change l.waits ≠ []
      cases awaited <;> simp
  | handled c completions s t handled =>
      change t.link.waits ≠ []
      rw [handled.waits_eq]
      exact h
  | concluded s again t concluded =>
      cases concluded with
      | finished => exact fun _ => h
      | stalled => exact fun none => absurd none (failed _ _)
      | again running busy t sampled beside =>
          intro vacant
          rw [beside.pool] at vacant
          simp [vacant] at running
  | emptied s none => exact fun unfailed => (quiet_idled s).aside.waits_eq.symm ▸ h unfailed
  | cancelled s some =>
      intro unfailed
      change ((idled env s).link.cancelAll env).waits ≠ []
      rw [Link.waits_cancelAll, (quiet_idled s).aside.waits_eq]
      exact h unfailed
  | cleared | collected | ignored => exact h
  | waited collected interrupted s some answer completions answered =>
      intro unfailed
      change (s.link.wait env config.waitMilliseconds).2.waits ≠ []
      simp
  | emptyHanded answer interrupted before collected s =>
      rcases afterWait_cases answer interrupted before collected with ⟨again, next⟩ | next <;>
        rw [next] <;> exact h
  | settled => exact finish_of_ended (fun _ _ => trivial) _

/-- The waits that a session without a live slot has still to make. -/
def ahead (milliseconds : Nat) : Phase → List Action
  | .priming _ | .cycling => [.wait milliseconds .ok []]
  | .handling _ | .closing | .draining _ _ | .collecting _ _ _ _ _ | .settling _ => []

/-- Steps that a session without a live slot is away from its last, at most. -/
def distance : Phase → Nat
  | .priming _ => 4
  | .cycling => 3
  | .handling _ | .collecting _ _ _ _ _ => 2
  | .closing | .draining _ _ => 1
  | .settling _ => 0

/-- A step of a session without a live slot: nearer to its end, or to it. -/
inductive Nearer (milliseconds : Nat) (phase : Phase) (s : Stream σ) : Run σ → Prop
  | on (later : Phase) (t : Stream σ) (vacant : t.Vacant) (near : distance later < distance phase)
      (waits : t.link.waits ++ ahead milliseconds later = s.link.waits ++ ahead milliseconds phase) :
      Nearer milliseconds phase s (.active later t)
  | last (summary : Summary) (l : Link σ)
      (waits : l.waits = s.link.waits ++ ahead milliseconds phase) :
      Nearer milliseconds phase s (.ended (.ok summary) l)

theorem Stepped.nearer {custody : Custody env} (unfailing : Unfailing env) {phase : Phase}
    {s : Stream σ} {next : Run σ} (stepped : Stepped env config (.active phase s) next)
    (vacant : s.Vacant) (sound : (active phase s).Sound)
    (agrees : custody.AgreesWith s phase.unhandled) :
    Nearer config.waitMilliseconds phase s next := by
  have released := sound.stream.pool.all_released vacant.live
  have idle : s.pool.slotsInFlight = ∅ := sound.stream.pool.slotsInFlight_empty vacant.live
  have nothing : phase.unhandled = [] := agrees.unhandled_eq_nil idle
  cases stepped with
  | queued index s buffer l inside prepared _ | refused index s buffer l inside prepared _ _ =>
      cases prepared with
      | blank _ _ held => cases released index _ held
      | filled offered _ _ _ held _ => cases released index _ held
  | spared index s offered buffer l inside write held answer => cases released index _ held
  | denied index s all source answer =>
      have accepted := unfailing.setMode .syncFifo (announced env config s).world
      cases answer.symm.trans accepted
  | entered index s all answer =>
      refine .on .cycling _ ⟨vacant.live, vacant.unfailed⟩ (Nat.lt_succ_self 3) ?_
      congr 1
      change (opened env ((announced env config s).setMode env .syncFifo).2).2.waits = _
      rw [(quiet_opened _).aside.waits_eq, Link.waits_setMode,
        (quiet_announced config s).aside.waits_eq]
  | gathered s failure completions l awaited =>
      obtain ⟨rfl, waited⟩ := awaited.waits_eq unfailing
      have after : custody.AgreesWith (s.roused env none l) completions := agrees.await awaited
      obtain rfl : completions = [] := after.unhandled_eq_nil idle
      refine .on (.handling []) _ ⟨vacant.live, ?_⟩ (by decide) ?_
      · simp [Stream.roused, vacant.unfailed]
      · change l.waits ++ [] = _
        rw [List.append_nil, waited]
        rfl
  | handled c completions s t handled => cases nothing
  | concluded s again t concluded =>
      cases concluded with
      | finished quitting => exact .on .closing _ vacant (by decide) rfl
      | stalled running idle => simp [vacant.live] at running
      | again running busy t sampled beside => simp [vacant.live] at running
  | emptied s none =>
      refine .on (.settling 0) _ ⟨?_, vacant.unfailed⟩ (by decide) ?_
      · exact sound.pool.live_mapSlots vacant.live rfl
      · exact congrArg (· ++ []) (quiet_idled s).aside.waits_eq
  | cancelled s some => exact absurd idle some
  | cleared collected interrupted s none =>
      exact .on (.settling collected) s vacant Nat.zero_lt_one rfl
  | waited collected interrupted s some answer completions answered => exact absurd idle some
  | collected | ignored => cases nothing
  | emptyHanded answer interrupted before collected s =>
      rcases afterWait_cases answer interrupted before collected with ⟨again, next⟩ | next
      · rw [next]
        exact .on _ s vacant (Nat.lt_succ_self 1) rfl
      · rw [next]
        exact .on _ s vacant Nat.zero_lt_two rfl
  | settled collected s =>
      obtain ⟨l, finished, quiet⟩ := finish_read_out env (abandoned env collected s)
      have unfailed : (abandoned env collected s).fatal = none := vacant.unfailed
      simp only [finished, unfailed, outcome, Except.map]
      refine .last _ l ?_
      rw [quiet.aside.waits_eq]
      exact (Link.waits_log env s.link _).trans (List.append_nil _).symm

theorem Overfull.unhandled_ne_nil {phase : Phase} {s : Stream σ}
    (h : (active phase s).Overfull env) : phase.unhandled ≠ [] := by
  cases phase with
  | handling completions =>
      cases completions with
      | nil => cases h
      | cons c completions => exact List.cons_ne_nil c completions
  | priming | cycling | closing | draining | collecting | settling => cases h

/-- From a point without a live slot a run goes on to its end. -/
theorem vacant_leads (custody : Custody env) (unfailing : Unfailing env)
    (empty : custody.held world = 0) {n : Nat} {phase : Phase} {s : Stream σ}
    (come : advance env config n (start env config state world) = .ok (.active phase s))
    (vacant : s.Vacant) :
    ∃ m summary l, advance env config (n + m) (start env config state world) =
        .ok (.ended (.ok summary) l) ∧
      l.waits = s.link.waits ++ ahead config.waitMilliseconds phase := by
  induction rank : distance phase using Nat.strongRecOn generalizing n phase s with
  | _ steps ih =>
      have agrees : custody.AgreesWith s phase.unhandled := Custody.holds_reached empty ⟨n, come⟩
      have sound : (active phase s).Sound := sound_at come
      have nothing : phase.unhandled = [] :=
        agrees.unhandled_eq_nil (sound.stream.pool.slotsInFlight_empty vacant.live)
      have countable : ¬ (active phase s).Overfull env := fun overfull =>
        overfull.unhandled_ne_nil nothing
      obtain ⟨next, taken, stepped⟩ := ((step_meets sound).widen countable).answer
      have onward : advance env config (n + 1) (start env config state world) = .ok next := by
        rw [advance_succ, come]
        exact taken
      have nearer := stepped.nearer unfailing vacant sound agrees
      cases nearer with
      | on later t vacant near waits =>
          obtain ⟨m, summary, l, ended, same⟩ := ih _ (rank ▸ near) onward vacant rfl
          refine ⟨m + 1, summary, l, ?_, same.trans waits⟩
          rw [← ended]
          congr 1
          omega
      | last summary l waits => exact ⟨1, summary, l, onward, waits⟩

/-- Among surroundings whose transport hands back each request at most once and whose calls do not
fail, a session that comes to a point without a live slot, and without an error, ends with a summary.
If it had waited by then it does not wait again; if it had not, because its slots were released before
the first cycle, it waits exactly once and gets nothing. -/
theorem vacant_session_ends (custody : Custody env) (unfailing : Unfailing env) (config : Config)
    (state : State) (world : σ) (empty : custody.held world = 0) {n : Nat} {phase : Phase}
    {s : Stream σ}
    (come : advance env config n (start env config state world) = .ok (.active phase s))
    (vacant : s.Vacant) :
    ∃ m summary l, advance env config (n + m) (start env config state world) =
        .ok (.ended (.ok summary) l) ∧
      (s.link.waits ≠ [] → l.waits = s.link.waits) ∧
      (s.link.waits = [] → l.waits = [.wait config.waitMilliseconds .ok []]) := by
  obtain ⟨m, summary, l, ended, waits⟩ := vacant_leads custody unfailing empty come vacant
  have waited : (active phase s).Waited :=
    holds_at (fun _ => Waited.started) (fun _ _ _ _ stepped held => held.stepped stepped) come
  refine ⟨m, summary, l, ended, ?_, ?_⟩
  · intro some
    cases phase with
    | priming => exact absurd waited some
    | cycling => exact absurd (waited vacant.live) some
    | handling | closing | draining | collecting | settling => exact waits.trans (List.append_nil _)
  · intro none
    rw [none] at waits
    cases phase with
    | priming | cycling => exact waits
    | handling => exact absurd none waited
    | closing | draining | collecting | settling => exact absurd none (waited vacant.unfailed)

section

open Peripheral Rehearsal

theorem rehearsed_unfailing : Unfailing rehearsed := ⟨fun _ _ => rfl, fun _ _ => rfl⟩

/-- A peripheral with packets of eight bytes, and a consumer that has nothing to write at the fill
of the given number: it answers it with a stop. -/
def sparing (fill : Nat) : Assembly Fifo Timeline Audience :=
  let config : Peripheral.Config := { packetSize := 8 }
  { transport := { config, source := .start config.pattern config.dropEvery }
    outside := {}
    consumer := { onFill := { stop := [fill] } } }

def oneSlot : Config := { direction := .write, packetsPerTransfer := 1, transferCount := 1 }

/-- Its only slot is released in the first cycle, after which the session does not wait. -/
theorem sparing_session_ends : ∃ s,
    advance rehearsed oneSlot 4 (start rehearsed oneSlot .idle (sparing 1)) =
        .ok (.active (.handling []) s) ∧ s.Vacant ∧
      ∃ m summary l, advance rehearsed oneSlot (4 + m)
          (start rehearsed oneSlot .idle (sparing 1)) = .ok (.ended (.ok summary) l) ∧
        l.waits = s.link.waits := by
  obtain ⟨s, come, vacant, waited⟩ : ∃ s,
      advance rehearsed oneSlot 4 (start rehearsed oneSlot .idle (sparing 1)) =
        .ok (.active (.handling []) s) ∧ s.Vacant ∧ s.link.waits ≠ [] := by
    refine ⟨_, rfl, ⟨rfl, rfl⟩, List.cons_ne_nil _ _⟩
  obtain ⟨m, summary, l, ended, same, -⟩ :=
    vacant_session_ends (rehearsedHosting.custody Fifo.holding) rehearsed_unfailing oneSlot .idle
      (sparing 1) rfl come vacant
  exact ⟨s, come, vacant, m, summary, l, ended, same waited⟩

/-- Its only slot is released before the first cycle, and still the session waits. -/
theorem unwilling_session_waits : ∃ s,
    advance rehearsed oneSlot 1 (start rehearsed oneSlot .idle (sparing 0)) =
        .ok (.active (.priming 1) s) ∧ s.Vacant ∧ s.link.waits.length = 0 ∧
      ∃ summary l, advance rehearsed oneSlot 10 (start rehearsed oneSlot .idle (sparing 0)) =
          .ok (.ended (.ok summary) l) ∧ l.waits.length = 1 := by
  refine ⟨_, rfl, ⟨rfl, rfl⟩, rfl, ?_⟩
  exact ended_of_summary? (fun ending => ending.2.waits.length) (by decide +kernel)

end

end Run

end Session

end BulkStream
