import BulkStream.Proofs.Hosting

/-!
Whose a slot is, over a whole run. At every point the slots that the pool counts as in flight are
those whose requests the transport holds, and those handed back and not handled yet, each once. So
no slot is submitted while a request for it is out, no completion is found stray, and what the
transport still holds when a run ends is what the session gave up on.
-/
namespace BulkStream.Session

variable {σ : Type} {env : Surroundings σ} {config : Config} {state : State} {world : σ}

/-- Completions that were handed back and are not handled yet. -/
def Phase.unhandled : Phase → List Completion
  | .handling completions | .collecting _ _ _ _ completions => completions
  | .priming _ | .cycling | .closing | .draining _ _ | .settling _ => []

theorem unhandled_afterWait (answer : WaitResult) (interrupted : Bool) (before collected : Nat) :
    (Run.afterWait answer interrupted before collected).unhandled = [] := by
  rcases Run.afterWait_cases answer interrupted before collected with ⟨again, next⟩ | next <;>
    rw [next] <;> rfl

namespace Custody

variable {custody : Custody env} {s t : Stream σ} {c : Completion} {completions : List Completion}

def AgreesWith (custody : Custody env) (s : Stream σ) (unhandled : List Completion) : Prop :=
  custody.Agrees s.fatal s.pool.slotsInFlight s.link unhandled

theorem AgreesWith.beside (h : custody.AgreesWith s (c :: completions))
    (beside : Stream.Beside env (s.succeeded c.slot) t) :
    custody.AgreesWith t completions ∧ c.slot ∉ t.pool.slotsInFlight := by
  have taken : (s.pool.put c.slot .lent).slotsInFlight = s.pool.slotsInFlight.erase c.slot :=
    Pool.slotsInFlight_put_idle s.pool c.slot rfl
  cases beside with
  | mk link tracker aside sound =>
      constructor
      · change custody.Agrees s.fatal (s.pool.put c.slot .lent).slotsInFlight link completions
        rw [taken]
        exact h.handle.2.aside aside
      · change c.slot ∉ (s.pool.put c.slot .lent).slotsInFlight
        rw [taken]
        exact Finset.notMem_erase _ _

theorem AgreesWith.freed {slot : Nat} (h : custody.AgreesWith s completions)
    (absent : slot ∉ s.pool.slotsInFlight) : custody.AgreesWith (s.freed env slot) completions := by
  change custody.Agrees s.fatal (s.pool.put slot .released).slotsInFlight
    (s.link.log env (.slotReleased slot (s.pool.put slot .released).live)) completions
  rw [Pool.slotsInFlight_put_absent absent rfl]
  exact h.aside (Link.Aside.refl.log _ rfl)

theorem AgreesWith.launched {slot : Nat} {buffer : Bytes} (h : custody.AgreesWith s completions)
    (absent : slot ∉ s.pool.slotsInFlight) (inside : slot < s.pool.capacity)
    (accepted : (s.link.submit env (s.pool.request slot buffer)).1 = .ok ()) :
    custody.AgreesWith (s.launched env slot buffer) completions := by
  change custody.Agrees s.fatal (s.pool.put slot .inFlight).slotsInFlight
    (s.link.submit env (s.pool.request slot buffer)).2 completions
  rw [Pool.slotsInFlight_put_inFlight s.pool inside]
  exact h.submit_ok absent accepted

theorem AgreesWith.refused {slot : Nat} {buffer : Bytes} {source : TransportError}
    (h : custody.AgreesWith s completions) (absent : slot ∉ s.pool.slotsInFlight)
    (refused : (s.link.submit env (s.pool.request slot buffer)).1 = .error source) :
    custody.Agrees s.fatal (s.pool.put slot .released).slotsInFlight
      (s.link.submit env (s.pool.request slot buffer)).2 completions := by
  rw [Pool.slotsInFlight_put_absent absent rfl]
  exact h.submit_error absent refused

theorem AgreesWith.handled (h : custody.AgreesWith s (c :: completions))
    (handled : Stream.Handled env c s t) : custody.AgreesWith t completions := by
  cases handled with
  | stray stray => exact absurd (Pool.mem_slotsInFlight.mp h.handle.1) stray
  | failed own status =>
      have released : (s.pool.put c.slot .released).slotsInFlight =
          s.pool.slotsInFlight.erase c.slot := Pool.slotsInFlight_put_idle s.pool c.slot rfl
      have agrees := h.handle.2
      rw [← released] at agrees
      exact (agrees.aside (Link.Aside.refl.log _ rfl)).fail fun index => by
        simp [Pool.notInFlight]
  | dropped own status quitting =>
      obtain ⟨agrees, absent⟩ := h.beside (.refl _)
      exact agrees.freed absent
  | stopped own status running buffer t consumed beside =>
      obtain ⟨agrees, absent⟩ := h.beside beside
      exact agrees.freed absent
  | resubmitted own status running buffer t consumed beside accepted =>
      obtain ⟨agrees, absent⟩ := h.beside beside
      obtain ⟨inside, -⟩ := Array.getElem?_eq_some_iff.mp own
      have inside' : c.slot < t.pool.capacity := by
        rw [beside.pool_eq]
        exact (Pool.put_capacity s.pool c.slot .lent).symm ▸ inside
      exact agrees.launched absent inside' accepted
  | refused own status running buffer t consumed beside source answer =>
      obtain ⟨agrees, absent⟩ := h.beside beside
      exact ((agrees.refused absent answer).aside (Link.Aside.refl.log _ rfl)).fail fun index => by
        simp [Pool.notInFlight]

/-- What holds of a run that has ended: the transport holds nothing if no slot was ever submitted,
and else what the session gave up on in its last step. -/
structure Left (custody : Custody env) (config : Config) (state : State) (world : σ)
    (result : Except StreamError Summary) (l : Link σ) : Prop where
  oneAtATime : OneAtATime l.calls
  explained : ∀ error, result = .error error → Explained (some error) l.calls
  abandoned : custody.held l.world = 0 ∧ l.drains = [] ∨
    ∃ collected s, Run.Reached env config state world (.active (.settling collected) s) ∧
      Run.settle env collected s = .ok (.ended result l) ∧
      custody.slots l = s.pool.slotsInFlight.val ∧
      l.drains = [(collected, (custody.held l.world).card)]

def Holds (custody : Custody env) (config : Config) (state : State) (world : σ) : Run σ → Prop
  | .active phase s => custody.AgreesWith s phase.unhandled
  | .ended result l => custody.Left config state world result l

theorem AgreesWith.settled {collected : Nat} (h : custody.AgreesWith s [])
    (reached : Run.Reached env config state world (.active (.settling collected) s))
    (taken : Run.settle env collected s = .ok (Run.finish env (Run.abandoned env collected s))) :
    custody.Holds config state world (Run.finish env (Run.abandoned env collected s)) := by
  obtain ⟨result, l, finished, aside, blame⟩ := Run.finish_ended env (Run.abandoned env collected s)
  have held : custody.slots s.link = s.pool.slotsInFlight.val := by
    rw [h.slots_eq]
    exact (Multiset.add_zero _).symm
  have same : custody.slots l = s.pool.slotsInFlight.val := by
    rw [custody.slots_aside aside, ← held]
    exact congrArg (Multiset.map Request.slot) (custody.log _ _)
  have count : (custody.held l.world).card = s.pool.slotsInFlight.card := by
    rw [Finset.card, ← same, slots, Multiset.card_map]
  have calls : l.calls = s.link.calls := by
    rw [aside.calls_eq]
    exact Link.calls_log env s.link _
  have drains : l.drains = [(collected, s.pool.slotsInFlight.card)] := by
    rw [aside.drains_eq]
    refine (Link.drains_after s.link _ _).trans ?_
    rw [h.undrained]
    rfl
  rw [finished] at taken ⊢
  refine ⟨?_, ?_, .inr ⟨collected, s, reached, taken, same, ?_⟩⟩
  · rw [calls]
    exact h.oneAtATime
  · intro error failed
    rw [calls, ← blame error failed]
    exact h.explained
  · rw [count]
    exact drains

theorem Holds.stepped {run next : Run σ} (h : custody.Holds config state world run)
    (reached : Run.Reached env config state world run) (sound : run.Sound)
    (taken : Run.step env config run = .ok next) (stepped : Run.Stepped env config run next) :
    custody.Holds config state world next := by
  cases stepped with
  | ended result l => exact h
  -- A slot is primed once: it was never submitted before, so it is not in flight.
  | queued index s buffer l inside prepared accepted =>
      obtain ⟨offered, held⟩ := sound.2 index (Nat.le_refl index) inside
      have absent : index ∉ s.pool.slotsInFlight := Pool.notMem_slotsInFlight held rfl
      have agrees : custody.AgreesWith { s with link := l } [] :=
        Agrees.aside h prepared.aside
      exact agrees.launched absent inside accepted
  | refused index s buffer l inside prepared source answer =>
      obtain ⟨offered, held⟩ := sound.2 index (Nat.le_refl index) inside
      have absent : index ∉ s.pool.slotsInFlight := Pool.notMem_slotsInFlight held rfl
      have agrees : custody.AgreesWith { s with link := l } [] :=
        Agrees.aside h prepared.aside
      exact (agrees.refused absent answer).fail fun index => by simp [Pool.notInFlight]
  | spared index s offered buffer l inside write held answer =>
      have absent : index ∉ s.pool.slotsInFlight := Pool.notMem_slotsInFlight held rfl
      change custody.Agrees s.fatal (s.pool.put index .released).slotsInFlight l []
      rw [Pool.slotsInFlight_put_absent absent rfl]
      exact Agrees.aside h (.of_fill answer)
  | denied index s all source answer =>
      have announced := Agrees.aside h (Link.Aside.refl.log
        (.primed config.direction s.pool.inFlight s.pool.bufferLength) rfl)
      exact (announced.setMode .syncFifo).fail fun index => by simp [Pool.notInFlight]
  | entered index s all answer =>
      have announced := Agrees.aside h (Link.Aside.refl.log
        (.primed config.direction s.pool.inFlight s.pool.bufferLength) rfl)
      exact (announced.setMode .syncFifo).aside (Link.Aside.refl.transition .streaming).now
  | gathered s failure completions l awaited => exact Agrees.await h awaited
  | handled c completions s t handled => exact AgreesWith.handled h handled
  | concluded s again t concluded =>
      cases concluded with
      | finished quitting => exact h
      | stalled running idle =>
          exact (Agrees.aside h (Link.Aside.refl.log _ rfl)).fail fun index => by
            simp [Pool.notInFlight]
      | again running busy t sampled beside =>
          change custody.Agrees t.fatal t.pool.slotsInFlight t.link []
          rw [beside.fatal, beside.pool]
          exact Agrees.aside h beside.aside
  | emptied s none =>
      change custody.Agrees s.fatal (s.pool.mapSlots Pool.ifInFlight).slotsInFlight _ []
      rw [Pool.slotsInFlight_releaseIdle]
      exact Agrees.aside h (Link.Aside.refl.transition .draining)
  | cancelled s some =>
      change custody.Agrees s.fatal (s.pool.mapSlots Pool.ifInFlight).slotsInFlight _ []
      rw [Pool.slotsInFlight_releaseIdle]
      exact (Agrees.aside h (Link.Aside.refl.transition .draining)).cancelAll
  | cleared collected interrupted s none => exact h
  | waited collected interrupted s some answer completions answered =>
      have waited := Agrees.wait h config.waitMilliseconds
      rw [answered] at waited
      exact waited
  | collected answer interrupted before collected c completions s own =>
      change custody.Agrees s.fatal (s.pool.put c.slot .released).slotsInFlight s.link completions
      rw [Pool.slotsInFlight_put_idle s.pool c.slot rfl]
      exact (Agrees.handle h).2
  | ignored answer interrupted before collected c completions s stray =>
      exact absurd (Pool.mem_slotsInFlight.mp (Agrees.handle h).1) stray
  | emptyHanded answer interrupted before collected s =>
      change custody.AgreesWith s (Run.afterWait answer interrupted before collected).unhandled
      rw [unhandled_afterWait]
      exact h
  -- Giving up on slots is the one change that the transport has no part in.
  | settled collected s => exact AgreesWith.settled h reached taken

theorem agrees_opened (empty : custody.held world = 0) :
    custody.Agrees none ∅ (Link.opened state world) [] := by
  have nothing : custody.slots (Link.opened state world) = 0 :=
    congrArg (Multiset.map Request.slot) empty
  refine ⟨?_, ?_, ?_, ?_, rfl⟩
  · rw [nothing]
    rfl
  · rw [nothing]
    rfl
  · intro before request result after split
    cases before <;> contradiction
  · intro index impossible
    contradiction

theorem Left.early {error : StreamError} {l : Link σ} (h : custody.Agrees none ∅ l [])
    (other : ∀ index, error ≠ Pool.notInFlight index) :
    custody.Holds config state world (Run.failEarly env error l) := by
  have agrees := h.aside ((Link.Aside.refl.log (.error error.message) rfl).transition .terminated)
  have nothing : custody.held _ = 0 :=
    Multiset.map_eq_zero.mp ((Multiset.add_zero _).symm.trans agrees.slots_eq.symm)
  refine ⟨agrees.oneAtATime, ?_, .inl ⟨nothing, agrees.undrained⟩⟩
  intro _ same
  cases same
  exact .unrelated _ other

theorem Holds.started {run : Run σ} (empty : custody.held world = 0)
    (h : Run.Started env config state world run) : custody.Holds config state world run := by
  have configuring : custody.Agrees none ∅
      (((Link.opened state world).now env).2.transition env .configuring) [] :=
    (agrees_opened empty).aside (Link.Aside.refl.now.transition .configuring)
  have reset : custody.Agrees none ∅ (Run.resetting env state world).2 [] :=
    configuring.setMode .reset
  have purged : custody.Agrees none ∅ (Run.purging env state world).2 [] := reset.purge
  cases h with
  | unset source _ => exact Left.early reset fun index => by simp [Pool.notInFlight]
  | unpurged source _ _ => exact Left.early purged fun index => by simp [Pool.notInFlight]
  | narrow size _ _ reported narrow =>
      exact Left.early purged fun index => by simp [Pool.notInFlight]
  | unallocated size _ _ reported wide error refused =>
      obtain ⟨bufferLength, rfl⟩ := Pool.allocate_refused refused
      exact Left.early (purged.aside (Link.Aside.refl.transition .priming)) fun index => by
        simp [Pool.notInFlight]
  | opened size _ _ reported wide pool allocated =>
      obtain ⟨bufferLength, rfl⟩ := Pool.allocate_fresh allocated
      change custody.Agrees none
        (Pool.fresh config.direction bufferLength config.transferCount).slotsInFlight
        ((Run.purging env state world).2.transition env .priming) []
      rw [Pool.fresh_idle]
      exact purged.aside (Link.Aside.refl.transition .priming)

/-- What holds at every point that a run comes to, if its transport holds nothing at first. -/
theorem holds_reached {run : Run σ} (empty : custody.held world = 0)
    (reached : Run.Reached env config state world run) : custody.Holds config state world run := by
  have kept : ∀ run next : Run σ, Run.Reached env config state world run → run.Sound →
      custody.Holds config state world run → Run.step env config run = .ok next →
      Run.Stepped env config run next → custody.Holds config state world next := by
    intro run next reached sound holds taken stepped
    exact holds.stepped reached sound taken stepped
  obtain ⟨n, come⟩ := reached
  rcases Run.run_keeps (fun _ => Holds.started empty) kept n with ⟨other, same, -, holds⟩ | fault
  · simp only [come, Except.ok.injEq] at same
    exact same ▸ holds
  · simp [come] at fault

/-- At a point of a run: each slot in flight is held by the transport or handed back and not handled
yet, and not twice; what is handed back is taken in; and no slot was submitted while it was out. -/
def SlotsAgree (custody : Custody env) (config : Config) (state : State) (world : σ) : Run σ → Prop
  | .active phase s =>
      s.pool.slotsInFlight.val =
          custody.slots s.link + (phase.unhandled.map Completion.slot : Multiset Nat) ∧
        (∀ c ∈ phase.unhandled, ∃ pool, s.pool.complete c.slot = .ok (.ok (), pool)) ∧
        OneAtATime s.link.calls ∧ Explained s.fatal s.link.calls
  | .ended result l => custody.Left config state world result l

theorem AgreesWith.complete {phase : Phase} (h : custody.AgreesWith s phase.unhandled)
    (sound : s.pool.Sound) :
    ∀ c ∈ phase.unhandled, ∃ pool, s.pool.complete c.slot = .ok (.ok (), pool) := by
  intro c member
  have own : c.slot ∈ s.pool.slotsInFlight.val := by
    rw [h.slots_eq]
    exact Multiset.mem_add.mpr (.inr (Multiset.mem_coe.mpr (List.mem_map_of_mem member)))
  exact ⟨_, sound.complete_eq (Pool.mem_slotsInFlight.mp own)⟩

/-- Among any surroundings whose transport holds what it accepts, and holds nothing at first, the
slots of a session agree with the transport after any number of steps. Only a byte count past 64
bits can keep a session from coming that far. -/
theorem slots_agree_with_transport (custody : Custody env) (config : Config) (state : State)
    (world : σ) (empty : custody.held world = 0) (n : Nat) :
    (∃ run, Run.advance env config n (Run.start env config state world) = .ok run ∧
        custody.SlotsAgree config state world run) ∨
      Run.advance env config n (Run.start env config state world) = .error .countOverflow := by
  have kept : ∀ run next : Run σ, Run.Reached env config state world run → run.Sound →
      custody.Holds config state world run → Run.step env config run = .ok next →
      Run.Stepped env config run next → custody.Holds config state world next := by
    intro run next reached sound holds taken stepped
    exact holds.stepped reached sound taken stepped
  refine (Run.run_keeps (fun _ => Holds.started empty) kept n).imp_left ?_
  rintro ⟨run, come, sound, holds⟩
  refine ⟨run, come, ?_⟩
  cases run with
  | active phase s =>
      have agrees : custody.AgreesWith s phase.unhandled := holds
      exact ⟨agrees.slots_eq, agrees.complete sound.stream.pool, agrees.oneAtATime,
        agrees.explained⟩
  | ended result l => exact holds

section

open Peripheral Rehearsal

/-- A peripheral that completes two transfers in a wait and fails after four. -/
def failing : Assembly Fifo Timeline Audience where
  transport :=
    let config : Peripheral.Config := { packetSize := 8, faultAfter := some 4, batch := some 2 }
    { config, source := .start config.pattern config.dropEvery }
  outside := {}
  consumer := {}

/-- Its third wait hands back two slots of three; the last one comes back cancelled in the drain. -/
theorem slots_agree_with_peripheral : ∃ waited ended,
    Run.advance rehearsed threeSlots 13 (Run.start rehearsed threeSlots .idle failing) =
        .ok waited ∧
      (rehearsedHosting.custody Fifo.holding).SlotsAgree threeSlots .idle failing waited ∧
      outstanding waited.link.calls = {0} ∧
      Run.advance rehearsed threeSlots 30 (Run.start rehearsed threeSlots .idle failing) =
        .ok ended ∧
      (rehearsedHosting.custody Fifo.holding).SlotsAgree threeSlots .idle failing ended ∧
      outstanding ended.link.calls = 0 ∧ ended.link.state = .terminated := by
  have handing : (Run.advance rehearsed threeSlots 13
      (Run.start rehearsed threeSlots .idle failing)).toOption.map
        (fun run => outstanding run.link.calls) = some {0} := by decide +kernel
  have drained : (Run.advance rehearsed threeSlots 30
      (Run.start rehearsed threeSlots .idle failing)).toOption.map
        (fun run => (outstanding run.link.calls, run.link.state)) = some (0, .terminated) := by
    decide +kernel
  obtain ⟨waited, come, agree, held⟩ := Run.seen_with (slots_agree_with_transport
    (rehearsedHosting.custody Fifo.holding) threeSlots .idle failing rfl 13) handing
  obtain ⟨ended, last, agreed, seen⟩ := Run.seen_with (slots_agree_with_transport
    (rehearsedHosting.custody Fifo.holding) threeSlots .idle failing rfl 30) drained
  obtain ⟨nothing, terminated⟩ := Prod.mk.inj seen
  exact ⟨waited, ended, come, agree, held, last, agreed, nothing, terminated⟩

end

end Custody

end BulkStream.Session
