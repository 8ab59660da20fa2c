import BulkStream.Proofs.Hosting
import BulkStream.Proofs.SlotOwnership

/-!
Sessions one after the other with one simulated peripheral. Its drain asks for the end of every
transfer, and the peripheral hands all of them back in the next wait. So a session that ends has
given up on no slot and leaves nothing with the peripheral, and the next one finds it as the first
did, whatever consumers and stop flags have done and however the sessions ended.
-/
namespace BulkStream

namespace Peripheral.Fifo

/-- A peripheral of this configuration that was put into these modes so far. -/
structure Moded (f : Fifo) (config : Config) (modes : List Mode) : Prop where
  config_eq : f.config = config
  modes_eq : f.modes = modes

section

variable {f : Fifo} {config : Config} {modes : List Mode}

theorem wait_modes (f : Fifo) : f.wait.2.modes = f.modes := by
  obtain ⟨answers, waited, -⟩ := f.wait_waited
  obtain ⟨_, _, _, _, _, state⟩ := waited.state
  rw [state]

theorem Moded.wait (h : f.Moded config modes) : f.wait.2.Moded config modes :=
  ⟨f.wait_config.trans h.config_eq, f.wait_modes.trans h.modes_eq⟩

theorem Moded.submit (h : f.Moded config modes) (r : Request) :
    (submit r f).2.Moded config modes := by
  rcases submit_cases r f with ⟨same, -⟩ | taken
  · exact same.symm ▸ h
  · rw [taken]
    exact ⟨h.config_eq, h.modes_eq⟩

theorem Moded.setMode (h : f.Moded config modes) (mode : Mode) :
    (f.setMode mode).Moded config (modes ++ [mode]) :=
  ⟨h.config_eq, congrArg (· ++ [mode]) h.modes_eq⟩

theorem Moded.cancelAll (h : f.Moded config modes) : f.cancelAll.Moded config modes :=
  ⟨h.config_eq, h.modes_eq⟩

end

theorem submit_whole {r : Request} (whole : r.length ≤ r.buffer.length) (f : Fifo) :
    (submit r f).1 = .ok () := congrArg Prod.fst (submit_fits whole f)

/-- Once nothing is queued, one wait hands back all that is left. -/
theorem wait_empties {f : Fifo} (idle : f.queue.toList = []) : f.wait.2.held = [] := by
  obtain ⟨queue, -⟩ := wait_idle idle
  obtain ⟨answers, waited, -⟩ := f.wait_waited
  have cancelled : f.wait.2.cancelled = [] := by
    generalize f.wait.2 = g at waited
    cases waited with
    | retrieved some => rfl
    | served none streaming serves within =>
        obtain ⟨_, _, _, _, rfl⟩ := serves.state
        exact none
    | idle none resting => exact none
  rw [held, queue, cancelled]
  rfl

end Peripheral.Fifo

namespace Session

open Peripheral

variable {σ : Type} {env : Surroundings σ} {config : Config} {state : State} {world : σ}

namespace Hosting

variable {host : Hosting env Fifo.transport} {peripheral : Peripheral.Config} {modes : List Mode}
  {l m : Link σ}

theorem moded_aside (h : (host.on l).Moded peripheral modes) (aside : l.Aside env m) :
    (host.on m).Moded peripheral modes := by
  rw [host.on_aside aside]
  exact h

theorem moded_submit (h : (host.on l).Moded peripheral modes) (request : Request) :
    (host.on (l.submit env request).2).Moded peripheral modes := by
  rw [host.on_submit_fifo]
  exact h.submit request

end Hosting

namespace Run

/-- Modes that a session has put its peripheral into, by where it is. -/
def entered : Phase → List Mode
  | .priming _ => [.reset]
  | .cycling | .handling _ | .closing | .draining _ _ | .collecting _ _ _ _ _ | .settling _ =>
      [.reset, .syncFifo]

/-- What a drain has emptied already. -/
def Emptied (host : Hosting env Fifo.transport) (s : Stream σ) : Phase → Prop
  | .priming _ | .cycling | .handling _ | .closing => True
  | .draining _ _ => (host.on s.link).queue.toList = []
  | .collecting _ _ _ _ _ => (host.on s.link).held = []
  | .settling _ => s.pool.slotsInFlight = ∅

/-- What a session has made of a peripheral that had been put into the given modes before. -/
def Tidy (host : Hosting env Fifo.transport) (peripheral : Peripheral.Config) (modes : List Mode) :
    Run σ → Prop
  | .active phase s =>
      (host.on s.link).Moded peripheral (modes ++ entered phase) ∧ Emptied host s phase
  | .ended _ l =>
      (host.on l).Moded peripheral (modes ++ [.reset, .syncFifo]) ∧ (host.on l).held = [] ∧
        ∃ collected, l.drains = [(collected, 0)]

variable {host : Hosting env Fifo.transport} {peripheral : Peripheral.Config} {modes : List Mode}

theorem slotsInFlight_eq_empty {custody : Custody env} {s : Stream σ}
    (agrees : custody.AgreesWith s []) (held : custody.held s.link.world = 0) :
    s.pool.slotsInFlight = ∅ := by
  have none : s.pool.slotsInFlight.val = 0 := by
    rw [agrees.slots_eq, Custody.slots, held]
    rfl
  exact Finset.val_eq_zero.mp none

theorem Stepped.tidy {run next : Run σ} (stepped : Stepped env config run next)
    (agrees : (host.custody Fifo.holding).Holds config state world run)
    (h : run.Tidy host peripheral modes) : next.Tidy host peripheral modes := by
  cases stepped with
  | ended => exact h
  | queued index s buffer l inside prepared accepted =>
      exact ⟨Hosting.moded_submit (Hosting.moded_aside h.1 prepared.aside) _, trivial⟩
  | refused index s buffer l inside prepared source answer =>
      have whole : (s.pool.request index buffer).length ≤
          (s.pool.request index buffer).buffer.length := (length_fit _ _).ge
      have accepted := congrArg Prod.fst (host.on_submit (s.pool.request index buffer) l)
      cases answer.symm.trans (accepted.trans (Fifo.submit_whole whole _))
  | spared index s offered buffer l inside write held answer =>
      exact ⟨Hosting.moded_aside h.1 (.of_fill answer), trivial⟩
  | denied index s all source answer =>
      have accepted := congrArg Prod.fst (host.on_setMode .syncFifo (announced env config s))
      cases answer.symm.trans accepted
  | entered index s all answer =>
      have announced := Hosting.moded_aside h.1 (quiet_announced config s).aside
      have entered : (host.on ((Run.announced env config s).setMode env .syncFifo).2).Moded
          peripheral (modes ++ [.reset, .syncFifo]) := by
        rw [host.on_setMode_fifo, List.append_cons]
        exact announced.setMode .syncFifo
      exact ⟨Hosting.moded_aside entered (quiet_opened _).aside, trivial⟩
  | gathered s failure completions l awaited =>
      obtain ⟨-, -, after⟩ := host.awaited_fifo awaited
      have moded : (host.on l).Moded peripheral (modes ++ [.reset, .syncFifo]) := by
        rw [after]
        exact h.1.wait
      exact ⟨moded, trivial⟩
  | handled c completions s t handled =>
      refine ⟨handled.keeps (P := fun l => (host.on l).Moded peripheral _) ?_ ?_ h.1, trivial⟩
      · exact fun l m aside moded => Hosting.moded_aside moded aside
      · exact fun l request moded => Hosting.moded_submit moded request
  | concluded s again t concluded =>
      cases concluded with
      | finished quitting => exact h
      | stalled running idle =>
          exact ⟨Hosting.moded_aside h.1 (Link.Aside.refl.log _ rfl), trivial⟩
      | again running busy t sampled beside => exact ⟨Hosting.moded_aside h.1 beside.aside, trivial⟩
  | emptied s none =>
      exact ⟨Hosting.moded_aside h.1 (quiet_idled s).aside,
        (Pool.slotsInFlight_releaseIdle s.pool).trans none⟩
  | cancelled s some =>
      have idle := Hosting.moded_aside h.1 (quiet_idled s).aside
      have after : host.on ((idled env s).link.cancelAll env) = (host.on (idled env s).link).cancelAll :=
        host.on_cancelAll _
      refine ⟨?_, ?_⟩
      · change (host.on ((idled env s).link.cancelAll env)).Moded _ _
        rw [after]
        exact idle.cancelAll
      · change (host.on ((idled env s).link.cancelAll env)).queue.toList = []
        rw [after]
        rfl
  | cleared collected interrupted s none => exact ⟨h.1, none⟩
  | waited collected interrupted s some answer completions answered =>
      obtain ⟨-, -, after⟩ := host.waited_fifo answered
      refine ⟨?_, ?_⟩
      · change (host.on (s.link.wait env config.waitMilliseconds).2).Moded _ _
        rw [after]
        exact h.1.wait
      · change (host.on (s.link.wait env config.waitMilliseconds).2).held = []
        rw [after]
        exact Fifo.wait_empties h.2
  | collected | ignored => exact h
  -- Whether the drain waits once more or not, there is nothing left to wait for.
  | emptyHanded answer interrupted before collected s =>
      have held : (host.on s.link).held = [] := h.2
      have none : s.pool.slotsInFlight = ∅ :=
        slotsInFlight_eq_empty agrees (congrArg Multiset.ofList held)
      rcases afterWait_cases answer interrupted before collected with ⟨again, next⟩ | next
      · rw [next]
        exact ⟨h.1, (List.append_eq_nil_iff.mp held).2⟩
      · rw [next]
        exact ⟨h.1, none⟩
  | settled collected s =>
      obtain ⟨result, l, finished, aside, -⟩ := finish_ended env (abandoned env collected s)
      have none : s.pool.slotsInFlight = ∅ := h.2
      have same : host.on l = host.on s.link := by
        rw [host.on_aside aside]
        exact host.log _ _
      have held : (host.on s.link).held = [] := by
        have slots : (host.custody Fifo.holding).slots s.link = 0 := by
          have all := agrees.slots_eq
          rw [none] at all
          exact (all.trans (Multiset.add_zero _)).symm
        exact Multiset.coe_eq_zero _ |>.mp (Multiset.map_eq_zero.mp slots)
      rw [finished]
      refine ⟨same.symm ▸ h.1, same.symm ▸ held, collected, ?_⟩
      rw [aside.drains_eq]
      refine (Link.drains_after s.link _ _).trans ?_
      rw [agrees.undrained, none]
      rfl

theorem Started.tidy {run : Run σ} {pool : Pool}
    (moded : (host.device world).Moded peripheral modes)
    (wide : Packet.statusLength < peripheral.packetSize)
    (allocated : Pool.allocate config.direction peripheral.packetSize config.packetsPerTransfer
      config.transferCount = .ok pool) (h : Started env config state world run) :
    run.Tidy host peripheral modes := by
  have purged : (host.on (purging env state world).2).Moded peripheral (modes ++ [.reset]) := by
    rw [host.on_purging]
    exact ⟨moded.config_eq, congrArg (· ++ [Mode.reset]) moded.modes_eq⟩
  have size : env.packetSize (purging env state world).2.world = peripheral.packetSize :=
    (host.packetSize _).trans (congrArg Config.packetSize purged.config_eq)
  cases h with
  | unset source reset =>
      have accepted := congrArg Prod.fst (host.on_setMode .reset
        (((Link.opened state world).now env).2.transition env .configuring))
      cases reset.symm.trans accepted
  | unpurged source reset purged =>
      have accepted := congrArg Prod.fst (host.on_purge (resetting env state world).2)
      cases purged.symm.trans accepted
  | narrow _ _ _ reported narrow =>
      rw [← reported, size] at narrow
      exact absurd wide narrow
  | unallocated _ _ _ reported _ error refused =>
      rw [← reported, size, allocated] at refused
      cases refused
  | opened _ _ _ reported _ pool allocated =>
      exact ⟨Hosting.moded_aside purged (Link.Aside.refl.transition .priming), trivial⟩

theorem tidy_at (host : Hosting env Fifo.transport) {pool : Pool} (moded : (host.device world).Moded peripheral modes)
    (empty : (host.device world).held = []) (wide : Packet.statusLength < peripheral.packetSize)
    (allocated : Pool.allocate config.direction peripheral.packetSize config.packetsPerTransfer
      config.transferCount = .ok pool) {n : Nat} {run : Run σ}
    (come : advance env config n (start env config state world) = .ok run) :
    run.Tidy host peripheral modes := by
  have nothing : (host.custody Fifo.holding).held world = 0 := congrArg Multiset.ofList empty
  refine holds_at (P := fun _ => Tidy host peripheral modes) ?_ ?_ come
  · exact fun run started => started.tidy moded wide allocated
  · exact fun n run next come stepped tidy =>
      stepped.tidy (Custody.holds_reached nothing ⟨n, come⟩) tidy

/-- Points between sessions on one peripheral of a configuration: at first it is fresh, and then it
is as a session left it. What else there is, consumer and stop flag among it, may be anything at the
start of each. -/
inductive Between (host : Hosting env Fifo.transport) (peripheral : Peripheral.Config) :
    State → σ → Prop
  | fresh (state : State) (world : σ)
      (fresh : Fifo.ofConfig peripheral = .ok (host.device world)) :
      Between host peripheral state world
  | next (state : State) (world : σ) (before : Between host peripheral state world)
      (config : Config) (pool : Pool)
      (allocated : Pool.allocate config.direction peripheral.packetSize config.packetsPerTransfer
        config.transferCount = .ok pool)
      (n : Nat) (result : Except StreamError Summary) (l : Link σ)
      (ended : advance env config n (start env config state world) = .ok (.ended result l))
      (later : σ) (same : host.device later = host.device l.world) :
      Between host peripheral l.state later

theorem Between.left (h : Between host peripheral state world) :
    Packet.statusLength < peripheral.packetSize ∧ (host.device world).config = peripheral ∧
      (host.device world).held = [] := by
  induction h with
  | fresh state world fresh =>
      obtain ⟨wide, made⟩ := Fifo.ofConfig_ok fresh
      rw [made]
      exact ⟨wide, rfl, rfl⟩
  | next state world before config pool allocated n result l ended later same ih =>
      obtain ⟨wide, configured, empty⟩ := ih
      have tidy := tidy_at host ⟨configured, rfl⟩ empty wide allocated ended
      rw [same]
      exact ⟨wide, tidy.1.config_eq, tidy.2.1⟩

/-- However many sessions came before it: a session with the simulated peripheral that ends leaves
nothing with the peripheral, has given up on no slot, and has put it into two modes, one after the
other. -/
theorem ended_session_leaves_nothing (host : Hosting env Fifo.transport)
    (between : Between host peripheral state world) {pool : Pool}
    (allocated : Pool.allocate config.direction peripheral.packetSize config.packetsPerTransfer
      config.transferCount = .ok pool) {n : Nat} {result : Except StreamError Summary} {l : Link σ}
    (ended : advance env config n (start env config state world) = .ok (.ended result l)) :
    (host.on l).pending = 0 ∧
      (∃ collected, l.drains = [(collected, 0)]) ∧
      (host.on l).modes = (host.device world).modes ++ [.reset, .syncFifo] := by
  obtain ⟨wide, configured, empty⟩ := between.left
  obtain ⟨moded, held, drained⟩ :=
    tidy_at host ⟨configured, rfl⟩ empty wide allocated ended
  refine ⟨?_, drained, moded.modes_eq⟩
  rw [Fifo.pending_eq, held]
  rfl

section

open Rehearsal

/-- Transfers fail from the second one on, so that a drain has something to collect. -/
def failing : Peripheral.Config := { packetSize := 8, faultAfter := some 1, batch := some 2 }

def beforeFailing : Assembly Fifo Timeline Audience where
  transport := { config := failing, source := .start failing.pattern failing.dropEvery }
  outside := {}
  consumer := {}

def threeSlots : Config := { direction := .write, packetsPerTransfer := 1, transferCount := 3 }

/-- Two sessions, the second on what the first left. -/
theorem failing_sessions_leave_nothing : ∃ result l later m,
    advance rehearsed threeSlots 20 (start rehearsed threeSlots .idle beforeFailing) =
        .ok (.ended result l) ∧
      advance rehearsed threeSlots 20 (start rehearsed threeSlots l.state l.world) =
        .ok (.ended later m) ∧
      (rehearsedHosting.on m).pending = 0 ∧ (∃ collected, m.drains = [(collected, 0)]) ∧
      (rehearsedHosting.on m).modes = [.reset, .syncFifo] ++ [.reset, .syncFifo] := by
  have allocated : Pool.allocate threeSlots.direction failing.packetSize
      threeSlots.packetsPerTransfer threeSlots.transferCount = .ok (Pool.fresh .write 8 3) := rfl
  have first : Between rehearsedHosting failing .idle beforeFailing := .fresh .idle beforeFailing rfl
  refine ⟨_, _, _, _, rfl, rfl, ?_⟩
  exact ended_session_leaves_nothing rehearsedHosting
    (.next .idle beforeFailing first threeSlots _ allocated 20 _ _ rfl _ rfl) allocated (n := 20) rfl

end

end Run

end Session

end BulkStream
