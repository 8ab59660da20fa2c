import BulkStream.Proofs.Custody
import BulkStream.Proofs.FifoService
import BulkStream.Proofs.Runs
import BulkStream.Rehearsal.Audience
import BulkStream.Rehearsal.Timeline

/-!
A session with a transport of its own. Nobody else calls the transport, so it changes in calls to it
only; what else happens meanwhile, to the clock, to the consumer or to the stop flag, is open.
-/
namespace BulkStream.Session

variable {σ τ : Type} {env : Surroundings σ} {t : Transport τ}

/-- Surroundings whose calls to the transport are calls to a transport within. -/
structure Hosting (env : Surroundings σ) (t : Transport τ) where
  device : σ → τ
  packetSize (world : σ) : env.packetSize world = t.packetSize (device world)
  setMode (mode : Mode) (world : σ) :
    Prod.map id device (env.setMode mode world) = t.setMode mode (device world)
  purge (world : σ) : Prod.map id device (env.purge world) = t.purge (device world)
  submit (request : Request) (world : σ) :
    Prod.map id device (env.submit request world) = t.submit request (device world)
  wait (milliseconds : Nat) (world : σ) :
    Prod.map id device (env.wait milliseconds world) = t.wait milliseconds (device world)
  cancelAll (world : σ) : device (env.cancelAll world) = t.cancelAll (device world)
  payload (span : Bytes) (world : σ) : device (env.payload span world).2 = device world
  fill (offered : Bytes) (world : σ) : device (env.fill offered world).2 = device world
  progress (snapshot : Snapshot) (world : σ) :
    device (env.progress snapshot world).2 = device world
  now (world : σ) : device (env.now world).2 = device world
  log (event : Event) (world : σ) : device (env.log event world) = device world

namespace Hosting

def ofAssembly {η κ : Type} (t : Transport τ) (o : Outside η) (c : Consumer κ) :
    Hosting (Assembly.surroundings t o c) t where
  device a := a.transport
  packetSize _ := rfl
  setMode _ _ := rfl
  purge _ := rfl
  submit _ _ := rfl
  wait _ _ := rfl
  cancelAll _ := rfl
  payload _ _ := rfl
  fill _ _ := rfl
  progress _ _ := rfl
  now _ := rfl
  log _ _ := rfl

variable (host : Hosting env t)

/-- The transport at the end of a link. -/
def on (l : Link σ) : τ := host.device l.world

theorem on_setMode (mode : Mode) (l : Link σ) :
    Prod.map id host.on (l.setMode env mode) = t.setMode mode (host.on l) :=
  host.setMode mode l.world

theorem on_purge (l : Link σ) : Prod.map id host.on (l.purge env) = t.purge (host.on l) :=
  host.purge l.world

theorem on_submit (request : Request) (l : Link σ) :
    Prod.map id host.on (l.submit env request) = t.submit request (host.on l) :=
  host.submit request l.world

theorem on_wait (milliseconds : Nat) (l : Link σ) :
    Prod.map id host.on (l.wait env milliseconds) = t.wait milliseconds (host.on l) :=
  host.wait milliseconds l.world

theorem on_cancelAll (l : Link σ) : host.on (l.cancelAll env) = t.cancelAll (host.on l) :=
  host.cancelAll l.world

theorem on_aside {l m : Link σ} (h : l.Aside env m) : host.on m = host.on l := by
  induction h with
  | refl => rfl
  | log event _ _ ih => exact (host.log event _).trans ih
  | transition state _ ih => exact (host.log _ _).trans ih
  | now _ ih => exact (host.now _).trans ih
  | payload slot span _ ih =>
      rw [Link.payload]
      split
      · exact ih
      · exact (host.payload span _).trans ih
  | fill slot offered _ ih =>
      rw [Link.fill]
      split
      · exact ih
      · exact (host.fill offered _).trans ih
  | progress snapshot _ ih =>
      rw [Link.progress]
      split
      · exact ih
      · exact (host.progress snapshot _).trans ih

theorem on_resetting (state : State) (world : σ) :
    host.on (Run.resetting env state world).2 = (t.setMode .reset (host.device world)).2 := by
  have reset := congrArg Prod.snd (host.on_setMode .reset
    (((Link.opened state world).now env).2.transition env .configuring))
  rw [host.on_aside (Run.quiet_configuring env state world).aside] at reset
  exact reset

theorem on_purging (state : State) (world : σ) :
    host.on (Run.purging env state world).2 =
      (t.purge (t.setMode .reset (host.device world)).2).2 := by
  rw [← host.on_resetting state world]
  exact congrArg Prod.snd (host.on_purge (Run.resetting env state world).2)

def custody (holding : t.Holding) : Custody env where
  held world := holding.held (host.device world)
  submit_ok request world accepted := by
    have same := host.submit request world
    have after : host.device (env.submit request world).2 = (t.submit request (host.device world)).2 :=
      congrArg Prod.snd same
    rw [after]
    exact holding.submit_ok request (host.device world) ((congrArg Prod.fst same).symm.trans accepted)
  submit_error request world source refused := by
    have same := host.submit request world
    have after : host.device (env.submit request world).2 = (t.submit request (host.device world)).2 :=
      congrArg Prod.snd same
    rw [after]
    exact holding.submit_error request (host.device world) source
      ((congrArg Prod.fst same).symm.trans refused)
  wait milliseconds world := by
    have same := host.wait milliseconds world
    have after : host.device (env.wait milliseconds world).2 =
        (t.wait milliseconds (host.device world)).2 := congrArg Prod.snd same
    have answer : (env.wait milliseconds world).1 =
        (t.wait milliseconds (host.device world)).1 := congrArg Prod.fst same
    rw [after, answer]
    exact holding.wait milliseconds (host.device world)
  setMode mode world :=
    (congrArg (fun answer => holding.held answer.2) (host.setMode mode world)).trans
      (holding.setMode mode (host.device world))
  purge world :=
    (congrArg (fun answer => holding.held answer.2) (host.purge world)).trans
      (holding.purge (host.device world))
  cancelAll world :=
    (congrArg holding.held (host.cancelAll world)).trans (holding.cancelAll (host.device world))
  payload span world := congrArg holding.held (host.payload span world)
  fill offered world := congrArg holding.held (host.fill offered world)
  progress snapshot world := congrArg holding.held (host.progress snapshot world)
  now world := congrArg holding.held (host.now world)
  log event world := congrArg holding.held (host.log event world)

section

open Peripheral

variable (host : Hosting env Fifo.transport) {milliseconds : Nat} {l m : Link σ}

theorem waited_fifo {answer : WaitResult} {completions : List Completion}
    (answered : (l.wait env milliseconds).1 = (answer, completions)) :
    answer = .ok ∧ completions = (host.on l).wait.1 ∧
      host.on (l.wait env milliseconds).2 = (host.on l).wait.2 := by
  have same : Prod.map id host.on (l.wait env milliseconds) =
      ((.ok, (host.on l).wait.1), (host.on l).wait.2) := host.on_wait milliseconds l
  have first := (congrArg Prod.fst same).symm.trans answered
  cases first
  exact ⟨rfl, rfl, congrArg Prod.snd same⟩

/-- The peripheral is never interrupted, so a cycle waits for it once. -/
theorem awaited_fifo {failure : Option StreamError} {completions : List Completion}
    (h : Stream.Awaited env milliseconds l ((failure, completions), m)) :
    failure = none ∧ completions = (host.on l).wait.1 ∧ host.on m = (host.on l).wait.2 := by
  cases h with
  | once result completions answer whole =>
      obtain ⟨rfl, same, after⟩ := host.waited_fifo answer
      exact ⟨rfl, same, after⟩
  | again completions result more cut answer =>
      obtain ⟨impossible, -⟩ := host.waited_fifo cut
      cases impossible

theorem on_purging_fifo {peripheral : Peripheral.Config} (state : State) {world : σ}
    (fresh : Fifo.ofConfig peripheral = .ok (host.device world)) :
    host.on (Run.purging env state world).2 = {
      config := peripheral, source := .start peripheral.pattern peripheral.dropEvery
      modes := [.reset], flushes := 1 } := by
  rw [host.on_purging, (Fifo.ofConfig_ok fresh).2]
  rfl

theorem packetSize_fifo {peripheral : Peripheral.Config} {state : State} {world : σ}
    (fresh : Fifo.ofConfig peripheral = .ok (host.device world)) :
    env.packetSize (Run.purging env state world).2.world = peripheral.packetSize := by
  rw [host.packetSize]
  exact congrArg (fun f => f.config.packetSize) (host.on_purging_fifo state fresh)

theorem on_submit_fifo (request : Request) (l : Link σ) :
    host.on (l.submit env request).2 = (Fifo.submit request (host.on l)).2 :=
  congrArg Prod.snd (host.on_submit request l)

theorem on_setMode_fifo (mode : Mode) (l : Link σ) :
    host.on (l.setMode env mode).2 = (host.on l).setMode mode :=
  congrArg Prod.snd (host.on_setMode mode l)

end

end Hosting

/-- A stop flag that can be raised at any time and is never lowered. Once it is up, the consumer is
not called any more. -/
structure OneWay (env : Surroundings σ) : Prop where
  setMode (mode : Mode) (world : σ) (raised : env.stopRequested world = true) :
    env.stopRequested (env.setMode mode world).2 = true
  purge (world : σ) (raised : env.stopRequested world = true) :
    env.stopRequested (env.purge world).2 = true
  submit (request : Request) (world : σ) (raised : env.stopRequested world = true) :
    env.stopRequested (env.submit request world).2 = true
  wait (milliseconds : Nat) (world : σ) (raised : env.stopRequested world = true) :
    env.stopRequested (env.wait milliseconds world).2 = true
  cancelAll (world : σ) (raised : env.stopRequested world = true) :
    env.stopRequested (env.cancelAll world) = true
  now (world : σ) (raised : env.stopRequested world = true) :
    env.stopRequested (env.now world).2 = true
  log (event : Event) (world : σ) (raised : env.stopRequested world = true) :
    env.stopRequested (env.log event world) = true

theorem OneWay.aside (oneWay : OneWay env) {l m : Link σ} (h : l.Aside env m)
    (raised : l.stopRequested env = true) : m.stopRequested env = true := by
  induction h with
  | refl => exact raised
  | log event _ _ ih => exact oneWay.log event _ ih
  | transition state _ ih => exact oneWay.log _ _ ih
  | now _ ih => exact oneWay.now _ ih
  | payload slot span _ ih =>
      rw [Link.payload, if_pos ih]
      exact ih
  | fill slot offered _ ih =>
      rw [Link.fill, if_pos ih]
      exact ih
  | progress snapshot _ ih =>
      rw [Link.progress, if_pos ih]
      exact ih

theorem OneWay.awaited (oneWay : OneWay env) {milliseconds : Nat} {l m : Link σ}
    {failure : Option StreamError} {completions : List Completion}
    (h : Stream.Awaited env milliseconds l ((failure, completions), m))
    (raised : l.stopRequested env = true) : m.stopRequested env = true := by
  cases h with
  | once result completions answer whole => exact oneWay.wait milliseconds _ raised
  | again completions result more cut answer =>
      exact oneWay.wait milliseconds _ (oneWay.log _ _ (oneWay.wait milliseconds _ raised))

section

open Peripheral Rehearsal

/-- The simulated peripheral before a consumer that follows rules and a clock that follows a plan. -/
def rehearsed : Surroundings (Assembly Fifo Timeline Audience) :=
  Assembly.surroundings Fifo.transport Timeline.outside Audience.consumer

/-- Few enough slots for a short run to go through several cycles. -/
def threeSlots : Config := { packetsPerTransfer := 2, transferCount := 3 }

def rehearsedHosting : Hosting rehearsed Fifo.transport :=
  .ofAssembly Fifo.transport Timeline.outside Audience.consumer

theorem rehearsed_oneWay : OneWay rehearsed where
  setMode _ _ raised := raised
  purge _ raised := raised
  submit _ _ raised := raised
  wait _ world raised := by
    refine Bool.or_eq_true_iff.mpr ((Bool.or_eq_true_iff.mp raised).imp_left ?_)
    intro up
    change (world.outside.stopRequested || _ || _) = true
    rw [Bool.or_eq_true_iff, Bool.or_eq_true_iff]
    exact .inl (.inl up)
  cancelAll _ raised := raised
  now _ raised := raised
  log _ _ raised := raised

end

end BulkStream.Session
