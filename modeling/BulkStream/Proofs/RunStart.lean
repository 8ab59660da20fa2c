import BulkStream.Proofs.RunSteps

/-!
How a run may begin, with one case for each way that setting up the peripheral and its slots may
end. What it begins with is sound.
-/
namespace BulkStream.Session.Run

variable {σ : Type} {env : Surroundings σ} {config : Config}

/-- The answer to the reset that a run begins with, and the link by then. -/
def resetting (env : Surroundings σ) (state : State) (world : σ) :
    Except TransportError Unit × Link σ :=
  (((Link.opened state world).now env).2.transition env .configuring).setMode env .reset

def purging (env : Surroundings σ) (state : State) (world : σ) :
    Except TransportError Unit × Link σ :=
  (resetting env state world).2.purge env

/-- How a run may begin. -/
inductive Started (env : Surroundings σ) (config : Config) (state : State) (world : σ) :
    Run σ → Prop
  | unset (source : TransportError) (reset : (resetting env state world).1 = .error source) :
      Started env config state world
        (failEarly env (.configuration "reset peripheral mode" source)
          (resetting env state world).2)
  | unpurged (source : TransportError) (reset : (resetting env state world).1 = .ok ())
      (purged : (purging env state world).1 = .error source) :
      Started env config state world
        (failEarly env (.configuration "purge buffers" source) (purging env state world).2)
  | narrow (size : Nat) (reset : (resetting env state world).1 = .ok ())
      (purged : (purging env state world).1 = .ok ())
      (reported : env.packetSize (purging env state world).2.world = size)
      (narrow : ¬ Packet.statusLength < size) :
      Started env config state world
        (failEarly env (.configuration "packet size"
          (.other s!"{size} byte packets leave no room for payload")) (purging env state world).2)
  | unallocated (size : Nat) (reset : (resetting env state world).1 = .ok ())
      (purged : (purging env state world).1 = .ok ())
      (reported : env.packetSize (purging env state world).2.world = size)
      (wide : Packet.statusLength < size) (error : StreamError)
      (refused : Pool.allocate config.direction size config.packetsPerTransfer
        config.transferCount = .error error) :
      Started env config state world
        (failEarly env error ((purging env state world).2.transition env .priming))
  | opened (size : Nat) (reset : (resetting env state world).1 = .ok ())
      (purged : (purging env state world).1 = .ok ())
      (reported : env.packetSize (purging env state world).2.world = size)
      (wide : Packet.statusLength < size) (pool : Pool)
      (allocated : Pool.allocate config.direction size config.packetsPerTransfer
        config.transferCount = .ok pool) :
      Started env config state world
        (.active (.priming 0) {
          link := (purging env state world).2.transition env .priming, pool, packetSize := size
          started := ((Link.opened state world).now env).1
          tracker := .start ((Link.opened state world).now env).1 config.progressInterval })

theorem configure_unset {l : Link σ} {source : TransportError}
    (reset : (l.setMode env .reset).1 = .error source) :
    configure env l =
      (.error (.configuration "reset peripheral mode" source), (l.setMode env .reset).2) := by
  rw [configure]
  generalize l.setMode env .reset = answered at reset ⊢
  obtain ⟨result, l⟩ := answered
  cases reset
  rfl

theorem configure_unpurged {l : Link σ} {source : TransportError}
    (reset : (l.setMode env .reset).1 = .ok ())
    (purged : ((l.setMode env .reset).2.purge env).1 = .error source) :
    configure env l = (.error (.configuration "purge buffers" source),
      ((l.setMode env .reset).2.purge env).2) := by
  rw [configure]
  generalize l.setMode env .reset = answered at reset purged ⊢
  obtain ⟨result, l⟩ := answered
  cases reset
  dsimp only at purged ⊢
  generalize l.purge env = answered at purged ⊢
  obtain ⟨result, l⟩ := answered
  cases purged
  rfl

section

variable {l : Link σ}

theorem configure_purged (reset : (l.setMode env .reset).1 = .ok ())
    (purged : ((l.setMode env .reset).2.purge env).1 = .ok ()) :
    configure env l =
      let m := ((l.setMode env .reset).2.purge env).2
      if Packet.statusLength < env.packetSize m.world then (.ok (env.packetSize m.world), m)
      else
        (.error (.configuration "packet size"
          (.other s!"{env.packetSize m.world} byte packets leave no room for payload")), m) := by
  rw [configure]
  generalize l.setMode env .reset = answered at reset purged ⊢
  obtain ⟨result, l⟩ := answered
  cases reset
  dsimp only at purged ⊢
  generalize l.purge env = answered at purged ⊢
  obtain ⟨result, l⟩ := answered
  cases purged
  rfl

theorem configure_wide (reset : (l.setMode env .reset).1 = .ok ())
    (purged : ((l.setMode env .reset).2.purge env).1 = .ok ())
    (wide : Packet.statusLength < env.packetSize ((l.setMode env .reset).2.purge env).2.world) :
    configure env l =
      (.ok (env.packetSize ((l.setMode env .reset).2.purge env).2.world),
        ((l.setMode env .reset).2.purge env).2) := by
  rw [configure_purged reset purged]
  exact if_pos wide

theorem configure_narrow (reset : (l.setMode env .reset).1 = .ok ())
    (purged : ((l.setMode env .reset).2.purge env).1 = .ok ())
    (narrow : ¬ Packet.statusLength < env.packetSize ((l.setMode env .reset).2.purge env).2.world) :
    configure env l =
      (.error (.configuration "packet size" (.other
        s!"{env.packetSize ((l.setMode env .reset).2.purge env).2.world} byte packets leave no room for payload")),
        ((l.setMode env .reset).2.purge env).2) := by
  rw [configure_purged reset purged]
  exact if_neg narrow

end

theorem start_started (env : Surroundings σ) (config : Config) (state : State) (world : σ) :
    Started env config state world (start env config state world) := by
  rw [start]
  dsimp only
  cases reset : (resetting env state world).1 with
  | error source =>
      rw [configure_unset reset]
      exact Started.unset source reset
  | ok =>
      cases purged : (purging env state world).1 with
      | error source =>
          rw [configure_unpurged reset purged]
          exact Started.unpurged source reset purged
      | ok =>
          by_cases wide : Packet.statusLength < env.packetSize (purging env state world).2.world
          · rw [configure_wide reset purged wide]
            dsimp only
            split
            · rename_i error refused
              exact Started.unallocated _ reset purged rfl wide error refused
            · rename_i pool allocated
              exact Started.opened _ reset purged rfl wide pool allocated
          · rw [configure_narrow reset purged wide]
            exact Started.narrow _ reset purged rfl wide

theorem quiet_configuring (env : Surroundings σ) (state : State) (world : σ) :
    (Link.opened state world).Quiet env
      (((Link.opened state world).now env).2.transition env .configuring) :=
  Link.Quiet.refl.now.transition .configuring

theorem offers_resetting (env : Surroundings σ) (state : State) (world : σ) :
    (resetting env state world).2.offers = [] := by
  rw [resetting, Link.offers_setMode]
  exact (quiet_configuring env state world).offers_eq

theorem offers_purging (env : Surroundings σ) (state : State) (world : σ) :
    (purging env state world).2.offers = [] := by
  rw [purging, Link.offers_purge, offers_resetting]

theorem drains_purging (env : Surroundings σ) (state : State) (world : σ) :
    (purging env state world).2.drains = [] := by
  rw [purging, Link.drains_purge, resetting, Link.drains_setMode]
  exact (quiet_configuring env state world).aside.drains_eq

theorem Started.sound {state : State} {world : σ} {run : Run σ}
    (h : Started env config state world run) : run.Sound := by
  cases h with
  | unset source reset | unpurged source reset purged => trivial
  | narrow size reset purged reported narrow => trivial
  | unallocated size reset purged reported wide error refused => trivial
  | opened size reset purged reported wide pool allocated =>
      obtain ⟨bufferLength, rfl⟩ := Pool.allocate_fresh allocated
      refine ⟨⟨Pool.fresh_sound _ _ _, Tracker.start_sound _ _, wide⟩, ?_⟩
      intro i _ inside
      rw [Pool.fresh_capacity] at inside
      exact ⟨_, Pool.fresh_held bufferLength inside⟩

end BulkStream.Session.Run
