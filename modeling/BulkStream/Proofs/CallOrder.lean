import BulkStream.Proofs.Runs

/-!
The order in which a session calls its transport, whatever the transport answers. It opens, queues
slots in rising order, switches to streaming once every slot was offered, and goes through cycles of
waits and submits; what follows the beginning of a drain is at most a request to cancel and waits.
-/
namespace BulkStream.Session

variable {σ : Type} {env : Surroundings σ} {config : Config} {state : State} {world : σ}

def taking (request : Request) : Action := .submit request (.ok ())

def opening : List Action := [.setMode .reset (.ok ()), .purge (.ok ())]

/-- Requests queued by the time that priming comes to an index. On a read no slot is left out. -/
structure Queued (config : Config) (index : Nat) (queued : List Request) : Prop where
  rising : (queued.map Request.slot).Pairwise (· < ·)
  below : ∀ request ∈ queued, request.slot < index
  all : config.direction = .read → queued.map Request.slot = List.range index

/-- The waits of one cycle: a second one follows the first exactly if that was interrupted. -/
inductive Waits (milliseconds : Nat) : List Action → Prop
  | once (result : WaitResult) (completions : List Completion) (whole : result ≠ .interrupted) :
      Waits milliseconds [.wait milliseconds result completions]
  | again (completions : List Completion) (result : WaitResult) (more : List Completion) :
      Waits milliseconds
        [.wait milliseconds .interrupted completions, .wait milliseconds result more]

inductive Cycles (milliseconds : Nat) : List Action → Prop
  | none : Cycles milliseconds []
  | next {before waits submits : List Action} (earlier : Cycles milliseconds before)
      (waited : Waits milliseconds waits)
      (submitted : ∀ call ∈ submits, ∃ request result, call = .submit request result) :
      Cycles milliseconds (before ++ (waits ++ submits))

structure Streaming (config : Config) (cycles calls : List Action) : Prop where
  cycles_ok : Cycles config.waitMilliseconds cycles
  calls_eq : ∃ queued, Queued config config.transferCount queued ∧
    calls = opening ++ queued.map taking ++ .setMode .syncFifo (.ok ()) :: cycles

/-- All calls before a session begins to drain. -/
inductive Undrained (config : Config) : List Action → Prop
  | refused (index : Nat) (inside : index < config.transferCount) (queued : List Request)
      (request : Request) (here : request.slot = index)
      (offered : Queued config (index + 1) (queued ++ [request])) (source : TransportError) :
      Undrained config (opening ++ queued.map taking ++ [.submit request (.error source)])
  | denied (queued : List Request) (primed : Queued config config.transferCount queued)
      (source : TransportError) :
      Undrained config (opening ++ queued.map taking ++ [.setMode .syncFifo (.error source)])
  | streamed (cycles calls : List Action) (some : cycles ≠ []) (h : Streaming config cycles calls) :
      Undrained config calls

/-- The calls from there on: none if no slot is in flight. -/
inductive Draining (milliseconds : Nat) (p : Pool) : List Action → Prop
  | idle (none : p.slotsInFlight = ∅) : Draining milliseconds p []
  | cancelled (some : p.slotsInFlight ≠ ∅) (waits : List Action) (once : waits ≠ [])
      (waited : ∀ call ∈ waits,
        ∃ result completions, call = .wait milliseconds result completions) :
      Draining milliseconds p (.cancelAll :: waits)

/-- The packet size that the transport names leaves room for payload, and there is memory enough. -/
def Fit (env : Surroundings σ) (config : Config) (state : State) (world : σ) : Prop :=
  Packet.statusLength < env.packetSize (Run.purging env state world).2.world ∧
    ∃ pool, Pool.allocate config.direction (env.packetSize (Run.purging env state world).2.world)
      config.packetsPerTransfer config.transferCount = .ok pool

/-- The calls of a session that ends before it has any slot. -/
inductive Aborted (env : Surroundings σ) (config : Config) (state : State) (world : σ) :
    List Action → Prop
  | unset (source : TransportError) :
      Aborted env config state world [.setMode .reset (.error source)]
  | unpurged (source : TransportError) :
      Aborted env config state world [.setMode .reset (.ok ()), .purge (.error source)]
  | unfit (unfit : ¬ Fit env config state world) : Aborted env config state world opening

/-- The calls of a session that has drained. -/
def Drained (env : Surroundings σ) (config : Config) (state : State) (world : σ)
    (calls : List Action) : Prop :=
  ∃ s drain, Run.Reached env config state world (.active .closing s) ∧
    Undrained config s.link.calls ∧ Draining config.waitMilliseconds s.pool drain ∧
    calls = s.link.calls ++ drain

def Cancelled (env : Surroundings σ) (config : Config) (state : State) (world : σ)
    (waits calls : List Action) : Prop :=
  ∃ s, Run.Reached env config state world (.active .closing s) ∧ Undrained config s.link.calls ∧
    s.pool.slotsInFlight ≠ ∅ ∧
    (∀ call ∈ waits,
      ∃ result completions, call = .wait config.waitMilliseconds result completions) ∧
    calls = s.link.calls ++ .cancelAll :: waits

/-- The calls of a run that has come so far are in order. -/
def InOrder (env : Surroundings σ) (config : Config) (state : State) (world : σ) : Run σ → Prop
  | .active (.priming index) s =>
      Fit env config state world ∧ index ≤ config.transferCount ∧
        s.pool.direction = config.direction ∧ s.pool.capacity = config.transferCount ∧
        ∃ queued, Queued config index queued ∧ s.link.calls = opening ++ queued.map taking
  | .active .cycling s =>
      Fit env config state world ∧ ∃ cycles, Streaming config cycles s.link.calls
  | .active (.handling _) s =>
      Fit env config state world ∧ ∃ cycles, cycles ≠ [] ∧ Streaming config cycles s.link.calls
  | .active .closing s => Fit env config state world ∧ Undrained config s.link.calls
  | .active (.draining _ _) s =>
      Fit env config state world ∧ ∃ waits, Cancelled env config state world waits s.link.calls ∧
        (waits = [] → s.pool.slotsInFlight ≠ ∅)
  | .active (.collecting _ _ _ _ _) s =>
      Fit env config state world ∧ ∃ waits, waits ≠ [] ∧
        Cancelled env config state world waits s.link.calls
  | .active (.settling _) s =>
      Fit env config state world ∧ Drained env config state world s.link.calls
  | .ended _ l =>
      Aborted env config state world l.calls ∨
        Fit env config state world ∧ Drained env config state world l.calls

theorem Queued.start (config : Config) : Queued config 0 [] :=
  ⟨.nil, fun _ impossible => absurd impossible List.not_mem_nil, fun _ => rfl⟩

theorem Queued.next {index : Nat} {queued : List Request} (h : Queued config index queued)
    {request : Request} (here : request.slot = index) :
    Queued config (index + 1) (queued ++ [request]) := by
  refine ⟨?_, ?_, ?_⟩
  · rw [List.map_append, List.pairwise_append]
    refine ⟨h.rising, List.pairwise_singleton _ _, ?_⟩
    intro slot member last same
    obtain ⟨earlier, found, rfl⟩ := List.mem_map.mp member
    rw [List.mem_singleton.mp same, here]
    exact h.below earlier found
  · intro other member
    rcases List.mem_append.mp member with earlier | last
    · exact Nat.lt_succ_of_lt (h.below other earlier)
    · rw [List.mem_singleton.mp last, here]
      exact Nat.lt_succ_self index
  · intro read
    rw [List.map_append, h.all read, List.range_succ, List.map_cons, List.map_nil, here]

theorem Queued.skip {index : Nat} {queued : List Request} (h : Queued config index queued)
    (write : config.direction = .write) : Queued config (index + 1) queued := by
  refine ⟨h.rising, fun request member => Nat.lt_succ_of_lt (h.below request member), ?_⟩
  intro read
  rw [write] at read
  contradiction

theorem Cycles.submit {milliseconds : Nat} {calls : List Action} (h : Cycles milliseconds calls)
    (some : calls ≠ []) (request : Request) (result : Except TransportError Unit) :
    Cycles milliseconds (calls ++ [.submit request result]) := by
  cases h with
  | none => contradiction
  | next earlier waited submitted =>
      rw [List.append_assoc, List.append_assoc]
      refine .next earlier waited ?_
      intro call member
      rcases List.mem_append.mp member with before | last
      · exact submitted call before
      · exact ⟨request, result, List.mem_singleton.mp last⟩

theorem Streaming.submit {cycles calls : List Action} (h : Streaming config cycles calls)
    (some : cycles ≠ []) (request : Request) (result : Except TransportError Unit) :
    Streaming config (cycles ++ [.submit request result]) (calls ++ [.submit request result]) := by
  obtain ⟨cycles_ok, queued, primed, rfl⟩ := h
  refine ⟨cycles_ok.submit some request result, queued, primed, ?_⟩
  rw [List.append_assoc, List.cons_append]

theorem Streaming.wait {cycles calls waits : List Action} (h : Streaming config cycles calls)
    (waited : Waits config.waitMilliseconds waits) :
    Streaming config (cycles ++ waits) (calls ++ waits) := by
  obtain ⟨cycles_ok, queued, primed, rfl⟩ := h
  have next : Cycles config.waitMilliseconds (cycles ++ (waits ++ [])) :=
    .next cycles_ok waited fun _ impossible => absurd impossible List.not_mem_nil
  rw [List.append_nil] at next
  refine ⟨next, queued, primed, ?_⟩
  rw [List.append_assoc, List.cons_append]

theorem Waits.ne_nil {milliseconds : Nat} {waits : List Action} (h : Waits milliseconds waits) :
    waits ≠ [] := by
  cases h <;> exact List.cons_ne_nil _ _

theorem handled_calls {c : Completion} {s t : Stream σ} (h : Stream.Handled env c s t) :
    t.link.calls = s.link.calls ∨
      ∃ request result, t.link.calls = s.link.calls ++ [.submit request result] := by
  have beside_calls {u : Stream σ} (beside : Stream.Beside env (s.succeeded c.slot) u) :
      u.link.calls = s.link.calls := by
    cases beside with
    | mk link tracker aside sound => exact aside.calls_eq
  cases h with
  | stray stray => exact .inl rfl
  | failed own status => exact .inl (Link.calls_log env s.link _)
  | dropped own status quitting => exact .inl (Link.calls_log env s.link _)
  | stopped own status running buffer u consumed beside =>
      exact .inl ((Link.calls_log env u.link _).trans (beside_calls beside))
  | resubmitted own status running buffer u consumed beside accepted =>
      refine .inr ⟨u.pool.request c.slot buffer,
        (u.link.submit env (u.pool.request c.slot buffer)).1, ?_⟩
      rw [← beside_calls beside]
      exact Link.calls_submit env u.link _
  | refused own status running buffer u consumed beside source answer =>
      refine .inr ⟨u.pool.request c.slot buffer,
        (u.link.submit env (u.pool.request c.slot buffer)).1, ?_⟩
      rw [← beside_calls beside]
      exact (Link.calls_log env _ _).trans (Link.calls_submit env u.link _)

theorem awaited_calls {milliseconds : Nat} {l m : Link σ} {failure : Option StreamError}
    {completions : List Completion}
    (h : Stream.Awaited env milliseconds l ((failure, completions), m)) :
    ∃ waits, Waits milliseconds waits ∧ waits.flatMap Action.completions = completions ∧
      m.calls = l.calls ++ waits := by
  cases h with
  | once result completions answer whole =>
      refine ⟨_, .once result completions whole, List.append_nil completions, ?_⟩
      rw [Link.calls_wait, answer]
  | again first result more cut answer =>
      refine ⟨_, .again first result more, congrArg (first ++ ·) (List.append_nil more), ?_⟩
      rw [Link.calls_wait, answer, Link.calls_log, Link.calls_wait, cut, List.append_assoc]
      rfl

theorem Cancelled.wait {waits calls : List Action}
    (h : Cancelled env config state world waits calls) (result : WaitResult)
    (completions : List Completion) :
    Cancelled env config state world (waits ++ [.wait config.waitMilliseconds result completions])
      (calls ++ [.wait config.waitMilliseconds result completions]) := by
  obtain ⟨s, reached, undrained, some, waited, rfl⟩ := h
  refine ⟨s, reached, undrained, some, ?_, ?_⟩
  · intro call member
    rcases List.mem_append.mp member with before | last
    · exact waited call before
    · exact ⟨result, completions, List.mem_singleton.mp last⟩
  · rw [List.append_assoc, List.cons_append]

theorem Cancelled.drained {waits calls : List Action}
    (h : Cancelled env config state world waits calls) (once : waits ≠ []) :
    Drained env config state world calls := by
  obtain ⟨s, reached, undrained, some, waited, rfl⟩ := h
  exact ⟨s, .cancelAll :: waits, reached, undrained, .cancelled some waits once waited, rfl⟩

theorem InOrder.afterWait {s : Stream σ} {waits : List Action} (fit : Fit env config state world)
    (once : waits ≠ []) (cancelled : Cancelled env config state world waits s.link.calls)
    (answer : WaitResult) (interrupted : Bool) (before collected : Nat) :
    InOrder env config state world
      (.active (Run.afterWait answer interrupted before collected) s) := by
  have again : Fit env config state world ∧ ∃ waits,
      Cancelled env config state world waits s.link.calls ∧
        (waits = [] → s.pool.slotsInFlight ≠ ∅) :=
    ⟨fit, waits, cancelled, fun none => absurd none once⟩
  have drained : Fit env config state world ∧ Drained env config state world s.link.calls :=
    ⟨fit, cancelled.drained once⟩
  rcases Run.afterWait_cases answer interrupted before collected with ⟨more, next⟩ | next
  · rw [next]
    exact again
  · rw [next]
    exact drained

theorem InOrder.stepped {run next : Run σ} (h : InOrder env config state world run)
    (reached : Run.Reached env config state world run)
    (stepped : Run.Stepped env config run next) : InOrder env config state world next := by
  cases stepped with
  | ended result l => exact h
  | queued index s buffer l inside prepared accepted =>
      obtain ⟨fit, within, direction, capacity, queued, offered, calls⟩ := h
      refine ⟨fit, capacity ▸ inside, direction, ?_, queued ++ [s.pool.request index buffer],
        offered.next rfl, ?_⟩
      · exact (Pool.put_capacity s.pool index .inFlight).trans capacity
      · refine (Link.calls_submit env l _).trans ?_
        rw [prepared.aside.calls_eq, calls, accepted, List.map_append, List.append_assoc]
        rfl
  | refused index s buffer l inside prepared source answer =>
      obtain ⟨fit, within, direction, capacity, queued, offered, calls⟩ := h
      refine ⟨fit, ?_⟩
      have all : (l.submit env (s.pool.request index buffer)).2.calls =
          opening ++ queued.map taking ++
            [.submit (s.pool.request index buffer) (.error source)] := by
        rw [Link.calls_submit, prepared.aside.calls_eq, calls, answer]
      change Undrained config (l.submit env (s.pool.request index buffer)).2.calls
      rw [all]
      exact .refused index (capacity ▸ inside) queued _ rfl (offered.next rfl) source
  | spared index s offered buffer l inside write held answer =>
      obtain ⟨fit, within, direction, capacity, queued, known, calls⟩ := h
      have same : l.calls = s.link.calls := (Link.Aside.of_fill answer).calls_eq
      refine ⟨fit, capacity ▸ inside, direction, ?_, queued, known.skip (direction ▸ write), ?_⟩
      · exact (Pool.put_capacity s.pool index .released).trans capacity
      · exact same.trans calls
  | denied index s all source answer =>
      obtain ⟨fit, within, direction, capacity, queued, known, calls⟩ := h
      have done : index = config.transferCount :=
        Nat.le_antisymm within (capacity ▸ Nat.le_of_not_lt all)
      have all : ((Run.announced env config s).setMode env .syncFifo).2.calls =
          opening ++ queued.map taking ++ [.setMode .syncFifo (.error source)] := by
        rw [Link.calls_setMode, answer, Run.announced, Link.calls_log, calls]
      refine ⟨fit, ?_⟩
      change Undrained config ((Run.announced env config s).setMode env .syncFifo).2.calls
      rw [all]
      exact .denied queued (done ▸ known) source
  | entered index s all answer =>
      obtain ⟨fit, within, direction, capacity, queued, known, calls⟩ := h
      have done : index = config.transferCount :=
        Nat.le_antisymm within (capacity ▸ Nat.le_of_not_lt all)
      refine ⟨fit, [], .none, queued, done ▸ known, ?_⟩
      refine (Link.calls_transition env _ _).trans ?_
      rw [Link.calls_setMode, answer, Run.announced, Link.calls_log, calls]
  | gathered s failure completions l awaited =>
      obtain ⟨fit, cycles, streaming⟩ := h
      obtain ⟨waits, waited, -, calls⟩ := awaited_calls awaited
      refine ⟨fit, cycles ++ waits, ?_, ?_⟩
      · exact List.append_ne_nil_of_right_ne_nil _ waited.ne_nil
      · change Streaming config (cycles ++ waits) l.calls
        rw [calls]
        exact streaming.wait waited
  | handled c completions s t handled =>
      obtain ⟨fit, cycles, some, streaming⟩ := h
      rcases handled_calls handled with same | ⟨request, result, submitted⟩
      · exact ⟨fit, cycles, some, same ▸ streaming⟩
      · refine ⟨fit, cycles ++ [.submit request result], ?_, ?_⟩
        · exact List.append_ne_nil_of_left_ne_nil some _
        · rw [submitted]
          exact streaming.submit some request result
  | concluded s again t concluded =>
      obtain ⟨fit, cycles, some, streaming⟩ := h
      cases concluded with
      | finished quitting => exact ⟨fit, .streamed cycles _ some streaming⟩
      | stalled running idle =>
          refine ⟨fit, .streamed cycles _ some ?_⟩
          exact (Link.calls_log env s.link _).symm ▸ streaming
      | again running busy t sampled beside =>
          exact ⟨fit, cycles, beside.aside.calls_eq.symm ▸ streaming⟩
  -- From here on the calls are told apart by the point `s` at which the drain began.
  | emptied s none =>
      obtain ⟨fit, undrained⟩ := h
      refine ⟨fit, s, [], reached, undrained, .idle none, ?_⟩
      exact (Link.calls_transition env s.link .draining).trans (List.append_nil _).symm
  | cancelled s some =>
      obtain ⟨fit, undrained⟩ := h
      have nothing : ∀ call ∈ ([] : List Action), ∃ result completions,
          call = .wait config.waitMilliseconds result completions :=
        fun _ impossible => absurd impossible List.not_mem_nil
      refine ⟨fit, [], ⟨s, reached, undrained, some, nothing, ?_⟩, fun _ => ?_⟩
      · refine (Link.calls_cancelAll env _).trans ?_
        exact congrArg (· ++ [Action.cancelAll]) (Link.calls_transition env s.link .draining)
      · change (s.pool.mapSlots Pool.ifInFlight).slotsInFlight ≠ ∅
        rw [Pool.slotsInFlight_releaseIdle]
        exact some
  | cleared collected interrupted s none =>
      obtain ⟨fit, waits, cancelled, waiting⟩ := h
      exact ⟨fit, cancelled.drained fun first => waiting first none⟩
  | waited collected interrupted s some answer completions answered =>
      obtain ⟨fit, waits, cancelled, waiting⟩ := h
      refine ⟨fit, waits ++ [.wait config.waitMilliseconds answer completions], ?_, ?_⟩
      · exact List.append_ne_nil_of_right_ne_nil _ (List.cons_ne_nil _ _)
      · change Cancelled env config state world _ (s.link.wait env config.waitMilliseconds).2.calls
        rw [Link.calls_wait, answered]
        exact cancelled.wait answer completions
  | collected answer interrupted before collected c completions s own => exact h
  | ignored answer interrupted before collected c completions s stray => exact h
  | emptyHanded answer interrupted before collected s =>
      obtain ⟨fit, waits, once, cancelled⟩ := h
      exact .afterWait fit once cancelled answer interrupted before collected
  | settled collected s =>
      obtain ⟨fit, drained⟩ := h
      obtain ⟨result, l, finished, aside, -⟩ :=
        Run.finish_ended env (Run.abandoned env collected s)
      have same : l.calls = s.link.calls := aside.calls_eq.trans (Link.calls_log env s.link _)
      rw [finished]
      exact .inr ⟨fit, same.symm ▸ drained⟩

theorem InOrder.early {error : StreamError} {l : Link σ}
    (h : Aborted env config state world l.calls) :
    InOrder env config state world (Run.failEarly env error l) := by
  refine .inl ?_
  rw [Link.calls_transition, Link.calls_log]
  exact h

theorem InOrder.started {run : Run σ} (h : Run.Started env config state world run) :
    InOrder env config state world run := by
  have resetting : (Run.resetting env state world).2.calls =
      [.setMode .reset (Run.resetting env state world).1] := by
    refine (Link.calls_setMode env _ .reset).trans ?_
    rw [Link.calls_transition]
    rfl
  have purging : (Run.purging env state world).2.calls =
      [.setMode .reset (Run.resetting env state world).1,
        .purge (Run.purging env state world).1] := by
    refine (Link.calls_purge env _).trans ?_
    rw [resetting]
    rfl
  cases h with
  | unset source reset =>
      refine .early ?_
      rw [resetting, reset]
      exact .unset source
  | unpurged source reset purged =>
      refine .early ?_
      rw [purging, reset, purged]
      exact .unpurged source
  | narrow size reset purged reported narrow =>
      refine .early ?_
      rw [purging, reset, purged]
      refine .unfit ?_
      rintro ⟨wide, -⟩
      rw [reported] at wide
      exact narrow wide
  | unallocated size reset purged reported wide error refused =>
      refine .early ?_
      rw [Link.calls_transition, purging, reset, purged]
      refine .unfit ?_
      rintro ⟨-, pool, allocated⟩
      rw [reported, refused] at allocated
      cases allocated
  | opened size reset purged reported wide pool allocated =>
      have fit : Fit env config state world := by
        rw [← reported] at wide allocated
        exact ⟨wide, pool, allocated⟩
      obtain ⟨bufferLength, rfl⟩ := Pool.allocate_fresh allocated
      refine ⟨fit, Nat.zero_le _, rfl, Pool.fresh_capacity _ _ _, [], .start config, ?_⟩
      refine (Link.calls_transition env _ _).trans ?_
      rw [purging, reset, purged]
      rfl

/-- Whatever its surroundings do, the calls of a session are in order after any number of steps.
Only a byte count past 64 bits can keep it from coming that far. -/
theorem calls_in_order (env : Surroundings σ) (config : Config) (state : State) (world : σ)
    (n : Nat) :
    (∃ run, Run.advance env config n (Run.start env config state world) = .ok run ∧
        InOrder env config state world run) ∨
      Run.advance env config n (Run.start env config state world) = .error .countOverflow := by
  have kept : ∀ run next : Run σ, Run.Reached env config state world run → run.Sound →
      InOrder env config state world run → Run.step env config run = .ok next →
      Run.Stepped env config run next → InOrder env config state world next := by
    intro run next reached _ ordered _ stepped
    exact ordered.stepped reached stepped
  refine (Run.run_keeps (fun _ => InOrder.started) kept n).imp_left ?_
  rintro ⟨run, come, -, ordered⟩
  exact ⟨run, come, ordered⟩

end BulkStream.Session
