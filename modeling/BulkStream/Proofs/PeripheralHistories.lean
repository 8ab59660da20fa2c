import Mathlib.Data.List.Forall2
import Mathlib.Data.List.Induction
import Mathlib.Data.List.Perm.Basic
import BulkStream.Proofs.PeripheralCalls

/-!
What a fresh peripheral makes of the requests that it accepts, whatever calls are made and in whatever
order. Accepted requests are known by their places in the order of acceptance, since two of them may be
alike. They leave the queue in that order, served or withdrawn by a cancellation, and each comes back
once.
-/
namespace BulkStream.Peripheral.Fifo

/-- The place belongs to a request that is still queued: the queue holds the latest accepted. -/
def Queued (calls : List Operation) (f : Fifo) (place : Nat) : Prop :=
  place < (along Operation.accepted calls f).length ∧
    (along Operation.accepted calls f).length ≤ place + (after calls f).queue.length

/-- The place belongs to a request that was still queued at some cancellation. -/
def Withdrawn (calls : List Operation) (f : Fifo) (place : Nat) : Prop :=
  ∃ before, before ++ [.cancelAll] <+: calls ∧ Queued before f place

/-- Completions other than by cancellation, each with the place of its request. -/
def timely (returns : List (Nat × Completion)) : List (Nat × Completion) :=
  returns.filter fun p => p.2.status ≠ .cancelled

/-- What is true of a completion handed back for the accepted request at a place: it bears the slot and
a buffer of the length of that request, and it is cancelled if the request was withdrawn. -/
structure Answered (accepted : List Request) (withdrawn : Nat → Prop) (p : Nat × Completion) : Prop where
  own : ∃ r, accepted[p.1]? = some r ∧ p.2.slot = r.slot ∧ p.2.buffer.length = r.buffer.length
  cancelled_iff : p.2.status = .cancelled ↔ withdrawn p.1
  empty : p.2.status = .cancelled → p.2.length = 0

/-- Where the accepted requests are: those at places below `gone` have left the queue, and of these
the `kept` ones wait to be handed back as cancelled. -/
structure Places (accepted : List Request) (withdrawn : Nat → Prop)
    (returns : List (Nat × Completion)) (gone : Nat) (kept : List Nat)
    (queue cancelled : List Request) : Prop where
  queue_eq : accepted.drop gone = queue
  gone_le : gone ≤ accepted.length
  parted : (returns.map Prod.fst ++ kept).Perm (List.range gone)
  kept_eq : List.Forall₂ (fun place r => accepted[place]? = some r) kept cancelled
  each : ∀ p ∈ returns, Answered accepted withdrawn p
  in_order : ((timely returns).map Prod.fst).Pairwise (· < ·)
  kept_withdrawn : ∀ place ∈ kept, withdrawn place
  withdrawn_lt : ∀ place, withdrawn place → place < gone

/-- How many transfers have completed, and how each came out. -/
structure Results (config : Config) (accepted : List Request) (served : List (Nat × Completion))
    (completed : Nat) : Prop where
  completed_eq : completed = served.length
  within : ∀ n, config.stallAfter = some n → completed ≤ n
  outcome : ∀ (k : Nat) (p : Nat × Completion), served[k]? = some p →
    ∃ r, accepted[p.1]? = some r ∧ Outcome config k r p.2

section

variable {accepted : List Request} {withdrawn : Nat → Prop} {returns : List (Nat × Completion)}
  {gone : Nat} {kept : List Nat} {queue cancelled : List Request} {config : Config}

theorem timely_append (a b : List (Nat × Completion)) :
    timely (a ++ b) = timely a ++ timely b := List.filter_append a b

theorem timely_cancelled (all : ∀ p ∈ returns, p.2.status = .cancelled) : timely returns = [] := by
  rw [timely, List.filter_eq_nil_iff]
  intro p member
  simpa using all p member

theorem timely_served {place : Nat} {c : Completion} (status : c.status ≠ .cancelled) :
    timely [(place, c)] = [(place, c)] := by
  rw [timely, List.filter_singleton, decide_eq_true status]
  rfl

theorem getElem?_of_append {place : Nat} {r : Request} (more : List Request)
    (h : accepted[place]? = some r) : (accepted ++ more)[place]? = some r := by
  have inside : place < accepted.length := (List.getElem?_eq_some_iff.mp h).1
  rw [List.getElem?_append_left inside, h]

theorem Answered.append {p : Nat × Completion} (h : Answered accepted withdrawn p)
    (more : List Request) : Answered (accepted ++ more) withdrawn p := by
  obtain ⟨⟨r, at_place, same⟩, cancelled_iff, empty⟩ := h
  exact ⟨⟨r, getElem?_of_append more at_place, same⟩, cancelled_iff, empty⟩

theorem filterMap_eq_of_forall₂
    (h : List.Forall₂ (fun place r => accepted[place]? = some r) kept cancelled) :
    kept.filterMap (accepted[·]?) = cancelled := by
  induction h with
  | nil => rfl
  | cons found rest ih => rw [List.filterMap_cons_some found, ih]

namespace Places

theorem fresh (none : ∀ place, ¬ withdrawn place) : Places [] withdrawn [] 0 [] [] [] where
  queue_eq := rfl
  gone_le := Nat.le_refl 0
  parted := .refl []
  kept_eq := .nil
  each := nofun
  in_order := .nil
  kept_withdrawn := nofun
  withdrawn_lt place h := absurd h (none place)

theorem lt (h : Places accepted withdrawn returns gone kept queue cancelled)
    {p : Nat × Completion} (member : p ∈ returns) : p.1 < gone := by
  have place : p.1 ∈ returns.map Prod.fst ++ kept :=
    List.mem_append_left _ (List.mem_map_of_mem member)
  exact List.mem_range.mp (h.parted.mem_iff.mp place)

theorem returned_or_kept (h : Places accepted withdrawn returns gone kept queue cancelled)
    {place : Nat} (left : place < gone) :
    place ∈ returns.map Prod.fst ∨ ∃ r ∈ cancelled, accepted[place]? = some r := by
  have either := h.parted.mem_iff.mpr (List.mem_range.mpr left)
  refine (List.mem_append.mp either).imp_right ?_
  intro member
  obtain ⟨i, inside, rfl⟩ := List.getElem_of_mem member
  exact ⟨_, List.getElem_mem _, h.kept_eq.get inside (h.kept_eq.length_eq ▸ inside)⟩

theorem submit (h : Places accepted withdrawn returns gone kept queue cancelled) (r : Request) :
    Places (accepted ++ [r]) withdrawn returns gone kept (queue ++ [r]) cancelled where
  queue_eq := by rw [List.drop_append_of_le_length h.gone_le, h.queue_eq]
  gone_le := h.gone_le.trans (by simp)
  parted := h.parted
  kept_eq := h.kept_eq.imp fun _ _ => getElem?_of_append [r]
  each p member := (h.each p member).append [r]
  in_order := h.in_order
  kept_withdrawn := h.kept_withdrawn
  withdrawn_lt := h.withdrawn_lt

/-- A cancellation empties the queue: all that has been accepted has left it by now. -/
theorem cancel (h : Places accepted withdrawn returns gone kept queue cancelled)
    {withdrawn' : Nat → Prop}
    (more : ∀ place, withdrawn' place ↔
      withdrawn place ∨ place < accepted.length ∧ gone ≤ place) :
    Places accepted withdrawn' returns accepted.length
      (kept ++ List.range' gone (accepted.length - gone)) [] (cancelled ++ queue) where
  queue_eq := List.drop_length
  gone_le := Nat.le_refl _
  parted := by
    have all : List.range accepted.length =
        List.range gone ++ List.range' gone (accepted.length - gone) := by
      obtain ⟨n, total⟩ := Nat.exists_eq_add_of_le h.gone_le
      rw [total, Nat.add_sub_cancel_left, List.range_eq_range', List.range_eq_range',
        ← List.range'_append_1, Nat.zero_add]
    rw [all, ← List.append_assoc]
    exact h.parted.append_right _
  kept_eq := by
    refine List.rel_append h.kept_eq (List.forall₂_iff_get.mpr ⟨?_, ?_⟩)
    · rw [← h.queue_eq, List.length_range', List.length_drop]
    · intro i inside inside'
      obtain rfl := h.queue_eq
      rw [List.get_eq_getElem, List.get_eq_getElem, List.getElem_range', Nat.one_mul,
        List.getElem_drop]
      exact List.getElem?_eq_getElem _
  each p member := by
    obtain ⟨own, cancelled_iff, empty⟩ := h.each p member
    have below := h.lt member
    refine ⟨own, ?_, empty⟩
    rw [cancelled_iff, more]
    exact ⟨.inl, fun either => either.resolve_right fun now => Nat.not_le.mpr below now.2⟩
  in_order := h.in_order
  kept_withdrawn place member := by
    rw [more]
    rcases List.mem_append.mp member with before | now
    · exact .inl (h.kept_withdrawn place before)
    · rw [List.mem_range'_1, Nat.add_sub_cancel' h.gone_le] at now
      exact .inr ⟨now.2, now.1⟩
  withdrawn_lt place h' := by
    rcases (more place).mp h' with before | now
    · exact (h.withdrawn_lt place before).trans_le h.gone_le
    · exact now.1

theorem handed (h : Places accepted withdrawn returns gone kept queue cancelled) :
    ∀ p ∈ kept.zip (cancelled.map cancelledCompletion),
      p.2.status = .cancelled ∧ Answered accepted withdrawn p := by
  intro p member
  rw [List.zip_map_right] at member
  obtain ⟨⟨place, r⟩, pair, rfl⟩ := List.mem_map.mp member
  have withdrawn := h.kept_withdrawn place (List.of_mem_zip pair).1
  exact ⟨rfl, ⟨r, List.forall₂_zip h.kept_eq pair, rfl, rfl⟩, iff_of_true rfl withdrawn, fun _ => rfl⟩

/-- Whatever is kept as cancelled is handed back in one wait. -/
theorem retrieve (h : Places accepted withdrawn returns gone kept queue cancelled) :
    Places accepted withdrawn (returns ++ kept.zip (cancelled.map cancelledCompletion)) gone []
        queue [] ∧
      timely (returns ++ kept.zip (cancelled.map cancelledCompletion)) = timely returns := by
  have same : timely (returns ++ kept.zip (cancelled.map cancelledCompletion)) = timely returns := by
    rw [timely_append, timely_cancelled fun p member => (h.handed p member).1, List.append_nil]
  have length : kept.length ≤ (cancelled.map cancelledCompletion).length := by
    rw [List.length_map]
    exact h.kept_eq.length_eq.le
  refine ⟨?_, same⟩
  exact {
    queue_eq := h.queue_eq
    gone_le := h.gone_le
    parted := by
      rw [List.map_append, List.map_fst_zip length, List.append_nil]
      exact h.parted
    kept_eq := .nil
    each := List.forall_mem_append.mpr ⟨h.each, fun p member => (h.handed p member).2⟩
    in_order := by
      rw [same]
      exact h.in_order
    kept_withdrawn := nofun
    withdrawn_lt := h.withdrawn_lt }

theorem front {r : Request}
    (h : Places accepted withdrawn returns gone kept (r :: queue) cancelled) :
    accepted[gone]? = some r := by
  have head : (accepted.drop gone)[0]? = some r := by
    rw [h.queue_eq]
    rfl
  rwa [List.getElem?_drop] at head

theorem serve {r : Request} {c : Completion}
    (h : Places accepted withdrawn returns gone kept (r :: queue) cancelled)
    (slot : c.slot = r.slot) (buffer : c.buffer.length = r.buffer.length)
    (status : c.status ≠ .cancelled) :
    Places accepted withdrawn (returns ++ [(gone, c)]) (gone + 1) kept queue cancelled where
  queue_eq := by rw [← List.drop_drop, h.queue_eq, List.drop_one, List.tail_cons]
  gone_le := (List.getElem?_eq_some_iff.mp h.front).1
  parted := by
    rw [List.map_append, List.append_assoc, List.range_succ]
    refine (List.perm_append_comm.append_left _).trans ?_
    rw [← List.append_assoc]
    exact h.parted.append_right _
  kept_eq := h.kept_eq
  each := by
    have outside : ¬ withdrawn gone := fun here => Nat.lt_irrefl _ (h.withdrawn_lt gone here)
    rw [List.forall_mem_append, List.forall_mem_singleton]
    exact ⟨h.each, ⟨r, h.front, slot, buffer⟩, iff_of_false status outside, fun now => absurd now status⟩
  in_order := by
    rw [timely_append, timely_served status, List.map_append, List.pairwise_append]
    refine ⟨h.in_order, List.pairwise_singleton _ _, ?_⟩
    intro place member place' last
    obtain ⟨p, timely, rfl⟩ := List.mem_map.mp member
    rw [List.mem_singleton.mp last]
    exact h.lt (List.mem_of_mem_filter timely)
  kept_withdrawn := h.kept_withdrawn
  withdrawn_lt place h' := Nat.lt_succ_of_lt (h.withdrawn_lt place h')

/-- The places below `gone`, in any order, are those of the requests that have left the queue. -/
theorem conserved (h : Places accepted withdrawn returns gone kept queue cancelled) :
    accepted.Perm ((returns.map Prod.fst).filterMap (accepted[·]?) ++ (cancelled ++ queue)) := by
  have left (n : Nat) : (List.range n).filterMap (accepted[·]?) = accepted.take n := by
    induction n with
    | zero => rfl
    | succ n ih =>
        rw [List.range_succ, List.filterMap_append, ih, List.take_add_one]
        cases h : accepted[n]? <;> simp [h]
  have withheld : kept.filterMap (accepted[·]?) = cancelled := filterMap_eq_of_forall₂ h.kept_eq
  have parted := h.parted.filterMap (accepted[·]?)
  rw [List.filterMap_append, withheld, left] at parted
  have whole := (parted.append_right queue).symm
  rw [← h.queue_eq, List.take_append_drop, h.queue_eq, List.append_assoc] at whole
  exact whole

end Places

namespace Results

variable {served : List (Nat × Completion)} {completed : Nat}

theorem submit (h : Results config accepted served completed) (r : Request) :
    Results config (accepted ++ [r]) served completed where
  completed_eq := h.completed_eq
  within := h.within
  outcome k p found := by
    obtain ⟨own, at_place, outcome⟩ := h.outcome k p found
    exact ⟨own, getElem?_of_append [r] at_place, outcome⟩

theorem serve {place : Nat} {r : Request} {c : Completion}
    (h : Results config accepted served completed) (at_place : accepted[place]? = some r)
    (outcome : Outcome config completed r c)
    (running : ∀ n, config.stallAfter = some n → completed < n) :
    Results config accepted (served ++ [(place, c)]) (completed + 1) where
  completed_eq := by rw [List.length_append, ← h.completed_eq, List.length_singleton]
  within := running
  outcome k p found := by
    rcases Nat.lt_or_ge k served.length with before | now
    · rw [List.getElem?_append_left before] at found
      exact h.outcome k p found
    · rw [List.getElem?_append_right now, List.getElem?_singleton] at found
      split at found
      · rename_i last
        have last : k = completed := h.completed_eq ▸ Nat.le_antisymm (Nat.le_of_sub_eq_zero last) now
        cases found
        exact ⟨r, at_place, last ▸ outcome⟩
      · cases found

end Results

end

/-- What holds of a peripheral that has accepted these requests and made these returns. -/
structure Ledger (config : Config) (accepted : List Request) (withdrawn : Nat → Prop)
    (returns : List (Nat × Completion)) (f : Fifo) : Prop where
  config_eq : f.config = config
  fits : ∀ r ∈ accepted, r.length ≤ r.buffer.length
  places : ∃ gone kept,
    Places accepted withdrawn returns gone kept f.queue.toList f.cancelled
  results : Results config accepted (timely returns) f.completed

section

variable {config : Config} {accepted : List Request} {withdrawn : Nat → Prop}
  {returns : List (Nat × Completion)} {f g : Fifo} {answers : List (Request × Completion)}

theorem completed_lt (running : f.isStalled = false) (n : Nat)
    (stall : f.config.stallAfter = some n) : f.completed < n := by
  rw [isStalled, stall, Option.any_some, decide_eq_false_iff_not] at running
  exact Nat.lt_of_not_le running

theorem Ledger.accept (h : Ledger config accepted withdrawn returns f) {r : Request}
    (fits : r.length ≤ r.buffer.length) :
    Ledger config (accepted ++ [r]) withdrawn returns { f with queue := f.queue.push r } := by
  obtain ⟨config_eq, all_fit, ⟨gone, kept, places⟩, results⟩ := h
  refine ⟨config_eq, ?_, ⟨gone, kept, ?_⟩, results.submit r⟩
  · rw [List.forall_mem_append, List.forall_mem_singleton]
    exact ⟨all_fit, fits⟩
  · rw [Queue.toList_push]
    exact places.submit r

theorem Ledger.cancel {withdrawn' : Nat → Prop} (h : Ledger config accepted withdrawn returns f)
    (more : ∀ place, withdrawn' place ↔ withdrawn place ∨
      place < accepted.length ∧ accepted.length ≤ place + f.queue.length) :
    Ledger config accepted withdrawn' returns f.cancelAll := by
  obtain ⟨config_eq, all_fit, ⟨gone, kept, places⟩, results⟩ := h
  have queued := congrArg List.length places.queue_eq
  rw [List.length_drop, Queue.length_toList] at queued
  refine ⟨config_eq, all_fit, ⟨_, _, places.cancel fun place => (more place).trans ?_⟩, results⟩
  exact or_congr_right (and_congr_right fun inside => by omega)

theorem Ledger.retrieve (h : Ledger config accepted withdrawn returns f) :
    ∃ more, more.map Prod.snd = f.cancelled.map cancelledCompletion ∧
      Ledger config accepted withdrawn (returns ++ more) { f with cancelled := [] } := by
  obtain ⟨config_eq, all_fit, ⟨gone, kept, places⟩, results⟩ := h
  obtain ⟨retrieved, same⟩ := places.retrieve
  refine ⟨_, List.map_snd_zip ?_, config_eq, all_fit, ⟨gone, [], retrieved⟩, ?_⟩
  · rw [List.length_map]
    exact places.kept_eq.length_eq.ge
  · rw [same]
    exact results

theorem Ledger.serve {r : Request} {queue : Queue Request}
    (h : Ledger config accepted withdrawn returns f)
    (wide : Packet.statusLength < config.packetSize) (front : f.queue.toList = r :: queue.toList)
    (running : f.isStalled = false) :
    ∃ place, Ledger config accepted withdrawn
      (returns ++ [(place, (complete r { f with queue }).1)]) (complete r { f with queue }).2 := by
  obtain ⟨rfl, fits, ⟨gone, kept, places⟩, results⟩ := h
  obtain ⟨source, received, after⟩ := complete_state r { f with queue }
  rw [front] at places
  have outcome := complete_outcome r { f with queue }
  have member : r ∈ accepted := List.mem_of_getElem? places.front
  have buffer := complete_buffer (f := { f with queue }) wide (fits r member)
  refine ⟨gone, ?_⟩
  rw [after]
  refine ⟨rfl, fits, ⟨gone + 1, kept, ?_⟩, ?_⟩
  · exact places.serve (complete_slot r _) buffer outcome.not_cancelled
  · rw [timely_append, timely_served outcome.not_cancelled]
    exact results.serve places.front outcome (completed_lt running)

theorem Ledger.serves (h : Ledger config accepted withdrawn returns f)
    (wide : Packet.statusLength < config.packetSize) (serves : f.Serves answers g) :
    ∃ more, more.map Prod.snd = answers.map Prod.snd ∧
      Ledger config accepted withdrawn (returns ++ more) g := by
  induction serves generalizing returns with
  | done => exact ⟨[], rfl, (List.append_nil returns).symm ▸ h⟩
  | @next f g r queue answers front running rest ih =>
      obtain ⟨place, served⟩ := h.serve wide front running
      obtain ⟨more, same, ledger⟩ := ih served
      refine ⟨(place, (complete r { f with queue }).1) :: more, congrArg (_ :: ·) same, ?_⟩
      rw [List.append_cons]
      exact ledger

/-- One call. Only a cancellation withdraws anything, and all that is queued. -/
theorem Ledger.called {call : Operation} {taken : List Request} {withdrawn' : Nat → Prop}
    (h : Ledger config accepted withdrawn returns f)
    (wide : Packet.statusLength < config.packetSize) (called : f.Called call taken answers g)
    (withdraws : ∀ place, withdrawn' place ↔ withdrawn place ∨
      call = .cancelAll ∧ place < accepted.length ∧ accepted.length ≤ place + f.queue.length) :
    ∃ more, more.map Prod.snd = answers.map Prod.snd ∧
      Ledger config (accepted ++ taken) withdrawn' (returns ++ more) g := by
  have kept (other : call ≠ .cancelAll) : withdrawn' = withdrawn := by
    funext place
    rw [eq_iff_iff, withdraws]
    exact or_iff_left fun now => other now.1
  -- Most calls hand nothing back.
  have nothing {accepted : List Request} {withdrawn : Nat → Prop} {g : Fifo}
      (h : Ledger config accepted withdrawn returns g) :
      ∃ more : List (Nat × Completion), more.map Prod.snd = [] ∧
        Ledger config accepted withdrawn (returns ++ more) g :=
    ⟨[], rfl, (List.append_nil returns).symm ▸ h⟩
  cases called with
  | refused r long =>
      rw [kept nofun, List.append_nil]
      exact nothing h
  | accepted r fits =>
      rw [kept nofun]
      exact nothing (h.accept fits)
  | cancelled =>
      rw [List.append_nil]
      apply nothing (h.cancel _)
      intro place
      rw [withdraws, eq_self, true_and]
  | waited milliseconds waited =>
      rw [kept nofun, List.append_nil]
      cases waited with
      | retrieved some =>
          rw [List.map_map]
          exact h.retrieve
      | served none streaming serves within => exact h.serves wide serves
      | idle none resting => exact nothing h
  | moded mode =>
      rw [kept nofun, List.append_nil]
      exact nothing ⟨h.config_eq, h.fits, h.places, h.results⟩
  | purged =>
      rw [kept nofun, List.append_nil]
      exact nothing ⟨h.config_eq, h.fits, h.places, h.results⟩

end

theorem withdrawn_concat (calls : List Operation) (call : Operation) (f : Fifo) (place : Nat) :
    Withdrawn (calls ++ [call]) f place ↔
      Withdrawn calls f place ∨ call = .cancelAll ∧ Queued calls f place := by
  constructor
  · rintro ⟨before, front, queued⟩
    rcases List.prefix_concat_iff.mp front with whole | earlier
    · obtain ⟨rfl, last⟩ := List.append_inj' whole rfl
      exact .inr ⟨(List.singleton_inj.mp last).symm, queued⟩
    · exact .inl ⟨before, earlier, queued⟩
  · rintro (⟨before, front, queued⟩ | ⟨rfl, queued⟩)
    · exact ⟨before, front.trans (List.prefix_append _ _), queued⟩
    · exact ⟨calls, List.prefix_rfl, queued⟩

theorem ledger_after {config : Config} {f : Fifo} (fresh : ofConfig config = .ok f)
    (calls : List Operation) :
    ∃ returns, returns.map Prod.snd = along Operation.completions calls f ∧
      Ledger config (along Operation.accepted calls f) (Withdrawn calls f) returns
        (after calls f) := by
  obtain ⟨wide, rfl⟩ := ofConfig_ok fresh
  -- The last call is made where those before it have led, so it is the one to take off.
  induction calls using List.reverseRecOn with
  | nil =>
      refine ⟨[], rfl, rfl, nofun, ⟨0, [], .fresh ?_⟩, rfl, fun n _ => Nat.zero_le n, nofun⟩
      rintro place ⟨before, front, -⟩
      simp at front
  | append_singleton calls call ih =>
      obtain ⟨returns, same, ledger⟩ := ih
      obtain ⟨answers, called, completions⟩ := call.called (after calls _)
      obtain ⟨more, others, onward⟩ := ledger.called wide called (withdrawn_concat calls call _)
      rw [along_concat, along_concat, after_concat]
      refine ⟨returns ++ more, ?_, onward⟩
      rw [List.map_append, same, others, completions]

/-- The account of a history: what became of each accepted request, and how the next call answers. As
any history has one, its last four fields speak of every submission and every wait. -/
structure Account (config : Config) (f : Fifo) (calls : List Operation)
    (returns : List (Nat × Completion)) : Prop where
  completions_eq : returns.map Prod.snd = along Operation.completions calls f
  once : (returns.map Prod.fst).Nodup
  each : ∀ p ∈ returns, Answered (along Operation.accepted calls f) (Withdrawn calls f) p
  /-- The accepted requests are those returned and those pending. -/
  conserved : (along Operation.accepted calls f).Perm
    ((returns.map Prod.fst).filterMap ((along Operation.accepted calls f)[·]?) ++ (after calls f).held)
  pending_eq : (after calls f).pending = (after calls f).held.length
  queue_latest : (after calls f).queue.toList <:+ along Operation.accepted calls f
  in_order : ((timely returns).map Prod.fst).Pairwise (· < ·)
  /-- What was withdrawn and has not come back comes back with the next wait. -/
  withdrawn_next : ∀ place, Withdrawn calls f place → place ∈ returns.map Prod.fst ∨
    ∃ r, (along Operation.accepted calls f)[place]? = some r ∧ ∀ milliseconds,
      cancelledCompletion r ∈ Operation.completions (.wait milliseconds) (after calls f)
  results : Results config (along Operation.accepted calls f) (timely returns)
    (after calls f).completed
  refused : ∀ r : Request, r.buffer.length < r.length →
    transport.submit r (after calls f) = (.error (refusal r), after calls f)
  taken : ∀ r : Request, r.length ≤ r.buffer.length →
    (transport.submit r (after calls f)).1 = .ok ()
  unmixed : ∀ milliseconds,
    (∀ c ∈ Operation.completions (.wait milliseconds) (after calls f), c.status = .cancelled) ∨
      ∀ c ∈ Operation.completions (.wait milliseconds) (after calls f), c.status ≠ .cancelled
  /-- In any other mode than the streaming one, and beyond a batch, only cancelled ones come back. -/
  batched : ∀ milliseconds,
    (∃ c ∈ Operation.completions (.wait milliseconds) (after calls f), c.status ≠ .cancelled) →
      (after calls f).mode = .syncFifo ∧ ∀ n, config.batch = some n →
        (Operation.completions (.wait milliseconds) (after calls f)).length ≤ n

/-- Requests that are served do not count as cancelled. -/
theorem Serves.timely {f g : Fifo} {answers : List (Request × Completion)}
    (h : f.Serves answers g) : ∀ c ∈ answers.map Prod.snd, c.status ≠ .cancelled := by
  induction h with
  | done => nofun
  | next front running rest ih =>
      rw [List.map_cons, List.forall_mem_cons]
      exact ⟨(complete_outcome _ _).not_cancelled, ih⟩

theorem Waited.uniform {f g : Fifo} {answers : List (Request × Completion)}
    (h : f.Waited answers g) :
    (∀ c ∈ answers.map Prod.snd, c.status = .cancelled) ∨
      (∀ c ∈ answers.map Prod.snd, c.status ≠ .cancelled) ∧ f.mode = .syncFifo ∧
        ∀ n, f.config.batch = some n → (answers.map Prod.snd).length ≤ n := by
  cases h with
  | retrieved some =>
      refine .inl ?_
      rw [List.map_map, List.forall_mem_map]
      exact fun r _ => rfl
  | served none streaming serves within =>
      rw [List.length_map]
      exact .inr ⟨serves.timely, streaming, within⟩
  | idle none resting => exact .inl nofun

theorem Waited.retrieves {f g : Fifo} {answers : List (Request × Completion)}
    (h : f.Waited answers g) {r : Request} (member : r ∈ f.cancelled) :
    cancelledCompletion r ∈ answers.map Prod.snd := by
  cases h with
  | retrieved some =>
      rw [List.map_map]
      exact List.mem_map_of_mem member
  | served none streaming serves within => cases none ▸ member
  | idle none resting => cases none ▸ member

/-- Every accepted request comes back at most once and is never lost, those that are served come back
in the order in which they were accepted, and the set faults strike by count. -/
theorem accepted_requests_accounted {config : Config} {f : Fifo}
    (fresh : ofConfig config = .ok f) (calls : List Operation) :
    ∃ returns, Account config f calls returns := by
  obtain ⟨returns, same, ledger⟩ := ledger_after fresh calls
  obtain ⟨config_eq, -, ⟨gone, kept, places⟩, results⟩ := ledger
  have parted := places.parted.nodup_iff.mpr List.nodup_range
  have waits (milliseconds : Nat) : ∃ answers g, (after calls f).Waited answers g ∧
      answers.map Prod.snd = Operation.completions (.wait milliseconds) (after calls f) := by
    obtain ⟨answers, waited, back⟩ := (after calls f).wait_waited
    exact ⟨answers, _, waited, back⟩
  refine ⟨returns, ?_⟩
  exact {
    completions_eq := same
    once := parted.of_append_left
    each := places.each
    conserved := places.conserved
    pending_eq := pending_eq (after calls f)
    queue_latest := places.queue_eq ▸ List.drop_suffix gone _
    in_order := places.in_order
    withdrawn_next := by
      intro place withdrawn
      rcases places.returned_or_kept (places.withdrawn_lt place withdrawn) with returned | kept
      · exact .inl returned
      · obtain ⟨r, member, at_place⟩ := kept
        refine .inr ⟨r, at_place, ?_⟩
        intro milliseconds
        obtain ⟨answers, g, waited, back⟩ := waits milliseconds
        exact back ▸ waited.retrieves member
    results := results
    refused := fun r long => submit_long long (after calls f)
    taken := fun r fits => congrArg Prod.fst (submit_fits fits (after calls f))
    unmixed := by
      intro milliseconds
      obtain ⟨answers, g, waited, back⟩ := waits milliseconds
      rw [← back]
      exact waited.uniform.imp id And.left
    batched := by
      rintro milliseconds ⟨c, member, status⟩
      obtain ⟨answers, g, waited, back⟩ := waits milliseconds
      rw [← back] at member ⊢
      rw [← config_eq]
      rcases waited.uniform with cancelled | ⟨-, streaming, within⟩
      · exact absurd (cancelled c member) status
      · exact ⟨streaming, within⟩ }

/-- A peripheral whose second transfer fails and whose fourth never completes. -/
theorem stalled_batches_accounted :
    ∃ (config : Config) (f : Fifo) (calls : List Operation),
      ofConfig config = .ok f ∧
        (along Operation.completions calls f).map
            (fun c => (c.slot, c.buffer.length, c.length, c.status)) =
          [(0, 4, 4, .completed), (1, 3, 0, .stall), (2, 4, 0, .stall), (3, 1, 0, .cancelled)] ∧
        ∃ returns, Account config f calls returns := by
  let request (slot : Nat) (direction : Direction) (size length : Nat) : Operation :=
    .submit ⟨slot, direction, List.replicate size 7, length⟩
  let calls : List Operation :=
    [request 0 .read 4 4, request 9 .read 2 3, .wait 1, .setMode .syncFifo, request 1 .write 3 2,
      request 2 .read 4 1, .wait 1, request 3 .write 1 0, .wait 1, .wait 1, .cancelAll, .wait 1]
  refine ⟨{ packetSize := 4, faultAfter := some 1, stallAfter := some 3, batch := some 2 }, _, calls,
    rfl, ?_, accepted_requests_accounted rfl calls⟩
  decide +kernel

end BulkStream.Peripheral.Fifo
