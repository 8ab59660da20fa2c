import BulkStream.Proofs.Hosting
import BulkStream.Proofs.Turns

/-!
Who is left alone, and from when on. Once a stop is requested the consumer is not called any more,
and neither is it once an error is recorded or the session drains. An answer to stop ends what it was
about: a slot, where payload or a buffer was answered so, and every slot, where a sample was.
-/
namespace BulkStream.Session

variable {σ : Type} {env : Surroundings σ} {config : Config} {state : State} {world : σ}

namespace Action

/-- The slot whose payload or buffer is answered with a stop. -/
def stopped? : Action → Option Nat
  | .payload slot _ .stop | .fill slot _ _ .stop => some slot
  | _ => none

/-- A sample that is answered with a stop. -/
def stopsAll : Action → Bool
  | .progress _ .stop => true
  | _ => false

/-- An answer to stop that the other call would go against. -/
def Ends (answered other : Action) : Prop :=
  ∃ slot, other.slot? = some slot ∧ (answered.stopped? = some slot ∨ answered.stopsAll = true)

theorem isPlain_quiet {a : Action} (h : a.isPlain = true) :
    a.slot? = none ∧ a.isAsked = false ∧ a.stopsAll = false := by
  cases a with
  | submit | payload | fill | progress => cases h
  | setMode | purge | wait | cancelAll | log => exact ⟨rfl, rfl, rfl⟩

theorem slot?_of_stopped? {a : Action} {slot : Nat} (h : a.stopped? = some slot) :
    a.slot? = some slot := by
  cases a with
  | payload _ _ flow | fill _ _ _ flow =>
      cases flow with
      | stop => exact h
      | proceed => cases h
  | submit | progress | setMode | purge | wait | cancelAll | log => cases h

theorem slot?_of_stopsAll {a : Action} (h : a.stopsAll = true) : a.slot? = none := by
  cases a with
  | progress snapshot flow => rfl
  | submit | payload | fill | setMode | purge | wait | cancelAll | log => cases h

theorem not_ends_of_still {a b : Action} (stopped : a.stopped? = none)
    (stopsAll : a.stopsAll = false) : ¬ a.Ends b := by
  rintro ⟨slot, -, ended | ended⟩
  · rw [stopped] at ended
    cases ended
  · rw [stopsAll] at ended
    cases ended

theorem not_ends_of_no_slot {a b : Action} (h : b.slot? = none) : ¬ a.Ends b := by
  rintro ⟨slot, about, -⟩
  rw [h] at about
  cases about

end Action

namespace Served

variable {slot : Nat} {flow : Flow} {said : List Action}

theorem own (h : Served slot flow said) :
    ∀ a ∈ said, a.slot? = some slot ∧ a.stopsAll = false := by
  induction h with
  | unasked | withheld => exact fun a member => nomatch member
  | stopped span => exact List.forall_mem_singleton.mpr ⟨rfl, rfl⟩
  | filled offered left flow => exact List.forall_mem_singleton.mpr ⟨rfl, rfl⟩
  | passed span _ ih => exact List.forall_mem_cons.mpr ⟨⟨rfl, rfl⟩, ih⟩

/-- Only the last thing that the consumer is asked may be answered with a stop. -/
theorem stops (h : Served slot flow said) :
    said.Pairwise (fun a _ => a.stopped? = none) ∧
      (flow = .proceed → ∀ a ∈ said, a.stopped? = none) := by
  induction h with
  | unasked | withheld => exact ⟨.nil, fun _ a member => nomatch member⟩
  | stopped span => exact ⟨List.pairwise_singleton _ _, fun other => nomatch other⟩
  | filled offered left flow =>
      refine ⟨List.pairwise_singleton _ _, ?_⟩
      rintro rfl
      exact List.forall_mem_singleton.mpr rfl
  | passed span _ ih =>
      refine ⟨List.pairwise_cons.mpr ⟨fun _ _ => rfl, ih.1⟩, ?_⟩
      exact fun proceeds => List.forall_mem_cons.mpr ⟨rfl, ih.2 proceeds⟩

end Served

namespace Stream

variable {c : Completion} {s t : Stream σ}

theorem Handled.stopAll_eq (h : Handled env c s t) : t.stopAll = s.stopAll := by
  cases h with
  | stray | failed | dropped => rfl
  | stopped own status running buffer t consumed beside
  | resubmitted own status running buffer t consumed beside accepted
  | refused own status running buffer t consumed beside source answer =>
      cases beside
      rfl

theorem fail_isSome (s : Stream σ) (error : StreamError) : (s.fail error).fatal.isSome = true := by
  rw [fail, Option.isSome_or]
  exact Bool.or_true _

theorem Handled.fatal_lasts (h : Handled env c s t) (failed : s.fatal.isSome = true) :
    t.fatal.isSome = true := by
  cases h with
  | stray | failed | refused => exact fail_isSome _ _
  | dropped => exact failed
  | stopped own status running buffer t consumed beside
  | resubmitted own status running buffer t consumed beside accepted =>
      cases beside
      exact failed

theorem released_put {p : Pool} {index slot : Nat} {value : Slot}
    (released : p.slots[slot]? = some .released)
    (other : p.slots[index]? ≠ some .released ∨ value = .released) :
    (p.put index value).slots[slot]? = some .released := by
  by_cases same : index = slot
  · subst same
    rcases other with live | rfl
    · exact absurd released live
    · exact Pool.put_found released .released
  · rw [Pool.put_slots, Array.getElem?_setIfInBounds_ne same]
    exact released

theorem Handled.released_lasts {slot : Nat} (h : Handled env c s t)
    (released : s.pool.slots[slot]? = some .released) :
    t.pool.slots[slot]? = some .released := by
  have lent (own : s.pool.slots[c.slot]? = some .inFlight) :
      (s.pool.put c.slot .lent).slots[slot]? = some .released :=
    released_put released (.inl (by simp [own]))
  have other (own : s.pool.slots[c.slot]? = some .inFlight) :
      (s.pool.put c.slot .lent).slots[c.slot]? ≠ some .released := by
    rw [Pool.put_found own]
    simp
  cases h with
  | stray stray => exact released
  | failed own status => exact released_put released (.inr rfl)
  | dropped own status quitting => exact released_put (lent own) (.inr rfl)
  | stopped own status running buffer t consumed beside =>
      cases beside
      exact released_put (lent own) (.inr rfl)
  | resubmitted own status running buffer t consumed beside accepted =>
      cases beside
      exact released_put (lent own) (.inl (other own))
  | refused own status running buffer t consumed beside source answer =>
      cases beside
      exact released_put (lent own) (.inr rfl)

end Stream

/-- From here on a session only drains. -/
def Phase.drains : Phase → Bool
  | .closing | .draining _ _ | .collecting _ _ _ _ _ | .settling _ => true
  | .priming _ | .cycling | .handling _ => false

namespace Run

/-- What one call of a step is about. -/
inductive Part (run next : Run σ) (a : Action) : Prop
  | quiet (slot : a.slot? = none) (unasked : a.isAsked = false) (still : a.stopsAll = false)
  | served (slot : Nat) (about : a.slot? = some slot) (serving : run.Serving)
      (live : ¬ run.Released slot) (heeded : a.stopped? = some slot → next.Released slot)
  | sampled (slot : a.slot? = none) (sampling : run.Sampling)
      (heeded : a.stopsAll = true → next.StopsAll)

theorem Part.of_plain {run next : Run σ} {a : Action} {actions : List Action}
    (plain : actions.all Action.isPlain = true) (member : a ∈ actions) : Part run next a := by
  obtain ⟨slot, unasked, still⟩ := Action.isPlain_quiet (List.all_eq_true.mp plain a member)
  exact .quiet slot unasked still

namespace Turn

variable {run next : Run σ} {actions : List Action}

theorem part (h : Turn run next actions) : ∀ a ∈ actions, Part run next a := by
  intro a member
  cases h with
  | plain plain => exact .of_plain plain member
  | submitted slot request result serving live served own plain =>
      rcases List.mem_append.mp member with asked | later
      · refine .served slot (served.own a asked).1 serving live ?_
        rw [served.stops.2 rfl a asked]
        exact fun impossible => nomatch impossible
      · rcases List.mem_cons.mp later with rfl | rest
        · exact .served slot (congrArg some own) serving live fun impossible => nomatch impossible
        · exact .of_plain plain rest
  | stopped slot serving live served released plain =>
      rcases List.mem_append.mp member with asked | rest
      · exact .served slot (served.own a asked).1 serving live fun _ => released
      · exact .of_plain plain rest
  | sampled bytes rate snapshot flow sampling heeded =>
      rcases List.mem_pair.mp member with rfl | rfl
      · exact .quiet rfl rfl rfl
      · refine .sampled rfl sampling fun stops => heeded ?_
        cases flow with
        | stop => rfl
        | proceed => cases stops
  | finished collected s before after milliseconds settling plain =>
      rcases List.mem_append.mp member with early | later
      · exact .of_plain plain (List.mem_append_left after early)
      · rcases List.mem_cons.mp later with rfl | rest
        · exact .quiet rfl rfl rfl
        · exact .of_plain plain (List.mem_append_right before rest)

/-- No step goes on with what was answered with a stop in the same step. -/
theorem orderly (h : Turn run next actions) : actions.Pairwise fun a b => ¬ a.Ends b := by
  have unserved (rest : List Action) (quiet : ∀ a ∈ rest, a.slot? = none) :
      rest.Pairwise fun a b => ¬ a.Ends b :=
    List.pairwise_of_forall_mem_list fun _ _ b member => Action.not_ends_of_no_slot (quiet b member)
  have plainly {rest : List Action} (plain : rest.all Action.isPlain = true) :
      ∀ a ∈ rest, a.slot? = none :=
    fun a member => (Action.isPlain_quiet (List.all_eq_true.mp plain a member)).1
  cases h with
  | plain plain => exact unserved _ (plainly plain)
  | submitted slot request result serving live served own plain =>
      refine List.pairwise_append.mpr ⟨?_, ?_, ?_⟩
      · exact List.pairwise_of_forall_mem_list fun a asked _ _ =>
          Action.not_ends_of_still (served.stops.2 rfl a asked) (served.own a asked).2
      · refine List.pairwise_cons.mpr ⟨fun _ _ => Action.not_ends_of_still rfl rfl, ?_⟩
        exact unserved _ (plainly plain)
      · exact fun a asked _ _ =>
          Action.not_ends_of_still (served.stops.2 rfl a asked) (served.own a asked).2
  | stopped slot serving live served released plain =>
      refine List.pairwise_append.mpr ⟨?_, unserved _ (plainly plain), ?_⟩
      · exact served.stops.1.imp_of_mem fun asked _ still =>
          Action.not_ends_of_still still (served.own _ asked).2
      · exact fun _ _ b rest => Action.not_ends_of_no_slot (plainly plain b rest)
  | sampled bytes rate snapshot flow sampling heeded =>
      refine unserved _ fun a member => ?_
      rcases List.mem_pair.mp member with rfl | rfl <;> rfl
  | finished collected s before after milliseconds settling plain =>
      refine unserved _ fun a member => ?_
      rcases List.mem_append.mp member with early | later
      · exact plainly plain a (List.mem_append_left after early)
      · rcases List.mem_cons.mp later with rfl | rest
        · rfl
        · exact plainly plain a (List.mem_append_right before rest)

end Turn

/-- Until data flows there is no error and no stop to heed. -/
def Unspoiled : Run σ → Prop
  | .active (.priming _) s => s.fatal = none ∧ s.stopAll = false
  | _ => True

/-- An error is recorded or the session drains, if it has not ended. -/
def Decided : Run σ → Prop
  | .active phase s => s.fatal.isSome = true ∨ phase.drains = true
  | .ended _ _ => True

/-- Every slot is to be released, or is about to be, as a cycle begins with a stop requested. -/
def Quitting (env : Surroundings σ) : Run σ → Prop
  | .active phase s => s.stopAll = true ∨ phase = .cycling ∧ s.link.stopRequested env = true
  | .ended _ _ => True

variable {run next : Run σ}

theorem Serving.open (env : Surroundings σ) (h : run.Serving) (unspoiled : run.Unspoiled) :
    ¬ run.Decided ∧ ¬ run.Quitting env ∧ ¬ run.StopsAll := by
  cases run with
  | ended result l => exact h.elim
  | active phase s =>
      cases phase with
      | priming index =>
          obtain ⟨fatal, stopAll⟩ := unspoiled
          simp [Decided, Quitting, StopsAll, Phase.drains, fatal, stopAll]
      | handling completions =>
          obtain ⟨fatal, stopAll⟩ := Bool.or_eq_false_iff.mp h
          simp [Decided, Quitting, StopsAll, Phase.drains, fatal, stopAll]
      | cycling | closing | draining | collecting | settling => exact h.elim

theorem Sampling.undecided (h : run.Sampling) : ¬ run.Decided := by
  cases run with
  | ended result l => exact h.elim
  | active phase s =>
      cases phase with
      | handling completions =>
          have fatal : s.fatal = none := h
          simp [Decided, Phase.drains, fatal]
      | priming | cycling | closing | draining | collecting | settling => exact h.elim

theorem Unspoiled.stepped (h : run.Unspoiled) (stepped : Stepped env config run next) :
    next.Unspoiled := by
  cases stepped with
  | queued | spared => exact h
  | concluded s again t concluded => cases again <;> trivial
  | emptyHanded answer interrupted before collected s =>
      rcases afterWait_cases answer interrupted before collected with ⟨again, next⟩ | next <;>
        rw [next] <;> trivial
  | settled => exact finish_of_ended (fun _ _ => trivial) _
  | ended | refused | denied | entered | gathered | handled | emptied | cancelled | cleared | waited
  | collected | ignored => trivial

theorem Decided.stepped (h : run.Decided) (stepped : Stepped env config run next) :
    next.Decided := by
  cases stepped with
  | queued | spared | entered =>
      rcases h with failed | drains
      · exact .inl failed
      · cases drains
  | gathered s failure completions l awaited =>
      rcases h with failed | drains
      · refine .inl ?_
        rw [Stream.roused, Option.isSome_or, failed, Bool.true_or]
      · cases drains
  | handled c completions s t handled =>
      rcases h with failed | drains
      · exact .inl (handled.fatal_lasts failed)
      · cases drains
  | concluded s again t concluded =>
      cases concluded with
      | finished | stalled => exact .inr rfl
      | again running busy t sampled beside =>
          rcases h with failed | drains
          · refine .inl ?_
            rw [beside.fatal]
            exact failed
          · cases drains
  | emptyHanded answer interrupted before collected s =>
      rcases afterWait_cases answer interrupted before collected with ⟨again, next⟩ | next <;>
        rw [next] <;> exact .inr rfl
  | settled => exact finish_of_ended (fun _ _ => trivial) _
  | ended => trivial
  | refused | denied | emptied | cancelled | cleared | waited | collected | ignored => exact .inr rfl

theorem Quitting.of_stopsAll (h : run.StopsAll) : run.Quitting env := by
  cases run with
  | active phase s => exact .inl h
  | ended result l => trivial

theorem StopsAll.stepped (h : run.Quitting env) (stepped : Stepped env config run next) :
    next.StopsAll := by
  cases stepped with
  | gathered s failure completions l awaited =>
      rcases h with stopping | ⟨-, raised⟩
      · exact Bool.or_eq_true_iff.mpr (.inl stopping)
      · exact Bool.or_eq_true_iff.mpr (.inr raised)
  | handled c completions s t handled =>
      rcases h with stopping | ⟨impossible, -⟩
      · exact handled.stopAll_eq.trans stopping
      · cases impossible
  | concluded s again t concluded =>
      rcases h with stopping | ⟨impossible, -⟩
      · cases concluded with
        | finished | stalled => exact stopping
        | again running busy t sampled beside => exact beside.stopAll stopping
      · cases impossible
  | settled => exact finish_of_ended (fun _ _ => trivial) _
  | ended => trivial
  | queued | refused | spared | denied | entered | emptied | cancelled | cleared | waited | collected
  | ignored | emptyHanded =>
      rcases h with stopping | ⟨impossible, -⟩
      · exact stopping
      · cases impossible

theorem released_mapSlots {p : Pool} {slot : Nat} {f : Slot → Slot}
    (released : p.slots[slot]? = some .released) (stays : f .released = .released) :
    (p.mapSlots f).slots[slot]? = some .released := by
  rw [Pool.mapSlots_slots, Array.getElem?_map, released, Option.map_some, stays]

theorem Released.stepped {slot : Nat} (h : run.Released slot)
    (stepped : Stepped env config run next) : next.Released slot := by
  cases stepped with
  | queued index s buffer l inside prepared accepted =>
      exact Stream.released_put h (.inl (prepared.live (.priming index)))
  | refused | spared | collected => exact Stream.released_put h (.inr rfl)
  | handled c completions s t handled => exact handled.released_lasts h
  | concluded s again t concluded =>
      cases concluded with
      | finished | stalled => exact h
      | again running busy t sampled beside =>
          change t.pool.slots[slot]? = some .released
          rw [beside.pool]
          exact h
  | emptied | cancelled => exact released_mapSlots h rfl
  | settled => exact finish_of_ended (fun _ _ => trivial) _
  | ended => trivial
  | denied | entered | gathered | cleared | waited | ignored | emptyHanded => exact h

/-- Every answer to stop has been heeded so far, and the run is in a state to go on so. -/
structure Heeded (run : Run σ) : Prop where
  kept : run.link.transcript.Pairwise fun a b => ¬ a.Ends b
  slots : ∀ a ∈ run.link.transcript, ∀ slot, a.stopped? = some slot → run.Released slot
  all : ∀ a ∈ run.link.transcript, a.stopsAll = true → run.StopsAll

theorem Heeded.started (h : Started env config state world run) : run.Heeded := by
  obtain ⟨actions, course, plain⟩ := h.course
  have same : run.link.transcript = actions := course.transcript_eq.trans (List.nil_append _)
  have quiet (a : Action) (member : a ∈ run.link.transcript) :
      a.slot? = none ∧ a.isAsked = false ∧ a.stopsAll = false :=
    Action.isPlain_quiet (List.all_eq_true.mp plain a (same ▸ member))
  refine ⟨?_, ?_, ?_⟩
  · exact List.pairwise_of_forall_mem_list fun _ _ b member =>
      Action.not_ends_of_no_slot (quiet b member).1
  · intro a member slot stopped
    have about := (quiet a member).1
    rw [Action.slot?_of_stopped? stopped] at about
    cases about
  · intro a member stops
    rw [(quiet a member).2.2] at stops
    cases stops

theorem Heeded.stepped (h : run.Heeded) (unspoiled : run.Unspoiled)
    (stepped : Stepped env config run next) : next.Heeded := by
  obtain ⟨actions, course, turn⟩ := stepped.turn
  have whole : next.link.transcript = run.link.transcript ++ actions := course.transcript_eq
  refine ⟨?_, ?_, ?_⟩
  · rw [whole]
    refine List.pairwise_append.mpr ⟨h.kept, turn.orderly, ?_⟩
    rintro a earlier b later ⟨slot, about, ended⟩
    cases turn.part b later with
    | quiet none | sampled none => rw [none] at about; cases about
    | served own mine serving live heeded =>
        rw [mine] at about
        cases about
        rcases ended with stopped | stops
        · exact live (h.slots a earlier _ stopped)
        · exact (serving.open env unspoiled).2.2 (h.all a earlier stops)
  · intro a member slot stopped
    rw [whole] at member
    rcases List.mem_append.mp member with earlier | later
    · exact (h.slots a earlier slot stopped).stepped stepped
    · have about := Action.slot?_of_stopped? stopped
      cases turn.part a later with
      | quiet none | sampled none => rw [none] at about; cases about
      | served own mine serving live heeded =>
          rw [mine] at about
          cases about
          exact heeded stopped
  · intro a member stops
    rw [whole] at member
    rcases List.mem_append.mp member with earlier | later
    · exact StopsAll.stepped (.of_stopsAll (h.all a earlier stops)) stepped
    · cases turn.part a later with
      | quiet none unasked still => rw [still] at stops; cases stops
      | served own mine => rw [Action.slot?_of_stopsAll stops] at mine; cases mine
      | sampled none sampling heeded => exact heeded stops

section

variable {n : Nat}

theorem heeded_at (come : advance env config n (start env config state world) = .ok run) :
    run.Heeded ∧ run.Unspoiled := by
  refine holds_at (fun run started => ⟨.started started, ?_⟩) ?_ come
  · cases started with
    | opened => exact ⟨rfl, rfl⟩
    | unset | unpurged | narrow | unallocated => trivial
  · rintro n last next - stepped ⟨heeded, unspoiled⟩
    exact ⟨heeded.stepped unspoiled stepped, unspoiled.stepped stepped⟩

/-- What lasts from step to step, and lets none of some calls happen, keeps them from happening from
its first moment on. -/
theorem none_since {D : Run σ → Prop} {watched : Action → Bool}
    (lasts : ∀ run next, Stepped env config run next → D run → D next)
    (none : ∀ run next actions, run.Unspoiled → D run → Turn run next actions →
      ∀ a ∈ actions, watched a = false)
    (come : advance env config n (start env config state world) = .ok run) {m : Nat} (within : m ≤ n)
    {earlier : Run σ} (reached : advance env config m (start env config state world) = .ok earlier)
    (since : D earlier) :
    D run ∧ run.link.transcript.filter watched = earlier.link.transcript.filter watched := by
  induction n generalizing run with
  | zero =>
      cases Nat.le_zero.mp within
      rw [come] at reached
      cases reached
      exact ⟨since, rfl⟩
  | succ n ih =>
      rcases Nat.le_succ_iff.mp within with inside | rfl
      · obtain ⟨last, before, -, stepped⟩ := last_step come
        obtain ⟨still, same⟩ := ih before inside
        obtain ⟨actions, course, turn⟩ := stepped.turn
        refine ⟨lasts last run stepped still, ?_⟩
        have silent : actions.filter watched = [] := List.filter_eq_nil_iff.mpr fun a member =>
          Bool.eq_false_iff.mp (none last run actions (heeded_at before).2 still turn a member)
        rw [course.transcript_eq, List.filter_append, silent, List.append_nil, same]
      · rw [come] at reached
        cases reached
        exact ⟨since, rfl⟩

end

end Run

namespace Link

/-- Payload passed on, buffers filled and submissions. -/
def services (l : Link σ) : List Action := l.transcript.filter fun a => a.slot?.isSome

theorem services_after (l : Link σ) (action : Action) (world : σ) :
    (l.after action world).services = l.services ++ [action].filter fun a => a.slot?.isSome := by
  rw [services, transcript_after, List.filter_append, services]

theorem services_log (env : Surroundings σ) (l : Link σ) (event : Event) :
    (l.log env event).services = l.services :=
  (l.services_after _ _).trans (List.append_nil _)

theorem services_submit (env : Surroundings σ) (l : Link σ) (request : Request) :
    (l.submit env request).2.services =
      l.services ++ [.submit request (l.submit env request).1] := l.services_after _ _

theorem services_after_other (l : Link σ) {action : Action} (world : σ)
    (other : action.slot? = none) : (l.after action world).services = l.services := by
  have none : [action].filter (fun a => a.slot?.isSome) = [] := by simp [other]
  rw [services_after, none, List.append_nil]

theorem Quiet.services_eq {l m : Link σ} (h : l.Quiet env m) : m.services = l.services := by
  induction h with
  | refl => rfl
  | log event _ _ ih => exact (services_log env _ event).trans ih
  | transition state _ ih => exact (services_after_other _ _ rfl).trans ih
  | now _ ih => exact ih
  | progress snapshot _ ih =>
      rw [Link.progress]
      split
      · exact ih
      · exact (services_after_other _ _ rfl).trans ih

theorem services_setMode (env : Surroundings σ) (l : Link σ) (mode : Mode) :
    (l.setMode env mode).2.services = l.services := services_after_other l _ rfl

theorem services_wait (env : Surroundings σ) (l : Link σ) (milliseconds : Nat) :
    (l.wait env milliseconds).2.services = l.services := services_after_other l _ rfl

theorem services_cancelAll (env : Surroundings σ) (l : Link σ) :
    (l.cancelAll env).services = l.services := services_after_other l _ rfl

/-- Once a stop is requested, it stays so, and the consumer is not called. -/
theorem Passage.raised (oneWay : OneWay env) {l m : Link σ} {added : List Action}
    (h : l.Passage env added m) (raised : l.stopRequested env = true) :
    m.stopRequested env = true ∧ m.asked = l.asked := by
  have unasked (quiet : added.filter Action.isAsked = []) : m.asked = l.asked := by
    rw [asked, h.transcript_eq, List.filter_append, quiet, List.append_nil, asked]
  cases h with
  | setMode mode => exact ⟨oneWay.setMode mode l.world raised, unasked rfl⟩
  | purge => exact ⟨oneWay.purge l.world raised, unasked rfl⟩
  | submit request => exact ⟨oneWay.submit request l.world raised, unasked rfl⟩
  | wait milliseconds => exact ⟨oneWay.wait milliseconds l.world raised, unasked rfl⟩
  | cancelAll => exact ⟨oneWay.cancelAll l.world raised, unasked rfl⟩
  | log event => exact ⟨oneWay.log event l.world raised, unasked rfl⟩
  | transition state => exact ⟨oneWay.log _ l.world raised, unasked rfl⟩
  | now => exact ⟨oneWay.now l.world raised, unasked rfl⟩
  | payload _ _ down | fill _ _ down | progress _ down =>
      rw [raised] at down
      cases down

end Link

namespace Run

theorem Awaited.services_eq {milliseconds : Nat} {l m : Link σ} {failure : Option StreamError}
    {completions : List Completion}
    (h : Stream.Awaited env milliseconds l ((failure, completions), m)) :
    m.services = l.services := by
  cases h with
  | once result _ answer whole => exact l.services_wait env milliseconds
  | again first result more cut answer =>
      rw [Link.services_wait, Link.services_log, Link.services_wait]

/-- The next step primes a slot or handles a completion. -/
def Attends : Run σ → Prop
  | .active (.priming index) s => index < s.pool.capacity
  | .active (.handling (_ :: _)) _ => True
  | _ => False

/-- A step that neither primes a slot nor handles a completion serves none. -/
theorem Stepped.services_eq (h : Stepped env config run next) (idle : ¬ run.Attends) :
    next.link.services = run.link.services := by
  cases h with
  | queued index s _ _ inside | refused index s _ _ inside | spared index s _ _ _ inside =>
      exact absurd inside idle
  | handled c completions s t handled => exact absurd trivial idle
  | denied index s all source answer =>
      exact (Link.services_setMode env _ _).trans (quiet_announced config s).services_eq
  | entered index s all answer =>
      exact (quiet_opened _).services_eq.trans
        ((Link.services_setMode env _ _).trans (quiet_announced config s).services_eq)
  | gathered s failure completions l awaited => exact Awaited.services_eq awaited
  | concluded s again t concluded =>
      cases concluded with
      | finished => rfl
      | stalled => exact Link.services_log env s.link _
      | again running busy t sampled beside => exact beside.quiet.services_eq
  | emptied s none =>
      have quiet : s.link.Quiet env (idled env s).link := quiet_idled s
      exact quiet.services_eq
  | cancelled s some =>
      have quiet : s.link.Quiet env (idled env s).link := quiet_idled s
      exact (Link.services_cancelAll env _).trans quiet.services_eq
  | waited collected interrupted s some answer completions answered =>
      exact Link.services_wait env s.link _
  | ended | cleared | collected | ignored | emptyHanded => rfl
  | settled collected s =>
      obtain ⟨l, finished, quiet⟩ := finish_read_out env (abandoned env collected s)
      rw [finished]
      exact quiet.services_eq.trans (Link.services_log env s.link _)

theorem Started.services_eq (h : Started env config state world run) : run.link.services = [] := by
  obtain ⟨actions, course, plain⟩ := h.course
  rw [Link.services, course.transcript_eq]
  refine List.filter_eq_nil_iff.mpr fun a member => ?_
  rw [(Action.isPlain_quiet (List.all_eq_true.mp plain a member)).1]
  exact Bool.false_ne_true

/-- Slots have been served as they were primed and as completions were handled, and not otherwise. -/
structure Attended (env : Surroundings σ) (config : Config) (state : State) (world : σ) (n : Nat)
    (run : Run σ) : Prop where
  elsewhere (m : Nat) (before : m < n) (earlier : Run σ)
      (come : advance env config m (start env config state world) = .ok earlier)
      (idle : ¬ earlier.Attends) :
    ∃ next, advance env config (m + 1) (start env config state world) = .ok next ∧
      next.link.services = earlier.link.services
  /-- A slot that is released is not served any more. -/
  released (m : Nat) (within : m ≤ n) (earlier : Run σ)
      (come : advance env config m (start env config state world) = .ok earlier) (slot : Nat)
      (gone : earlier.Released slot) :
    run.link.transcript.filter (fun a => a.slot? == some slot) =
      earlier.link.transcript.filter fun a => a.slot? == some slot

theorem attended_at {n : Nat}
    (come : advance env config n (start env config state world) = .ok run) :
    Attended env config state world n run := by
  refine ⟨?_, ?_⟩
  · intro m before earlier reached idle
    obtain ⟨next, onward⟩ := come_before come before
    exact ⟨next, onward, (step_between reached onward).services_eq idle⟩
  · intro m within earlier reached slot gone
    refine (none_since (fun _ _ stepped still => Released.stepped still stepped) ?_ come within
      reached gone).2
    intro last next actions unspoiled still turn a member
    cases turn.part a member with
    | quiet none | sampled none =>
        rw [none]
        rfl
    | served other about serving live =>
        rw [about, beq_eq_false_iff_ne]
        rintro same
        cases same
        exact live still

/-- Who is left alone in the first `n` steps of a run, and from when on. -/
structure Silent (env : Surroundings σ) (config : Config) (state : State) (world : σ) (n : Nat)
    (run : Run σ) : Prop where
  /-- Of the links that the calls of the run lead through, none at which a stop is requested is
  followed by one where the consumer was asked any more. -/
  raised : ∃ links, Link.Way env (Link.opened state world) run.link links ∧
    (∀ m ≤ n, ∀ earlier, advance env config m (start env config state world) = .ok earlier →
      earlier.link ∈ links) ∧
    links.Pairwise fun l m => l.stopRequested env = true → m.asked = l.asked
  decided : ∀ m ≤ n, ∀ earlier, advance env config m (start env config state world) = .ok earlier →
    earlier.Decided → run.link.asked = earlier.link.asked
  quitting : ∀ m ≤ n, ∀ earlier, advance env config m (start env config state world) = .ok earlier →
    earlier.Quitting env → run.link.services = earlier.link.services
  answered : run.link.transcript.Pairwise fun a b => ¬ a.Ends b

theorem silent_at (oneWay : OneWay env) {n : Nat} {run : Run σ}
    (come : advance env config n (start env config state world) = .ok run) :
    run.Silent env config state world n := by
  refine ⟨?_, ?_, ?_, (heeded_at come).1.kept⟩
  · obtain ⟨links, way, points⟩ := way_to come
    refine ⟨links, way, points, ?_⟩
    have held : links.Pairwise fun l m => l.stopRequested env = true →
        m.stopRequested env = true ∧ m.asked = l.asked := by
      refine way.pairwise (fun l m added passage => passage.raised oneWay) ?_
      intro l m n first second raised
      obtain ⟨up, same⟩ := first raised
      obtain ⟨still, more⟩ := second up
      exact ⟨still, more.trans same⟩
    exact held.imp fun both raised => (both raised).2
  · intro m within earlier reached decided
    refine (none_since (fun run next stepped still => Decided.stepped still stepped) ?_
      come within reached decided).2
    intro run next actions unspoiled still turn a member
    cases turn.part a member with
    | quiet none unasked => exact unasked
    | served slot about serving => exact absurd still (serving.open env unspoiled).1
    | sampled none sampling => exact absurd still sampling.undecided
  · intro m within earlier reached quitting
    refine (none_since (fun run next stepped still =>
      Quitting.of_stopsAll (StopsAll.stepped still stepped)) ?_ come within reached quitting).2
    intro run next actions unspoiled still turn a member
    cases turn.part a member with
    | quiet none | sampled none => rw [none]; rfl
    | served slot about serving => exact absurd still (serving.open env unspoiled).2.1

/-- Whatever its surroundings do, as long as they lower the stop flag no more once it is raised, a
session leaves its consumer alone once the end is decided. -/
theorem silent_once_decided (oneWay : OneWay env) (config : Config) (state : State) (world : σ)
    (n : Nat) :
    (∃ run, advance env config n (start env config state world) = .ok run ∧
        run.Silent env config state world n) ∨
      advance env config n (start env config state world) = .error .countOverflow := by
  rcases comes env config state world n with ⟨run, come, -⟩ | fault
  · exact .inl ⟨run, come, silent_at oneWay come⟩
  · exact .inr fault

section

open Rehearsal

/-- A consumer that asks for a stop as it hears its first span, when two transfers have completed. -/
def startled : Assembly Peripheral.Fifo Timeline Audience where
  transport :=
    let config : Peripheral.Config := { packetSize := 8 }
    { config, source := .start config.pattern config.dropEvery }
  outside := {}
  consumer := { onPayload := { raise := [0] } }

theorem startled_silent : ∃ run,
    advance rehearsed { transferCount := 2 } 20
      (start rehearsed { transferCount := 2 } .idle startled) = .ok run ∧
    run.Silent rehearsed { transferCount := 2 } .idle startled 20 ∧ run.link.asked.length = 1 := by
  have once : (advance rehearsed { transferCount := 2 } 20
      (start rehearsed { transferCount := 2 } .idle startled)).toOption.map
        (fun run => run.link.asked.length) = some 1 := by decide +kernel
  rcases silent_once_decided rehearsed_oneWay { transferCount := 2 } .idle startled 20 with
    ⟨run, come, silent⟩ | fault
  · rw [come] at once
    exact ⟨run, come, silent, Option.some.inj once⟩
  · rw [fault] at once
    cases once

end

end Run

end BulkStream.Session
