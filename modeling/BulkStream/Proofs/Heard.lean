import BulkStream.Proofs.StreamSteps

/-!
What the consumer of a reading session hears: the payload passed to it, up to the span that it first
answered with a stop. Offering the spans of a transfer adds them in order, and either all of them or,
where something stops it, some in front.
-/
namespace BulkStream.Session

variable {σ : Type}

/-- The payload that a consumer was passed, up to the span that it first answered with a stop. -/
def heard : List Action → Bytes
  | [] => []
  | .payload _ span .stop :: _ => span
  | .payload _ span .proceed :: later => span ++ heard later
  | _ :: later => heard later

def Stopped (actions : List Action) : Prop := ∃ slot span, .payload slot span .stop ∈ actions

theorem not_stopped_nil : ¬ Stopped [] := by
  rintro ⟨slot, span, impossible⟩
  cases impossible

theorem stopped_append_iff {before after : List Action} :
    Stopped (before ++ after) ↔ Stopped before ∨ Stopped after := by
  constructor
  · rintro ⟨slot, span, member⟩
    exact (List.mem_append.mp member).imp (⟨slot, span, ·⟩) (⟨slot, span, ·⟩)
  · rintro (⟨slot, span, member⟩ | ⟨slot, span, member⟩)
    · exact ⟨slot, span, List.mem_append_left after member⟩
    · exact ⟨slot, span, List.mem_append_right before member⟩

theorem stopped_cons_iff {action : Action} {actions : List Action} :
    Stopped (action :: actions) ↔
      (∃ slot span, action = .payload slot span .stop) ∨ Stopped actions := by
  constructor
  · rintro ⟨slot, span, member⟩
    rcases List.mem_cons.mp member with rfl | later
    · exact .inl ⟨slot, span, rfl⟩
    · exact .inr ⟨slot, span, later⟩
  · rintro (⟨slot, span, rfl⟩ | ⟨slot, span, member⟩)
    · exact ⟨slot, span, List.mem_cons_self⟩
    · exact ⟨slot, span, List.mem_cons_of_mem action member⟩

theorem heard_append_stopped {before : List Action} (h : Stopped before) (after : List Action) :
    heard (before ++ after) = heard before := by
  induction before with
  | nil => exact absurd h not_stopped_nil
  | cons action before ih =>
      have later (other : ∀ slot span, action ≠ .payload slot span .stop) : Stopped before := by
        rcases stopped_cons_iff.mp h with ⟨slot, span, same⟩ | later
        · exact absurd same (other slot span)
        · exact later
      cases action with
      | payload slot span flow =>
          cases flow with
          | stop => rfl
          | proceed =>
              rw [List.cons_append, heard, heard, ih (later fun _ _ => by simp)]
      | _ => exact ih (later fun _ _ => by simp)

theorem heard_append {before : List Action} (h : ¬ Stopped before) (after : List Action) :
    heard (before ++ after) = heard before ++ heard after := by
  induction before with
  | nil => rfl
  | cons action before ih =>
      rw [stopped_cons_iff, not_or] at h
      have onward := ih h.2
      cases action with
      | payload slot span flow =>
          cases flow with
          | stop => exact absurd ⟨slot, span, rfl⟩ h.1
          | proceed => rw [List.cons_append, heard, heard, onward, List.append_assoc]
      | _ => exact onward

theorem heard_mono {earlier actions : List Action} (h : earlier <+: actions) :
    heard earlier <+: heard actions := by
  obtain ⟨later, rfl⟩ := h
  by_cases stopped : Stopped earlier
  · rw [heard_append_stopped stopped]
  · rw [heard_append stopped]
    exact List.prefix_append _ _

theorem heard_filter (actions : List Action) :
    heard (actions.filter Action.isOffer) = heard actions := by
  induction actions with
  | nil => rfl
  | cons action actions ih =>
      cases action with
      | payload slot span flow =>
          cases flow with
          | stop => rfl
          | proceed => exact congrArg (span ++ ·) ih
      | _ => exact ih

/-- What comes of offering spans: either all are passed on, or some in front and then a stop. -/
theorem offer_said (env : Surroundings σ) (slot : Nat) (spans : List Bytes) (l : Link σ) :
    ∃ said, (l.offer env slot spans).2.offers = l.offers ++ said ∧ heard said <+: spans.flatten ∧
      ((l.offer env slot spans).1 = .proceed ∧ heard said = spans.flatten ∨
        (l.offer env slot spans).1 = .stop ∧
          (Stopped said ∨ (l.offer env slot spans).2.stopRequested env = true)) ∧
      (l.stopRequested env = true → said = []) := by
  induction spans generalizing l with
  | nil =>
      exact ⟨[], (List.append_nil _).symm, List.prefix_rfl, .inl ⟨rfl, rfl⟩, fun _ => rfl⟩
  | cons span spans ih =>
      rw [Link.offer, List.flatten_cons]
      split
      · rename_i empty
        rw [List.isEmpty_iff.mp empty, List.nil_append]
        exact ih l
      · by_cases raised : l.stopRequested env = true
        · rw [Link.payload, if_pos raised]
          exact ⟨[], (List.append_nil _).symm, List.nil_prefix, .inr ⟨rfl, .inr raised⟩,
            fun _ => rfl⟩
        · rw [Link.payload, if_neg raised]
          cases answer : env.payload span l.world with
          | mk flow world =>
              have offered : (l.after (.payload slot span flow) world).offers =
                  l.offers ++ [.payload slot span flow] := Link.offers_after l _ world
              cases flow with
              | stop =>
                  refine ⟨[.payload slot span .stop], offered, List.prefix_append span _, ?_, ?_⟩
                  · exact .inr ⟨rfl, .inl ⟨slot, span, List.mem_cons_self⟩⟩
                  · exact fun up => absurd up raised
              | proceed =>
                  obtain ⟨said, all, within, ending, -⟩ :=
                    ih (l.after (.payload slot span .proceed) world)
                  refine ⟨.payload slot span .proceed :: said, ?_, ?_, ?_,
                    fun up => absurd up raised⟩
                  · rw [offered, List.append_assoc] at all
                    exact all
                  · exact (List.prefix_append_right_inj span).mpr within
                  · rcases ending with ⟨proceeds, whole⟩ | ⟨stops, lost | up⟩
                    · exact .inl ⟨proceeds, congrArg (span ++ ·) whole⟩
                    · exact .inr ⟨stops, .inl (stopped_cons_iff.mpr (.inr lost))⟩
                    · exact .inr ⟨stops, .inr up⟩

end BulkStream.Session
