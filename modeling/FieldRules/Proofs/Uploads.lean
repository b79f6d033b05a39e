import FieldRules.Check.Run
import FieldRules.Engine.Walk
/-!
# Checks of uploads

A check that finds no fault may put a text in the place of a text. It never does so with an upload: a test of texts
refuses an upload, and every other test leaves it as it is (`Check.spares_judge`, `Check.update_upload`).
-/

namespace FieldRules

namespace Check

/-- The check ends without a text that takes the place of the value. -/
def Spares (r : Except Fault Outcome) : Prop := ∀ s, r ≠ .ok (.replaced s)

theorem spares_error (fault : Fault) : Spares (.error fault) := by
  intro s h
  cases h

theorem spares_accept (condition : Bool) (fault : Fault) : Spares (accept condition fault) := by
  intro s h
  unfold accept at h
  split at h <;> cases h

theorem spares_bind {α : Type} {x : Except Fault α} {f : α → Except Fault Outcome} (hf : ∀ a, Spares (f a)) :
    Spares (x >>= f) := by
  cases x with
  | error fault => exact spares_error fault
  | ok a => exact hf a

theorem spares_outcome_bind {α : Type} {x : Check α} {f : α → Check Outcome} (hf : ∀ a, Spares (f a).outcome.value) :
    Spares (x >>= f).outcome.value := by
  have hnext : ∀ r : Except Fault α, Spares (outcome (ExceptT.mk (ExceptT.bindCont f r))).value := by
    rintro (fault | a)
    · exact spares_error fault
    · exact hf a
  exact hnext x.outcome.value

section
variable (scope : Scope) (t : Token) (u : Upload)

theorem spares_extension : Spares (extension t (.upload u)) := by
  unfold extension
  dsimp only
  split
  · exact spares_error _
  · exact spares_accept _ _

theorem spares_mime (c : Collaborators) : Spares (mime c t (.upload u)) := by
  unfold mime
  dsimp only
  split
  · exact spares_error _
  · apply spares_bind
    intro v
    split
    · exact spares_accept _ _
    · exact spares_error _

theorem spares_file : Spares (file scope (.upload u)).outcome.value := by
  unfold file
  dsimp only
  split
  · intro s h
    cases h
  · split
    · exact spares_error _
    · apply spares_outcome_bind
      intro genuine
      split
      · intro s h
        cases h
      · exact spares_error _

theorem spares_required : Spares (required scope (.upload u)) := by
  unfold required
  split
  · exact spares_accept _ _
  · exact spares_accept _ _

/-- No test puts a text in the place of an upload. -/
theorem spares_judge : Spares (judge scope t (.upload u)).outcome.value := by
  unfold judge
  cases t.test with
  | unknown name => exact spares_error _
  | format | null | notNull | ignore =>
    intro s h
    cases h
  | enum | nenum | equal | nequal => exact spares_bind fun _ => spares_accept _ _
  | string => exact spares_accept false .notText
  | size => exact spares_bind fun _ => spares_bind fun _ => spares_accept _ _
  | required => exact spares_required scope u
  | extension => exact spares_extension t u
  | mime => exact spares_mime t u _
  | file => exact spares_file scope u
  | tel => exact spares_outcome_bind fun _ => spares_error .notPhone
  | length | max | min => exact spares_bind fun _ => spares_error _
  | maxLength | minLength | maxWords | minWords | regex =>
    exact spares_bind fun _ => spares_bind fun _ => spares_error _
  | _ => exact spares_error _

/-- A check leaves an upload as it is, if it finds no fault. -/
theorem update_upload {outcome : Outcome} (h : (evaluate scope t (.upload u)).outcome.value = .ok outcome) :
    outcome.update (.upload u) = .upload u := by
  have hspares : Spares (evaluate scope t (.upload u)).outcome.value := by
    unfold evaluate
    split
    · exact spares_error _
    · split
      · intro s h
        cases h
      · exact spares_judge scope t u
  cases outcome with
  | accepted | empty => rfl
  | replaced s => exact absurd h (hspares s)

end

end Check

end FieldRules
