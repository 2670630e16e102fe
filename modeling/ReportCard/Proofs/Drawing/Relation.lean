import Mathlib.Data.List.Forall2
import ReportCard.Proofs.Drawing.Transcript

/-!
# Related scripts

Two scripts of one shape, with the same notes and faults, whose actions are related one by one.  Where nothing fails
they end alike, and what they come to is related one by one as well (`Script.Rel.actions`).
-/

namespace ReportCard.Script

variable {A B : Type} {R : A → B → Prop}

/-- Scripts that differ in their actions only, and in these by the relation. -/
inductive Rel (R : A → B → Prop) : Script A → Script B → Prop
  | done : Rel R done done
  | act {a : A} {b : B} : R a b → Rel R (act a) (act b)
  | note (n : Note) : Rel R (note n) (note n)
  | fail (fault : Fault) : Rel R (fail fault) (fail fault)
  | seq {p q : Script A} {p' q' : Script B} : Rel R p p' → Rel R q q' → Rel R (seq p q) (seq p' q')
  | ensure {p q : Script A} {p' q' : Script B} : Rel R p p' → Rel R q q' → Rel R (ensure p q) (ensure p' q')
  | recover {p : Script A} {q : Fault → Script A} {p' : Script B} {q' : Fault → Script B} :
      Rel R p p' → (∀ fault, Rel R (q fault) (q' fault)) → Rel R (recover p q) (recover p' q')

namespace Rel

variable {p : Script A} {q : Script B}

theorem fault? (h : Rel R p q) : p.fault? = q.fault? := by
  induction h with
  | done => rfl
  | act _ => rfl
  | note n => rfl
  | fail fault => rfl
  | seq _ _ ih₁ ih₂ => simp only [Script.fault?, ih₁, ih₂]
  | ensure _ _ ih₁ ih₂ => simp only [Script.fault?, ih₁, ih₂]
  | recover _ _ ih₁ ih₂ => simp only [Script.fault?, ih₁, ih₂]

/-- Related scripts come to related actions. -/
theorem actions (h : Rel R p q) : List.Forall₂ R p.actions q.actions := by
  induction h with
  | done => exact .nil
  | act h => exact .cons h .nil
  | note n => exact .nil
  | fail fault => exact .nil
  | seq hp _ ih₁ ih₂ =>
    rw [Script.actions, Script.actions, ← hp.fault?]
    refine List.rel_append ih₁ ?_
    split
    · exact .nil
    · exact ih₂
  | ensure _ _ ih₁ ih₂ => exact List.rel_append ih₁ ih₂
  | @recover p _ _ _ hp _ ih₁ ih₂ =>
    rw [Script.actions, Script.actions, ← hp.fault?]
    refine List.rel_append ih₁ ?_
    cases p.fault? with
    | none => exact .nil
    | some fault => exact ih₂ fault

/-! ### Combinations of scripts -/

theorem all {ps : List (Script A)} {qs : List (Script B)} (h : List.Forall₂ (Rel R) ps qs) :
    Rel R (all ps) (all qs) := by
  induction h with
  | nil => exact .done
  | cons hp hs ih =>
    cases hs with
    | nil => exact hp
    | cons _ _ => exact .seq hp ih

theorem acts {as : List A} {bs : List B} (h : List.Forall₂ R as bs) : Rel R (acts as) (acts bs) := by
  refine all ?_
  rw [List.forall₂_map_left_iff, List.forall₂_map_right_iff]
  exact h.imp fun _ _ => .act

theorem all_map {C : Type} {f : C → Script A} {g : C → Script B} {l : List C} (h : ∀ c ∈ l, Rel R (f c) (g c)) :
    Rel R (.all (l.map f)) (.all (l.map g)) := by
  refine all ?_
  rw [List.forall₂_map_left_iff, List.forall₂_map_right_iff, List.forall₂_same]
  exact h

theorem when {c : Bool} (h : Rel R p q) : Rel R (when c p) (when c q) := by
  cases c
  · exact .done
  · exact h

theorem tryIt {C : Type} {result : Except Fault C} {p : C → Script A} {q : C → Script B}
    (h : ∀ c, Rel R (p c) (q c)) : Rel R (tryIt result p) (tryIt result q) := by
  cases result with
  | error fault => exact .fail fault
  | ok c => exact h c

theorem isolated {α β : Type} {R : Drawing α → Drawing β → Prop} {p : Script (Drawing α)} {q : Script (Drawing β)}
    (hsave : R .saveState .saveState) (hrestore : R .restoreState .restoreState) (h : Rel R p q) :
    Rel R (Drawing.isolated p) (Drawing.isolated q) :=
  .seq (.act hsave) (.ensure h (.act hrestore))

end Rel

end ReportCard.Script
