import ReportCard.Proofs.Drawing.Transcript

/-!
# Scripts for actions

Where each action has a script of its own, a script of actions stands for one script of all their steps
(`Script.subst`).  Running the one is running the other (`Script.run_subst`), so that what a drawing surface makes of a
script can be read off the actions of a single script.
-/

namespace ReportCard.Script

variable {A B σ : Type}

/-- The script with a script in the place of each action. -/
def subst (f : A → Script B) : Script A → Script B
  | done => done
  | act a => f a
  | note n => note n
  | fail fault => fail fault
  | seq first second => seq (first.subst f) (second.subst f)
  | ensure body cleanup => ensure (body.subst f) (cleanup.subst f)
  | recover body handler => recover (body.subst f) fun fault => (handler fault).subst f

/-- A script of scripts is run as a script whose actions run theirs. -/
theorem run_subst (f : A → Script B) (perform : B → σ → Outcome σ) (p : Script A) :
    (p.subst f).run perform = p.run fun a => (f a).run perform := by
  induction p with
  | done => rfl
  | act a => rfl
  | note n => rfl
  | fail fault => rfl
  | seq first second ih₁ ih₂ => funext s; simp only [subst, run, ih₁, ih₂]
  | ensure body cleanup ih₁ ih₂ => funext s; simp only [subst, run, ih₁, ih₂]
  | recover body handler ih₁ ih₂ => funext s; simp only [subst, run, ih₁, ih₂]

theorem subst_all (f : A → Script B) (ps : List (Script A)) : (all ps).subst f = all (ps.map (subst f)) := by
  induction ps with
  | nil => rfl
  | cons p ps ih =>
    cases ps with
    | nil => rfl
    | cons q qs => simp only [all, subst, List.map_cons] at ih ⊢; rw [ih]

theorem subst_when (f : A → Script B) (c : Bool) (p : Script A) : (when c p).subst f = when c (p.subst f) := by
  cases c <;> rfl

end ReportCard.Script
