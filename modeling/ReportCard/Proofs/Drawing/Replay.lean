import ReportCard.Drawing.Canvas
import ReportCard.Drawing.Recorder
import ReportCard.Proofs.Drawing.Bracket
import ReportCard.Proofs.Drawing.Transcript

/-!
# Replaying

The actions of a script are those it comes to where nothing fails.  Carrying them out one after the other leads where
the script leads as long as none of them fails (`Script.run_of_run_actions`); at the first one that fails the actions
stop, and the script, which may know what to do about it, goes on from there (`Script.run_actions_rel`).
-/

namespace ReportCard

namespace Script

variable {A σ : Type} {perform : A → σ → Outcome σ}

/-! ### Actions one after the other -/

theorem run_seq_assoc (p q r : Script A) (s : σ) :
    (seq (seq p q) r).run perform s = (seq p (seq q r)).run perform s := by
  simp only [run]
  cases hp : (p.run perform s).fault with
  | some fault => simp [hp]
  | none =>
    cases hq : (q.run perform (p.run perform s).state).fault <;> simp [hq, Outcome.after, List.append_assoc]

theorem run_all_cons (p : Script A) (ps : List (Script A)) (s : σ) :
    (all (p :: ps)).run perform s = (seq p (all ps)).run perform s := by
  cases ps with
  | cons q qs => rfl
  | nil =>
    simp only [all, run]
    split
    · rfl
    · rename_i hp
      simp [Outcome.after, Outcome.ok, ← hp]

theorem run_acts_cons (a : A) (as : List A) (s : σ) :
    (acts (a :: as)).run perform s = (seq (act a) (acts as)).run perform s :=
  run_all_cons (act a) (as.map act) s

private theorem run_seq_congr {p q q' : Script A} (h : ∀ s, q.run perform s = q'.run perform s) (s : σ) :
    (seq p q).run perform s = (seq p q').run perform s := by
  simp only [run, h]

/-- The parts of two lists one after the other are those of the first list and then those of the second. -/
theorem run_all_append (ps qs : List (Script A)) (s : σ) :
    (all (ps ++ qs)).run perform s = (seq (all ps) (all qs)).run perform s := by
  induction ps generalizing s with
  | nil => simp [all, run, Outcome.ok, Outcome.after]
  | cons p ps ih =>
    calc (all (p :: (ps ++ qs))).run perform s
        _ = (seq p (all (ps ++ qs))).run perform s := run_all_cons p (ps ++ qs) s
        _ = (seq p (seq (all ps) (all qs))).run perform s := run_seq_congr ih s
        _ = (seq (seq p (all ps)) (all qs)).run perform s := (run_seq_assoc ..).symm
        _ = (seq (all (p :: ps)) (all qs)).run perform s := by simp only [run, run_all_cons]

theorem run_acts_append (as bs : List A) (s : σ) :
    (acts (as ++ bs)).run perform s = (seq (acts as) (acts bs)).run perform s := by
  unfold acts
  rw [List.map_append]
  exact run_all_append (as.map act) (bs.map act) s

/-- What is carried out one after the other either stops in the first part, or goes through it and then behaves as the
second part does from there. -/
private theorem run_acts_append_cases (perform : A → σ → Outcome σ) (as bs : List A) (s : σ) :
    (((acts as).run perform s).fault ≠ none ∧ (acts (as ++ bs)).run perform s = (acts as).run perform s) ∨
      ((acts as).run perform s).fault = none ∧
        ((acts (as ++ bs)).run perform s).state = ((acts bs).run perform ((acts as).run perform s).state).state ∧
        ((acts (as ++ bs)).run perform s).fault = ((acts bs).run perform ((acts as).run perform s).state).fault := by
  rw [run_acts_append, run]
  cases ((acts as).run perform s).fault with
  | some fault => exact .inl ⟨Option.some_ne_none fault, rfl⟩
  | none => exact .inr ⟨rfl, rfl, rfl⟩

private theorem run_acts_append_ok {as bs : List A} {s : σ} (h : ((acts (as ++ bs)).run perform s).fault = none) :
    ((acts as).run perform s).fault = none ∧
      ((acts bs).run perform ((acts as).run perform s).state).fault = none ∧
      ((acts (as ++ bs)).run perform s).state = ((acts bs).run perform ((acts as).run perform s).state).state := by
  rcases run_acts_append_cases perform as bs s with ⟨hstop, hrun⟩ | ⟨hfirst, hstate, hfault⟩
  · exact absurd (hrun ▸ h) hstop
  · exact ⟨hfirst, hfault ▸ h, hstate⟩

/-- A script whose actions can be carried out one after the other does nothing else, and ends as it does where nothing
fails. -/
theorem run_of_run_actions {p : Script A} {s : σ} (h : ((acts p.actions).run perform s).fault = none) :
    (p.run perform s).state = ((acts p.actions).run perform s).state ∧ (p.run perform s).fault = p.fault? := by
  induction p generalizing s with
  | done => exact ⟨rfl, rfl⟩
  | act a => exact ⟨rfl, h⟩
  | note n => exact ⟨rfl, rfl⟩
  | fail fault => exact ⟨rfl, rfl⟩
  | seq first second ih₁ ih₂ =>
    obtain ⟨hfirst, hrest, hstate⟩ := run_acts_append_ok h
    obtain ⟨hs, hf⟩ := ih₁ hfirst
    rw [← hs] at hrest hstate
    rw [actions, hstate, run, hf, fault?]
    cases hfault : first.fault? with
    | some fault => exact ⟨by simp [acts, all, run, Outcome.ok], hf.trans hfault⟩
    | none =>
      rw [hfault] at hrest
      exact ih₂ hrest
  | ensure body cleanup ih₁ ih₂ =>
    obtain ⟨hbody, hcleanup, hstate⟩ := run_acts_append_ok h
    obtain ⟨hs, hf⟩ := ih₁ hbody
    rw [← hs] at hcleanup hstate
    obtain ⟨hs', hf'⟩ := ih₂ hcleanup
    rw [actions, hstate]
    exact ⟨hs', by simp only [run, hf, hf', fault?]⟩
  | recover body handler ih₁ ih₂ =>
    obtain ⟨hbody, hrest, hstate⟩ := run_acts_append_ok h
    obtain ⟨hs, hf⟩ := ih₁ hbody
    rw [← hs] at hrest hstate
    rw [actions, hstate, run, hf, fault?]
    cases hfault : body.fault? with
    | none => exact ⟨rfl, hf.trans hfault⟩
    | some fault =>
      rw [hfault] at hrest
      exact ih₂ fault hrest

/-! ### Actions that stop -/

section Relation

variable {R : σ → σ → Prop}

private theorem every_true (p : Script A) : p.Every fun _ => True := by
  induction p with
  | done => exact .done
  | act a => exact .act trivial
  | note n => exact .note n
  | fail fault => exact .fail fault
  | seq _ _ ih₁ ih₂ => exact .seq ih₁ ih₂
  | ensure _ _ ih₁ ih₂ => exact .ensure ih₁ ih₂
  | recover _ _ ih₁ ih₂ => exact .recover ih₁ ih₂

/-- What every action keeps, a script keeps. -/
theorem run_rel (refl : ∀ s, R s s) (trans : ∀ s t u, R s t → R t u → R s u)
    (act : ∀ a s, R s (perform a s).state) (p : Script A) (s : σ) : R s (p.run perform s).state :=
  (every_true p).run_rel refl trans (fun a s _ => act a s) s

/-- Carried out one after the other, the actions of a script lead as far as the script does, or less far. -/
theorem run_actions_rel (refl : ∀ s, R s s) (trans : ∀ s t u, R s t → R t u → R s u)
    (act : ∀ a s, R s (perform a s).state) (p : Script A) (s : σ) :
    R ((acts p.actions).run perform s).state (p.run perform s).state := by
  have hrel (p : Script A) (s : σ) : R s (p.run perform s).state := run_rel refl trans act p s
  -- the actions stop in the first part, and the script goes on from where that part ends, or they go through it
  induction p generalizing s with
  | done => exact refl s
  | act a => exact refl _
  | note n => exact refl s
  | fail fault => exact refl s
  | seq first second ih₁ ih₂ =>
    rcases run_acts_append_cases perform first.actions
      (if first.fault?.isSome then [] else second.actions) s with ⟨-, hrun⟩ | ⟨hfirst, hstate, -⟩
    · rw [actions, hrun]
      refine trans _ _ _ (ih₁ s) ?_
      rw [run]
      split
      · exact refl _
      · exact hrel second _
    · obtain ⟨hs, hf⟩ := run_of_run_actions hfirst
      rw [actions, hstate, ← hs, run, hf]
      cases first.fault? with
      | some fault => exact refl _
      | none => exact ih₂ _
  | ensure body cleanup ih₁ ih₂ =>
    rcases run_acts_append_cases perform body.actions cleanup.actions s with
      ⟨-, hrun⟩ | ⟨hbody, hstate, -⟩
    · rw [actions, hrun]
      exact trans _ _ _ (ih₁ s) (hrel cleanup _)
    · rw [actions, hstate, ← (run_of_run_actions hbody).1]
      exact ih₂ _
  | recover body handler ih₁ ih₂ =>
    rcases run_acts_append_cases perform body.actions
      ((body.fault?.map fun fault => (handler fault).actions).getD []) s with ⟨-, hrun⟩ | ⟨hbody, hstate, -⟩
    · rw [actions, hrun]
      refine trans _ _ _ (ih₁ s) ?_
      rw [run]
      split
      · exact hrel (handler _) _
      · exact refl _
    · obtain ⟨hs, hf⟩ := run_of_run_actions hbody
      rw [actions, hstate, ← hs, run, hf]
      cases body.fault? with
      | some fault => exact ih₂ fault _
      | none => exact refl _

end Relation

/-! ### Actions that fail by themselves -/

theorem fault_run_of_infallible (h : ∀ a s, (perform a s).fault = none) (p : Script A) (s : σ) :
    (p.run perform s).fault = p.fault? := by
  induction p generalizing s with
  | done => rfl
  | act a => exact h a s
  | note n => rfl
  | fail fault => rfl
  | seq first second ih₁ ih₂ =>
    rw [run, ih₁, fault?]
    cases hfault : first.fault? with
    | some fault => exact (ih₁ s).trans hfault
    | none => exact ih₂ _
  | ensure body cleanup ih₁ ih₂ => simp only [run, ih₁, ih₂, fault?]
  | recover body handler ih₁ ih₂ =>
    rw [run, ih₁, fault?]
    cases hfault : body.fault? with
    | some fault => exact ih₂ fault _
    | none => exact (ih₁ s).trans hfault

/-- Where it does not depend on the state whether an action fails, actions can be carried out if each of them can. -/
theorem fault_run_acts_eq_none {failing : A → Option Fault} (h : ∀ a s, (perform a s).fault = failing a) (as : List A)
    (s : σ) : ((acts as).run perform s).fault = none ↔ ∀ a ∈ as, failing a = none := by
  induction as generalizing s with
  | nil => simp [acts, all, run, Outcome.ok]
  | cons a as ih =>
    rw [run_acts_cons, run, List.forall_mem_cons, run, h]
    cases ha : failing a with
    | some fault => simp [h, ha]
    | none => simpa [Outcome.after] using ih _

end Script

namespace Canvas

variable {α σ : Type}

/-- The canvas with a journal of all calls on it, those that fail included. -/
def journaled (perform : Call α → σ → Outcome σ) (call : Call α) (s : σ × List (Call α)) :
    Outcome (σ × List (Call α)) :=
  let o := perform call s.1
  ⟨(o.state, s.2 ++ [call]), o.notes, o.fault⟩

/-- The journal of the second state goes on where the first one ends. -/
private def Continues (s t : σ × List (Call α)) : Prop := s.2 <+: t.2

private theorem Continues.refl (s : σ × List (Call α)) : Continues s s := List.prefix_rfl

private theorem Continues.trans (s t u : σ × List (Call α)) (hst : Continues s t) (htu : Continues t u) :
    Continues s u :=
  List.IsPrefix.trans hst htu

variable [Scalar α]

private theorem continues_perform (size : Size α) (perform : Call α → σ → Outcome σ) (d : Drawing α)
    (s : σ × List (Call α)) : Continues s ((surface size (journaled perform)).perform d s).state := by
  have hcall (call : Call α) (s : σ × List (Call α)) : Continues s (journaled perform call s).state :=
    List.prefix_append s.2 [call]
  exact Script.run_rel Continues.refl Continues.trans hcall (calls size.height d) s

/-- A script that is recorded first and replayed on a page afterwards makes the calls that it makes on the page itself
as long as these succeed; at the first drawing that fails on the page the replay stops. -/
theorem paint_replay (size : Size α) (perform : Call α → σ → Outcome σ) (p : Script (Drawing α))
    (s : σ × List (Call α)) :
    let page := surface size (journaled perform)
    let direct := page.paint p s
    let replayed := page.paint (Recording.replay p.actions.toArray) s
    (replayed.fault = none → direct.state = replayed.state ∧ direct.fault = p.fault?) ∧
      replayed.state.2 <+: direct.state.2 ∧
      ((∀ call s, (perform call s).fault = none) →
        (replayed.fault = none ↔ ∀ d ∈ p.actions, (calls size.height d).fault? = none)) := by
  refine ⟨fun h => Script.run_of_run_actions h, ?_, fun hperform => ?_⟩
  · exact Script.run_actions_rel Continues.refl Continues.trans (continues_perform size perform) p s
  · refine Script.fault_run_acts_eq_none (fun d s => ?_) p.actions s
    exact Script.fault_run_of_infallible (fun call (s : σ × List (Call α)) => hperform call s.1) _ s

end Canvas

end ReportCard
