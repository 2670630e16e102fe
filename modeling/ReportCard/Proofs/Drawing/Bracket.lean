import ReportCard.Proofs.Drawing.Transcript

/-!
# Brackets

Saving and restoring the graphics state are the brackets of a journal of operations.  A script whose drawings all stand
inside `Drawing.isolated` leaves a journal that is well bracketed on any surface that can save and restore its state,
whichever of the other drawings fail there (`Bracketed.paint`): a failure leaves the body of a bracket early, but the
cleanup behind it is still carried out.
-/

namespace ReportCard

namespace Drawing

variable {α : Type}

/-- Whether the operation draws something, rather than saving or restoring the graphics state. -/
def paints : Drawing α → Bool
  | saveState => false
  | restoreState => false
  | _ => true

/-- The depth of saved states after an operation: nothing is restored at depth zero, and nothing is painted at any depth
but one. -/
def depthAfter? (depth : Nat) : Drawing α → Option Nat
  | saveState => some (depth + 1)
  | restoreState => if depth = 0 then none else some (depth - 1)
  | _ => if depth = 1 then some depth else none

/-- The depth after a journal of operations, if it is well bracketed. -/
def depth? (depth : Nat) : List (Drawing α) → Option Nat
  | [] => some depth
  | d :: ds => (d.depthAfter? depth).bind fun n => depth? n ds

theorem depth?_append (n : Nat) (ds ds' : List (Drawing α)) :
    depth? n (ds ++ ds') = (depth? n ds).bind fun m => depth? m ds' := by
  induction ds generalizing n with
  | nil => rfl
  | cons d ds ih =>
    simp only [List.cons_append, depth?]
    cases d.depthAfter? n with
    | none => rfl
    | some m => exact ih m

private theorem depth?_of_paints {ds : List (Drawing α)} (h : ∀ d ∈ ds, d.paints = true) :
    depth? 1 ds = some 1 := by
  induction ds with
  | nil => rfl
  | cons d ds ih =>
    have hd : d.depthAfter? 1 = some 1 := by
      have := h d (by simp)
      cases d <;> simp_all [paints, depthAfter?]
    simp only [depth?, hd, Option.bind_some]
    exact ih fun d' hd' => h d' (by simp [hd'])

end Drawing

namespace Surface

variable {α σ : Type}

/-- The surface with a journal of all that it is asked to do, what fails included. -/
def journaled (surface : Surface α σ) : Surface α (σ × List (Drawing α)) where
  size := surface.size
  perform d s :=
    let o := surface.perform d s.1
    ⟨(o.state, s.2 ++ [d]), o.notes, o.fault⟩

end Surface

namespace Script

section Relation

/-! ### What the parts of a script keep, the script keeps -/

variable {A σ : Type} {perform : A → σ → Outcome σ} {R : σ → σ → Prop}

theorem run_seq_rel (trans : ∀ s t u, R s t → R t u → R s u) {p q : Script A}
    (hp : ∀ s, R s (p.run perform s).state) (hq : ∀ s, R s (q.run perform s).state) (s : σ) :
    R s ((seq p q).run perform s).state := by
  simp only [run]
  split
  · exact hp s
  · exact trans _ _ _ (hp s) (hq _)

theorem run_ensure_rel (trans : ∀ s t u, R s t → R t u → R s u) {p q : Script A}
    (hp : ∀ s, R s (p.run perform s).state) (hq : ∀ s, R s (q.run perform s).state) (s : σ) :
    R s ((ensure p q).run perform s).state :=
  trans _ _ _ (hp s) (hq _)

theorem run_recover_rel (trans : ∀ s t u, R s t → R t u → R s u) {p : Script A} {q : Fault → Script A}
    (hp : ∀ s, R s (p.run perform s).state) (hq : ∀ fault s, R s ((q fault).run perform s).state) (s : σ) :
    R s ((recover p q).run perform s).state := by
  simp only [run]
  split
  · exact trans _ _ _ (hp s) (hq _ _)
  · exact hp s

end Relation

/-! ### Actions of one kind -/

variable {A : Type}

/-- Every action that a script can come to satisfies `P`, whichever of them fail. -/
inductive Every (P : A → Prop) : Script A → Prop
  | done : Every P done
  | act {a : A} : P a → Every P (act a)
  | note (n : Note) : Every P (note n)
  | fail (fault : Fault) : Every P (fail fault)
  | seq {p q : Script A} : Every P p → Every P q → Every P (seq p q)
  | ensure {p q : Script A} : Every P p → Every P q → Every P (ensure p q)
  | recover {p : Script A} {q : Fault → Script A} : Every P p → (∀ fault, Every P (q fault)) → Every P (recover p q)

theorem Every.imp {P Q : A → Prop} {p : Script A} (h : Every P p) (hPQ : ∀ a, P a → Q a) : Every Q p := by
  induction h with
  | done => exact .done
  | act h => exact .act (hPQ _ h)
  | note n => exact .note n
  | fail fault => exact .fail fault
  | seq _ _ ih₁ ih₂ => exact .seq ih₁ ih₂
  | ensure _ _ ih₁ ih₂ => exact .ensure ih₁ ih₂
  | recover _ _ ih₁ ih₂ => exact .recover ih₁ ih₂

/-- What holds of every action of a script holds of those it comes to where nothing fails. -/
theorem Every.of_mem_actions {P : A → Prop} {p : Script A} (h : p.Every P) {a : A} (ha : a ∈ p.actions) : P a := by
  induction h with
  | done => cases ha
  | act h => exact List.mem_singleton.1 ha ▸ h
  | note n => cases ha
  | fail fault => cases ha
  | @seq p q _ _ ih₁ ih₂ =>
    refine (List.mem_append.1 ha).elim ih₁ fun ha => ih₂ ?_
    split at ha
    · cases ha
    · exact ha
  | ensure _ _ ih₁ ih₂ => exact (List.mem_append.1 ha).elim ih₁ ih₂
  | @recover p q _ _ ih₁ ih₂ =>
    refine (List.mem_append.1 ha).elim ih₁ fun ha => ?_
    cases hfault : p.fault? with
    | none => simp [hfault] at ha
    | some fault =>
      rw [hfault] at ha
      exact ih₂ fault ha

/-- A relation that every action keeps and that can be chained is kept by a run of such actions. -/
theorem Every.run_rel {σ : Type} {P : A → Prop} {perform : A → σ → Outcome σ} {R : σ → σ → Prop} {p : Script A}
    (h : Every P p) (refl : ∀ s, R s s) (trans : ∀ s t u, R s t → R t u → R s u)
    (act : ∀ a s, P a → R s (perform a s).state) (s : σ) : R s (p.run perform s).state := by
  induction h generalizing s with
  | done => exact refl s
  | act h => exact act _ s h
  | note n => exact refl s
  | fail fault => exact refl s
  | seq _ _ ih₁ ih₂ => exact run_seq_rel trans ih₁ ih₂ s
  | ensure _ _ ih₁ ih₂ => exact run_ensure_rel trans ih₁ ih₂ s
  | recover _ _ ih₁ ih₂ => exact run_recover_rel trans ih₁ ih₂ s

/-! ### One action after the other -/

/-- The script does one thing after the other, stops where something fails, and its actions satisfy `P`. -/
inductive Straight (P : A → Prop) : Script A → Prop
  | done : Straight P done
  | act {a : A} : P a → Straight P (act a)
  | note (n : Note) : Straight P (note n)
  | fail (fault : Fault) : Straight P (fail fault)
  | seq {p q : Script A} : Straight P p → Straight P q → Straight P (seq p q)

namespace Straight

variable {P Q : A → Prop} {p : Script A}

theorem imp (h : Straight P p) (hPQ : ∀ a, P a → Q a) : Straight Q p := by
  induction h with
  | done => exact .done
  | act h => exact .act (hPQ _ h)
  | note n => exact .note n
  | fail fault => exact .fail fault
  | seq _ _ ih₁ ih₂ => exact .seq ih₁ ih₂

theorem every (h : Straight P p) : Every P p := by
  induction h with
  | done => exact .done
  | act h => exact .act h
  | note n => exact .note n
  | fail fault => exact .fail fault
  | seq _ _ ih₁ ih₂ => exact .seq ih₁ ih₂

theorem all {ps : List (Script A)} (h : ∀ p ∈ ps, Straight P p) : Straight P (all ps) := by
  induction ps with
  | nil => exact .done
  | cons p ps ih =>
    have ih := ih fun q hq => h q (by simp [hq])
    cases ps with
    | nil => exact h p (by simp)
    | cons q qs => exact .seq (h p (by simp)) ih

theorem acts {as : List A} (h : ∀ a ∈ as, P a) : Straight P (acts as) := by
  refine all fun p hp => ?_
  obtain ⟨a, ha, rfl⟩ := List.mem_map.1 hp
  exact .act (h a ha)

theorem when {c : Bool} (h : Straight P p) : Straight P (when c p) := by
  cases c
  · exact .done
  · exact h

theorem tryIt {B : Type} {result : Except Fault B} {p : B → Script A} (h : ∀ b, Straight P (p b)) :
    Straight P (tryIt result p) := by
  cases result with
  | error fault => exact .fail fault
  | ok b => exact h b

end Straight

end Script

namespace Drawing

variable {α σ : Type}

/-- Scripts all of whose drawings satisfy `P` and stand between saving the graphics state and restoring it, one after
the other. -/
inductive Bracketed (P : Drawing α → Prop) : Script (Drawing α) → Prop
  | done : Bracketed P .done
  | note (n : Note) : Bracketed P (.note n)
  | fail (fault : Fault) : Bracketed P (.fail fault)
  | isolated {body : Script (Drawing α)} : body.Straight P → Bracketed P (isolated body)
  | seq {p q : Script (Drawing α)} : Bracketed P p → Bracketed P q → Bracketed P (.seq p q)
  | recover {p : Script (Drawing α)} {handler : Fault → Script (Drawing α)} :
      Bracketed P p → (∀ fault, Bracketed P (handler fault)) → Bracketed P (.recover p handler)

namespace Bracketed

variable {P Q : Drawing α → Prop} {p : Script (Drawing α)}

theorem when {c : Bool} (h : Bracketed P p) : Bracketed P (.when c p) := by
  cases c
  · exact .done
  · exact h

theorem tryIt {β : Type} {result : Except Fault β} {p : β → Script (Drawing α)} (h : ∀ b, Bracketed P (p b)) :
    Bracketed P (.tryIt result p) := by
  cases result with
  | error fault => exact .fail fault
  | ok b => exact h b

theorem imp (h : Bracketed P p) (hPQ : ∀ d, P d → Q d) : Bracketed Q p := by
  induction h with
  | done => exact .done
  | note n => exact .note n
  | fail fault => exact .fail fault
  | isolated h => exact .isolated (h.imp hPQ)
  | seq _ _ ih₁ ih₂ => exact .seq ih₁ ih₂
  | recover _ _ ih₁ ih₂ => exact .recover ih₁ ih₂

/-- Besides its drawings a bracketed script only saves and restores the state. -/
theorem every (h : Bracketed P p) : p.Every fun d => d.paints = false ∨ P d := by
  induction h with
  | done => exact .done
  | note n => exact .note n
  | fail fault => exact .fail fault
  | isolated h => exact .seq (.act (.inl rfl)) (.ensure (h.every.imp fun _ => .inr) (.act (.inl rfl)))
  | seq _ _ ih₁ ih₂ => exact .seq ih₁ ih₂
  | recover _ _ ih₁ ih₂ => exact .recover ih₁ ih₂

/-- What a bracketed script comes to where nothing fails is well bracketed, also if it stops at a fault. -/
theorem depth?_actions (h : Bracketed P p) (hpaints : ∀ d, P d → d.paints = true) : depth? 0 p.actions = some 0 := by
  induction h with
  | done => rfl
  | note n => rfl
  | fail fault => rfl
  | @isolated body hbody =>
    have hactions : (Drawing.isolated body).actions = saveState :: (body.actions ++ [restoreState]) := rfl
    have hbody : depth? 1 body.actions = some 1 :=
      depth?_of_paints fun d hd => hpaints d (hbody.every.of_mem_actions hd)
    simp only [hactions, depth?, depthAfter?, Option.bind_some, Nat.zero_add]
    rw [depth?_append, hbody]
    rfl
  | @seq p q _ _ ih₁ ih₂ =>
    rw [Script.actions, depth?_append, ih₁]
    cases p.fault? with
    | none => exact ih₂
    | some fault => rfl
  | @recover p handler _ _ ih₁ ih₂ =>
    rw [Script.actions, depth?_append, ih₁]
    cases p.fault? with
    | none => rfl
    | some fault => exact ih₂ fault

end Bracketed

/-- The journal goes on from the first state to the second one by operations that satisfy `Q`. -/
private def Continues (Q : List (Drawing α) → Prop) (s t : σ × List (Drawing α)) : Prop :=
  ∃ ds, t.2 = s.2 ++ ds ∧ Q ds

private theorem Continues.refl {Q : List (Drawing α) → Prop} (h : Q []) (s : σ × List (Drawing α)) :
    Continues Q s s :=
  ⟨[], by simp, h⟩

private theorem Continues.trans {Q : List (Drawing α) → Prop}
    (h : ∀ {ds ds'}, Q ds → Q ds' → Q (ds ++ ds')) (s t u : σ × List (Drawing α))
    (hst : Continues Q s t) (htu : Continues Q t u) : Continues Q s u := by
  obtain ⟨ds, ht, hds⟩ := hst
  obtain ⟨ds', hu, hds'⟩ := htu
  exact ⟨ds ++ ds', by rw [hu, ht, List.append_assoc], h hds hds'⟩

private theorem every_paints_continues {body : Script (Drawing α)} (h : body.Every (paints · = true))
    (surface : Surface α σ) (s : σ × List (Drawing α)) :
    Continues (fun ds => ∀ d ∈ ds, d.paints = true) s (body.run surface.journaled.perform s).state := by
  refine h.run_rel (Continues.refl (by simp)) (Continues.trans ?_) ?_ s
  · intro ds ds' hds hds' d hd
    exact (List.mem_append.1 hd).elim (hds d) (hds' d)
  · intro d t hd
    exact ⟨[d], rfl, by simpa using hd⟩

/-- Where saving does not fail, the body is run and then the state is restored, however the body ends. -/
theorem state_run_isolated {perform : Drawing α → σ → Outcome σ} {body : Script (Drawing α)} {s : σ}
    (hsave : (perform saveState s).fault = none) :
    ((isolated body).run perform s).state =
      (perform restoreState (body.run perform (perform saveState s).state).state).state := by
  simp only [isolated, Script.run, hsave, Outcome.after]

/-- A relation that brackets keep, and that can be chained, is kept by a run of a bracketed script. -/
theorem Bracketed.run_rel {P : Drawing α → Prop} {perform : Drawing α → σ → Outcome σ} {R : σ → σ → Prop}
    {p : Script (Drawing α)} (hp : Bracketed P p) (refl : ∀ s, R s s) (trans : ∀ s t u, R s t → R t u → R s u)
    (brackets : ∀ body s, body.Straight P → R s ((Drawing.isolated body).run perform s).state) (s : σ) :
    R s (p.run perform s).state := by
  induction hp generalizing s with
  | done => exact refl s
  | note n => exact refl s
  | fail fault => exact refl s
  | isolated hbody => exact brackets _ s hbody
  | seq _ _ ih₁ ih₂ => exact Script.run_seq_rel trans ih₁ ih₂ s
  | recover _ _ ih₁ ih₂ => exact Script.run_recover_rel trans ih₁ ih₂ s

/-- A bracketed script leaves a well-bracketed journal, whatever fails between the brackets. -/
theorem Bracketed.continues {P : Drawing α → Prop} {p : Script (Drawing α)} (hp : Bracketed P p)
    (hpaints : ∀ d, P d → d.paints = true) {surface : Surface α σ}
    (hsave : ∀ s, (surface.perform saveState s).fault = none) (s : σ × List (Drawing α)) :
    ∃ ds, (surface.journaled.paint p s).state.2 = s.2 ++ ds ∧ depth? 0 ds = some 0 := by
  have hnil : depth? (α := α) 0 [] = some 0 := rfl
  have happ : ∀ {ds ds' : List (Drawing α)}, depth? 0 ds = some 0 → depth? 0 ds' = some 0 →
      depth? 0 (ds ++ ds') = some 0 := by
    intro ds ds' h h'
    rw [depth?_append, h]
    exact h'
  show Continues (depth? 0 · = some 0) s (p.run surface.journaled.perform s).state
  refine hp.run_rel (Continues.refl hnil) (Continues.trans happ) (fun body s hbody => ?_) s
  have hsaved : (surface.journaled.perform saveState s).fault = none := hsave s.1
  obtain ⟨ds, hds, hpaints⟩ := every_paints_continues (hbody.every.imp hpaints) surface
    (surface.journaled.perform saveState s).state
  refine ⟨saveState :: (ds ++ [restoreState]), ?_, ?_⟩
  · rw [state_run_isolated hsaved]
    show (body.run surface.journaled.perform _).state.2 ++ [restoreState] = _
    rw [hds]
    simp [Surface.journaled]
  · simp only [depth?, depthAfter?, Option.bind_some, Nat.zero_add]
    rw [depth?_append, depth?_of_paints hpaints]
    rfl

end Drawing

end ReportCard
