import ReportCard.Drawing.Recorder

/-!
# Transcripts

On a surface where nothing fails, a script makes the same drawings, takes the same notes and stops at the same fault
whatever was drawn before it.  These are its `actions`, its `log` and its `fault?`, by recursion on the script alone:
keeping a journal of a script appends its actions and does nothing else (`Script.run_push`).  A script without a fault
comes to its end with its actions (`Script.ComesTo`).
-/

namespace ReportCard

namespace Script

variable {A B : Type}

/-- The fault that a script stops at when none of its actions fails. -/
def fault? : Script A → Option Fault
  | done => none
  | act _ => none
  | note _ => none
  | fail fault => some fault
  | seq first second => first.fault?.or second.fault?
  | ensure body cleanup => cleanup.fault?.or body.fault?
  | recover body handler => body.fault?.bind fun fault => (handler fault).fault?

/-- The actions that a script comes to when none of them fails. -/
def actions : Script A → List A
  | done => []
  | act a => [a]
  | note _ => []
  | fail _ => []
  | seq first second => first.actions ++ if first.fault?.isSome then [] else second.actions
  | ensure body cleanup => body.actions ++ cleanup.actions
  | recover body handler => body.actions ++ (body.fault?.map fun fault => (handler fault).actions).getD []

/-- The notes that a script takes when none of its actions fails. -/
def log : Script A → List Note
  | done => []
  | act _ => []
  | note n => [n]
  | fail _ => []
  | seq first second => first.log ++ if first.fault?.isSome then [] else second.log
  | ensure body cleanup => body.log ++ cleanup.log
  | recover body handler => body.log ++ (body.fault?.map fun fault => (handler fault).log).getD []

/-! ### Combinations of scripts -/

theorem all_cons (p : Script A) (ps : List (Script A)) :
    (all (p :: ps)).fault? = p.fault?.or (all ps).fault? ∧
      (all (p :: ps)).actions = p.actions ++ if p.fault?.isSome then [] else (all ps).actions := by
  cases ps with
  | nil => simp [all, fault?, actions]
  | cons q qs => simp [all, fault?, actions]

theorem fault?_all_eq_none {ps : List (Script A)} :
    (all ps).fault? = none ↔ ∀ p ∈ ps, p.fault? = none := by
  induction ps with
  | nil => simp [all, fault?]
  | cons p ps ih => simp [(all_cons p ps).1, ih]

/-- Scripts one after the other stop at a fault at which one of them stops. -/
theorem exists_fault?_of_all {ps : List (Script A)} {fault : Fault} (h : (all ps).fault? = some fault) :
    ∃ p ∈ ps, p.fault? = some fault := by
  induction ps with
  | nil => cases h
  | cons p ps ih =>
    rw [(all_cons p ps).1] at h
    rcases Option.or_eq_some_iff.1 h with hp | ⟨-, hps⟩
    · exact ⟨p, by simp, hp⟩
    · obtain ⟨q, hq, hfault⟩ := ih hps
      exact ⟨q, by simp [hq], hfault⟩

theorem fault?_tryIt_eq_none {result : Except Fault B} {p : B → Script A} :
    (tryIt result p).fault? = none ↔ ∃ b, result = .ok b ∧ (p b).fault? = none := by
  cases result <;> simp [tryIt, fault?]

/-! ### Scripts that come to their end -/

/-- Where none of its actions fails, the script comes to its end, with the given actions. -/
structure ComesTo (p : Script A) (as : List A) : Prop where
  fault : p.fault? = none
  actions : p.actions = as

namespace ComesTo

variable {p q : Script A} {as bs : List A}

theorem done : ComesTo (.done : Script A) [] := ⟨rfl, rfl⟩

theorem act (a : A) : ComesTo (.act a) [a] := ⟨rfl, rfl⟩

theorem note (n : Note) : ComesTo (.note n : Script A) [] := ⟨rfl, rfl⟩

theorem seq (hp : ComesTo p as) (hq : ComesTo q bs) : ComesTo (.seq p q) (as ++ bs) := by
  refine ⟨?_, ?_⟩
  · simp [fault?, hp.fault, hq.fault]
  · simp [Script.actions, hp.fault, hp.actions, hq.actions]

theorem when {c : Bool} (hp : c = true → ComesTo p as) : ComesTo (.when c p) (if c then as else []) := by
  cases c
  · exact done
  · exact hp rfl

theorem tryIt {result : Except Fault B} {f : B → Script A} {b : B} (hresult : result = .ok b)
    (hp : ComesTo (f b) as) : ComesTo (.tryIt result f) as := by
  rw [hresult]
  exact hp

theorem all_map {f : B → Script A} {g : B → List A} {l : List B} (h : ∀ b ∈ l, ComesTo (f b) (g b)) :
    ComesTo (.all (l.map f)) (l.flatMap g) := by
  induction l with
  | nil => exact done
  | cons b l ih =>
    have hb := h b (by simp)
    have hl := ih fun b' hb' => h b' (by simp [hb'])
    obtain ⟨hfault, hactions⟩ := all_cons (f b) (l.map f)
    rw [List.map_cons, List.flatMap_cons]
    refine ⟨?_, ?_⟩
    · rw [hfault, hb.fault, hl.fault, Option.or_none]
    · rw [hactions, hb.fault, hb.actions, hl.actions]
      rfl

theorem acts (as : List A) : ComesTo (.acts as) as := by
  have h := all_map fun a (_ : a ∈ as) => act a
  rwa [List.flatMap_singleton'] at h

end ComesTo

/-! ### Journals -/

/-- Keeping an image of each action in a journal appends the images of the actions to it. -/
theorem run_push (f : A → B) (p : Script A) (journal : Array B) :
    p.run (fun a journal => .ok (journal.push (f a))) journal =
      ⟨journal ++ (p.actions.map f).toArray, p.log, p.fault?⟩ := by
  induction p generalizing journal with
  | done => simp [run, actions, log, fault?, Outcome.ok]
  | act a => simp [run, actions, log, fault?, Outcome.ok]
  | note n => simp [run, actions, log, fault?]
  | fail fault => simp [run, actions, log, fault?, Outcome.stop]
  | seq first second ih₁ ih₂ =>
    rw [run, ih₁]
    cases h : first.fault? with
    | none => simp [ih₂, actions, log, fault?, Outcome.after, h]
    | some fault => simp [actions, log, fault?, h]
  | ensure body cleanup ih₁ ih₂ =>
    rw [run, ih₁]
    simp [ih₂, actions, log, fault?]
  | recover body handler ih₁ ih₂ =>
    rw [run, ih₁]
    cases h : body.fault? with
    | none => simp [actions, log, fault?, h]
    | some fault => simp [ih₂, actions, log, fault?, Outcome.after, h]

end Script

namespace Drawing

variable {α : Type}

@[simp]
theorem fault?_isolated (body : Script (Drawing α)) : (isolated body).fault? = body.fault? := by
  simp [isolated, Script.fault?]

@[simp]
theorem actions_isolated (body : Script (Drawing α)) :
    (isolated body).actions = saveState :: (body.actions ++ [restoreState]) := by
  simp [isolated, Script.actions, Script.fault?]

theorem comesTo_isolated {body : Script (Drawing α)} {ds : List (Drawing α)} (h : body.ComesTo ds) :
    (isolated body).ComesTo (saveState :: (ds ++ [restoreState])) := by
  refine ⟨?_, ?_⟩
  · rw [fault?_isolated, h.fault]
  · rw [actions_isolated, h.actions]

end Drawing

namespace Recording

variable {α : Type}

/-- The surface that records every drawing. -/
def accepting (size : Size α) : Surface α (Recording α) := surface size fun _ => none

/-- Recording a script appends its actions to what was recorded before. -/
theorem paint_accepting (size : Size α) (p : Script (Drawing α)) (start : Recording α) :
    (accepting size).paint p start = ⟨start ++ p.actions.toArray, p.log, p.fault?⟩ := by
  have h := Script.run_push id p start
  rwa [List.map_id] at h

end Recording

end ReportCard
