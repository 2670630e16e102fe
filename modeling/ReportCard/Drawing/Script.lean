import ReportCard.Note

/-!
# Scripts

A script says what to do step by step and what to do when a step fails; running it needs only a meaning for the single
actions.  Whatever was done before a failure stays done.
-/

namespace ReportCard

/-- What a run comes to: the state, the notes taken, and the fault it stopped at, if any. -/
structure Outcome (σ : Type) where
  state : σ
  notes : List Note := []
  fault : Option Fault := none

namespace Outcome

variable {σ : Type}

/-- The outcome with earlier notes in front. -/
def after (notes : List Note) (o : Outcome σ) : Outcome σ := { o with notes := notes ++ o.notes }

/-- The outcome of an action that cannot fail. -/
def ok (s : σ) : Outcome σ := ⟨s, [], none⟩

/-- The outcome of an action that fails at once. -/
def stop (s : σ) (fault : Fault) : Outcome σ := ⟨s, [], some fault⟩

end Outcome

/-- A script of actions from `A`. -/
inductive Script (A : Type) where
  /-- Nothing. -/
  | done
  /-- One action. -/
  | act (a : A)
  /-- A note for the log. -/
  | note (n : Note)
  /-- A failure. -/
  | fail (fault : Fault)
  /-- The second part after the first one, unless that fails. -/
  | seq (first second : Script A)
  /-- The cleanup after the body, even if that fails; a fault of the cleanup replaces one of the body. -/
  | ensure (body cleanup : Script A)
  /-- The handler after the body, only if that fails. -/
  | recover (body : Script A) (handler : Fault → Script A)

namespace Script

variable {A B σ : Type}

/-- Runs a script, given what each action does. -/
def run (perform : A → σ → Outcome σ) : Script A → σ → Outcome σ
  | done, s => .ok s
  | act a, s => perform a s
  | note n, s => ⟨s, [n], none⟩
  | fail fault, s => .stop s fault
  | seq first second, s =>
    let o := run perform first s
    match o.fault with
    | some _ => o
    | none => (run perform second o.state).after o.notes
  | ensure body cleanup, s =>
    let o := run perform body s
    let c := run perform cleanup o.state
    ⟨c.state, o.notes ++ c.notes, c.fault.or o.fault⟩
  | recover body handler, s =>
    let o := run perform body s
    match o.fault with
    | some fault => (run perform (handler fault) o.state).after o.notes
    | none => o

/-- The parts of a list one after the other. -/
def all : List (Script A) → Script A
  | [] => done
  | [p] => p
  | p :: ps => seq p (all ps)

/-- The actions of a list one after the other. -/
def acts (actions : List A) : Script A := all (actions.map act)

/-- The script if a condition holds. -/
def when (condition : Bool) (p : Script A) : Script A := if condition then p else done

/-- The script that a result yields, or its failure. -/
def tryIt {β : Type} (result : Except Fault β) (p : β → Script A) : Script A :=
  match result with
  | .ok b => p b
  | .error fault => fail fault

end Script

end ReportCard
