import ReportCard.Proofs.Drawing.Transcript

/-!
# What a script shows

A script that does not stop by itself shows the texts of its cells, in order, and a number of lines.  Both add up over
the parts of a script (`Script.Shows`).
-/

namespace ReportCard

variable {α : Type}

namespace Drawing

/-- The text that is drawn in the middle of a box. -/
def cellText? : Drawing α → Option Value
  | textCell text .. => some text
  | _ => none

/-- Whether the drawing is a line. -/
def isLine : Drawing α → Bool
  | line .. => true
  | _ => false

/-- The texts in boxes among drawings. -/
def cellTexts (ds : List (Drawing α)) : List Value := ds.filterMap cellText?

/-- The number of lines among drawings. -/
def lineCount (ds : List (Drawing α)) : Nat := ds.countP isLine

@[simp]
theorem cellTexts_append (ds ds' : List (Drawing α)) : cellTexts (ds ++ ds') = cellTexts ds ++ cellTexts ds' :=
  List.filterMap_append

@[simp]
theorem lineCount_append (ds ds' : List (Drawing α)) : lineCount (ds ++ ds') = lineCount ds + lineCount ds' :=
  List.countP_append

end Drawing

open Drawing

/-- A script comes to its end, and shows texts and a number of lines. -/
structure Script.Shows (p : Script (Drawing α)) (texts : List String) (lines : Nat) : Prop where
  fault : p.fault? = none
  texts : cellTexts p.actions = texts.map .text
  lines : lineCount p.actions = lines

namespace Script.Shows

variable {p q : Script (Drawing α)} {ts us : List String} {m n : Nat}

theorem done : Shows (.done : Script (Drawing α)) [] 0 := ⟨rfl, rfl, rfl⟩

theorem note (note : Note) : Shows (.note note : Script (Drawing α)) [] 0 := ⟨rfl, rfl, rfl⟩

theorem act {d : Drawing α} (htext : d.cellText? = none) (hline : d.isLine = false) : Shows (.act d) [] 0 :=
  ⟨rfl, by simp [actions, cellTexts, htext], by simp [actions, lineCount, hline]⟩

theorem line {d : Drawing α} (htext : d.cellText? = none) (hline : d.isLine = true) : Shows (.act d) [] 1 :=
  ⟨rfl, by simp [actions, cellTexts, htext], by simp [actions, lineCount, hline]⟩

theorem seq (hp : Shows p ts m) (hq : Shows q us n) : Shows (.seq p q) (ts ++ us) (m + n) := by
  refine ⟨?_, ?_, ?_⟩
  · simp [fault?, hp.fault, hq.fault]
  · simp [actions, hp.fault, hp.texts, hq.texts]
  · simp [actions, hp.fault, hp.lines, hq.lines]

theorem when {c : Bool} (hp : c = true → Shows p ts n) :
    Shows (.when c p) (if c then ts else []) (if c then n else 0) := by
  cases c
  · exact done
  · exact hp rfl

theorem isolated (hp : Shows p ts n) : Shows (isolated p) ts n := by
  have hactions : (Drawing.isolated p).actions = [saveState] ++ (p.actions ++ [restoreState]) := actions_isolated p
  refine ⟨?_, ?_, ?_⟩
  · rw [fault?_isolated, hp.fault]
  · rw [hactions, cellTexts_append, cellTexts_append, hp.texts]
    simp [cellTexts, List.filterMap_cons, cellText?]
  · rw [hactions, lineCount_append, lineCount_append, hp.lines]
    simp [lineCount, isLine]

theorem all_cons {ps : List (Script (Drawing α))} (hp : Shows p ts m) (hps : Shows (.all ps) us n) :
    Shows (.all (p :: ps)) (ts ++ us) (m + n) := by
  obtain ⟨hfault, hactions⟩ := Script.all_cons p ps
  refine ⟨?_, ?_, ?_⟩
  · rw [hfault, hp.fault, hps.fault]
    rfl
  · rw [hactions, hp.fault]
    simp [hp.texts, hps.texts]
  · rw [hactions, hp.fault]
    simp [hp.lines, hps.lines]

/-- The texts of parts with at most one line each are shown in order, with as many lines as there are parts with one. -/
theorem all_map {B : Type} {f : B → Script (Drawing α)} {texts : B → List String} {lined : B → Bool} {l : List B}
    (h : ∀ b ∈ l, Shows (f b) (texts b) (lined b).toNat) :
    Shows (.all (l.map f)) (l.flatMap texts) (l.countP lined) := by
  induction l with
  | nil => exact done
  | cons b l ih =>
    have hcons := all_cons (h b (by simp)) (ih fun b' hb' => h b' (by simp [hb']))
    rw [List.map_cons, List.flatMap_cons, List.countP_cons]
    cases hb : lined b <;> simpa [hb, Nat.add_comm] using hcons

end Script.Shows

end ReportCard
