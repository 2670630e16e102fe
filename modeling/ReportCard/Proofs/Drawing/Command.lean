import ReportCard.Drawing.Named
import ReportCard.Proofs.Drawing.Replay
import ReportCard.Proofs.Value.Reading

/-!
# Replaying commands

What a command asks for is the drawing of its operation with the arguments that it names, and with defaults in the place
of those that it leaves out (`Drawing.Command.drawing_eq_ok`).  A surface makes just the drawings that it is asked for,
one after the other, up to the first one that fails.  The command of a recorded drawing names all its arguments, so that
nothing is lost where commands are recorded first and carried out on another surface afterwards, by the names that were
recorded (`Surface.invoke_replay`).
-/

namespace ReportCard

variable {α σ : Type}

namespace Drawing

/-- An operation has an argument for each of its parameters, and makes the drawing with these arguments. -/
theorem make_eq_ok_iff {operation : String} {as : List (Argument α)} {d : Drawing α} :
    make operation as = .ok d ↔ operation = d.operation ∧ as = d.arguments.map Prod.snd := by
  constructor
  · intro h
    unfold make at h
    split at h <;> cases h <;> exact ⟨rfl, rfl⟩
  · rintro ⟨rfl, rfl⟩
    cases d <;> rfl

namespace Command

/-! ### What commands ask for -/

/-- Arguments have no other names than some. -/
def Among (names : List String) (args : List (String × Argument α)) : Prop := ∀ a ∈ args, a.1 ∈ names

/-- Arguments give the four lengths of a box. -/
def GivesBox (args : List (String × Argument α)) (b : Box α) : Prop :=
  args.lookup "x" = some (.length b.x) ∧ args.lookup "y" = some (.length b.y) ∧
    args.lookup "width" = some (.length b.width) ∧ args.lookup "height" = some (.length b.height)

variable [Scalar α]

/-- Arguments give a lettering, which is Helvetica, 12 points high and of no color where they leave that out. -/
def GivesLettering (args : List (String × Argument α)) (l : Lettering α) : Prop :=
  (args.lookup "font_name").getD (.value (.text "Helvetica")) = .value l.fontName ∧
    (args.lookup "font_size").getD (.length (Scalar.ofNat 12)) = .length l.fontSize ∧
    (args.lookup "color").getD (.value .null) = .value l.color

/-- Arguments give the width of a line, which is one point where they leave that out. -/
def GivesLineWidth (args : List (String × Argument α)) (lineWidth : α) : Prop :=
  (args.lookup "line_width").getD (.length (Scalar.ofNat 1)) = .length lineWidth

/-- A command asks for a drawing: it names the operation, and arguments for the drawing and for nothing else.  Where it
leaves that out, frames are not dashed and texts begin on the left. -/
def Asks (c : Command α) : Drawing α → Prop
  | saveState => c.operation = "save_state" ∧ Among [] c.arguments
  | restoreState => c.operation = "restore_state" ∧ Among [] c.arguments
  | fillRect b color => c.operation = "fill_rect" ∧ Among ["x", "y", "width", "height", "color"] c.arguments ∧
      GivesBox c.arguments b ∧ c.arguments.lookup "color" = some (.value color)
  | strokeRect b color lineWidth dash => c.operation = "stroke_rect" ∧
      Among ["x", "y", "width", "height", "color", "line_width", "dash"] c.arguments ∧
      GivesBox c.arguments b ∧ c.arguments.lookup "color" = some (.value color) ∧
      GivesLineWidth c.arguments lineWidth ∧ (c.arguments.lookup "dash").getD (.dash none) = .dash dash
  | line x1 y1 x2 y2 color lineWidth => c.operation = "line" ∧
      Among ["x1", "y1", "x2", "y2", "color", "line_width"] c.arguments ∧
      c.arguments.lookup "x1" = some (.length x1) ∧ c.arguments.lookup "y1" = some (.length y1) ∧
      c.arguments.lookup "x2" = some (.length x2) ∧ c.arguments.lookup "y2" = some (.length y2) ∧
      c.arguments.lookup "color" = some (.value color) ∧ GivesLineWidth c.arguments lineWidth
  | textBox text x y width l align => c.operation = "text_box" ∧
      Among ["text", "x", "y", "width", "font_name", "font_size", "color", "align"] c.arguments ∧
      c.arguments.lookup "text" = some (.value text) ∧ c.arguments.lookup "x" = some (.length x) ∧
      c.arguments.lookup "y" = some (.length y) ∧ c.arguments.lookup "width" = some (.length width) ∧
      GivesLettering c.arguments l ∧ (c.arguments.lookup "align").getD (.value (.text "left")) = .value align
  | textCell text b l => c.operation = "text_cell" ∧
      Among ["text", "x", "y", "width", "height", "font_name", "font_size", "color"] c.arguments ∧
      c.arguments.lookup "text" = some (.value text) ∧ GivesBox c.arguments b ∧ GivesLettering c.arguments l
  | image data b => c.operation = "image" ∧ Among ["data", "x", "y", "width", "height"] c.arguments ∧
      c.arguments.lookup "data" = some (.picture data) ∧ GivesBox c.arguments b

omit [Scalar α] in
/-- Arguments are bound if each of them has a parameter, and each parameter an argument or a default. -/
theorem bound_eq_ok_iff {ps : List (Parameter α)} {args : List (String × Argument α)} {as : List (Argument α)} :
    bound ps args = .ok as ↔ Among (ps.map (·.name)) args ∧
      List.Forall₂ (fun p a => (args.lookup p.name).or p.default? = some a) ps as := by
  have hargument (p : Parameter α) (a : Argument α) :
      p.argument args = .ok a ↔ (args.lookup p.name).or p.default? = some a := by
    unfold Parameter.argument
    cases (args.lookup p.name).or p.default? <;> simp
  have hnames : (args.all fun a => ps.any (·.name == a.1)) = true ↔ Among (ps.map (·.name)) args := by
    simp [Among]
  unfold bound
  split
  · rename_i h
    rw [mapM_eq_ok_iff, and_iff_right (hnames.1 h)]
    simp only [hargument]
  · rename_i h
    exact iff_of_false nofun fun hbound => h (hnames.2 hbound.1)

private theorem drawing_eq_ok_iff {c : Command α} {d : Drawing α} :
    c.drawing = .ok d ↔ c.operation = d.operation ∧ ∃ ps : List (Parameter α), parameters? d.operation = some ps ∧
      Among (ps.map (·.name)) c.arguments ∧
        List.Forall₂ (fun p a => (c.arguments.lookup p.name).or p.default? = some a) ps
          (d.arguments.map Prod.snd) := by
  have hdrawing : c.drawing = .ok d ↔ ∃ ps as, parameters? c.operation = some ps ∧
      bound ps c.arguments = .ok as ∧ make c.operation as = .ok d := by
    unfold drawing
    cases (parameters? c.operation : Option (List (Parameter α))) with
    | none => simp [bind, Except.bind]
    | some ps => cases hbound : bound ps c.arguments <;> simp [bind, Except.bind, hbound]
  rw [hdrawing]
  constructor
  · rintro ⟨ps, as, hps, hbound, hmake⟩
    obtain ⟨hoperation, rfl⟩ := make_eq_ok_iff.1 hmake
    exact ⟨hoperation, ps, hoperation ▸ hps, bound_eq_ok_iff.1 hbound⟩
  · rintro ⟨hoperation, ps, hps, hbound⟩
    rw [hoperation]
    exact ⟨ps, _, hps, bound_eq_ok_iff.2 hbound, make_eq_ok_iff.2 ⟨rfl, rfl⟩⟩

/-- A command stands for a drawing exactly if it asks for it. -/
theorem drawing_eq_ok {c : Command α} {d : Drawing α} : c.drawing = .ok d ↔ c.Asks d := by
  rw [drawing_eq_ok_iff]
  cases d <;>
    simp only [Drawing.operation, Drawing.arguments, parameters?, Option.some.injEq, exists_eq_left', Asks] <;>
    simp [boxArguments, letteringArguments, needed, lineWidthParameter, letteringParameters, GivesBox, GivesLettering,
      GivesLineWidth, and_assoc, Option.or_some, -Option.or_eq_some_iff]

/-! ### What several commands ask for -/

/-- The drawings that commands stand for, up to the first one that stands for none, and the fault of that one. -/
def drawings : List (Command α) → List (Drawing α) × Option Fault
  | [] => ([], none)
  | c :: cs =>
    match c.drawing with
    | .error fault => ([], some fault)
    | .ok d => (d :: (drawings cs).1, (drawings cs).2)

/-- The first commands ask for the drawings one by one, and what follows, if anything, begins with a command that asks
for none. -/
theorem exists_asks (cs : List (Command α)) :
    ∃ asked rest, cs = asked ++ rest ∧ List.Forall₂ Asks asked (drawings cs).1 ∧
      (∀ c ∈ rest.head?, ∀ d, ¬c.Asks d) ∧ ((drawings cs).2 = none ↔ rest = []) := by
  induction cs with
  | nil => exact ⟨[], [], rfl, .nil, by simp, by simp [drawings]⟩
  | cons c cs ih =>
    cases hc : c.drawing with
    | error fault =>
      have hnothing (d : Drawing α) : ¬c.Asks d := fun h => by simp [drawing_eq_ok.2 h] at hc
      exact ⟨[], c :: cs, rfl, by simp [drawings, hc], by simpa using hnothing, by simp [drawings, hc]⟩
    | ok d =>
      obtain ⟨asked, rest, hcs, hasked, hrest, hnone⟩ := ih
      have hcons : drawings (c :: cs) = (d :: (drawings cs).1, (drawings cs).2) := by simp [drawings, hc]
      rw [hcons]
      exact ⟨c :: asked, rest, congrArg (c :: ·) hcs, .cons (drawing_eq_ok.1 hc) hasked, hrest, hnone⟩

/-- The command of a drawing stands for the drawing itself. -/
@[simp]
theorem drawing_command (d : Drawing α) : d.command.drawing = .ok d := by
  cases d <;> rfl

theorem drawings_command (ds : List (Drawing α)) : drawings (ds.map Drawing.command) = (ds, none) := by
  induction ds with
  | nil => rfl
  | cons d ds ih => simp [drawings, ih]

end Command

end Drawing

/-! ### Drawings one after the other -/

namespace Surface

/-- Makes drawings one after the other, up to the first one that fails. -/
def performAll (surface : Surface α σ) : List (Drawing α) → σ → Outcome σ
  | [], s => .ok s
  | d :: ds, s =>
    let o := surface.perform d s
    match o.fault with
    | some _ => o
    | none => (surface.performAll ds o.state).after o.notes

theorem paint_acts (surface : Surface α σ) (ds : List (Drawing α)) (s : σ) :
    surface.paint (.acts ds) s = surface.performAll ds s := by
  induction ds generalizing s with
  | nil => rfl
  | cons d ds ih =>
    rw [paint, Script.run_acts_cons, Script.run, Script.run, performAll]
    cases (surface.perform d s).fault with
    | some fault => rfl
    | none => exact congrArg (Outcome.after _) (ih _)

end Surface

/-- Drawings are recorded one after the other. -/
theorem Recording.performAll_accepting (size : Size α) (ds : List (Drawing α)) (start : Recording α) :
    (accepting size).performAll ds start = ⟨start ++ ds.toArray, [], none⟩ := by
  induction ds generalizing start with
  | nil => simp [Surface.performAll, Outcome.ok]
  | cons d ds ih =>
    have hd : (accepting size).perform d start = .ok (start.push d) := rfl
    simp [Surface.performAll, hd, Outcome.ok, Outcome.after, ih]

namespace Surface

open Drawing (Command)

variable [Scalar α]

/-- Commands carried out one after the other make the drawings that they ask for; one that asks for none ends them. -/
theorem run_acts_invoke (surface : Surface α σ) (cs : List (Command α)) (s : σ) :
    (Script.acts cs).run surface.invoke s =
      let o := surface.performAll (Command.drawings cs).1 s
      { o with fault := o.fault.or (Command.drawings cs).2 } := by
  induction cs generalizing s with
  | nil => rfl
  | cons c cs ih =>
    rw [Script.run_acts_cons, Script.run, Script.run]
    cases hc : c.drawing with
    | error fault =>
      have hinvoke : surface.invoke c s = .stop s fault := by simp [invoke, hc]
      simp [hinvoke, Command.drawings, hc, performAll, Outcome.stop, Outcome.ok]
    | ok d =>
      have hinvoke : surface.invoke c s = surface.perform d s := by simp [invoke, hc]
      have hcons : Command.drawings (c :: cs) = (d :: (Command.drawings cs).1, (Command.drawings cs).2) := by
        simp [Command.drawings, hc]
      rw [hinvoke, hcons, performAll]
      -- either the first drawing ends both sides, or both go on from the state that it leaves
      rcases surface.perform d s with ⟨t, notes, _ | fault⟩
      · simp [ih, Outcome.after]
      · rfl

/-- Commands that are carried out on a surface make the drawings that they ask for there, one after the other up to the
first one that fails.  Where they are recorded first, just these drawings are recorded, with what the commands left out
in its place; and replayed on the surface, each by its name and with all the arguments that were recorded, they come to
the same state, with the same notes and the same fault.  Only a command that asks for no drawing ends the recording
itself, and its fault comes after all others.  Replaying onto a new recording gives the recording again. -/
theorem invoke_replay (target : Surface α σ) (size size' : Size α) (cs : List (Command α)) (s : σ) :
    let recorded := (Script.acts cs).run (Recording.accepting size).invoke #[]
    let replayed := (Script.acts (recorded.state.toList.map Drawing.command)).run target.invoke s
    ∃ (asked rest : List (Command α)) (ds : List (Drawing α)),
      cs = asked ++ rest ∧ List.Forall₂ Command.Asks asked ds ∧ (∀ c ∈ rest.head?, ∀ d, ¬c.Asks d) ∧
      recorded.state = ds.toArray ∧ recorded.notes = [] ∧ (recorded.fault = none ↔ rest = []) ∧
      replayed = target.performAll ds s ∧
      (Script.acts cs).run target.invoke s = { replayed with fault := replayed.fault.or recorded.fault } ∧
      target.paint (Recording.replay recorded.state) s = replayed ∧
      (Recording.accepting size').paint (Recording.replay recorded.state) #[] = ⟨recorded.state, [], none⟩ := by
  intro recorded replayed
  obtain ⟨asked, rest, hcs, hasked, hrest, hnone⟩ := Command.exists_asks cs
  have hrecorded : recorded = ⟨(Command.drawings cs).1.toArray, [], (Command.drawings cs).2⟩ := by
    simp only [recorded]
    rw [run_acts_invoke, Recording.performAll_accepting]
    simp
  have hreplayed : replayed = target.performAll (Command.drawings cs).1 s := by
    simp only [replayed, hrecorded]
    rw [run_acts_invoke, Command.drawings_command]
    simp
  refine ⟨asked, rest, (Command.drawings cs).1, hcs, hasked, hrest, ?_, ?_, ?_, hreplayed, ?_, ?_, ?_⟩
  · rw [hrecorded]
  · rw [hrecorded]
  · rw [hrecorded]
    exact hnone
  · rw [run_acts_invoke, hreplayed, hrecorded]
  · rw [hreplayed, hrecorded, Recording.replay, paint_acts]
  · rw [hrecorded, Recording.replay, paint_acts, Recording.performAll_accepting]
    simp

/-- A surface that records all drawings but images, which it turns down. -/
def imageless : Surface Rat (Recording Rat) :=
  Recording.surface ⟨600, 800⟩ fun d => if d.operation == "image" then some .unsupported else none

/-- Commands that leave out what has a default, with an image before the last one. -/
def terseCommands : List (Command Rat) :=
  [⟨"save_state", []⟩,
    ⟨"stroke_rect", corner ++ [("color", .value (.text "red"))]⟩,
    ⟨"line", [("color", .value .null), ("x1", .length 0), ("y1", .length 0), ("x2", .length 9), ("y2", .length 0)]⟩,
    ⟨"text_box", [("text", .value (.text "Art")), ("x", .length 1), ("y", .length 2), ("width", .length 3)]⟩,
    ⟨"text_cell", ("text", .value (.text "B")) :: corner ++ [("font_size", .length 8)]⟩,
    ⟨"image", ("data", .picture (.other "torn")) :: corner⟩, ⟨"restore_state", []⟩]
where
  corner : List (String × Drawing.Argument Rat) :=
    [("x", .length 1), ("y", .length 2), ("width", .length 3), ("height", .length 4)]

/-- The drawings that the commands before the image ask for. -/
def terseDrawings : List (Drawing Rat) :=
  [.saveState, .strokeRect ⟨1, 2, 3, 4⟩ (.text "red") 1 none, .line 0 0 9 0 .null 1,
    .textBox (.text "Art") 1 2 3 ⟨.text "Helvetica", 12, .null⟩ (.text "left"),
    .textCell (.text "B") ⟨1, 2, 3, 4⟩ ⟨.text "Helvetica", 8, .null⟩]

/-- All drawings are recorded, and the image ends the replay just where it ends the drawing. -/
theorem invoke_replay_imageless :
    let recorded := (Script.acts terseCommands).run (Recording.accepting ⟨600, 800⟩).invoke #[]
    let direct := (Script.acts terseCommands).run imageless.invoke #[]
    recorded.fault = none ∧
      recorded.state = terseDrawings.toArray ++ #[.image (.other "torn") ⟨1, 2, 3, 4⟩, .restoreState] ∧
      direct.fault = some .unsupported ∧ direct.state = terseDrawings.toArray ∧
      (Script.acts (recorded.state.toList.map Drawing.command)).run imageless.invoke #[] = direct ∧
      imageless.paint (Recording.replay recorded.state) #[] = direct := by
  intro recorded direct
  let replayed := (Script.acts (recorded.state.toList.map Drawing.command)).run imageless.invoke #[]
  obtain ⟨-, -, ds, -, -, -, -, -, -, -, hdirect, hpaint, -⟩ :=
    invoke_replay imageless ⟨600, 800⟩ ⟨600, 800⟩ terseCommands #[]
  have hfault : recorded.fault = none := rfl
  have hreplayed : direct = { replayed with fault := replayed.fault.or recorded.fault } := hdirect
  rw [hfault, Option.or_none] at hreplayed
  exact ⟨hfault, rfl, rfl, rfl, hreplayed.symm, hpaint.trans hreplayed.symm⟩

end Surface

end ReportCard
