import ReportCard.Page.Settings
import ReportCard.Proofs.Value.Writing

/-!
# Pages of settings

A setting gives the dimensions of a page by the name of a sheet, or by listing two numbers.  It is refused if it gives
none, or one that is zero or less; otherwise the page has its dimensions, turned as asked.  Two things are missed: a
whole number outside the range of doubles stops the reading with a fault of its own, and a dimension that is not a
number counts as positive.  And a setting that cannot be written cannot be refused by its name
(`Settings.page_settled_iff`).
-/

namespace ReportCard

/-- What is no number stops a reading as one that is too large only if it is. -/
theorem Value.asFloat_eq_numberTooLarge_iff {v : Value} : v.asFloat = .error .numberTooLarge ↔ v.IsOversized := by
  cases v with
  | int n =>
    have hoversized : (int n).IsOversized ↔ doubleBound ≤ n.natAbs := by
      constructor
      · rintro ⟨_, ⟨⟩, h⟩
        exact h
      · exact fun h => ⟨n, rfl, h⟩
    rw [hoversized]
    show floatOfInt n = _ ↔ _
    unfold floatOfInt
    split <;> simp_all
  | decimal d =>
    refine iff_of_false ?_ nofun
    cases h : d.toFloat? <;> simp [asFloat, h]
  | text s =>
    refine iff_of_false ?_ nofun
    cases h : Numeral.float? s <;> simp [asFloat, h]
  | _ => exact iff_of_false nofun nofun

namespace PageSize

variable {setting : Value} {landscape : Bool} {d : Size Float}

/-! ### Dimensions -/

/-- The dimensions that a setting gives: those of the sheet that it names, or the two numbers that it lists. -/
inductive Gives (setting : Value) (d : Size Float) : Prop where
  | sheet {name : String} (hsetting : setting = .text name) (hsheet : sheet? name = some d)
  | pair {v w : Value} (hlisted : listed? setting = some [v, w]) (hwidth : v.asFloat = .ok d.width)
      (hheight : w.asFloat = .ok d.height)

/-- Among the first three things that a setting lists there is a whole number outside the range of doubles, and what
comes before it can be read. -/
def Overflows (setting : Value) : Prop :=
  ∃ before v after, listed? setting = some (before ++ v :: after) ∧ before.length < 3 ∧
    (∀ u ∈ before, ∃ x, u.asFloat = .ok x) ∧ v.IsOversized

/-- The first three things that a setting lists cannot be read because one of them is too large. -/
private theorem overflows_iff {items : List Value} (h : listed? setting = some items) :
    Overflows setting ↔ (items.take 3).mapM Value.asFloat = .error .numberTooLarge := by
  rw [mapM_eq_error_iff]
  constructor
  · rintro ⟨before, v, after, hlisted, hlength, hbefore, hv⟩
    obtain rfl := Option.some.inj (h.symm.trans hlisted)
    refine ⟨before, v, after.take (2 - before.length), ?_, hbefore, Value.asFloat_eq_numberTooLarge_iff.2 hv⟩
    rw [List.take_append, List.take_of_length_le (by omega), show 3 - before.length = 2 - before.length + 1 by omega,
      List.take_succ_cons]
  · rintro ⟨before, v, after, htake, hbefore, hv⟩
    have hitems : items = before ++ v :: after ++ items.drop 3 := by rw [← htake, List.take_append_drop]
    refine ⟨before, v, after ++ items.drop 3, ?_, ?_, hbefore, Value.asFloat_eq_numberTooLarge_iff.1 hv⟩
    · rw [List.append_assoc, List.cons_append] at hitems
      rw [h, ← hitems]
    · have hlength := congrArg List.length htake
      simp only [List.length_take, List.length_append, List.length_cons] at hlength
      omega

/-- Two things are listed if no more than two of the first three are there. -/
private theorem eq_pair_of_take {items : List Value} {x y : Float}
    (h : (items.take 3).mapM Value.asFloat = .ok [x, y]) :
    ∃ v w, items = [v, w] ∧ v.asFloat = .ok x ∧ w.asFloat = .ok y := by
  rw [mapM_eq_ok_iff] at h
  match items, h with
  | [v, w], .cons hv (.cons hw _) => exact ⟨v, w, rfl, hv, hw⟩
  | _ :: _ :: _ :: _, .cons _ (.cons _ h) => cases h

/-- What is read of a setting are the dimensions that it gives. -/
theorem dimensions_eq_ok_iff : dimensions setting = .ok d ↔ Gives setting d := by
  constructor
  · intro h
    unfold dimensions at h
    split at h
    · rename_i name
      cases hsheet : sheet? name with
      | none => simp [hsheet] at h
      | some d' =>
        obtain rfl : d' = d := by simpa [hsheet] using h
        exact .sheet rfl hsheet
    · unfold pair at h
      cases hlisted : listed? setting with
      | none => simp [hlisted] at h
      | some items =>
        simp only [hlisted] at h
        obtain ⟨numbers, hnumbers, h⟩ := bind_eq_ok_iff.1 h
        cases hread : (items.take 3).mapM Value.asFloat with
        | error fault => simp [hread, relabel] at hnumbers
        | ok numbers' =>
          obtain rfl : numbers' = numbers := by simpa [hread, relabel] using hnumbers
          match numbers', h with
          | [x, y], rfl =>
            obtain ⟨v, w, rfl, hv, hw⟩ := eq_pair_of_take hread
            exact .pair hlisted hv hw
  · rintro (⟨rfl, hsheet⟩ | ⟨hlisted, hwidth, hheight⟩)
    · simp [dimensions, hsheet]
    · have hpair : dimensions setting = pair setting := by
        cases setting with
        | text name => cases hlisted
        | _ => rfl
      simp [hpair, pair, hlisted, hwidth, hheight, relabel, bind, Except.bind, pure, Except.pure]

/-- A setting that gives no dimensions is refused, unless it overflows. -/
theorem dimensions_eq_error {fault : Fault} (h : dimensions setting = .error fault) :
    fault = setting.told .invalidPageSize ∨ fault = .numberTooLarge ∧ Overflows setting := by
  unfold dimensions at h
  split at h
  · rename_i name
    left
    cases hsheet : sheet? name <;> simp_all
  · unfold pair at h
    cases hlisted : listed? setting with
    | none => simp_all
    | some items =>
      rw [overflows_iff hlisted]
      simp only [hlisted] at h
      cases hread : (items.take 3).mapM Value.asFloat with
      | error f =>
        rw [hread] at h
        by_cases hf : f = .numberTooLarge
        · obtain rfl : f = fault := by simpa [relabel, hf, bind, Except.bind] using h
          exact .inr ⟨hf, congrArg _ hf⟩
        · left
          simpa [relabel, hf, bind, Except.bind] using h.symm
      | ok numbers =>
        left
        rw [hread] at h
        simp only [relabel, bind, Except.bind] at h
        split at h
        · cases h
        · exact (Except.error.inj h).symm

/-- A setting that overflows gives nothing. -/
theorem dimensions_of_overflows (h : Overflows setting) : dimensions setting = .error .numberTooLarge := by
  obtain ⟨before, v, after, hlisted, -⟩ := id h
  have hread := (overflows_iff hlisted).1 h
  have hpair : dimensions setting = pair setting := by
    cases setting with
    | text name => cases hlisted
    | _ => rfl
  simp only [hpair, pair, hlisted, hread, relabel, bind, Except.bind, if_true]

/-! ### Pages -/

/-- The page has the dimensions in one order or the other: both are above zero, and the first is no less than the second
if the page is to lie, and otherwise no more. -/
structure Turned (d : Size Float) (landscape : Bool) (size : Size Float) : Prop where
  eq_or_eq : size = d ∨ size = ⟨d.height, d.width⟩
  width : 0.0 < size.width
  height : 0.0 < size.height
  order : if landscape then size.height ≤ size.width else size.width ≤ size.height

/-- What a setting comes to as it should: a page of the dimensions that it gives, or a refusal of the setting. -/
def Settled (setting : Value) (landscape : Bool) : Except Fault (Size Float) → Prop
  | .ok size => ∃ d, Gives setting d ∧ Turned d landscape size
  | .error fault => fault = .invalidPageSize setting.literal ∨ fault = .emptyPageSize setting.literal

/-- A setting is refused as it should be if it can be written. -/
theorem settled_told_iff {wording : String → Fault}
    (h : wording = .invalidPageSize ∨ wording = .emptyPageSize) :
    Settled setting landscape (.error (setting.told wording)) ↔ setting.isWritable = true := by
  unfold Value.told
  split
  · rename_i hwritable
    refine iff_of_true ?_ hwritable
    rcases h with rfl | rfl
    · exact .inl rfl
    · exact .inr rfl
  · rename_i hwritable
    exact iff_of_false (fun hsettled => by rcases hsettled with hfault | hfault <;> cases hfault) hwritable

/-- One of the dimensions is not a number, and neither is zero or less. -/
structure IsVoid (d : Size Float) : Prop where
  nan : d.width.isNaN = true ∨ d.height.isNaN = true
  width : ¬d.width ≤ 0.0
  height : ¬d.height ≤ 0.0

theorem ofSetting_of_overflows (h : Overflows setting) (landscape : Bool) :
    ofSetting setting landscape = .error .numberTooLarge := by
  simp only [ofSetting, dimensions_of_overflows h, bind, Except.bind]

/-- The dimensions are turned, unless one of them is zero or less. -/
theorem ofSetting_of_gives (h : Gives setting d) (landscape : Bool) : ofSetting setting landscape =
    if d.width ≤ 0.0 ∨ d.height ≤ 0.0 then .error (setting.told .emptyPageSize)
    else .ok (if landscape then lying d else upright d) := by
  simp only [ofSetting, dimensions_eq_ok_iff.2 h, bind, Except.bind, Bool.or_eq_true, decide_eq_true_iff]
  split <;> rfl

theorem turn_eq_or_eq (d : Size Float) (landscape : Bool) :
    (if landscape then lying d else upright d) = d ∨
      (if landscape then lying d else upright d) = ⟨d.height, d.width⟩ := by
  cases landscape with
  | true =>
    rw [if_pos rfl, lying]
    split
    · exact .inr rfl
    · exact .inl rfl
  | false =>
    rw [if_neg (by decide), upright]
    split
    · exact .inr rfl
    · exact .inl rfl

/-- Numbers above zero are turned as asked. -/
theorem turned_of_pos (hwidth : 0.0 < d.width) (hheight : 0.0 < d.height) (landscape : Bool) :
    Turned d landscape (if landscape then lying d else upright d) := by
  have hw := (not_isNaN_of_le (float_le_of_lt hwidth)).2
  have hh := (not_isNaN_of_le (float_le_of_lt hheight)).2
  cases landscape with
  | true =>
    rw [if_pos rfl, lying]
    split <;> rename_i hlt
    · exact ⟨.inr rfl, hheight, hwidth, float_le_of_lt hlt⟩
    · exact ⟨.inl rfl, hwidth, hheight, float_le_of_not_lt hw hh hlt⟩
  | false =>
    rw [if_neg (by decide), upright]
    split <;> rename_i hle
    · exact ⟨.inr rfl, hheight, hwidth, hle⟩
    · exact ⟨.inl rfl, hwidth, hheight, float_le_of_not_le hh hw hle⟩

/-- A setting gives one pair of dimensions at most. -/
theorem Gives.unique {d' : Size Float} (h : Gives setting d) (h' : Gives setting d') : d' = d :=
  Except.ok.inj ((dimensions_eq_ok_iff.2 h').symm.trans (dimensions_eq_ok_iff.2 h))

/-- Dimensions that are not zero or less are above zero, unless they are void. -/
theorem pos_of_not_isVoid (hvoid : ¬IsVoid d) (hwidth : ¬d.width ≤ 0.0) (hheight : ¬d.height ≤ 0.0) :
    0.0 < d.width ∧ 0.0 < d.height := by
  by_cases hnan : d.width.isNaN = true ∨ d.height.isNaN = true
  · exact absurd ⟨hnan, hwidth, hheight⟩ hvoid
  · rw [not_or] at hnan
    exact ⟨(not_le_zero_iff.1 hwidth).resolve_right hnan.1, (not_le_zero_iff.1 hheight).resolve_right hnan.2⟩

/-- The dimensions are both above zero. -/
def IsPositive (d : Size Float) : Prop := 0.0 < d.width ∧ 0.0 < d.height

/-- The page of a setting that gives dimensions is as it should be, unless they are void, or are refused and the setting
cannot be written. -/
theorem settled_of_gives (h : Gives setting d) (landscape : Bool) :
    Settled setting landscape (ofSetting setting landscape) ↔
      ¬IsVoid d ∧ (setting.isWritable = true ∨ IsPositive d) := by
  rw [ofSetting_of_gives h]
  by_cases hle : d.width ≤ 0.0 ∨ d.height ≤ 0.0
  · have hvoid : ¬IsVoid d := fun hvoid => hle.elim hvoid.width hvoid.height
    have hpositive : ¬IsPositive d := fun hpos =>
      hle.elim (not_le_zero_iff.2 (.inl hpos.1)) (not_le_zero_iff.2 (.inl hpos.2))
    rw [if_pos hle, settled_told_iff (.inr rfl), and_iff_right hvoid, or_iff_left hpositive]
  rw [if_neg hle]
  rw [not_or] at hle
  constructor
  · -- A page that is turned is above zero both ways, so that neither dimension is missing.
    rintro ⟨d', h', hturned⟩
    have hpositive : IsPositive d := by
      have hwidth := hturned.width
      have hheight := hturned.height
      rw [← h.unique h']
      rcases hturned.eq_or_eq with heq | heq <;> rw [heq] at hwidth hheight
      · exact ⟨hwidth, hheight⟩
      · exact ⟨hheight, hwidth⟩
    refine ⟨fun hvoid => ?_, .inr hpositive⟩
    have hw := (not_isNaN_of_le (float_le_of_lt hpositive.1)).2
    have hh := (not_isNaN_of_le (float_le_of_lt hpositive.2)).2
    exact hvoid.nan.elim (fun h => Bool.false_ne_true (hw.symm.trans h)) fun h => Bool.false_ne_true (hh.symm.trans h)
  · rintro ⟨hvoid, -⟩
    obtain ⟨hwidth, hheight⟩ := pos_of_not_isVoid hvoid hle.1 hle.2
    exact ⟨d, h, turned_of_pos hwidth hheight landscape⟩

/-- A setting that gives no dimensions comes to what it should, unless it overflows or cannot be written. -/
theorem settled_of_not_gives (h : ∀ d, ¬Gives setting d) (landscape : Bool) :
    Settled setting landscape (ofSetting setting landscape) ↔ ¬Overflows setting ∧ setting.isWritable = true := by
  cases hdimensions : dimensions setting with
  | ok d => exact absurd (dimensions_eq_ok_iff.1 hdimensions) (h d)
  | error fault =>
    have hpage : ofSetting setting landscape = .error fault := by simp [ofSetting, hdimensions, bind, Except.bind]
    rw [hpage]
    by_cases hoverflows : Overflows setting
    · obtain rfl := Except.error.inj (hdimensions.symm.trans (dimensions_of_overflows hoverflows))
      refine iff_of_false (fun hsettled => ?_) fun hnot => hnot.1 hoverflows
      rcases hsettled with hfault | hfault <;> cases hfault
    · obtain rfl := (dimensions_eq_error hdimensions).resolve_right fun h => hoverflows h.2
      rw [settled_told_iff (.inl rfl), and_iff_right hoverflows]

end PageSize

open PageSize

/-- The page of a setting is as it should be, unless the setting lists a whole number outside the range of doubles, or
gives a dimension that is not a number beside one that is not zero or less, or cannot be written although it has to be
refused.  In the first case there is no page, and the fault is none of the setting; in the second there is a page with
that dimension. -/
theorem Settings.page_settled_iff (s : Settings) (landscape : Bool) :
    let setting := s.pageSize.getD (.text "A4")
    (Settled setting landscape (s.page landscape) ↔ ¬Overflows setting ∧ (∀ d, Gives setting d → ¬IsVoid d) ∧
        (setting.isWritable = true ∨ ∃ d, Gives setting d ∧ IsPositive d)) ∧
      (∀ d, Gives setting d → 0.0 < d.width → 0.0 < d.height →
        ∃ size, s.page landscape = .ok size ∧ Turned d landscape size) ∧
      (Overflows setting → s.page landscape = .error .numberTooLarge) ∧
      ∀ d, Gives setting d → IsVoid d →
        ∃ size, s.page landscape = .ok size ∧ (size = d ∨ size = ⟨d.height, d.width⟩) := by
  intro setting
  have hpage : s.page landscape = ofSetting setting landscape := rfl
  rw [hpage]
  refine ⟨?_, ?_, ?_, ?_⟩
  · by_cases h : ∃ d, Gives setting d
    · obtain ⟨d, hd⟩ := h
      have hoverflows : ¬Overflows setting := fun hoverflows => by
        cases (dimensions_of_overflows hoverflows).symm.trans (dimensions_eq_ok_iff.2 hd)
      rw [settled_of_gives hd, and_iff_right hoverflows]
      refine and_congr ⟨fun hvoid d' hd' => ?_, fun h => h d hd⟩ (or_congr_right ⟨fun hpos => ⟨d, hd, hpos⟩, ?_⟩)
      · rwa [hd.unique hd']
      · rintro ⟨d', hd', hpos⟩
        rwa [← hd.unique hd']
    · rw [not_exists] at h
      rw [settled_of_not_gives h]
      refine and_congr_right fun _ => ⟨fun hwritable => ⟨fun d hd => absurd hd (h d), .inl hwritable⟩, ?_⟩
      rintro ⟨-, hwritable | ⟨d, hd, -⟩⟩
      · exact hwritable
      · exact absurd hd (h d)
  · intro d hd hwidth hheight
    have hle : ¬(d.width ≤ 0.0 ∨ d.height ≤ 0.0) := by
      rw [not_or]
      exact ⟨not_le_zero_iff.2 (.inl hwidth), not_le_zero_iff.2 (.inl hheight)⟩
    rw [ofSetting_of_gives hd, if_neg hle]
    exact ⟨_, rfl, turned_of_pos hwidth hheight landscape⟩
  · exact fun hoverflows => ofSetting_of_overflows hoverflows landscape
  · intro d hd hvoid
    rw [ofSetting_of_gives hd, if_neg fun h => h.elim hvoid.width hvoid.height]
    exact ⟨_, rfl, turn_eq_or_eq d landscape⟩

/-- A width that is not a number is the width of a page, and a width that is too large is a fault of its own. -/
theorem Settings.page_nan_width :
    (∃ size, Settings.page { pageSize := some (.list [.text "nan", .int 5]) } false = .ok size ∧
      size.width.isNaN = true ∧ ¬0.0 < size.width) ∧
      Settings.page { pageSize := some (.list [.int doubleBound, .int 5]) } false = .error .numberTooLarge := by
  constructor
  · obtain ⟨size, hpage, hsize⟩ := exists_ok_of_any
      (x := Settings.page { pageSize := some (.list [.text "nan", .int 5]) } false)
      (p := fun size => size.width.isNaN && !decide (0.0 < size.width)) (by decide +kernel)
    obtain ⟨hnan, hpos⟩ := (Bool.and_eq_true ..).mp hsize
    exact ⟨size, hpage, hnan, by simpa using hpos⟩
  · have hoversized : (Value.int doubleBound).IsOversized := ⟨doubleBound, rfl, by simp⟩
    have hoverflows : Overflows (.list [.int doubleBound, .int 5]) :=
      ⟨[], .int doubleBound, [.int 5], rfl, by decide, nofun, hoversized⟩
    exact ofSetting_of_overflows hoverflows false

end ReportCard
