import ReportCard.Proofs.Element.Reading
import ReportCard.Proofs.Record.Writing
import ReportCard.Record.Field

/-!
# When a field fails

Two fields are computed from numbers of the record, and what is no number counts as zero there.  So they fail only at a
whole number outside the range of doubles, or at a share of days that no whole number is nearest to.  All other fields
have a text in every record that holds data alone, as far as its numbers can be written
(`Field.resolveSymbol_eq_error_iff`).
-/

namespace ReportCard

/-! ### Data -/

namespace Value

mutual

/-- Whether the value is data alone: it holds no objects, and no signalling numbers. -/
def isData : Value → Bool
  | object .. => false
  | decimal (.notANumber _ signalling _) => !signalling
  | list items | tuple items => areData items
  | mapping entries => holdData entries
  | _ => true

/-- Whether each of the values is data alone. -/
def areData : List Value → Bool
  | [] => true
  | v :: vs => v.isData && areData vs

/-- Whether the values of entries are data alone. -/
def holdData : List (String × Value) → Bool
  | [] => true
  | (_, v) :: es => v.isData && holdData es

end

theorem isData_get {es : Entries} (h : holdData es = true) (key : String) : (es.get key).isData = true := by
  induction es with
  | nil => rfl
  | cons e es ih =>
    obtain ⟨name, v⟩ := e
    rw [holdData, Bool.and_eq_true] at h
    rw [Entries.get, List.lookup_cons]
    split
    · exact h.1
    · exact ih h.2

theorem holdData_entriesOf {v : Value} (h : v.isData = true) : holdData (Record.entriesOf v) = true := by
  cases v with
  | mapping es => exact h
  | _ => rfl

/-- Data is printed as a day, if it is not one, as it is displayed. -/
private theorem formatDate_prints {v : Value} (h : v.isData = true) :
    Prints (v.isWritable = true) (formatDate v) := by
  cases v with
  | object es present => cases h
  | date d => exact .ok _ _
  | _ => exact written_prints _ _

/-- Data can be compared to zero. -/
private theorem exists_equalsZero {v : Value} (h : v.isData = true) : ∃ b, v.equalsZero = .ok b := by
  cases v with
  | decimal d =>
    cases d with
    | notANumber negative signalling payload =>
      cases signalling with
      | true => cases h
      | false => exact ⟨_, rfl⟩
    | _ => exact ⟨_, rfl⟩
  | _ => exact ⟨_, rfl⟩

/-! ### Numbers -/

/-- Reading a double fails exactly at a whole number outside the range of doubles. -/
theorem floatOrZero_eq_error_iff {v : Value} {fault : Fault} :
    v.floatOrZero = .error fault ↔ fault = .numberTooLarge ∧ v.IsOversized := by
  cases v with
  | int n =>
    have hsize : (int n).IsOversized ↔ doubleBound ≤ n.natAbs :=
      ⟨fun ⟨_, h, hn⟩ => int.inj h ▸ hn, fun h => ⟨n, rfl, h⟩⟩
    rw [hsize, floatOrZero, floatOfInt]
    split
    · rename_i h
      simp [h, eq_comm]
    · rename_i h
      simp [h]
  | _ => exact ⟨nofun, fun ⟨_, _, h, _⟩ => nomatch h⟩

/-- All other values count as some double. -/
theorem exists_floatOrZero {v : Value} (h : ¬v.IsOversized) : ∃ x, v.floatOrZero = .ok x := by
  cases hx : v.floatOrZero with
  | ok x => exact ⟨x, rfl⟩
  | error fault => exact absurd (floatOrZero_eq_error_iff.1 hx).2 h

/-- What is missing counts as the double zero. -/
theorem floatOrZero_orDefault (v : Value) : (v.orDefault (.int 0)).floatOrZero = v.floatOrZero := by
  cases v with
  | null => exact if_neg (Nat.not_le.2 (by decide +kernel))
  | _ => rfl

end Value

/-- Rounding fails exactly at a double that is not finite. -/
theorem roundToEven_eq_error_iff {x : Float} {fault : Fault} :
    roundToEven x = .error fault ↔
      x.isNaN = true ∧ fault = .wholeOfNaN ∨ x.isInf = true ∧ fault = .wholeOfInfinity := by
  have hnan : x.isNaN = x.toModel.unpack.isNaN := rfl
  have hinf : x.isInf = x.toModel.unpack.isInf := rfl
  unfold roundToEven Exact.ofFloat
  rw [hnan, hinf]
  cases x.toModel.unpack with
  | notANumber => exact ⟨fun h => .inl ⟨rfl, (Except.error.inj h).symm⟩, fun h => h.elim (fun h => h.2 ▸ rfl) nofun⟩
  | infinity s => exact ⟨fun h => .inr ⟨rfl, (Except.error.inj h).symm⟩, fun h => h.elim nofun fun h => h.2 ▸ rfl⟩
  | zero s => exact ⟨nofun, fun h => h.elim nofun nofun⟩
  | finite s m e h => exact ⟨nofun, fun h => h.elim nofun nofun⟩

/-! ### Fields -/

namespace Field

variable {r : Record} {fault : Fault}

theorem runningTotal_eq_error_iff :
    runningTotal r = .error fault ↔ fault = .numberTooLarge ∧
      ((Record.findIn r.cumulative "previousTotal").IsOversized ∨ (r.summary.get "totalScore").IsOversized) := by
  unfold runningTotal
  simp only [Value.floatOrZero_orDefault, bind_eq_error_iff, Value.floatOrZero_eq_error_iff]
  constructor
  · rintro (h | ⟨x, -, h | ⟨y, -, h⟩⟩)
    · exact ⟨h.1, .inl h.2⟩
    · exact ⟨h.1, .inr h.2⟩
    · cases h
  · rintro ⟨hfault, hsize⟩
    by_cases hprevious : (Record.findIn r.cumulative "previousTotal").IsOversized
    · exact .inl ⟨hfault, hprevious⟩
    · obtain ⟨x, hx⟩ := Value.exists_floatOrZero hprevious
      exact .inr ⟨x, hx, .inl ⟨hfault, hsize.resolve_left hprevious⟩⟩

theorem attendanceShare_eq_error_iff :
    attendanceShare r = .error fault ↔
      fault = .numberTooLarge ∧ (Record.findIn r.attendance "totalDays").IsOversized ∨
      ∃ total, (Record.findIn r.attendance "totalDays").floatOrZero = .ok total ∧ (0.0 < total ∨ total.isNaN = true) ∧
        (fault = .numberTooLarge ∧ (Record.findIn r.attendance "daysPresent").IsOversized ∨
          ∃ present, (Record.findIn r.attendance "daysPresent").floatOrZero = .ok present ∧
            ((present / total * 100.0).isNaN = true ∧ fault = .wholeOfNaN ∨
              (present / total * 100.0).isInf = true ∧ fault = .wholeOfInfinity)) := by
  unfold attendanceShare
  simp only [Value.floatOrZero_orDefault]
  rw [bind_eq_error_iff, Value.floatOrZero_eq_error_iff]
  refine or_congr Iff.rfl (exists_congr fun total => and_congr_right fun _ => ?_)
  rw [← not_le_zero_iff]
  by_cases hle : total ≤ 0.0
  · rw [if_pos hle]
    exact ⟨nofun, fun h => absurd hle h.1⟩
  · rw [if_neg hle, bind_eq_error_iff, Value.floatOrZero_eq_error_iff, and_iff_right hle]
    refine or_congr Iff.rfl (exists_congr fun present => and_congr_right fun _ => ?_)
    rw [bind_eq_error_iff, roundToEven_eq_error_iff]
    exact or_iff_left fun ⟨_, _, h⟩ => nomatch h

private theorem dateAt_prints {es : Entries} (h : Value.holdData es = true) (name default : String) :
    Prints (Value.holdWritable es = true) (dateAt es name default) := by
  unfold dateAt
  dsimp only
  split
  · exact (Value.formatDate_prints (Value.isData_get h name)).mono fun h => Entries.isWritable_get h name
  · exact .ok _ _

private theorem textAt_prints (es : Entries) (names : List String) :
    Prints (Value.holdWritable es = true) (textAt es names) :=
  (formatNumber_prints _).mono fun h => Record.isWritable_find h names

private theorem textOrNotAvailable_prints (es : Entries) (names : List String) :
    Prints (Value.holdWritable es = true) (textOrNotAvailable es names) :=
  (orNotAvailable_prints _).mono fun h => Record.isWritable_find h names

private theorem rank_prints (h : Value.holdData r.summary = true) :
    Prints (Value.holdWritable r.summary = true) (rank r) := by
  obtain ⟨b, hb⟩ := Value.exists_equalsZero (Value.isData_get h "position")
  unfold rank
  dsimp only
  split
  · exact .ok _ _
  · rw [hb]
    cases b with
    | true => exact .ok _ _
    | false => exact (formatNumber_prints _).mono fun h => Entries.isWritable_get h "position"

private theorem bandText_prints (band : Entries) (key : String) :
    Prints (Value.holdWritable band = true) (bandText band key) := by
  unfold bandText
  cases hlookup : band.lookup key with
  | none => exact .ok _ _
  | some v =>
    refine (Value.written_prints v _).mono fun h => ?_
    have hget := Entries.isWritable_get h key
    rwa [Entries.get, hlookup] at hget

private theorem bandItem_prints (band : Entries) : Prints (Value.holdWritable band = true) (bandItem band) := by
  have hscore (key : String) : Prints (Value.holdWritable band = true) (formatNumber (band.get key)) :=
    (formatNumber_prints _).mono fun h => Entries.isWritable_get h key
  exact (bandText_prints band _).bind fun _ => ((hscore _).bind fun _ => (hscore _).bind fun _ => .ok _ _).bind fun _ =>
    .ok _ _

private theorem bandLine_prints (band : Entries) : Prints (Value.holdWritable band = true) (bandLine band) :=
  (bandItem_prints band).bind fun _ => (bandText_prints band _).bind fun _ => .ok _ _

/-- Fields that are not computed have a text in every record that is read from data, if it can be written. -/
theorem resolve_prints {payload : Value} (h : payload.isData = true) (asList : Bool) {field : Field}
    (hshare : field ≠ .attendancePercentage) (htotal : field ≠ .cumulativeTotal) :
    Prints (Record.ofValue payload).IsWritable (resolve (Record.ofValue payload) asList field) := by
  have hdata (name : String) : Value.holdData (Record.entriesOf ((Record.entriesOf payload).get name)) = true :=
    Value.holdData_entriesOf (Value.isData_get (Value.holdData_entriesOf h) name)
  have hstudent : Value.holdData (Record.ofValue payload).student = true := hdata "student"
  have hperiod : Value.holdData (Record.ofValue payload).period = true := hdata "period"
  have hsummary : Value.holdData (Record.ofValue payload).summary = true := hdata "summary"
  generalize Record.ofValue payload = r at hstudent hperiod hsummary ⊢
  have hbands {f : Entries → Except Fault String} (hf : ∀ band, Prints (Value.holdWritable band = true) (f band))
      (separator : String) : Prints r.IsWritable ((r.gradingScale.mapM f).map (Text.joinWith separator)) :=
    (Prints.mapM fun band hband => (hf band).mono fun h => h.gradingScale band hband).map _
  have hattendance (name : String) : Prints r.IsWritable (orNotAvailable (Record.findIn r.attendance name)) :=
    (orNotAvailable_prints _).mono fun h => h.attendance name
  cases field with
  | attendancePercentage => exact absurd rfl hshare
  | cumulativeTotal => exact absurd rfl htotal
  | studentName => exact (textAt_prints r.student _).mono (·.student)
  | gender => exact (textOrNotAvailable_prints r.student _).mono (·.student)
  | dateOfBirth => exact (dateAt_prints hstudent _ _).mono (·.student)
  | nextTermDate => exact (dateAt_prints hperiod _ _).mono (·.period)
  | admissionNumber =>
    exact (orNotAvailable_prints _).mono fun h => Value.isWritable_orElse
      (Entries.isWritable_get h.student _) (Entries.isWritable_get h.studentClass _)
  | schoolName | schoolAddress | schoolMotto | schoolPhone | schoolEmail | schoolWebsite =>
    exact (textAt_prints r.school _).mono (·.school)
  | className | classSection => exact (textOrNotAvailable_prints r.studentClass _).mono (·.studentClass)
  | academicSession => exact (textOrNotAvailable_prints r.session _).mono (·.session)
  | termName => exact (textOrNotAvailable_prints r.period _).mono (·.period)
  | studentsInClass => exact (textOrNotAvailable_prints r.summary _).mono (·.summary)
  | totalScore | overallGrade => exact (textAt_prints r.summary _).mono (·.summary)
  | totalObtainable => exact .ok _ _
  | averageScore =>
    unfold resolve
    dsimp only
    split
    · exact .ok _ _
    · exact ((formatNumber_prints _).map _).mono fun h => Entries.isWritable_get h.summary _
  | position => exact (rank_prints hsummary).mono (·.summary)
  | teacherComment | adminComment => exact (textAt_prints r.firstResult _).mono (·.firstResult)
  | gradingScale =>
    cases asList with
    | false => exact hbands bandItem_prints ", "
    | true => exact hbands bandLine_prints "\n"
  | daysPresent | daysAbsent | totalDays => exact hattendance _
  | cumulativeAverage =>
    exact ((formatNumber_prints _).map _).mono fun h => Value.isWritable_orElse (h.cumulative _) rfl
  | termCount =>
    have hone : (Value.int 1).isWritable = true := Value.isWritable_int_of_lt (by decide +kernel)
    exact (formatNumber_prints _).mono fun h => Value.isWritable_orDefault (h.cumulative _) hone

/-- In a record of data a field fails in two cases only, as far as the numbers of the record are not too long to be
written.  The total of all terms fails if it is computed from a whole number outside the range of doubles.  So does the
share of days, and it fails, too, if the number of days is above zero or not a number, and the share is not finite. -/
theorem resolveSymbol_eq_error_iff {payload : Value} (h : payload.isData = true) (symbol displayType : Value)
    (fault : Fault) (hwritable : payload.isWritable = true ∨ fault ≠ .numberTooLong) :
    let r := Record.ofValue payload
    let total := Record.findIn r.attendance "totalDays"
    let present := Record.findIn r.attendance "daysPresent"
    resolveSymbol r symbol displayType = .error fault ↔
      symbol = .text "cumulative_total" ∧ fault = .numberTooLarge ∧
          ((Record.findIn r.cumulative "previousTotal").IsOversized ∨ (r.summary.get "totalScore").IsOversized) ∨
        symbol = .text "attendance_percentage" ∧
          (fault = .numberTooLarge ∧ total.IsOversized ∨
            ∃ t, total.floatOrZero = .ok t ∧ (0.0 < t ∨ t.isNaN = true) ∧
              (fault = .numberTooLarge ∧ present.IsOversized ∨
                ∃ p, present.floatOrZero = .ok p ∧
                  ((p / t * 100.0).isNaN = true ∧ fault = .wholeOfNaN ∨
                    (p / t * 100.0).isInf = true ∧ fault = .wholeOfInfinity))) := by
  intro r total present
  have htext (s : String) : symbol.isText s = true ↔ symbol = .text s := by
    cases symbol <;> simp [Value.isText]
  have htotal : ofValue? symbol = some .cumulativeTotal ↔ symbol = .text "cumulative_total" :=
    (Value.choose_eq_some_iff (by decide) (by decide) symbol).trans (htext _)
  have hshare : ofValue? symbol = some .attendancePercentage ↔ symbol = .text "attendance_percentage" :=
    (Value.choose_eq_some_iff (by decide) (by decide) symbol).trans (htext _)
  rw [← runningTotal_eq_error_iff, ← attendanceShare_eq_error_iff, ← htotal, ← hshare]
  unfold resolveSymbol
  cases ofValue? symbol with
  | none => simp
  | some field =>
    by_cases hfield : field = .cumulativeTotal
    · subst hfield
      simp [resolve]
    by_cases hfield' : field = .attendancePercentage
    · subst hfield'
      simp [resolve]
    have hprints : resolve r (displayType.isText "list") field ≠ .error fault := fun hfault => by
      obtain ⟨hlong, hnot⟩ := resolve_prints h (displayType.isText "list") hfield' hfield fault hfault
      exact hwritable.elim (fun hpayload => hnot (Record.isWritable_ofValue hpayload)) fun hne => hne hlong
    simp [hprints, hfield, hfield']

/-- A payload with a number of days that is not a number, and a total outside the range of doubles. -/
def unsoundPayload : Value :=
  .mapping [("attendance", .mapping [("totalDays", .text "nan"), ("daysPresent", .float 3.0)]),
    ("cumulative", .mapping [("previousTotal", .int doubleBound)]), ("summary", .mapping [("totalScore", .text "-")])]

/-- Both computed fields fail, and no other one does. -/
theorem resolveSymbol_eq_error_iff_unsound :
    unsoundPayload.isData = true ∧ unsoundPayload.isWritable = true ∧
      resolveSymbol (Record.ofValue unsoundPayload) (.text "attendance_percentage") .null = .error .wholeOfNaN ∧
      resolveSymbol (Record.ofValue unsoundPayload) (.text "cumulative_total") .null = .error .numberTooLarge ∧
      ∀ fault, resolveSymbol (Record.ofValue unsoundPayload) (.text "total_score") .null ≠ .error fault := by
  have hdata : unsoundPayload.isData = true := rfl
  have hwritable : unsoundPayload.isWritable = true := by decide +kernel
  refine ⟨hdata, hwritable, ?_, ?_, fun fault h => ?_⟩
  · refine (resolveSymbol_eq_error_iff hdata _ _ _ (.inl hwritable)).2 (.inr ⟨rfl, .inr ⟨_, rfl, .inr ?_, .inr ?_⟩⟩)
    · decide +kernel
    · exact ⟨_, rfl, .inl ⟨by decide +kernel, rfl⟩⟩
  · exact (resolveSymbol_eq_error_iff hdata _ _ _ (.inl hwritable)).2 (.inl ⟨rfl, rfl, .inl ⟨_, rfl, Nat.le_refl _⟩⟩)
  · rcases (resolveSymbol_eq_error_iff hdata _ _ _ (.inl hwritable)).1 h with ⟨hsymbol, -⟩ | ⟨hsymbol, -⟩
    · exact absurd (Value.text.inj hsymbol) (by decide)
    · exact absurd (Value.text.inj hsymbol) (by decide)

end Field

end ReportCard
