import ReportCard.Image.Source
import ReportCard.Proofs.Value.Writing
import ReportCard.Record.Display

/-!
# Records that can be printed

Everything that is found in a record can be written if the payload that the record is read from can, and so it can be
printed wherever it is shown.
-/

namespace ReportCard

open Value (holdWritable)

theorem formatNumber_prints (v : Value) : Prints (v.isWritable = true) (formatNumber v) := v.written_prints _

theorem orNotAvailable_prints (v : Value) : Prints (v.isWritable = true) (orNotAvailable v) := by
  unfold orNotAvailable
  split
  · exact .ok _ _
  · exact formatNumber_prints v

namespace Value

theorem isWritable_orElse {v w : Value} (hv : v.isWritable = true) (hw : w.isWritable = true) :
    (v.orElse w).isWritable = true := by
  unfold orElse
  split <;> assumption

theorem isWritable_orDefault {v w : Value} (hv : v.isWritable = true) (hw : w.isWritable = true) :
    (v.orDefault w).isWritable = true := by
  unfold orDefault
  split <;> assumption

end Value

namespace Record

theorem holdWritable_entriesOf {v : Value} (h : v.isWritable = true) : holdWritable (entriesOf v) = true := by
  cases v with
  | mapping es => exact h
  | _ => rfl

theorem holdWritable_of_mem_mappingsOf {v : Value} (h : v.isWritable = true) {es : Entries} (hes : es ∈ mappingsOf v) :
    holdWritable es = true := by
  obtain ⟨item, hitem, hentries⟩ := List.mem_filterMap.1 hes
  rw [Value.entries?_eq_some_iff] at hentries
  cases hitems : v.items? with
  | none => simp [hitems] at hitem
  | some items =>
    rw [hitems] at hitem
    have hwritable := Value.isWritable_of_mem_items h hitems hitem
    rwa [hentries] at hwritable

/-- Everything in a record can be written. -/
structure IsWritable (r : Record) : Prop where
  student : holdWritable r.student = true
  school : holdWritable r.school = true
  studentClass : holdWritable r.studentClass = true
  session : holdWritable r.session = true
  period : holdWritable r.period = true
  results : ∀ result ∈ r.results, holdWritable result = true
  gradingScale : ∀ band ∈ r.gradingScale, holdWritable band = true
  summary : holdWritable r.summary = true
  cumulative : ∀ name, (findIn r.cumulative name).isWritable = true
  attendance : ∀ name, (findIn r.attendance name).isWritable = true

theorem isWritable_find {es : Entries} (h : holdWritable es = true) (names : List String) :
    (find es names).isWritable = true :=
  Value.isWritable_reach (v := .mapping es) h names

private theorem isWritable_findIn {v : Value} (h : v.isWritable = true) (name : String) :
    (findIn v.entries? name).isWritable = true := by
  cases v with
  | mapping es => exact Entries.isWritable_get h name
  | _ => rfl

/-- A record that is read from what can be written can be written. -/
theorem isWritable_ofValue {payload : Value} (h : payload.isWritable = true) : (ofValue payload).IsWritable := by
  have hget (name : String) : ((entriesOf payload).get name).isWritable = true :=
    Entries.isWritable_get (holdWritable_entriesOf h) name
  have hentries (name : String) := holdWritable_entriesOf (hget name)
  exact {
    student := hentries "student"
    school := hentries "school"
    studentClass := hentries "studentClass"
    session := hentries "academicSession"
    period := hentries "period"
    results := fun _ => holdWritable_of_mem_mappingsOf (hget "results")
    gradingScale := fun _ => holdWritable_of_mem_mappingsOf (hget "gradingScale")
    summary := hentries "summary"
    cumulative := isWritable_findIn (hget "cumulative")
    attendance := isWritable_findIn (hget "attendance") }

theorem IsWritable.firstResult {r : Record} (h : r.IsWritable) : holdWritable r.firstResult = true := by
  unfold Record.firstResult
  cases hresults : r.results with
  | nil => rfl
  | cons result results => exact h.results result (by simp [hresults])

theorem imageSource_of_isWritable {r : Record} {field : Option String}
    (h : (r.imageOrNull field).isWritable = true) : r.imageSource field = .ok (r.sourceText field) :=
  Value.written_of_isWritable h _

theorem sourceText_of_imageSource {r : Record} {field : Option String} {source? : Option String}
    (h : r.imageSource field = .ok source?) : r.sourceText field = source? :=
  (Value.written_eq_ok_iff.1 h).2

end Record

end ReportCard
