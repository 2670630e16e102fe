import ReportCard.Record.Field

/-!
# Null entries of records

A null in a record says the same as a missing entry.  The derivations of all fields look entries up so that they
cannot tell the two apart, except for the texts of grading bands: there a null grade or remark is printed as a word of
its own (`Field.resolveSymbol_without_iff`).
-/

namespace ReportCard

namespace Entries

theorem lookup_erase (es : Entries) (key name : String) :
    (es.erase key).lookup name = if name = key then none else es.lookup name := by
  induction es with
  | nil => simp [erase]
  | cons e es ih =>
    obtain ⟨k, v⟩ := e
    rw [erase, List.filter_cons]
    by_cases hk : k = key
    · subst hk
      rw [if_neg (by simp), ← erase, ih, List.lookup_cons]
      by_cases hname : name = k <;> simp [hname, beq_false_of_ne]
    · rw [if_pos (by simpa using hk), List.lookup_cons, List.lookup_cons, ← erase, ih]
      by_cases hname : name = k
      · subst hname
        simp [hk]
      · simp [beq_false_of_ne hname]

/-- Without a null entry the same is found at every key. -/
theorem get_erase_of_null {es : Entries} {key : String} (h : es.lookup key = some .null) (name : String) :
    (es.erase key).get name = es.get name := by
  rw [get, get, lookup_erase]
  split
  · rename_i hname
    rw [hname, h]
    rfl
  · rfl

/-- The entries with the values at a key changed. -/
def alter (es : Entries) (key : String) (f : Value → Value) : Entries :=
  es.map fun e => if e.1 == key then (e.1, f e.2) else e

theorem lookup_alter (es : Entries) (key : String) (f : Value → Value) (name : String) :
    (es.alter key f).lookup name = if name = key then (es.lookup name).map f else es.lookup name := by
  induction es with
  | nil => simp [alter]
  | cons e es ih =>
    obtain ⟨k, v⟩ := e
    rw [alter, List.map_cons, ← alter]
    by_cases hk : k = key <;> by_cases hname : name = k <;>
      simp_all [List.lookup_cons, beq_false_of_ne]

theorem get_alter {es : Entries} {key : String} {v : Value} (h : es.lookup key = some v) (f : Value → Value)
    (name : String) : (es.alter key f).get name = if name = key then f v else es.get name := by
  rw [get, lookup_alter]
  split
  · rename_i hname
    rw [hname, h]
    rfl
  · rfl

end Entries

namespace Value

/-- The entries of a mapping, or the attributes of an object. -/
def fields : Value → Entries
  | mapping es | object es _ => es
  | _ => []

/-- The value without what it holds under a name. -/
def without (key : String) : Value → Value
  | mapping es => mapping (Entries.erase es key)
  | object es present => object (Entries.erase es key) present
  | v => v

/-- The value at the end of a path through mappings and lists, if it leads anywhere. -/
def at? : List Key → Value → Option Value
  | [], v => some v
  | .name s :: rest, mapping es => (es.lookup s).bind (at? rest)
  | .index i :: rest, list items | .index i :: rest, tuple items => (items[i.toNat]?).bind (at? rest)
  | _, _ => none

/-- The value with the one at the end of a path changed. -/
def alterAt (f : Value → Value) : List Key → Value → Value
  | [], v => f v
  | .name s :: rest, mapping es => mapping (Entries.alter es s (alterAt f rest))
  | .index i :: rest, list items => list (items.modify i.toNat (alterAt f rest))
  | .index i :: rest, tuple items => tuple (items.modify i.toNat (alterAt f rest))
  | _, v => v

theorem at?_name {s : String} {rest : List Key} {v w : Value} (h : v.at? (.name s :: rest) = some w) :
    ∃ (es : Entries) (u : Value), v = mapping es ∧ es.lookup s = some u ∧ u.at? rest = some w := by
  cases v with
  | mapping es =>
    obtain ⟨u, hu, hw⟩ := Option.bind_eq_some_iff.1 h
    exact ⟨es, u, rfl, hu, hw⟩
  | _ => cases h

theorem at?_index {i : Nat} {rest : List Key} {v w : Value} (h : v.at? (.index i :: rest) = some w)
    (f : Value → Value) :
    ∃ items u, v.items? = some items ∧ items[i]? = some u ∧ u.at? rest = some w ∧
      (v.alterAt f (.index i :: rest)).items? = some (items.modify i (alterAt f rest)) := by
  cases v with
  | list items | tuple items =>
    obtain ⟨u, hu, hw⟩ := Option.bind_eq_some_iff.1 h
    exact ⟨items, u, rfl, hu, hw, rfl⟩
  | _ => cases h

/-- A value holds the same as another one under every name, and is a mapping if that is one. -/
structure Alike (v v' : Value) : Prop where
  member : ∀ name, v'.member name = v.member name
  kind : v'.entries?.isSome = v.entries?.isSome

theorem Alike.refl (v : Value) : v.Alike v := ⟨fun _ => rfl, rfl⟩

/-- A value without a null is like the value with it. -/
theorem alike_without {v : Value} {key : String} (h : v.fields.lookup key = some .null) :
    v.Alike (v.without key) := by
  cases v with
  | mapping es => exact ⟨Entries.get_erase_of_null h, rfl⟩
  | object es present => exact ⟨Entries.get_erase_of_null h, rfl⟩
  | _ => cases h

end Value

/-- The records that fields are read from, by their place in a payload. -/
inductive RecordPlace where
  | payload
  | student
  | user
  | school
  | studentClass
  | schoolClass
  | session
  | period
  | summary
  | cumulative
  | attendance
  | result (i : Nat)
  | band (i : Nat)
deriving Repr, DecidableEq

namespace RecordPlace

/-- The path to a record. -/
def path : RecordPlace → List Key
  | payload => []
  | student => [.name "student"]
  | user => [.name "student", .name "user"]
  | school => [.name "school"]
  | studentClass => [.name "studentClass"]
  | schoolClass => [.name "studentClass", .name "class"]
  | session => [.name "academicSession"]
  | period => [.name "period"]
  | summary => [.name "summary"]
  | cumulative => [.name "cumulative"]
  | attendance => [.name "attendance"]
  | result i => [.name "results", .index i]
  | band i => [.name "gradingScale", .index i]

end RecordPlace

namespace Record

private theorem find_cons (es : Entries) (name : String) (names : List String) :
    find es (name :: names) = (es.get name).reach names :=
  rfl

/-- The same is read from two records for every field but the grading scale. -/
structure ReadsAs (r r' : Record) : Prop where
  student : ∀ name ≠ "user", r'.student.get name = r.student.get name
  user : ∀ name, (r'.student.get "user").member name = (r.student.get "user").member name
  school : ∀ name, r'.school.get name = r.school.get name
  studentClass : ∀ name ≠ "class", r'.studentClass.get name = r.studentClass.get name
  schoolClass : ∀ name, (r'.studentClass.get "class").member name = (r.studentClass.get "class").member name
  session : ∀ name, r'.session.get name = r.session.get name
  period : ∀ name, r'.period.get name = r.period.get name
  results : r'.results.length = r.results.length
  firstResult : ∀ name, r'.firstResult.get name = r.firstResult.get name
  summary : ∀ name, r'.summary.get name = r.summary.get name
  cumulative : ∀ name, findIn r'.cumulative name = findIn r.cumulative name
  attendance : ∀ name, findIn r'.attendance name = findIn r.attendance name

theorem ReadsAs.refl (r : Record) : r.ReadsAs r := by
  constructor <;> intros <;> rfl

theorem ReadsAs.resolve_eq {r r' : Record} (h : r.ReadsAs r') (asList : Bool) {field : Field}
    (hfield : field ≠ .gradingScale) : Field.resolve r' asList field = Field.resolve r asList field := by
  cases field with
  | gradingScale => exact absurd rfl hfield
  | _ =>
    simp [Field.resolve, Field.textAt, Field.textOrNotAvailable, Field.dateAt, Field.rank, Field.attendanceShare,
      Field.runningTotal, find_cons, Value.reach, h.student, h.user, h.school, h.studentClass, h.schoolClass,
      h.session, h.period, h.results, h.firstResult, h.summary, h.cumulative, h.attendance]

end Record

namespace Record

/-! ### Records without a null -/

private theorem entriesOf_get {v : Value} (h : v.entries?.isSome) (name : String) :
    (entriesOf v).get name = v.member name := by
  cases v with
  | mapping es => rfl
  | _ => cases h

private theorem findIn_entries? (v : Value) (name : String) : findIn v.entries? name = (entriesOf v).get name := by
  cases v <;> rfl

private theorem get_entriesOf_of_alike {v v' : Value} (h : v.Alike v') (name : String) :
    (entriesOf v').get name = (entriesOf v).get name := by
  cases hkind : v.entries?.isSome with
  | true => rw [entriesOf_get hkind, entriesOf_get (h.kind.trans hkind), h.member]
  | false =>
    have hkind' := h.kind.trans hkind
    simp only [Option.isSome_eq_false_iff, Option.isNone_iff_eq_none] at hkind hkind'
    simp [entriesOf, hkind, hkind']

private theorem findIn_of_alike {v v' : Value} (h : v.Alike v') (name : String) :
    findIn v'.entries? name = findIn v.entries? name := by
  rw [findIn_entries?, findIn_entries?, get_entriesOf_of_alike h]

/-- Payloads that hold the same lists and otherwise alike records read the same. -/
private theorem readsAs_of_alike {payload payload' : Value}
    (h : ∀ name, ((entriesOf payload).get name).Alike ((entriesOf payload').get name))
    (hresults : (entriesOf payload').get "results" = (entriesOf payload).get "results") :
    (ofValue payload).ReadsAs (ofValue payload') where
  student name _ := get_entriesOf_of_alike (h _) name
  user name := congrArg (·.member name) (get_entriesOf_of_alike (h _) "user")
  school := get_entriesOf_of_alike (h _)
  studentClass name _ := get_entriesOf_of_alike (h _) name
  schoolClass name := congrArg (·.member name) (get_entriesOf_of_alike (h _) "class")
  session := get_entriesOf_of_alike (h _)
  period := get_entriesOf_of_alike (h _)
  results := by simp only [ofValue, hresults]
  firstResult name := by simp only [firstResult, ofValue, hresults]
  summary := get_entriesOf_of_alike (h _)
  cumulative := findIn_of_alike (h _)
  attendance := findIn_of_alike (h _)

/-- Where an item of a list is changed, the mappings in the list stay the same, or one of them is changed. -/
private theorem mappingsOf_alterAt {v w : Value} {i : Nat} (key : String) (h : v.at? [.index i] = some w) :
    (w.entries? = none ∧ mappingsOf (v.alterAt (·.without key) [.index i]) = mappingsOf v) ∨
      ∃ (es : Entries) (before after : List Entries), w = .mapping es ∧ mappingsOf v = before ++ es :: after ∧
        mappingsOf (v.alterAt (·.without key) [.index i]) = before ++ es.erase key :: after := by
  obtain ⟨items, u, hitems, hu, hw, hitems'⟩ := Value.at?_index h (·.without key)
  obtain rfl : u = w := Option.some.inj hw
  obtain ⟨hi, hget⟩ := List.getElem?_eq_some_iff.1 hu
  obtain ⟨before, w, after, rfl, hlength, hmodify⟩ := List.exists_of_modify (Value.alterAt (·.without key) []) hi
  obtain rfl : w = u := by simpa [← hlength] using hget
  rw [mappingsOf, mappingsOf, hitems, hitems', hmodify]
  cases w with
  | mapping es =>
    refine .inr ⟨es, before.filterMap Value.entries?, after.filterMap Value.entries?, rfl, ?_, ?_⟩ <;>
      simp [Value.entries?, Value.alterAt, Value.without]
  | _ => exact .inl ⟨rfl, by simp [List.filterMap_cons, Value.entries?, Value.alterAt, Value.without]⟩

/-- Where a value under a name is changed, the values under all other names stay the same. -/
private theorem get_alterAt {payload v : Value} {name : String} {rest : List Key} (f : Value → Value)
    (h : payload.at? (.name name :: rest) = some v) :
    ((entriesOf payload).get name).at? rest = some v ∧
      ∀ other, (entriesOf (payload.alterAt f (.name name :: rest))).get other =
        if other = name then ((entriesOf payload).get name).alterAt f rest else (entriesOf payload).get other := by
  obtain ⟨es, u, rfl, hu, hv⟩ := Value.at?_name h
  have hget : es.get name = u := by rw [Entries.get, hu]; rfl
  refine ⟨(congrArg (Value.at? rest) hget).trans hv, fun other => ?_⟩
  show (es.alter name (Value.alterAt f rest)).get other =
    if other = name then (es.get name).alterAt f rest else es.get other
  rw [Entries.get_alter hu, hget]

/-- Where a null is left out of a record within another one, both still read the same. -/
private theorem get_alterAt_inner {outer v : Value} {inner key : String} (h : outer.at? [.name inner] = some v)
    (halike : v.Alike (v.without key)) :
    let entries := entriesOf outer
    let entries' := entriesOf (outer.alterAt (·.without key) [.name inner])
    (∀ name ≠ inner, entries'.get name = entries.get name) ∧
      ∀ name, (entries'.get inner).member name = (entries.get inner).member name := by
  obtain ⟨hv, hget⟩ := get_alterAt (·.without key) h
  obtain rfl : (entriesOf outer).get inner = v := Option.some.inj hv
  refine ⟨fun name hname => (hget name).trans (if_neg hname), fun name => ?_⟩
  rw [hget, if_pos rfl]
  exact halike.member name

/-- Where a null is left out of one of its records, a payload still reads the same. -/
theorem readsAs_without {payload v : Value} {place : RecordPlace} {key : String}
    (hplace : payload.at? place.path = some v) (hnull : v.fields.lookup key = some .null) :
    (ofValue payload).ReadsAs (ofValue (payload.alterAt (·.without key) place.path)) := by
  have halike := Value.alike_without hnull
  cases place with
  | payload =>
    obtain rfl : payload = v := Option.some.inj hplace
    have hget := get_entriesOf_of_alike halike
    refine readsAs_of_alike (fun name => ?_) (hget _)
    rw [RecordPlace.path, Value.alterAt, hget]
    exact .refl _
  | student | school | studentClass | session | period | summary | cumulative | attendance =>
    obtain ⟨hv, hget⟩ := get_alterAt (·.without key) hplace
    refine readsAs_of_alike (fun name => ?_) (hget "results")
    rw [RecordPlace.path, hget]
    split
    · rename_i hname
      rw [hname, Option.some.inj hv]
      exact halike
    · exact .refl _
  | user =>
    obtain ⟨hv, hget⟩ := get_alterAt (·.without key) hplace
    have hrecord : ofValue (payload.alterAt (·.without key) RecordPlace.user.path) = { ofValue payload with
        student := entriesOf (((entriesOf payload).get "student").alterAt (·.without key) [.name "user"]) } := by
      simp [ofValue, RecordPlace.path, hget]
    obtain ⟨hstudent, huser⟩ := get_alterAt_inner hv halike
    rw [hrecord]
    exact { ReadsAs.refl _ with student := hstudent, user := huser }
  | schoolClass =>
    obtain ⟨hv, hget⟩ := get_alterAt (·.without key) hplace
    have hrecord : ofValue (payload.alterAt (·.without key) RecordPlace.schoolClass.path) = { ofValue payload with
        studentClass :=
          entriesOf (((entriesOf payload).get "studentClass").alterAt (·.without key) [.name "class"]) } := by
      simp [ofValue, RecordPlace.path, hget]
    obtain ⟨hclass, hinner⟩ := get_alterAt_inner hv halike
    rw [hrecord]
    exact { ReadsAs.refl _ with studentClass := hclass, schoolClass := hinner }
  | result i =>
    obtain ⟨hv, hget⟩ := get_alterAt (·.without key) hplace
    have hrecord : ofValue (payload.alterAt (·.without key) (RecordPlace.result i).path) = { ofValue payload with
        results := mappingsOf (((entriesOf payload).get "results").alterAt (·.without key) [.index i]) } := by
      simp [ofValue, RecordPlace.path, hget]
    have hold : (ofValue payload).results = mappingsOf ((entriesOf payload).get "results") := rfl
    rw [hrecord]
    rcases mappingsOf_alterAt key hv with ⟨-, hsame⟩ | ⟨result, before, after, rfl, hbefore, hafter⟩
    · rw [hsame, ← hold]
      exact .refl _
    · -- of the results only their number and the entries of the first one are read
      refine { ReadsAs.refl _ with results := ?_, firstResult := fun name => ?_ }
      · rw [hold, hbefore, hafter]
        simp
      · rw [firstResult, firstResult, hold, hbefore, hafter]
        cases before with
        | nil => exact Entries.get_erase_of_null hnull name
        | cons e before => rfl
  | band i =>
    obtain ⟨-, hget⟩ := get_alterAt (·.without key) hplace
    have hrecord : ofValue (payload.alterAt (·.without key) (RecordPlace.band i).path) = { ofValue payload with
        gradingScale := mappingsOf (((entriesOf payload).get "gradingScale").alterAt (·.without key) [.index i]) } := by
      simp [ofValue, RecordPlace.path, hget]
    rw [hrecord]
    exact { ReadsAs.refl _ with }

/-- The grading bands stay the same, or one of them has lost the null. -/
theorem gradingScale_without {payload v : Value} {place : RecordPlace} {key : String}
    (hplace : payload.at? place.path = some v) (hnull : v.fields.lookup key = some .null) :
    let scale := (ofValue payload).gradingScale
    let scale' := (ofValue (payload.alterAt (·.without key) place.path)).gradingScale
    ((∀ i es, place = .band i → v ≠ .mapping es) ∧ scale' = scale) ∨
      ∃ (i : Nat) (band : Entries) (before after : List Entries), place = .band i ∧ v = .mapping band ∧
        scale = before ++ band :: after ∧ scale' = before ++ band.erase key :: after := by
  cases place with
  | payload =>
    obtain rfl : payload = v := Option.some.inj hplace
    refine .inl ⟨nofun, ?_⟩
    exact congrArg mappingsOf (get_entriesOf_of_alike (Value.alike_without hnull) "gradingScale")
  | band i =>
    obtain ⟨hv, hget⟩ := get_alterAt (·.without key) hplace
    have hnew : (ofValue (payload.alterAt (·.without key) (RecordPlace.band i).path)).gradingScale =
        mappingsOf (((entriesOf payload).get "gradingScale").alterAt (·.without key) [.index i]) :=
      congrArg mappingsOf ((hget "gradingScale").trans (if_pos rfl))
    dsimp only
    rw [hnew]
    rcases mappingsOf_alterAt key hv with ⟨hnone, hsame⟩ | ⟨band, before, after, rfl, hbefore, hafter⟩
    · -- an item that is no mapping is no band, and is skipped before and after
      refine .inl ⟨?_, hsame⟩
      rintro i es - rfl
      cases hnone
    · exact .inr ⟨i, band, before, after, rfl, rfl, hbefore, hafter⟩
  | _ =>
    obtain ⟨-, hget⟩ := get_alterAt (·.without key) hplace
    exact .inl ⟨nofun, congrArg mappingsOf ((hget "gradingScale").trans (if_neg (by decide)))⟩

end Record

/-! ### The grading scale -/

/-- Of lists that differ in one text the joined texts differ. -/
private theorem joinWith_append_cons_inj (separator : String) (before after : List String) {s t : String} :
    Text.joinWith separator (before ++ s :: after) = Text.joinWith separator (before ++ t :: after) ↔ s = t := by
  refine ⟨fun h => ?_, fun h => h ▸ rfl⟩
  induction before with
  | nil => cases after <;> simpa [Text.joinWith] using h
  | cons r before ih => cases before <;> exact ih (by simpa [Text.joinWith] using h)

namespace Field

/-- Two derivations fail for the same reason, or have different texts. -/
def Differ : Except Fault String → Except Fault String → Prop
  | .ok s, .ok t => s ≠ t
  | .error f, .error g => f = g
  | _, _ => False

theorem Differ.eq_iff {x y : Except Fault String} (h : Differ x y) : y = x ↔ ¬∃ text, x = .ok text := by
  cases x <;> cases y <;> simp_all [Differ, eq_comm]

/-- Texts that are made of the same parts in different ways differ. -/
private theorem differ_map {B : Type} (x : Except Fault B) {f g : B → String} (h : ∀ b, f b ≠ g b) :
    Differ (x.map f) (x.map g) := by
  cases x with
  | ok b => exact h b
  | error fault => exact rfl

/-- If the texts of one band differ, so do those of all bands. -/
private theorem Differ.joined {f : Entries → Except Fault String} {band band' : Entries}
    (h : Differ (f band) (f band')) (separator : String) (before after : List Entries) :
    Differ (((before ++ band :: after).mapM f).map (Text.joinWith separator))
      (((before ++ band' :: after).mapM f).map (Text.joinWith separator)) := by
  rw [List.mapM_append, List.mapM_append, List.mapM_cons, List.mapM_cons]
  cases before.mapM f with
  | error fault => exact rfl
  | ok texts =>
    cases hband : f band <;> cases hband' : f band' <;> simp only [hband, hband'] at h ⊢
    · exact h
    · exact h.elim
    · exact h.elim
    · cases after.mapM f with
      | error fault => exact rfl
      | ok texts' => exact fun heq => h ((joinWith_append_cons_inj separator texts texts').1 heq)

private theorem bandText_erase (band : Entries) (key name : String) :
    bandText (band.erase key) name = if name = key then .ok "" else bandText band name := by
  rw [bandText, Entries.lookup_erase]
  by_cases hname : name = key
  · rw [if_pos hname, if_pos hname]
  · rw [if_neg hname, if_neg hname, bandText]

private theorem bandText_of_null {band : Entries} {key : String} (h : band.lookup key = some .null) :
    bandText band key = .ok "None" := by
  rw [bandText, h]
  rfl

private theorem bandScores_erase {band : Entries} {key : String} (h : band.lookup key = some .null) :
    bandScores (band.erase key) = bandScores band := by
  rw [bandScores, bandScores, Entries.get_erase_of_null h, Entries.get_erase_of_null h]

section Band

variable {band : Entries} {key : String} (hnull : band.lookup key = some .null)

include hnull

private theorem bandItem_erase (hgrade : key ≠ "grade") : bandItem (band.erase key) = bandItem band := by
  rw [bandItem, bandItem, bandText_erase, if_neg (Ne.symm hgrade), bandScores_erase hnull]

private theorem differ_bandItem (hgrade : key = "grade") : Differ (bandItem band) (bandItem (band.erase key)) := by
  subst hgrade
  rw [bandItem, bandItem, bandText_of_null hnull, bandText_erase, if_pos rfl, bandScores_erase hnull]
  exact differ_map (bandScores band) fun scores => by simp

private theorem bandLine_erase (hgrade : key ≠ "grade") (hremark : key ≠ "remark") :
    bandLine (band.erase key) = bandLine band := by
  rw [bandLine, bandLine, bandItem_erase hnull hgrade, bandText_erase, if_neg (Ne.symm hremark)]

private theorem differ_bandLine (h : key = "grade" ∨ key = "remark") :
    Differ (bandLine band) (bandLine (band.erase key)) := by
  by_cases hremark : key = "remark"
  · have hgrade : key ≠ "grade" := by simp [hremark]
    rw [bandLine, bandLine, bandItem_erase hnull hgrade, ← hremark, bandText_of_null hnull, bandText_erase, if_pos rfl]
    exact differ_map (bandItem band) fun item => by simp
  · obtain rfl := h.resolve_right hremark
    rw [bandLine, bandLine, bandItem, bandItem, bandText_of_null hnull, bandText_erase, if_pos rfl, bandText_erase,
      if_neg (by decide), bandScores_erase hnull]
    cases bandScores band with
    | error fault => exact rfl
    | ok scores => exact differ_map (bandText band "remark") fun remark => by simp

end Band

section Bands

variable {r r' : Record} {before after : List Entries} {band : Entries} {key : String}
  (h : r.gradingScale = before ++ band :: after) (h' : r'.gradingScale = before ++ band.erase key :: after)
  (hnull : band.lookup key = some .null)

include h h' hnull

/-- The line of all grading bands, if there is one, shows that a null is gone only if it was a grade. -/
private theorem gradingLine_eq_iff :
    gradingLine r' = gradingLine r ↔ ¬(key = "grade" ∧ ∃ text, gradingLine r = .ok text) := by
  rw [gradingLine, gradingLine, h, h']
  by_cases hgrade : key = "grade"
  · rw [((differ_bandItem hnull hgrade).joined ", " before after).eq_iff, and_iff_right hgrade]
  · simp [hgrade, List.mapM_append, bandItem_erase hnull hgrade]

/-- The list of all grading bands, if there is one, shows that a null is gone only if it was a grade or a remark. -/
private theorem gradingList_eq_iff :
    gradingList r' = gradingList r ↔ ¬((key = "grade" ∨ key = "remark") ∧ ∃ text, gradingList r = .ok text) := by
  rw [gradingList, gradingList, h, h']
  by_cases hkey : key = "grade" ∨ key = "remark"
  · rw [((differ_bandLine hnull hkey).joined "\n" before after).eq_iff, and_iff_right hkey]
  · obtain ⟨hgrade, hremark⟩ := not_or.1 hkey
    simp [hkey, List.mapM_append, bandLine_erase hnull hgrade hremark]

end Bands

/-- A null can be left out of any record of a payload without changing the text of any field, or its failure; only the
text of the grading scale changes, if there is one, where the null is the grade of a grading band, or its remark where
remarks are shown. -/
theorem resolveSymbol_without_iff {payload v : Value} {place : RecordPlace} {key : String}
    (hplace : payload.at? place.path = some v) (hnull : v.fields.lookup key = some .null)
    (symbol displayType : Value) :
    let resolved := resolveSymbol (Record.ofValue payload) symbol displayType
    resolveSymbol (Record.ofValue (payload.alterAt (·.without key) place.path)) symbol displayType = resolved ↔
      ¬(ofValue? symbol = some .gradingScale ∧ (∃ i band, place = .band i ∧ v = .mapping band) ∧
        (key = "grade" ∨ key = "remark" ∧ displayType.isText "list" = true) ∧ ∃ text, resolved = .ok text) := by
  intro resolved
  simp only [resolved]
  unfold resolveSymbol
  cases hfield : ofValue? symbol with
  | none => simp
  | some field =>
    by_cases hscale : field = .gradingScale
    · subst hscale
      rcases Record.gradingScale_without hplace hnull with
        ⟨hother, hsame⟩ | ⟨i, band, before, after, rfl, rfl, hold, hnew⟩
      · simp only [resolve, gradingList, gradingLine, hsame]
        simp only [true_iff]
        rintro ⟨-, ⟨i, band, hband, hv⟩, -⟩
        exact hother i band hband hv
      · have hline := gradingLine_eq_iff hold hnew hnull
        have hlist := gradingList_eq_iff hold hnew hnull
        cases displayType.isText "list" <;> simp [resolve, hline, hlist]
    · simp [(Record.readsAs_without hplace hnull).resolve_eq _ hscale, hscale]

end Field

/-- A payload with a student whose name is null, and a grading band without a grade of its own. -/
def nullPayload : Value :=
  .mapping [("student", .mapping [("user", .mapping [("name", .null)]), ("gender", .text "F")]),
    ("gradingScale", .list [.mapping [("grade", .null), ("minScore", .int 70), ("maxScore", .int 100)]])]

/-- Without the null name, the name of the student is still empty. -/
theorem Field.resolveSymbol_without_iff_name :
    nullPayload.at? RecordPlace.user.path = some (.mapping [("name", .null)]) ∧
      (Value.mapping [("name", .null)]).fields.lookup "name" = some .null ∧
      resolveSymbol (Record.ofValue (nullPayload.alterAt (·.without "name") RecordPlace.user.path))
          (.text "student_name") .null = resolveSymbol (Record.ofValue nullPayload) (.text "student_name") .null ∧
      resolveSymbol (Record.ofValue nullPayload) (.text "student_name") .null = .ok "" :=
  ⟨rfl, rfl, (resolveSymbol_without_iff rfl rfl _ _).2 fun h => (nomatch h.1), rfl⟩

/-- A null grade is printed as a word, while a missing one is not printed at all. -/
theorem Field.resolveSymbol_prints_null :
    (resolveSymbol (Record.ofValue nullPayload) (.text "grading_scale") .null).toOption = some "None: 70-100" ∧
      (resolveSymbol (Record.ofValue (nullPayload.alterAt (·.without "grade") (RecordPlace.band 0).path))
        (.text "grading_scale") .null).toOption = some ": 70-100" := by
  decide +kernel

end ReportCard
