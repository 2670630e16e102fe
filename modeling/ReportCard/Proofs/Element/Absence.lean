import ReportCard.Proofs.Element.Reading
import ReportCard.Proofs.Record.Absence

/-!
# Null entries of elements

A null in an element says the same as a missing entry, and so does one in its style.  In metadata there are two
exceptions: the lists of names that a table may have are empty lists if they are null, but no lists at all if they are
missing (`Element.ofValue?_without_metadata`).
-/

namespace ReportCard

/-- The parts of an element that have entries of their own. -/
inductive ElementPart where
  | element
  | style
  | metadata
deriving Repr, DecidableEq

/-- The path to a part of an element. -/
def ElementPart.path : ElementPart → List Key
  | element => []
  | style => [.name "style"]
  | metadata => [.name "metadata"]

namespace Style

theorem ofEntries_erase {es : Entries} {key : String} (h : es.lookup key = some .null) :
    ofEntries (es.erase key) = ofEntries es := by
  simp only [ofEntries, Entries.get_erase_of_null h]

end Style

namespace Metadata

variable {α : Type}

/-- The metadata without a list of names. -/
def unlist (key : String) (m : Metadata α) : Metadata α :=
  { m with
    traits := if key = "traits" then none else m.traits
    skills := if key = "skills" then none else m.skills }

private theorem ofValue_mapping (es : Entries) : ofValue (.mapping es) = ofEntries es := rfl

/-- A null at the key of a list of names makes that list empty. -/
private theorem texts?_of_null {es : Entries} {key : String} (h : es.lookup key = some .null) :
    texts? es key = .ok (some []) := by
  rw [texts?, h]
  rfl

private theorem texts?_erase {es : Entries} {key : String} (h : es.lookup key = some .null) (name : String) :
    texts? (es.erase key) name = (texts? es name).map fun names => if key = name then none else names := by
  rw [texts?, Entries.lookup_erase]
  by_cases hname : key = name
  · subst hname
    rw [texts?_of_null h, if_pos rfl]
    simp [Except.map]
  · rw [if_neg (Ne.symm hname), ← texts?]
    cases texts? es name <;> simp [Except.map, hname]

theorem ofEntries_erase {es : Entries} {key : String} (h : es.lookup key = some .null) :
    ofEntries (es.erase key) = (ofEntries es).map (unlist key) := by
  simp only [ofEntries, Entries.get_erase_of_null h, texts?_erase h, map_bind_eq, bind_map_eq]
  rfl

theorem names_of_null {es : Entries} {key : String} (h : es.lookup key = some .null) {m : Metadata Float}
    (hm : ofEntries es = .ok m) : (key = "traits" → m.traits = some []) ∧ (key = "skills" → m.skills = some []) := by
  have hread := ofEntries_eq_ok_iff.1 hm
  refine ⟨?_, ?_⟩
  · rintro rfl
    exact Except.ok.inj (hread.traits.symm.trans (texts?_of_null h))
  · rintro rfl
    exact Except.ok.inj (hread.skills.symm.trans (texts?_of_null h))

end Metadata

namespace Element

variable {α : Type}

/-- The element without a list of names in its metadata. -/
def unlist (key : String) (e : Element α) : Element α := { e with metadata := e.metadata.unlist key }

/-- The list of names at a key is empty. -/
def HasNoNames (key : String) (e : Element α) : Prop :=
  (key = "traits" → e.metadata.traits = some []) ∧ (key = "skills" → e.metadata.skills = some [])

variable {item : Value} {part : ElementPart} {fields : Entries} {key : String}

private theorem ofEntries_erase {es : Entries} (h : es.lookup key = some .null) :
    ofEntries (es.erase key) = ofEntries es := by
  simp only [ofEntries, boxOfEntries, Entries.get_erase_of_null h]

private theorem ofEntries_alter_style {es : Entries} (hstyle : es.lookup "style" = some (.mapping fields))
    (hnull : fields.lookup key = some .null) :
    ofEntries (es.alter "style" (·.without key)) = ofEntries es := by
  have hget : es.get "style" = .mapping fields := by
    rw [Entries.get, hstyle]
    rfl
  have hread : Style.ofValue ((Value.mapping fields).without key) = Style.ofValue (.mapping fields) :=
    Style.ofEntries_erase hnull
  simp [ofEntries, boxOfEntries, Entries.get_alter hstyle, hget, hread]

private theorem ofEntries_alter_metadata {es : Entries} (hmetadata : es.lookup "metadata" = some (.mapping fields))
    (hnull : fields.lookup key = some .null) :
    ofEntries (es.alter "metadata" (·.without key)) = (ofEntries es).map (unlist key) := by
  have hget : es.get "metadata" = .mapping fields := by
    rw [Entries.get, hmetadata]
    rfl
  have hread : Metadata.ofValue ((Value.mapping fields).without key) =
      (Metadata.ofValue (.mapping fields)).map (Metadata.unlist key) :=
    Metadata.ofEntries_erase hnull
  have hbox : boxOfEntries (es.alter "metadata" (·.without key)) = boxOfEntries es := by
    simp [boxOfEntries, Entries.get_alter hmetadata]
  simp only [ofEntries, hbox, Entries.get_alter hmetadata, hget, if_true, String.reduceEq, if_false, hread, map_bind_eq,
    bind_map_eq]
  rfl

/-- Where a null is left out of an element or its style, the element stays the same. -/
theorem ofValue?_without_of_ne (hpart : item.at? part.path = some (.mapping fields))
    (hnull : fields.lookup key = some .null) (hne : part ≠ .metadata) :
    ofValue? (item.alterAt (·.without key) part.path) = ofValue? item := by
  cases part with
  | element =>
    obtain rfl : item = .mapping fields := Option.some.inj hpart
    exact congrArg (Except.map some) (ofEntries_erase hnull)
  | style =>
    obtain ⟨es, u, rfl, hu, hv⟩ := Value.at?_name hpart
    obtain rfl : u = .mapping fields := Option.some.inj hv
    exact congrArg (Except.map some) (ofEntries_alter_style hu hnull)
  | metadata => exact absurd rfl hne

/-- Where a null is left out of the metadata of an element, the element may lose a list of names. -/
theorem ofValue?_without_metadata (hpart : item.at? ElementPart.metadata.path = some (.mapping fields))
    (hnull : fields.lookup key = some .null) :
    ofValue? (item.alterAt (·.without key) ElementPart.metadata.path) = (ofValue? item).map (·.map (unlist key)) ∧
      ∀ e, ofValue? item = .ok (some e) → e.HasNoNames key := by
  obtain ⟨es, u, rfl, hu, hv⟩ := Value.at?_name hpart
  obtain rfl : u = .mapping fields := Option.some.inj hv
  have halter : (Value.mapping es).alterAt (·.without key) ElementPart.metadata.path =
      .mapping (es.alter "metadata" (·.without key)) :=
    rfl
  rw [halter, ofValue?_mapping, ofValue?_mapping, ofEntries_alter_metadata hu hnull]
  refine ⟨by cases ofEntries es <;> rfl, fun e he => ?_⟩
  obtain ⟨_, hread, he⟩ := map_eq_ok_iff.1 he
  obtain rfl := Option.some.inj he
  have hm := (ofEntries_eq_ok_iff.1 hread).metadata
  rw [Entries.get, hu, Option.getD_some, Metadata.ofValue_mapping] at hm
  exact Metadata.names_of_null hnull hm

end Element

end ReportCard
