import ReportCard.Value.Path

/-!
# Where paths lead

A path is followed key by key.  Under each key a value holds another one (`Value.Holds`), holds nothing
(`Value.Lacks`), or cannot be asked (`Value.Refuses`); so a path leads to a value, misses one on its way, or is barred
by a key.  Digging finds the value that the path leads to, also an empty one, or else the default, and stops where the
path is barred; a path of names never is.  As only what the path has come to matters for the rest of it, a path may be
followed in parts.

All this depends on no particular attributes.  So it is said of `Value.digBy`, which looks names up in a table of the
attributes of values that are no mappings, and `Value.dig` is digging by `Value.attributes`.
-/

namespace ReportCard

namespace Value

/-! ### Attributes from a table -/

/-- One step into a value that is not null, with attributes from a table. -/
def stepBy (table : Value → Entries) (v : Value) : Key → Except Fault Value
  | .name s => .ok ((v.entries?.getD (table v)).get s)
  | k => v.step k

/-- The value at the end of a path, or the default where something is missing, with attributes from a table. -/
def digBy (table : Value → Entries) : Value → List Key → Value → Except Fault Value
  | v, [], d => .ok (v.orDefault d)
  | v, k :: ks, d => if v.isNull then .ok d else (v.stepBy table k).bind fun w => digBy table w ks d

theorem stepBy_attributes (v : Value) (k : Key) : v.stepBy attributes k = v.step k := by
  cases k with
  | name s => cases v <;> rfl
  | _ => rfl

theorem digBy_attributes (v : Value) (ks : List Key) (d : Value) : v.digBy attributes ks d = v.dig ks d := by
  induction ks generalizing v with
  | nil => rfl
  | cons k ks ih => simp only [digBy, dig, stepBy_attributes, ih]

/-! ### One key -/

/-- The value holds another one under a key: a mapping in an entry, any other value in an attribute, and a list at a
position, which counts from the end if it is negative. -/
inductive Holds (table : Value → Entries) : Value → Key → Value → Prop where
  | inEntry {es : Entries} {s : String} {w : Value} (h : es.lookup s = some w) : Holds table (mapping es) (.name s) w
  | inAttribute {v w : Value} {s : String} (hv : v.entries? = none) (h : (table v).lookup s = some w) :
      Holds table v (.name s) w
  | fromFront {v w : Value} {items : List Value} {i : Nat} (hv : v.items? = some items) (h : items[i]? = some w) :
      Holds table v (.index i) w
  | fromEnd {v w : Value} {items : List Value} {i : Nat} (hv : v.items? = some items)
      (h : items.reverse[i]? = some w) : Holds table v (.index (-(i + 1))) w

/-- The value cannot be asked for a key: for a position if it is neither a mapping nor a list, and for what is neither a
name nor a position unless it is a mapping, where the key must be one that can be looked for. -/
def Refuses (v : Value) : Key → Prop
  | .name _ => False
  | .index _ => v.entries? = none ∧ v.items? = none
  | .other isSearchable => v.entries? = none ∨ isSearchable = false

/-- The value can be asked for a key, but holds nothing under it. -/
def Lacks (table : Value → Entries) (v : Value) (k : Key) : Prop := ¬v.Refuses k ∧ ∀ w, ¬Holds table v k w

private theorem item_ofNat (items : List Value) (i : Nat) : item items i = (items[i]?).getD null := by
  have hi : ¬(i : Int) < 0 := by omega
  simp [item, hi]

private theorem item_fromEnd (items : List Value) (i : Nat) :
    item items (-(i + 1)) = (items.reverse[i]?).getD null := by
  have hi : -(i + 1 : Int) < 0 := by omega
  simp only [item, hi, if_true]
  by_cases hlt : i < items.length
  · have hj : ¬-(i + 1 : Int) + items.length < 0 := by omega
    have hnat : (-(i + 1 : Int) + items.length).toNat = items.length - 1 - i := by omega
    rw [if_neg hj, hnat, List.getElem?_reverse hlt]
  · have hj : -(i + 1 : Int) + items.length < 0 := by omega
    have hnone : items.reverse[i]? = none := by
      rw [List.getElem?_eq_none_iff, List.length_reverse]
      omega
    rw [if_pos hj, hnone, Option.getD_none]

section Step

variable {table : Value → Entries} {v w : Value} {k : Key}

private theorem stepBy_index {items : List Value} (hv : v.items? = some items) (i : Int) :
    v.stepBy table (.index i) = .ok (item items i) := by
  cases v <;> simp_all [stepBy, step, items?]

theorem stepBy_of_holds (h : Holds table v k w) : v.stepBy table k = .ok w := by
  cases h with
  | inEntry h => simp [stepBy, entries?, Entries.get, h]
  | inAttribute hv h => simp [stepBy, hv, Entries.get, h]
  | fromFront hv h => rw [stepBy_index hv, item_ofNat, h, Option.getD_some]
  | fromEnd hv h => rw [stepBy_index hv, item_fromEnd, h, Option.getD_some]

theorem stepBy_of_refuses (h : v.Refuses k) : v.stepBy table k = .error .wrongKind := by
  cases k with
  | name s => exact h.elim
  | index i => cases v <;> simp_all [Refuses, stepBy, step, entries?, items?]
  | other isSearchable => cases v <;> simp_all [Refuses, stepBy, step, entries?]

theorem stepBy_of_lacks (h : Lacks table v k) : v.stepBy table k = .ok null := by
  obtain ⟨hask, hnone⟩ := h
  cases k with
  | name s =>
    -- a name with something under it would be held
    have hmissing : (v.entries?.getD (table v)).lookup s = none := by
      refine Option.eq_none_iff_forall_ne_some.2 fun w hw => ?_
      cases v with
      | mapping es => exact hnone w (.inEntry hw)
      | _ => exact hnone w (.inAttribute rfl hw)
    simp [stepBy, Entries.get, hmissing]
  | index i =>
    have hitem {items : List Value} (hv : v.items? = some items) : item items i = null := by
      obtain ⟨n, rfl | rfl⟩ : ∃ n : Nat, i = n ∨ i = -(n + 1) := by
        exact ⟨if 0 ≤ i then i.toNat else (-i - 1).toNat, by split <;> omega⟩
      · rw [item_ofNat, Option.eq_none_iff_forall_ne_some.2 fun w hw => hnone w (.fromFront hv hw), Option.getD_none]
      · rw [item_fromEnd, Option.eq_none_iff_forall_ne_some.2 fun w hw => hnone w (.fromEnd hv hw), Option.getD_none]
    cases v with
    | mapping es => rfl
    | list items => exact congrArg Except.ok (hitem rfl)
    | tuple items => exact congrArg Except.ok (hitem rfl)
    | _ => exact absurd ⟨rfl, rfl⟩ hask
  | other isSearchable =>
    cases v with
    | mapping es => simp_all [Refuses, stepBy, step]
    | _ => exact absurd (.inl rfl) hask

theorem holds_or_lacks_or_refuses (table : Value → Entries) (v : Value) (k : Key) :
    (∃ w, Holds table v k w) ∨ Lacks table v k ∨ v.Refuses k := by
  by_cases hask : v.Refuses k
  · exact .inr (.inr hask)
  · by_cases hholds : ∃ w, Holds table v k w
    · exact .inl hholds
    · exact .inr (.inl ⟨hask, not_exists.1 hholds⟩)

end Step

/-! ### Whole paths -/

/-- The path leads from a value to another, which may be null; on its way it does not come to null. -/
inductive Leads (table : Value → Entries) : Value → List Key → Value → Prop where
  | here (v : Value) : Leads table v [] v
  | step {v u w : Value} {k : Key} {ks : List Key} (hv : v ≠ null) (h : Holds table v k u)
      (hrest : Leads table u ks w) : Leads table v (k :: ks) w

/-- The path comes to null, at its end or on its way, or to a value that holds nothing under the next key. -/
def Misses (table : Value → Entries) (v : Value) (ks : List Key) : Prop :=
  ∃ before after u, ks = before ++ after ∧ Leads table v before u ∧
    (u = null ∨ ∃ k rest, after = k :: rest ∧ Lacks table u k)

/-- The path comes to a value that is not null and cannot be asked for the next key. -/
def Bars (table : Value → Entries) (v : Value) (ks : List Key) : Prop :=
  ∃ before k after u, ks = before ++ k :: after ∧ Leads table v before u ∧ u ≠ null ∧ u.Refuses k

section Path

variable {table : Value → Entries} {v u w : Value} {k : Key} {ks : List Key}

theorem Misses.step (hv : v ≠ null) (h : Holds table v k u) : Misses table u ks → Misses table v (k :: ks)
  | ⟨before, after, w, hks, hleads, hw⟩ =>
    ⟨k :: before, after, w, by rw [hks, List.cons_append], .step hv h hleads, hw⟩

theorem Bars.step (hv : v ≠ null) (h : Holds table v k u) : Bars table u ks → Bars table v (k :: ks)
  | ⟨before, k', after, w, hks, hleads, hw⟩ =>
    ⟨k :: before, k', after, w, by rw [hks, List.cons_append], .step hv h hleads, hw⟩

/-- A path leads to a value that is not null, misses one, or is barred. -/
theorem leads_or_misses_or_bars (table : Value → Entries) (v : Value) (ks : List Key) :
    (∃ w, Leads table v ks w ∧ w ≠ null) ∨ Misses table v ks ∨ Bars table v ks := by
  induction ks generalizing v with
  | nil =>
    by_cases hv : v = null
    · exact .inr (.inl ⟨[], [], v, rfl, .here v, .inl hv⟩)
    · exact .inl ⟨v, .here v, hv⟩
  | cons k ks ih =>
    by_cases hv : v = null
    · exact .inr (.inl ⟨[], k :: ks, v, rfl, .here v, .inl hv⟩)
    -- the first key decides, unless something is held under it
    rcases holds_or_lacks_or_refuses table v k with ⟨u, hu⟩ | hlacks | hrefuses
    · rcases ih u with ⟨w, hleads, hw⟩ | hmisses | hbars
      · exact .inl ⟨w, .step hv hu hleads, hw⟩
      · exact .inr (.inl (hmisses.step hv hu))
      · exact .inr (.inr (hbars.step hv hu))
    · exact .inr (.inl ⟨[], k :: ks, v, rfl, .here v, .inr ⟨k, ks, rfl, hlacks⟩⟩)
    · exact .inr (.inr ⟨[], k, ks, v, rfl, .here v, hv, hrefuses⟩)

/-- A path that has missed a value does not find one later. -/
theorem Misses.append (h : Misses table v ks) (rest : List Key) : Misses table v (ks ++ rest) := by
  obtain ⟨before, after, u, rfl, hleads, hu⟩ := h
  refine ⟨before, after ++ rest, u, List.append_assoc .., hleads, hu.imp id ?_⟩
  rintro ⟨k, after, rfl, hlacks⟩
  exact ⟨k, after ++ rest, rfl, hlacks⟩

/-- A path that is barred stays so. -/
theorem Bars.append (h : Bars table v ks) (rest : List Key) : Bars table v (ks ++ rest) := by
  obtain ⟨before, k, after, u, rfl, hleads, hu⟩ := h
  exact ⟨before, k, after ++ rest, u, by simp, hleads, hu⟩

/-- A path of names is never barred. -/
theorem not_bars_names (names : List String) : ¬Bars table v (names.map .name) := by
  rintro ⟨before, k, after, u, hnames, -, -, hrefuses⟩
  have hk : k ∈ names.map Key.name := by simp [hnames]
  obtain ⟨s, -, rfl⟩ := List.mem_map.1 hk
  exact hrefuses

/-! ### Digging -/

theorem isNull_eq_false (h : v ≠ null) : v.isNull = false := by
  cases v with
  | null => exact absurd rfl h
  | _ => rfl

@[simp]
theorem digBy_null (table : Value → Entries) (ks : List Key) (d : Value) : null.digBy table ks d = .ok d := by
  cases ks <;> rfl

theorem digBy_nil (h : v ≠ null) (d : Value) : v.digBy table [] d = .ok v := by
  simp [digBy, orDefault, isNull_eq_false h]

theorem digBy_cons (h : v ≠ null) (k : Key) (ks : List Key) (d : Value) :
    v.digBy table (k :: ks) d = (v.stepBy table k).bind fun w => w.digBy table ks d := by
  simp [digBy, isNull_eq_false h]

/-- What has been followed of a path does not matter for the rest. -/
theorem digBy_of_leads (h : Leads table v ks u) (rest : List Key) (d : Value) :
    v.digBy table (ks ++ rest) d = u.digBy table rest d := by
  induction h with
  | here v => rfl
  | step hv h _ ih => rw [List.cons_append, digBy_cons hv, stepBy_of_holds h, Except.bind, ih]

theorem digBy_of_leads_of_ne_null (h : Leads table v ks w) (hw : w ≠ null) (d : Value) :
    v.digBy table ks d = .ok w := by
  rw [← List.append_nil ks, digBy_of_leads h, digBy_nil hw]

theorem digBy_of_misses (h : Misses table v ks) (d : Value) : v.digBy table ks d = .ok d := by
  obtain ⟨before, after, u, rfl, hleads, hu⟩ := h
  rw [digBy_of_leads hleads]
  by_cases hnull : u = null
  · rw [hnull, digBy_null]
  · obtain ⟨k, rest, rfl, hlacks⟩ := hu.resolve_left hnull
    rw [digBy_cons hnull, stepBy_of_lacks hlacks, Except.bind, digBy_null]

theorem digBy_of_bars (h : Bars table v ks) (d : Value) : v.digBy table ks d = .error .wrongKind := by
  obtain ⟨before, k, after, u, rfl, hleads, hu, hrefuses⟩ := h
  rw [digBy_of_leads hleads, digBy_cons hu, stepBy_of_refuses hrefuses, Except.bind]

/-- Digging along two paths one after the other is digging along both at once. -/
theorem digBy_append (table : Value → Entries) (v : Value) (a b : List Key) (d : Value) :
    v.digBy table (a ++ b) d = (v.digBy table a null).bind fun w => w.digBy table b d := by
  rcases leads_or_misses_or_bars table v a with ⟨w, hleads, hw⟩ | hmisses | hbars
  · rw [digBy_of_leads hleads, digBy_of_leads_of_ne_null hleads hw, Except.bind]
  · rw [digBy_of_misses (hmisses.append b), digBy_of_misses hmisses, Except.bind, digBy_null]
  · rw [digBy_of_bars (hbars.append b), digBy_of_bars hbars, Except.bind]

/-- Digging finds exactly what the path leads to, or the default where it misses something. -/
theorem digBy_eq_ok_iff {d : Value} :
    v.digBy table ks d = .ok w ↔ (Leads table v ks w ∧ w ≠ null) ∨ (Misses table v ks ∧ w = d) := by
  constructor
  · intro h
    rcases leads_or_misses_or_bars table v ks with ⟨u, hleads, hu⟩ | hmisses | hbars
    · obtain rfl : w = u := Except.ok.inj (h.symm.trans (digBy_of_leads_of_ne_null hleads hu d))
      exact .inl ⟨hleads, hu⟩
    · exact .inr ⟨hmisses, Except.ok.inj (h.symm.trans (digBy_of_misses hmisses d))⟩
    · cases h.symm.trans (digBy_of_bars hbars d)
  · rintro (⟨hleads, hw⟩ | ⟨hmisses, rfl⟩)
    · exact digBy_of_leads_of_ne_null hleads hw d
    · exact digBy_of_misses hmisses w

/-- Digging stops exactly where the path is barred. -/
theorem digBy_eq_error_iff {d : Value} {fault : Fault} :
    v.digBy table ks d = .error fault ↔ Bars table v ks ∧ fault = .wrongKind := by
  constructor
  · intro h
    rcases leads_or_misses_or_bars table v ks with ⟨u, hleads, hu⟩ | hmisses | hbars
    · cases h.symm.trans (digBy_of_leads_of_ne_null hleads hu d)
    · cases h.symm.trans (digBy_of_misses hmisses d)
    · exact ⟨hbars, Except.error.inj (h.symm.trans (digBy_of_bars hbars d))⟩
  · rintro ⟨hbars, rfl⟩
    exact digBy_of_bars hbars d

/-- Digging along names is reaching. -/
theorem dig_names (v : Value) (names : List String) (d : Value) :
    v.dig (names.map .name) d = .ok ((v.reach names).orDefault d) := by
  have hnull (names : List String) : null.reach names = null := by
    induction names with
    | nil => rfl
    | cons s names ih => exact ih
  induction names generalizing v with
  | nil => rfl
  | cons s names ih =>
    by_cases hv : v = null
    · rw [hv, hnull]
      rfl
    · rw [List.map_cons, dig, isNull_eq_false hv]
      exact ih (v.member s)

end Path

/-- Digging along a path can be done in parts.  It finds the value that the path leads to, whatever it is but null, and
the default exactly if the path misses one; it stops exactly where the path is barred, which no path of names is.  This
is so whatever attributes values have, and those that they do have are one case of it. -/
theorem dig_follows_path (v d : Value) :
    (∀ ks, v.dig ks d = v.digBy attributes ks d) ∧
      (∀ names : List String, v.dig (names.map .name) d = .ok ((v.reach names).orDefault d)) ∧
      ∀ table,
        (∀ a b, v.digBy table (a ++ b) d = (v.digBy table a null).bind fun w => w.digBy table b d) ∧
        (∀ ks w, v.digBy table ks d = .ok w ↔ (Leads table v ks w ∧ w ≠ null) ∨ (Misses table v ks ∧ w = d)) ∧
        (∀ ks fault, v.digBy table ks d = .error fault ↔ Bars table v ks ∧ fault = .wrongKind) ∧
        ∀ names : List String, ∃ w, v.digBy table (names.map .name) d = .ok w := by
  refine ⟨fun ks => (digBy_attributes v ks d).symm, fun names => dig_names v names d, fun table =>
    ⟨fun a b => digBy_append table v a b d, fun ks w => digBy_eq_ok_iff, fun ks fault => digBy_eq_error_iff,
      fun names => ?_⟩⟩
  cases h : v.digBy table (names.map .name) d with
  | ok w => exact ⟨w, rfl⟩
  | error fault => exact absurd (digBy_eq_error_iff.1 h).1 (not_bars_names names)

/-- An empty text is found, and nothing is found behind it. -/
example : let v := mapping [("user", mapping [("nick", text "")])]
    v.dig [.name "user", .name "nick"] (text "-") = .ok (text "") ∧
      v.dig [.name "user", .name "nick", .name "first"] (text "-") = .ok (text "-") :=
  ⟨rfl, rfl⟩

end Value

end ReportCard
