import ReportCard.Element.Template
import ReportCard.Proofs.Value.Writing

/-!
# Which elements can be read

An element can be read unless one of its numbers is outside the range of doubles, one of its counts is not finite, or
one of its texts is made of a number with too many digits.  A template can be read if all its elements can, and the
canvas that it declares; of a wrapper's own canvas nothing is read if the content declares one.
-/

namespace ReportCard

/-- A vocabulary names a kind by its symbol, if no other kind has it. -/
theorem Value.choose_eq_some_iff {κ : Type} {all : List κ} {symbol : κ → String} {k : κ} (hk : k ∈ all)
    (hinj : ∀ l ∈ all, symbol k = symbol l → k = l) (v : Value) :
    v.choose all symbol = some k ↔ v.isText (symbol k) = true := by
  unfold choose
  refine ⟨fun h => List.find?_some (p := fun k => v.isText (symbol k)) h, fun h => ?_⟩
  have hsome : (all.find? fun k => v.isText (symbol k)).isSome := List.find?_isSome.2 ⟨k, hk, h⟩
  obtain ⟨l, hl⟩ := Option.isSome_iff_exists.1 hsome
  have hl' := List.find?_some (p := fun k => v.isText (symbol k)) hl
  have hsymbol : symbol k = symbol l := by
    cases v with
    | text s => exact (beq_iff_eq.1 h).symm.trans (beq_iff_eq.1 hl')
    | _ => cases h
  rw [hl, hinj l (List.mem_of_find?_eq_some hl) hsymbol]

/-- None of the values at some keys is a whole number outside the range of doubles. -/
def Entries.Legible (es : Entries) (keys : List String) : Prop := ∀ key ∈ keys, ¬(es.get key).IsOversized

/-- Each of the values at some keys can be written. -/
def Entries.Writable (es : Entries) (keys : List String) : Prop := ∀ key ∈ keys, (es.get key).isWritable = true

/-- Each of the values at some keys can be written, unless a default stands in for it. -/
def Entries.WritableIfGiven (es : Entries) (keys : List String) : Prop :=
  ∀ key ∈ keys, (es.get key).isTruthy = true → (es.get key).isWritable = true

theorem Value.display_orElse_reads (v : Value) (s : String) :
    Reads (v.isTruthy = true → v.isWritable = true) (v.orElse (.text s)).display := by
  refine (written_reads _ _).congr ?_
  unfold orElse
  cases v.isTruthy <;> simp [isWritable]

namespace Style

/-- The numbers and the texts of a style can be read. -/
structure LegibleEntries (es : Entries) : Prop where
  numbers : Entries.Legible es ["fontSize", "borderWidth"]
  words : Entries.WritableIfGiven es ["fontWeight", "fontStyle", "textAlign"]
  colors : Entries.Writable es ["color", "backgroundColor", "borderColor", "borderBottom", "headerBgColor",
    "headerTextColor", "altRowColor"]

/-- A value that is a mapping has a legible style. -/
def Legible (v : Value) : Prop := ∀ es, v.entries? = some es → LegibleEntries es

private theorem color?_reads (v : Value) : Reads (v.isWritable = true) (color? v) := v.displayTrimmed?_reads.map _

private theorem word_reads (v : Value) (default : String) :
    Reads (v.isTruthy = true → v.isWritable = true) (word v default) := (v.display_orElse_reads default).map _

private theorem ofEntries_reads (es : Entries) : Reads (LegibleEntries es) (ofEntries es) := by
  refine ((color?_reads _).bind fun _ _ => (Value.number?_reads _).bind fun _ _ => (word_reads _ _).bind fun _ _ =>
    (word_reads _ _).bind fun _ _ => (word_reads _ _).bind fun _ _ => (color?_reads _).bind fun _ _ =>
    (color?_reads _).bind fun _ _ => (Value.number?_reads _).bind fun _ _ =>
    (Value.displayTrimmed?_reads _).bind fun _ _ => (color?_reads _).bind fun _ _ => (color?_reads _).bind fun _ _ =>
    (color?_reads _).bind_pure _).congr ⟨?_, ?_⟩
  · rintro ⟨hcolor, hsize, hweight, hstyle, halign, hground, hborder, hwidth, hbottom, hband, hheader, hrow⟩
    exact ⟨by simp [Entries.Legible, hsize, hwidth],
      by simpa [Entries.WritableIfGiven] using ⟨hweight, hstyle, halign⟩,
      by simp [Entries.Writable, hcolor, hground, hborder, hbottom, hband, hheader, hrow]⟩
  · rintro ⟨hnumbers, hwords, hcolors⟩
    simp only [Entries.Legible, List.forall_mem_cons] at hnumbers
    simp only [Entries.WritableIfGiven, List.forall_mem_cons] at hwords
    simp only [Entries.Writable, List.forall_mem_cons] at hcolors
    obtain ⟨hsize, hwidth, -⟩ := hnumbers
    obtain ⟨hweight, hstyle, halign, -⟩ := hwords
    obtain ⟨hcolor, hground, hborder, hbottom, hband, hheader, hrow, -⟩ := hcolors
    exact ⟨hcolor, hsize, hweight, hstyle, halign, hground, hborder, hwidth, hbottom, hband, hheader, hrow⟩

theorem ofValue_reads (v : Value) : Reads (Legible v) (ofValue v) := by
  unfold ofValue Legible
  cases v.entries? with
  | none => exact fun _ h => nomatch h
  | some es =>
    refine (ofEntries_reads es).congr ⟨?_, fun h => h es rfl⟩
    rintro h _ ⟨⟩
    exact h

end Style

namespace Metadata

/-- Each item of a list can be written. -/
def WritableItems (v : Value) : Prop := ∀ items, v.items? = some items → ∀ item ∈ items, item.isWritable = true

/-- The numbers and the texts of metadata can be read: the weights of the columns, the counts of rows and columns, the
names of fields, and the lists of names. -/
structure LegibleEntries (es : Entries) : Prop where
  weights : ∀ ws, (es.get "columnWidths").items? = some ws → ∀ w ∈ ws, ¬w.IsOversized
  rows : (es.get "rows").IsCount
  cols : (es.get "cols").IsCount
  names : Entries.Writable es ["field", "displayType"]
  lists : ∀ key ∈ ["headers", "traits", "skills"], WritableItems (es.get key)

/-- A value that is a mapping has legible metadata. -/
def Legible (v : Value) : Prop := ∀ es, v.entries? = some es → LegibleEntries es

private theorem weights?_reads (v : Value) :
    Reads (∀ ws, v.items? = some ws → ∀ w ∈ ws, ¬w.IsOversized) (weights? v) := by
  unfold weights?
  cases v.items? with
  | none => exact fun _ h => nomatch h
  | some ws =>
    refine ((Reads.mapM fun w (_ : w ∈ ws) => w.numberD_reads 0.0).map some).congr ⟨?_, fun h => h ws rfl⟩
    rintro h _ ⟨⟩
    exact h

theorem texts_reads (v : Value) : Reads (WritableItems v) (texts v) := by
  unfold texts WritableItems
  refine (Reads.mapM fun item _ => item.written_reads (itemText item)).congr ?_
  cases v.items? <;> simp

private theorem texts?_reads (es : Entries) (key : String) : Reads (WritableItems (es.get key)) (texts? es key) := by
  unfold texts? Entries.get
  cases es.lookup key with
  | none => exact fun _ h => nomatch h
  | some v => exact (texts_reads v).map some

/-- What is read of metadata, property by property. -/
structure ReadFrom (es : Entries) (m : Metadata Float) : Prop where
  field : (es.get "field").displayTrimmed? = .ok m.field
  displayType : (es.get "displayType").displayTrimmed? = .ok m.displayType
  isPlaceholder : m.isPlaceholder = (es.get "isPlaceholder").isTruthy
  rows : (es.get "rows").whole? = .ok m.rows
  cols : (es.get "cols").whole? = .ok m.cols
  headers : texts (es.get "headers") = .ok m.headers
  tableKind : m.tableKind = TableKind.ofValue? (es.get "tableType")
  columnWidths : weights? (es.get "columnWidths") = .ok m.columnWidths
  traits : texts? es "traits" = .ok m.traits
  skills : texts? es "skills" = .ok m.skills

theorem ofEntries_eq_ok_iff {es : Entries} {m : Metadata Float} : ofEntries es = .ok m ↔ ReadFrom es m := by
  constructor
  · intro h
    obtain ⟨columnWidths, hcolumnWidths, h⟩ := bind_eq_ok_iff.1 h
    obtain ⟨field, hfield, h⟩ := bind_eq_ok_iff.1 h
    obtain ⟨displayType, hdisplayType, h⟩ := bind_eq_ok_iff.1 h
    obtain ⟨rows, hrows, h⟩ := bind_eq_ok_iff.1 h
    obtain ⟨cols, hcols, h⟩ := bind_eq_ok_iff.1 h
    obtain ⟨headers, hheaders, h⟩ := bind_eq_ok_iff.1 h
    obtain ⟨traits, htraits, h⟩ := bind_eq_ok_iff.1 h
    obtain ⟨skills, hskills, h⟩ := bind_eq_ok_iff.1 h
    rw [← Except.ok.inj h]
    exact ⟨hfield, hdisplayType, rfl, hrows, hcols, hheaders, rfl, hcolumnWidths, htraits, hskills⟩
  · intro h
    rw [ofEntries, h.columnWidths, h.field, h.displayType, h.rows, h.cols, h.headers, h.traits, h.skills,
      ← h.isPlaceholder, ← h.tableKind]
    rfl

/-- The counts that are read are in the range of doubles. -/
theorem natAbs_lt_of_ofValue {v : Value} {m : Metadata Float} (h : ofValue v = .ok m) :
    (∀ n, m.rows = some n → n.natAbs < doubleBound) ∧ ∀ n, m.cols = some n → n.natAbs < doubleBound := by
  unfold ofValue at h
  cases hentries : v.entries? with
  | none =>
    rw [hentries] at h
    rw [← Except.ok.inj h]
    exact ⟨nofun, nofun⟩
  | some es =>
    rw [hentries] at h
    have hread := ofEntries_eq_ok_iff.1 h
    refine ⟨fun n hn => ?_, fun n hn => ?_⟩
    · exact Value.natAbs_lt_of_whole? (hread.rows.trans (congrArg Except.ok hn))
    · exact Value.natAbs_lt_of_whole? (hread.cols.trans (congrArg Except.ok hn))

private theorem ofEntries_reads (es : Entries) : Reads (LegibleEntries es) (ofEntries es) := by
  refine ((weights?_reads _).bind fun _ _ => (Value.displayTrimmed?_reads _).bind fun _ _ =>
    (Value.displayTrimmed?_reads _).bind fun _ _ => (Value.whole?_reads _).bind fun _ _ =>
    (Value.whole?_reads _).bind fun _ _ => (texts_reads _).bind fun _ _ => (texts?_reads _ _).bind fun _ _ =>
    (texts?_reads _ _).bind_pure _).congr ⟨?_, ?_⟩
  · rintro ⟨hweights, hfield, htype, hrows, hcols, hheaders, htraits, hskills⟩
    exact ⟨hweights, hrows, hcols, by simp [Entries.Writable, hfield, htype], by simp [hheaders, htraits, hskills]⟩
  · rintro ⟨hweights, hrows, hcols, hnames, hlists⟩
    simp only [Entries.Writable, List.forall_mem_cons] at hnames hlists
    exact ⟨hweights, hnames.1, hnames.2.1, hrows, hcols, hlists.1, hlists.2.1, hlists.2.2.1⟩

theorem ofValue_reads (v : Value) : Reads (Legible v) (ofValue v) := by
  unfold ofValue Legible
  cases v.entries? with
  | none => exact fun _ h => nomatch h
  | some es =>
    refine (ofEntries_reads es).congr ⟨?_, fun h => h es rfl⟩
    rintro h _ ⟨⟩
    exact h

end Metadata

namespace Element

/-- The numbers and the texts of an element can be read. -/
structure Legible (es : Entries) : Prop where
  box : Entries.Legible es ["x", "y", "width", "height"]
  style : Style.Legible (es.get "style")
  metadata : Metadata.Legible (es.get "metadata")
  kind : Entries.WritableIfGiven es ["type"]
  texts : Entries.Writable es ["content", "id"]

private theorem boxOfEntries_reads (es : Entries) :
    Reads (Entries.Legible es ["x", "y", "width", "height"]) (boxOfEntries es) := by
  refine (((es.get "x").numberD_reads 0.0).bind fun _ _ => ((es.get "y").numberD_reads 0.0).bind fun _ _ =>
    ((es.get "width").numberD_reads 0.0).bind fun _ _ => ((es.get "height").numberD_reads 0.0).bind_pure _).congr ?_
  simp [Entries.Legible]

/-- What is read of the extents of a box. -/
theorem extents_of_boxOfEntries {es : Entries} {b : Box Float} (h : boxOfEntries es = .ok b) :
    ∃ width height, (es.get "width").numberD 0.0 = .ok width ∧ (es.get "height").numberD 0.0 = .ok height ∧
      b.width = extent width ∧ b.height = extent height := by
  obtain ⟨x, -, h⟩ := bind_eq_ok_iff.1 h
  obtain ⟨y, -, h⟩ := bind_eq_ok_iff.1 h
  obtain ⟨width, hwidth, h⟩ := bind_eq_ok_iff.1 h
  obtain ⟨height, hheight, h⟩ := bind_eq_ok_iff.1 h
  rw [← Except.ok.inj h]
  exact ⟨width, height, hwidth, hheight, rfl, rfl⟩

theorem ofEntries_reads (es : Entries) : Reads (Legible es) (ofEntries es) := by
  refine ((Value.display_orElse_reads _ _).bind fun _ _ => (boxOfEntries_reads es).bind fun _ _ =>
    (Style.ofValue_reads (es.get "style")).bind fun _ _ =>
    (Metadata.ofValue_reads (es.get "metadata")).bind fun _ _ => (Value.written_reads _ _).bind fun _ _ =>
    (Value.displayTrimmed?_reads _).bind_pure _).congr ⟨?_, ?_⟩
  · rintro ⟨hkind, hbox, hstyle, hmetadata, hcontent, hid⟩
    exact ⟨hbox, hstyle, hmetadata, by simpa [Entries.WritableIfGiven] using hkind,
      by simp [Entries.Writable, hcontent, hid]⟩
  · rintro ⟨hbox, hstyle, hmetadata, hkind, htexts⟩
    simp only [Entries.Writable, List.forall_mem_cons] at htexts
    exact ⟨hkind "type" (by simp), hbox, hstyle, hmetadata, htexts.1, htexts.2.1⟩

theorem ofValue?_mapping (es : Entries) : ofValue? (.mapping es) = (ofEntries es).map some := rfl

/-- Only a mapping is an element. -/
theorem exists_entries_of_ofValue? {v : Value} {e : Element Float} (h : ofValue? v = .ok (some e)) :
    ∃ es, v.entries? = some es ∧ ofEntries es = .ok e := by
  unfold ofValue? at h
  cases hentries : v.entries? with
  | none => simp [hentries] at h
  | some es =>
    rw [hentries] at h
    obtain ⟨e', hread, he⟩ := map_eq_ok_iff.1 h
    exact ⟨es, rfl, by rw [hread, Option.some.inj he]⟩

theorem ofEntries_of_ofValue? {es : Entries} {e : Element Float} (h : ofValue? (.mapping es) = .ok (some e)) :
    ofEntries es = .ok e := by
  obtain ⟨es', hentries, hread⟩ := exists_entries_of_ofValue? h
  rwa [Value.mapping.inj (Value.entries?_eq_some_iff.1 hentries)]

/-- The element that is read from a value, with a property that can be checked. -/
theorem exists_of_any_ofValue? {v : Value} {p : Element Float → Bool}
    (h : (ofValue? v).toOption.join.any p = true) : ∃ e, ofValue? v = .ok (some e) ∧ p e = true :=
  exists_some_of_any h

/-- What is read of an element, property by property. -/
structure ReadFrom (es : Entries) (e : Element Float) : Prop where
  kind : e.kind = ElementKind.ofValue? (es.get "type")
  rawKind : ((es.get "type").orElse (.text "")).display = .ok e.rawKind
  box : boxOfEntries es = .ok e.box
  style : Style.ofValue (es.get "style") = .ok e.style
  metadata : Metadata.ofValue (es.get "metadata") = .ok e.metadata
  content : (es.get "content").display? = .ok e.content
  id : (es.get "id").displayTrimmed? = .ok e.id

theorem ofEntries_eq_ok_iff {es : Entries} {e : Element Float} : ofEntries es = .ok e ↔ ReadFrom es e := by
  constructor
  · intro h
    obtain ⟨rawKind, hrawKind, h⟩ := bind_eq_ok_iff.1 h
    obtain ⟨box, hbox, h⟩ := bind_eq_ok_iff.1 h
    obtain ⟨style, hstyle, h⟩ := bind_eq_ok_iff.1 h
    obtain ⟨metadata, hmetadata, h⟩ := bind_eq_ok_iff.1 h
    obtain ⟨content, hcontent, h⟩ := bind_eq_ok_iff.1 h
    obtain ⟨id, hid, h⟩ := bind_eq_ok_iff.1 h
    rw [← Except.ok.inj h]
    exact ⟨rfl, hrawKind, hbox, hstyle, hmetadata, hcontent, hid⟩
  · intro h
    rw [ofEntries, h.rawKind, h.box, h.style, h.metadata, h.content, h.id, ← h.kind]
    rfl

/-- An item can be read if it is no mapping, or one whose numbers and texts can be read. -/
theorem ofValue?_reads (v : Value) : Reads (∀ es, v.entries? = some es → Legible es) (ofValue? v) := by
  unfold ofValue?
  cases v.entries? with
  | none => exact fun _ h => nomatch h
  | some es =>
    refine ((ofEntries_reads es).map some).congr ⟨?_, fun h => h es rfl⟩
    rintro h _ ⟨⟩
    exact h

end Element

namespace Template

/-- Each of several mappings is an element, if all of them can be read. -/
theorem forall₂_of_mapM {items : List Value} {es? : List (Option (Element Float))}
    (hitems : ∀ v ∈ items, ∃ fields, v = .mapping fields) (h : items.mapM Element.ofValue? = .ok es?) :
    List.Forall₂ (fun v e => Element.ofValue? v = .ok (some e)) items (es?.filterMap id) := by
  rw [mapM_eq_ok_iff] at h
  induction h with
  | nil => exact .nil
  | @cons v e? items es? hv _ ih =>
    obtain ⟨⟨fields, rfl⟩, hrest⟩ := List.forall_mem_cons.1 hitems
    obtain ⟨e, -, rfl⟩ := map_eq_ok_iff.1 hv
    exact .cons hv (ih hrest)

/-- The numbers of the canvas at a layer of a template can be read. -/
def LegibleCanvas (es : Entries) : Prop :=
  ∀ size, (es.get "canvasSize").entries? = some size → Entries.Legible size ["width", "height"]

theorem sizeAt_reads (es : Entries) : Reads (LegibleCanvas es) (sizeAt es) := by
  unfold sizeAt LegibleCanvas
  cases (es.get "canvasSize").entries? with
  | none => exact fun _ h => nomatch h
  | some size =>
    refine ((size.get "width").number?_reads.bind fun w _ =>
      (size.get "height").number?_reads.bind_ok fun h _ => ?_).congr (by simp [Entries.Legible])
    cases w <;> cases h <;> exact ⟨_, rfl⟩

/-- A layer of a template declares a canvas by a mapping with two numbers above zero. -/
inductive Declares (es : Entries) (c : Size Float) : Prop where
  | canvas {size : Entries} (hsize : es.get "canvasSize" = .mapping size)
      (hwidth : (size.get "width").number? = .ok (some c.width))
      (hheight : (size.get "height").number? = .ok (some c.height)) (hpos : 0.0 < c.width ∧ 0.0 < c.height)

/-- The canvas that is found at a layer is the one that the layer declares. -/
theorem sizeAt_eq_some_iff {es : Entries} {c : Size Float} : sizeAt es = .ok (some c) ↔ Declares es c := by
  constructor
  · intro h
    unfold sizeAt at h
    split at h
    · cases h
    rename_i size hsize
    obtain ⟨width, hwidth, h⟩ := bind_eq_ok_iff.1 h
    obtain ⟨height, hheight, h⟩ := bind_eq_ok_iff.1 h
    -- both numbers are there, and above zero
    split at h
    · split at h
      · rename_i hpos
        obtain rfl := Option.some.inj (Except.ok.inj h)
        rw [Bool.and_eq_true, decide_eq_true_iff, decide_eq_true_iff] at hpos
        exact .canvas (Value.entries?_eq_some_iff.1 hsize) hwidth hheight hpos
      · cases h
    · cases h
  · rintro ⟨hsize, hwidth, hheight, hpos⟩
    have hentries := Value.entries?_eq_some_iff.2 hsize
    simp [sizeAt, hentries, hwidth, hheight, hpos.1, hpos.2, bind, Except.bind, pure, Except.pure]

/-- A layer whose numbers can be read has a canvas or none, and it is the one that it declares. -/
theorem LegibleCanvas.sizeAt {es : Entries} (h : LegibleCanvas es) :
    ∃ size?, Template.sizeAt es = .ok size? ∧ ∀ size, size? = some size ↔ Declares es size := by
  obtain ⟨size?, hsize⟩ := (sizeAt_reads es).exists_ok_iff.2 h
  refine ⟨size?, hsize, fun size => ?_⟩
  rw [← sizeAt_eq_some_iff, hsize, Except.ok.injEq]

/-- The canvas of a template can be read if the one of its body can, and the one of a wrapper that is looked at. -/
theorem canvasSize_reads (es : Entries) :
    Reads (LegibleCanvas (body es) ∧ ((∀ c, sizeAt (body es) ≠ .ok (some c)) → LegibleCanvas es))
      (canvasSize (.mapping es)) := by
  show Reads _ (sizeAt (body es) >>= _)
  refine (sizeAt_reads (body es)).bind fun size? hsize => ?_
  rw [hsize]
  cases size? with
  | some c => exact fun h => absurd rfl (h c)
  | none => exact (sizeAt_reads es).congr ⟨fun h _ => h, fun h => h fun c hc => nomatch hc⟩

end Template

end ReportCard
