import ReportCard.Proofs.Value.Reading
import ReportCard.Value.Display
import ReportCard.Value.Path

/-!
# What can be written

A value has a text unless a whole number in it has too many digits, and writing fails for no other reason
(`Value.written_reads`).  What is found in a value that can be written can be written itself (`Value.isWritable_reach`).
Whole numbers in the range of doubles can always be written: they have far fewer digits.
-/

namespace ReportCard

/-- What is printed is there if everything in it can be written, and fails for no other reason. -/
def Prints {β : Type} (writable : Prop) (x : Except Fault β) : Prop :=
  ∀ fault, x = .error fault → fault = .numberTooLong ∧ ¬writable

namespace Prints

variable {β γ : Type} {P Q : Prop} {x : Except Fault β}

theorem ok (P : Prop) (b : β) : Prints P (.ok b : Except Fault β) := nofun

theorem mono (hx : Prints P x) (h : Q → P) : Prints Q x :=
  fun fault hfault => ⟨(hx fault hfault).1, fun hq => (hx fault hfault).2 (h hq)⟩

theorem map (hx : Prints P x) (f : β → γ) : Prints P (x.map f) :=
  fun fault hfault => hx fault (map_eq_error_iff.1 hfault)

theorem bind {f : β → Except Fault γ} (hx : Prints P x) (hf : ∀ b, Prints P (f b)) : Prints P (x >>= f) := by
  intro fault hfault
  rcases bind_eq_error_iff.1 hfault with h | ⟨b, -, h⟩
  · exact hx fault h
  · exact hf b fault h

theorem mapM {A : Type} {f : A → Except Fault β} {l : List A} (h : ∀ a ∈ l, Prints P (f a)) :
    Prints P (l.mapM f) := by
  intro fault hfault
  obtain ⟨before, a, after, rfl, -, ha⟩ := mapM_eq_error_iff.1 hfault
  exact h a (by simp) fault ha

end Prints

namespace Value

variable {v w : Value} {β : Type} {b c : β} {fault : Fault}

theorem written_eq_ok_iff : v.written b = .ok c ↔ v.isWritable = true ∧ b = c := by
  unfold written
  split <;> simp [*]

theorem written_eq_error_iff : v.written b = .error fault ↔ v.isWritable = false ∧ fault = .numberTooLong := by
  unfold written
  split <;> simp [*, eq_comm]

theorem written_of_isWritable (h : v.isWritable = true) (b : β) : v.written b = .ok b := if_pos h

theorem written_reads (v : Value) (b : β) : Reads (v.isWritable = true) (v.written b) := by
  unfold written
  split
  · assumption
  · exact ⟨‹_›, by simp [Fault.ofNumbers]⟩

theorem written_prints (v : Value) (b : β) : Prints (v.isWritable = true) (v.written b) := by
  intro fault h
  obtain ⟨hlong, rfl⟩ := written_eq_error_iff.1 h
  exact ⟨rfl, by simp [hlong]⟩

theorem displayTrimmed?_reads (v : Value) : Reads (v.isWritable = true) v.displayTrimmed? := v.written_reads _

theorem isWritable_of_isNull (h : v.isNull = true) : v.isWritable = true := by
  cases v with
  | null => rfl
  | _ => cases h

theorem isWritable_of_isBlank (h : v.isBlank = true) : v.isWritable = true := by
  cases v with
  | null | text s => rfl
  | _ => cases h

/-! ### Numbers -/

theorem isWritable_int_iff {n : Int} : (int n).isWritable = true ↔ n.natAbs < wholeBound := by
  rw [isWritable, decide_eq_true_eq]

theorem wholeBound_eq : wholeBound = 10 ^ Numeral.maxDigits := by
  unfold wholeBound
  generalize Numeral.maxDigits = digits
  rfl

/-- Whole numbers in the range of doubles have few enough digits. -/
theorem doubleBound_lt_wholeBound : doubleBound < wholeBound := by
  unfold wholeBound
  decide +kernel

theorem isWritable_int_of_lt {n : Int} (h : n.natAbs < doubleBound) : (int n).isWritable = true :=
  isWritable_int_iff.2 (Nat.lt_trans h doubleBound_lt_wholeBound)

/-! ### Parts -/

theorem areWritable_iff {items : List Value} : areWritable items = true ↔ ∀ v ∈ items, v.isWritable = true := by
  induction items with
  | nil => simp [areWritable]
  | cons v items ih => simp [areWritable, ih]

theorem holdWritable_iff {es : Entries} : holdWritable es = true ↔ ∀ e ∈ es, e.2.isWritable = true := by
  induction es with
  | nil => simp [holdWritable]
  | cons e es ih =>
    obtain ⟨key, v⟩ := e
    simp [holdWritable, ih]

theorem isWritable_of_mem_items {items : List Value} (h : v.isWritable = true) (hitems : v.items? = some items)
    (hw : w ∈ items) : w.isWritable = true := by
  cases v with
  | list l | tuple l =>
    obtain rfl : l = items := Option.some.inj hitems
    rw [isWritable, areWritable_iff] at h
    exact h w hw
  | _ => cases hitems

end Value

theorem Entries.isWritable_get {es : Entries} (h : Value.holdWritable es = true) (key : String) :
    (es.get key).isWritable = true := by
  unfold Entries.get
  cases hlookup : es.lookup key with
  | none => rfl
  | some v =>
    obtain ⟨before, after, rfl, -⟩ := List.lookup_eq_some_iff.1 hlookup
    exact Value.holdWritable_iff.1 h (key, v) (by simp)

namespace Value

variable {v : Value}

/-- What a value that can be written holds under a name can be written. -/
theorem isWritable_member (h : v.isWritable = true) (name : String) : (v.member name).isWritable = true := by
  have hone : 1 < wholeBound := Nat.lt_trans (by decide +kernel) doubleBound_lt_wholeBound
  have hattributes : holdWritable v.attributes = true := by
    cases v with
    | bool b => cases b <;> simp [attributes, wholeAttributes, holdWritable, isWritable_int_iff] <;> omega
    | int n =>
      rw [isWritable_int_iff] at h
      simp [attributes, wholeAttributes, holdWritable, isWritable_int_iff, h]
      omega
    | date d =>
      obtain ⟨hyear, hmonth, hday⟩ := of_decide_eq_true h
      have hfirst : (date firstDay).isWritable = true := decide_eq_true ⟨hone, hone, hone⟩
      have hlast : (date lastDay).isWritable = true := decide_eq_true
        ⟨Nat.lt_trans (by decide +kernel) doubleBound_lt_wholeBound,
          Nat.lt_trans (by decide +kernel) doubleBound_lt_wholeBound,
          Nat.lt_trans (by decide +kernel) doubleBound_lt_wholeBound⟩
      simp [attributes, holdWritable, isWritable_int_iff, hyear, hmonth, hday, hfirst, hlast]
    | object es present => exact h
    | _ => rfl
  cases v with
  | mapping es => exact Entries.isWritable_get h name
  | _ => exact Entries.isWritable_get hattributes name

theorem isWritable_reach (h : v.isWritable = true) (names : List String) : (v.reach names).isWritable = true := by
  induction names generalizing v with
  | nil => exact h
  | cons name names ih => exact ih (isWritable_member h name)

end Value

end ReportCard
