import Mathlib.Data.List.Forall2
import ReportCard.Proofs.Number.Float
import ReportCard.Value.Number

/-!
# What can be read as a number

Reading numbers is lenient: what is no number counts as missing.  It stops only at a whole number outside the range of
doubles, and where a whole number is wanted at a double that is not finite.  `Reads` states for a reading both when it
succeeds and why it stops otherwise; it holds of a sequence of readings if it holds of each of them.  A count that has
been read is in the range of doubles itself (`Value.natAbs_lt_of_whole?`).
-/

namespace ReportCard

theorem Value.entries?_eq_some_iff {v : Value} {es : Entries} : v.entries? = some es ↔ v = .mapping es := by
  cases v <;> simp [entries?]

/-- The reasons why a reading stops at a number. -/
def Fault.ofNumbers : List Fault := [.numberTooLarge, .numberTooLong, .wholeOfNaN, .wholeOfInfinity]

theorem map_eq_ok_iff {β γ : Type} {x : Except Fault β} {f : β → γ} {c : γ} :
    x.map f = .ok c ↔ ∃ b, x = .ok b ∧ f b = c := by
  cases x <;> simp [Except.map]

theorem bind_eq_ok_iff {β γ : Type} {x : Except Fault β} {f : β → Except Fault γ} {c : γ} :
    x >>= f = .ok c ↔ ∃ b, x = .ok b ∧ f b = .ok c := by
  cases x <;> simp [bind, Except.bind]

theorem map_eq_error_iff {β γ : Type} {x : Except Fault β} {f : β → γ} {fault : Fault} :
    x.map f = .error fault ↔ x = .error fault := by
  cases x <;> simp [Except.map]

theorem bind_eq_error_iff {β γ : Type} {x : Except Fault β} {f : β → Except Fault γ} {fault : Fault} :
    x >>= f = .error fault ↔ x = .error fault ∨ ∃ b, x = .ok b ∧ f b = .error fault := by
  cases x <;> simp [bind, Except.bind]

theorem map_bind_eq {β γ δ : Type} (x : Except Fault β) (f : β → Except Fault γ) (g : γ → δ) :
    (x >>= f).map g = x >>= fun b => (f b).map g := by
  cases x <;> rfl

theorem bind_map_eq {β γ δ : Type} (x : Except Fault β) (f : β → γ) (g : γ → Except Fault δ) :
    x.map f >>= g = x >>= fun b => g (f b) := by
  cases x <;> rfl

theorem mapM_eq_ok_iff {A B : Type} {f : A → Except Fault B} {l : List A} {l' : List B} :
    l.mapM f = .ok l' ↔ List.Forall₂ (fun a b => f a = .ok b) l l' := by
  induction l generalizing l' with
  | nil => cases l' <;> simp [pure, Except.pure]
  | cons a l ih =>
    rw [List.mapM_cons]
    cases ha : f a with
    | error fault => cases l' <;> simp [bind, Except.bind, ha]
    | ok b =>
      cases hl : l.mapM f <;> cases l' <;> simp [bind, Except.bind, pure, Except.pure, ← ih, ha, hl]

/-- Reading several values stops at the first that cannot be read. -/
theorem mapM_eq_error_iff {A B : Type} {f : A → Except Fault B} {l : List A} {fault : Fault} :
    l.mapM f = .error fault ↔
      ∃ before a after, l = before ++ a :: after ∧ (∀ b ∈ before, ∃ c, f b = .ok c) ∧ f a = .error fault := by
  induction l with
  | nil => simp [pure, Except.pure]
  | cons a l ih =>
    rw [List.mapM_cons, bind_eq_error_iff]
    constructor
    · rintro (ha | ⟨c, ha, hrest⟩)
      · exact ⟨[], a, l, rfl, by simp, ha⟩
      · rcases bind_eq_error_iff.1 hrest with hrest | ⟨_, _, h⟩
        · obtain ⟨before, b, after, rfl, hbefore, hb⟩ := ih.1 hrest
          exact ⟨a :: before, b, after, rfl, List.forall_mem_cons.2 ⟨⟨c, ha⟩, hbefore⟩, hb⟩
        · cases h
    · rintro ⟨before, b, after, hl, hbefore, hb⟩
      cases before with
      | nil =>
        obtain ⟨rfl, rfl⟩ := List.cons.inj hl
        exact .inl hb
      | cons a' before =>
        obtain ⟨rfl, rfl⟩ := List.cons.inj hl
        obtain ⟨⟨c, hc⟩, hbefore⟩ := List.forall_mem_cons.1 hbefore
        exact .inr ⟨c, hc, bind_eq_error_iff.2 (.inl (ih.2 ⟨before, b, after, rfl, hbefore, hb⟩))⟩

/-- What is read, with a property that can be checked. -/
theorem exists_ok_of_any {B : Type} {x : Except Fault B} {p : B → Bool} (h : x.toOption.any p = true) :
    ∃ b, x = .ok b ∧ p b = true := by
  cases x with
  | error fault => cases h
  | ok b => exact ⟨b, rfl, h⟩

theorem exists_some_of_any {B : Type} {x : Except Fault (Option B)} {p : B → Bool}
    (h : x.toOption.join.any p = true) : ∃ b, x = .ok (some b) ∧ p b = true := by
  have hany : x.toOption.any (Option.any p) = true := by
    cases x with
    | error fault => cases h
    | ok b? => exact h
  obtain ⟨b?, hx, hb⟩ := exists_ok_of_any hany
  cases b? with
  | none => cases hb
  | some b => exact ⟨b, hx, hb⟩

/-- A reading succeeds for what is legible, and otherwise stops at a number. -/
def Reads {β : Type} (legible : Prop) : Except Fault β → Prop
  | .ok _ => legible
  | .error fault => ¬legible ∧ fault ∈ Fault.ofNumbers

namespace Reads

variable {β γ : Type} {P Q : Prop} {x : Except Fault β}

theorem congr (hx : Reads P x) (h : P ↔ Q) : Reads Q x := by
  rw [← propext h]
  exact hx

theorem exists_ok_iff (hx : Reads P x) : (∃ b, x = .ok b) ↔ P := by
  cases x with
  | ok b => exact ⟨fun _ => hx, fun _ => ⟨b, rfl⟩⟩
  | error fault => exact ⟨fun ⟨_, hb⟩ => (nomatch hb), fun h => absurd h hx.1⟩

theorem map (hx : Reads P x) (f : β → γ) : Reads P (x.map f) := by
  cases x with
  | ok b => exact hx
  | error fault => exact hx

theorem bind {f : β → Except Fault γ} (hx : Reads P x) (hf : ∀ b, x = .ok b → Reads Q (f b)) :
    Reads (P ∧ Q) (x >>= f) := by
  cases x with
  | error fault => exact ⟨fun h => hx.1 h.1, hx.2⟩
  | ok b =>
    have hb := hf b rfl
    show Reads (P ∧ Q) (f b)
    exact hb.congr ⟨fun h => ⟨hx, h⟩, And.right⟩

/-- What is made of a reading does not matter if it always succeeds. -/
theorem bind_ok {f : β → Except Fault γ} (hx : Reads P x) (hf : ∀ b, x = .ok b → ∃ c, f b = .ok c) :
    Reads P (x >>= f) := by
  refine (hx.bind (Q := True) fun b hb => ?_).congr (and_iff_left trivial)
  obtain ⟨c, hc⟩ := hf b hb
  rw [hc]
  trivial

theorem bind_pure (hx : Reads P x) (f : β → γ) : Reads P (x >>= fun b => pure (f b)) :=
  hx.bind_ok fun _ _ => ⟨_, rfl⟩

/-- A reading of several values succeeds if each can be read. -/
theorem mapM {A : Type} {f : A → Except Fault β} {P : A → Prop} {l : List A} (h : ∀ a ∈ l, Reads (P a) (f a)) :
    Reads (∀ a ∈ l, P a) (l.mapM f) := by
  induction l with
  | nil => simp [Reads, pure, Except.pure]
  | cons a l ih =>
    rw [List.mapM_cons]
    refine ((h a (by simp)).bind fun b _ => ?_).congr List.forall_mem_cons.symm
    exact (ih fun a' ha' => h a' (by simp [ha'])).bind_pure _

end Reads

/-! ### Numbers -/

theorem floatOfInt_reads (n : Int) : Reads (n.natAbs < doubleBound) (floatOfInt n) := by
  unfold floatOfInt
  split
  · rename_i h
    exact ⟨Nat.not_lt.2 h, by simp [Fault.ofNumbers]⟩
  · rename_i h
    exact Nat.not_le.1 h

example : (Float.ofNat doubleBound).isInf = true ∧ (Float.ofNat (doubleBound - 1)).isInf = false := by decide +kernel

/-- Exactly the finite doubles have a whole number next to them. -/
theorem truncate_reads (x : Float) : Reads (x.isFinite = true) (truncate x) := by
  have hfinite : x.isFinite = x.toModel.unpack.isFinite := rfl
  unfold truncate Exact.ofFloat
  rw [hfinite]
  cases x.toModel.unpack with
  | notANumber => exact ⟨Bool.false_ne_true, by simp [Fault.ofNumbers]⟩
  | infinity s => exact ⟨Bool.false_ne_true, by simp [Fault.ofNumbers]⟩
  | zero s => rfl
  | finite s m e h => rfl

private theorem Exact.natAbs_signed (negative : Bool) (m : Nat) : (signed negative m).natAbs = m := by
  cases negative <;> simp [signed]

private theorem Exact.power_mono {e e' : Int} (h : e ≤ e') : power 2 e ≤ power 2 e' :=
  Nat.pow_le_pow_right (by decide) (Int.toNat_le_toNat h)

private theorem floorNat_lt {m : Nat} {e : Int} (hm : m < Nat.pow 2 53) (he : e ≤ 971) :
    Exact.floorNat m e < doubleBound := by
  have hlast : (Nat.pow 2 53 - 1) * Exact.power 2 971 < doubleBound := by decide +kernel
  refine Nat.lt_of_le_of_lt ?_ hlast
  unfold Exact.floorNat
  split
  · exact Nat.mul_le_mul (Nat.le_sub_one_of_lt hm) (Exact.power_mono he)
  · calc m / _ ≤ m := Nat.div_le_self _ _
      _ ≤ Nat.pow 2 53 - 1 := Nat.le_sub_one_of_lt hm
      _ ≤ _ := Nat.le_mul_of_pos_right _ (Nat.pow_pos (by decide))

/-- The whole number next to a double is in the range of doubles. -/
theorem natAbs_lt_of_truncate {x : Float} {n : Int} (h : truncate x = .ok n) : n.natAbs < doubleBound := by
  unfold truncate Exact.ofFloat at h
  cases hu : x.toModel.unpack with
  | notANumber => simp [hu] at h
  | infinity s => simp [hu] at h
  | zero s =>
    rw [hu] at h
    rw [← Except.ok.inj h, Exact.natAbs_signed]
    exact floorNat_lt (by decide) (by decide)
  | finite s m e hm =>
    rw [hu] at h
    rw [← Except.ok.inj h, Exact.natAbs_signed]
    obtain ⟨hcanonical, hlast⟩ := canonical_of_unpack hu
    exact floorNat_lt hcanonical.lt hlast

namespace Value

/-- The value is a whole number outside the range of doubles. -/
def IsOversized (v : Value) : Prop := ∃ n, v = int n ∧ doubleBound ≤ n.natAbs

/-- The value can be read as a count: if it is a number at all, it is one with a finite double. -/
def IsCount (v : Value) : Prop := ¬v.IsOversized ∧ ∀ x, v.number? = .ok (some x) → x.isFinite = true

theorem number?_reads (v : Value) : Reads (¬v.IsOversized) v.number? := by
  cases v with
  | int n =>
    refine ((floatOfInt_reads n).map some).congr ⟨?_, fun h => Nat.not_le.1 fun hn => h ⟨n, rfl, hn⟩⟩
    rintro h ⟨_, ⟨⟩, hn⟩
    exact Nat.not_le.2 h hn
  | _ => exact fun ⟨_, h, _⟩ => nomatch h

theorem numberD_reads (v : Value) (default : Float) : Reads (¬v.IsOversized) (v.numberD default) :=
  v.number?_reads.map _

theorem whole?_reads (v : Value) : Reads v.IsCount v.whole? := by
  refine v.number?_reads.bind fun number hnumber => ?_
  rw [hnumber]
  cases number with
  | none => exact fun x h => nomatch h
  | some x =>
    refine ((truncate_reads x).bind_pure _).congr ⟨?_, fun h => h x rfl⟩
    rintro h _ ⟨⟩
    exact h

/-- A count that is read is in the range of doubles. -/
theorem natAbs_lt_of_whole? {v : Value} {n : Int} (h : v.whole? = .ok (some n)) : n.natAbs < doubleBound := by
  obtain ⟨number, -, h⟩ := bind_eq_ok_iff.1 h
  cases number with
  | none => cases h
  | some x =>
    obtain ⟨n', htruncate, h⟩ := bind_eq_ok_iff.1 h
    cases h
    exact natAbs_lt_of_truncate htruncate

end Value

end ReportCard
