import MarkupCompiler.Number.IntegerText
import MarkupCompiler.Proofs.Text.Solid
import Mathlib.Algebra.GroupWithZero.Nat

/-!
# Integers that can be written

An integer can be written if it has at most 4300 digits, and then it is read back as it is.
-/

namespace MarkupCompiler.IntegerText

theorem isWritable_iff {n : Int} : isWritable n = true ↔ n.natAbs < bound :=
  decide_eq_true_iff

theorem isWritable_of_le {m n : Int} (hm : 0 ≤ m) (h : m ≤ n) (hn : isWritable n = true) :
    isWritable m = true := by
  rw [isWritable_iff] at hn ⊢
  omega

theorem bound_eq : bound = 10 ^ maxDigits := by
  have hpow : ∀ k, Nat.pow 10 k = 10 ^ k := fun _ => rfl
  have hmost := hpow maxDigits
  unfold bound
  exact hmost

theorem length_toDigits_le_iff {n : Nat} : (Nat.toDigits 10 n).length ≤ maxDigits ↔ n < bound := by
  rw [bound_eq]
  exact Nat.length_toDigits_le_iff (by decide) (by decide)

theorem toNat_of_isDigit {c : Char} (h : c.isDigit = true) : 0x30 ≤ c.toNat ∧ c.toNat ≤ 0x39 :=
  Char.isDigit_iff_toNat.mp h

theorem digitValue?_of_isDigit {c : Char} (h : c.isDigit = true) :
    Text.digitValue? c = some (c.toNat - 0x30) := by
  obtain ⟨hlow, hhigh⟩ := toNat_of_isDigit h
  have hascii : c.toNat < 0x80 := by omega
  simp [Text.digitValue?, hascii, hlow, hhigh]

theorem isBlank_of_isDigit {c : Char} (h : c.isDigit = true) : Text.isBlank c = false := by
  obtain ⟨hlow, hhigh⟩ := toNat_of_isDigit h
  simp only [Text.isBlank, Bool.or_eq_false_iff, Bool.and_eq_false_iff, decide_eq_false_iff_not,
    beq_eq_false_iff_ne]
  omega

theorem isPadding_of_isDigit {c : Char} (h : c.isDigit = true) : isPadding c = false := by
  rw [isPadding, isBlank_of_isDigit h, Bool.false_and]

theorem digitRun_of_isDigit {t : Text} (h : ∀ c ∈ t, c.isDigit = true) (afterDigit : Bool)
    (hne : t ≠ [] ∨ afterDigit = true) :
    digitRun afterDigit t = some (t.map fun c => c.toNat - 0x30, []) := by
  induction t generalizing afterDigit with
  | nil =>
    obtain rfl : afterDigit = true := hne.resolve_left (absurd rfl)
    rfl
  | cons c rest ih =>
    obtain ⟨hc, hrest⟩ := List.forall_mem_cons.mp h
    rw [digitRun, digitValue?_of_isDigit hc, ih hrest true (Or.inr rfl)]
    rfl

theorem sign_of_isDigit {t : Text} (h : ∀ c ∈ t, c.isDigit = true) : sign t = (false, t) := by
  rw [sign]
  · rintro rest rfl
    exact absurd (h '-' List.mem_cons_self) (by decide)
  · rintro rest rfl
    exact absurd (h '+' List.mem_cons_self) (by decide)

theorem ofDigits_map (t : Text) : ofDigits (t.map fun c => c.toNat - 0x30) = Nat.ofDigitChars 10 t 0 :=
  List.foldl_map

theorem toList_toString (n : Nat) : (toString n).toList = Nat.toDigits 10 n := by
  rw [Nat.toString_eq_ofList_toDigits, String.toList_ofList]

theorem isDigit_of_mem_toString {n : Nat} {c : Char} (h : c ∈ (toString n).toList) :
    c.isDigit = true := by
  rw [toList_toString] at h
  exact Nat.isDigit_of_mem_toDigits (by decide) (by decide) h

theorem toString_ne_nil (n : Nat) : (toString n).toList ≠ [] := by
  rw [toList_toString]
  exact Nat.toDigits_ne_nil

/-- Only zero begins with zero. -/
theorem lt_pow_length (n : Nat) : n < 10 ^ (toString n).toList.length := by
  rw [toList_toString]
  exact (Nat.length_toDigits_le_iff (by decide) (List.length_pos_iff.mpr Nat.toDigits_ne_nil)).mp
    le_rfl

theorem pow_length_le {n length : Nat} (hpos : 0 < n) (h : (toString n).toList.length = length + 1) :
    10 ^ length ≤ n := by
  rcases Nat.eq_zero_or_pos length with rfl | hlength
  · exact hpos
  · rw [toList_toString] at h
    by_contra hlt
    have := (Nat.length_toDigits_le_iff (b := 10) (by decide) hlength).mpr (Nat.lt_of_not_le hlt)
    omega

theorem head?_toString {n : Nat} (h : 0 < n) : (toString n).toList.head? ≠ some '0' := by
  rw [toList_toString]
  induction n using Nat.strongRecOn with
  | ind n ih =>
    by_cases hsmall : n < 10
    · rw [Nat.toDigits_of_lt_base hsmall, List.head?_cons]
      intro hzero
      have hdigit := Nat.digitChar_eq_zero.mp (Option.some.inj hzero)
      omega
    · rw [Nat.toDigits_of_base_le (by decide) (by omega), List.head?_append_of_ne_nil _
        Nat.toDigits_ne_nil]
      exact ih (n / 10) (by omega) (by omega)

/-- What is cut off at the ends of texts, if it is no digit, does not change the text of a number. -/
theorem trim_toString {p : Char → Bool} (h : ∀ c, c.isDigit = true → p c = false) (n : Nat) :
    Text.trim p (toString n).toList = (toString n).toList :=
  Text.trim_eq_self (fun c hc => h c (isDigit_of_mem_toString (List.mem_of_head? hc)))
    fun c hc => h c (isDigit_of_mem_toString (List.mem_of_getLast? hc))

/-- The text of a natural number is read back, if the number can be written. -/
theorem read_toString {n : Nat} (h : n < bound) : read (toString n).toList = .ok n := by
  have hdigit : ∀ c ∈ (toString n).toList, c.isDigit = true := fun c => isDigit_of_mem_toString
  have hlength : ¬((toString n).toList.map fun c => c.toNat - 0x30).length > maxDigits := by
    rw [List.length_map, Nat.not_lt, toList_toString]
    exact length_toDigits_le_iff.mpr h
  have hvalue : ofDigits ((toString n).toList.map fun c => c.toNat - 0x30) = n := by
    rw [ofDigits_map, toList_toString, Nat.ofDigitChars_ten_toDigits]
  rw [read, trim_toString (fun _ => isPadding_of_isDigit), sign_of_isDigit hdigit]
  simp only [digitRun_of_isDigit hdigit false (Or.inl (toString_ne_nil n)), if_neg hlength, hvalue]
  rfl

end MarkupCompiler.IntegerText
