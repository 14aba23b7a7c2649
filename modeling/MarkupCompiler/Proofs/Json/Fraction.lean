import Mathlib
import MarkupCompiler.Proofs.Json.Number
import MarkupCompiler.Proofs.Number.Nearest
import MarkupCompiler.Proofs.Number.Shortest

/-!
# Fractions are read back

A finite double is written as a number by the grammar, whose amount is that of the shortest decimal.
The decimal belongs to the double, so the number is read as the double.
-/

namespace MarkupCompiler

namespace Json

/-! ## The value of digits -/

theorem digitsValue_append {front back : Text} (hfront : ∀ c ∈ front, c.isDigit = true)
    (hback : ∀ c ∈ back, c.isDigit = true) :
    Text.digitsValue 10 (front ++ back) =
      10 ^ back.length * Text.digitsValue 10 front + Text.digitsValue 10 back := by
  rw [digitsValue_ten hfront, digitsValue_ten hback,
    digitsValue_ten (List.forall_mem_append.mpr ⟨hfront, hback⟩), Nat.ofDigitChars_append,
    Nat.ofDigitChars_eq_ofDigitChars_zero]

theorem isDigit_of_mem_replicate {k : Nat} {c : Char} (hc : c ∈ List.replicate k '0') :
    c.isDigit = true := by
  rw [List.eq_of_mem_replicate hc]
  rfl

theorem digitsValue_replicate (k : Nat) : Text.digitsValue 10 (List.replicate k '0') = 0 := by
  rw [digitsValue_ten fun c => isDigit_of_mem_replicate, Nat.ofDigitChars_replicate_zero,
    Nat.mul_zero]

theorem isDigit_of_mem_padZeros {width n : Nat} {c : Char} (hc : c ∈ padZeros width n) :
    c.isDigit = true := by
  rcases List.mem_append.mp hc with hzero | hdigit
  · exact isDigit_of_mem_replicate hzero
  · exact IntegerText.isDigit_of_mem_toString hdigit

theorem digitsValue_padZeros (width n : Nat) : Text.digitsValue 10 (padZeros width n) = n := by
  rw [padZeros, digitsValue_append (fun c => isDigit_of_mem_replicate)
    (fun c => IntegerText.isDigit_of_mem_toString), digitsValue_replicate, digitsValue_toString,
    Nat.mul_zero, Nat.zero_add]

/-! ## Notations of a decimal -/

namespace Numeral

/-- The parts of a fraction: it has a part behind a point or an exponent, or both. -/
structure IsFraction (n : Numeral) : Prop extends n.WellFormed where
  fraction : n.part ≠ [] ∨ n.exponent?.isSome

/-- The amount of a number without its sign. -/
def amount (n : Numeral) : ℚ :=
  Text.digitsValue 10 (n.whole ++ n.part) * 10 ^ (n.exponentValue - n.part.length)

theorem IsFraction.value?_eq {n : Numeral} (h : n.IsFraction) :
    n.value? = some (.float (DecimalText.toFloat n.negative
      (Text.digitsValue 10 (n.whole ++ n.part)) (n.exponentValue - n.part.length))) := by
  have hfraction : (n.part.isEmpty && n.exponent?.isNone) = false := by
    rcases h.fraction with hpart | hexponent
    · simp [hpart]
    · simp [Option.isNone_eq_false_iff.mpr hexponent]
  unfold value?
  rw [hfraction]
  rfl

section Decimal

open DecimalNotation (positional scientific ofDecimal)

variable {digits : Text}

/-- Digits on both sides of a point are a fraction. -/
theorem exists_pointed (negative : Bool) {whole part : Text}
    (hwhole : ∀ c ∈ whole, c.isDigit = true) (hne : whole ≠ [])
    (hlead : whole = ['0'] ∨ whole.head? ≠ some '0') (hpart : ∀ c ∈ part, c.isDigit = true)
    (hpoint : part ≠ []) :
    ∃ n : Numeral, n.IsFraction ∧ n.negative = negative ∧
      n.text = sign negative ++ (whole ++ '.' :: part) ∧
      n.amount = Text.digitsValue 10 (whole ++ part) * 10 ^ (-(part.length : ℤ)) := by
  refine ⟨⟨negative, whole, part, none⟩, ⟨⟨hwhole, hne, hlead, hpart, ?_⟩, Or.inl hpoint⟩, rfl,
    ?_, ?_⟩
  · rintro _ _ ⟨⟩
  · simp [text, pointText, exponentText, hpoint]
  · rw [amount, exponentValue, zero_sub]

theorem exists_positional (hdigits : ∀ c ∈ digits, c.isDigit = true) (hne : digits ≠ [])
    (hhead : digits.head? ≠ some '0') (negative : Bool) (point : Int) :
    ∃ n : Numeral, n.IsFraction ∧ n.negative = negative ∧
      n.text = sign negative ++ positional digits point ∧
      n.amount = Text.digitsValue 10 digits * 10 ^ (point - digits.length) := by
  have hzeros : ∀ k, ∀ c ∈ List.replicate k '0', c.isDigit = true :=
    fun k c => isDigit_of_mem_replicate
  unfold positional
  rcases lt_or_ge 0 point with hpoint | hpoint
  · obtain ⟨k, rfl⟩ : ∃ k : ℕ, point = k + 1 := ⟨(point - 1).natAbs, by omega⟩
    have habs : ((k : ℤ) + 1).natAbs = k + 1 := by omega
    rw [if_neg (not_le.mpr hpoint), habs]
    rcases Nat.lt_or_ge (k + 1) digits.length with hlength | hlength
    · -- the point stands among the digits
      have hpart : digits.drop (k + 1) ≠ [] := by simpa using hlength
      have hlead : (digits.take (k + 1)).head? ≠ some '0' := by simpa [List.head?_take] using hhead
      obtain ⟨n, hn, hsign, htext, hamount⟩ := exists_pointed negative
        (fun c hc => hdigits c (List.mem_of_mem_take hc)) (by simpa using hne) (Or.inr hlead)
        (fun c hc => hdigits c (List.mem_of_mem_drop hc)) hpart
      refine ⟨n, hn, hsign, ?_, ?_⟩
      · simp [htext, hpart, Nat.sub_eq_zero_of_le hlength.le]
      · rw [hamount, List.take_append_drop, List.length_drop]
        congr 2
        omega
    · -- zeros stand between the digits and the point
      obtain ⟨n, hn, hsign, htext, hamount⟩ := exists_pointed negative
        (List.forall_mem_append.mpr ⟨hdigits, hzeros (k + 1 - digits.length)⟩)
        (List.append_ne_nil_of_left_ne_nil hne _)
        (Or.inr (by rwa [List.head?_append_of_ne_nil _ hne])) (hzeros 1) (List.cons_ne_nil _ _)
      refine ⟨n, hn, hsign, ?_, ?_⟩
      · simp [htext, List.take_of_length_le hlength, List.drop_of_length_le hlength]
      · have hdigits' : digits ++ List.replicate (k + 1 - digits.length) '0' ++
            List.replicate 1 '0' = digits ++ List.replicate (k + 1 - digits.length + 1) '0' := by
          rw [List.append_assoc, List.replicate_append_replicate]
        have hexponent : (k : ℤ) + 1 - digits.length =
            ((k + 1 - digits.length + 1 : ℕ) : ℤ) + -(1 : ℕ) := by omega
        rw [hamount, hdigits', digitsValue_append hdigits (hzeros _), digitsValue_replicate,
          List.length_replicate, hexponent, zpow_add₀ (by norm_num), zpow_natCast,
          List.length_replicate]
        push_cast
        ring
  · -- zeros stand between the point and the digits
    rw [if_pos hpoint]
    obtain ⟨n, hn, hsign, htext, hamount⟩ := exists_pointed negative (hzeros 1)
      (List.cons_ne_nil _ _) (Or.inl rfl)
      (List.forall_mem_append.mpr ⟨hzeros point.natAbs, hdigits⟩)
      (List.append_ne_nil_of_right_ne_nil _ hne)
    refine ⟨n, hn, hsign, htext, ?_⟩
    have hvalue : Text.digitsValue 10
        (List.replicate 1 '0' ++ (List.replicate point.natAbs '0' ++ digits)) =
          Text.digitsValue 10 digits := by
      rw [← List.append_assoc, List.replicate_append_replicate, digitsValue_append (hzeros _) hdigits,
        digitsValue_replicate, Nat.mul_zero, Nat.zero_add]
    rw [hamount, hvalue, List.length_append, List.length_replicate]
    congr 2
    omega

theorem exists_scientific (hdigits : ∀ c ∈ digits, c.isDigit = true) (hne : digits ≠ [])
    (hhead : digits.head? ≠ some '0') (negative : Bool) (exponent : Int) :
    ∃ n : Numeral, n.IsFraction ∧ n.negative = negative ∧
      n.text = sign negative ++ scientific digits exponent ∧
      n.amount = Text.digitsValue 10 digits * 10 ^ (exponent + 1 - digits.length) := by
  obtain ⟨first, others, rfl⟩ := List.exists_cons_of_ne_nil hne
  obtain ⟨hfirst, hothers⟩ := List.forall_mem_cons.mp hdigits
  refine ⟨⟨negative, [first], others, some (decide (exponent < 0), padZeros 2 exponent.natAbs)⟩,
    ⟨⟨?_, List.cons_ne_nil _ _, Or.inr (by simpa using hhead), hothers, ?_⟩, Or.inr rfl⟩, rfl, ?_,
    ?_⟩
  · exact List.forall_mem_singleton.mpr hfirst
  · rintro _ _ ⟨⟩
    refine ⟨?_, fun c => isDigit_of_mem_padZeros⟩
    exact List.append_ne_nil_of_right_ne_nil _ (IntegerText.toString_ne_nil _)
  · cases others with
    | nil => simp [text, pointText, exponentText, scientific]
    | cons second rest => simp [text, pointText, exponentText, scientific]
  · have hexponent : (if decide (exponent < 0) = true then -Int.ofNat exponent.natAbs
        else Int.ofNat exponent.natAbs) = exponent := by
      simp only [Int.ofNat_eq_natCast, decide_eq_true_eq]
      split <;> omega
    rw [amount]
    simp only [exponentValue, digitsValue_padZeros, hexponent, List.singleton_append,
      List.length_cons]
    congr 2
    omega

theorem exists_ofDecimal {d : Shortest.Decimal} (hpos : 0 < d.digits) (negative : Bool) :
    ∃ n : Numeral, n.IsFraction ∧ n.negative = negative ∧
      n.text = sign negative ++ ofDecimal d ∧ n.amount = d.value := by
  have hdigits : ∀ c ∈ (toString d.digits).toList, c.isDigit = true :=
    fun c => IntegerText.isDigit_of_mem_toString
  have hne := IntegerText.toString_ne_nil d.digits
  have hhead := IntegerText.head?_toString hpos
  unfold ofDecimal Shortest.Decimal.value
  dsimp only
  split
  · obtain ⟨n, hfraction, hsign, htext, hamount⟩ :=
      exists_positional hdigits hne hhead negative d.point
    exact ⟨n, hfraction, hsign, htext, by rw [hamount, digitsValue_toString]⟩
  · obtain ⟨n, hfraction, hsign, htext, hamount⟩ :=
      exists_scientific hdigits hne hhead negative (d.point - 1)
    exact ⟨n, hfraction, hsign, htext, by rw [hamount, digitsValue_toString, sub_add_cancel]⟩

end Decimal

end Numeral

end Json

/-! ## The bits of a double -/

namespace DecimalNotation

open Float.Model (Format)
open Float.Model.UnpackedFloat

/-- A double without its sign, by its bits. -/
theorem magnitude_lt {x : Float} (hnan : x.isNaN = false) (hinf : x.isInf = false) :
    x.toBits.toNat % 2 ^ 63 < DecimalText.infinityBits := by
  by_contra hge
  rw [not_lt, DecimalText.infinityBits, Nat.pow_eq] at hge
  have hexponent : @unpackExponent Format.binary64 x.toModel.toBits.toBitVec = -1#11 := by
    rw [unpackExponent_def]
    apply BitVec.eq_of_toNat_eq
    rw [BitVec.extractLsb'_toNat]
    show x.toBits.toNat >>> 52 % 2 ^ 11 = 2047
    have hlt : x.toBits.toNat < 2 ^ 64 := x.toBits.toNat_lt
    rw [Nat.shiftRight_eq_div_pow]
    omega
  change (unpack Format.binary64 x.toModel.toBits.toBitVec).isNaN = false at hnan
  change (unpack Format.binary64 x.toModel.toBits.toBitVec).isInf = false at hinf
  unfold unpack at hnan hinf
  simp only [hexponent, if_true] at hnan hinf
  split at hnan
  · next h =>
    rw [if_pos h] at hinf
    exact Bool.noConfusion hinf
  · exact Bool.noConfusion hnan

theorem eq_of_isInf {x : Float} (h : x.isInf = true) :
    x = if x.toBits.toNat / 2 ^ 63 % 2 == 1 then -(1.0 / 0.0) else 1.0 / 0.0 := by
  have hunpack : ∃ s, unpack Format.binary64 x.toModel.toBits.toBitVec = .infinity s := by
    change (unpack Format.binary64 x.toModel.toBits.toBitVec).isInf = true at h
    cases hx : unpack Format.binary64 x.toModel.toBits.toBitVec with
    | infinity s => exact ⟨s, rfl⟩
    | notANumber | zero _ | finite _ _ _ _ =>
      rw [hx] at h
      exact Bool.noConfusion h
  obtain ⟨s, hs⟩ := hunpack
  have hx : x = Float.ofModel (Float.Model.pack (.infinity s)) := by
    rw [← hs]
    exact (Float.ofBits_toBits x).symm
  rw [hx]
  cases s <;> decide +kernel

/-- A double is put together again from its sign and the bits without it. -/
theorem ofBits_sign_magnitude (x : Float) :
    Float.ofBits (UInt64.ofNat (if x.toBits.toNat / 2 ^ 63 % 2 == 1 then
      x.toBits.toNat % 2 ^ 63 + 2 ^ 63 else x.toBits.toNat % 2 ^ 63)) = x := by
  have hlt : x.toBits.toNat < 2 ^ 64 := x.toBits.toNat_lt
  have hbits : (if x.toBits.toNat / 2 ^ 63 % 2 == 1 then x.toBits.toNat % 2 ^ 63 + 2 ^ 63
      else x.toBits.toNat % 2 ^ 63) = x.toBits.toNat := by
    simp only [beq_iff_eq]
    split <;> omega
  rw [hbits, UInt64.ofNat_toNat, Float.ofBits_toBits]

end DecimalNotation

/-! ## Doubles -/

namespace Json

namespace Numeral

theorem exists_zero {x : Float} {negative : Bool}
    (hx : Float.ofBits (UInt64.ofNat (if negative then 0 + 2 ^ 63 else 0)) = x) :
    ∃ n : Numeral, n.IsFraction ∧ n.text = sign negative ++ ['0', '.', '0'] ∧
      n.value? = some (.float x) := by
  have hdigit : ∀ c ∈ List.replicate 1 '0', c.isDigit = true :=
    fun c => isDigit_of_mem_replicate
  have hfraction : IsFraction ⟨negative, ['0'], ['0'], none⟩ :=
    ⟨⟨hdigit, List.cons_ne_nil _ _, Or.inl rfl, hdigit, by rintro _ _ ⟨⟩⟩,
      Or.inl (List.cons_ne_nil _ _)⟩
  have hvalue : Text.digitsValue 10 (['0'] ++ ['0']) = 0 := digitsValue_replicate 2
  refine ⟨_, hfraction, by simp [text, pointText, exponentText], ?_⟩
  rw [hfraction.value?_eq, hvalue, DecimalText.toFloat_zero, hx]

/-- A finite double is written as a number that is read as the double. -/
theorem exists_write {x : Float} (hnan : x.isNaN = false) (hinf : x.isInf = false) :
    ∃ n : Numeral, n.IsFraction ∧ n.text = (DecimalNotation.write .json x).toList ∧
      n.value? = some (.float x) := by
  have hsign : ∀ negative, (if negative then "-" else "").toList = sign negative := by decide
  unfold DecimalNotation.write
  simp only [hnan, hinf, Nat.pow_eq, Bool.false_eq_true, if_false]
  split
  · next hzero =>
    rw [String.toList_append, hsign]
    have hx := DecimalNotation.ofBits_sign_magnitude x
    rw [eq_of_beq hzero] at hx
    exact exists_zero hx
  · next hne =>
    rw [String.toList_append, hsign, String.toList_ofList]
    have hlt := DecimalNotation.magnitude_lt hnan hinf
    have hpos : 0 < x.toBits.toNat % 2 ^ 63 :=
      Nat.pos_of_ne_zero fun hzero => hne (beq_iff_eq.mpr hzero)
    obtain ⟨hdigits, hholds⟩ := Shortest.holds_ofBits hpos (Nat.mod_lt _ (by decide))
    obtain ⟨n, hfraction, hnegative, htext, hamount⟩ :=
      exists_ofDecimal hdigits (x.toBits.toNat / 2 ^ 63 % 2 == 1)
    refine ⟨n, hfraction, htext, ?_⟩
    rw [← hamount] at hholds
    rw [hfraction.value?_eq, DecimalText.toFloat_of_holds n.negative hpos hlt hholds, hnegative,
      DecimalNotation.ofBits_sign_magnitude]

end Numeral

end Json

end MarkupCompiler
