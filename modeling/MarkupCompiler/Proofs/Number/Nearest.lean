import MarkupCompiler.Number.DecimalText
import MarkupCompiler.Proofs.Number.Double
import MarkupCompiler.Proofs.Number.IntegerText

/-!
# A decimal is read as the double that it belongs to

The last place of a fraction is that of its double, or the one below it where the fraction lies just
under a power of two. Rounding to that place gives the double in both cases.
-/

namespace MarkupCompiler

namespace DecimalText

open Shortest

variable {b : Binary} {fraction : Nat × Nat}

theorem rounded_eq {n : Nat} (hden : 0 < fraction.2)
    (hlow : (n : ℚ) - 1 / 2 ≤ fractionValue fraction) (hhigh : fractionValue fraction ≤ n + 1 / 2)
    (hodd : n % 2 = 1 → (n : ℚ) - 1 / 2 < fractionValue fraction ∧
      fractionValue fraction < n + 1 / 2) : rounded fraction = n := by
  obtain ⟨num, den⟩ := fraction
  have hpos : (0 : ℚ) < den := by exact_mod_cast hden
  have hlow : 2 * (n * den) ≤ 2 * num + den := by
    rw [fractionValue, le_div_iff₀ hpos] at hlow
    exact_mod_cast (by linarith : (2 * (n * den) : ℚ) ≤ 2 * num + den)
  have hhigh : 2 * num ≤ 2 * (n * den) + den := by
    rw [fractionValue, div_le_iff₀ hpos] at hhigh
    exact_mod_cast (by linarith : (2 * num : ℚ) ≤ 2 * (n * den) + den)
  have hodd : n % 2 = 1 → 2 * (n * den) < 2 * num + den ∧ 2 * num < 2 * (n * den) + den := by
    intro h
    obtain ⟨hleft, hright⟩ := hodd h
    rw [fractionValue, lt_div_iff₀ hpos] at hleft
    rw [fractionValue, div_lt_iff₀ hpos] at hright
    constructor
    · exact_mod_cast (by linarith : (2 * (n * den) : ℚ) < 2 * num + den)
    · exact_mod_cast (by linarith : (2 * num : ℚ) < 2 * (n * den) + den)
  have hsplit : num / den * den + num % den = num := Nat.div_add_mod' num den
  have hmod : num % den < den := Nat.mod_lt _ hden
  have hle : num / den ≤ n := by
    by_contra hlt
    have hnext : (n + 1) * den ≤ num / den * den := Nat.mul_le_mul_right den (Nat.lt_of_not_le hlt)
    rw [Nat.add_mul] at hnext
    omega
  have hge : n ≤ num / den + 1 := by
    by_contra hlt
    have hnext : (num / den + 2) * den ≤ n * den := Nat.mul_le_mul_right den (Nat.lt_of_not_le hlt)
    rw [Nat.add_mul] at hnext
    omega
  unfold rounded
  dsimp only
  rcases (by omega : n = num / den ∨ n = num / den + 1) with hn | hn
  · rw [hn] at hhigh hodd
    rw [if_pos]
    · exact hn.symm
    · simp only [Bool.or_eq_true, Bool.and_eq_true, decide_eq_true_eq, beq_iff_eq]
      omega
  · rw [hn, Nat.add_mul] at hlow hodd
    rw [if_neg]
    · exact hn.symm
    · simp only [Bool.or_eq_true, Bool.and_eq_true, decide_eq_true_eq, beq_iff_eq]
      omega

/-- The binary logarithms of its parts bound a fraction on both sides. -/
theorem fractionValue_bounds (hnum : 0 < fraction.1) (hden : 0 < fraction.2) :
    let e : ℤ := fraction.1.log2 - fraction.2.log2
    (2 : ℚ) ^ (e - 1) < fractionValue fraction ∧ fractionValue fraction < 2 ^ (e + 1) := by
  intro e
  obtain ⟨num, den⟩ := fraction
  have hpos : (0 : ℚ) < den := by exact_mod_cast hden
  have htwo : (2 : ℚ) ≠ 0 := by norm_num
  have hnumLow : (2 : ℚ) ^ (num.log2 : ℤ) ≤ num := by
    exact_mod_cast Nat.log2_self_le (Nat.ne_of_gt hnum)
  have hnumHigh : (num : ℚ) < 2 ^ (num.log2 + 1 : ℤ) := by
    exact_mod_cast Nat.lt_log2_self
  have hdenLow : (2 : ℚ) ^ (den.log2 : ℤ) ≤ den := by
    exact_mod_cast Nat.log2_self_le (Nat.ne_of_gt hden)
  have hdenHigh : (den : ℚ) < 2 ^ (den.log2 + 1 : ℤ) := by
    exact_mod_cast Nat.lt_log2_self
  constructor
  · rw [fractionValue, lt_div_iff₀ hpos]
    calc (2 : ℚ) ^ (e - 1) * den
        < 2 ^ (e - 1) * 2 ^ (den.log2 + 1 : ℤ) := by gcongr
      _ = 2 ^ (num.log2 : ℤ) := by
        rw [← zpow_add₀ htwo]
        congr 1
        ring
      _ ≤ num := hnumLow
  · rw [fractionValue, div_lt_iff₀ hpos]
    calc (num : ℚ) < 2 ^ (num.log2 + 1 : ℤ) := hnumHigh
      _ = 2 ^ (e + 1) * 2 ^ (den.log2 : ℤ) := by
        rw [← zpow_add₀ htwo]
        congr 1
        ring
      _ ≤ 2 ^ (e + 1) * den := by gcongr

/-- The last place is the one that the logarithms give, or the next one if the fraction is too large
for it. -/
theorem lastPlace_eq (hden : 0 < fraction.2) :
    let first : ℤ := max (fraction.1.log2 - fraction.2.log2 - 53) (-1074)
    lastPlace fraction = if fractionValue fraction < 2 ^ (first + 53) then first else first + 1 := by
  obtain ⟨num, den⟩ := fraction
  have hpos : (0 : ℚ) < den := by exact_mod_cast hden
  unfold lastPlace
  dsimp only
  simp only [Int.ofNat_eq_natCast, Nat.pow_eq]
  generalize max (num.log2 - den.log2 - 53 : ℤ) (-1074) = first
  have hdivided := divided_snd_pos (r := 2) (by decide) hden first
  have hiff : (divided 2 (num, den) first).1 / (divided 2 (num, den) first).2 < 2 ^ 53 ↔
      fractionValue (num, den) < 2 ^ (first + 53) := by
    rw [quotient_lt_iff hdivided, fractionValue_divided (by decide), div_lt_iff₀ (by positivity),
      zpow_add₀ (by norm_num), mul_comm]
    norm_num
  simp only [hiff]

theorem lastPlace_spec (hnum : 0 < fraction.1) (hden : 0 < fraction.2) :
    let q := lastPlace fraction
    (-1074 : ℤ) ≤ q ∧ fractionValue fraction < (2 : ℚ) ^ (q + 53) ∧
      (-1074 < q → (2 : ℚ) ^ (q + 52) ≤ fractionValue fraction) := by
  intro q
  obtain ⟨hlow, hhigh⟩ := fractionValue_bounds hnum hden
  have hq : q = _ := lastPlace_eq hden
  generalize hfirst : max (fraction.1.log2 - fraction.2.log2 - 53 : ℤ) (-1074) = first at hq
  rw [hq]
  split
  · next hsmall =>
    refine ⟨by omega, hsmall, fun hlarge => ?_⟩
    have heq : first + 52 = fraction.1.log2 - fraction.2.log2 - 1 := by omega
    rw [heq]
    exact hlow.le
  · next hlarge =>
    refine ⟨by omega, hhigh.trans_le ?_, fun _ => ?_⟩
    · exact zpow_le_zpow_right₀ (by norm_num) (by omega)
    · rw [show first + 1 + 52 = first + 53 by ring]
      exact not_lt.mp hlarge

theorem fst_pos_of_holds (hb : b.WellFormed) (h : b.Holds (fractionValue fraction)) :
    0 < fraction.1 := by
  have hone : (1 : ℚ) ≤ b.m := by exact_mod_cast hb.pos
  have hlow : 0 < b.low :=
    (mul_pos (by linarith) (zpow_pos (by norm_num) _)).trans_le b.sub_half_le
  by_contra hzero
  have hvalue : fractionValue fraction = 0 := by
    rw [fractionValue, Nat.eq_zero_of_not_pos hzero, Nat.cast_zero, zero_div]
  linarith [h.low_le]

/-- The last place of a fraction is that of the double it belongs to, or the one below if the double
is a power of two and the fraction is less. -/
theorem lastPlace_cases (hb : b.WellFormed) (hden : 0 < fraction.2)
    (h : b.Holds (fractionValue fraction)) :
    lastPlace fraction = b.q ∨ lastPlace fraction + 1 = b.q ∧ b.m = 2 ^ 52 ∧ b.narrow = true := by
  obtain ⟨hleast, hbelow, hfull⟩ := lastPlace_spec (fst_pos_of_holds hb h) hden
  have hlow := h.low_le
  have hhigh := h.le_high
  generalize lastPlace fraction = q at *
  generalize fractionValue fraction = v at *
  have htwo : (2 : ℚ) ≠ 0 := by norm_num
  have hpow : (0 : ℚ) < 2 ^ b.q := zpow_pos (by norm_num) _
  have hlt : (b.m : ℚ) + 1 ≤ 2 ^ 53 := by exact_mod_cast hb.lt
  have hle : q ≤ b.q := by
    by_contra hgt
    have hnext : (2 : ℚ) ^ (b.q + 53) ≤ 2 ^ (q + 52) := zpow_le_zpow_right₀ (by norm_num) (by omega)
    have hlarge := hfull (by have := hb.least; omega)
    rw [zpow_add₀ htwo] at hnext
    unfold Binary.high at hhigh
    norm_num at hnext hlt
    nlinarith
  rcases hle.eq_or_lt with heq | hless
  · exact Or.inl heq
  · right
    have hnormal : -1074 < b.q := by omega
    have hm : (2 : ℚ) ^ 52 ≤ b.m := by exact_mod_cast hb.full hnormal
    have hbound : v < 2 ^ 52 * 2 ^ b.q := by
      refine hbelow.trans_le ?_
      have hnext : (2 : ℚ) ^ (q + 53) ≤ 2 ^ (52 + b.q) := zpow_le_zpow_right₀ (by norm_num) (by omega)
      rw [zpow_add₀ htwo 52] at hnext
      exact_mod_cast hnext
    have hpower : b.m = 2 ^ 52 := by
      by_contra hne
      have hnext : (2 : ℚ) ^ 52 + 1 ≤ b.m := by
        exact_mod_cast Nat.lt_of_le_of_ne (hb.full hnormal) (Ne.symm hne)
      have hhalf := b.sub_half_le
      nlinarith
    have hnarrow : b.narrow = true := hb.narrow_iff.mpr ⟨hpower, hnormal⟩
    refine ⟨?_, hpower, hnarrow⟩
    by_contra hne
    have hnext : (2 : ℚ) ^ (q + 53) ≤ 2 ^ (51 + b.q) := zpow_le_zpow_right₀ (by norm_num) (by omega)
    rw [zpow_add₀ htwo 51] at hnext
    unfold Binary.low at hlow
    rw [if_pos hnarrow, hpower] at hlow
    norm_num at hnext hlow
    nlinarith

/-- A fraction that belongs to a double is read as the double. -/
theorem nearestBits_of_holds {bits : Nat} (hden : 0 < fraction.2) (hpos : 0 < bits)
    (hlt : bits < infinityBits) (h : (Binary.ofBits bits).Holds (fractionValue fraction)) :
    nearestBits fraction = bits := by
  have hlarge : bits < 2 ^ 63 := by
    unfold infinityBits at hlt
    rw [Nat.pow_eq] at hlt
    omega
  have hb := Binary.wellFormed_ofBits hpos hlarge
  have hbits := Binary.bits_ofBits hlarge
  obtain ⟨hleast, hbelow, -⟩ := lastPlace_spec (fst_pos_of_holds hb h) hden
  have hcases := lastPlace_cases hb hden h
  generalize Binary.ofBits bits = b at *
  have hpow : (0 : ℚ) < 2 ^ b.q := zpow_pos (by norm_num) _
  have hhalf := b.sub_half_le
  have hdivided := divided_snd_pos (r := 2) (by decide) hden (lastPlace fraction)
  have hvalue := fractionValue_divided (r := 2) (by decide) fraction (lastPlace fraction)
  suffices hrounded : (lastPlace fraction + 1074).natAbs * 2 ^ 52 +
      rounded (divided 2 fraction (lastPlace fraction)) = bits by
    rw [nearestBits, Nat.pow_eq, hrounded]
    exact Nat.min_eq_left hlt.le
  rcases hcases with heq | ⟨heq, hpower, hnarrow⟩
  · have hrounded : rounded (divided 2 fraction (lastPlace fraction)) = b.m := by
      rw [heq] at hvalue hdivided ⊢
      refine rounded_eq hdivided ?_ ?_ fun hodd => ?_
      · rw [hvalue, Nat.cast_ofNat, le_div_iff₀ hpow]
        exact hhalf.trans h.low_le
      · rw [hvalue, Nat.cast_ofNat, div_le_iff₀ hpow]
        exact h.le_high
      · rw [hvalue, Nat.cast_ofNat, lt_div_iff₀ hpow, div_lt_iff₀ hpow]
        rw [Binary.Holds, if_neg (by omega)] at h
        exact ⟨hhalf.trans_lt h.1, h.2⟩
    rw [hrounded, heq, hbits]
  · have hrounded : rounded (divided 2 fraction (lastPlace fraction)) = 2 ^ 53 := by
      have hlast : (0 : ℚ) < 2 ^ lastPlace fraction := zpow_pos (by norm_num) _
      have hlow := h.low_le
      rw [Binary.low, if_pos hnarrow, hpower, ← heq, zpow_add_one₀ (by norm_num)] at hlow
      rw [zpow_add₀ (by norm_num)] at hbelow
      norm_num at hlow hbelow
      refine rounded_eq hdivided ?_ ?_ fun hodd => absurd hodd (by norm_num)
      · rw [hvalue, Nat.cast_ofNat, le_div_iff₀ hlast]
        norm_num
        linarith
      · rw [hvalue, Nat.cast_ofNat, div_le_iff₀ hlast]
        norm_num
        linarith
    have habs : (b.q + 1074).natAbs = (lastPlace fraction + 1074).natAbs + 1 := by omega
    rw [hrounded, ← hbits, habs, hpower]
    ring

/-- Every fraction that belongs to a double is in the range where its digits are looked at. -/
theorem range_of_holds (hb : b.WellFormed) {v : ℚ} (h : b.Holds v) :
    (10 : ℚ) ^ (-400 : ℤ) ≤ v ∧ v ≤ 10 ^ (399 : ℤ) := by
  have hleast := hb.least
  have hmost := hb.most
  constructor
  · have hhalf : (1 : ℚ) / 2 ≤ b.m - 1 / 2 := by
      have hone : (1 : ℚ) ≤ b.m := by exact_mod_cast hb.pos
      linarith
    calc (10 : ℚ) ^ (-400 : ℤ) ≤ 2 ^ (b.q - 1) := ten_zpow_le_two_zpow (by omega) (by omega)
      _ = 1 / 2 * 2 ^ b.q := by rw [zpow_sub_one₀ (by norm_num)]; ring
      _ ≤ (b.m - 1 / 2) * 2 ^ b.q := by gcongr
      _ ≤ b.low := b.sub_half_le
      _ ≤ v := h.low_le
  · have hm : (b.m : ℚ) + 1 ≤ 2 ^ (53 : ℤ) := by exact_mod_cast hb.lt
    calc v ≤ b.high := h.le_high
      _ ≤ 2 ^ (53 : ℤ) * 2 ^ b.q := by
        unfold Binary.high
        gcongr
        linarith
      _ = 2 ^ (53 + b.q) := (zpow_add₀ (by norm_num) _ _).symm
      _ ≤ 10 ^ (399 : ℤ) := two_zpow_le_ten_zpow (by omega) (by omega)

theorem toFloat_zero (negative : Bool) (exponent : Int) :
    toFloat negative 0 exponent =
      Float.ofBits (UInt64.ofNat (if negative then 0 + 2 ^ 63 else 0)) := by
  unfold toFloat
  simp only [beq_self_eq_true, Bool.true_or, if_true, Nat.pow_eq]

/-- A decimal that belongs to a double is read as the double. -/
theorem toFloat_of_holds {bits mantissa : Nat} {exponent : Int} (negative : Bool) (hpos : 0 < bits)
    (hlt : bits < infinityBits) (h : (Binary.ofBits bits).Holds (mantissa * 10 ^ exponent)) :
    toFloat negative mantissa exponent =
      Float.ofBits (UInt64.ofNat (if negative then bits + 2 ^ 63 else bits)) := by
  have hlarge : bits < 2 ^ 63 := by
    unfold infinityBits at hlt
    rw [Nat.pow_eq] at hlt
    omega
  have hten : (10 : ℚ) ≠ 0 := by norm_num
  have hpow : (0 : ℚ) < 10 ^ exponent := zpow_pos (by norm_num) _
  obtain ⟨hlow, hhigh⟩ := range_of_holds (Binary.wellFormed_ofBits hpos hlarge) h
  have hmantissa : 0 < mantissa := by
    by_contra hzero
    rw [Nat.eq_zero_of_not_pos hzero, Nat.cast_zero, zero_mul] at hlow
    exact absurd hlow (not_le.mpr (zpow_pos (by norm_num) _))
  obtain ⟨length, hlength⟩ := Nat.exists_eq_succ_of_ne_zero
    (List.length_pos_iff.mpr (IntegerText.toString_ne_nil mantissa)).ne'
  have hleast : ¬((length + 1 : ℕ) : ℤ) + exponent < -400 := by
    have hdigits : (mantissa : ℚ) < 10 ^ ((length + 1 : ℕ) : ℤ) := by
      exact_mod_cast hlength ▸ IntegerText.lt_pow_length mantissa
    have hless := hlow.trans_lt (mul_lt_mul_of_pos_right hdigits hpow)
    rw [← zpow_add₀ hten, zpow_lt_zpow_iff_right₀ (by norm_num)] at hless
    omega
  have hmost : ¬((length + 1 : ℕ) : ℤ) + exponent > 400 := by
    have hdigits : (10 : ℚ) ^ (length : ℤ) ≤ mantissa := by
      exact_mod_cast IntegerText.pow_length_le hmantissa hlength
    have hmore := (mul_le_mul_of_nonneg_right hdigits hpow.le).trans hhigh
    rw [← zpow_add₀ hten, zpow_le_zpow_iff_right₀ (by norm_num)] at hmore
    omega
  have hnearest : nearestBits (scaled 10 mantissa exponent) = bits := by
    refine nearestBits_of_holds (scaled_snd_pos (by decide) _ _) hpos hlt ?_
    rw [fractionValue_scaled (by decide)]
    exact h
  have hzero : (mantissa == 0) = false := beq_eq_false_iff_ne.mpr (Nat.ne_of_gt hmantissa)
  unfold toFloat
  simp only [← IntegerText.toList_toString, hlength, Int.ofNat_eq_natCast, hzero, hleast, hmost, hnearest,
    decide_false, Bool.or_self, Bool.false_eq_true, if_false, Nat.pow_eq]

end DecimalText

end MarkupCompiler
