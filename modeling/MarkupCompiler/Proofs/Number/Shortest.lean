import MarkupCompiler.Proofs.Number.Double
import MarkupCompiler.Proofs.Number.IntegerText
import Mathlib.Tactic.SplitIfs

/-!
# The shortest decimal belongs to its double

The search for digits looks at the neighbours of a double on finer and finer grids. It ends with
seventeen digits at the latest, since decimals with so many digits are closer together than doubles.
-/

namespace MarkupCompiler

namespace Shortest

/-- The value of the digits behind a point, moved to the decimal point. -/
def Decimal.value (d : Decimal) : ℚ :=
  d.digits * 10 ^ (d.point - ((toString d.digits).toList.length : ℤ))

theorem length_toString {n length : Nat} (hlow : 10 ^ length ≤ n) (hhigh : n < 10 ^ (length + 1)) :
    (toString n).toList.length = length + 1 := by
  have hpos : 0 < n := (Nat.pow_pos (by decide)).trans_le hlow
  obtain ⟨k, hk⟩ := Nat.exists_eq_succ_of_ne_zero
    (List.length_pos_iff.mpr (IntegerText.toString_ne_nil n)).ne'
  have hleast := (IntegerText.pow_length_le hpos hk).trans_lt hhigh
  have hmost := hlow.trans_lt (hk ▸ IntegerText.lt_pow_length n)
  rw [Nat.pow_lt_pow_iff_right (by decide)] at hleast hmost
  omega

namespace Binary

variable {b : Binary}

theorem admits_iff (hb : b.WellFormed) (digits : Nat) (e : Int) :
    b.admits digits e = true ↔ b.Holds (digits * 10 ^ e) := by
  have hpos := hb.pos
  have hlow : fractionValue (scaled 2 (4 * b.m - if b.narrow then 1 else 2) b.q) = 4 * b.low := by
    rw [fractionValue_scaled (by decide), low, Nat.cast_sub (by split <;> omega)]
    split <;> push_cast <;> ring
  have hhigh : fractionValue (scaled 2 (4 * b.m + 2) b.q) = 4 * b.high := by
    rw [fractionValue_scaled (by decide), high]
    push_cast
    ring
  have hvalue : fractionValue (scaled 10 (4 * digits) e) = 4 * (digits * 10 ^ e) := by
    rw [fractionValue_scaled (by decide)]
    push_cast
    ring
  have hlowDen := scaled_snd_pos (r := 2) (by decide) (4 * b.m - if b.narrow then 1 else 2) b.q
  have hhighDen := scaled_snd_pos (r := 2) (by decide) (4 * b.m + 2) b.q
  have hden := scaled_snd_pos (r := 10) (by decide) (4 * digits) e
  unfold admits Holds
  dsimp only
  simp only [beq_iff_eq]
  split
  · rw [Bool.and_eq_true_iff, decide_eq_true_iff, decide_eq_true_iff,
      le_iff_fractionValue hlowDen hden, le_iff_fractionValue hden hhighDen, hlow, hhigh, hvalue]
    constructor <;> rintro ⟨h, h'⟩ <;> constructor <;> linarith
  · rw [Bool.and_eq_true_iff, decide_eq_true_iff, decide_eq_true_iff,
      lt_iff_fractionValue hlowDen hden, lt_iff_fractionValue hden hhighDen, hlow, hhigh, hvalue]
    constructor <;> rintro ⟨h, h'⟩ <;> constructor <;> linarith

/-- Of the two neighbours of a double on a grid, one that belongs to it is taken, if there is one. -/
theorem onGrid?_spec (hb : b.WellFormed) (e : Int) :
    let below := (b.dividedBy e).1 / (b.dividedBy e).2
    match b.onGrid? e with
    | none => ¬(b.Holds (below * 10 ^ e) ∧ 0 < below) ∧ ¬b.Holds ((below + 1) * 10 ^ e)
    | some n => 0 < n ∧ (n = below ∨ n = below + 1) ∧ b.Holds (n * 10 ^ e) := by
  intro below
  have hlow : (b.admits below e && decide (below > 0)) = true ↔
      b.Holds (below * 10 ^ e) ∧ 0 < below := by
    rw [Bool.and_eq_true_iff, admits_iff hb, decide_eq_true_iff]
  have hhigh : b.admits (below + 1) e = true ↔ b.Holds ((below + 1) * 10 ^ e) := by
    rw [admits_iff hb, Nat.cast_add_one]
  unfold onGrid?
  dsimp only
  cases hbelow : b.admits below e && decide (below > 0) with
  | false =>
    rw [hbelow] at hlow
    have hnot := mt hlow.mpr Bool.false_ne_true
    cases habove : b.admits (below + 1) e with
    | false =>
      rw [habove] at hhigh
      exact ⟨hnot, mt hhigh.mpr Bool.false_ne_true⟩
    | true =>
      refine ⟨Nat.succ_pos below, Or.inr rfl, ?_⟩
      rw [Nat.cast_add_one]
      exact hhigh.mp habove
  | true =>
    obtain ⟨hholds, hpos⟩ := hlow.mp hbelow
    cases habove : b.admits (below + 1) e with
    | false => exact ⟨hpos, Or.inl rfl, hholds⟩
    | true =>
      dsimp only
      split_ifs
      · exact ⟨hpos, Or.inl rfl, hholds⟩
      · refine ⟨Nat.succ_pos below, Or.inr rfl, ?_⟩
        rw [Nat.cast_add_one]
        exact hhigh.mp habove

theorem dividedBy_snd_pos (b : Binary) (e : Int) : 0 < (b.dividedBy e).2 :=
  divided_snd_pos (by decide) (scaled_snd_pos (by decide) _ _) e

theorem fractionValue_dividedBy (b : Binary) (e : Int) :
    fractionValue (b.dividedBy e) = b.value / 10 ^ e := by
  rw [dividedBy, fractionValue_divided (by decide), fractionValue_scaled (by decide)]
  rfl

/-- Decimals with seventeen digits are closer together than doubles. -/
theorem spacing_lt (hb : b.WellFormed) {point : Int} (hlow : (10 : ℚ) ^ (point - 1) ≤ b.value) :
    (10 : ℚ) ^ (point - 17) < b.high - b.low := by
  have hpow : (0 : ℚ) < 2 ^ b.q := zpow_pos (by norm_num) _
  have hspacing : (10 : ℚ) ^ (point - 1) = 10 ^ (point - 17) * 10 ^ 16 := by
    rw [show point - 1 = point - 17 + 16 by ring, zpow_add₀ (by norm_num)]
    norm_num
  rw [hspacing, value] at hlow
  unfold high low
  cases hnarrow : b.narrow with
  | true =>
    have hm : (b.m : ℚ) = 2 ^ 52 := by exact_mod_cast (hb.narrow_iff.mp hnarrow).1
    rw [hm] at hlow ⊢
    norm_num at hlow ⊢
    linarith
  | false =>
    have hm : (b.m : ℚ) < 2 ^ 53 := by exact_mod_cast hb.lt
    have hlow := hlow.trans_lt (mul_lt_mul_of_pos_right hm hpow)
    norm_num at hlow ⊢
    linarith

theorem onGrid?_seventeen_ne_none (hb : b.WellFormed) {point : Int}
    (hlow : (10 : ℚ) ^ (point - 1) ≤ b.value) : b.onGrid? (point - 17) ≠ none := by
  intro hnone
  have hspec := onGrid?_spec hb (point - 17)
  rw [hnone] at hspec
  have hden := b.dividedBy_snd_pos (point - 17)
  have hgrid : (0 : ℚ) < 10 ^ (point - 17) := zpow_pos (by norm_num) _
  have hle := (le_quotient_iff hden).mp le_rfl
  have hlt := (quotient_lt_iff hden).mp (Nat.lt_succ_self _)
  have hpos : 0 < (b.dividedBy (point - 17)).1 / (b.dividedBy (point - 17)).2 := by
    refine (le_quotient_iff hden).mpr ?_
    rw [fractionValue_dividedBy, le_div_iff₀ hgrid, Nat.cast_one, one_mul]
    exact (zpow_le_zpow_right₀ (by norm_num) (by omega)).trans hlow
  rw [fractionValue_dividedBy, le_div_iff₀ hgrid] at hle
  rw [fractionValue_dividedBy, div_lt_iff₀ hgrid, Nat.cast_succ] at hlt
  obtain ⟨hbelow, habove⟩ := hspec
  generalize (b.dividedBy (point - 17)).1 / (b.dividedBy (point - 17)).2 = below at *
  have hfirst : (below : ℚ) * 10 ^ (point - 17) ≤ b.low := by
    by_contra hgt
    exact hbelow ⟨holds_of_lt (not_le.mp hgt) (hle.trans_lt value_lt_high), hpos⟩
  have hsecond : b.high ≤ (below + 1) * 10 ^ (point - 17) := by
    by_contra hgt
    exact habove (holds_of_lt (low_lt_value.trans hlt) (not_le.mp hgt))
  have hspacing := spacing_lt hb hlow
  linarith

/-- The point is found if the search starts at most ten times above the double and goes on far
enough. -/
theorem pointFrom_spec (b : Binary) {fuel : Nat} {start : Int}
    (hlow : (10 : ℚ) ^ (start - 1) ≤ b.value) (hhigh : b.value < 10 ^ (start + fuel)) :
    (10 : ℚ) ^ (b.pointFrom fuel start - 1) ≤ b.value ∧ b.value < 10 ^ b.pointFrom fuel start := by
  induction fuel generalizing start with
  | zero =>
    rw [Nat.cast_zero, add_zero] at hhigh
    exact ⟨hlow, hhigh⟩
  | succ fuel ih =>
    have hiff : (b.dividedBy start).1 < (b.dividedBy start).2 ↔ b.value < 10 ^ start := by
      have hden := b.dividedBy_snd_pos start
      have hpow : (0 : ℚ) < 10 ^ start := zpow_pos (by norm_num) _
      rw [← div_lt_one hpow, ← fractionValue_dividedBy, fractionValue,
        div_lt_one (by exact_mod_cast hden)]
      exact_mod_cast Iff.rfl
    unfold pointFrom
    dsimp only
    split
    · next hless => exact ⟨hlow, hiff.mp hless⟩
    · next hmore =>
      refine ih ?_ ?_
      · rw [add_sub_cancel_right]
        exact not_lt.mp (mt hiff.mpr hmore)
      · rw [show start + 1 + (fuel : ℤ) = start + (fuel + 1 : ℕ) by push_cast; ring]
        exact hhigh

/-- The digits on a grid make a decimal that belongs to the double. -/
theorem holds_of_onGrid? (hb : b.WellFormed) {point : Int} {length n : Nat}
    (hlow : (10 : ℚ) ^ (point - 1) ≤ b.value) (hhigh : b.value < 10 ^ point)
    (h : b.onGrid? (point - Int.ofNat (length + 1)) = some n) :
    let d : Decimal := if n == Nat.pow 10 (length + 1) then ⟨1, point + 1⟩ else ⟨n, point⟩
    0 < d.digits ∧ b.Holds d.value := by
  have hspec := onGrid?_spec hb (point - Int.ofNat (length + 1))
  rw [h] at hspec
  obtain ⟨hpos, hn, hholds⟩ := hspec
  have hden := b.dividedBy_snd_pos (point - Int.ofNat (length + 1))
  have hgrid : (0 : ℚ) < 10 ^ (point - Int.ofNat (length + 1)) := zpow_pos (by norm_num) _
  have hpow : (10 : ℚ) ^ (length + 1) * 10 ^ (point - Int.ofNat (length + 1)) = 10 ^ point := by
    rw [← zpow_natCast, ← zpow_add₀ (by norm_num), Int.ofNat_eq_natCast, add_sub_cancel]
  have hleast : 10 ^ length ≤ (b.dividedBy (point - Int.ofNat (length + 1))).1 /
      (b.dividedBy (point - Int.ofNat (length + 1))).2 := by
    rw [le_quotient_iff hden, fractionValue_dividedBy, le_div_iff₀ hgrid]
    refine le_of_eq_of_le ?_ hlow
    rw [Nat.cast_pow, Nat.cast_ofNat, zpow_sub_one₀ (by norm_num), ← hpow]
    ring
  have hmost : (b.dividedBy (point - Int.ofNat (length + 1))).1 /
      (b.dividedBy (point - Int.ofNat (length + 1))).2 < 10 ^ (length + 1) := by
    rw [quotient_lt_iff hden, fractionValue_dividedBy, div_lt_iff₀ hgrid, Nat.cast_pow,
      Nat.cast_ofNat, hpow]
    exact hhigh
  dsimp only
  split
  · next heq =>
    have hround : n = 10 ^ (length + 1) := eq_of_beq heq
    refine ⟨Nat.one_pos, ?_⟩
    rw [hround, Nat.cast_pow, Nat.cast_ofNat, hpow] at hholds
    have hvalue : Decimal.value ⟨1, point + 1⟩ = 10 ^ point := by
      have hlength : (toString 1).toList.length = 0 + 1 := length_toString (by decide) (by decide)
      rw [Decimal.value, hlength]
      simp
    rw [hvalue]
    exact hholds
  · next hne =>
    have hround : n ≠ 10 ^ (length + 1) := fun heq => hne (beq_iff_eq.mpr heq)
    have hlength : (toString n).toList.length = length + 1 :=
      length_toString (by omega) (by omega)
    refine ⟨hpos, ?_⟩
    rw [Decimal.value, hlength]
    exact hholds

theorem search_spec (hb : b.WellFormed) {point : Int} (hlow : (10 : ℚ) ^ (point - 1) ≤ b.value)
    (hhigh : b.value < 10 ^ point) {tries length : Nat} (h : tries + length = 16) :
    0 < (b.search point (tries + 1) (length + 1)).digits ∧
      b.Holds (b.search point (tries + 1) (length + 1)).value := by
  induction tries generalizing length with
  | zero =>
    obtain rfl : length = 16 := by omega
    obtain ⟨n, hn⟩ := Option.ne_none_iff_exists'.mp (onGrid?_seventeen_ne_none hb hlow)
    have hn : b.onGrid? (point - Int.ofNat (16 + 1)) = some n := hn
    rw [search, hn]
    exact holds_of_onGrid? hb hlow hhigh hn
  | succ tries ih =>
    rw [search]
    cases hn : b.onGrid? (point - Int.ofNat (length + 1)) with
    | none => exact ih (by omega)
    | some n => exact holds_of_onGrid? hb hlow hhigh hn

/-- The search for the point starts at most ten times above the double, and goes on far enough. -/
theorem pointBound_near (hb : b.WellFormed) :
    (10 : ℚ) ^ (b.pointBound - 1) ≤ b.value ∧ b.value < 10 ^ (b.pointBound + (8 : ℕ)) := by
  have hleast := hb.least
  have hmost := hb.most
  have htwo : (2 : ℚ) ≠ 0 := by norm_num
  have hpow : (0 : ℚ) < 2 ^ b.q := zpow_pos (by norm_num) _
  have hlog : b.m.log2 < 53 := (Nat.log2_lt (Nat.ne_of_gt hb.pos)).mpr hb.lt
  have hlow : (2 : ℚ) ^ (b.q + b.m.log2) ≤ b.value := by
    have hm : (2 : ℚ) ^ b.m.log2 ≤ b.m := by exact_mod_cast Nat.log2_self_le (Nat.ne_of_gt hb.pos)
    rw [zpow_add₀ htwo, mul_comm, value, zpow_natCast]
    gcongr
  have hhigh : b.value < (2 : ℚ) ^ (b.q + b.m.log2 + 1) := by
    have hm : (b.m : ℚ) < 2 ^ (b.m.log2 + 1) := by exact_mod_cast Nat.lt_log2_self
    rw [add_assoc, zpow_add₀ htwo, mul_comm, value]
    exact mul_lt_mul_of_pos_right (by exact_mod_cast hm) hpow
  have hbound : b.pointBound = Int.fdiv ((b.q + b.m.log2) * 30103) 100000 - 1 := rfl
  have hdiv : 100000 * (b.pointBound + 1) ≤ (b.q + b.m.log2) * 30103 ∧
      (b.q + b.m.log2) * 30103 < 100000 * (b.pointBound + 2) := by
    rw [hbound, Int.fdiv_eq_ediv_of_nonneg _ (by decide)]
    omega
  constructor
  · exact (ten_zpow_le_two_zpow (by omega) (by omega)).trans hlow
  · exact hhigh.trans_le (two_zpow_le_ten_zpow (by omega) (by omega))

end Binary

/-- The shortest decimal of a positive double belongs to it. -/
theorem holds_ofBits {bits : Nat} (hpos : 0 < bits) (hlt : bits < 2 ^ 63) :
    0 < (Decimal.ofBits bits).digits ∧
      (Binary.ofBits bits).Holds (Decimal.ofBits bits).value := by
  have hb := Binary.wellFormed_ofBits hpos hlt
  obtain ⟨hnear, hfar⟩ := Binary.pointBound_near hb
  obtain ⟨hlow, hhigh⟩ := Binary.pointFrom_spec _ hnear hfar
  exact Binary.search_spec hb hlow hhigh rfl

end Shortest

end MarkupCompiler
