import MarkupCompiler.Number.Shortest
import Mathlib.Algebra.Order.Field.Power
import Mathlib.Data.Rat.Cast.Order
import Mathlib.Tactic.FieldSimp
import Mathlib.Tactic.Linarith
import Mathlib.Tactic.NormNum
import Mathlib.Tactic.Positivity
import Mathlib.Tactic.Ring

/-!
# Doubles and the fractions that belong to them

A positive double stands for the fractions that are nearer to it than to any other double, and for
those halfway to a neighbour if its last bit is even.
-/

namespace MarkupCompiler

namespace Shortest

/-- The value of a numerator and a denominator. -/
def fractionValue (fraction : Nat × Nat) : ℚ := fraction.1 / fraction.2

variable {r : Nat}

theorem scaled_snd_pos (hbase : 0 < r) (n : Nat) (e : Int) : 0 < (scaled r n e).2 := by
  unfold scaled
  split
  · exact Nat.pow_pos hbase
  · exact Nat.one_pos

theorem fractionValue_scaled (hbase : 0 < r) (n : Nat) (e : Int) :
    fractionValue (scaled r n e) = n * (r : ℚ) ^ e := by
  have hpos : (r : ℚ) ≠ 0 := by positivity
  unfold fractionValue scaled
  rcases lt_or_ge e 0 with he | he
  · obtain ⟨k, rfl⟩ : ∃ k : ℕ, e = -k := ⟨e.natAbs, by omega⟩
    rw [if_pos he]
    simp [div_eq_mul_inv]
  · obtain ⟨k, rfl⟩ : ∃ k : ℕ, e = k := ⟨e.natAbs, by omega⟩
    rw [if_neg (not_lt.mpr he)]
    simp

theorem divided_snd_pos (hbase : 0 < r) {fraction : Nat × Nat} (h : 0 < fraction.2) (e : Int) :
    0 < (divided r fraction e).2 := by
  unfold divided
  dsimp only
  split
  · exact h
  · exact Nat.mul_pos h (Nat.pow_pos hbase)

theorem fractionValue_divided (hbase : 0 < r) (fraction : Nat × Nat) (e : Int) :
    fractionValue (divided r fraction e) = fractionValue fraction / (r : ℚ) ^ e := by
  have hpos : (r : ℚ) ≠ 0 := by positivity
  unfold fractionValue divided
  rcases lt_or_ge e 0 with he | he
  · obtain ⟨k, rfl⟩ : ∃ k : ℕ, e = -k := ⟨e.natAbs, by omega⟩
    rw [if_pos he]
    simp [div_mul_eq_mul_div]
  · obtain ⟨k, rfl⟩ : ∃ k : ℕ, e = k := ⟨e.natAbs, by omega⟩
    rw [if_neg (not_lt.mpr he)]
    simp [div_div]

theorem quotient_lt_iff {fraction : Nat × Nat} (h : 0 < fraction.2) {n : Nat} :
    fraction.1 / fraction.2 < n ↔ fractionValue fraction < n := by
  rw [Nat.div_lt_iff_lt_mul h, fractionValue, div_lt_iff₀ (by exact_mod_cast h)]
  exact_mod_cast Iff.rfl

theorem le_quotient_iff {fraction : Nat × Nat} (h : 0 < fraction.2) {n : Nat} :
    n ≤ fraction.1 / fraction.2 ↔ n ≤ fractionValue fraction := by
  rw [← not_lt, quotient_lt_iff h, not_lt]

theorem le_iff_fractionValue {f g : Nat × Nat} (hf : 0 < f.2) (hg : 0 < g.2) :
    f.1 * g.2 ≤ g.1 * f.2 ↔ fractionValue f ≤ fractionValue g := by
  rw [fractionValue, fractionValue, div_le_div_iff₀ (by exact_mod_cast hf) (by exact_mod_cast hg)]
  exact_mod_cast Iff.rfl

theorem lt_iff_fractionValue {f g : Nat × Nat} (hf : 0 < f.2) (hg : 0 < g.2) :
    f.1 * g.2 < g.1 * f.2 ↔ fractionValue f < fractionValue g := by
  rw [fractionValue, fractionValue, div_lt_div_iff₀ (by exact_mod_cast hf) (by exact_mod_cast hg)]
  exact_mod_cast Iff.rfl

theorem ten_zpow_le_two_zpow {p l : ℤ} (h : 10 * p ≤ 3 * l) (h' : 93 * p ≤ 28 * l) :
    (10 : ℚ) ^ p ≤ 2 ^ l := by
  have hten : (0 : ℚ) ≤ 10 ^ p := zpow_nonneg (by norm_num) _
  have htwo : (0 : ℚ) ≤ 2 ^ l := zpow_nonneg (by norm_num) _
  rcases le_total 0 l with hl | hl
  · -- `10 ^ 3` is less than `2 ^ 10`
    refine le_of_pow_le_pow_left₀ (n := 10) (by norm_num) htwo ?_
    calc ((10 : ℚ) ^ p) ^ 10 = 10 ^ (10 * p) := by rw [mul_comm, zpow_mul, ← zpow_natCast]; rfl
      _ ≤ 10 ^ (3 * l) := zpow_le_zpow_right₀ (by norm_num) h
      _ = (10 ^ (3 : ℤ)) ^ l := zpow_mul _ _ _
      _ ≤ (2 ^ (10 : ℤ)) ^ l := zpow_le_zpow_left₀ hl (by norm_num) (by norm_num)
      _ = (2 ^ l) ^ 10 := by rw [← zpow_mul, mul_comm, zpow_mul, ← zpow_natCast]; rfl
  · -- `2 ^ 93` is less than `10 ^ 28`
    refine le_of_pow_le_pow_left₀ (n := 93) (by norm_num) htwo ?_
    calc ((10 : ℚ) ^ p) ^ 93 = 10 ^ (93 * p) := by rw [mul_comm, zpow_mul, ← zpow_natCast]; rfl
      _ ≤ 10 ^ (28 * l) := zpow_le_zpow_right₀ (by norm_num) h'
      _ = (10 ^ (28 : ℤ)) ^ l := zpow_mul _ _ _
      _ ≤ (2 ^ (93 : ℤ)) ^ l := by
        obtain ⟨k, rfl⟩ : ∃ k : ℕ, l = -k := ⟨l.natAbs, by omega⟩
        rw [zpow_neg, zpow_neg, zpow_natCast, zpow_natCast]
        gcongr
        norm_num
      _ = (2 ^ l) ^ 93 := by rw [← zpow_mul, mul_comm, zpow_mul, ← zpow_natCast]; rfl

theorem two_zpow_le_ten_zpow {l p : ℤ} (h : 3 * l ≤ 10 * p) (h' : 28 * l ≤ 93 * p) :
    (2 : ℚ) ^ l ≤ 10 ^ p := by
  have hinv : (10 : ℚ) ^ (-p) ≤ 2 ^ (-l) := ten_zpow_le_two_zpow (by omega) (by omega)
  rw [zpow_neg, zpow_neg] at hinv
  exact (inv_le_inv₀ (zpow_pos (by norm_num) _) (zpow_pos (by norm_num) _)).mp hinv

namespace Binary

def value (b : Binary) : ℚ := b.m * 2 ^ b.q

/-- Halfway to the lower neighbour. -/
def low (b : Binary) : ℚ := (b.m - if b.narrow then 1 / 4 else 1 / 2) * 2 ^ b.q

/-- Halfway to the upper neighbour. -/
def high (b : Binary) : ℚ := (b.m + 1 / 2) * 2 ^ b.q

/-- A fraction belongs to the double: no other double is nearer to it. -/
def Holds (b : Binary) (v : ℚ) : Prop :=
  if b.m % 2 = 0 then b.low ≤ v ∧ v ≤ b.high else b.low < v ∧ v < b.high

/-- The form of a positive double; the lower neighbour of a power of two is half as far as usual. -/
structure WellFormed (b : Binary) : Prop where
  pos : 0 < b.m
  lt : b.m < 2 ^ 53
  least : -1074 ≤ b.q
  most : b.q ≤ 972
  full : -1074 < b.q → 2 ^ 52 ≤ b.m
  narrow_iff : b.narrow = true ↔ b.m = 2 ^ 52 ∧ -1074 < b.q

theorem ofBits_cases {bits : Nat} (hlt : bits < 2 ^ 63) :
    (bits < 2 ^ 52 ∧ ofBits bits = ⟨bits, -1074, false⟩) ∨
      ∃ exponent mantissa, bits = exponent * 2 ^ 52 + mantissa ∧ mantissa < 2 ^ 52 ∧
        0 < exponent ∧ exponent < 2048 ∧
        ofBits bits = ⟨mantissa + 2 ^ 52, exponent - 1075, mantissa == 0 && exponent > 1⟩ := by
  have hexponent : bits / 2 ^ 52 % 2 ^ 11 = bits / 2 ^ 52 := Nat.mod_eq_of_lt (by omega)
  simp only [ofBits, Nat.pow_eq, hexponent]
  rcases Nat.eq_zero_or_pos (bits / 2 ^ 52) with hzero | hpos
  · left
    have hsmall : bits < 2 ^ 52 := by omega
    rw [hzero, Nat.mod_eq_of_lt hsmall]
    exact ⟨hsmall, rfl⟩
  · right
    refine ⟨bits / 2 ^ 52, bits % 2 ^ 52, by omega, by omega, hpos, by omega, ?_⟩
    rw [if_neg (by simpa using Nat.ne_of_gt hpos)]
    rfl

theorem wellFormed_ofBits {bits : Nat} (hpos : 0 < bits) (hlt : bits < 2 ^ 63) :
    (ofBits bits).WellFormed := by
  rcases ofBits_cases hlt with
    ⟨hsmall, heq⟩ | ⟨exponent, mantissa, -, hmantissa, hexponent, hmost, heq⟩
  · have hlt : bits < 2 ^ 53 := by omega
    have hmost : (-1074 : Int) ≤ 972 := by decide
    rw [heq]
    exact ⟨hpos, hlt, le_rfl, hmost, fun h => absurd h (lt_irrefl _), by simp⟩
  · have hm : 0 < mantissa + 2 ^ 52 := by omega
    have hlt : mantissa + 2 ^ 52 < 2 ^ 53 := by omega
    have hleast : (-1074 : Int) ≤ exponent - 1075 := by omega
    have hmost : (exponent : Int) - 1075 ≤ 972 := by omega
    have hnarrow : (mantissa == 0 && decide (exponent > 1)) = true ↔
        mantissa + 2 ^ 52 = 2 ^ 52 ∧ (-1074 : Int) < exponent - 1075 := by
      rw [Bool.and_eq_true_iff, beq_iff_eq, decide_eq_true_iff]
      omega
    rw [heq]
    exact ⟨hm, hlt, hleast, hmost, fun _ => Nat.le_add_left _ _, hnarrow⟩

/-- A positive double is determined by its form. -/
theorem bits_ofBits {bits : Nat} (hlt : bits < 2 ^ 63) :
    ((ofBits bits).q + 1074).natAbs * 2 ^ 52 + (ofBits bits).m = bits := by
  rcases ofBits_cases hlt with ⟨-, heq⟩ | ⟨exponent, mantissa, hbits, -, hexponent, -, heq⟩
  · simp [heq]
  · obtain ⟨k, rfl⟩ : ∃ k, exponent = k + 1 := ⟨exponent - 1, by omega⟩
    have habs : (((k + 1 : ℕ) : Int) - 1075 + 1074).natAbs = k := by omega
    simp only [heq, habs]
    rw [hbits]
    ring

variable {b : Binary}

theorem low_lt_value : b.low < b.value := by
  have hpow : (0 : ℚ) < 2 ^ b.q := zpow_pos (by norm_num) _
  unfold low value
  split <;> nlinarith

theorem sub_half_le (b : Binary) :
    (b.m - 1 / 2) * 2 ^ b.q ≤ b.low := by
  have hpow : (0 : ℚ) < 2 ^ b.q := zpow_pos (by norm_num) _
  unfold Binary.low
  gcongr
  split <;> norm_num

theorem value_lt_high : b.value < b.high := by
  have hpow : (0 : ℚ) < 2 ^ b.q := zpow_pos (by norm_num) _
  unfold high value
  nlinarith

/-- What is not below the middle to the one neighbour, nor above that to the other, belongs to the
double. -/
theorem holds_of_lt {v : ℚ} (hlow : b.low < v) (hhigh : v < b.high) : b.Holds v := by
  unfold Holds
  split
  · exact ⟨hlow.le, hhigh.le⟩
  · exact ⟨hlow, hhigh⟩

theorem Holds.low_le {v : ℚ} (h : b.Holds v) : b.low ≤ v := by
  unfold Holds at h
  split at h
  · exact h.1
  · exact h.1.le

theorem Holds.le_high {v : ℚ} (h : b.Holds v) : v ≤ b.high := by
  unfold Holds at h
  split at h
  · exact h.2
  · exact h.2.le

end Binary

end Shortest

end MarkupCompiler
