import CodeLint.Number.Nearest
import Mathlib.Algebra.Order.Field.Power
import Mathlib.Tactic.FieldSimp
import Mathlib.Tactic.Linarith
import Mathlib.Tactic.NormNum
import Mathlib.Tactic.Positivity
import Mathlib.Tactic.Ring

/-!
Rounding to floating-point numbers, measured in rational numbers. A proper number uses all bits of
its mantissa unless it is among the smallest. It attracts the rational numbers that are nearer to it
than to its neighbours, and with an even mantissa also those half way. Rounding gives proper numbers,
and it takes every rational number that a number attracts to that number.
-/

namespace CodeLint.Number

def Ratio.value (r : Ratio) : ℚ := r.num / r.den

structure Binary.Proper (b : Binary) : Prop where
  mantissa : b.mantissa < Nat.pow 2 precision
  least : minExponent ≤ b.exponent
  greatest : b.exponent ≤ maxExponent
  full : minExponent < b.exponent → Nat.pow 2 (precision - 1) ≤ b.mantissa

/-- The gap down to the next number, halved, in units of two to the exponent. It is smaller where
the neighbour below has a smaller exponent. -/
def Binary.lowerGap (b : Binary) : ℚ :=
  if b.mantissa = Nat.pow 2 (precision - 1) ∧ minExponent < b.exponent then 1 / 4 else 1 / 2

structure Binary.Attracts (b : Binary) (v : ℚ) : Prop where
  low : (b.mantissa - b.lowerGap) * 2 ^ b.exponent ≤ v
  high : v ≤ (b.mantissa + 1 / 2) * 2 ^ b.exponent
  strict : b.mantissa % 2 = 1 →
    (b.mantissa - b.lowerGap) * 2 ^ b.exponent < v ∧ v < (b.mantissa + 1 / 2) * 2 ^ b.exponent

/-! ### Rounding a quotient -/

variable {n d m : Nat}

theorem roundDiv_eq_of_near (hd : 0 < d) (hlow : 2 * m * d ≤ 2 * n + d)
    (hhigh : 2 * n ≤ (2 * m + 1) * d)
    (hstrict : m % 2 = 1 → 2 * m * d < 2 * n + d ∧ 2 * n < (2 * m + 1) * d) :
    roundDiv n d = m := by
  have hdiv := Nat.div_add_mod n d
  have hmod := Nat.mod_lt n hd
  rw [roundDiv]
  generalize n / d = q at hdiv ⊢
  generalize n % d = r at hdiv hmod ⊢
  subst hdiv
  have hupper : m < q + 2 := by
    by_contra hm
    have hmul : (q + 2) * d ≤ m * d := Nat.mul_le_mul_right d (Nat.le_of_not_lt hm)
    nlinarith
  have hlower : q < m + 1 := by
    by_contra hm
    have hmul : (m + 1) * d ≤ q * d := Nat.mul_le_mul_right d (Nat.le_of_not_lt hm)
    nlinarith
  -- Near means within half a unit, so `m` is the quotient or the number after it. At exactly half
  -- the even one of the two is taken, and `hstrict` keeps an odd `m` away from there.
  obtain rfl | rfl : m = q ∨ m = q + 1 := by omega
  · have hhalf : 2 * r ≤ d := by nlinarith
    have hodd : m % 2 = 1 → 2 * r < d := fun h => by nlinarith [(hstrict h).2]
    have hdown : ¬ (decide (2 * r > d) || (2 * r == d && m % 2 == 1)) = true := by
      simp only [Bool.or_eq_true, Bool.and_eq_true, decide_eq_true_eq, beq_iff_eq]
      omega
    rw [if_neg hdown]
  · have hhalf : d ≤ 2 * r := by nlinarith
    have heven : q % 2 = 0 → d < 2 * r := fun h => by nlinarith [(hstrict (by omega)).1]
    have hup : (decide (2 * r > d) || (2 * r == d && q % 2 == 1)) = true := by
      simp only [Bool.or_eq_true, Bool.and_eq_true, decide_eq_true_eq, beq_iff_eq]
      omega
    rw [if_pos hup]

/-! ### The exponent -/

variable {r : Ratio} {b : Binary} {e f : Int} {v : ℚ}

theorem two_zpow_pos (e : Int) : (0 : ℚ) < 2 ^ e := zpow_pos two_pos e

theorem cast_two_pow (k : Nat) : ((Nat.pow 2 k : Nat) : ℚ) = 2 ^ k := by
  rw [show Nat.pow 2 k = 2 ^ k from rfl]
  push_cast
  rfl

theorem scaled_den_pos (hd : 0 < r.den) (e : Int) : 0 < (r.scaled e).den := by
  unfold Ratio.scaled
  split
  · exact hd
  · exact Nat.mul_pos hd (Nat.pow_pos (n := e.toNat) two_pos)

theorem scaled_value (r : Ratio) (e : Int) : (r.scaled e).value = r.value / 2 ^ e := by
  unfold Ratio.scaled Ratio.value
  split
  · next he =>
    obtain ⟨k, rfl⟩ : ∃ k : Nat, e = -k := ⟨e.natAbs, by omega⟩
    simp only [Int.natAbs_neg, Int.natAbs_natCast, Nat.cast_mul, cast_two_pow, zpow_neg,
      zpow_natCast]
    field_simp
  · next he =>
    obtain ⟨k, rfl⟩ : ∃ k : Nat, e = k := ⟨e.toNat, by omega⟩
    simp only [Int.toNat_natCast, Nat.cast_mul, cast_two_pow, zpow_natCast]
    rw [div_div]

structure Scales (v : ℚ) (e : Int) : Prop where
  least : minExponent ≤ e
  below : v < 2 ^ precision * 2 ^ e
  full : minExponent < e → 2 ^ (precision - 1) * 2 ^ e ≤ v

theorem Scales.le (h : Scales v e) (h' : Scales v f) : f ≤ e := by
  by_contra hef
  have hfull := h'.full (lt_of_le_of_lt h.least (not_le.mp hef))
  have hstep : (2 : ℚ) ^ (e + 1) ≤ 2 ^ f := zpow_le_zpow_right₀ (by norm_num) (by omega)
  rw [zpow_add₀ two_ne_zero] at hstep
  have hbelow := h.below
  norm_num [precision] at hbelow hfull hstep
  linarith

theorem Scales.unique (h : Scales v e) (h' : Scales v f) : e = f :=
  le_antisymm (h'.le h) (h.le h')

theorem value_bounds (hn : 0 < r.num) (hd : 0 < r.den) :
    2 ^ ((Nat.log2 r.num : Int) - Nat.log2 r.den - 1) < r.value ∧
      r.value < 2 ^ ((Nat.log2 r.num : Int) - Nat.log2 r.den + 1) := by
  have hnum : (2 : ℚ) ^ Nat.log2 r.num ≤ r.num := by
    exact_mod_cast Nat.log2_self_le hn.ne'
  have hnum' : (r.num : ℚ) < 2 ^ (Nat.log2 r.num + 1) := by
    exact_mod_cast Nat.lt_log2_self
  have hden : (2 : ℚ) ^ Nat.log2 r.den ≤ r.den := by
    exact_mod_cast Nat.log2_self_le hd.ne'
  have hden' : (r.den : ℚ) < 2 ^ (Nat.log2 r.den + 1) := by
    exact_mod_cast Nat.lt_log2_self
  have hpos : (0 : ℚ) < r.den := by exact_mod_cast hd
  have hpow : ∀ k : Nat, (0 : ℚ) < 2 ^ k := fun k => pow_pos two_pos k
  rw [Ratio.value, lt_div_iff₀ hpos, div_lt_iff₀ hpos]
  constructor
  · calc (2 : ℚ) ^ ((Nat.log2 r.num : Int) - Nat.log2 r.den - 1) * r.den
        < 2 ^ ((Nat.log2 r.num : Int) - Nat.log2 r.den - 1) * 2 ^ (Nat.log2 r.den + 1) :=
          mul_lt_mul_of_pos_left hden' (two_zpow_pos _)
      _ = 2 ^ Nat.log2 r.num := by
          rw [← zpow_natCast, ← zpow_natCast, ← zpow_add₀ two_ne_zero]
          congr 1
          push_cast
          ring
      _ ≤ r.num := hnum
  · calc (r.num : ℚ) < 2 ^ (Nat.log2 r.num + 1) := hnum'
      _ = 2 ^ ((Nat.log2 r.num : Int) - Nat.log2 r.den + 1) * 2 ^ Nat.log2 r.den := by
          rw [← zpow_natCast, ← zpow_natCast, ← zpow_add₀ two_ne_zero]
          congr 1
          push_cast
          ring
      _ ≤ 2 ^ ((Nat.log2 r.num : Int) - Nat.log2 r.den + 1) * r.den :=
          mul_le_mul_of_nonneg_left hden (two_zpow_pos _).le

theorem lt_mul_den_iff (hd : 0 < r.den) (k : Nat) :
    r.num < r.den * Nat.pow 2 k ↔ r.value < 2 ^ k := by
  have hpos : (0 : ℚ) < r.den := by exact_mod_cast hd
  rw [Ratio.value, div_lt_iff₀ hpos, ← cast_two_pow, mul_comm]
  norm_cast

theorem exponentFor_scales (hn : 0 < r.num) (hd : 0 < r.den) :
    Scales r.value (exponentFor r) := by
  have hbounds := value_bounds hn hd
  simp only [exponentFor, lt_mul_den_iff (scaled_den_pos hd _), scaled_value]
  generalize hguess : (Nat.log2 r.num : Int) - Nat.log2 r.den - (precision - 1 : Nat) = g
  rw [show (Nat.log2 r.num : Int) - Nat.log2 r.den - 1 = 51 + g by
      simp only [precision] at hguess; omega,
    show (Nat.log2 r.num : Int) - Nat.log2 r.den + 1 = 53 + g by
      simp only [precision] at hguess; omega,
    zpow_add₀ two_ne_zero, zpow_add₀ two_ne_zero] at hbounds
  -- the guess is right or one too large
  have hexact : ∀ x : Int, (x = if r.value / 2 ^ g < 2 ^ (precision - 1) then g - 1 else g) →
      r.value < 2 ^ precision * 2 ^ x ∧ 2 ^ (precision - 1) * 2 ^ x ≤ r.value := by
    rintro x rfl
    have hpos := two_zpow_pos g
    split
    · next hsmall =>
      rw [div_lt_iff₀ hpos] at hsmall
      rw [zpow_sub_one₀ two_ne_zero]
      norm_num [precision] at hbounds hsmall ⊢
      constructor <;> linarith
    · next hlarge =>
      rw [not_lt, le_div_iff₀ hpos] at hlarge
      norm_num [precision] at hbounds hlarge ⊢
      constructor <;> linarith
  obtain ⟨hbelow, hfull⟩ := hexact _ rfl
  generalize (if r.value / 2 ^ g < 2 ^ (precision - 1) then g - 1 else g) = x at hbelow hfull ⊢
  by_cases hx : minExponent ≤ x
  · rw [max_eq_left hx]
    exact ⟨hx, hbelow, fun _ => hfull⟩
  · rw [max_eq_right (le_of_not_ge hx)]
    refine ⟨le_refl _, hbelow.trans_le ?_, fun h => absurd h (lt_irrefl _)⟩
    exact mul_le_mul_of_nonneg_left (zpow_le_zpow_right₀ (by norm_num) (by omega)) (by positivity)

/-! ### The nearest number -/

theorem nearest?_pos (hn : 0 < r.num) :
    nearest? r =
      let s := r.scaled (exponentFor r)
      let b := Binary.settle ⟨roundDiv s.num s.den, exponentFor r⟩
      if b.exponent > maxExponent then none else some b := by
  rw [nearest?, if_neg hn.ne']

theorem roundDiv_of_near_value {s : Ratio} (hd : 0 < s.den) (hlow : m - 1 / 2 ≤ s.value)
    (hhigh : s.value ≤ m + 1 / 2)
    (hstrict : m % 2 = 1 → m - 1 / 2 < s.value ∧ s.value < m + 1 / 2) :
    roundDiv s.num s.den = m := by
  have hpos : (0 : ℚ) < s.den := by exact_mod_cast hd
  simp only [Ratio.value, le_div_iff₀ hpos, div_le_iff₀ hpos, lt_div_iff₀ hpos,
    div_lt_iff₀ hpos] at hlow hhigh hstrict
  refine roundDiv_eq_of_near hd ?_ ?_ fun hodd => ⟨?_, ?_⟩
  · have hq : (2 * m * s.den : ℚ) ≤ 2 * s.num + s.den := by linarith
    exact_mod_cast hq
  · have hq : (2 * s.num : ℚ) ≤ (2 * m + 1) * s.den := by linarith
    exact_mod_cast hq
  · have hq : (2 * m * s.den : ℚ) < 2 * s.num + s.den := by linarith [(hstrict hodd).1]
    exact_mod_cast hq
  · have hq : (2 * s.num : ℚ) < (2 * m + 1) * s.den := by linarith [(hstrict hodd).2]
    exact_mod_cast hq

theorem lowerGap_le (b : Binary) : b.lowerGap ≤ 1 / 2 := by
  unfold Binary.lowerGap
  split <;> norm_num

/-- A rational number that a number attracts, and that is no smaller than all numbers of the same
exponent, has that number as its mantissa. -/
theorem roundDiv_scaled_of_attracts (hd : 0 < r.den) (h : b.Attracts r.value) :
    roundDiv (r.scaled b.exponent).num (r.scaled b.exponent).den = b.mantissa := by
  have hpos := two_zpow_pos b.exponent
  have hgap := lowerGap_le b
  refine roundDiv_of_near_value (scaled_den_pos hd _) ?_ ?_ fun hodd => ?_ <;> rw [scaled_value]
  · rw [le_div_iff₀ hpos]
    exact le_trans (mul_le_mul_of_nonneg_right (by linarith) hpos.le) h.low
  · rw [div_le_iff₀ hpos]
    exact h.high
  · rw [lt_div_iff₀ hpos, div_lt_iff₀ hpos]
    have hlow := (h.strict hodd).1
    exact ⟨lt_of_le_of_lt (mul_le_mul_of_nonneg_right (by linarith) hpos.le) hlow,
      (h.strict hodd).2⟩

/-- Just below a number whose mantissa has one bit, the exponent is one less and the mantissa is
rounded up to one bit more. -/
theorem roundDiv_scaled_below (hd : 0 < r.den) (hm : b.mantissa = Nat.pow 2 (precision - 1))
    (he : minExponent < b.exponent) (h : b.Attracts r.value)
    (hbelow : r.value < 2 ^ (precision - 1) * 2 ^ b.exponent) :
    roundDiv (r.scaled (b.exponent - 1)).num (r.scaled (b.exponent - 1)).den =
      Nat.pow 2 precision := by
  have hpos := two_zpow_pos b.exponent
  have hlow := h.low
  rw [Binary.lowerGap, if_pos ⟨hm, he⟩, hm, cast_two_pow] at hlow
  have hscale : (r.scaled (b.exponent - 1)).value = 2 * r.value / 2 ^ b.exponent := by
    rw [scaled_value, zpow_sub_one₀ two_ne_zero]
    field_simp
  norm_num [precision] at hlow hbelow
  refine roundDiv_of_near_value (scaled_den_pos hd _) ?_ ?_ fun hodd => ?_
  · rw [hscale, le_div_iff₀ hpos, cast_two_pow]
    norm_num [precision]
    linarith
  · rw [hscale, div_le_iff₀ hpos, cast_two_pow]
    norm_num [precision]
    linarith
  · exact absurd hodd (by decide)

theorem nearest?_of_attracts (hb : b.Proper) (hm : 0 < b.mantissa) (hd : 0 < r.den)
    (h : b.Attracts r.value) : nearest? r = some b := by
  have hpos := two_zpow_pos b.exponent
  have hmantissa : (1 : ℚ) ≤ b.mantissa := by exact_mod_cast hm
  have hsucc : (b.mantissa + 1 : ℚ) ≤ 2 ^ precision := by
    rw [← cast_two_pow]
    exact_mod_cast hb.mantissa
  have hhalf : (b.mantissa - 1 / 2) * 2 ^ b.exponent ≤ r.value :=
    le_trans (mul_le_mul_of_nonneg_right (by linarith [lowerGap_le b]) hpos.le) h.low
  have hn : 0 < r.num := by
    refine Nat.pos_of_ne_zero fun hzero => ?_
    have hvalue : 0 < r.value := lt_of_lt_of_le (mul_pos (by linarith) hpos) hhalf
    rw [Ratio.value, hzero, Nat.cast_zero, zero_div] at hvalue
    exact lt_irrefl _ hvalue
  have hbelow : r.value < 2 ^ precision * 2 ^ b.exponent :=
    lt_of_le_of_lt h.high (mul_lt_mul_of_pos_right (by linarith) hpos)
  have hscales := exponentFor_scales hn hd
  rw [nearest?_pos hn]
  by_cases hfull : minExponent < b.exponent → 2 ^ (precision - 1) * 2 ^ b.exponent ≤ r.value
  · have hexponent : exponentFor r = b.exponent := hscales.unique ⟨hb.least, hbelow, hfull⟩
    simp only [hexponent, roundDiv_scaled_of_attracts hd h, Binary.settle, hb.mantissa.ne, if_false,
      not_lt.mpr hb.greatest]
  · -- the neighbour below has a smaller exponent, so only the least mantissa reaches down here
    obtain ⟨he, hless⟩ := Classical.not_imp.mp hfull
    rw [not_le] at hless
    have hleast : b.mantissa = Nat.pow 2 (precision - 1) := by
      refine le_antisymm ?_ (hb.full he)
      have hlt := lt_of_mul_lt_mul_right (lt_of_le_of_lt hhalf hless) hpos.le
      have hq : (b.mantissa : ℚ) < Nat.pow 2 (precision - 1) + 1 := by
        rw [cast_two_pow]
        linarith
      exact Nat.lt_succ_iff.mp (by exact_mod_cast hq)
    have hexponent : exponentFor r = b.exponent - 1 := by
      refine hscales.unique ⟨by omega, ?_, fun _ => ?_⟩
      · rw [zpow_sub_one₀ two_ne_zero]
        norm_num [precision] at hless ⊢
        linarith
      · rw [hleast, cast_two_pow] at hhalf
        rw [zpow_sub_one₀ two_ne_zero]
        norm_num [precision] at hhalf ⊢
        linarith
    simp only [hexponent, roundDiv_scaled_below hd hleast he h hless, Binary.settle, if_true,
      sub_add_cancel, not_lt.mpr hb.greatest, if_false]
    rw [← hleast]

end CodeLint.Number
