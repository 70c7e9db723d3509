import CodeLint.Number.Shortest
import CodeLint.Proofs.Rounding

/-!
The shortest decimal of a number rounds to that number. The search over finer and finer grids of
decimals takes only what the number attracts, and the last grid it tries is so fine that one of the
two decimals around the number is attracted.
-/

namespace CodeLint.Number

def Decimal.value (d : Decimal) : ℚ := d.digits * 10 ^ d.power

variable {b : Binary} {n : Nat} {p : Int}

theorem ten_zpow_pos (p : Int) : (0 : ℚ) < 10 ^ p := zpow_pos (by norm_num) p

theorem cast_ten_pow (k : Nat) : ((Nat.pow 10 k : Nat) : ℚ) = 10 ^ k := by
  rw [show Nat.pow 10 k = 10 ^ k from rfl]
  push_cast
  rfl

/-! ### The interval in rational numbers -/

theorem interval_den_pos (b : Binary) : (0 : ℚ) < b.interval.den := by
  simp only [Binary.interval]
  split
  · rw [Nat.cast_mul, cast_two_pow]
    positivity
  · norm_num

theorem quarters_value (b : Binary) (k : Nat) :
    ((k * (if b.exponent < 0 then 1 else Nat.pow 2 b.exponent.toNat) : Nat) : ℚ) =
      k / 4 * 2 ^ b.exponent * b.interval.den := by
  simp only [Binary.interval]
  split
  · next he =>
    obtain ⟨j, hj⟩ : ∃ j : Nat, b.exponent = -j := ⟨b.exponent.natAbs, by omega⟩
    simp only [hj, Int.natAbs_neg, Int.natAbs_natCast, Nat.mul_one, Nat.cast_mul, cast_two_pow,
      zpow_neg, zpow_natCast]
    push_cast
    field_simp
  · next he =>
    obtain ⟨j, hj⟩ : ∃ j : Nat, b.exponent = j := ⟨b.exponent.toNat, by omega⟩
    simp only [hj, Int.toNat_natCast, Nat.cast_mul, cast_two_pow, zpow_natCast]
    push_cast
    ring

theorem interval_mid (b : Binary) :
    (b.interval.mid : ℚ) = b.mantissa * 2 ^ b.exponent * b.interval.den := by
  have hquarters := quarters_value b (4 * b.mantissa)
  push_cast at hquarters
  rw [mul_div_cancel_left₀ _ four_ne_zero] at hquarters
  exact_mod_cast hquarters

theorem interval_high (b : Binary) :
    (b.interval.high : ℚ) = (b.mantissa + 1 / 2) * 2 ^ b.exponent * b.interval.den := by
  have hquarters := quarters_value b (4 * b.mantissa + 2)
  rw [show b.interval.high = (4 * b.mantissa + 2) *
    (if b.exponent < 0 then 1 else Nat.pow 2 b.exponent.toNat) from rfl, hquarters]
  push_cast
  ring

theorem interval_low (hm : 0 < b.mantissa) :
    (b.interval.low : ℚ) = (b.mantissa - b.lowerGap) * 2 ^ b.exponent * b.interval.den := by
  have hlow : b.interval.low = (4 * b.mantissa -
      if b.mantissa = Nat.pow 2 (precision - 1) ∧ b.exponent > minExponent then 1 else 2) *
        (if b.exponent < 0 then 1 else Nat.pow 2 b.exponent.toNat) := rfl
  rw [hlow, quarters_value, Binary.lowerGap]
  split
  · rw [Nat.cast_sub (by omega)]
    push_cast
    ring
  · rw [Nat.cast_sub (by omega)]
    push_cast
    ring

theorem scaled_le_iff {u d X Y : ℚ} (hu : 0 < u) (hd : 0 < d) {x y : Nat} (hx : x * u = X * d)
    (hy : y * u = Y * d) : x ≤ y ↔ X ≤ Y := by
  rw [← Nat.cast_le (α := ℚ), ← mul_le_mul_iff_left₀ hu, hx, hy, mul_le_mul_iff_left₀ hd]

theorem scaled_lt_iff {u d X Y : ℚ} (hu : 0 < u) (hd : 0 < d) {x y : Nat} (hx : x * u = X * d)
    (hy : y * u = Y * d) : x < y ↔ X < Y := by
  rw [← not_le, ← not_le, scaled_le_iff hu hd hy hx]

theorem attracts_iff {u : ℚ} (hu : 0 < u) {v low high : Nat} {x : ℚ}
    (hv : v * u = x * b.interval.den)
    (hlow : low * u = (b.mantissa - b.lowerGap) * 2 ^ b.exponent * b.interval.den)
    (hhigh : high * u = (b.mantissa + 1 / 2) * 2 ^ b.exponent * b.interval.den) :
    (if b.interval.closed then low ≤ v && v ≤ high else low < v && v < high) = true ↔
      b.Attracts x := by
  have hden := interval_den_pos b
  have hclosed : b.interval.closed = decide (b.mantissa % 2 = 0) := rfl
  by_cases heven : b.mantissa % 2 = 0
  · simp only [hclosed, heven, decide_true, if_true, Bool.and_eq_true, decide_eq_true_eq,
      scaled_le_iff hu hden hlow hv, scaled_le_iff hu hden hv hhigh]
    exact ⟨fun h => ⟨h.1, h.2, fun hodd => by omega⟩, fun h => ⟨h.low, h.high⟩⟩
  · simp only [hclosed, heven, decide_false, if_false, Bool.and_eq_true, decide_eq_true_eq,
      scaled_lt_iff hu hden hlow hv, scaled_lt_iff hu hden hv hhigh, Bool.false_eq_true]
    exact ⟨fun h => ⟨h.1.le, h.2.le, fun _ => h⟩, fun h => h.strict (by omega)⟩

theorem holds_iff (hm : 0 < b.mantissa) :
    b.interval.holds n p = true ↔ b.Attracts (Decimal.value ⟨n, p⟩) := by
  by_cases hp : p < 0
  · obtain ⟨k, rfl⟩ : ∃ k : Nat, p = -k := ⟨p.natAbs, by omega⟩
    simp only [Interval.holds, hp, if_true, Int.natAbs_neg, Int.natAbs_natCast]
    refine attracts_iff (ten_zpow_pos (-k)) ?_ ?_ ?_
    · rw [Decimal.value]
      push_cast
      ring
    · rw [← interval_low hm, Nat.cast_mul, cast_ten_pow, mul_assoc, ← zpow_natCast,
        ← zpow_add₀ (by norm_num), add_neg_cancel, zpow_zero, mul_one]
    · rw [← interval_high, Nat.cast_mul, cast_ten_pow, mul_assoc, ← zpow_natCast,
        ← zpow_add₀ (by norm_num), add_neg_cancel, zpow_zero, mul_one]
  · obtain ⟨k, rfl⟩ : ∃ k : Nat, p = k := ⟨p.toNat, by omega⟩
    simp only [Interval.holds, hp, if_false, Int.toNat_natCast]
    refine attracts_iff one_pos ?_ ?_ ?_
    · rw [Decimal.value, zpow_natCast, mul_one, Nat.cast_mul, Nat.cast_mul, cast_ten_pow]
    · rw [mul_one, interval_low hm]
    · rw [mul_one, interval_high]

/-! ### The grids -/

theorem below_bounds (b : Binary) (p : Int) :
    Decimal.value ⟨(b.interval.below p).1, p⟩ ≤ b.mantissa * 2 ^ b.exponent ∧
      b.mantissa * 2 ^ b.exponent < Decimal.value ⟨(b.interval.below p).1 + 1, p⟩ := by
  have hden := interval_den_pos b
  have hmid := interval_mid b
  have hbounds : ∀ x y : Nat, 0 < y →
      ((x / y : Nat) : ℚ) ≤ x / y ∧ (x / y : ℚ) < (x / y : Nat) + 1 := by
    intro x y hy
    have hyq : (0 : ℚ) < y := by exact_mod_cast hy
    rw [le_div_iff₀ hyq, div_lt_iff₀ hyq]
    constructor
    · exact_mod_cast Nat.div_mul_le_self x y
    · have hlt := Nat.lt_mul_div_succ x hy
      rw [Nat.mul_comm] at hlt
      exact_mod_cast hlt
  by_cases hp : p < 0
  · obtain ⟨k, rfl⟩ : ∃ k : Nat, p = -k := ⟨p.natAbs, by omega⟩
    simp only [Interval.below, hp, if_true, Int.natAbs_neg, Int.natAbs_natCast, Decimal.value]
    have hquotient := hbounds (b.interval.mid * Nat.pow 10 k) b.interval.den (by exact_mod_cast hden)
    rw [Nat.cast_mul, cast_ten_pow, hmid] at hquotient
    rw [zpow_neg, zpow_natCast, ← div_eq_mul_inv, ← div_eq_mul_inv, div_le_iff₀ (by positivity),
      lt_div_iff₀ (by positivity)]
    have hcancel : b.mantissa * 2 ^ b.exponent * b.interval.den * 10 ^ k / b.interval.den =
        b.mantissa * 2 ^ b.exponent * (10 : ℚ) ^ k := by
      field_simp
    rw [hcancel] at hquotient
    push_cast at hquotient ⊢
    exact hquotient
  · obtain ⟨k, rfl⟩ : ∃ k : Nat, p = k := ⟨p.toNat, by omega⟩
    simp only [Interval.below, hp, if_false, Int.toNat_natCast, Decimal.value]
    have hpos : 0 < b.interval.den * Nat.pow 10 k :=
      Nat.mul_pos (by exact_mod_cast hden) (Nat.pow_pos (n := k) (by decide : 0 < 10))
    have hquotient := hbounds b.interval.mid (b.interval.den * Nat.pow 10 k) hpos
    have hcancel : (b.interval.mid : ℚ) / (b.interval.den * Nat.pow 10 k : Nat) =
        b.mantissa * 2 ^ b.exponent / 10 ^ k := by
      rw [hmid, Nat.cast_mul, cast_ten_pow]
      field_simp
    rw [hcancel, le_div_iff₀ (by positivity), div_lt_iff₀ (by positivity)] at hquotient
    rw [zpow_natCast]
    push_cast
    exact hquotient

theorem Binary.Attracts.of_strict {v : ℚ} (hlow : (b.mantissa - b.lowerGap) * 2 ^ b.exponent < v)
    (hhigh : v < (b.mantissa + 1 / 2) * 2 ^ b.exponent) : b.Attracts v :=
  ⟨hlow.le, hhigh.le, fun _ => ⟨hlow, hhigh⟩⟩

/-- On a grid of so many digits one of the two neighbours is attracted. Where the gap below is the
smaller one, it is the upper neighbour. -/
theorem attracts_neighbour (hb : b.Proper)
    (hp : (10 : ℚ) ^ p * 10 ^ 16 ≤ b.mantissa * 2 ^ b.exponent) :
    b.Attracts (Decimal.value ⟨(b.interval.below p).1, p⟩) ∨
      b.Attracts (Decimal.value ⟨(b.interval.below p).1 + 1, p⟩) := by
  have hpos := two_zpow_pos b.exponent
  have hbounds := below_bounds b p
  have hstep : Decimal.value ⟨(b.interval.below p).1 + 1, p⟩ =
      Decimal.value ⟨(b.interval.below p).1, p⟩ + 10 ^ p := by
    simp only [Decimal.value]
    push_cast
    ring
  rw [hstep] at hbounds ⊢
  generalize Decimal.value ⟨(b.interval.below p).1, p⟩ = a at hbounds ⊢
  -- The interval is narrower below the least mantissa of an exponent. There the grid is so fine that
  -- the decimal above always lies inside; elsewhere the nearer one of the two does.
  by_cases hnarrow : b.mantissa = Nat.pow 2 (precision - 1) ∧ minExponent < b.exponent
  · right
    rw [hnarrow.1, cast_two_pow] at hp hbounds
    norm_num [precision] at hp hbounds
    refine .of_strict ?_ ?_ <;> rw [hnarrow.1, cast_two_pow]
    · rw [Binary.lowerGap, if_pos hnarrow]
      norm_num [precision]
      linarith
    · norm_num [precision]
      linarith
  · have hgap : b.lowerGap = 1 / 2 := if_neg hnarrow
    have hsucc : (b.mantissa : ℚ) ≤ 2 ^ precision := by
      rw [← cast_two_pow]
      exact_mod_cast hb.mantissa.le
    have hsmall : (10 : ℚ) ^ p * 10 ^ 16 ≤ 2 ^ precision * 2 ^ b.exponent :=
      hp.trans (mul_le_mul_of_nonneg_right hsucc hpos.le)
    norm_num [precision] at hsmall
    by_cases hnear : 2 * (b.mantissa * 2 ^ b.exponent - a) ≤ 10 ^ p
    · left
      refine .of_strict ?_ ?_
      · rw [hgap]
        linarith
      · linarith [hbounds.1]
    · right
      rw [not_le] at hnear
      refine .of_strict ?_ ?_
      · rw [hgap]
        linarith [hbounds.2]
      · linarith

theorem onGrid_holds {i : Interval} {d : Decimal} (h : i.onGrid p = some d) :
    i.holds d.digits d.power = true := by
  simp only [Interval.onGrid] at h
  split at h
  · next hboth =>
    rw [Bool.and_eq_true] at hboth
    cases h
    simp only
    split
    · exact hboth.2
    · exact hboth.1
  · split at h
    · next hlower =>
      cases h
      exact hlower
    · split at h
      · next hupper =>
        cases h
        exact hupper
      · cases h

theorem onGrid_of_holds {i : Interval} (h : i.holds (i.below p).1 p = true ∨
    i.holds ((i.below p).1 + 1) p = true) : ∃ d, i.onGrid p = some d := by
  simp only [Interval.onGrid]
  cases hlower : i.holds (i.below p).1 p <;> cases hupper : i.holds ((i.below p).1 + 1) p <;>
    simp_all

theorem search_holds {i : Interval} {k j : Nat} {d : Decimal} (hj : j < k)
    (h : i.onGrid (p - j) = some d) :
    i.holds (i.search k p).digits (i.search k p).power = true := by
  induction k generalizing p j with
  | zero => omega
  | succ k ih =>
    rw [Interval.search]
    cases hgrid : i.onGrid p with
    | some d' => exact onGrid_holds hgrid
    | none =>
      cases j with
      | zero =>
        rw [Nat.cast_zero, sub_zero, hgrid] at h
        cases h
      | succ j =>
        refine ih (p := p - 1) (j := j) (by omega) ?_
        rw [← h]
        congr 1
        push_cast
        ring

/-! ### The leading power -/

theorem lt_pow_digitCount (n : Nat) : n < 10 ^ digitCount n :=
  (Nat.length_toDigits_le_iff (by decide) Nat.length_toDigits_pos).mp (le_refl _)

theorem pow_digitCount_le (hn : 0 < n) : 10 ^ (digitCount n - 1) ≤ n := by
  have hpos : 0 < digitCount n := Nat.length_toDigits_pos
  by_contra hlt
  rw [Nat.not_le] at hlt
  by_cases hone : digitCount n = 1
  · rw [hone] at hlt
    omega
  · have hle := (Nat.length_toDigits_le_iff (by decide) (by omega)).mpr hlt
    rw [digitCount] at hpos hone hle
    omega

theorem inv_pow_mul_le {num den k : Nat} (h : den ≤ num * Nat.pow 10 k) :
    (10 : ℚ) ^ (-(k : Int)) * den ≤ num := by
  have hq : (den : ℚ) ≤ num * 10 ^ k := by
    rw [← cast_ten_pow]
    exact_mod_cast h
  rw [zpow_neg, zpow_natCast, inv_mul_le_iff₀ (by positivity), mul_comm]
  exact hq

theorem leadingPower_le {num den : Nat} (hn : 0 < num) (hd : 0 < den) :
    (10 : ℚ) ^ leadingPower num den * den ≤ num := by
  unfold leadingPower
  split
  · next hge =>
    have hpos : 0 < num / den := Nat.div_pos hge hd
    have hcount : 0 < digitCount (num / den) := Nat.length_toDigits_pos
    have hle : 10 ^ (digitCount (num / den) - 1) * den ≤ num :=
      (Nat.mul_le_mul_right den (pow_digitCount_le hpos)).trans (Nat.div_mul_le_self num den)
    rw [show ((digitCount (num / den) : Int) - 1) = ((digitCount (num / den) - 1 : Nat) : Int) by
      omega, zpow_natCast]
    exact_mod_cast hle
  · simp only
    split
    · next hge => exact inv_pow_mul_le hge
    · rw [show -((digitCount den - digitCount num : Nat) : Int) - 1 =
        -((digitCount den - digitCount num + 1 : Nat) : Int) by push_cast; ring]
      refine inv_pow_mul_le ?_
      have hcount : 0 < digitCount num := Nat.length_toDigits_pos
      calc den ≤ 10 ^ digitCount den := (lt_pow_digitCount den).le
        _ ≤ 10 ^ (digitCount num - 1 + (digitCount den - digitCount num + 1)) :=
            Nat.pow_le_pow_right (by decide) (by omega)
        _ = 10 ^ (digitCount num - 1) * 10 ^ (digitCount den - digitCount num + 1) :=
            Nat.pow_add _ _ _
        _ ≤ num * 10 ^ (digitCount den - digitCount num + 1) :=
            Nat.mul_le_mul_right _ (pow_digitCount_le hn)

/-! ### The shortest decimal -/

theorem stripZeros_value (k : Nat) (d : Decimal) : (stripZeros k d).value = d.value := by
  induction k generalizing d with
  | zero => rfl
  | succ k ih =>
    rw [stripZeros]
    split
    · next hzero =>
      rw [ih]
      simp only [Bool.and_eq_true, decide_eq_true_eq, beq_iff_eq] at hzero
      have hdigits : d.digits = d.digits / 10 * 10 := by omega
      have hq : (d.digits : ℚ) = (d.digits / 10 : Nat) * 10 := by exact_mod_cast hdigits
      rw [Decimal.value, Decimal.value, hq, zpow_add_one₀ (by norm_num)]
      ring
    · rfl

theorem shortest_attracted (hb : b.Proper) (hm : 0 < b.mantissa) :
    b.Attracts (shortest b).value := by
  have hden := interval_den_pos b
  have hpos := two_zpow_pos b.exponent
  have hmid : 0 < b.interval.mid := by
    have hq : (0 : ℚ) < b.interval.mid := by
      rw [interval_mid]
      have hmq : (0 : ℚ) < b.mantissa := by exact_mod_cast hm
      positivity
    exact_mod_cast hq
  have hlead := leadingPower_le hmid (by exact_mod_cast hden)
  rw [interval_mid, mul_le_mul_iff_left₀ hden] at hlead
  generalize hL : leadingPower b.interval.mid b.interval.den = L at hlead
  -- Seventeen digits are always enough, so the last grid that is searched has a decimal.
  have hgrid : (10 : ℚ) ^ (L - (16 : Nat)) * 10 ^ 16 ≤ b.mantissa * 2 ^ b.exponent := by
    rw [zpow_sub₀ (by norm_num), zpow_natCast, div_mul_cancel₀ _ (by positivity)]
    exact hlead
  obtain ⟨d, hd⟩ : ∃ d, b.interval.onGrid (L - (16 : Nat)) = some d := by
    refine onGrid_of_holds ?_
    rw [holds_iff hm, holds_iff hm]
    exact attracts_neighbour hb hgrid
  have hholds := search_holds (k := 17) (by decide) hd
  rw [shortest, hL, stripZeros_value]
  generalize b.interval.search 17 L = found at hholds ⊢
  exact (holds_iff hm).mp hholds

end CodeLint.Number
