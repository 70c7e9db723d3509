import CodeLint.Json.Printer
import CodeLint.Json.Reader
import CodeLint.Proofs.ShortestDecimal

/-!
The texts of numbers read back as the same numbers. A text of a real has digits in front of a point
and behind it, and perhaps an exponent; what it is worth depends on all its digits and on how far the
point is moved. The text of a floating-point number is worth its shortest decimal, which rounds to
the number.
-/

namespace CodeLint.Number

open CodeLint.Source

/-! ### Digits -/

variable {ds es : List Char} {n : Nat}

theorem foldl_decimal (ds : List Char) (n : Nat) :
    ds.foldl (fun n c => 10 * n + (c.toNat - 48)) n = n * 10 ^ ds.length + decimalNumber ds := by
  induction ds generalizing n with
  | nil => simp [decimalNumber]
  | cons c ds ih =>
    rw [decimalNumber, List.foldl_cons, List.foldl_cons, ih, ih (10 * 0 + _), List.length_cons,
      Nat.pow_succ]
    ring

theorem decimalNumber_append (ds es : List Char) :
    decimalNumber (ds ++ es) = decimalNumber ds * 10 ^ es.length + decimalNumber es := by
  rw [decimalNumber, List.foldl_append, foldl_decimal]
  rfl

theorem decimalNumber_zeros (k : Nat) : decimalNumber (List.replicate k '0') = 0 := by
  induction k with
  | zero => rfl
  | succ k ih =>
    rw [List.replicate_succ, ← List.singleton_append, decimalNumber_append, ih]
    exact Nat.zero_mul _

theorem decimalNumber_toDigits (n : Nat) : decimalNumber (Nat.toDigits 10 n) = n :=
  Nat.ofDigitChars_ten_toDigits

theorem isDigit_toDigits (n : Nat) : ∀ c ∈ Nat.toDigits 10 n, c.isDigit = true :=
  fun _ hc => Nat.isDigit_of_mem_toDigits (by decide) (by decide) hc

theorem isDigit_zeros (k : Nat) : ∀ c ∈ List.replicate k '0', c.isDigit = true :=
  fun c hc => by rw [List.eq_of_mem_replicate hc]; decide

theorem head_toDigits (hn : 0 < n) : (Nat.toDigits 10 n).head? ≠ some '0' := by
  induction n using Nat.strong_induction_on with
  | h n ih =>
    by_cases hlt : n < 10
    · rw [Nat.toDigits_of_lt_base hlt]
      have hdigit : ∀ k : Fin 10, 0 < k.val → [Nat.digitChar k].head? ≠ some '0' := by decide
      exact hdigit ⟨n, hlt⟩ hn
    · rw [Nat.toDigits_of_base_le (by decide) (Nat.le_of_not_lt hlt), List.head?_append]
      have hhigh := ih (n / 10) (by omega) (by omega)
      cases hhead : (Nat.toDigits 10 (n / 10)).head? with
      | none =>
        rw [List.head?_eq_none_iff] at hhead
        exact absurd hhead Nat.toDigits_ne_nil
      | some c =>
        rw [hhead] at hhigh
        exact hhigh

def EndsNumber (cs : List Char) : Prop :=
  ∀ c ∈ cs.head?, c.isDigit = false ∧ c ≠ '.' ∧ c ≠ 'e' ∧ c ≠ 'E'

theorem takeWhile_digits (hds : ∀ c ∈ ds, c.isDigit = true)
    (hrest : ∀ c ∈ es.head?, c.isDigit = false) : (ds ++ es).takeWhile Char.isDigit = ds := by
  rw [List.takeWhile_append_of_pos hds]
  cases es with
  | nil => simp
  | cons c es => simp [hrest c rfl]

theorem dropWhile_digits (hds : ∀ c ∈ ds, c.isDigit = true)
    (hrest : ∀ c ∈ es.head?, c.isDigit = false) : (ds ++ es).dropWhile Char.isDigit = es := by
  rw [List.dropWhile_append_of_pos hds]
  cases es with
  | nil => rfl
  | cons c es => simp [hrest c rfl]

/-! ### Texts of reals -/

/-- A real as it is written: digits in front of the point and behind it, and the sign and the digits
of an exponent. Without digits behind it there is no point. -/
structure RealText where
  whole : List Char
  part : List Char
  power : Option (Bool × List Char)

namespace RealText

variable (t : RealText)

def partChars : List Char := if t.part = [] then [] else '.' :: t.part

def powerChars : List Char :=
  match t.power with
  | none => []
  | some (negative, ds) => 'e' :: (if negative then '-' else '+') :: ds

def chars : List Char := t.whole ++ t.partChars ++ t.powerChars

def shift : Int :=
  match t.power with
  | none => 0
  | some (negative, ds) => if negative then -(decimalNumber ds : Int) else decimalNumber ds

def digits : Nat := decimalNumber (t.whole ++ t.part)

def decimal : Decimal := ⟨t.digits, t.shift - t.part.length⟩

structure Valid : Prop where
  whole : t.whole ≠ [] ∧ ∀ c ∈ t.whole, c.isDigit = true
  start : t.whole = ['0'] ∨ t.whole.head? ≠ some '0'
  part : ∀ c ∈ t.part, c.isDigit = true
  power : ∀ p ∈ t.power, p.2 ≠ [] ∧ ∀ c ∈ p.2, c.isDigit = true
  real : t.part ≠ [] ∨ t.power.isSome = true

variable {t}

theorem Valid.powerChars_ends (t : RealText) : ∀ c ∈ t.powerChars.head?, c.isDigit = false := by
  unfold RealText.powerChars
  cases t.power with
  | none => simp
  | some p => simp

theorem realNumber_chars (h : t.Valid)
    (hshift : t.shift.natAbs ≤ exponentBound (t.whole.length + t.part.length)) :
    realNumber t.chars =
      if t.digits = 0 then .zero else .ofDecimal false t.digits (t.shift - t.part.length) := by
  have hends : ∀ c ∈ (t.partChars ++ t.powerChars).head?, c.isDigit = false := by
    unfold RealText.partChars
    split
    · exact Valid.powerChars_ends t
    · simp
  have hwhole : t.chars.takeWhile Char.isDigit = t.whole := by
    rw [chars, List.append_assoc, takeWhile_digits h.whole.2 hends]
  have hrest : t.chars.dropWhile Char.isDigit = t.partChars ++ t.powerChars := by
    rw [chars, List.append_assoc, dropWhile_digits h.whole.2 hends]
  have hpart := takeWhile_digits h.part (Valid.powerChars_ends t)
  have hbehind := dropWhile_digits h.part (Valid.powerChars_ends t)
  have hpower : ∀ negative ds, t.power = some (negative, ds) → ds.takeWhile Char.isDigit = ds := by
    intro negative ds hds
    have htake : (ds ++ []).takeWhile Char.isDigit = ds :=
      takeWhile_digits (h.power _ hds).2 (by simp)
    rwa [List.append_nil] at htake
  simp only [realNumber, hwhole, hrest]
  obtain ⟨whole, part, power⟩ := t
  simp only [partChars, powerChars, shift, digits] at hpart hbehind hpower hshift ⊢
  -- The reader cuts exponents off at a bound, which the point of this text does not reach.
  have hmin : ∀ negative ds, power = some (negative, ds) →
      min (decimalNumber ds) (exponentBound (whole.length + part.length)) = decimalNumber ds := by
    rintro negative ds rfl
    refine Nat.min_eq_left (le_trans (le_of_eq ?_) hshift)
    cases negative <;> simp
  by_cases hnone : part = []
  · obtain ⟨⟨negative, ds⟩, rfl⟩ : ∃ p, power = some p :=
      Option.isSome_iff_exists.mp (h.real.resolve_left (by simpa using hnone))
    have hds := hpower _ _ rfl
    have hbound := hmin _ _ rfl
    subst hnone
    simp only [List.length_nil, Nat.add_zero] at hbound
    cases negative <;> simp [hds, hbound]
  · simp only [if_neg hnone, List.cons_append, hpart, hbehind]
    rcases power with _ | ⟨negative, ds⟩
    · simp
    · have hds := hpower _ _ rfl
      have hbound := hmin _ _ rfl
      cases negative <;> simp [hds, hbound]

end RealText

/-! ### Reading numbers -/

def signChars (negative : Bool) : List Char := if negative then ['-'] else []

variable {whole rest : List Char}

theorem takeMinus_signChars (negative : Bool) (hwhole : ∀ c ∈ ds.head?, c.isDigit = true) :
    Json.takeMinus (signChars negative ++ ds) = (negative, ds) := by
  cases negative with
  | true => rfl
  | false =>
    cases ds with
    | nil => rfl
    | cons c cs =>
      have hc : c ≠ '-' := by
        rintro rfl
        exact absurd (hwhole '-' rfl) (by decide)
      simp [signChars, Json.takeMinus, hc]

theorem wholePart_append (hds : ∀ c ∈ ds, c.isDigit = true)
    (hstart : ds = ['0'] ∨ ds ≠ [] ∧ ds.head? ≠ some '0')
    (hends : ∀ c ∈ es.head?, c.isDigit = false) : Json.wholePart (ds ++ es) = ds := by
  rcases hstart with rfl | ⟨hne, hhead⟩
  · rfl
  · obtain ⟨c, cs, rfl⟩ := List.exists_cons_of_ne_nil hne
    have hc : c ≠ '0' := fun h => hhead (by rw [h]; rfl)
    rw [List.cons_append, Json.wholePart, ← List.cons_append, takeWhile_digits hds hends]
    rintro tail heq
    exact hc (List.cons.inj heq).1

theorem readNumber_split (negative : Bool) (part power : List Char)
    (hwhole : ∀ c ∈ whole, c.isDigit = true)
    (hstart : whole = ['0'] ∨ whole ≠ [] ∧ whole.head? ≠ some '0')
    (hends : ∀ c ∈ (part ++ (power ++ rest)).head?, c.isDigit = false)
    (hpart : Json.fractionPart (part ++ (power ++ rest)) = part)
    (hpower : Json.exponentPart (power ++ rest) = power) :
    Json.readNumber (signChars negative ++ (whole ++ (part ++ (power ++ rest)))) =
      if part.isEmpty && power.isEmpty then
        if whole.length > maxDigits then Json.refuse (.tooManyDigits whole.length) rest
        else
          .ok (.int (if negative then -(decimalNumber whole : Int) else decimalNumber whole), rest)
      else
        .ok (.real (if negative then (realNumber (whole ++ part ++ power)).neg
          else realNumber (whole ++ part ++ power)), rest) := by
  have hne : whole ≠ [] := by
    rcases hstart with rfl | h
    · decide
    · exact h.1
  have hsign : Json.takeMinus (signChars negative ++ (whole ++ (part ++ (power ++ rest)))) =
      (negative, whole ++ (part ++ (power ++ rest))) := by
    refine takeMinus_signChars negative ?_
    obtain ⟨c, cs, rfl⟩ := List.exists_cons_of_ne_nil hne
    rintro d ⟨⟩
    exact hwhole c List.mem_cons_self
  simp only [Json.readNumber, hsign, wholePart_append hwhole hstart hends,
    List.isEmpty_eq_false_iff.mpr hne, List.drop_left, hpart, hpower]
  rfl

theorem fractionPart_other (h : ∀ c ∈ ds.head?, c ≠ '.') : Json.fractionPart ds = [] := by
  cases ds with
  | nil => rfl
  | cons c cs =>
    have hc : c ≠ '.' := h c rfl
    simp [Json.fractionPart, hc]

theorem exponentPart_other (h : ∀ c ∈ ds.head?, c ≠ 'e' ∧ c ≠ 'E') : Json.exponentPart ds = [] := by
  cases ds with
  | nil => rfl
  | cons c cs =>
    obtain ⟨he, hE⟩ := h c rfl
    simp only [Json.exponentPart]
    split <;> simp_all

theorem fractionPart_partChars (t : RealText) (h : t.Valid) (hrest : EndsNumber rest) :
    Json.fractionPart (t.partChars ++ (t.powerChars ++ rest)) = t.partChars := by
  have hends : ∀ c ∈ (t.powerChars ++ rest).head?, c.isDigit = false ∧ c ≠ '.' := by
    unfold RealText.powerChars
    cases t.power with
    | none => exact fun c hc => ⟨(hrest c hc).1, (hrest c hc).2.1⟩
    | some p => simp
  unfold RealText.partChars
  split
  · exact fractionPart_other fun c hc => (hends c hc).2
  · next hne =>
    rw [List.cons_append, Json.fractionPart,
      takeWhile_digits h.part fun c hc => (hends c hc).1]
    simp [hne]

theorem exponentPart_powerChars (t : RealText) (h : t.Valid) (hrest : EndsNumber rest) :
    Json.exponentPart (t.powerChars ++ rest) = t.powerChars := by
  unfold RealText.powerChars
  cases hpower : t.power with
  | none => exact exponentPart_other fun c hc => (hrest c hc).2.2
  | some p =>
    obtain ⟨negative, ds⟩ := p
    obtain ⟨hne, hds⟩ := h.power _ hpower
    have htake := takeWhile_digits hds fun c hc => (hrest c hc).1
    cases negative <;> simp [Json.exponentPart, htake, hne]

theorem readNumber_realText (t : RealText) (h : t.Valid) (hrest : EndsNumber rest)
    (negative : Bool) :
    Json.readNumber (signChars negative ++ (t.chars ++ rest)) =
      .ok (.real (if negative then (realNumber t.chars).neg else realNumber t.chars), rest) := by
  have hends : ∀ c ∈ (t.partChars ++ (t.powerChars ++ rest)).head?, c.isDigit = false := by
    unfold RealText.partChars RealText.powerChars
    split
    · cases t.power with
      | none => exact fun c hc => (hrest c hc).1
      | some p => simp
    · simp
  have hreal : (t.partChars.isEmpty && t.powerChars.isEmpty) = false := by
    unfold RealText.partChars RealText.powerChars
    rcases h.real with hpart | hpower
    · simp [hpart]
    · obtain ⟨p, hp⟩ := Option.isSome_iff_exists.mp hpower
      simp [hp]
  have hstart : t.whole = ['0'] ∨ t.whole ≠ [] ∧ t.whole.head? ≠ some '0' :=
    h.start.imp_right fun hhead => ⟨h.whole.1, hhead⟩
  have hsplit := readNumber_split negative t.partChars t.powerChars h.whole.2 hstart hends
    (fractionPart_partChars t h hrest) (exponentPart_powerChars t h hrest)
  rw [hreal] at hsplit
  rw [RealText.chars, List.append_assoc, List.append_assoc, hsplit]
  simp

/-! ### The texts of decimals -/

structure Leading (ds : List Char) : Prop where
  nonempty : ds ≠ []
  digits : ∀ c ∈ ds, c.isDigit = true
  start : ds.head? ≠ some '0'

theorem leading_toDigits (hn : 0 < n) : Leading (Nat.toDigits 10 n) :=
  ⟨Nat.toDigits_ne_nil, isDigit_toDigits n, head_toDigits hn⟩

theorem realText_before (h : Leading ds) (j : Nat) :
    RealText.Valid ⟨['0'], List.replicate j '0' ++ ds, none⟩ ∧
      RealText.digits ⟨['0'], List.replicate j '0' ++ ds, none⟩ = decimalNumber ds := by
  have hpart : ∀ c ∈ List.replicate j '0' ++ ds, c.isDigit = true := by
    intro c hc
    rcases List.mem_append.mp hc with hc | hc
    · exact isDigit_zeros j c hc
    · exact h.digits c hc
  have hzero : decimalNumber ['0'] = 0 := by decide
  have hsome : List.replicate j '0' ++ ds ≠ [] := by simp [h.nonempty]
  refine ⟨⟨⟨List.cons_ne_nil _ _, isDigit_zeros 1⟩, .inl rfl, hpart, by simp, .inl hsome⟩, ?_⟩
  simp only [RealText.digits, decimalNumber_append, decimalNumber_zeros, hzero, Nat.zero_mul,
    Nat.zero_add]

theorem realText_behind (h : Leading ds) (j : Nat) :
    RealText.Valid ⟨ds ++ List.replicate j '0', ['0'], none⟩ ∧
      RealText.digits ⟨ds ++ List.replicate j '0', ['0'], none⟩ =
        decimalNumber ds * 10 ^ (j + 1) := by
  have hwhole : ∀ c ∈ ds ++ List.replicate j '0', c.isDigit = true := by
    intro c hc
    rcases List.mem_append.mp hc with hc | hc
    · exact h.digits c hc
    · exact isDigit_zeros j c hc
  have hhead : (ds ++ List.replicate j '0').head? ≠ some '0' := by
    obtain ⟨c, cs, rfl⟩ := List.exists_cons_of_ne_nil h.nonempty
    exact h.start
  have hzero : decimalNumber ['0'] = 0 := by decide
  refine ⟨⟨⟨by simp [h.nonempty], hwhole⟩, .inr hhead, by simp, by simp,
    .inl (List.cons_ne_nil _ _)⟩, ?_⟩
  simp only [RealText.digits, decimalNumber_append, decimalNumber_zeros, hzero, List.length_replicate,
    List.length_singleton, Nat.add_zero, Nat.pow_succ]
  ring

theorem realText_inside (h : Leading ds) (j : Nat) (power : Option (Bool × List Char)) (hj : 0 < j)
    (hpower : ∀ p ∈ power, p.2 ≠ [] ∧ ∀ c ∈ p.2, c.isDigit = true)
    (hreal : j < ds.length ∨ power.isSome = true) :
    RealText.Valid ⟨ds.take j, ds.drop j, power⟩ ∧
      RealText.digits ⟨ds.take j, ds.drop j, power⟩ = decimalNumber ds := by
  obtain ⟨c, cs, rfl⟩ := List.exists_cons_of_ne_nil h.nonempty
  obtain ⟨i, rfl⟩ : ∃ i, j = i + 1 := ⟨j - 1, by omega⟩
  refine ⟨⟨⟨by simp, fun d hd => h.digits d (List.mem_of_mem_take hd)⟩, .inr h.start,
    fun d hd => h.digits d (List.mem_of_mem_drop hd), hpower, hreal.imp_left fun hlt => ?_⟩, ?_⟩
  · exact List.drop_eq_nil_iff.not.mpr (by omega)
  · simp only [RealText.digits, List.take_append_drop]

theorem zpow_ten_mul (x : ℚ) (j : Nat) (k : Int) : x * 10 ^ j * 10 ^ k = x * 10 ^ (k + j) := by
  rw [zpow_add₀ (by norm_num), zpow_natCast]
  ring

theorem placePoint_realText (h : Leading ds) (k : Int) :
    ∃ t : RealText, t.Valid ∧ t.chars = placePoint ds k ∧ t.shift = 0 ∧
      t.decimal.value = decimalNumber ds * 10 ^ (k - ds.length) := by
  unfold placePoint
  split
  · next hk =>
    obtain ⟨j, rfl⟩ : ∃ j : Nat, k = -j := ⟨k.natAbs, by omega⟩
    obtain ⟨hvalid, hdigits⟩ := realText_before h j
    refine ⟨_, hvalid, ?_, rfl, ?_⟩
    · simp [RealText.chars, RealText.partChars, RealText.powerChars, h.nonempty]
    · simp only [RealText.decimal, Decimal.value, hdigits, RealText.shift, List.length_append,
        List.length_replicate]
      congr 2
      push_cast
      ring
  · next hk =>
    obtain ⟨j, rfl⟩ : ∃ j : Nat, k = j := ⟨k.toNat, by omega⟩
    simp only [Int.toNat_natCast]
    split
    · next hlong =>
      obtain ⟨hvalid, hdigits⟩ := realText_behind h (j - ds.length)
      refine ⟨_, hvalid, ?_, rfl, ?_⟩
      · simp [RealText.chars, RealText.partChars, RealText.powerChars]
      · simp only [RealText.decimal, Decimal.value, hdigits, RealText.shift, List.length_singleton]
        push_cast
        rw [zpow_ten_mul]
        congr 2
        push_cast [Nat.cast_sub hlong]
        ring
    · next hshort =>
      obtain ⟨hvalid, hdigits⟩ := realText_inside h j none (by omega) (by simp)
        (.inl (by omega))
      refine ⟨_, hvalid, ?_, rfl, ?_⟩
      · have hpart : ds.drop j ≠ [] := List.drop_eq_nil_iff.not.mpr (by omega)
        simp [RealText.chars, RealText.partChars, RealText.powerChars, hpart]
      · simp only [RealText.decimal, Decimal.value, hdigits, RealText.shift, List.length_drop]
        congr 2
        push_cast [Nat.cast_sub (Nat.le_of_not_le hshort)]
        ring

theorem exponent_realText (h : Leading ds) (k : Int) :
    ∃ t : RealText, t.Valid ∧
      t.chars = ds.take 1 ++ (if ds.drop 1 = [] then [] else '.' :: ds.drop 1) ++ exponentText k ∧
      t.shift = k ∧ t.decimal.value = decimalNumber ds * 10 ^ (k + 1 - ds.length) := by
  have hzero : decimalNumber ['0'] = 0 := by decide
  let es := if (Nat.toDigits 10 k.natAbs).length < 2 then '0' :: Nat.toDigits 10 k.natAbs
    else Nat.toDigits 10 k.natAbs
  have hes : decimalNumber es = k.natAbs ∧ es ≠ [] ∧ ∀ c ∈ es, c.isDigit = true := by
    simp only [es]
    split
    · refine ⟨?_, List.cons_ne_nil _ _, List.forall_mem_cons.mpr ⟨by decide, isDigit_toDigits _⟩⟩
      rw [← List.singleton_append, decimalNumber_append, hzero, decimalNumber_toDigits, Nat.zero_mul,
        Nat.zero_add]
    · exact ⟨decimalNumber_toDigits _, Nat.toDigits_ne_nil, isDigit_toDigits _⟩
  obtain ⟨hvalid, hdigits⟩ := realText_inside h 1 (some (decide (k < 0), es))
    (by decide) (by rintro p ⟨⟩; exact hes.2) (.inr rfl)
  have hshift : RealText.shift ⟨ds.take 1, ds.drop 1, some (decide (k < 0), es)⟩ = k := by
    simp only [RealText.shift, hes.1, decide_eq_true_eq]
    split <;> omega
  refine ⟨_, hvalid, ?_, hshift, ?_⟩
  · simp only [RealText.chars, RealText.partChars, RealText.powerChars, exponentText,
      decide_eq_true_eq, es]
  · rw [RealText.decimal, Decimal.value, hshift, hdigits, List.length_drop]
    have hpos : 1 ≤ ds.length := List.length_pos_iff.mpr h.nonempty
    congr 2
    push_cast [Nat.cast_sub hpos]
    ring

theorem Decimal.text_realText {d : Decimal} (hd : 0 < d.digits) :
    ∃ t : RealText, t.Valid ∧ t.chars = d.text ∧ t.decimal.value = d.value ∧
      (t.shift = 0 ∨ t.shift = d.power + digitCount d.digits - 1) := by
  have hleading := leading_toDigits hd
  have hvalue : (decimalNumber (Nat.toDigits 10 d.digits) : ℚ) * 10 ^ d.power = d.value := by
    rw [decimalNumber_toDigits]
    rfl
  unfold Decimal.text
  simp only
  split
  · obtain ⟨t, hvalid, hchars, hshift, ht⟩ := placePoint_realText hleading
      (d.power + (Nat.toDigits 10 d.digits).length - 1 + 1)
    refine ⟨t, hvalid, hchars, ?_, .inl hshift⟩
    rw [ht, ← hvalue]
    congr 2
    ring
  · obtain ⟨t, hvalid, hchars, hshift, ht⟩ := exponent_realText hleading
      (d.power + (Nat.toDigits 10 d.digits).length - 1)
    refine ⟨t, hvalid, ?_, ?_, .inr hshift⟩
    · rw [hchars]
      obtain ⟨c, cs, hcs⟩ := List.exists_cons_of_ne_nil hleading.nonempty
      rw [hcs]
      cases cs with
      | nil => rfl
      | cons c' cs => rfl
    · rw [ht, ← hvalue]
      congr 2
      ring

/-! ### The texts of floating-point numbers -/

def Double.Proper : Double → Prop
  | .finite _ b => b.Proper
  | _ => True

theorem ofDecimal_ratio (digits : Nat) (power : Int) : ∃ r : Ratio, 0 < r.den ∧
    r.value = Decimal.value ⟨digits, power⟩ ∧
    ∀ s, Double.ofDecimal s digits power = Double.ofRatio s r := by
  unfold Double.ofDecimal
  by_cases hp : power < 0
  · obtain ⟨k, rfl⟩ : ∃ k : Nat, power = -k := ⟨power.natAbs, by omega⟩
    refine ⟨⟨digits, Nat.pow 10 k⟩, Nat.pow_pos (n := k) (by decide : 0 < 10), ?_, fun s => ?_⟩
    · rw [Ratio.value, Decimal.value, cast_ten_pow, zpow_neg, zpow_natCast, div_eq_mul_inv]
    · rw [if_pos hp, Int.natAbs_neg, Int.natAbs_natCast]
  · obtain ⟨k, rfl⟩ : ∃ k : Nat, power = k := ⟨power.toNat, by omega⟩
    refine ⟨⟨digits * Nat.pow 10 k, 1⟩, Nat.one_pos, ?_, fun s => ?_⟩
    · rw [Ratio.value, Decimal.value, Nat.cast_mul, cast_ten_pow, zpow_natCast, Nat.cast_one, div_one]
    · rw [if_neg hp, Int.toNat_natCast]

theorem ofDecimal_of_attracts {b : Binary} (hb : b.Proper) (hm : 0 < b.mantissa) {digits : Nat}
    {power : Int} (h : b.Attracts (Decimal.value ⟨digits, power⟩)) (s : Bool) :
    Double.ofDecimal s digits power = .finite s b := by
  obtain ⟨r, hd, hvalue, heq⟩ := ofDecimal_ratio digits power
  rw [heq, Double.ofRatio, nearest?_of_attracts hb hm hd (by rwa [hvalue])]

variable {b : Binary}

theorem attracts_pos (hm : 0 < b.mantissa) {d : Decimal} (h : b.Attracts d.value) :
    2 ^ (b.exponent - 1) ≤ d.value ∧ 0 < d.digits := by
  have hpos := two_zpow_pos b.exponent
  have hmantissa : (1 : ℚ) ≤ b.mantissa := by exact_mod_cast hm
  have hlow : 2 ^ (b.exponent - 1) ≤ d.value := by
    refine le_trans ?_ h.low
    rw [zpow_sub_one₀ two_ne_zero, mul_comm]
    exact mul_le_mul_of_nonneg_right (by linarith [lowerGap_le b]) hpos.le
  refine ⟨hlow, Nat.pos_of_ne_zero fun hzero => ?_⟩
  rw [Decimal.value, hzero, Nat.cast_zero, zero_mul] at hlow
  exact absurd hlow (not_le.mpr (two_zpow_pos _))

/-- All numbers lie well inside four hundred powers of ten. -/
theorem two_zpow_lt_ten_zpow : (2 : ℚ) ^ (1075 : Int) < 10 ^ (400 : Int) := by
  have hpow : 2 ^ 1075 < 10 ^ 400 := by decide +kernel
  exact_mod_cast hpow

/-- The leading digit of a decimal that rounds to a number is not far from the point. -/
theorem lead_bounds (hb : b.Proper) (hm : 0 < b.mantissa) {d : Decimal} (h : b.Attracts d.value) :
    (d.power + digitCount d.digits - 1).natAbs ≤ 400 := by
  obtain ⟨hlow, hdigits⟩ := attracts_pos hm h
  have hpos := ten_zpow_pos d.power
  have hcount : 0 < digitCount d.digits := Nat.length_toDigits_pos
  have hbelow : d.value < 10 ^ (d.power + digitCount d.digits) := by
    rw [zpow_add₀ (by norm_num), zpow_natCast, Decimal.value, mul_comm]
    exact mul_lt_mul_of_pos_left (by exact_mod_cast lt_pow_digitCount d.digits) hpos
  have habove : 10 ^ (d.power + digitCount d.digits - 1) ≤ d.value := by
    rw [show d.power + (digitCount d.digits : Int) - 1 = d.power + (digitCount d.digits - 1 : Nat) by
      omega, zpow_add₀ (by norm_num), zpow_natCast, Decimal.value, mul_comm]
    exact mul_le_mul_of_nonneg_right (by exact_mod_cast pow_digitCount_le hdigits) hpos.le
  -- Every finite number lies between these two powers of ten, with room to spare.
  have hhigh : d.value < 10 ^ (400 : Int) := by
    have hmantissa : (b.mantissa + 1 : ℚ) ≤ 2 ^ precision := by
      rw [← cast_two_pow]
      exact_mod_cast hb.mantissa
    calc d.value ≤ (b.mantissa + 1 / 2) * 2 ^ b.exponent := h.high
      _ ≤ 2 ^ precision * 2 ^ maxExponent := by
          refine mul_le_mul (by linarith) (zpow_le_zpow_right₀ (by norm_num) hb.greatest)
            (two_zpow_pos _).le (by positivity)
      _ = 2 ^ ((precision : Int) + maxExponent) := by
          rw [zpow_add₀ two_ne_zero, zpow_natCast]
      _ ≤ 2 ^ (1075 : Int) := zpow_le_zpow_right₀ (by norm_num) (by decide)
      _ < 10 ^ (400 : Int) := two_zpow_lt_ten_zpow
  have hleast : (10 : ℚ) ^ (-(400 : Int)) < d.value := by
    refine lt_of_lt_of_le ?_ hlow
    refine lt_of_lt_of_le ?_ (zpow_le_zpow_right₀ (a := (2 : ℚ)) (by norm_num)
      (show minExponent - 1 ≤ b.exponent - 1 from by have := hb.least; omega))
    rw [show minExponent - 1 = -(1075 : Int) from rfl, zpow_neg, zpow_neg]
    exact (inv_lt_inv₀ (ten_zpow_pos _) (two_zpow_pos _)).mpr two_zpow_lt_ten_zpow
  have hupper := (zpow_lt_zpow_iff_right₀ (a := (10 : ℚ)) (by norm_num)).mp (habove.trans_lt hhigh)
  have hlower := (zpow_lt_zpow_iff_right₀ (a := (10 : ℚ)) (by norm_num)).mp (hleast.trans hbelow)
  omega

theorem Binary.text_realText (hb : b.Proper) :
    ∃ t : RealText, t.Valid ∧ t.chars = b.text ∧ realNumber t.chars = .finite false b := by
  by_cases hm : b.mantissa = 0
  · have hexponent : b.exponent = minExponent := by
      refine le_antisymm (not_lt.mp fun hlt => ?_) hb.least
      have hfull := hb.full hlt
      rw [hm] at hfull
      exact absurd hfull (by decide)
    have hzero : b = ⟨0, minExponent⟩ := by
      rw [← hm, ← hexponent]
    refine ⟨⟨['0'], ['0'], none⟩, ⟨⟨List.cons_ne_nil _ _, isDigit_zeros 1⟩, .inl rfl,
      isDigit_zeros 1, by simp, .inl (List.cons_ne_nil _ _)⟩, ?_, ?_⟩
    · rw [Binary.text, if_pos hm]
      rfl
    · rw [hzero]
      rfl
  · have hpos : 0 < b.mantissa := Nat.pos_of_ne_zero hm
    have hattracts := shortest_attracted hb hpos
    obtain ⟨-, hdigits⟩ := attracts_pos hpos hattracts
    obtain ⟨t, hvalid, hchars, hvalue, hshift⟩ := Decimal.text_realText hdigits
    rw [← hvalue] at hattracts
    refine ⟨t, hvalid, by rw [hchars, Binary.text, if_neg hm], ?_⟩
    rw [RealText.realNumber_chars hvalid]
    · have hsome : t.digits ≠ 0 := (attracts_pos hpos hattracts).2.ne'
      rw [if_neg hsome]
      exact ofDecimal_of_attracts hb hpos hattracts false
    · have hlead := lead_bounds hb hpos (shortest_attracted hb hpos)
      rw [exponentBound]
      rcases hshift with hshift | hshift <;> rw [hshift]
      · simp
      · omega

theorem readNumber_double {s : Bool} (hb : b.Proper) (hrest : EndsNumber rest) :
    Json.readNumber ((Double.finite s b).text.toList ++ rest) =
      .ok (.real (.finite s b), rest) := by
  obtain ⟨t, hvalid, hchars, hnumber⟩ := Binary.text_realText hb
  have htext : (Double.finite s b).text.toList = signChars s ++ t.chars := by
    rw [hchars, Double.text, String.toList_ofList]
    cases s <;> rfl
  rw [htext, List.append_assoc, readNumber_realText t hvalid hrest, hnumber]
  cases s <;> rfl

end CodeLint.Number
