import CodeLint.Text.Utf8
import Mathlib.Data.List.Basic

/-!
Decoding undoes encoding and nothing else. The bytes that are read as a text are those that write
the text in UTF-8, so a text is read from one row of bytes only: an overlong form, a surrogate, a
character that is cut off or a stray byte is no text, wherever it stands.
-/

namespace CodeLint.Text

/-! ### The bytes of a character -/

theorem encodeChar_eq (c : Char) :
    String.utf8EncodeChar c =
      if c.toNat ≤ 0x7F then [UInt8.ofNat c.toNat]
      else if c.toNat ≤ 0x7FF then
        [UInt8.ofNat (c.toNat / 64 % 32 + 0xC0), UInt8.ofNat (c.toNat % 64 + 0x80)]
      else if c.toNat ≤ 0xFFFF then
        [UInt8.ofNat (c.toNat / 4096 % 16 + 0xE0), UInt8.ofNat (c.toNat / 64 % 64 + 0x80),
          UInt8.ofNat (c.toNat % 64 + 0x80)]
      else
        [UInt8.ofNat (c.toNat / 262144 % 8 + 0xF0), UInt8.ofNat (c.toNat / 4096 % 64 + 0x80),
          UInt8.ofNat (c.toNat / 64 % 64 + 0x80), UInt8.ofNat (c.toNat % 64 + 0x80)] :=
  rfl

abbrev Continues (b : UInt8) : Prop := 0x80 ≤ b.toNat ∧ b.toNat ≤ 0xBF

/-- The bytes spell the code point, in the one form that there is for it. -/
inductive Spells : List UInt8 → Nat → Prop
  | one {b : UInt8} {v : Nat} (hb : b.toNat < 0x80) (hv : v = b.toNat) : Spells [b] v
  | two {b b₁ : UInt8} {v : Nat} (hb : 0xC2 ≤ b.toNat ∧ b.toNat < 0xE0) (h₁ : Continues b₁)
      (hv : v = (b.toNat - 0xC0) * 64 + (b₁.toNat - 0x80)) : Spells [b, b₁] v
  | three {b b₁ b₂ : UInt8} {v : Nat} (hb : 0xE0 ≤ b.toNat ∧ b.toNat < 0xF0) (h₁ : Continues b₁)
      (hlong : b.toNat = 0xE0 → 0xA0 ≤ b₁.toNat) (hsurrogate : b.toNat = 0xED → b₁.toNat ≤ 0x9F)
      (h₂ : Continues b₂)
      (hv : v = ((b.toNat - 0xE0) * 64 + (b₁.toNat - 0x80)) * 64 + (b₂.toNat - 0x80)) :
      Spells [b, b₁, b₂] v
  | four {b b₁ b₂ b₃ : UInt8} {v : Nat} (hb : 0xF0 ≤ b.toNat ∧ b.toNat < 0xF5) (h₁ : Continues b₁)
      (hlong : b.toNat = 0xF0 → 0x90 ≤ b₁.toNat) (hend : b.toNat = 0xF4 → b₁.toNat ≤ 0x8F)
      (h₂ : Continues b₂) (h₃ : Continues b₃)
      (hv : v = (((b.toNat - 0xF0) * 64 + (b₁.toNat - 0x80)) * 64 + (b₂.toNat - 0x80)) * 64 +
        (b₃.toNat - 0x80)) : Spells [b, b₁, b₂, b₃] v

theorem spells_encodeChar (c : Char) : Spells (String.utf8EncodeChar c) c.toNat := by
  have hvalid : c.toNat < 0xD800 ∨ 0xDFFF < c.toNat ∧ c.toNat < 0x110000 := c.valid
  rw [encodeChar_eq]
  split_ifs with h₁ h₂ h₃
  · refine .one ?_ ?_ <;> rw [UInt8.toNat_ofNat', Nat.mod_eq_of_lt (by omega)]
    omega
  · refine .two ?_ ?_ ?_ <;>
      simp (disch := omega) only [Continues, UInt8.toNat_ofNat', Nat.mod_eq_of_lt] <;> omega
  · refine .three ?_ ?_ ?_ ?_ ?_ ?_ <;>
      simp (disch := omega) only [Continues, UInt8.toNat_ofNat', Nat.mod_eq_of_lt] <;> omega
  · refine .four ?_ ?_ ?_ ?_ ?_ ?_ ?_ <;>
      simp (disch := omega) only [Continues, UInt8.toNat_ofNat', Nat.mod_eq_of_lt] <;> omega

theorem exists_of_spells {bs : List UInt8} {v : Nat} (h : Spells bs v) :
    ∃ c : Char, c.toNat = v ∧ String.utf8EncodeChar c = bs := by
  have hvalid : v < 0xD800 ∨ 0xDFFF < v ∧ v < 0x110000 := by
    cases h <;> omega
  obtain ⟨c, rfl⟩ : ∃ c : Char, c.toNat = v := ⟨Char.ofNatAux v hvalid, rfl⟩
  have hbyte {n : Nat} {b : UInt8} (h : n = b.toNat) : UInt8.ofNat n = b := by
    rw [h, UInt8.ofNat_toNat]
  refine ⟨c, rfl, ?_⟩
  rw [encodeChar_eq]
  cases h with
  | one hb hv => rw [if_pos (by omega), hbyte hv]
  | two hb h₁ hv =>
    rw [if_neg (by omega), if_pos (by omega), List.cons.injEq, List.cons.injEq]
    exact ⟨hbyte (by omega), hbyte (by omega), rfl⟩
  | three hb h₁ hlong hsurrogate h₂ hv =>
    rw [if_neg (by omega), if_neg (by omega), if_pos (by omega), List.cons.injEq, List.cons.injEq,
      List.cons.injEq]
    exact ⟨hbyte (by omega), hbyte (by omega), hbyte (by omega), rfl⟩
  | four hb h₁ hlong hend h₂ h₃ hv =>
    rw [if_neg (by omega), if_neg (by omega), if_neg (by omega), List.cons.injEq, List.cons.injEq,
      List.cons.injEq, List.cons.injEq]
    exact ⟨hbyte (by omega), hbyte (by omega), hbyte (by omega), hbyte (by omega), rfl⟩

/-! ### Reading a character -/

/-- A first byte by the number of bytes that follow. The range of the next byte is narrower where a
longer form would do for a shorter one, at surrogates, and at the end of the code points. -/
theorem lead?_eq (b : Nat) :
    lead? b =
      if b < 0x80 then some ⟨0, 0x80, 0xBF, b⟩
      else if b < 0xC2 then none
      else if b < 0xE0 then some ⟨1, 0x80, 0xBF, b - 0xC0⟩
      else if b < 0xF0 then
        some ⟨2, if b = 0xE0 then 0xA0 else 0x80, if b = 0xED then 0x9F else 0xBF, b - 0xE0⟩
      else if b < 0xF5 then
        some ⟨3, if b = 0xF0 then 0x90 else 0x80, if b = 0xF4 then 0x8F else 0xBF, b - 0xF0⟩
      else none := by
  unfold lead?
  grind

theorem following_zero_iff {low high bits code : Nat} {bs rest passed : List UInt8} :
    following 0 low high bits bs passed = .ok (code, rest) ↔ bits = code ∧ bs = rest := by
  simp [following]

theorem following_succ_iff {n low high bits code : Nat} {bs rest passed : List UInt8} :
    following (n + 1) low high bits bs passed = .ok (code, rest) ↔
      ∃ b bs', bs = b :: bs' ∧ low ≤ b.toNat ∧ b.toNat ≤ high ∧
        following n 0x80 0xBF (bits * 64 + (b.toNat - 0x80)) bs' (b :: passed) =
          .ok (code, rest) := by
  cases bs with
  | nil => simp [following]
  | cons b bs =>
    rw [following]
    by_cases hrange : low ≤ b.toNat ∧ b.toNat ≤ high
    · rw [if_pos hrange]
      simp [hrange]
    · rw [if_neg hrange]
      simp only [reduceCtorEq, List.cons.injEq, false_iff, not_exists]
      rintro b' bs' ⟨⟨rfl, rfl⟩, hlow, hhigh, -⟩
      exact hrange ⟨hlow, hhigh⟩

theorem narrowed_iff {b n x y low high : Nat} (hlow : 0x80 ≤ low) (hhigh : high ≤ 0xBF) :
    (if b = x then low else 0x80) ≤ n ∧ n ≤ (if b = y then high else 0xBF) ↔
      (0x80 ≤ n ∧ n ≤ 0xBF) ∧ (b = x → low ≤ n) ∧ (b = y → n ≤ high) := by
  split_ifs <;> omega

theorem following_iff_spells {b : UInt8} {bs rest : List UInt8} {code : Nat} :
    (∃ l, lead? b.toNat = some l ∧
      following l.follow l.low l.high l.bits bs [b] = .ok (code, rest)) ↔
    ∃ word, Spells word code ∧ b :: bs = word ++ rest := by
  rw [lead?_eq]
  constructor
  · rintro ⟨l, hlead, hread⟩
    by_cases h₁ : b.toNat < 0x80
    · rw [if_pos h₁, Option.some.injEq] at hlead
      subst hlead
      obtain ⟨rfl, rfl⟩ := following_zero_iff.mp hread
      exact ⟨[b], .one h₁ rfl, rfl⟩
    rw [if_neg h₁] at hlead
    by_cases h₂ : b.toNat < 0xC2
    · rw [if_pos h₂] at hlead
      cases hlead
    rw [if_neg h₂] at hlead
    by_cases h₃ : b.toNat < 0xE0
    · rw [if_pos h₃, Option.some.injEq] at hlead
      subst hlead
      obtain ⟨b₁, bs, rfl, hlow, hhigh, hread⟩ := following_succ_iff.mp hread
      obtain ⟨rfl, rfl⟩ := following_zero_iff.mp hread
      exact ⟨[b, b₁], .two ⟨Nat.not_lt.mp h₂, h₃⟩ ⟨hlow, hhigh⟩ rfl, rfl⟩
    rw [if_neg h₃] at hlead
    by_cases h₄ : b.toNat < 0xF0
    · rw [if_pos h₄, Option.some.injEq] at hlead
      subst hlead
      obtain ⟨b₁, bs, rfl, hlow, hhigh, hread⟩ := following_succ_iff.mp hread
      obtain ⟨b₂, bs, rfl, hlow₂, hhigh₂, hread⟩ := following_succ_iff.mp hread
      obtain ⟨rfl, rfl⟩ := following_zero_iff.mp hread
      obtain ⟨hnext, hlong, hsurrogate⟩ := (narrowed_iff (by decide) (by decide)).mp ⟨hlow, hhigh⟩
      exact ⟨[b, b₁, b₂], .three ⟨Nat.not_lt.mp h₃, h₄⟩ hnext hlong hsurrogate ⟨hlow₂, hhigh₂⟩ rfl,
        rfl⟩
    rw [if_neg h₄] at hlead
    by_cases h₅ : b.toNat < 0xF5
    · rw [if_pos h₅, Option.some.injEq] at hlead
      subst hlead
      obtain ⟨b₁, bs, rfl, hlow, hhigh, hread⟩ := following_succ_iff.mp hread
      obtain ⟨b₂, bs, rfl, hlow₂, hhigh₂, hread⟩ := following_succ_iff.mp hread
      obtain ⟨b₃, bs, rfl, hlow₃, hhigh₃, hread⟩ := following_succ_iff.mp hread
      obtain ⟨rfl, rfl⟩ := following_zero_iff.mp hread
      obtain ⟨hnext, hlong, hend⟩ := (narrowed_iff (by decide) (by decide)).mp ⟨hlow, hhigh⟩
      exact ⟨[b, b₁, b₂, b₃], .four ⟨Nat.not_lt.mp h₄, h₅⟩ hnext hlong hend ⟨hlow₂, hhigh₂⟩
        ⟨hlow₃, hhigh₃⟩ rfl, rfl⟩
    · rw [if_neg h₅] at hlead
      cases hlead
  · rintro ⟨word, hspells, hbytes⟩
    cases hspells with
    | one hb hv =>
      obtain ⟨rfl, rfl⟩ := List.cons.inj hbytes
      exact ⟨_, if_pos hb, following_zero_iff.mpr ⟨hv.symm, rfl⟩⟩
    | two hb h₁ hv =>
      obtain ⟨rfl, rfl⟩ := List.cons.inj hbytes
      rw [if_neg (by omega), if_neg (by omega), if_pos hb.2]
      refine ⟨_, rfl, following_succ_iff.mpr ⟨_, _, rfl, h₁.1, h₁.2, ?_⟩⟩
      exact following_zero_iff.mpr ⟨hv.symm, rfl⟩
    | three hb h₁ hlong hsurrogate h₂ hv =>
      obtain ⟨rfl, rfl⟩ := List.cons.inj hbytes
      obtain ⟨hlow, hhigh⟩ := (narrowed_iff (by decide) (by decide)).mpr ⟨h₁, hlong, hsurrogate⟩
      rw [if_neg (by omega), if_neg (by omega), if_neg (by omega), if_pos hb.2]
      refine ⟨_, rfl, following_succ_iff.mpr ⟨_, _, rfl, hlow, hhigh, ?_⟩⟩
      refine following_succ_iff.mpr ⟨_, _, rfl, h₂.1, h₂.2, ?_⟩
      exact following_zero_iff.mpr ⟨hv.symm, rfl⟩
    | four hb h₁ hlong hend h₂ h₃ hv =>
      obtain ⟨rfl, rfl⟩ := List.cons.inj hbytes
      obtain ⟨hlow, hhigh⟩ := (narrowed_iff (by decide) (by decide)).mpr ⟨h₁, hlong, hend⟩
      rw [if_neg (by omega), if_neg (by omega), if_neg (by omega), if_neg (by omega), if_pos hb.2]
      refine ⟨_, rfl, following_succ_iff.mpr ⟨_, _, rfl, hlow, hhigh, ?_⟩⟩
      refine following_succ_iff.mpr ⟨_, _, rfl, h₂.1, h₂.2, ?_⟩
      refine following_succ_iff.mpr ⟨_, _, rfl, h₃.1, h₃.2, ?_⟩
      exact following_zero_iff.mpr ⟨hv.symm, rfl⟩

theorem following_iff_encodes {b : UInt8} {bs rest : List UInt8} {code : Nat} :
    (∃ l, lead? b.toNat = some l ∧
      following l.follow l.low l.high l.bits bs [b] = .ok (code, rest)) ↔
    ∃ c : Char, c.toNat = code ∧ b :: bs = String.utf8EncodeChar c ++ rest := by
  rw [following_iff_spells]
  constructor
  · rintro ⟨word, hspells, hbytes⟩
    obtain ⟨c, hcode, rfl⟩ := exists_of_spells hspells
    exact ⟨c, hcode, hbytes⟩
  · rintro ⟨c, rfl, hbytes⟩
    exact ⟨_, spells_encodeChar c, hbytes⟩

/-! ### The bytes of a text -/

theorem length_encodeChar_pos (c : Char) : 0 < (String.utf8EncodeChar c).length := by
  rw [String.length_utf8EncodeChar]
  exact c.utf8Size_pos

theorem decodeFrom_eq_ok_iff {n pos : Nat} {bs : List UInt8} {acc cs : List Char}
    (hfuel : bs.length < n) :
    decodeFrom n pos bs acc = .ok cs ↔
      ∃ ds : List Char, ds.flatMap String.utf8EncodeChar = bs ∧ ds.reverse ++ acc = cs := by
  induction n generalizing pos bs acc with
  | zero => exact absurd hfuel (Nat.not_lt_zero _)
  | succ n ih =>
    cases bs with
    | nil =>
      rw [decodeFrom, Except.ok.injEq]
      constructor
      · rintro rfl
        exact ⟨[], rfl, rfl⟩
      · rintro ⟨ds, hbytes, rfl⟩
        cases ds with
        | nil => rfl
        | cons c ds =>
          have hpos := length_encodeChar_pos c
          rw [(List.append_eq_nil_iff.mp hbytes).1] at hpos
          exact absurd hpos (Nat.lt_irrefl 0)
    | cons b bs =>
      -- A character takes at least one byte, so there is fuel for those behind it.
      have hrest {c : Char} {rest : List UInt8} (h : b :: bs = String.utf8EncodeChar c ++ rest) :
          rest.length < n := by
        have hpos := length_encodeChar_pos c
        rw [h, List.length_append] at hfuel
        omega
      rw [decodeFrom]
      constructor
      · intro hdecoded
        cases hlead : lead? b.toNat with
        | none =>
          simp only [hlead] at hdecoded
          cases hdecoded
        | some l =>
          cases hread : following l.follow l.low l.high l.bits bs [b] with
          | error e =>
            simp only [hlead, hread] at hdecoded
            cases hdecoded
          | ok r =>
            obtain ⟨code, rest⟩ := r
            simp only [hlead, hread] at hdecoded
            obtain ⟨c, rfl, hbytes⟩ := following_iff_encodes.mp ⟨l, hlead, hread⟩
            rw [Char.ofNat_toNat] at hdecoded
            obtain ⟨ds, rfl, rfl⟩ := (ih (hrest hbytes)).mp hdecoded
            exact ⟨c :: ds, hbytes.symm, by simp⟩
      · rintro ⟨ds, hbytes, rfl⟩
        cases ds with
        | nil => cases hbytes
        | cons c ds =>
          rw [List.flatMap_cons] at hbytes
          obtain ⟨l, hlead, hread⟩ := following_iff_encodes.mpr ⟨c, rfl, hbytes.symm⟩
          simp only [hlead, hread, Char.ofNat_toNat]
          exact (ih (hrest hbytes.symm)).mpr ⟨ds, rfl, by simp⟩

theorem decodeUtf8_eq_ok_iff {bs : List UInt8} {cs : List Char} :
    decodeUtf8 bs = .ok cs ↔ cs.flatMap String.utf8EncodeChar = bs := by
  have hreversed : decodeUtf8 bs = .ok cs ↔
      decodeFrom (bs.length + 1) 0 bs [] = .ok cs.reverse := by
    unfold decodeUtf8
    cases decodeFrom (bs.length + 1) 0 bs [] with
    | error f => simp [Except.map]
    | ok rs => simp [Except.map, List.reverse_eq_iff]
  rw [hreversed, decodeFrom_eq_ok_iff (Nat.lt_succ_self _)]
  simp only [List.append_nil, List.reverse_inj, exists_eq_right]

end CodeLint.Text
