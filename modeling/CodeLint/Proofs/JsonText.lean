import CodeLint.Proofs.NumberText
import CodeLint.Proofs.Ordered

/-!
Values in JSON as one line of ASCII, with a blank behind every comma and colon. Reading such a line
gives the value back, provided that its whole numbers are not too long to be read and its reals are
proper numbers.
-/

namespace CodeLint.Json

open CodeLint.Number CodeLint.Source CodeLint.Text

/-- A value that can be read back: its whole numbers are not too long, its reals are proper. -/
inductive Writable : Json → Prop
  | null : Writable .null
  | bool (b : Bool) : Writable (.bool b)
  | int {i : Int} (h : (Nat.toDigits 10 i.natAbs).length ≤ maxDigits) : Writable (.int i)
  | real {x : Double} (h : x.Proper) : Writable (.real x)
  | text (s : String) : Writable (.text s)
  | list {js : List Json} (h : ∀ j ∈ js, Writable j) : Writable (.list js)
  | object {ms : List (String × Json)} (h : ∀ m ∈ ms, Writable m.2) : Writable (.object ms)

/-! ### Texts -/

theorem hexValue_digit : ∀ k : Fin 16,
    hexValue ((Nat.toDigits 16 k).headD '0') = k ∧ isHexDigit ((Nat.toDigits 16 k).headD '0') = true ∧
      0x20 ≤ ((Nat.toDigits 16 k).headD '0').toNat ∧
      ((Nat.toDigits 16 k).headD '0').toNat < 0x7f := by
  decide

theorem hexDigits_spec (k n : Nat) :
    (hexDigits k n).length = k ∧ (hexDigits k n).all isHexDigit = true ∧
      hexNumber (hexDigits k n) = n % 16 ^ k := by
  induction k generalizing n with
  | zero => simp [hexDigits, hexNumber, Nat.mod_one]
  | succ k ih =>
    obtain ⟨hlength, hall, hnumber⟩ := ih (n / 16)
    obtain ⟨hvalue, hhex, -⟩ := hexValue_digit ⟨n % 16, Nat.mod_lt n (by decide)⟩
    refine ⟨by simp [hexDigits, hlength], ?_, ?_⟩
    · rw [hexDigits, List.all_append, hall, List.all_cons, hhex]
      rfl
    rw [hexDigits, hexNumber, List.foldl_append, ← hexNumber, hnumber, List.foldl_cons,
      List.foldl_nil, hvalue, Nat.pow_succ, Nat.mul_comm (16 ^ k), Nat.mod_mul]
    simp only
    omega

theorem hex4?_hexDigits {n : Nat} (hn : n < 0x10000) (rest : List Char) :
    hex4? (hexDigits 4 n ++ rest) = some n := by
  obtain ⟨hlength, hall, hnumber⟩ := hexDigits_spec 4 n
  have htake : (hexDigits 4 n ++ rest).take 4 = hexDigits 4 n := by
    rw [List.take_append_of_le_length (by omega), List.take_of_length_le (by omega)]
  rw [hex4?]
  simp only [htake, hlength, hall, hnumber]
  rw [Nat.mod_eq_of_lt (by omega)]
  rfl

theorem drop_hexDigits (n : Nat) (rest : List Char) : (hexDigits 4 n ++ rest).drop 4 = rest := by
  have hlength := (hexDigits_spec 4 n).1
  rw [List.drop_append_of_le_length (by omega), List.drop_of_length_le (by omega), List.nil_append]

theorem numberEscape?_unit {n : Nat} (hn : n < 0x10000) (hunit : n < 0xD800 ∨ 0xDFFF < n)
    {rest : List Char} (hrest : rest ≠ []) :
    numberEscape? (hexDigits 4 n ++ rest) = some (Char.ofNat n, rest) := by
  obtain ⟨c, cs, rfl⟩ := List.exists_cons_of_ne_nil hrest
  have hlow : ¬ (decide (0xD800 ≤ n) && decide (n ≤ 0xDBFF)) = true := by
    simp only [Bool.and_eq_true, decide_eq_true_eq]
    omega
  have hboth : ¬ (decide (0xD800 ≤ n) && decide (n ≤ 0xDFFF)) = true := by
    simp only [Bool.and_eq_true, decide_eq_true_eq]
    omega
  simp only [numberEscape?, hex4?_hexDigits hn, drop_hexDigits, hlow, characterOf, hboth]
  rfl

theorem numberEscape?_pair {a b : Nat} (ha : a < 1024) (hb : b < 1024) (rest : List Char) :
    numberEscape? (hexDigits 4 (0xD800 + a) ++ (codeUnit (0xDC00 + b) ++ rest)) =
      some (Char.ofNat (0x10000 + a * 1024 + b), rest) := by
  have hfirst : (decide (0xD800 ≤ 0xD800 + a) && decide (0xD800 + a ≤ 0xDBFF)) = true := by
    simp only [Bool.and_eq_true, decide_eq_true_eq]
    omega
  have hsecond : (decide (0xDC00 ≤ 0xDC00 + b) && decide (0xDC00 + b ≤ 0xDFFF)) = true := by
    simp only [Bool.and_eq_true, decide_eq_true_eq]
    omega
  rw [codeUnit, List.cons_append, List.cons_append, numberEscape?,
    hex4?_hexDigits (by omega), drop_hexDigits]
  simp only [hfirst, if_true, hex4?_hexDigits (show 0xDC00 + b < 0x10000 by omega), hsecond,
    drop_hexDigits, Nat.add_sub_cancel_left]

theorem shortEscape?_names :
    ∀ p ∈ shortNames, p.2 ≠ 'u' ∧ shortEscape? p.2 = some p.1 ∧
      0x20 ≤ p.2.toNat ∧ p.2.toNat < 0x7f := by
  decide

theorem shortNames_complete {c : Char} (h : shortNames.lookup c = none) : c ≠ '"' ∧ c ≠ '\\' := by
  constructor <;> rintro rfl <;> exact absurd h (by decide)

theorem readText_escape (opened n : Nat) (c : Char) {rest : List Char} (hrest : rest ≠ [])
    (acc : List Char) :
    readText opened (n + 1) (asciiEscape c ++ rest) acc = readText opened n rest (c :: acc) := by
  unfold asciiEscape
  cases hshort : shortNames.lookup c with
  | some e =>
    obtain ⟨hu, hescape, -⟩ := shortEscape?_names (c, e) (mem_of_lookup hshort)
    simp only [List.cons_append, List.nil_append]
    rw [readText]
    · simp only [hescape]
    · exact fun h => hu h
  | none =>
    obtain ⟨hquote, hslash⟩ := shortNames_complete hshort
    -- No character lies among the code units that pairs are made of, so the reader cannot take one
    -- unit for the first half of a pair.
    have hvalid : c.toNat < 0xD800 ∨ 0xDFFF < c.toNat ∧ c.toNat < 0x110000 := c.valid
    simp only
    split
    · next hvisible =>
      simp only [Bool.and_eq_true, decide_eq_true_eq] at hvisible
      have hcontrol : ¬ c.toNat < 0x20 := by omega
      rw [List.singleton_append, readText]
      · rw [if_neg hcontrol]
      all_goals simp [hquote, hslash]
    split
    · next hsmall =>
      rw [codeUnit, List.cons_append, List.cons_append, readText,
        numberEscape?_unit hsmall (by omega) hrest]
      simp
    · next hlarge =>
      have hpair := numberEscape?_pair (a := (c.toNat - 0x10000) / 1024)
        (b := (c.toNat - 0x10000) % 1024) (by omega) (by omega) rest
      rw [show 0x10000 + (c.toNat - 0x10000) / 1024 * 1024 + (c.toNat - 0x10000) % 1024 = c.toNat by
        omega, Char.ofNat_toNat] at hpair
      rw [codeUnit, List.append_assoc, List.cons_append, List.cons_append, readText, hpair]

theorem asciiEscape_pos (c : Char) : 1 ≤ (asciiEscape c).length := by
  unfold asciiEscape
  split
  · simp
  · split
    · simp
    · split <;> simp [codeUnit]

theorem length_le_flatMap_escape (cs : List Char) : cs.length ≤ (cs.flatMap asciiEscape).length := by
  induction cs with
  | nil => simp
  | cons c cs ih =>
    have hc := asciiEscape_pos c
    simp only [List.flatMap_cons, List.length_cons, List.length_append]
    omega

theorem readText_chars (opened : Nat) (cs rest acc : List Char) {n : Nat} (hn : cs.length < n) :
    readText opened n (cs.flatMap asciiEscape ++ '"' :: rest) acc =
      .ok (cs.reverse ++ acc, rest) := by
  induction cs generalizing n acc with
  | nil =>
    obtain ⟨k, rfl⟩ : ∃ k, n = k + 1 := ⟨n - 1, by omega⟩
    rfl
  | cons c cs ih =>
    obtain ⟨k, rfl⟩ : ∃ k, n = k + 1 := ⟨n - 1, by omega⟩
    rw [List.flatMap_cons, List.append_assoc, readText_escape _ _ _ (by simp),
      ih _ (by rw [List.length_cons] at hn; omega)]
    simp

theorem readString_quoteChars (s : String) (rest : List Char) :
    readString (s.toList.flatMap asciiEscape ++ '"' :: rest) = .ok (s, rest) := by
  have hlength := length_le_flatMap_escape s.toList
  rw [readString, readText_chars _ _ _ _ (by rw [List.length_append]; omega)]
  simp only [bind, Except.bind, List.append_nil, List.reverse_reverse, String.ofList_toList]
  rfl

/-! ### Numbers -/

theorem ne_of_isDigit {c d : Char} (hd : d.isDigit = true) (hc : c.isDigit = false) : d ≠ c := by
  rintro rfl
  rw [hd] at hc
  cases hc

theorem isBlank_digit {d : Char} (hd : d.isDigit = true) : isBlank d = false := by
  simp [isBlank, ne_of_isDigit hd (by decide : ' '.isDigit = false),
    ne_of_isDigit hd (by decide : '\t'.isDigit = false),
    ne_of_isDigit hd (by decide : '\n'.isDigit = false),
    ne_of_isDigit hd (by decide : '\r'.isDigit = false)]

def StartsNumber (cs : List Char) : Prop := ∃ negative d ds, d.isDigit = true ∧
  cs = signChars negative ++ d :: ds

theorem readWord_number {cs : List Char} (h : StartsNumber cs) : readWord cs = none := by
  obtain ⟨negative, d, ds, hd, rfl⟩ := h
  have hother : ∀ c : Char, c.isDigit = false → c ≠ d := fun c hc => (ne_of_isDigit hd hc).symm
  have hfind : (words.find? fun w => w.1.toList.isPrefixOf (signChars negative ++ d :: ds)) =
      none := by
    rw [List.find?_eq_none]
    intro w hw
    simp only [words, List.mem_cons, List.not_mem_nil, or_false] at hw
    rcases hw with rfl | rfl | rfl | rfl | rfl | rfl <;> cases negative <;>
      simp [signChars, List.isPrefixOf, hother]
  rw [readWord, hfind]

theorem readValue_other (n : Nat) {c : Char} (cs : List Char) (hblank : isBlank c = false)
    (hquote : c ≠ '"') (hlist : c ≠ '[') (hobject : c ≠ '\x7b') :
    readValue (n + 1) (c :: cs) = (readWord (c :: cs)).elim (readNumber (c :: cs)) .ok := by
  have hskip : skipBlanks (c :: cs) = c :: cs := by simp [skipBlanks, hblank]
  rw [readValue, hskip]
  split
  · next heq => exact absurd (List.cons.inj heq).1 hquote
  · next heq => exact absurd (List.cons.inj heq).1 hlist
  · next heq => exact absurd (List.cons.inj heq).1 hobject
  · cases readWord (c :: cs) <;> rfl

theorem readValue_number (n : Nat) {cs : List Char} (h : StartsNumber cs) :
    readValue (n + 1) cs = readNumber cs := by
  have hword := readWord_number h
  obtain ⟨negative, d, ds, hd, rfl⟩ := h
  cases negative with
  | true =>
    rw [signChars, if_pos rfl, List.singleton_append] at hword ⊢
    rw [readValue_other n _ (by decide) (by decide) (by decide) (by decide), hword]
    rfl
  | false =>
    rw [signChars, if_neg (by decide), List.nil_append] at hword ⊢
    rw [readValue_other n _ (isBlank_digit hd) (ne_of_isDigit hd (by decide))
      (ne_of_isDigit hd (by decide)) (ne_of_isDigit hd (by decide)), hword]
    rfl

theorem word_eq {v w : String × Json} (hv : v ∈ words) (hw : w ∈ words) {as bs : List Char}
    (h : v.1.toList ++ as = w.1.toList ++ bs) : v = w := by
  have hfirst : ∀ u ∈ words, u.1.toList.head?.isSome = true := by
    simp only [words, List.forall_mem_cons]
    decide +kernel
  have hnodup : (words.map (·.1.toList.head?)).Nodup := by decide +kernel
  obtain ⟨c, hc⟩ := Option.isSome_iff_exists.mp (hfirst v hv)
  obtain ⟨d, hd⟩ := Option.isSome_iff_exists.mp (hfirst w hw)
  have hheads := congrArg List.head? h
  rw [List.head?_append, List.head?_append, hc, hd] at hheads
  refine List.inj_on_of_nodup_map hnodup hv hw ?_
  rw [hc, hd]
  exact hheads

theorem readWord_word {w : String × Json} (hw : w ∈ words) (rest : List Char) :
    readWord (w.1.toList ++ rest) = some (w.2, rest) := by
  have hfind : (words.find? fun v => v.1.toList.isPrefixOf (w.1.toList ++ rest)) = some w := by
    have hstarts : w.1.toList.isPrefixOf (w.1.toList ++ rest) = true :=
      List.isPrefixOf_iff_prefix.mpr (List.prefix_append _ _)
    have hsome : (words.find? fun v => v.1.toList.isPrefixOf (w.1.toList ++ rest)).isSome = true :=
      List.find?_isSome.mpr ⟨w, hw, hstarts⟩
    obtain ⟨v, hv⟩ := Option.isSome_iff_exists.mp hsome
    have hmem := List.mem_of_find?_eq_some hv
    have hfound : v.1.toList.isPrefixOf (w.1.toList ++ rest) = true := by
      simpa only using List.find?_some hv
    obtain ⟨behind, hbehind⟩ := List.isPrefixOf_iff_prefix.mp hfound
    rw [hv, word_eq hmem hw hbehind]
  rw [readWord, hfind]
  simp only [← String.length_toList, List.drop_left]

theorem readValue_word (n : Nat) {w : String × Json} (hw : w ∈ words) (rest : List Char) :
    readValue (n + 1) (w.1.toList ++ rest) = .ok (w.2, rest) := by
  have hword := readWord_word hw rest
  have hstart : ∃ c cs, w.1.toList ++ rest = c :: cs ∧ isBlank c = false ∧ c ≠ '"' ∧ c ≠ '[' ∧
      c ≠ '\x7b' := by
    simp only [words, List.mem_cons, List.not_mem_nil, or_false] at hw
    rcases hw with rfl | rfl | rfl | rfl | rfl | rfl <;> simp [isBlank]
  obtain ⟨c, cs, hcs, hblank, hquote, hlist, hobject⟩ := hstart
  rw [hcs] at hword ⊢
  rw [readValue_other n cs hblank hquote hlist hobject, hword]
  rfl

theorem StartsNumber.append {cs : List Char} (h : StartsNumber cs) (rest : List Char) :
    StartsNumber (cs ++ rest) := by
  obtain ⟨negative, d, ds, hd, rfl⟩ := h
  exact ⟨negative, d, ds ++ rest, hd, by rw [List.append_assoc, List.cons_append]⟩

theorem startsNumber_double {s : Bool} {b : Binary} (hb : b.Proper) :
    StartsNumber (Double.finite s b).text.toList := by
  obtain ⟨t, hvalid, hchars, -⟩ := Binary.text_realText hb
  obtain ⟨d, ds, hds⟩ := List.exists_cons_of_ne_nil hvalid.whole.1
  refine ⟨s, d, ds ++ t.partChars ++ t.powerChars,
    hvalid.whole.2 d (by rw [hds]; exact List.mem_cons_self), ?_⟩
  rw [Double.text, String.toList_ofList, ← hchars, RealText.chars, hds]
  cases s <;> simp [signChars]

theorem readValue_double (n : Nat) {x : Double} (hx : x.Proper) {rest : List Char}
    (hrest : EndsNumber rest) :
    readValue (n + 1) ((realText x).toList ++ rest) = .ok (.real x, rest) := by
  cases x with
  | undefined => exact readValue_word n (w := ("NaN", .real .undefined)) (by simp [words]) rest
  | infinite s =>
    cases s with
    | false =>
      exact readValue_word n (w := ("Infinity", .real (.infinite false))) (by simp [words]) rest
    | true =>
      exact readValue_word n (w := ("-Infinity", .real (.infinite true))) (by simp [words]) rest
  | finite s b =>
    rw [show realText (.finite s b) = (Double.finite s b).text from rfl,
      readValue_number n ((startsNumber_double hx).append rest), readNumber_double hx hrest]

theorem toList_toString (i : Int) :
    (toString i).toList = signChars (decide (i < 0)) ++ Nat.toDigits 10 i.natAbs := by
  cases i with
  | ofNat n =>
    rw [show toString (Int.ofNat n) = toString n from rfl, Nat.toString_eq_ofList_toDigits,
      String.toList_ofList]
    rfl
  | negSucc n =>
    rw [show toString (Int.negSucc n) = "-" ++ toString (n + 1) from rfl,
      Nat.toString_eq_ofList_toDigits, String.toList_append, String.toList_ofList,
      String.toList_ofList, signChars, if_pos (decide_eq_true (Int.negSucc_lt_zero n)),
      Int.natAbs_negSucc]

theorem startsNumber_int (i : Int) : StartsNumber (toString i).toList := by
  obtain ⟨d, ds, hds⟩ := List.exists_cons_of_ne_nil (Nat.toDigits_ne_nil (b := 10) (n := i.natAbs))
  refine ⟨decide (i < 0), d, ds, isDigit_toDigits i.natAbs d ?_, ?_⟩
  · rw [hds]
    exact List.mem_cons_self
  · rw [toList_toString, hds]

theorem readValue_int (n : Nat) {i : Int} (hi : (Nat.toDigits 10 i.natAbs).length ≤ maxDigits)
    {rest : List Char} (hrest : EndsNumber rest) :
    readValue (n + 1) ((toString i).toList ++ rest) = .ok (.int i, rest) := by
  have hstart : Nat.toDigits 10 i.natAbs = ['0'] ∨ Nat.toDigits 10 i.natAbs ≠ [] ∧
      (Nat.toDigits 10 i.natAbs).head? ≠ some '0' := by
    rcases Nat.eq_zero_or_pos i.natAbs with hzero | hpos
    · rw [hzero]
      exact .inl rfl
    · exact .inr ⟨Nat.toDigits_ne_nil, head_toDigits hpos⟩
  have hsplit := readNumber_split (decide (i < 0)) [] []
    (isDigit_toDigits i.natAbs) hstart (fun c hc => (hrest c hc).1)
    (fractionPart_other fun c hc => (hrest c hc).2.1)
    (exponentPart_other fun c hc => (hrest c hc).2.2)
  rw [readValue_number n ((startsNumber_int i).append rest), toList_toString, List.append_assoc]
  rw [List.nil_append, List.nil_append] at hsplit
  rw [hsplit]
  simp only [List.isEmpty_nil, Bool.and_self, if_true, if_neg (Nat.not_lt.mpr hi),
    decimalNumber_toDigits, decide_eq_true_eq]
  congr 3
  split <;> omega

/-! ### Values -/

def Reads (j : Json) : Prop := ∀ n rest, (chars j).length ≤ n → EndsNumber rest →
  readValue n (chars j ++ rest) = .ok (j, rest)

theorem endsNumber_cons {c : Char} (hc : c = ',' ∨ c = ']' ∨ c = '\x7d') (rest : List Char) :
    EndsNumber (c :: rest) := by
  rintro d ⟨⟩
  rcases hc with rfl | rfl | rfl <;> decide

theorem readValue_blank {n : Nat} (hn : 0 < n) (cs : List Char) :
    readValue n (' ' :: cs) = readValue n cs := by
  obtain ⟨k, rfl⟩ : ∃ k, n = k + 1 := ⟨n - 1, by omega⟩
  rw [readValue, readValue, show skipBlanks (' ' :: cs) = skipBlanks cs from rfl]

theorem readElements_blank {n : Nat} (hn : 1 < n) (cs : List Char) :
    readElements n (' ' :: cs) = readElements n cs := by
  obtain ⟨k, rfl⟩ : ∃ k, n = k + 1 := ⟨n - 1, by omega⟩
  rw [readElements, readElements, readValue_blank (by omega)]

theorem readMembers_blank (n : Nat) (cs : List Char) :
    readMembers (n + 1) (' ' :: cs) = readMembers (n + 1) cs := by
  rw [readMembers, readMembers, show skipBlanks (' ' :: cs) = skipBlanks cs from rfl]

theorem readElements_chars {j : Json} {js : List Json} (hj : Reads j) (hjs : ∀ k ∈ js, Reads k)
    {n : Nat} (hn : (chars j).length + (charsAfter js).length < n) (rest : List Char) :
    readElements n (chars j ++ (charsAfter js ++ ']' :: rest)) = .ok (j :: js, rest) := by
  induction js generalizing j n with
  | nil =>
    obtain ⟨k, rfl⟩ : ∃ k, n = k + 1 := ⟨n - 1, by omega⟩
    rw [charsAfter, List.nil_append, readElements,
      hj k _ (by omega) (endsNumber_cons (.inr (.inl rfl)) rest)]
    rfl
  | cons j' js ih =>
    obtain ⟨k, rfl⟩ : ∃ k, n = k + 1 := ⟨n - 1, by omega⟩
    rw [charsAfter, List.length_cons, List.length_cons, List.length_append] at hn
    have hrest := ih (hjs j' List.mem_cons_self) (fun k hk => hjs k (List.mem_cons_of_mem j' hk))
      (n := k) (by omega)
    rw [charsAfter, List.cons_append, List.cons_append, List.append_assoc, readElements,
      hj k _ (by omega) (endsNumber_cons (.inl rfl) _)]
    simp only [bind, Except.bind]
    rw [show skipBlanks (',' :: ' ' :: (chars j' ++ (charsAfter js ++ ']' :: rest))) =
      ',' :: ' ' :: (chars j' ++ (charsAfter js ++ ']' :: rest)) from rfl]
    simp only [readElements_blank (show 1 < k by omega), hrest]
    rfl

theorem readMembers_last {k : Nat} (hk : 0 < k) {name : String} {j : Json} {cs rest : List Char}
    (hvalue : readValue k cs = .ok (j, '\x7d' :: rest)) :
    readMembers (k + 1) (quoteChars name ++ (':' :: ' ' :: cs)) = .ok ([(name, j)], rest) := by
  rw [quoteChars, List.cons_append, List.append_assoc, List.singleton_append, readMembers]
  simp [skipBlanks, isBlank, readString_quoteChars, readValue_blank hk, hvalue, bind, Except.bind,
    pure, Except.pure]

theorem readMembers_more {k : Nat} (hk : 0 < k) {name : String} {j : Json}
    {ms : List (String × Json)} {cs more rest : List Char}
    (hvalue : readValue k cs = .ok (j, ',' :: more)) (hmore : readMembers k more = .ok (ms, rest)) :
    readMembers (k + 1) (quoteChars name ++ (':' :: ' ' :: cs)) = .ok ((name, j) :: ms, rest) := by
  rw [quoteChars, List.cons_append, List.append_assoc, List.singleton_append, readMembers]
  simp [skipBlanks, isBlank, readString_quoteChars, readValue_blank hk, hvalue, hmore, bind,
    Except.bind, pure, Except.pure]

theorem readMembers_chars {name : String} {j : Json} {ms : List (String × Json)} (hj : Reads j)
    (hms : ∀ m ∈ ms, Reads m.2) {n : Nat}
    (hn : (chars j).length + (membersAfter ms).length + 1 < n) (rest : List Char) :
    readMembers n (quoteChars name ++
      (':' :: ' ' :: (chars j ++ (membersAfter ms ++ '\x7d' :: rest)))) =
        .ok ((name, j) :: ms, rest) := by
  induction ms generalizing name j n with
  | nil =>
    obtain ⟨k, rfl⟩ : ∃ k, n = k + 1 := ⟨n - 1, by omega⟩
    exact readMembers_last (by omega) (hj k _ (by omega) (endsNumber_cons (.inr (.inr rfl)) rest))
  | cons m ms ih =>
    obtain ⟨k, rfl⟩ : ∃ k, n = k + 1 := ⟨n - 1, by omega⟩
    obtain ⟨name', j'⟩ := m
    rw [membersAfter] at hn ⊢
    simp only [List.length_cons, List.length_append] at hn
    have hrest : readMembers k (quoteChars name' ++
        (':' :: ' ' :: (chars j' ++ (membersAfter ms ++ '\x7d' :: rest)))) =
          .ok ((name', j') :: ms, rest) :=
      ih (hms (name', j') List.mem_cons_self) (fun m hm => hms m (List.mem_cons_of_mem _ hm))
        (by simp only; omega)
    simp only [List.cons_append, List.append_assoc]
    refine readMembers_more (by omega) (hj k _ (by omega) (endsNumber_cons (.inl rfl) _)) ?_
    obtain ⟨i, rfl⟩ : ∃ i, k = i + 1 := ⟨k - 1, by omega⟩
    rw [readMembers_blank]
    exact hrest

/-- A text that begins with a value, and so is neither blank nor the end of a list or an object. -/
def StartsValue (cs : List Char) : Prop :=
  ∃ c ds, cs = c :: ds ∧ isBlank c = false ∧ c ≠ ']' ∧ c ≠ '\x7d'

theorem StartsNumber.startsValue {cs : List Char} (h : StartsNumber cs) : StartsValue cs := by
  obtain ⟨negative, d, ds, hd, rfl⟩ := h
  cases negative with
  | true => exact ⟨'-', d :: ds, rfl, by decide, by decide, by decide⟩
  | false =>
    exact ⟨d, ds, rfl, isBlank_digit hd, ne_of_isDigit hd (by decide), ne_of_isDigit hd (by decide)⟩

theorem startsValue_chars {j : Json} (h : Writable j) : StartsValue (chars j) := by
  cases h with
  | null => exact ⟨'n', _, rfl, by decide, by decide, by decide⟩
  | bool b =>
    cases b with
    | true => exact ⟨'t', _, rfl, by decide, by decide, by decide⟩
    | false => exact ⟨'f', _, rfl, by decide, by decide, by decide⟩
  | int h => exact (startsNumber_int _).startsValue
  | @real x h =>
    cases x with
    | undefined => exact ⟨'N', ['a', 'N'], rfl, by decide, by decide, by decide⟩
    | infinite s =>
      cases s with
      | false => exact ⟨'I', "nfinity".toList, rfl, by decide, by decide, by decide⟩
      | true => exact ⟨'-', "Infinity".toList, rfl, by decide, by decide, by decide⟩
    | finite s b => exact (startsNumber_double h).startsValue
  | text s => exact ⟨'"', _, rfl, by decide, by decide, by decide⟩
  | @list js h =>
    cases js <;> rw [chars] <;> exact ⟨'[', _, rfl, by decide, by decide, by decide⟩
  | @object ms h =>
    cases ms <;> rw [chars] <;> exact ⟨'\x7b', _, rfl, by decide, by decide, by decide⟩

theorem readValue_list {n : Nat} {js : List Json} {cs rest : List Char} (hstart : StartsValue cs)
    (h : readElements n cs = .ok (js, rest)) :
    readValue (n + 1) ('[' :: cs) = .ok (.list js, rest) := by
  obtain ⟨c, ds, rfl, hblank, hend, -⟩ := hstart
  have hskip : skipBlanks (c :: ds) = c :: ds := by simp [skipBlanks, hblank]
  rw [readValue, show skipBlanks ('[' :: c :: ds) = '[' :: c :: ds from rfl]
  simp only [hskip]
  split
  · next heq => exact absurd (List.cons.inj heq).1 hend
  · rw [h]
    rfl

theorem readValue_object {n : Nat} {ms : List (String × Json)} {cs rest : List Char}
    (hstart : StartsValue cs) (h : readMembers n cs = .ok (ms, rest)) :
    readValue (n + 1) ('\x7b' :: cs) = .ok (.object ms, rest) := by
  obtain ⟨c, ds, rfl, hblank, -, hend⟩ := hstart
  have hskip : skipBlanks (c :: ds) = c :: ds := by simp [skipBlanks, hblank]
  rw [readValue, show skipBlanks ('\x7b' :: c :: ds) = '\x7b' :: c :: ds from rfl]
  simp only [hskip]
  split
  · next heq => exact absurd (List.cons.inj heq).1 hend
  · rw [h]
    rfl

theorem reads_of_writable {j : Json} (h : Writable j) : Reads j := by
  -- No value is written as an empty text, so there is fuel for a step.
  have hsucc : ∀ {cs : List Char} {m : Nat}, StartsValue cs → cs.length ≤ m → ∃ k, m = k + 1 := by
    rintro cs m ⟨c, ds, rfl, -⟩ hm
    exact ⟨m - 1, by rw [List.length_cons] at hm; omega⟩
  induction h with
  | null =>
    intro n rest hn hrest
    obtain ⟨k, rfl⟩ := hsucc (startsValue_chars .null) hn
    exact readValue_word k (w := ("null", .null)) (by simp [words]) rest
  | bool b =>
    intro n rest hn hrest
    obtain ⟨k, rfl⟩ := hsucc (startsValue_chars (.bool b)) hn
    cases b with
    | true => exact readValue_word k (w := ("true", .bool true)) (by simp [words]) rest
    | false => exact readValue_word k (w := ("false", .bool false)) (by simp [words]) rest
  | int h =>
    intro n rest hn hrest
    obtain ⟨k, rfl⟩ := hsucc (startsValue_chars (.int h)) hn
    exact readValue_int k h hrest
  | real h =>
    intro n rest hn hrest
    obtain ⟨k, rfl⟩ := hsucc (startsValue_chars (.real h)) hn
    exact readValue_double k h hrest
  | text s =>
    intro n rest hn hrest
    obtain ⟨k, rfl⟩ := hsucc (startsValue_chars (.text s)) hn
    rw [chars, quoteChars, List.cons_append, List.append_assoc, List.singleton_append, readValue]
    simp [skipBlanks, isBlank, readString_quoteChars, bind, Except.bind, pure, Except.pure]
  | @list js h ih =>
    intro n rest hn hrest
    obtain ⟨k, rfl⟩ := hsucc (startsValue_chars (.list h)) hn
    cases js with
    | nil => rfl
    | cons j js =>
      rw [chars] at hn ⊢
      simp only [List.length_cons, List.length_append] at hn
      simp only [List.cons_append, List.append_assoc, List.nil_append]
      refine readValue_list ?_ (readElements_chars (ih j List.mem_cons_self)
        (fun i hi => ih i (List.mem_cons_of_mem j hi)) (by simp at hn; omega) rest)
      obtain ⟨c, ds, hds, hc⟩ := startsValue_chars (h j List.mem_cons_self)
      exact ⟨c, _, by rw [hds, List.cons_append], hc⟩
  | @object ms h ih =>
    intro n rest hn hrest
    obtain ⟨k, rfl⟩ := hsucc (startsValue_chars (.object h)) hn
    cases ms with
    | nil => rfl
    | cons m ms =>
      obtain ⟨name, j⟩ := m
      rw [chars] at hn ⊢
      simp only [List.length_cons, List.length_append] at hn
      simp only [List.cons_append, List.append_assoc, List.nil_append]
      refine readValue_object ⟨'"', _, rfl, by decide, by decide, by decide⟩
        (readMembers_chars (j := j) (ih (name, j) List.mem_cons_self)
          (fun m hm => ih m (List.mem_cons_of_mem _ hm)) (by simp at hn; omega) rest)

theorem read_chars {j : Json} (h : Writable j) : read (String.ofList (chars j)) = .ok j := by
  have hvalue := reads_of_writable h (2 * (chars j).length + 2) [] (by omega) (by simp [EndsNumber])
  rw [List.append_nil] at hvalue
  rw [read, String.toList_ofList, hvalue]
  rfl

/-! ### One line -/

def Visible (cs : List Char) : Prop := ∀ c ∈ cs, 0x20 ≤ c.toNat ∧ c.toNat < 0x7f

theorem visible_of_all {cs : List Char}
    (h : (cs.all fun c => decide (0x20 ≤ c.toNat ∧ c.toNat < 0x7f)) = true) : Visible cs :=
  fun c hc => of_decide_eq_true (List.all_eq_true.mp h c hc)

theorem visible_nil : Visible [] := fun _ hc => absurd hc List.not_mem_nil

theorem visible_cons {c : Char} {cs : List Char} :
    Visible (c :: cs) ↔ (0x20 ≤ c.toNat ∧ c.toNat < 0x7f) ∧ Visible cs :=
  List.forall_mem_cons

theorem visible_append {cs ds : List Char} : Visible (cs ++ ds) ↔ Visible cs ∧ Visible ds :=
  List.forall_mem_append

theorem visible_digits {ds : List Char} (h : ∀ c ∈ ds, c.isDigit = true) : Visible ds := by
  intro c hc
  have hdigit : 48 ≤ c.toNat ∧ c.toNat ≤ 57 := by
    simpa [Char.isDigit, UInt32.le_iff_toNat_le] using h c hc
  omega

theorem visible_hexDigits (k n : Nat) : Visible (hexDigits k n) := by
  induction k generalizing n with
  | zero => exact visible_nil
  | succ k ih =>
    have hdigit := (hexValue_digit ⟨n % 16, Nat.mod_lt n (by decide)⟩).2.2
    exact visible_append.mpr ⟨ih _, visible_cons.mpr ⟨hdigit, visible_nil⟩⟩

theorem visible_codeUnit (n : Nat) : Visible (codeUnit n) :=
  visible_cons.mpr ⟨by decide, visible_cons.mpr ⟨by decide, visible_hexDigits 4 n⟩⟩

theorem visible_asciiEscape (c : Char) : Visible (asciiEscape c) := by
  unfold asciiEscape
  cases hshort : shortNames.lookup c with
  | some e =>
    have he := (shortEscape?_names (c, e) (mem_of_lookup hshort)).2.2
    exact visible_cons.mpr ⟨by decide, visible_cons.mpr ⟨he, visible_nil⟩⟩
  | none =>
    simp only
    split
    · next hvisible =>
      simp only [Bool.and_eq_true, decide_eq_true_eq] at hvisible
      exact visible_cons.mpr ⟨hvisible, visible_nil⟩
    · split
      · exact visible_codeUnit _
      · exact visible_append.mpr ⟨visible_codeUnit _, visible_codeUnit _⟩

theorem visible_quoteChars (s : String) : Visible (quoteChars s) := by
  have hescaped : Visible (s.toList.flatMap asciiEscape) := by
    intro c hc
    obtain ⟨d, -, hd⟩ := List.mem_flatMap.mp hc
    exact visible_asciiEscape d c hd
  have hquote : Visible ['"'] := visible_cons.mpr ⟨by decide, visible_nil⟩
  exact visible_cons.mpr ⟨by decide, visible_append.mpr ⟨hescaped, hquote⟩⟩

theorem visible_signChars (s : Bool) : Visible (signChars s) := by
  cases s with
  | true => exact visible_cons.mpr ⟨by decide, visible_nil⟩
  | false => exact visible_nil

theorem visible_realText (t : RealText) (h : t.Valid) : Visible t.chars := by
  refine visible_append.mpr ⟨visible_append.mpr ⟨visible_digits h.whole.2, ?_⟩, ?_⟩
  · unfold RealText.partChars
    split
    · exact visible_nil
    · exact visible_cons.mpr ⟨by decide, visible_digits h.part⟩
  · unfold RealText.powerChars
    cases hpower : t.power with
    | none => exact visible_nil
    | some p =>
      refine visible_cons.mpr ⟨by decide, visible_cons.mpr ⟨?_, visible_digits (h.power p hpower).2⟩⟩
      split <;> decide

theorem visible_double {x : Double} (hx : x.Proper) : Visible (realText x).toList := by
  cases x with
  | undefined => exact visible_of_all (by decide)
  | infinite s => cases s <;> exact visible_of_all (by decide)
  | finite s b =>
    obtain ⟨t, hvalid, hchars, -⟩ := Binary.text_realText (b := b) hx
    have htext : (realText (.finite s b)).toList = signChars s ++ t.chars := by
      rw [hchars, realText, Double.text, String.toList_ofList]
      · cases s <;> rfl
      all_goals simp
    rw [htext]
    exact visible_append.mpr ⟨visible_signChars s, visible_realText t hvalid⟩

theorem visible_charsAfter {js : List Json} (h : ∀ j ∈ js, Visible (chars j)) :
    Visible (charsAfter js) := by
  induction js with
  | nil => exact visible_nil
  | cons j js ih =>
    obtain ⟨hj, hjs⟩ := List.forall_mem_cons.mp h
    rw [charsAfter]
    simp only [visible_cons, visible_append]
    exact ⟨by decide, by decide, hj, ih hjs⟩

theorem visible_membersAfter {ms : List (String × Json)} (h : ∀ m ∈ ms, Visible (chars m.2)) :
    Visible (membersAfter ms) := by
  induction ms with
  | nil => exact visible_nil
  | cons m ms ih =>
    obtain ⟨hm, hms⟩ := List.forall_mem_cons.mp h
    rw [membersAfter]
    simp only [visible_cons, visible_append]
    exact ⟨by decide, by decide, visible_quoteChars _, by decide, by decide, hm, ih hms⟩

theorem visible_chars {j : Json} (h : Writable j) : Visible (chars j) := by
  induction h with
  | null => exact visible_of_all (by decide)
  | bool b => cases b <;> exact visible_of_all (by decide)
  | int h =>
    rw [chars, toList_toString]
    exact visible_append.mpr ⟨visible_signChars _, visible_digits (isDigit_toDigits _)⟩
  | real h => exact visible_double h
  | text s => exact visible_quoteChars s
  | @list js h ih =>
    cases js with
    | nil => exact visible_of_all (by decide)
    | cons j js =>
      obtain ⟨hj, hjs⟩ := List.forall_mem_cons.mp ih
      rw [chars]
      simp only [visible_cons, visible_append]
      exact ⟨by decide, hj, visible_charsAfter hjs, by decide, visible_nil⟩
  | @object ms h ih =>
    cases ms with
    | nil => exact visible_of_all (by decide)
    | cons m ms =>
      obtain ⟨hm, hms⟩ := List.forall_mem_cons.mp ih
      rw [chars]
      simp only [visible_cons, visible_append]
      exact ⟨by decide, visible_quoteChars _, by decide, by decide, hm, visible_membersAfter hms,
        by decide, visible_nil⟩

end CodeLint.Json
