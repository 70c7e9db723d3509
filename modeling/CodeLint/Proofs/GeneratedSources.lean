import CodeLint.Text.Digit
import CodeLint.Text.Word
import CodeLint.Workload.Source

/-!
What the generated sources refer to. The words of a line made from a template are the words of the
template with numbers in the place of the marks, so it can be read off the templates which imported
names a line mentions. Every member that is mentioned is imported. Of the modules, all are mentioned
up to the number of the imports, and half of them are imported.
-/

namespace CodeLint.Workload

open CodeLint.Text

/-! ### Words -/

def wordsIn (line : String) : List (List Char) := line.toList.splitOnP fun c => !isWord c

def Mentions (line name : String) : Prop := name.toList ∈ wordsIn line

instance (line name : String) : Decidable (Mentions line name) :=
  inferInstanceAs (Decidable (_ ∈ _))

theorem splitOnP_append {α : Type} {p : α → Bool} {xs : List α} (hxs : ∀ x ∈ xs, p x = false)
    (ys : List α) : (xs ++ ys).splitOnP p = (ys.splitOnP p).modifyHead (xs ++ ·) := by
  induction xs with
  | nil =>
    rw [List.nil_append]
    cases ys.splitOnP p <;> rfl
  | cons x xs ih =>
    obtain ⟨hx, hxs⟩ := List.forall_mem_cons.mp hxs
    rw [List.cons_append, List.splitOnP_cons_eq_if_modifyHead, if_neg (by simp [hx]), ih hxs,
      List.modifyHead_modifyHead]
    rfl

theorem splitOnP_flatMap {p q : Char → Bool} {f : Char → List Char}
    (hgap : ∀ c, q c = true → f c = [c] ∧ p c = true)
    (hword : ∀ c, q c = false → ∀ d ∈ f c, p d = false) (cs : List Char) :
    (cs.flatMap f).splitOnP p = (cs.splitOnP q).map (·.flatMap f) := by
  induction cs with
  | nil => simp
  | cons c cs ih =>
    rw [List.flatMap_cons, List.splitOnP_cons_eq_if_modifyHead]
    cases hc : q c with
    | true =>
      obtain ⟨hsame, hsep⟩ := hgap c hc
      rw [hsame, if_pos rfl, List.singleton_append, List.splitOnP_cons_eq_if_modifyHead,
        if_pos hsep, ih]
      rfl
    | false =>
      rw [splitOnP_append (hword c hc), ih, if_neg Bool.false_ne_true]
      cases cs.splitOnP q with
      | nil => rfl
      | cons word words => simp

/-! ### Templates -/

def isMark (c : Char) : Bool := c == '#' || c == '@'

def templateWords (t : List Char) : List (List Char) :=
  t.splitOnP fun c => !isWord c && !isMark c

def endsOf (stem t : List Char) : List (List Char) :=
  (templateWords t).filterMap fun u => if stem.isPrefixOf u then some (u.drop stem.length) else none

def fill (i k : Nat) (c : Char) : List Char :=
  if c == '#' then Nat.toDigits 10 i else if c == '@' then Nat.toDigits 10 k else [c]

theorem toList_toString (i : Nat) : (toString i).toList = Nat.toDigits 10 i := by
  rw [Nat.toString_eq_ofList_toDigits, String.toList_ofList]

theorem toList_filled (i k : Nat) (t : String) :
    (filled (toString i) (toString k) t).toList = t.toList.flatMap (fill i k) := by
  simp only [filled, String.toList_ofList, toList_toString]
  rfl

theorem isWord_of_isDigit {c : Char} (h : c.isDigit = true) : isWord c = true := by
  obtain ⟨hlow, hhigh⟩ : 48 ≤ c.toNat ∧ c.toNat ≤ 57 := by
    simpa [Char.isDigit, UInt32.le_iff_toNat_le] using h
  rw [isWord, wordRanges, inRanges, if_neg (by omega), decide_eq_true hhigh, Bool.true_or]

theorem isDigit_toDigits_ten {n : Nat} {c : Char} (h : c ∈ Nat.toDigits 10 n) : c.isDigit = true :=
  Nat.isDigit_of_mem_toDigits (by decide) (by decide) h

theorem fill_of_not_mark {i k : Nat} {c : Char} (h : isMark c = false) : fill i k c = [c] := by
  simp only [isMark, Bool.or_eq_false_iff] at h
  simp [fill, h.1, h.2]

theorem fill_of_mark {i k : Nat} {c : Char} (h : isMark c = true) :
    ∃ n, fill i k c = Nat.toDigits 10 n := by
  unfold fill
  split
  · exact ⟨i, rfl⟩
  · next hc =>
    rw [isMark, Bool.or_eq_true] at h
    rw [if_pos (h.resolve_left hc)]
    exact ⟨k, rfl⟩

theorem wordsIn_filled {i k : Nat} {line : String} {t : List Char}
    (hline : line.toList = t.flatMap (fill i k)) :
    wordsIn line = (templateWords t).map (·.flatMap (fill i k)) := by
  rw [wordsIn, hline, templateWords]
  refine splitOnP_flatMap (fun c hc => ?_) (fun c hc d hd => ?_) _
  · rw [Bool.and_eq_true, Bool.not_eq_true'] at hc
    exact ⟨fill_of_not_mark (by simpa using hc.2), by simpa using hc.1⟩
  · cases hmark : isMark c with
    | true =>
      obtain ⟨n, hn⟩ := fill_of_mark (i := i) (k := k) hmark
      rw [hn] at hd
      simp [isWord_of_isDigit (isDigit_toDigits_ten hd)]
    | false =>
      rw [fill_of_not_mark hmark, List.mem_singleton] at hd
      rw [hd]
      simpa [hmark] using hc

/-- A text without digits at the start of a filled word stood in the template already. -/
theorem isPrefix_of_isPrefix_flatMap {i k : Nat} {p u : List Char} (hp : ∀ c ∈ p, c.isDigit = false)
    (h : p <+: u.flatMap (fill i k)) : p <+: u := by
  induction p generalizing u with
  | nil => exact List.nil_prefix
  | cons c p ih =>
    obtain ⟨hc, hp⟩ := List.forall_mem_cons.mp hp
    cases u with
    | nil => exact absurd h (by simp)
    | cons d u =>
      rw [List.flatMap_cons] at h
      cases hmark : isMark d with
      | true =>
        obtain ⟨n, hn⟩ := fill_of_mark (i := i) (k := k) hmark
        rw [hn] at h
        obtain ⟨x, xs, hdigits⟩ :=
          List.exists_cons_of_ne_nil (Nat.toDigits_ne_nil (b := 10) (n := n))
        rw [hdigits, List.cons_append, List.cons_prefix_cons] at h
        have hdigit := isDigit_toDigits_ten (n := n) (c := x) (by rw [hdigits]; simp)
        rw [← h.1, hc] at hdigit
        cases hdigit
      | false =>
        rw [fill_of_not_mark hmark, List.singleton_append, List.cons_prefix_cons] at h
        exact List.cons_prefix_cons.mpr ⟨h.1, ih hp h.2⟩

theorem flatMap_fill_of_no_mark {i k : Nat} {p : List Char} (hp : ∀ c ∈ p, isMark c = false) :
    p.flatMap (fill i k) = p := by
  induction p with
  | nil => rfl
  | cons c p ih =>
    obtain ⟨hc, hp⟩ := List.forall_mem_cons.mp hp
    rw [List.flatMap_cons, fill_of_not_mark hc, ih hp]
    rfl

/-- A line from a template mentions a stem with a number exactly if behind the stem, in a word of
the template, stands what becomes that number. -/
theorem mentions_filled {i k j : Nat} {line stem : String} {t : List Char}
    (hline : line.toList = t.flatMap (fill i k))
    (hstem : ∀ c ∈ stem.toList, c.isDigit = false ∧ isMark c = false) :
    Mentions line (stem ++ toString j) ↔
      ∃ e ∈ endsOf stem.toList t, e.flatMap (fill i k) = Nat.toDigits 10 j := by
  have hsame (e : List Char) : (stem.toList ++ e).flatMap (fill i k) =
      stem.toList ++ e.flatMap (fill i k) := by
    rw [List.flatMap_append, flatMap_fill_of_no_mark fun c hc => (hstem c hc).2]
  rw [Mentions, wordsIn_filled hline, String.toList_append, toList_toString, List.mem_map]
  constructor
  · rintro ⟨u, hu, hfilled⟩
    obtain ⟨e, rfl⟩ := isPrefix_of_isPrefix_flatMap (fun c hc => (hstem c hc).1) ⟨_, hfilled.symm⟩
    rw [hsame] at hfilled
    refine ⟨e, List.mem_filterMap.mpr ⟨_, hu, ?_⟩, List.append_cancel_left hfilled⟩
    simp
  · rintro ⟨e, he, hfilled⟩
    obtain ⟨u, hu, hends⟩ := List.mem_filterMap.mp he
    obtain ⟨hbegins, hdrop⟩ := Option.ite_none_right_eq_some.mp hends
    obtain ⟨e', rfl⟩ := List.isPrefixOf_iff_prefix.mp hbegins
    obtain rfl : e' = e := by simpa using hdrop
    exact ⟨_, hu, by rw [hsame, hfilled]⟩

/-! ### The lines of the builders -/

def dashed (t : List Char) : List Char := t.flatMap fun c => if c == '#' then ['-', '#'] else [c]

theorem flatMap_congr {α β : Type} {f g : α → List β} {xs : List α} (h : ∀ x ∈ xs, f x = g x) :
    xs.flatMap f = xs.flatMap g := by
  rw [List.flatMap_def, List.flatMap_def, List.map_congr_left h]

theorem toList_tagged {t : String} (ht : '@' ∉ t.toList) (tag : Int) :
    ∃ i : Nat, (tagged tag t).toList = t.toList.flatMap (fill i i) ∨
      (tagged tag t).toList = (dashed t.toList).flatMap (fill i i) := by
  have hother {c : Char} (hc : c ∈ t.toList) : (c == '@') = false :=
    beq_eq_false_iff_ne.mpr fun h => ht (h ▸ hc)
  cases tag with
  | ofNat i =>
    refine ⟨i, .inl ?_⟩
    rw [tagged, filled, String.toList_ofList]
    refine flatMap_congr fun c hc => ?_
    have hdigits : (toString (Int.ofNat i)).toList = Nat.toDigits 10 i := toList_toString i
    rw [fill, hother hc, hdigits]
    rfl
  | negSucc i =>
    refine ⟨i + 1, .inr ?_⟩
    have hsign : (toString (Int.negSucc i)).toList = '-' :: Nat.toDigits 10 (i + 1) := by
      have htext : toString (Int.negSucc i) = "-" ++ toString (i + 1) := rfl
      rw [htext, String.toList_append, toList_toString]
      rfl
    rw [tagged, filled, String.toList_ofList, dashed, List.flatMap_assoc]
    refine flatMap_congr fun c hc => ?_
    cases hmark : c == '#' with
    | true =>
      have hminus : fill (i + 1) (i + 1) '-' = ['-'] := rfl
      have hnumber : fill (i + 1) (i + 1) '#' = Nat.toDigits 10 (i + 1) := rfl
      rw [if_pos rfl, if_pos rfl, hsign, List.flatMap_cons, List.flatMap_singleton, hminus, hnumber]
      rfl
    | false =>
      rw [if_neg Bool.false_ne_true, if_neg Bool.false_ne_true, hother hc, List.flatMap_singleton,
        fill, hmark, hother hc]
      rfl

def hasEnds (modules members : List (List Char)) (t : List Char) : Bool :=
  (endsOf "mod_a_".toList t).all modules.contains &&
    (endsOf "name_b_".toList t).all members.contains

theorem tagged_templates :
    (namingTemplates ++ namingEnd ++ controlFlowTemplates ++ comparisonTemplates).all (fun t =>
      hasEnds [['0']] [['0']] t.toList && hasEnds [['0']] [['0']] (dashed t.toList) &&
        !t.toList.contains '@') = true := by
  simp only [namingTemplates, namingEnd, controlFlowTemplates, comparisonTemplates,
    List.cons_append, List.nil_append, List.all_cons, List.all_nil]
  repeat rw [String.toList_ofList]
  decide +kernel

theorem class_templates :
    classTemplates.all (fun t => hasEnds [['@']] [['@']] t.toList) = true := by
  simp only [classTemplates, List.all_cons, List.all_nil]
  repeat rw [String.toList_ofList]
  decide +kernel

theorem Mentions.end_mem {i k j : Nat} {line stem : String} {t : List Char} {es : List (List Char)}
    (h : Mentions line (stem ++ toString j)) (hline : line.toList = t.flatMap (fill i k))
    (hstem : ∀ c ∈ stem.toList, c.isDigit = false ∧ isMark c = false)
    (hends : (endsOf stem.toList t).all es.contains = true) :
    ∃ e ∈ es, e.flatMap (fill i k) = Nat.toDigits 10 j := by
  obtain ⟨e, he, hfilled⟩ := (mentions_filled hline hstem).mp h
  exact ⟨e, List.contains_iff_mem.mp (List.all_eq_true.mp hends e he), hfilled⟩

theorem plain_of_not_any {p : List Char} (h : (p.any fun c => c.isDigit || isMark c) = false) :
    ∀ c ∈ p, c.isDigit = false ∧ isMark c = false := by
  intro c hc
  simpa using List.any_eq_false.mp h c hc

theorem moduleStem_plain : ∀ c ∈ "mod_a_".toList, c.isDigit = false ∧ isMark c = false :=
  plain_of_not_any (by decide +kernel)

theorem memberStem_plain : ∀ c ∈ "name_b_".toList, c.isDigit = false ∧ isMark c = false :=
  plain_of_not_any (by decide +kernel)

section Line

variable {i k j : Nat} {line : String} {t : List Char}

theorem eq_of_single_mark {c : Char} {m : Nat} (hc : fill i k c = Nat.toDigits 10 m)
    (h : ∃ e ∈ [[c]], e.flatMap (fill i k) = Nat.toDigits 10 j) : j = m := by
  obtain ⟨e, he, hfilled⟩ := h
  rw [List.mem_singleton.mp he, List.flatMap_singleton, hc] at hfilled
  exact (toDigits_inj hfilled).symm

theorem not_exists_mem_nil (h : ∃ e ∈ ([] : List (List Char)), e.flatMap (fill i k) =
    Nat.toDigits 10 j) : False :=
  h.elim fun _ he => List.not_mem_nil he.1

end Line

/-- How a line behind the imports comes about: from a template that refers to the first import of
each kind, or to one module, or to one member, or to a module and the member of the same number. -/
inductive Origin (n : Int) (line : String) : Prop
  | first {i k : Nat} {t : List Char} (hline : line.toList = t.flatMap (fill i k))
      (hends : hasEnds [['0']] [['0']] t = true)
  | ofModule {i : Nat} {t : List Char} (hline : line.toList = t.flatMap (fill i i))
      (hends : hasEnds [['#']] [] t = true) (hi : (i : Int) < n)
  | ofMember {i : Nat} {t : List Char} (hline : line.toList = t.flatMap (fill i i))
      (hends : hasEnds [] [['#']] t = true) (hi : (i : Int) < n / 2)
  | ofBoth {i k : Nat} {t : List Char} (hline : line.toList = t.flatMap (fill i k))
      (hends : hasEnds [['@']] [['@']] t = true) (hk : k < moduleCount n)

theorem tagged_origin {n : Int} {t : String} (tag : Int)
    (ht : t ∈ namingTemplates ++ namingEnd ++ controlFlowTemplates ++ comparisonTemplates) :
    Origin n (tagged tag t) := by
  have hall := List.all_eq_true.mp tagged_templates t ht
  rw [Bool.and_eq_true, Bool.and_eq_true, Bool.not_eq_true', List.contains_eq_mem,
    decide_eq_false_iff_not] at hall
  obtain ⟨⟨hplain, hdashed⟩, hmark⟩ := hall
  obtain ⟨i, hline | hline⟩ := toList_tagged hmark tag
  · exact .first hline hplain
  · exact .first hline hdashed

theorem toList_referenceLine {family : String} (hfamily : family.toList.any isMark = false)
    (i : Nat) : (referenceLine family i).toList =
      (family.toList ++ "_# = mod_a_#".toList).flatMap (fill i i) := by
  have hplain : ∀ c ∈ family.toList, isMark c = false := by simpa using hfamily
  rw [List.flatMap_append, flatMap_fill_of_no_mark hplain]
  simp only [referenceLine, moduleName, String.toList_append, toList_toString]
  repeat rw [String.toList_ofList]
  simp [fill]

theorem toList_callLine (i : Nat) :
    (callLine i).toList = "cv_# = name_b_#()".toList.flatMap (fill i i) := by
  simp only [callLine, memberName, String.toList_append, toList_toString]
  repeat rw [String.toList_ofList]
  simp [fill]

theorem toNat_lt_iff {n : Int} {i : Nat} : i < n.toNat ↔ (i : Int) < n := by omega

def families : List String := ["use", "ref", "cmp", "gref"]

theorem reference_template : ∀ family ∈ families, family.toList.any isMark = false ∧
    hasEnds [['#']] [] (family.toList ++ "_# = mod_a_#".toList) = true ∧
    ['#'] ∈ endsOf "mod_a_".toList (family.toList ++ "_# = mod_a_#".toList) := by
  decide +kernel

theorem referenceLines_origin {family line : String} {n : Int} (hfamily : family ∈ families)
    (h : line ∈ referenceLines family n) : Origin n line := by
  obtain ⟨i, hi, rfl⟩ := List.mem_map.mp h
  obtain ⟨hplain, hends, -⟩ := reference_template family hfamily
  exact .ofModule (toList_referenceLine hplain i) hends (toNat_lt_iff.mp (List.mem_range.mp hi))

theorem callLines_origin {line : String} {n : Int} (h : line ∈ callLines n) : Origin n line := by
  obtain ⟨i, hi, rfl⟩ := List.mem_map.mp h
  have hends : hasEnds [] [['#']] "cv_# = name_b_#()".toList = true := by decide +kernel
  have hi := toNat_lt_iff.mp (List.mem_range.mp hi)
  exact .ofMember (toList_callLine i) hends (by omega)

theorem classLines_origin {line : String} {n : Int} {i k : Nat} (hk : k < moduleCount n)
    (h : line ∈ classLines i k) : Origin n line := by
  obtain ⟨t, ht, rfl⟩ := List.mem_map.mp h
  exact .ofBoth (toList_filled i k t) (List.all_eq_true.mp class_templates t ht) hk

theorem body_origin (b : Builder) {n : Int} {line : String} (h : line ∈ b.body n) :
    Origin n line := by
  have htagged {tag : Int} {ts : List String}
      (hts : ∀ t ∈ ts,
        t ∈ namingTemplates ++ namingEnd ++ controlFlowTemplates ++ comparisonTemplates)
      (h : line ∈ ts.map (tagged tag)) : Origin n line := by
    obtain ⟨t, ht, rfl⟩ := List.mem_map.mp h
    exact tagged_origin tag (hts t ht)
  cases b with
  | naming tag =>
    simp only [Builder.body, List.mem_append] at h
    rcases h with (h | h) | h
    · exact htagged (fun t ht => by simp [ht]) h
    · exact referenceLines_origin (by simp [families]) h
    · exact htagged (fun t ht => by simp [ht]) h
  | controlFlow tag =>
    simp only [Builder.body, List.mem_append] at h
    rcases h with (h | h) | h
    · exact htagged (fun t ht => by simp [ht]) h
    · exact referenceLines_origin (by simp [families]) h
    · exact callLines_origin h
  | comparison tag =>
    simp only [Builder.body, List.mem_append] at h
    rcases h with h | h
    · exact htagged (fun t ht => by simp [ht]) h
    · exact referenceLines_origin (by simp [families]) h
  | large classes =>
    simp only [Builder.body, List.mem_append, List.mem_flatMap] at h
    rcases h with h | ⟨i, -, h⟩
    · exact referenceLines_origin (by simp [families]) h
    · have hpositive : 0 < moduleCount n := Nat.lt_of_lt_of_le Nat.one_pos (Nat.le_max_left _ _)
      exact classLines_origin (Nat.mod_lt _ hpositive) h

/-! ### The numbers that are mentioned -/

section Origin

variable {n : Int} {line : String} {j : Nat}

theorem Origin.module_lt (h : Origin n line) (hn : 2 ≤ n) (hj : Mentions line (moduleName j)) :
    (j : Int) < n := by
  have hcount : (moduleCount n : Int) = n / 2 := by unfold moduleCount; omega
  cases h with
  | first hline hends =>
    have hzero := eq_of_single_mark (m := 0) rfl
      (hj.end_mem hline moduleStem_plain (Bool.and_eq_true_iff.mp hends).1)
    omega
  | ofModule hline hends hi =>
    have hsame := eq_of_single_mark rfl
      (hj.end_mem hline moduleStem_plain (Bool.and_eq_true_iff.mp hends).1)
    omega
  | ofMember hline hends hi =>
    exact (not_exists_mem_nil
      (hj.end_mem hline moduleStem_plain (Bool.and_eq_true_iff.mp hends).1)).elim
  | ofBoth hline hends hk =>
    have hsame := eq_of_single_mark rfl
      (hj.end_mem hline moduleStem_plain (Bool.and_eq_true_iff.mp hends).1)
    omega

theorem Origin.member_lt (h : Origin n line) (hn : 2 ≤ n) (hj : Mentions line (memberName j)) :
    (j : Int) < n / 2 ∨ j = 0 := by
  have hcount : (moduleCount n : Int) = n / 2 := by unfold moduleCount; omega
  cases h with
  | first hline hends =>
    exact .inr (eq_of_single_mark (m := 0) rfl
      (hj.end_mem hline memberStem_plain (Bool.and_eq_true_iff.mp hends).2))
  | ofModule hline hends hi =>
    exact (not_exists_mem_nil
      (hj.end_mem hline memberStem_plain (Bool.and_eq_true_iff.mp hends).2)).elim
  | ofMember hline hends hi =>
    have hsame := eq_of_single_mark rfl
      (hj.end_mem hline memberStem_plain (Bool.and_eq_true_iff.mp hends).2)
    exact .inl (by omega)
  | ofBoth hline hends hk =>
    have hsame := eq_of_single_mark rfl
      (hj.end_mem hline memberStem_plain (Bool.and_eq_true_iff.mp hends).2)
    exact .inl (by omega)

end Origin

def Builder.Mentions (b : Builder) (n : Int) (name : String) : Prop :=
  ∃ line ∈ b.body n, Workload.Mentions line name

instance (b : Builder) (n : Int) (name : String) : Decidable (b.Mentions n name) :=
  inferInstanceAs (Decidable (∃ line ∈ _, _))

theorem exists_reference {n : Int} {j : Nat} (b : Builder) (hj : (j : Int) < n) :
    b.Mentions n (moduleName j) := by
  have hmentions {family : String} (hfamily : family ∈ families) :
      Workload.Mentions (referenceLine family j) (moduleName j) := by
    obtain ⟨hplain, -, hend⟩ := reference_template family hfamily
    refine (mentions_filled (toList_referenceLine hplain j) moduleStem_plain).mpr ⟨_, hend, ?_⟩
    rw [List.flatMap_singleton]
    rfl
  have hline (family : String) : referenceLine family j ∈ referenceLines family n :=
    List.mem_map.mpr ⟨j, List.mem_range.mpr (toNat_lt_iff.mpr hj), rfl⟩
  obtain ⟨family, hfamily, hbody⟩ :
      ∃ family ∈ families, ∀ line ∈ referenceLines family n, line ∈ b.body n := by
    cases b with
    | naming tag => exact ⟨"use", by simp [families], fun line h => by simp [Builder.body, h]⟩
    | controlFlow tag => exact ⟨"ref", by simp [families], fun line h => by simp [Builder.body, h]⟩
    | comparison tag => exact ⟨"cmp", by simp [families], fun line h => by simp [Builder.body, h]⟩
    | large classes => exact ⟨"gref", by simp [families], fun line h => by simp [Builder.body, h]⟩
  exact ⟨_, hbody _ (hline family), hmentions hfamily⟩

/-! ### The block of imports -/

theorem toList_moduleImport (k : Nat) :
    (moduleImport k).toList = "import mod_a_".toList ++ Nat.toDigits 10 k := by
  simp only [moduleImport, moduleName, String.toList_append, toList_toString]
  repeat rw [String.toList_ofList]
  rfl

theorem mem_importLines_module {n : Int} {k : Nat} :
    moduleImport k ∈ importLines n ↔ k < moduleCount n := by
  have hsystem : moduleImport k ≠ "import os, sys" := by
    intro h
    have hlist := congrArg String.toList h
    rw [toList_moduleImport] at hlist
    repeat rw [String.toList_ofList] at hlist
    simp at hlist
  have hmember (j : Nat) : memberImport j ≠ moduleImport k := by
    intro h
    have hlist := congrArg String.toList h
    rw [toList_moduleImport, memberImport, String.toList_append, String.toList_append,
      String.toList_append] at hlist
    repeat rw [String.toList_ofList] at hlist
    simp at hlist
  have hinj {j : Nat} (h : moduleImport j = moduleImport k) : j = k := by
    have hlist := congrArg String.toList h
    rw [toList_moduleImport, toList_moduleImport] at hlist
    exact toDigits_inj (List.append_cancel_left hlist)
  simp only [importLines, List.cons_append, List.mem_cons, List.mem_append, List.mem_map,
    List.mem_range]
  constructor
  · rintro (h | ⟨j, hj, h⟩ | ⟨j, -, h⟩)
    · exact absurd h hsystem
    · exact hinj h ▸ hj
    · exact absurd h (hmember j)
  · exact fun hk => .inr (.inl ⟨k, hk, rfl⟩)

/-- Every member that a source mentions behind its imports is imported. The modules that it mentions
and imports are those of the first half, and it mentions all those of the second half too, which it
does not import. -/
theorem references_and_imports (b : Builder) {n : Int} (hn : 2 ≤ n) (k : Nat) :
    (b.Mentions n (memberName k) → memberImport k ∈ importLines n) ∧
    (b.Mentions n (moduleName k) ∧ moduleImport k ∈ importLines n ↔ (k : Int) < n / 2) ∧
    (b.Mentions n (moduleName k) ∧ moduleImport k ∉ importLines n ↔
      n / 2 ≤ (k : Int) ∧ (k : Int) < n) := by
  have hcount : (moduleCount n : Int) = n / 2 := by unfold moduleCount; omega
  have hmodule : b.Mentions n (moduleName k) ↔ (k : Int) < n :=
    ⟨fun ⟨_, hline, h⟩ => (body_origin b hline).module_lt hn h, exists_reference b⟩
  rw [hmodule, mem_importLines_module]
  refine ⟨fun ⟨line, hline, h⟩ => ?_, by omega, by omega⟩
  have hk := (body_origin b hline).member_lt hn h
  refine List.mem_append_right _ (List.mem_map.mpr ⟨k, List.mem_range.mpr ?_, rfl⟩)
  rw [toNat_lt_iff]
  omega

theorem references_and_imports_five :
    (Builder.naming (-3)).Mentions 5 (moduleName 3) ∧ moduleImport 3 ∉ importLines 5 ∧
      (Builder.large 7).Mentions 5 (moduleName 1) ∧ moduleImport 1 ∈ importLines 5 :=
  have hhalf := ((references_and_imports (.naming (-3)) (by decide) 3).2.2.mpr (by decide))
  have hfirst := ((references_and_imports (.large 7) (by decide) 1).2.1.mpr (by decide))
  ⟨hhalf.1, hhalf.2, hfirst.1, hfirst.2⟩

theorem second_module_not_imported :
    (Builder.naming 0).Mentions 2 (moduleName 1) ∧
      importLines 2 = ["import os, sys", "import mod_a_0", "from pkg_b_0 import name_b_0"] ∧
      moduleImport 1 ∉ importLines 2 := by
  have himports : importLines 2 =
      ["import os, sys", "import mod_a_0", "from pkg_b_0 import name_b_0"] := rfl
  refine ⟨⟨referenceLine "use" 1, ?_, by decide +kernel⟩, himports, ?_⟩
  · exact List.mem_append_left _ (List.mem_append_right _ (List.mem_map.mpr ⟨1, by decide, rfl⟩))
  · rw [himports]
    decide +kernel

end CodeLint.Workload
