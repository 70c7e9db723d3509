import CodeLint.Proofs.Ordered
import CodeLint.Source.Lexer
import CodeLint.Text.Normal

/-!
What the tokens of a text are like. The line of a token, with one more for each of its characters,
stays below a bound that the size of the text gives: a cursor never gains more lines than it has
characters left. And a name holds characters of names only, so there is no space in its normal form.
-/

namespace CodeLint.Text

/-! ### Normal forms of names -/

theorem exists_row_of_formIn? {α : Type} {rows : List (Nat × List α)} {c : Nat} {d : α}
    (h : formIn? rows c = some d) : ∃ r ∈ rows, d ∈ r.2 := by
  induction rows with
  | nil => cases h
  | cons r rows ih =>
    obtain ⟨first, forms⟩ := r
    simp only [formIn?] at h
    split at h
    · cases h
    rcases Option.or_eq_some_iff.mp (Option.orElse_eq_or ▸ h) with hform | ⟨-, hrest⟩
    · exact ⟨_, List.mem_cons_self, List.mem_of_getElem? hform⟩
    · obtain ⟨r, hr, hd⟩ := ih hrest
      exact ⟨r, List.mem_cons_of_mem _ hr, hd⟩

theorem decompose_ne_space {c : Nat} (hc : c ≠ 32) : ∀ d ∈ decompose c, d ≠ 32 := by
  have hsingle : (singleForms.all fun r => r.2.all fun d => d != 32) = true := by decide +kernel
  have hseveral : (severalForms.all fun r => r.2.all fun ds => ds.all fun d => d != 32) = true := by
    decide +kernel
  simp only [List.all_eq_true, bne_iff_ne] at hsingle hseveral
  have hself : ∀ d ∈ [c], d ≠ 32 := List.forall_mem_singleton.mpr hc
  unfold decompose
  split
  · exact hself
  split
  · unfold hangulParts
    intro d hd
    dsimp only at hd
    split at hd <;> simp only [List.mem_cons, List.not_mem_nil, or_false] at hd <;> omega
  split
  · next d hd =>
    obtain ⟨r, hr, hd⟩ := exists_row_of_formIn? hd
    exact List.forall_mem_singleton.mpr (hsingle r hr d hd)
  · cases hform : formIn? severalForms c with
    | none => exact hself
    | some ds =>
      obtain ⟨r, hr, hds⟩ := exists_row_of_formIn? hform
      exact hseveral r hr ds hds

theorem mem_insertMark {c d : Nat} {ds : List Nat} (h : d ∈ insertMark c ds) : d = c ∨ d ∈ ds := by
  induction ds with
  | nil => exact .inl (List.mem_singleton.mp h)
  | cons e ds ih =>
    rw [insertMark] at h
    split at h
    · rcases List.mem_cons.mp h with rfl | h
      · exact .inr List.mem_cons_self
      · exact (ih h).imp_right (List.mem_cons_of_mem e)
    · exact List.mem_cons.mp h

theorem mem_orderMarks {d : Nat} {cs : List Nat} (h : d ∈ orderMarks cs) : d ∈ cs := by
  have hfold (cs acc : List Nat) (h : d ∈ cs.foldl (fun acc c => insertMark c acc) acc) :
      d ∈ cs ∨ d ∈ acc := by
    induction cs generalizing acc with
    | nil => exact .inr h
    | cons c cs ih =>
      rcases ih _ h with h | h
      · exact .inl (List.mem_cons_of_mem c h)
      · rcases mem_insertMark h with rfl | h
        · exact .inl List.mem_cons_self
        · exact .inr h
  exact (hfold cs [] (List.mem_reverse.mp h)).resolve_right List.not_mem_nil

theorem composedForm?_ne_space {a b d : Nat} (h : composedForm? a b = some d) : d ≠ 32 := by
  have hrows : (composedForms.all fun r => r.2.all fun p => p.2 != 32) = true := by decide +kernel
  simp only [List.all_eq_true, bne_iff_ne] at hrows
  unfold composedForm? at h
  split at h
  · have hd := Option.some.inj h
    omega
  split at h
  · next hhangul =>
    have hd := Option.some.inj h
    simp only [isHangulSyllable, Bool.and_eq_true, decide_eq_true_eq] at hhangul
    omega
  · obtain ⟨firsts, hfirsts, hd⟩ := Option.bind_eq_some_iff.mp h
    exact hrows _ (mem_of_lookup hfirsts) _ (mem_of_lookup hd)

theorem composeFrom_ne_space {first : Nat} {marks cs : List Nat} (hfirst : first ≠ 32)
    (hmarks : ∀ d ∈ marks, d ≠ 32) (hcs : ∀ d ∈ cs, d ≠ 32) :
    ∀ d ∈ composeFrom first marks cs, d ≠ 32 := by
  induction cs generalizing first marks with
  | nil =>
    rw [composeFrom]
    exact List.forall_mem_cons.mpr ⟨hfirst, fun d hd => hmarks d (List.mem_reverse.mp hd)⟩
  | cons c cs ih =>
    obtain ⟨hc, hcs⟩ := List.forall_mem_cons.mp hcs
    unfold composeFrom
    dsimp only
    split
    · next d hd =>
      have hform : composedForm? first c = some d := (Option.ite_none_left_eq_some.mp hd).2
      exact ih (composedForm?_ne_space hform) hmarks hcs
    · split
      · refine List.forall_mem_append.mpr ⟨?_, ih hc (fun _ h => nomatch h) hcs⟩
        exact List.forall_mem_cons.mpr ⟨hfirst, fun d hd => hmarks d (List.mem_reverse.mp hd)⟩
      · exact ih hfirst (List.forall_mem_cons.mpr ⟨hc, hmarks⟩) hcs

theorem normalName_no_space {s : String} (h : ' ' ∉ s.toList) : ' ' ∉ (normalName s).toList := by
  unfold normalName
  split
  · exact h
  have hchars : ∀ c ∈ s.toList.flatMap (decompose ·.toNat), c ≠ 32 := by
    intro d hd
    obtain ⟨c, hc, hd⟩ := List.mem_flatMap.mp hd
    refine decompose_ne_space (fun hspace => h ?_) d hd
    rwa [← Char.toNat_inj.mp (show c.toNat = ' '.toNat from hspace)]
  have hcomposed : ∀ d ∈ compose (orderMarks (s.toList.flatMap (decompose ·.toNat))), d ≠ 32 := by
    have hordered := fun d hd => hchars d (mem_orderMarks (d := d) hd)
    generalize orderMarks _ = cs at hordered
    cases cs with
    | nil => exact fun _ h => nomatch h
    | cons c cs =>
      obtain ⟨hc, hcs⟩ := List.forall_mem_cons.mp hordered
      exact composeFrom_ne_space hc (fun _ h => nomatch h) hcs
  rw [String.toList_ofList]
  intro hspace
  obtain ⟨d, hd, hchar⟩ := List.mem_map.mp hspace
  -- only the space itself is written as a space: what is no character becomes the null character
  have hcode : (Char.ofNat d).toNat = 32 := congrArg Char.toNat hchar
  by_cases hvalid : d.isValidChar
  · rw [Char.ofNat, dif_pos hvalid] at hcode
    exact hcomposed d hd hcode
  · rw [Char.ofNat, dif_neg hvalid] at hcode
    cases hcode

end CodeLint.Text

namespace CodeLint.Source

open CodeLint.Text

/-! ### Outcomes that may be faults -/

def Yields {ε α : Type} (P : α → Prop) (r : Except ε α) : Prop := ∀ a, r = .ok a → P a

section Yields

variable {ε α β : Type} {P : α → Prop} {Q : β → Prop} {r : Except ε α}

theorem yields_pure {a : α} (h : P a) : Yields P (pure a : Except ε α) := by
  rintro b ⟨⟩
  exact h

theorem yields_throw (f : ε) : Yields P (throw f : Except ε α) := nofun

theorem yields_any (r : Except ε α) : Yields (fun _ => True) r := fun _ _ => trivial

theorem Yields.bind {f : α → Except ε β} (h : Yields P r) (hf : ∀ a, P a → Yields Q (f a)) :
    Yields Q (r >>= f) := by
  cases r with
  | error e => exact nofun
  | ok a => exact hf a (h a rfl)

theorem yields_ite' {p : Prop} [Decidable p] {r' : Except ε α} (h : p → Yields P r)
    (h' : ¬p → Yields P r') : Yields P (if p then r else r') := by
  split
  · next hp => exact h hp
  · next hp => exact h' hp

theorem yields_ite {p : Prop} [Decidable p] {r' : Except ε α} (h : Yields P r)
    (h' : Yields P r') : Yields P (if p then r else r') :=
  yields_ite' (fun _ => h) fun _ => h'

end Yields

/-! ### Cursors -/

/-- No token of the text has its line and its characters beyond this. -/
def Input.extent (i : Input) : Nat := i.firstLine + i.chars.size + 1

/-- A cursor of the text: what is left to read is the rest of it, and the lines gained so far and
still to be gained are no more than the text has characters. -/
structure Cursor.In (i : Input) (c : Cursor) : Prop where
  rest : c.rest = i.chars.toList.drop c.mark.offset
  extent : c.mark.line + c.rest.length + (if c.pending then 1 else 0) ≤ i.extent

namespace Cursor.In

variable {i : Input} {c : Cursor}

theorem start (i : Input) : (Cursor.start i).In i := by
  refine ⟨rfl, ?_⟩
  simp only [Cursor.start, Input.extent, Array.length_toList, if_true]
  omega

theorem enter (h : c.In i) (held : Bool) : (c.enter held).In i := by
  unfold Cursor.enter
  split
  · exact h
  · by_cases hpending : c.pending = true
    · rw [if_pos hpending]
      refine ⟨h.rest, ?_⟩
      have := h.extent
      simp only [hpending, if_true] at this
      simpa using by omega
    · rw [if_neg hpending]
      exact h

theorem advance (h : c.In i) : c.advance.In i := by
  unfold Cursor.advance
  split
  · exact h
  · next x xs hrest =>
    have hdrop := h.rest
    have hextent := h.extent
    rw [hrest] at hdrop hextent
    refine ⟨?_, ?_⟩
    · rw [← List.drop_drop, ← hdrop]
      rfl
    · rw [List.length_cons] at hextent
      dsimp only
      split <;> omega

theorem advanceBy (h : c.In i) (n : Nat) : (c.advanceBy n).In i := by
  induction n generalizing c with
  | zero => exact h
  | succ n ih => exact ih h.advance

end Cursor.In

theorem Cursor.offset_advanceBy (c : Cursor) (n : Nat) :
    (c.advanceBy n).mark.offset ≤ c.mark.offset + n := by
  induction n generalizing c with
  | zero => exact Nat.le_refl _
  | succ n ih =>
    have hstep : c.advance.mark.offset ≤ c.mark.offset + 1 := by
      unfold Cursor.advance
      split
      · exact Nat.le_succ _
      · exact Nat.le_refl _
    have hrest := ih c.advance
    rw [Cursor.advanceBy]
    omega

/-! ### Tokens -/

structure Token.In (i : Input) (t : Token) : Prop where
  extent : t.line + t.text.length ≤ i.extent
  name : t.kind = .name → ∀ c ∈ t.text.toList, isNameChar c = true

namespace Lexer

variable {i : Input} {l : Lexer} {c stop : Cursor} {k : TokenKind}

theorem tokenOf_text (hc : c.In i) :
    (l.tokenOf i k c stop).text.toList =
      c.rest.take (stop.mark.offset - c.mark.offset) := by
  rw [tokenOf, String.toList_ofList, Array.toList_extract, List.extract_eq_take_drop, hc.rest]

theorem tokenOf_in (hc : c.In i) (hname : k = .name → ∀ x ∈ (l.tokenOf i k c stop).text.toList,
    isNameChar x = true) : (l.tokenOf i k c stop).In i := by
  refine ⟨?_, hname⟩
  have hlength : (l.tokenOf i k c stop).text.length ≤ c.rest.length := by
    rw [← String.length_toList, tokenOf_text hc]
    exact List.length_take_le' _ _
  have hline : (l.tokenOf i k c stop).line = c.mark.line := rfl
  have := hc.extent
  omega

theorem markToken_in (hc : c.In i) (hk : k ≠ .name) : (l.markToken k c).In i := by
  refine ⟨?_, fun h => absurd h hk⟩
  have hline : (l.markToken k c).line + (l.markToken k c).text.length = c.mark.line := rfl
  have := hc.extent
  omega

theorem continuation_yields (hc : c.In i) (held : Bool) :
    Yields (Cursor.In i) (l.continuation i c held) := by
  unfold continuation
  refine yields_ite (yields_ite (yields_throw _) (yields_pure ?_)) (yields_throw _)
  exact hc.advance.advance.enter held

theorem indentation_yields (n : Nat) (hc : c.In i) (w : Indent) (first : Nat) :
    Yields (fun r => r.2.In i) (l.indentation i n c w first) := by
  induction n generalizing c w first with
  | zero => exact yields_pure hc
  | succ n ih =>
    rw [indentation]
    have henter := hc.enter false
    split
    · exact ih henter.advance _ _
    · exact ih henter.advance _ _
    · exact ih henter.advance _ _
    · exact (continuation_yields henter false).bind fun _ hnext => ih hnext _ _
    · exact yields_pure henter

theorem settleIndent_yields (hc : c.In i) (w : Indent) :
    Yields (fun l' : Lexer => l'.cursor.In i) (l.settleIndent i c w) := by
  unfold settleIndent
  refine yields_ite (yields_ite (yields_throw _) (yields_pure hc)) (yields_ite
    (yields_ite (yields_throw _) (yields_ite (yields_throw _) (yields_pure hc))) ?_)
  exact yields_ite (yields_throw _) (yields_ite (yields_throw _) (yields_pure hc))

theorem startLine_yields (hl : l.cursor.In i) :
    Yields (fun r : Lexer × Bool => r.1.cursor.In i) (l.startLine i) := by
  unfold startLine
  refine yields_ite (yields_pure hl) ?_
  refine (indentation_yields _ hl _ _).bind fun r hr => ?_
  refine yields_ite (yields_pure hr) ?_
  exact (settleIndent_yields hr r.1).bind fun _ hl' => yields_pure hl'

theorem stringEnd_yields (quote : Char) (size n : Nat) (hc : c.In i) (run : Nat) :
    Yields (Cursor.In i) (stringEnd quote size n c run) := by
  induction n generalizing c run with
  | zero => exact yields_throw _
  | succ n ih =>
    rw [stringEnd]
    have henter := hc.enter true
    split
    · exact yields_throw _
    · refine yields_ite (yields_throw _) (yields_ite (yields_ite ?_ ?_) (yields_ite ?_ ?_))
      · exact yields_pure henter.advance
      · exact ih henter.advance _
      · exact ih (henter.advance.enter true).advance _
      · exact ih henter.advance _

def Reads (i : Input) (r : Token × Cursor) : Prop := r.1.In i ∧ r.2.In i

theorem stringToken_yields (hc : c.In i) (letters : Nat) :
    Yields (Reads i) (l.stringToken i c letters) := by
  have hstring (stop : Cursor) : (l.tokenOf i .string c stop).In i := tokenOf_in hc nofun
  have hletters := hc.advanceBy letters
  have hbody (size : Nat) {r : Except Stop (Token × Cursor)}
      (hok : ∀ stop, stringEnd ((c.advanceBy letters).next?.getD '"') size
        ((c.advanceBy letters).rest.length + 1) ((c.advanceBy letters).advanceBy size) 0 =
          .ok stop → r = pure (l.tokenOf i .string c stop, stop))
      (herror : ∀ e, stringEnd ((c.advanceBy letters).next?.getD '"') size
        ((c.advanceBy letters).rest.length + 1) ((c.advanceBy letters).advanceBy size) 0 =
          .error e → ∃ f, r = throw f) : Yields (Reads i) r := by
    have hend := stringEnd_yields ((c.advanceBy letters).next?.getD '"') size
      ((c.advanceBy letters).rest.length + 1) (hletters.advanceBy size) 0
    cases hstop : stringEnd ((c.advanceBy letters).next?.getD '"') size
        ((c.advanceBy letters).rest.length + 1) ((c.advanceBy letters).advanceBy size) 0 with
    | ok stop =>
      rw [hok stop hstop]
      exact yields_pure ⟨hstring stop, hend stop hstop⟩
    | error e =>
      obtain ⟨f, rfl⟩ := herror e hstop
      exact yields_throw f
  unfold stringToken
  dsimp only
  split
  · refine yields_ite ?_ (yields_ite (yields_pure ⟨hstring _, hletters.advanceBy 2⟩) ?_)
    · exact hbody 3 (fun stop h => by rw [h]) fun e h => ⟨_, by rw [h]⟩
    · exact hbody 1 (fun stop h => by rw [h]) fun e h => ⟨_, by rw [h]⟩
  · exact hbody 1 (fun stop h => by rw [h]) fun e h => ⟨_, by rw [h]⟩

theorem nameToken_yields (hc : c.In i) : Yields (Reads i) (l.nameToken i c) := by
  unfold nameToken
  dsimp only
  split
  · exact yields_throw _
  · have hbehind := hc.advanceBy (c.rest.takeWhile isNameChar).length
    have hname : ∀ x ∈ (l.tokenOf i .name c
        (c.advanceBy (c.rest.takeWhile isNameChar).length)).text.toList, isNameChar x = true := by
      intro x hx
      rw [tokenOf_text hc] at hx
      have hoffset := c.offset_advanceBy (c.rest.takeWhile isNameChar).length
      have hle : (c.advanceBy (c.rest.takeWhile isNameChar).length).mark.offset - c.mark.offset ≤
          (c.rest.takeWhile isNameChar).length := by omega
      have hmem := (List.take_prefix_take_left hle).mem hx
      rw [← List.prefix_iff_eq_take.mp (List.takeWhile_prefix isNameChar)] at hmem
      exact List.all_eq_true.mp List.all_takeWhile x hmem
    have htoken := tokenOf_in hc fun _ => hname
    refine yields_pure ⟨?_, hbehind⟩
    split
    · exact ⟨htoken.extent, nofun⟩
    · exact htoken

theorem numberToken_yields (hc : c.In i) : Yields (Reads i) (l.numberToken i c) := by
  unfold numberToken
  split
  · exact yields_pure ⟨tokenOf_in hc nofun, hc.advanceBy _⟩
  · dsimp only
    split
    · exact yields_throw _
    · exact yields_throw _

def Continues (i : Input) (r : Token × Lexer) : Prop := r.1.In i ∧ r.2.cursor.In i

theorem operatorToken_yields (hc : c.In i) : Yields (Continues i) (l.operatorToken i c) := by
  have htaken (n : Nat) (l : Lexer) {k : TokenKind} (hk : k ≠ .name) :
      Continues i (l.tokenOf i k c (c.advanceBy n), { l with cursor := c.advanceBy n }) :=
    ⟨tokenOf_in hc fun h => absurd h hk, hc.advanceBy n⟩
  unfold operatorToken
  refine yields_ite (yields_pure (htaken 3 l nofun)) (yields_ite (yields_pure (htaken 2 l nofun))
    (yields_ite (yields_throw _) ?_))
  refine (yields_any _).bind fun l' _ => yields_pure (htaken 1 l' ?_)
  split <;> nofun

theorem nextToken_yields (n : Nat) (hl : l.cursor.In i) :
    Yields (Continues i) (nextToken i n l) := by
  induction n generalizing l with
  | zero => exact yields_throw _
  | succ n ih =>
    rw [nextToken]
    refine (startLine_yields hl).bind fun r hr => ?_
    obtain ⟨l, blank⟩ := r
    refine yields_ite (yields_pure ⟨markToken_in hr nofun, hr⟩)
      (yields_ite (yields_pure ⟨markToken_in hr nofun, hr⟩) ?_)
    have hc := (hr.enter false).advanceBy ((l.cursor.enter false).rest.takeWhile isBlankHere).length
    dsimp only at hc ⊢
    generalize (l.cursor.enter false).advanceBy _ = c at hc ⊢
    have hbehind : (if c.next? == some '#' then
        c.advanceBy (c.rest.takeWhile (· != '\n')).length else c).In i := by
      split
      · exact hc.advanceBy _
      · exact hc
    generalize (if c.next? == some '#' then _ else _ : Cursor) = behind at hbehind ⊢
    split
    · exact yields_ite (yields_pure ⟨markToken_in hbehind nofun, hbehind⟩) (yields_throw _)
    · refine yields_ite (ih hbehind.advance) (yields_pure ⟨?_, hbehind.advance⟩)
      have hmark : (l.tokenOf i .newline c behind).In i := tokenOf_in hc nofun
      exact ⟨hmark.extent, nofun⟩
    · exact (continuation_yields hbehind true).bind fun _ hnext => ih hnext
    · split
      · exact (stringToken_yields hc _).bind fun _ hread => yields_pure hread
      · refine yields_ite ?_ (yields_ite ?_ (operatorToken_yields hc))
        · exact (nameToken_yields hc).bind fun _ hread => yields_pure hread
        · exact (numberToken_yields hc).bind fun _ hread => yields_pure hread

theorem allTokens_in (n : Nat) {ts : Array Token} (hl : l.cursor.In i)
    (hts : ∀ t ∈ ts.toList, t.In i) : ∀ t ∈ (allTokens i n l ts).tokens.toList, t.In i := by
  induction n generalizing l ts with
  | zero => exact hts
  | succ n ih =>
    have hnext := nextToken_yields (l.cursor.rest.length + 2) hl
    rw [allTokens]
    split
    · exact hts
    · next t l' hread =>
      obtain ⟨ht, hl'⟩ := hnext _ hread
      have hpushed : ∀ t' ∈ (ts.push t).toList, t'.In i := by
        rw [Array.toList_push]
        exact List.forall_mem_append.mpr ⟨hts, List.forall_mem_singleton.mpr ht⟩
      split
      · exact hpushed
      · exact ih hl' hpushed

end Lexer

theorem Input.tokens_in (i : Input) : ∀ t ∈ i.tokens.tokens.toList, t.In i :=
  Lexer.allTokens_in _ (.start i) fun _ h => nomatch h

theorem Token.In.no_space {i : Input} {t : Token} (h : t.In i) (hk : t.kind = .name) :
    ' ' ∉ (normalName t.text).toList := by
  refine normalName_no_space fun hspace => ?_
  have hchar := h.name hk ' ' hspace
  cases hchar

end CodeLint.Source
