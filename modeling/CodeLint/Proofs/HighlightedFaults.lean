import CodeLint.Proofs.WindowHistory

/-!
The line that is highlighted for source that cannot be read. The report of a syntax fault gives the
message of its cause and behind it the line of the fault. The search takes the first line that is
mentioned: the line of the fault, unless the message itself mentions a line. Some do, as where a
block is missing or a bracket is closed by one of another kind, and then that line is highlighted.
-/

namespace CodeLint.Window

open CodeLint.Text CodeLint.Lint CodeLint.Source

/-! ### The first line that is mentioned -/

def startDigits? (cs : List Char) : Option (List Char) :=
  let ds := (cs.drop 5).takeWhile isDigit
  if ['l', 'i', 'n', 'e', ' '].isPrefixOf cs && !ds.isEmpty then some ds else none

theorem lineDigits?_cons (c : Char) (cs : List Char) :
    lineDigits? (c :: cs) = (startDigits? (c :: cs)).or (lineDigits? cs) := by
  have hword : "line ".toList = ['l', 'i', 'n', 'e', ' '] := by decide
  simp only [lineDigits?, startDigits?, hword, List.length_cons, List.length_nil]
  split <;> rfl

theorem startDigits?_of_ne {c : Char} (h : c ≠ 'l') (cs : List Char) :
    startDigits? (c :: cs) = none := by
  simp [startDigits?, Ne.symm h]

theorem lineDigits?_skip {cs : List Char} (h : 'l' ∉ cs) (rest : List Char) :
    lineDigits? (cs ++ rest) = lineDigits? rest := by
  induction cs with
  | nil => rfl
  | cons c cs ih =>
    obtain ⟨hc, hcs⟩ := List.ne_and_not_mem_of_not_mem_cons h
    rw [List.cons_append, lineDigits?_cons, startDigits?_of_ne hc.symm, ih hcs]
    rfl

theorem takeWhile_append_stop {α : Type} {p : α → Bool} {x : α} (hx : p x = false)
    (xs ys : List α) : (xs ++ x :: ys).takeWhile p = xs.takeWhile p := by
  induction xs with
  | nil => rw [List.nil_append, List.takeWhile_cons_of_neg (by simp [hx]), List.takeWhile_nil]
  | cons y xs ih => rw [List.cons_append, List.takeWhile_cons, List.takeWhile_cons, ih]

/-- No mention runs across a space that no digit follows. -/
theorem startDigits?_append (c : Char) (cs : List Char) {d : Char} (hd : isDigit d = false)
    (rest : List Char) :
    startDigits? (c :: (cs ++ ' ' :: d :: rest)) = startDigits? (c :: cs) := by
  have hspace : isDigit ' ' = false := rfl
  -- The word has five characters, and the space could only be the last of them.
  match cs with
  | [] | [_] | [_, _] => simp [startDigits?]
  | [_, _, _] => simp [startDigits?, hd]
  | _ :: _ :: _ :: _ :: cs => simp [startDigits?, takeWhile_append_stop hspace]

theorem lineDigits?_append (cs : List Char) {d : Char} (hd : isDigit d = false)
    (rest : List Char) :
    lineDigits? (cs ++ ' ' :: d :: rest) =
      (lineDigits? cs).or (lineDigits? (' ' :: d :: rest)) := by
  induction cs with
  | nil => rfl
  | cons c cs ih =>
    rw [List.cons_append, lineDigits?_cons c, startDigits?_append c cs hd, ih, lineDigits?_cons c,
      Option.or_assoc]

def faultDigits (f : SyntaxFault) (line : Nat) : List Char :=
  (lineDigits? f.cause.message.toList).getD (Nat.toDigits 10 line)

theorem lineDigits?_here {ds : List Char} (hne : ds ≠ []) (hds : ∀ c ∈ ds, isDigit c = true)
    {d : Char} (hd : isDigit d = false) (rest : List Char) :
    lineDigits? ('l' :: 'i' :: 'n' :: 'e' :: ' ' :: (ds ++ d :: rest)) = some ds := by
  have hdigits : (ds ++ d :: rest).takeWhile isDigit = ds := by
    rw [takeWhile_append_stop hd, List.takeWhile_eq_self_iff.mpr hds]
  rw [lineDigits?_cons, startDigits?]
  simp [hdigits, hne]

theorem lineText_of_line {f : SyntaxFault} {line : Nat} (hline : f.line = some line) :
    f.lineText.toList = Nat.toDigits 10 line := by
  rw [SyntaxFault.lineText, hline]
  dsimp only
  rw [Nat.toString_eq_ofList_toDigits, String.toList_ofList]

-- Two texts that are written out are slow to tell apart, so the parts are variables here.
theorem toList_mention {start message before line column rest : String} {ds cs : List Char}
    (hbefore : before.toList = [' ', 'a', 't', ' ', 'l', 'i', 'n', 'e', ' '])
    (hline : line.toList = ds) (hcolumn : column.toList = ',' :: cs) :
    (start ++ message ++ before ++ line ++ column ++ rest).toList =
      start.toList ++ (message.toList ++ ' ' :: 'a' :: 't' :: ' ' :: 'l' :: 'i' :: 'n' :: 'e' ::
        ' ' :: (ds ++ ',' :: (cs ++ rest.toList))) := by
  simp [hbefore, hline, hcolumn]

theorem report_toList {f : SyntaxFault} {line : Nat} (hline : f.line = some line) :
    ∃ rest, f.report.toList = "E999: SyntaxError: ".toList ++ (f.cause.message.toList ++
      ' ' :: 'a' :: 't' :: ' ' :: 'l' :: 'i' :: 'n' :: 'e' :: ' ' ::
        (Nat.toDigits 10 line ++ ',' :: rest)) :=
  have hcolumn : ", column ".toList = ',' :: " column ".toList := by decide
  ⟨_, toList_mention (by decide) (lineText_of_line hline) hcolumn⟩

theorem lineDigits?_report {f : SyntaxFault} {line : Nat} (hline : f.line = some line) :
    lineDigits? f.report.toList = some (faultDigits f line) := by
  obtain ⟨rest, hreport⟩ := report_toList hline
  have hstart : 'l' ∉ "E999: SyntaxError: ".toList := by decide +kernel
  have hbehind : lineDigits? (' ' :: 'a' :: 't' :: ' ' :: 'l' :: 'i' :: 'n' :: 'e' :: ' ' ::
      (Nat.toDigits 10 line ++ ',' :: rest)) = some (Nat.toDigits 10 line) := by
    refine (lineDigits?_skip (show 'l' ∉ [' ', 'a', 't', ' '] by decide) _).trans ?_
    exact lineDigits?_here Nat.toDigits_ne_nil (fun c => isDigit_of_mem_toDigits) rfl rest
  rw [hreport, lineDigits?_skip hstart, lineDigits?_append _ rfl, hbehind, faultDigits]
  cases lineDigits? f.cause.message.toList <;> rfl

/-! ### Analysing what cannot be read -/

variable {w : State} {f : SyntaxFault} {line : Nat}

def faultShown (f : SyntaxFault) : List Action :=
  [.readCode, .unlockResults, .clearResults, .insertResults f.report, .lockResults,
    .removeHighlights]

def faultOutcome (w : State) (f : SyntaxFault) (line : Nat) : Outcome where
  actions := faultShown f ++ [.highlight (lineStart line) (lineEnd line), .styleHighlights]
  code := w.code
  results := f.report
  fault := none

theorem source_eq_nil (h : trim w.source = []) : w.source = [] := by
  have hblank := List.all_eq_true.mp ((trim_source w).mp h)
  rw [source_eq, trimRight, List.reverse_eq_nil_iff, List.dropWhile_eq_nil_iff]
  exact fun c hc => hblank c (List.mem_reverse.mp hc)

theorem trim_ne_nil_of_error (hread : readTree (String.ofList w.source) = .error f) :
    trim w.source ≠ [] := by
  intro hblank
  have hempty : (readTree (String.ofList [])).isOk = true := by decide +kernel
  rw [source_eq_nil hblank] at hread
  rw [hread] at hempty
  cases hempty

theorem analyze_ends_fault (hread : readTree (String.ofList w.source) = .error f)
    {r : Except Fault Unit} {as : List Action}
    (h : ∀ w, Ends (highlight [.text f.report]) w r (.removeHighlights :: as) w) :
    Ends analyze w r (faultShown f ++ as) { w with results := f.report } := by
  have hsource := trim_ne_nil_of_error hread
  have hissues : issues w.room (.text (String.ofList w.source)) = .ok [f.report] :=
    issues_of_unreadable hread
  have hshown : resultText [f.report] = f.report := rfl
  have hresults := showResults_does w [f.report]
  rw [hshown] at hresults
  unfold State.source at hsource hissues
  refine (does_act .readCode w).ends (ends_get fun done => ?_)
  simp only [List.isEmpty_iff, if_neg hsource]
  refine ends_get fun done => ?_
  simp only [hissues]
  exact hresults.ends (h _)

theorem outcome_of_fault (hread : readTree (String.ofList w.source) = .error f)
    (hline : f.line = some line) (hlength : (faultDigits f line).length ≤ maxDigits) :
    (Input.analyze.outcome w).1 = faultOutcome w f (numeral (faultDigits f line)) := by
  have hitem : ∀ w, Does (highlightItem (.text f.report)) w
      [.highlight (lineStart (numeral (faultDigits f line)))
        (lineEnd (numeral (faultDigits f line)))] w := by
    intro w
    rw [highlightItem, lineDigits?_report hline]
    simp only [if_neg (Nat.not_lt.mpr hlength)]
    exact does_act _ w
  have hends := analyze_ends_fault hread fun w =>
    (does_act _ w).seq (((hitem w).seq (does_pure w)).seq (does_act .styleHighlights w))
  rw [hends.outcome (i := .analyze)]
  rfl

theorem outcome_of_fault_too_long (hread : readTree (String.ofList w.source) = .error f)
    (hline : f.line = some line) (hlength : maxDigits < (faultDigits f line).length) :
    (Input.analyze.outcome w).1 =
      ⟨faultShown f, w.code, f.report, some (.tooManyDigits (faultDigits f line).length)⟩ := by
  have hitem : ∀ w, Ends (highlightItem (.text f.report)) w
      (.error (.tooManyDigits (faultDigits f line).length)) [] w := by
    intro w
    rw [highlightItem, lineDigits?_report hline]
    simp only [if_pos hlength]
    exact ends_throw _ w
  have hends := analyze_ends_fault hread fun w =>
    (does_act _ w).ends ((hitem w).stop.stop)
  rw [hends.outcome (i := .analyze)]
  rfl

theorem lineStart_inj {i j : Nat} (h : lineStart i = lineStart j) : i = j := by
  have htext : ∀ k : Nat, (lineStart k).toList = Nat.toDigits 10 k ++ ".0".toList := fun k => by
    rw [← toList_lineText, ← String.toList_append]
    rfl
  have hlist := congrArg String.toList h
  rw [htext, htext] at hlist
  rw [← numeral_toDigits i, List.append_cancel_right hlist, numeral_toDigits]

theorem faultOutcome_inj {i j : Nat} : faultOutcome w f i = faultOutcome w f j ↔ i = j := by
  refine ⟨fun h => ?_, fun h => h ▸ rfl⟩
  have hactions := List.append_cancel_left (congrArg Outcome.actions h)
  injection hactions with hhighlight
  injection hhighlight with hstart
  exact lineStart_inj hstart

/-- For source with a fault on a line, one line is highlighted: the first that the message of the
fault mentions, if it mentions one. It is the line of the fault exactly when the message mentions
none, or that line first. A line of too many digits is not highlighted. -/
theorem fault_highlighted (hread : readTree (String.ofList w.source) = .error f)
    (hline : f.line = some line) :
    ((faultDigits f line).length ≤ maxDigits →
      (Input.analyze.outcome w).1 = faultOutcome w f (numeral (faultDigits f line))) ∧
    (maxDigits < (faultDigits f line).length →
      (Input.analyze.outcome w).1 =
        ⟨faultShown f, w.code, f.report, some (.tooManyDigits (faultDigits f line).length)⟩) ∧
    ((Input.analyze.outcome w).1 = faultOutcome w f line ↔
      (faultDigits f line).length ≤ maxDigits ∧
        ∀ ds, lineDigits? f.cause.message.toList = some ds → numeral ds = line) := by
  refine ⟨outcome_of_fault hread hline, outcome_of_fault_too_long hread hline, ?_⟩
  by_cases hlength : (faultDigits f line).length ≤ maxDigits
  · rw [outcome_of_fault hread hline hlength, faultOutcome_inj, and_iff_right hlength, faultDigits]
    cases lineDigits? f.cause.message.toList with
    | none => simp [numeral_toDigits]
    | some ds => simp
  · have hfault : (Input.analyze.outcome w).1.fault ≠ (faultOutcome w f line).fault := by
      rw [outcome_of_fault_too_long hread hline (Nat.lt_of_not_le hlength)]
      exact Option.some_ne_none _
    exact ⟨fun h => absurd (congrArg Outcome.fault h) hfault, fun h => absurd h.1 hlength⟩

def faultIn? (s : String) : Option SyntaxFault :=
  match readTree s with
  | .ok _ => none
  | .error f => some f

theorem readTree_of_faultIn? {s : String} (h : faultIn? s = some f) : readTree s = .error f := by
  unfold faultIn? at h
  cases hread : readTree s with
  | ok n =>
    rw [hread] at h
    cases h
  | error g =>
    rw [hread] at h
    rw [Option.some.inj h]

/-- A text that is not closed: the message mentions the line on which it ends. -/
def unclosedText : State := { code := "x = 1\ny = 'abc\n" }

theorem fault_highlighted_unclosedText :
    readTree (String.ofList unclosedText.source) = .error ⟨.unterminatedText 2, some 2, some 5⟩ ∧
      (Input.analyze.outcome unclosedText).1 =
        faultOutcome unclosedText ⟨.unterminatedText 2, some 2, some 5⟩ 2 := by
  have hevaluated : faultIn? (String.ofList unclosedText.source) =
        some ⟨.unterminatedText 2, some 2, some 5⟩ ∧
      lineDigits? (Cause.unterminatedText 2).message.toList = some ['2'] ∧ numeral ['2'] = 2 ∧
      (faultDigits ⟨.unterminatedText 2, some 2, some 5⟩ 2).length ≤ maxDigits := by
    decide +kernel
  obtain ⟨hfault, hmention, hnumeral, hlength⟩ := hevaluated
  have hread := readTree_of_faultIn? hfault
  refine ⟨hread, (fault_highlighted hread rfl).2.2.mpr ⟨hlength, fun ds hds => ?_⟩⟩
  rw [hmention] at hds
  rw [← Option.some.inj hds, hnumeral]

def missingBlock : State := { code := "if x:\npass\n" }

theorem mentioned_line_highlighted :
    readTree (String.ofList missingBlock.source) =
        .error ⟨.expectedBlockAfter "'if' statement" 1, some 2, some 1⟩ ∧
      (Input.analyze.outcome missingBlock).1 =
        faultOutcome missingBlock ⟨.expectedBlockAfter "'if' statement" 1, some 2, some 1⟩ 1 ∧
      (Input.analyze.outcome missingBlock).1 ≠
        faultOutcome missingBlock ⟨.expectedBlockAfter "'if' statement" 1, some 2, some 1⟩ 2 := by
  have hevaluated : faultIn? (String.ofList missingBlock.source) =
        some ⟨.expectedBlockAfter "'if' statement" 1, some 2, some 1⟩ ∧
      faultDigits ⟨.expectedBlockAfter "'if' statement" 1, some 2, some 1⟩ 2 = ['1'] ∧
      numeral ['1'] = 1 ∧ ['1'].length ≤ maxDigits := by
    decide +kernel
  obtain ⟨hfault, hdigits, hnumeral, hlength⟩ := hevaluated
  have hread := readTree_of_faultIn? hfault
  have houtcome := outcome_of_fault hread rfl (hdigits ▸ hlength)
  rw [hdigits, hnumeral] at houtcome
  refine ⟨hread, houtcome, fun h => ?_⟩
  rw [houtcome, faultOutcome_inj] at h
  cases h

end CodeLint.Window
