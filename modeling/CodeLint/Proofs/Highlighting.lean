import CodeLint.Proofs.LineSearch
import CodeLint.Proofs.NestedCalls

/-!
Highlighting agrees with the analysis. Analysing the code in the pane clears the highlights once and
then highlights one line for each issue that is shown, the line with which the issue was recorded.
-/

namespace CodeLint.Window

open CodeLint.Text CodeLint.Tree CodeLint.Lint

/-! ### Events that end -/

/-- The event ends without a fault; it has done the actions and left the window. -/
def Does (e : Event Unit) (w : State) (actions : List Action) (w' : State) : Prop :=
  ∀ done, e.run.run ⟨w, done⟩ = (.ok (), ⟨w', actions.reverse ++ done⟩)

variable {w w' w'' : State} {as bs : List Action} {e e' : Event Unit}

theorem does_pure (w : State) : Does (pure ()) w [] w := fun _ => rfl

theorem does_act (a : Action) (w : State) : Does (act a) w [a] w := fun _ => rfl

theorem does_update (f : State → State) (w : State) : Does (update f) w [] (f w) := fun _ => rfl

theorem Does.seq (h : Does e w as w') (h' : Does e' w' bs w'') :
    Does (e >>= fun _ => e') w (as ++ bs) w'' := by
  intro done
  rw [ExceptT.run_bind, StateT.run_bind, h done, List.reverse_append, List.append_assoc]
  exact h' (as.reverse ++ done)

theorem does_get {f : Progress → Event Unit} (h : ∀ done, Does (f ⟨w, done⟩) w as w') :
    Does (get >>= f) w as w' :=
  fun done => h done done

theorem does_forM {α β : Type} {f : β → Event Unit} {k : α → β} {g : α → Action} {xs : List α}
    (h : ∀ x ∈ xs, Does (f (k x)) w [g x] w) : Does ((xs.map k).forM f) w (xs.map g) w := by
  induction xs with
  | nil => exact does_pure w
  | cons x xs ih =>
    exact (h x List.mem_cons_self).seq (ih fun y hy => h y (List.mem_cons_of_mem x hy))

theorem Does.outcome {i : Input} (h : Does i.event w as w') :
    i.outcome w = (⟨as, w'.code, w'.results, none⟩, w') := by
  rw [Input.outcome, h]
  simp

/-! ### Showing and highlighting -/

def resultText (ts : List String) : String := if ts.isEmpty then noIssues else "\n".intercalate ts

theorem badItem?_texts (k : Nat) (ts : List String) : badItem? k (ts.map Item.text) = none := by
  induction ts generalizing k with
  | nil => rfl
  | cons t ts ih => exact ih (k + 1)

theorem showResults_does (w : State) (ts : List String) :
    Does (showResults (ts.map Item.text)) w
      [.unlockResults, .clearResults, .insertResults (resultText ts), .lockResults]
      { w with results := resultText ts } := by
  have hshown : (ts.map Item.text).map Item.shown = ts := by
    rw [List.map_map]
    exact List.map_id ts
  unfold showResults
  rw [badItem?_texts, hshown, List.isEmpty_map]
  refine (does_act _ w).seq ((does_act _ w).seq ((does_update _ w).seq ((does_act _ _).seq ?_)))
  have hfilled := (does_update (fun w => { w with results := w.results ++ resultText ts })
    { w with results := "" }).seq (does_act .lockResults _)
  rw [String.empty_append] at hfilled
  exact hfilled

end CodeLint.Window

namespace CodeLint.Lint

open CodeLint.Tree CodeLint.Text CodeLint.Window

def Issue.highlight (i : Issue) : Action :=
  .highlight (lineText i.line ++ ".0") (lineText i.line ++ ".0 lineend")

variable {n : Node} {i : Issue} {w : State} {last : Nat}

theorem exists_line (hlegible : n.Legible last)
    (hlast : (Nat.toDigits 10 last).length ≤ Source.maxDigits) (hi : i.ArisesIn n) :
    ∃ k : Nat, i.line = some (k : Int) ∧ (Nat.toDigits 10 k).length ≤ Source.maxDigits ∧
      ∃ m ∈ n.preorder, m.line? = some (k : Int) := by
  obtain ⟨-, hsome, m, hm, hline⟩ := hi
  obtain ⟨line, hsome⟩ := Option.isSome_iff_exists.mp hsome
  rw [hsome] at hline
  obtain ⟨hpos, hlimit⟩ := hlegible.lines m hm line hline
  obtain ⟨k, rfl⟩ := Int.eq_ofNat_of_zero_le hpos
  exact ⟨k, hsome, Nat.le_trans (length_toDigits_mono (Int.ofNat_le.mp hlimit)) hlast, m, hm, hline⟩

theorem passes_lead_of_arises (hlegible : n.Legible last) (hi : i.ArisesIn n) :
    Passes false i.lead false := by
  refine passes_lead hi.1.1 fun x hx => ?_
  obtain ⟨m, hm, l, hl, rfl⟩ := hi.1.2 x hx
  exact hlegible.textAt hm hl

theorem highlightItem_does (hlegible : n.Legible last)
    (hlast : (Nat.toDigits 10 last).length ≤ Source.maxDigits) (hi : i.ArisesIn n) :
    Does (highlightItem (.text i.text)) w [i.highlight] w := by
  obtain ⟨k, hline, hlength, -⟩ := exists_line hlegible hlast hi
  have hdigits := lineDigits?_text hline (passes_lead_of_arises hlegible hi)
  have hend : lineText i.line ++ ".0 lineend" = lineEnd (k : Int) := by
    rw [hline, lineEnd, lineStart, String.append_assoc]
    rfl
  rw [highlightItem, hdigits]
  simp only [if_neg (Nat.not_lt.mpr hlength), numeral_toDigits]
  rw [Issue.highlight, hend, hline]
  exact does_act _ w

theorem highlight_does (hlegible : n.Legible last)
    (hlast : (Nat.toDigits 10 last).length ≤ Source.maxDigits) {is : List Issue}
    (his : ∀ i ∈ is, i.ArisesIn n) :
    Does (highlight ((is.map Issue.text).map Item.text)) w
      (Action.removeHighlights :: is.map Issue.highlight ++ [Action.styleHighlights]) w := by
  rw [List.map_map]
  refine (does_act _ w).seq (.seq ?_ (does_act _ w))
  exact does_forM fun i hi => highlightItem_does hlegible hlast (his i hi)

end CodeLint.Lint

namespace CodeLint.Window

open CodeLint.Text CodeLint.Tree CodeLint.Lint

def State.source (w : State) : List Char := trimRight (w.code ++ "\n").toList

/-- The number of every line of the text is short enough to be read back from an issue. -/
def NumbersReadable (text : String) : Prop :=
  (Nat.toDigits 10 (Source.lastLine text)).length ≤ Source.maxDigits

instance (text : String) : Decidable (NumbersReadable text) := inferInstanceAs (Decidable (_ ≤ _))

theorem analyze_does {w : State} {n : Node} {a : Analysis} (hcode : trim w.source ≠ [])
    (hissues : issues w.room (.text (String.ofList w.source)) = .ok a.texts)
    (hread : readTree (String.ofList w.source) = .ok n)
    (hnumbers : NumbersReadable (String.ofList w.source)) (ha : ∀ i ∈ a.issues, i.ArisesIn n) :
    Does analyze w
      ([Action.readCode, .unlockResults, .clearResults, .insertResults (resultText a.texts),
        .lockResults, .removeHighlights] ++ a.issues.map Issue.highlight ++
          [Action.styleHighlights])
      { w with results := resultText a.texts } := by
  have hlegible := readTree_legible hread
  unfold State.source at hcode hissues
  refine (does_act _ w).seq (does_get fun done => ?_)
  simp only [List.isEmpty_iff, if_neg hcode]
  refine does_get fun done => ?_
  simp only [hissues]
  exact (showResults_does w _).seq (highlight_does hlegible hnumbers ha)

/-- Analysing code that is not blank, can be read and is not nested too deep clears the highlights
once and then highlights, for each issue in order, the line with which it was recorded. That line is
the line of a node, and the search for it can match nowhere else in the text of the issue. -/
theorem highlights_of_issues {w : State} {n : Node} (hcode : trim w.source ≠ [])
    (hread : readTree (String.ofList w.source) = .ok n) (hroom : n.nesting ≤ w.room)
    (hnumbers : NumbersReadable (String.ofList w.source)) :
    ∃ a : Analysis,
      analysis n = .ok a ∧ issues w.room (.text (String.ofList w.source)) = .ok a.texts ∧
      (Input.analyze.outcome w).1 =
        { actions := [.readCode, .unlockResults, .clearResults,
            .insertResults (resultText a.texts), .lockResults, .removeHighlights] ++
              a.issues.map Issue.highlight ++ [.styleHighlights]
          code := w.code
          results := resultText a.texts
          fault := none } ∧
      ∀ i ∈ a.issues, (∃ m ∈ n.preorder, ∃ line, m.line? = some line ∧ i.line = some line) ∧
        ∀ p d rest, i.text.toList = p ++ "line ".toList ++ d :: rest → isDigit d = true →
          p = i.lead := by
  obtain ⟨a, ha, harises⟩ := issues_arise (readTree_wellFormed hread)
  obtain ⟨_, ha', hissues⟩ := issues_of_tree hread hroom
  obtain rfl := Except.ok.inj (ha'.symm.trans ha)
  have hdoes := analyze_does hcode hissues hread hnumbers harises
  refine ⟨_, ha, hissues, by rw [hdoes.outcome (i := .analyze)], fun i hi => ?_⟩
  have hlegible := readTree_legible hread
  obtain ⟨k, hline, -, m, hm, hmline⟩ := exists_line hlegible hnumbers (harises i hi)
  refine ⟨⟨m, hm, k, hmline, hline⟩, fun p d rest htext hd => ?_⟩
  exact match_unique hline (passes_lead_of_arises hlegible (harises i hi)) htext hd

def lineInName : State := { code := "\nline1 = 2\n" }

theorem highlights_of_issues_lineInName :
    (readTree (String.ofList lineInName.source)).isOk = true ∧
      (Input.analyze.outcome lineInName).1.actions =
        [.readCode, .unlockResults, .clearResults,
          .insertResults "W0612: Unused variable 'line1' (line 2)", .lockResults,
          .removeHighlights, .highlight "2.0" "2.0 lineend", .styleHighlights] := by
  have hevaluated : trim lineInName.source ≠ [] ∧
      (readTree (String.ofList lineInName.source)).isOk = true ∧
      (treeOf (String.ofList lineInName.source)).nesting ≤ lineInName.room ∧
      NumbersReadable (String.ofList lineInName.source) ∧
      (analysis (treeOf (String.ofList lineInName.source))).toOption.map (·.issues) =
        some [⟨.unusedVariable "line1", some 2⟩] := by
    decide +kernel
  obtain ⟨hcode, hok, hroom, hnumbers, hissues⟩ := hevaluated
  obtain ⟨a, ha, -, houtcome, -⟩ :=
    highlights_of_issues hcode (readTree_of_isOk hok) hroom hnumbers
  rw [ha] at hissues
  have honly : a.issues = [⟨.unusedVariable "line1", some 2⟩] := Option.some.inj hissues
  refine ⟨hok, ?_⟩
  rw [houtcome, Analysis.texts, honly]
  rfl

theorem blank_code_keeps_highlights :
    (readTree (String.ofList (State.source {}))).isOk = true ∧
      (analysis (treeOf (String.ofList (State.source {})))).toOption.map (·.texts) = some [] ∧
      (Input.analyze.outcome {}).1.actions =
        [.readCode, .showError "ERROR" "Please enter or upload code for analysis."] := by
  refine ⟨by decide +kernel, by decide +kernel, rfl⟩

end CodeLint.Window
