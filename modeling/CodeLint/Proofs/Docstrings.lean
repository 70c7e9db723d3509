import CodeLint.Proofs.LocalChecks
import Mathlib.Data.List.TakeWhile

/-!
Functions without documentation. What counts is what is left of the first text in the body once its
margin is cut off. Of a text with a character that is not blank something is left, whatever the
margin is. Of a blank text the first line is dropped, but the other lines keep their blanks: the
margin is that of the lines that are not blank, and there are none.
-/

namespace CodeLint.Text

/-! ### Lines -/

def behindFirstLine (cs : List Char) : List Char := cs.dropWhile (· != '\n')

theorem forall_splitAt_nil (cs : List Char) :
    (∀ l ∈ splitAt '\n' cs, l = []) ↔ ∀ c ∈ cs, c = '\n' := by
  induction cs with
  | nil => simp [splitAt]
  | cons c cs ih =>
    by_cases hc : c = '\n'
    · simp [splitAt, hc, ih]
    · have hline : ∃ l ∈ splitAt '\n' (c :: cs), l ≠ [] := by
        simp only [splitAt, beq_iff_eq, hc, if_false]
        cases splitAt '\n' cs <;> simp
      obtain ⟨l, hl, hne⟩ := hline
      simp only [List.forall_mem_cons, hc, false_and, iff_false]
      exact fun hall => hne (hall l hl)

theorem exists_splitAt (cs : List Char) :
    ∃ rest, splitAt '\n' cs = cs.takeWhile (· != '\n') :: rest ∧
      ((∀ l ∈ rest, l = []) ↔ ∀ c ∈ behindFirstLine cs, c = '\n') := by
  induction cs with
  | nil => exact ⟨[], rfl, by simp [behindFirstLine]⟩
  | cons c cs ih =>
    by_cases hc : c = '\n'
    · exact ⟨splitAt '\n' cs, by simp [splitAt, hc],
        by simp [forall_splitAt_nil, behindFirstLine, hc]⟩
    · obtain ⟨rest, hsplit, hrest⟩ := ih
      exact ⟨rest, by simp [splitAt, hsplit, hc], by simpa [behindFirstLine, hc] using hrest⟩

/-! ### Tabs -/

theorem forall_expandTabs_newline (column : Nat) (cs : List Char) :
    (∀ c ∈ expandTabsFrom column cs, c = '\n') ↔ ∀ c ∈ cs, c = '\n' := by
  induction cs generalizing column with
  | nil => rfl
  | cons c cs ih =>
    by_cases htab : c = '\t'
    · have hwidth : 8 - column % 8 ≠ 0 := by omega
      simp [expandTabsFrom, htab, hwidth]
    · simp only [expandTabsFrom, beq_iff_eq, htab, if_false]
      split <;> simp [ih]

/-- A tab is neither the end of a line nor anything but blank, like what it becomes. -/
theorem expandTabs_lines (column : Nat) (cs : List Char) :
    ((expandTabsFrom column cs).takeWhile (· != '\n')).all isBlank =
        (cs.takeWhile (· != '\n')).all isBlank ∧
      ((∀ c ∈ behindFirstLine (expandTabsFrom column cs), c = '\n') ↔
        ∀ c ∈ behindFirstLine cs, c = '\n') := by
  induction cs generalizing column with
  | nil => exact ⟨rfl, Iff.rfl⟩
  | cons c cs ih =>
    by_cases htab : c = '\t'
    · have hspaces : ∀ c ∈ List.replicate (8 - column % 8) ' ', (c != '\n') = true := by
        simp +contextual [List.mem_replicate]
      have hblank : isBlank ' ' = true := rfl
      have htabBlank : isBlank '\t' = true := rfl
      obtain ⟨hfirst, hbehind⟩ := ih 0
      unfold behindFirstLine at hbehind ⊢
      simp only [expandTabsFrom, htab, BEq.rfl, if_true]
      rw [List.takeWhile_append_of_pos hspaces, List.dropWhile_append_of_pos hspaces]
      simp [hfirst, hbehind, hblank, htabBlank]
    · by_cases hend : c = '\n'
      · simp [expandTabsFrom, behindFirstLine, hend, forall_expandTabs_newline]
      · simp only [expandTabsFrom, beq_iff_eq, htab, if_false]
        split <;> simpa [behindFirstLine, hend] using And.imp_left (fun h => by rw [h]) (ih _)

/-! ### Margins -/

theorem dropEmptyEnds_eq_nil_iff (lines : List (List Char)) :
    dropEmptyEnds lines = [] ↔ ∀ l ∈ lines, l = [] := by
  rw [dropEmptyEnds, List.reverse_eq_nil_iff, List.dropWhile_eq_nil_iff, ← List.all_eq_true,
    List.all_reverse, all_dropWhile, List.all_eq_true]
  simp only [List.isEmpty_iff]

/-- The margin is the indentation of a line, which goes on behind it. -/
theorem exists_longer_of_margin {lines : List (List Char)} {k : Nat} (h : margin? lines = some k) :
    ∃ l ∈ lines, k < l.length := by
  obtain ⟨l, hl, rfl⟩ := List.mem_map.mp (List.min?_mem h)
  obtain ⟨hmem, hink⟩ := List.mem_filter.mp hl
  refine ⟨l, hmem, ?_⟩
  by_contra hlong
  have hall : l.takeWhile isBlank = l :=
    (List.takeWhile_prefix _).eq_of_length_le (not_lt.mp hlong)
  rw [List.takeWhile_eq_self_iff, ← List.all_eq_true] at hall
  simp [hall] at hink

/-- Nothing is left of a text whose first line is blank and whose other lines are empty. Cutting the
margin off empties no line that is not empty, for the line that gives the margin goes on. -/
theorem withoutMargin_eq_nil_iff (text : List Char) :
    withoutMargin text = [] ↔
      (text.takeWhile (· != '\n')).all isBlank = true ∧ ∀ c ∈ behindFirstLine text, c = '\n' := by
  obtain ⟨rest, hsplit, hrest⟩ := exists_splitAt (expandTabsFrom 0 text)
  obtain ⟨hfirst, hbehind⟩ := expandTabs_lines 0 text
  rw [← hfirst, ← hbehind, ← hrest, List.all_eq_true, ← List.dropWhile_eq_nil_iff]
  simp only [withoutMargin, hsplit]
  cases hmargin : margin? rest with
  | none => simp only [dropEmptyEnds_eq_nil_iff, List.forall_mem_cons, trimLeft]
  | some k =>
    obtain ⟨l, hl, hlong⟩ := exists_longer_of_margin hmargin
    have hcut : (∀ l ∈ rest.map (List.drop k), l = []) ↔ ∀ l ∈ rest, l = [] := by
      constructor
      · intro hall
        have hshort := List.drop_eq_nil_iff.mp (hall _ (List.mem_map_of_mem hl))
        omega
      · intro hall
        rw [hall l hl] at hlong
        simp at hlong
    simp only [dropEmptyEnds_eq_nil_iff, List.forall_mem_cons, hcut, trimLeft]

def hasInk (s : String) : Bool := s.toList.any (!isBlank ·)

/-- A documentation text shows something when it has a character that is not blank, or when behind
its first line stands anything but line feeds: then the other lines have no margin to be cut off. -/
def shows (s : String) : Bool := hasInk s || (behindFirstLine s.toList).any (· != '\n')

theorem isDocumentation_eq_shows (s : String) : isDocumentation s = shows s := by
  have hall : s.toList.all isBlank =
      ((s.toList.takeWhile (· != '\n')).all isBlank && (behindFirstLine s.toList).all isBlank) := by
    rw [behindFirstLine, ← List.all_append, List.takeWhile_append_dropWhile]
  have hink : hasInk s = !s.toList.all isBlank := by rw [hasInk, List.not_all_eq_any_not]
  have hleft := withoutMargin_eq_nil_iff s.toList
  rw [isDocumentation, shows, hink, hall]
  by_cases hbehind : ∀ c ∈ behindFirstLine s.toList, c = '\n'
  · have hblank : (behindFirstLine s.toList).all isBlank = true :=
      List.all_eq_true.mpr fun c hc => hbehind c hc ▸ rfl
    have hfeeds : (behindFirstLine s.toList).any (· != '\n') = false :=
      List.any_eq_false.mpr fun c hc => by simp [hbehind c hc]
    rw [hblank, hfeeds, Bool.and_true, Bool.or_false]
    refine congrArg Bool.not ?_
    rw [Bool.eq_iff_iff, List.isEmpty_iff, hleft]
    exact and_iff_left hbehind
  · have hmore : (behindFirstLine s.toList).any (· != '\n') = true := by
      simpa using hbehind
    rw [hmore, Bool.or_true]
    simp [hleft, hbehind]

end CodeLint.Text

namespace CodeLint.Lint

open CodeLint.Tree CodeLint.Text

/-! ### The reports on functions -/

def constantText? (v : Value) : Option String :=
  if v.isKind .constant then
    match v.part .value with
    | .atom (.str s) => some s
    | _ => none
  else none

def openingText? (n : Node) : Option String :=
  let first := ((Value.node n).part .body).item 0
  if first.isKind .expr then constantText? (first.part .value) else none

theorem constantText?_any (p : String → Bool) (v : Value) :
    (constantText? v).any p =
      (v.isKind .constant && ((v.part .value).isText && p (v.part .value).text)) := by
  rw [constantText?]
  cases v.isKind .constant with
  | false => rfl
  | true =>
    cases v.part .value with
    | atom a => cases a <;> rfl
    | node m => rfl
    | list vs => rfl

theorem item_of_isFalsy {body : Value} (h : body.isFalsy = true) : body.item 0 = .atom .none := by
  cases body with
  | atom a => rfl
  | node m => cases h
  | list vs =>
    cases vs with
    | nil => rfl
    | cons v vs => cases h

theorem documented_eq (n : Node) : documented n = (openingText? n).any shows := by
  have hshows : shows = isDocumentation := funext fun s => (isDocumentation_eq_shows s).symm
  simp only [documented, openingText?]
  cases hbody : ((Value.node n).part .body).isFalsy with
  | true =>
    rw [item_of_isFalsy hbody]
    rfl
  | false =>
    cases (((Value.node n).part .body).item 0).isKind .expr with
    | false => rfl
    | true =>
      simp only [Bool.not_true, Bool.false_eq_true, if_false, if_true, constantText?_any, hshows]
      cases Value.isKind .constant _ <;> rfl

def lacksText (p : String → Bool) (n : Node) : Bool :=
  n.kind == .functionDef && !(openingText? n).any p

def missingIssue (n : Node) : Issue := ⟨.missingDocstring n.title, n.line?⟩

def Finding.isMissing (f : Finding) : Bool := f.code == "C0111"

theorem outright_isMissing : Outright Finding.isMissing :=
  ⟨fun _ => rfl, fun _ => rfl, fun _ => rfl, fun _ => rfl, fun _ => rfl, rfl⟩

def missingIssues (n : Node) : List Issue := if lacksText shows n then [missingIssue n] else []

theorem localReports_missing (n : Node) :
    (localReports n).filterMap (Effect.issueIf Finding.isMissing) = missingIssues n := by
  by_cases hk : n.kind = .functionDef
  · have hsignature : Without Finding.isMissing
        (signatureEffects n n.title ((Value.node n).part .positional)) := by
      intro e he
      obtain ⟨f, line, rfl, hf⟩ := onlyReports_signature (q := fun f => f.isMissing = false)
        (fun f _ _ hf => hf) n _ _ e he
      rw [Effect.issueIf, hf, if_neg Bool.false_ne_true]
    rw [localReports, hk, missingIssues, lacksText, hk, ← documented_eq]
    simp only [List.filterMap_append, filterMap_without hsignature, List.append_nil]
    cases !isDunder n.title && !snakeCase.accepts n.title <;> cases documented n <;> rfl
  · have hnone : Without Finding.isMissing (localReports n) := by
      intro e he
      obtain ⟨f, line, rfl, hf⟩ := onlyReports_of_nodes (q := fun f => f.isMissing = false)
        (fun f _ _ hf => hf) (fun _ => rfl) (fun hfunction => absurd hfunction hk) e he
      rw [Effect.issueIf, hf, if_neg Bool.false_ne_true]
    rw [filterMap_without hnone]
    simp [missingIssues, lacksText, hk]

theorem missingRecord_fills : (choiceRecord outright_isMissing).Fills missingIssues where
  on_enter above n := by
    have hbefore : Without Finding.isMissing (beforeReports n) := without_beforeReports n
    have hafter : Without Finding.isMissing (afterReports above n) :=
      without_afterReports (fun _ => rfl) (fun _ => rfl) fun _ => without_callEffects rfl above n
    change (entering above n).filterMap (Effect.issueIf Finding.isMissing) = missingIssues n
    rw [entering_eq, List.filterMap_append, List.filterMap_append, filterMap_without hbefore,
      filterMap_without hafter, List.nil_append, List.append_nil, localReports_missing]
  on_leave n previous := filterMap_without (without_leaving n previous)

theorem flatMap_missingIssues (ns : List Node) :
    ns.flatMap missingIssues = (ns.filter (lacksText shows)).map missingIssue := by
  induction ns with
  | nil => rfl
  | cons n ns ih =>
    rw [List.flatMap_cons, ih, missingIssues, List.filter_cons]
    split <;> rfl

/-- The functions reported as undocumented are, in order, those whose body does not begin with a text
that shows something. Each is reported on being entered, wherever it stands and whatever came
before it. -/
theorem missing_docstrings_reported {n : Node} (h : n.WellFormed) :
    (∃ a, analysis n = .ok a ∧
      a.withCode "C0111" = (n.preorder.filter (lacksText shows)).map missingIssue) ∧
    ∀ above m a b, Runs (enter above m) a () b →
      b.withCode "C0111" = a.withCode "C0111" ++
        if lacksText shows m then [missingIssue m] else [] := by
  constructor
  · obtain ⟨b, hb, ha⟩ := analysis_eq h
    have hview := missingRecord_fills.view_visit h.2.plain hb
    rw [foldl_concat, flatMap_missingIssues] at hview
    exact ⟨_, ha, (chosen_reportUnused outright_isMissing b).trans hview⟩
  · intro above m a b hrun
    have hview := missingRecord_fills.view_enter hrun
    rw [foldl_concat] at hview
    exact hview

def documentedInside : Node :=
  treeOf "def f():\n ' '\n def g():\n  '''\n\ta'''\nasync def h(): 0\n"

theorem missing_docstrings_reported_documentedInside :
    documentedInside.WellFormed ∧ ∃ a, analysis documentedInside = .ok a ∧
      a.withCode "C0111" = [⟨.missingDocstring "f", some 1⟩] := by
  have hevaluated : documentedInside.WellFormed ∧
      (documentedInside.preorder.filter (lacksText shows)).map missingIssue =
        [⟨.missingDocstring "f", some 1⟩] := by
    decide +kernel
  obtain ⟨hformed, hlacking⟩ := hevaluated
  obtain ⟨a, ha, hreported⟩ := (missing_docstrings_reported hformed).1
  exact ⟨hformed, a, ha, hreported.trans hlacking⟩

def blankBelow : Node := treeOf "def f():\n    '''\n    '''\n"

theorem blank_docstring_accepted :
    blankBelow.WellFormed ∧
      (blankBelow.preorder.filter (lacksText hasInk)).map missingIssue =
        [⟨.missingDocstring "f", some 1⟩] ∧
      ∃ a, analysis blankBelow = .ok a ∧ a.withCode "C0111" = [] := by
  have hevaluated : blankBelow.WellFormed ∧
      (blankBelow.preorder.filter (lacksText hasInk)).map missingIssue =
        [⟨.missingDocstring "f", some 1⟩] ∧
      ((analysis blankBelow).map fun a => a.withCode "C0111") = .ok [] := by
    decide +kernel
  obtain ⟨hformed, hlacking, hissues⟩ := hevaluated
  cases ha : analysis blankBelow with
  | error e =>
    rw [ha] at hissues
    cases hissues
  | ok a =>
    rw [ha] at hissues
    exact ⟨hformed, hlacking, a, rfl, Except.ok.inj hissues⟩

end CodeLint.Lint
