import CodeLint.Measure.SelfCheck
import CodeLint.Measure.TimeShare
import CodeLint.Proofs.ReadValues
import CodeLint.Proofs.Ordered
import Mathlib.Data.List.Nodup
import Mathlib.Data.List.TakeWhile

/-!
What the measuring programs print and a round reads back: a line with the time shares, and a line
with a row for each bench. Nothing is lost on the way, as long as no name is there twice.
-/

namespace CodeLint.Measure

open CodeLint.Number CodeLint.Text

/-! ### The last line -/

def printedLine (j : Json) : String := String.ofList (j.chars ++ ['\n'])

theorem chars_object (ms : List (String × Json)) : ∃ cs, (Json.object ms).chars = '\x7b' :: cs := by
  cases ms with
  | nil => exact ⟨_, Json.chars.eq_def _⟩
  | cons m ms => exact ⟨_, Json.chars.eq_def _⟩

theorem not_blank_object (ms : List (String × Json)) (rest : List Char) :
    trim ((Json.object ms).chars ++ rest) ≠ [] := by
  obtain ⟨cs, hcs⟩ := chars_object ms
  rw [Ne, trim_eq_nil_iff, hcs, List.cons_append, List.all_cons]
  have hbrace : isBlank '\x7b' = false := by decide
  rw [hbrace]
  exact Bool.noConfusion

theorem isLineBreak_visible {cs : List Char} (h : Json.Visible cs) :
    ∀ c ∈ cs, isLineBreak c = false := by
  have hout : (['\n', '\r', '\x0b', '\x0c', '\x1c', '\x1d', '\x1e', '\u0085', '\u2028',
      '\u2029'].any fun d => decide (0x20 ≤ d.toNat ∧ d.toNat < 0x7f)) = false := by decide
  intro c hc
  rw [Bool.eq_false_iff]
  intro hbreak
  refine List.any_eq_false.mp hout c ?_ (decide_eq_true (h c hc))
  simpa [isLineBreak, or_assoc] using hbreak

theorem withoutLineEnd_line {cs : List Char} (h : Json.Visible cs) :
    withoutLineEnd (cs ++ ['\n']) = cs := by
  rw [withoutLineEnd, List.reverse_append, List.reverse_singleton, List.singleton_append]
  split
  · next rest hreturn =>
    have hmem : '\r' ∈ cs := by
      rw [← List.mem_reverse, (List.cons.inj hreturn).2]
      exact List.mem_cons_self
    exact absurd (h _ hmem) (by decide)
  · next c rest hend =>
    obtain ⟨rfl, rfl⟩ := List.cons.inj hend
    rw [if_pos (by decide), List.reverse_reverse]
  · next hend => cases hend

theorem lastLine_printedLine {ms : List (String × Json)} (h : (Json.object ms).Writable) :
    lastLine (printedLine (.object ms)) = String.ofList (Json.object ms).chars := by
  have hvisible := Json.visible_chars h
  rw [lastLine, printedLine, String.toList_ofList, withoutLineEnd_line hvisible,
    if_neg (by simpa using not_blank_object ms ['\n'])]
  have hline : ∀ c ∈ (Json.object ms).chars.reverse, (!isLineBreak c) = true := fun c hc => by
    rw [isLineBreak_visible hvisible c (List.mem_reverse.mp hc)]
    rfl
  rw [List.takeWhile_eq_self_iff.mpr hline, List.reverse_reverse]

theorem readLine_printedLine {ms : List (String × Json)} (h : (Json.object ms).Writable) :
    readLine (lastLine (printedLine (.object ms))) = .ok (.object ms) := by
  rw [lastLine_printedLine h, readLine, Json.read_chars h]

/-! ### Members -/

theorem foldl_setMember {ms : List (String × Json)} (h : (ms.map (·.1)).Nodup) :
    ms.foldl (fun acc (k, v) => setMember k v acc) [] = ms := by
  induction ms using List.reverseRecOn with
  | nil => rfl
  | append_singleton ms m ih =>
    obtain ⟨k, v⟩ := m
    rw [List.map_append, List.map_singleton, List.nodup_append] at h
    obtain ⟨hms, -, hk⟩ := h
    have hnew : ms.any (·.1 == k) = false := by
      rw [List.any_eq_false]
      intro m hm
      simpa using hk m.1 (List.mem_map_of_mem hm) k List.mem_cons_self
    rw [List.foldl_append, ih hms, List.foldl_cons, List.foldl_nil]
    change setMember k v ms = _
    rw [setMember, hnew]
    rfl

theorem itemsOf_object {ms : List (String × Json)} (h : (ms.map (·.1)).Nodup) :
    itemsOf (some (.object ms)) = .ok ms := by
  rw [itemsOf, foldl_setMember h]

/-- The items of a member. An empty member has none, as if it were missing. -/
theorem items_of_member {j : Json} {name : String} {ms : List (String × Json)}
    (hmember : memberIn j name = .ok (some (.object ms))) (h : (ms.map (·.1)).Nodup) :
    itemsIn j name = .ok ms := by
  rw [itemsIn, memberOf, hmember]
  cases ms with
  | nil => rfl
  | cons m ms => exact itemsOf_object h

theorem mapM_reals (xs : Ordered Double) :
    ((xs.map fun (k, x) => (k, Json.real x)).mapM fun (k, v) => return (k, ← asNumber v)) =
      (.ok xs : Except Failure _) := by
  induction xs with
  | nil => rfl
  | cons x xs ih =>
    rw [List.map_cons, List.mapM_cons, ih]
    rfl

theorem numbersOf_reals {j : Json} {name : String} {xs : Ordered Double}
    (hmember : memberIn j name = .ok (some (numbersJson xs))) (h : (xs.map (·.1)).Nodup) :
    numbersOf j name = .ok xs := by
  have hnames : ((xs.map fun (k, x) => (k, Json.real x)).map (·.1)).Nodup := by
    rwa [List.map_map]
  rw [numbersOf, items_of_member hmember hnames]
  exact mapM_reals xs

theorem listOf_texts {j : Json} {name : String} {ts : List String}
    (hmember : memberIn j name = .ok (some (textList ts))) : listOf j name = .ok ts := by
  rw [listOf, memberOf, hmember]
  cases ts with
  | nil => rfl
  | cons t ts =>
    have htexts : ((t :: ts).map Json.text).map plainText = t :: ts := by
      rw [List.map_map]
      exact List.map_id _
    exact congrArg Except.ok htexts

/-! ### Rows -/

structure Row.Proper (r : Row) : Prop where
  byParameter : (r.byParameter.map (·.1)).Nodup
  repoShare : (r.repoShare.map (·.1)).Nodup ∧ ∀ p ∈ r.repoShare, p.2.Proper
  compiledShare : ∀ p ∈ r.compiledShare, p.2.Proper
  repoMillis : (r.repoMillis.map (·.1)).Nodup ∧ ∀ p ∈ r.repoMillis, p.2.Proper

def Row.evidence (r : Row) : Evidence where
  returnType := (r.returnType.filter (!·.isEmpty)).getD "?"
  stable := r.stable
  byParameter := r.byParameter.map (·.2)
  inputs := r.parameters
  shares := r.repoShare.map (·.2)
  millis := r.repoMillis.map (·.2)

theorem returnTypeOf_json (r : Row) : returnTypeOf r.json = .ok r.evidence.returnType := by
  have hmember : memberIn r.json "ret_type" = .ok (some (Json.ofOption .text r.returnType)) := rfl
  rw [returnTypeOf, memberOf, hmember]
  cases htype : r.returnType with
  | none =>
    rw [Row.evidence, htype]
    rfl
  | some t =>
    change Except.ok (((some (Json.text t)).filter (!isEmptyJson ·)).elim "?" plainText) = _
    rw [Row.evidence, htype, Option.filter_some, Option.filter_some, isEmptyJson]
    cases t.isEmpty <;> rfl

theorem readEvidence_json {r : Row} (h : r.Proper) : readEvidence r.json = .ok r.evidence := by
  have hstable : listOf r.json "fp_stable" = .ok r.stable := listOf_texts rfl
  have hinputs : listOf r.json "param_fps" = .ok r.parameters := listOf_texts rfl
  have hparameters : itemsIn r.json "fp_by_param" =
      .ok (r.byParameter.map fun p => (p.1, .text p.2)) := by
    refine items_of_member rfl ?_
    rw [List.map_map]
    exact h.byParameter
  have hshares : numbersOf r.json "repo_frac" = .ok r.repoShare :=
    numbersOf_reals rfl h.repoShare.1
  have hmillis : numbersOf r.json "repo_tt_ms" = .ok r.repoMillis :=
    numbersOf_reals rfl h.repoMillis.1
  have htexts : ((r.byParameter.map fun p => (p.1, Json.text p.2)).map fun p => plainText p.2) =
      r.byParameter.map (·.2) := by
    rw [List.map_map]
    rfl
  rw [readEvidence, returnTypeOf_json, hstable, hparameters, hinputs, hshares, hmillis]
  change Except.ok (Evidence.mk r.evidence.returnType r.stable
    ((r.byParameter.map fun p => (p.1, Json.text p.2)).map fun p => plainText p.2)
    r.parameters _ _) = _
  rw [htexts]
  rfl

theorem texts_writable (ts : List String) : (textList ts).Writable :=
  .list (List.forall_mem_map.mpr fun t _ => .text t)

theorem numbers_writable {xs : Ordered Double} (h : ∀ p ∈ xs, p.2.Proper) :
    (numbersJson xs).Writable :=
  .object (List.forall_mem_map.mpr fun p hp => .real (h p hp))

theorem row_writable {r : Row} (h : r.Proper) : r.json.Writable := by
  have htype : (Json.ofOption .text r.returnType).Writable := by
    cases r.returnType with
    | none => exact .null
    | some t => exact .text t
  refine .object ?_
  simp only [List.forall_mem_cons]
  exact ⟨htype, texts_writable _, .object (List.forall_mem_map.mpr fun p _ => .text p.2),
    numbers_writable h.repoShare.2, numbers_writable h.compiledShare,
    numbers_writable h.repoMillis.2, texts_writable _, List.forall_mem_nil _⟩

def judgeRow (modified : Bool) (row : String × Row) : Judged :=
  ⟨row.1, row.2.evidence, judge modified row.2.evidence⟩

theorem judgeEach_cons (modified : Bool) (name : String) {ms : List (String × Json)} {e : Evidence}
    (h : readEvidence (.object ms) = .ok e) (rows : List (String × Json)) :
    judgeEach modified ((name, .object ms) :: rows) =
      (⟨name, e, judge modified e⟩ :: (judgeEach modified rows).1,
        (judgeEach modified rows).2) := by
  rw [judgeEach, h]

theorem judgeEach_rows (modified : Bool) {rows : List (String × Row)}
    (h : ∀ row ∈ rows, row.2.Proper) :
    judgeEach modified (rows.map fun (k, r) => (k, r.json)) =
      (rows.map (judgeRow modified), none) := by
  induction rows with
  | nil => rfl
  | cons row rows ih =>
    obtain ⟨hrow, hrows⟩ := List.forall_mem_cons.mp h
    obtain ⟨name, r⟩ := row
    refine (judgeEach_cons modified name (readEvidence_json hrow) _).trans ?_
    rw [ih hrows]
    rfl

theorem judgedFrom_of_read {modified : Bool} {out : String} {js : List Judged}
    (h : judgeLine modified (lastLine out) = (js, none)) (code : Int) (said : String) :
    judgedFrom modified (.finished code out said) = (js, said) := by
  rw [judgedFrom, h]
  exact congrArg (Prod.mk js) String.append_empty

/-- The verdicts from the line that the program prints: one for each row, in order. -/
theorem judgedFrom_printed (modified : Bool) {rows : List (String × Row)}
    (h : ∀ row ∈ rows, row.2.Proper) (hnames : (rows.map (·.1)).Nodup) (code : Int)
    (complaints : String) :
    judgedFrom modified (.finished code (printedLine (checksJson rows)) complaints) =
      (rows.map (judgeRow modified), complaints) := by
  have hwritable : (checksJson rows).Writable := by
    refine .object (List.forall_mem_singleton.mpr (.object ?_))
    exact List.forall_mem_map.mpr fun row hrow => row_writable (h row hrow)
  have hitems : itemsIn (checksJson rows) "semcheck" =
      .ok (rows.map fun (k, r) => (k, r.json)) := by
    refine items_of_member rfl ?_
    rwa [List.map_map]
  have hread : readLine (lastLine (printedLine (checksJson rows))) = .ok (checksJson rows) :=
    readLine_printedLine hwritable
  refine judgedFrom_of_read ?_ code complaints
  rw [judgeLine, hread]
  simp only [Except.bind, hitems]
  exact judgeEach_rows modified h

/-! ### Shares -/

theorem sharesFrom_of_read {out : String} {r : ShareReport}
    (h : readShares (lastLine out) = (r, none)) (code : Int) (said : String) :
    sharesFrom (.finished code out said) = (r, said) := by
  rw [sharesFrom, h]
  exact congrArg (Prod.mk r) String.append_empty

theorem sharesFrom_printed {ss : List (String × Share)}
    (h : ∀ s ∈ ss, s.2.percent.Proper ∧ ∀ p ∈ s.2.hottest, p.1.Proper)
    (hnames : (ss.map (·.1)).Nodup) (code : Int) (complaints : String) :
    sharesFrom (.finished code (printedLine (sharesJson ss)) complaints) =
      (⟨ss.map fun (k, s) => (k, s.percent), ss.map fun (k, s) => (k, s.placesJson)⟩,
        complaints) := by
  have hwritable : (sharesJson ss).Writable := by
    have hplaces : ∀ s ∈ ss, s.2.placesJson.Writable := fun s hs =>
      .list (List.forall_mem_map.mpr fun p hp => .list (by
        simp only [List.forall_mem_cons]
        exact ⟨.real ((h s hs).2 p hp), .text _, List.forall_mem_nil _⟩))
    refine .object ?_
    simp only [List.forall_mem_cons]
    exact ⟨.object (List.forall_mem_map.mpr fun s hs => .real (h s hs).1),
      .object (List.forall_mem_map.mpr hplaces), List.forall_mem_nil _⟩
  have hpercents : numbersOf (sharesJson ss) "repo_time_pct" =
      .ok (ss.map fun (k, s) => (k, s.percent)) := by
    refine numbersOf_reals ?_ ?_
    · rw [numbersJson, List.map_map]
      rfl
    · rwa [List.map_map]
  have hplaces : itemsIn (sharesJson ss) "hot_ext" =
      .ok (ss.map fun (k, s) => (k, s.placesJson)) := by
    refine items_of_member rfl ?_
    rwa [List.map_map]
  have hread : readLine (lastLine (printedLine (sharesJson ss))) = .ok (sharesJson ss) :=
    readLine_printedLine hwritable
  refine sharesFrom_of_read ?_ code complaints
  rw [readShares, hread]
  simp only [Except.bind, Except.map, hpercents, hplaces]

/-! ### Programs that print as they should -/

def Outcome.said : Outcome → String
  | .raised _ => ""
  | .finished _ _ said => said

theorem readLine_nothing : readLine (lastLine "") = .ok (.object []) := by
  have hline : lastLine "" = String.ofList (Json.object []).chars := rfl
  rw [hline, readLine, Json.read_chars (.object (List.forall_mem_nil _))]

theorem readLine_unloaded (f : Failure) :
    readLine (lastLine (printedLine (unloadedJson f))) = .ok (unloadedJson f) :=
  readLine_printedLine (.object (List.forall_mem_singleton.mpr (.text _)))

/-- The program of the shares is not there, could not load the suite, or printed these shares. -/
inductive SharesPrinted : Outcome → List (String × Share) → Prop
  | nothing : SharesPrinted (.finished 0 "" "") []
  | unloaded (code : Int) (f : Failure) (said : String) :
    SharesPrinted (.finished code (printedLine (unloadedJson f)) said) []
  | shares (code : Int) (said : String) {ss : List (String × Share)}
    (hnumbers : ∀ s ∈ ss, s.2.percent.Proper ∧ ∀ p ∈ s.2.hottest, p.1.Proper)
    (hnames : (ss.map (·.1)).Nodup) :
    SharesPrinted (.finished code (printedLine (sharesJson ss)) said) ss

theorem SharesPrinted.sharesFrom_eq {o : Outcome} {ss : List (String × Share)}
    (h : SharesPrinted o ss) :
    sharesFrom o = (⟨ss.map fun (k, s) => (k, s.percent), ss.map fun (k, s) => (k, s.placesJson)⟩,
      o.said) := by
  cases h with
  | nothing => exact sharesFrom_of_read (by rw [readShares, readLine_nothing]; rfl) 0 ""
  | unloaded code f said =>
    exact sharesFrom_of_read (by rw [readShares, readLine_unloaded]; rfl) code said
  | shares code said hnumbers hnames => exact sharesFrom_printed hnumbers hnames code said

/-- The program of the verdicts is not there, could not load the suite, or printed these rows. -/
inductive ChecksPrinted : Outcome → List (String × Row) → Prop
  | nothing : ChecksPrinted (.finished 0 "" "") []
  | unloaded (code : Int) (f : Failure) (said : String) :
    ChecksPrinted (.finished code (printedLine (unloadedJson f)) said) []
  | rows (code : Int) (said : String) {rows : List (String × Row)}
    (hrows : ∀ row ∈ rows, row.2.Proper) (hnames : (rows.map (·.1)).Nodup) :
    ChecksPrinted (.finished code (printedLine (checksJson rows)) said) rows

theorem ChecksPrinted.judgedFrom_eq {o : Outcome} {rows : List (String × Row)}
    (h : ChecksPrinted o rows) (modified : Bool) :
    judgedFrom modified o = (rows.map (judgeRow modified), o.said) := by
  cases h with
  | nothing => exact judgedFrom_of_read (by rw [judgeLine, readLine_nothing]; rfl) 0 ""
  | unloaded code f said =>
    exact judgedFrom_of_read (by rw [judgeLine, readLine_unloaded]; rfl) code said
  | rows code said hrows hnames => exact judgedFrom_printed modified hrows hnames code said

end CodeLint.Measure
