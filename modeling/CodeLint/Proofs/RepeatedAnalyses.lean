import CodeLint.Proofs.ChosenFiles
import CodeLint.Workload.Bench

/-!
Analysing again. No input changes how many calls an analysis can nest, so what analysing code does
depends on the code alone, whatever happened in the window before. A bench that analyses sources in
one window, run after run, gives the same texts each time.
-/

namespace CodeLint.Window

open CodeLint.Text CodeLint.Lint

/-! ### What no input changes -/

def KeepsRoom {α : Type} (e : Event α) : Prop :=
  ∀ w done, (e.run.run ⟨w, done⟩).2.window.room = w.room

theorem Ends.unique {α : Type} {e : Event α} {w w' w'' : State} {r r' : Except Fault α}
    {as bs : List Action} (h : Ends e w r as w') (h' : Ends e w r' bs w'') : r = r' :=
  congrArg Prod.fst ((h []).symm.trans (h' []))

section KeepsRoom

variable {α β : Type} {e : Event α} {g : α → Event β}

theorem keepsRoom_of_ends (h : ∀ w, ∃ r as w', Ends e w r as w' ∧ w'.room = w.room) :
    KeepsRoom e := by
  intro w done
  obtain ⟨r, as, w', hends, hroom⟩ := h w
  rw [hends]
  exact hroom

theorem KeepsRoom.bind (he : KeepsRoom e) (hg : ∀ x, KeepsRoom (g x)) : KeepsRoom (e >>= g) := by
  intro w done
  have hroom := he w done
  rw [ExceptT.run_bind, StateT.run_bind]
  generalize e.run.run ⟨w, done⟩ = answer at hroom ⊢
  obtain ⟨r, ⟨w', done'⟩⟩ := answer
  cases r with
  | ok x => exact (hg x w' done').trans hroom
  | error f => exact hroom

theorem keepsRoom_act (a : Action) : KeepsRoom (act a) := fun _ _ => rfl

theorem keepsRoom_update {f : State → State} (h : ∀ w, (f w).room = w.room) :
    KeepsRoom (update f) := fun w _ => h w

theorem keepsRoom_throw (f : Fault) : KeepsRoom (throw f : Event α) := fun _ _ => rfl

theorem keepsRoom_get : KeepsRoom (get : Event Progress) := fun _ _ => rfl

end KeepsRoom

theorem keepsRoom_of_does {e : Event Unit} (h : ∀ w, ∃ as w', Does e w as w' ∧ w'.room = w.room) :
    KeepsRoom e :=
  keepsRoom_of_ends fun w =>
    have ⟨as, w', hdoes, hroom⟩ := h w
    ⟨.ok (), as, w', hdoes, hroom⟩

theorem drawMargin_keepsRoom : KeepsRoom drawMargin :=
  keepsRoom_of_does fun w => ⟨_, w, drawMargin_does w, rfl⟩

theorem showResults_keepsRoom (items : List Item) : KeepsRoom (showResults items) := by
  have hinsert (text : String) : KeepsRoom (do
      act (.insertResults text)
      update fun w => { w with results := w.results ++ text }
      act .lockResults) :=
    (keepsRoom_act _).bind fun _ => .bind (keepsRoom_update fun _ => rfl) fun _ => keepsRoom_act _
  refine (keepsRoom_act _).bind fun _ => (keepsRoom_act _).bind fun _ =>
    .bind (keepsRoom_update fun _ => rfl) fun _ => ?_
  cases badItem? 0 items with
  | some bad => exact (keepsRoom_throw _).bind fun _ => hinsert _
  | none => exact hinsert _

theorem highlight_keepsRoom (items : List Item) : KeepsRoom (highlight items) := by
  obtain ⟨r, as, hends⟩ := highlight_ends items
  exact keepsRoom_of_ends fun w => ⟨r, _, w, hends w, rfl⟩

theorem analyze_keepsRoom : KeepsRoom analyze := by
  refine (keepsRoom_act _).bind fun _ => keepsRoom_get.bind fun p => ?_
  dsimp only
  split
  · exact keepsRoom_act _
  · refine keepsRoom_get.bind fun p => ?_
    split
    · exact keepsRoom_throw _
    · exact (showResults_keepsRoom _).bind fun _ => highlight_keepsRoom _

theorem openFile_does (path : String) (w : State) :
    ∃ as w', Does (openFile path) w as w' ∧ w'.room = w.room := by
  by_cases hpath : path = ""
  · exact ⟨[], w, hpath ▸ openFile_does_empty w, rfl⟩
  · cases hread : readFile w.files path with
    | error e => exact ⟨_, w, openFile_does_error hpath hread, rfl⟩
    | ok text => exact ⟨_, _, openFile_does_text hpath hread, rfl⟩

theorem turnWheel_keepsRoom (turn : Turn) : KeepsRoom (turnWheel turn) := by
  unfold turnWheel
  split
  · exact keepsRoom_throw _
  · exact (keepsRoom_act _).bind fun _ => (keepsRoom_act _).bind fun _ => drawMargin_keepsRoom

theorem Input.event_keepsRoom (i : Input) : KeepsRoom i.event := by
  cases i with
  | type text => exact keepsRoom_update fun _ => rfl
  | view rows first width => exact keepsRoom_update fun _ => rfl
  | analyze => exact analyze_keepsRoom
  | display items => exact showResults_keepsRoom items
  | highlight items => exact highlight_keepsRoom items
  | numbers => exact drawMargin_keepsRoom
  | scroll arguments =>
    exact (keepsRoom_act _).bind fun _ => (keepsRoom_act _).bind fun _ => drawMargin_keepsRoom
  | wheel turn => exact turnWheel_keepsRoom turn
  | disk files => exact keepsRoom_update fun _ => rfl
  | upload path => exact keepsRoom_of_does (openFile_does path)

theorem room_stateAfter (is : List Input) (w : State) : (stateAfter is w).room = w.room := by
  induction is generalizing w with
  | nil => rfl
  | cons i is ih => exact (ih _).trans (i.event_keepsRoom w [])

/-! ### Events that end alike in windows of one room -/

def EndsIn {α : Type} (room : Nat) (e : Event α) (r : Except Fault α) : Prop :=
  ∀ w : State, w.room = room → ∃ as w', Ends e w r as w' ∧ w'.room = room

section EndsIn

variable {α β : Type} {room : Nat} {e : Event α} {g : α → Event β}

theorem EndsIn.bind {r : Except Fault α} {q : α → Except Fault β} (h : EndsIn room e r)
    (h' : ∀ x, EndsIn room (g x) (q x)) : EndsIn room (e >>= g) (r >>= q) := by
  intro w hw
  obtain ⟨as, w', hends, hw'⟩ := h w hw
  cases r with
  | error f => exact ⟨as, w', hends.stop, hw'⟩
  | ok x =>
    obtain ⟨bs, w'', hends', hw''⟩ := h' x w' hw'
    exact ⟨as ++ bs, w'', hends.seq hends', hw''⟩

theorem endsIn_pure (x : α) : EndsIn room (pure x) (.ok x) := fun w hw => ⟨[], w, ends_pure x w, hw⟩

end EndsIn

theorem endsIn_of_does {room : Nat} {e : Event Unit}
    (h : ∀ w, ∃ as w', Does e w as w' ∧ w'.room = w.room) : EndsIn room e (.ok ()) := by
  intro w hw
  obtain ⟨as, w', hdoes, hroom⟩ := h w
  exact ⟨as, w', hdoes, hroom.trans hw⟩

theorem endsIn_forM {room : Nat} {is : List Input} (h : ∀ i ∈ is, EndsIn room i.event (.ok ())) :
    EndsIn room (is.forM Input.event) (.ok ()) := by
  induction is with
  | nil => exact endsIn_pure ()
  | cons i is ih =>
    obtain ⟨hi, his⟩ := List.forall_mem_cons.mp h
    exact hi.bind fun _ => ih his

end CodeLint.Window

namespace CodeLint.Workload

open CodeLint.Text CodeLint.Lint CodeLint.Window

/-! ### The bench of windows -/

def analysedText (source : String) : String := String.ofList (trimRight source.toList)

theorem type_ends (source : String) (w : State) :
    Ends (Input.type source).event w (.ok ()) [] { w with code := source } := fun _ => rfl

theorem resultOf_ends {source : String} {w w' : State} {as : List Action}
    (h : Ends analyze { w with code := source } (.ok ()) as w') :
    Ends (resultOf source) w (.ok w'.results) as w' := by
  unfold resultOf
  refine (type_ends source w).seq ?_
  rw [← List.append_nil as]
  exact h.seq (ends_get fun _ => ends_pure _ _)

theorem resultOf_ends_error {source : String} {w w' : State} {as : List Action} {f : Window.Fault}
    (h : Ends analyze { w with code := source } (.error f) as w') :
    Ends (resultOf source) w (.error f) as w' :=
  (type_ends source w).seq h.stop

/-- The answer to a source that is not blank: it is the same in all windows of the room, and the
text that it gives stays in the window. -/
structure Shows (room : Nat) (source : String) (r : Except Window.Fault String) : Prop where
  ends : ∀ w : State, w.room = room → ∃ as w', Ends (resultOf source) w r as w' ∧
    w'.room = room ∧ ∀ t, r = .ok t → w'.results = t
  text : ∀ t, r = .ok t →
    ∃ found, issues room (.text (analysedText source)) = .ok found ∧ t = resultText found

theorem exists_shows (room : Nat) {source : String} (hsource : source.toList.all isBlank = false) :
    ∃ r, Shows room source r := by
  cases hissues : issues room (.text (analysedText source)) with
  | error f =>
    refine ⟨.error (.notAnalyzed f), fun w hw => ?_, fun t ht => nomatch ht⟩
    subst hw
    have hends := analyze_ends_unanalysed (w := { w with code := source }) hsource hissues
    exact ⟨_, _, resultOf_ends_error hends, rfl, fun t ht => nomatch ht⟩
  | ok found =>
    obtain ⟨answer, as, hends⟩ := analyze_ends hsource hissues
    cases answer with
    | error f =>
      refine ⟨.error f, fun w hw => ?_, fun t ht => nomatch ht⟩
      exact ⟨_, _, resultOf_ends_error (hends { w with code := source } hw rfl), hw,
        fun t ht => nomatch ht⟩
    | ok u =>
      refine ⟨.ok (resultText found), fun w hw => ?_, fun t ht => ?_⟩
      · exact ⟨_, _, resultOf_ends (hends { w with code := source } hw rfl), hw,
          fun t ht => Except.ok.inj ht⟩
      · exact ⟨found, hissues, (Except.ok.inj ht).symm⟩

/-- Code that can be read, is not nested too deep, and whose lines can be read back from its issues.
-/
def Analysable (room : Nat) (text : String) : Prop :=
  ∃ n, readTree text = .ok n ∧ n.nesting ≤ room ∧ NumbersReadable text

theorem Shows.exists_ok {room : Nat} {source : String} {r : Except Window.Fault String}
    (h : Shows room source r) (hsource : source.toList.all isBlank = false)
    (ha : Analysable room (analysedText source)) : ∃ t, r = .ok t := by
  obtain ⟨n, hread, hroom, hnumbers⟩ := ha
  obtain ⟨w, hw, rfl⟩ : ∃ w : State, w.room = room ∧ w.code = source :=
    ⟨{ room := room, code := source }, rfl, rfl⟩
  have hanalysed : String.ofList w.source = analysedText w.code := by rw [source_eq]; rfl
  rw [← hanalysed] at hread hnumbers
  obtain ⟨a, ha, harises⟩ := issues_arise (readTree_wellFormed hread)
  obtain ⟨_, ha', hissues⟩ := issues_of_tree hread hroom
  obtain rfl := Except.ok.inj (ha'.symm.trans ha)
  have hcode : trim w.source ≠ [] := by simp [trim_source, hsource]
  have hdoes := analyze_does hcode (hw.symm ▸ hissues) hread hnumbers harises
  obtain ⟨as, w', hends, -⟩ := h.ends w hw
  exact ⟨_, hends.unique (resultOf_ends hdoes)⟩

theorem resultOf_blank (w : State) :
    Ends (resultOf "") w (.ok w.results) [.readCode, blankCode] { w with code := "" } :=
  resultOf_ends (analyze_does_blank rfl)

theorem source_not_blank (b : Builder) (n : Int) : (b.source n).toList.all isBlank = false := by
  have hline : "import os, sys" ∈ importLines n ++ b.body n := by simp [importLines]
  have hletter : 'i' ∈ (b.source n).toList := by
    rw [Builder.source, sourceText, String.toList_join, List.mem_flatMap]
    exact ⟨_, List.mem_map.mpr ⟨_, hline, rfl⟩, by decide +kernel⟩
  rw [← Bool.not_eq_true, List.all_eq_true]
  intro hblank
  exact absurd (hblank 'i' hletter) (by decide +kernel)

theorem closing_ends (s : Surroundings) (room : Nat) :
    ∃ answer, EndsIn room (s.closing.forM Input.event) answer ∧
      ∀ k, linesFor s.turned = .ok k → answer = .ok () := by
  have hdisplay : EndsIn room (Input.display []).event (.ok ()) :=
    endsIn_of_does fun w => ⟨_, _, showResults_does w [], rfl⟩
  have hnumbers : EndsIn room Input.numbers.event (.ok ()) :=
    endsIn_of_does fun w => ⟨_, _, drawMargin_does w, rfl⟩
  have hscroll : EndsIn room (Input.scroll s.scrolled).event (.ok ()) :=
    endsIn_of_does fun w => ⟨_, _, scroll_does s.scrolled w, rfl⟩
  have huploads : EndsIn room ((s.chosen.map Input.upload).forM Input.event) (.ok ()) := by
    refine endsIn_forM fun i hi => ?_
    obtain ⟨path, -, rfl⟩ := List.mem_map.mp hi
    exact endsIn_of_does (openFile_does path)
  cases hlines : linesFor s.turned with
  | ok k =>
    have hwheel : EndsIn room (Input.wheel s.turned).event (.ok ()) :=
      endsIn_of_does fun w => ⟨_, _, turnWheel_does hlines w, rfl⟩
    exact ⟨.ok (), hdisplay.bind fun _ => hnumbers.bind fun _ => hscroll.bind fun _ =>
      hwheel.bind fun _ => huploads, fun _ _ => rfl⟩
  | error f =>
    have hwheel : EndsIn room (Input.wheel s.turned).event (.error f) := by
      refine fun w hw => ⟨[], w, ?_, hw⟩
      change Ends (turnWheel s.turned) w _ _ _
      rw [turnWheel, hlines]
      exact ends_throw f w
    exact ⟨.error f, hdisplay.bind fun _ => hnumbers.bind fun _ => hscroll.bind fun _ =>
      hwheel.bind fun _ => huploads, fun _ h => nomatch h⟩

def AreShown (room : Nat) (n : Int) (ts : List String) : Prop :=
  ∃ a b c, ts = [resultText a, resultText b, resultText c, resultText c] ∧
    issues room (.text (analysedText ((Builder.controlFlow 0).source n))) = .ok a ∧
    issues room (.text (analysedText ((Builder.controlFlow 1).source n))) = .ok b ∧
    issues room (.text (analysedText ((Builder.naming 0).source n))) = .ok c

def AllAnalysable (room : Nat) (n : Int) : Prop :=
  ∀ b ∈ [Builder.controlFlow 0, .controlFlow 1, .naming 0],
    Analysable room (analysedText (b.source n))

theorem EndsIn.mapM_cons {room : Nat} {source : String} {sources : List String}
    {r : Except Window.Fault String} {q : Except Window.Fault (List String)}
    (h : EndsIn room (resultOf source) r) (h' : EndsIn room (sources.mapM resultOf) q) :
    EndsIn room ((source :: sources).mapM resultOf) (do return (← r) :: (← q)) := by
  rw [List.mapM_cons]
  exact h.bind fun t => h'.bind fun ts => endsIn_pure (t :: ts)

theorem Shows.endsIn {room : Nat} {source : String} {r : Except Window.Fault String}
    (h : Shows room source r) : EndsIn room (resultOf source) r := by
  intro w hw
  obtain ⟨as, w', hends, hw', -⟩ := h.ends w hw
  exact ⟨as, w', hends, hw'⟩

theorem Shows.endsIn_blank {room : Nat} {source : String} {r : Except Window.Fault String}
    (h : Shows room source r) :
    EndsIn room ([source, ""].mapM resultOf) (r.map fun t => [t, t]) := by
  rw [List.mapM_cons, List.mapM_cons, List.mapM_nil]
  intro w hw
  obtain ⟨as, w', hends, hw', hresults⟩ := h.ends w hw
  cases r with
  | error f => exact ⟨as, w', hends.stop, hw'⟩
  | ok t =>
    have hblank := resultOf_blank w'
    rw [hresults t rfl] at hblank
    have hlast := Ends.seq (g := fun u => pure [u]) hblank (ends_pure [t] _)
    have hboth := Ends.seq (g := fun us => pure (t :: us)) hlast (ends_pure [t, t] _)
    exact ⟨_, _, hends.seq hboth, hw'⟩

theorem windowRun_endsIn (s : Surroundings) (n : Int) :
    ∃ r, EndsIn s.room (windowRun s n) r ∧ (∀ ts, r = .ok ts → AreShown s.room n ts) ∧
      ∀ k, linesFor s.turned = .ok k → AllAnalysable s.room n → r.isOk = true := by
  obtain ⟨r₁, h₁⟩ := exists_shows s.room (source_not_blank (.controlFlow 0) n)
  obtain ⟨r₂, h₂⟩ := exists_shows s.room (source_not_blank (.controlFlow 1) n)
  obtain ⟨r₃, h₃⟩ := exists_shows s.room (source_not_blank (.naming 0) n)
  obtain ⟨answer, hclosing, hok⟩ := closing_ends s s.room
  have htexts := EndsIn.mapM_cons h₁.endsIn (EndsIn.mapM_cons h₂.endsIn h₃.endsIn_blank)
  refine ⟨_, htexts.bind fun ts => hclosing.bind fun _ => endsIn_pure ts, fun ts hts => ?_,
    fun k hk hall => ?_⟩
  · cases r₁ with
    | error f => cases hts
    | ok t₁ => cases r₂ with
      | error f => cases hts
      | ok t₂ => cases r₃ with
        | error f => cases hts
        | ok t₃ =>
          obtain ⟨a, ha, rfl⟩ := h₁.text t₁ rfl
          obtain ⟨b, hb, rfl⟩ := h₂.text t₂ rfl
          obtain ⟨c, hc, rfl⟩ := h₃.text t₃ rfl
          cases answer with
          | error f => cases hts
          | ok u => exact ⟨a, b, c, (Except.ok.inj hts).symm, ha, hb, hc⟩
  · simp only [AllAnalysable, List.forall_mem_cons] at hall
    obtain ⟨t₁, ht₁⟩ := h₁.exists_ok (source_not_blank _ n) hall.1
    obtain ⟨t₂, ht₂⟩ := h₂.exists_ok (source_not_blank _ n) hall.2.1
    obtain ⟨t₃, ht₃⟩ := h₃.exists_ok (source_not_blank _ n) hall.2.2.1
    rw [ht₁, ht₂, ht₃, hok k hk]
    rfl

theorem windowRuns_eq {s : Surroundings} {n : Int} {r : Except Window.Fault (List String)}
    (h : EndsIn s.room (windowRun s n) r) (runs : Nat) {w : State} (hw : w.room = s.room) :
    windowRuns s n runs w = List.replicate runs r := by
  induction runs generalizing w with
  | zero => rfl
  | succ runs ih =>
    obtain ⟨as, w', hends, hw'⟩ := h w hw
    rw [windowRuns, hends, List.replicate_succ]
    exact congrArg (r :: ·) (ih hw')

end CodeLint.Workload

namespace CodeLint.Window

open CodeLint.Text CodeLint.Lint CodeLint.Workload

/-- An input that changes no pane and no highlight leaves everything as it was. -/
theorem unchanged_after {is : List Input} {i : Input} {w : State} {o : Outcome}
    (h : i.outcome (stateAfter is w) = (o, stateAfter is w))
    (hmarks : ∀ marked, o.actions.foldl Action.marks marked = marked) :
    runInputs (is ++ [i]) w = runInputs is w ++ [o] ∧
      stateAfter (is ++ [i]) w = stateAfter is w ∧
      marksAfter (runInputs (is ++ [i]) w) = marksAfter (runInputs is w) := by
  rw [runInputs_snoc, stateAfter_snoc, h, marksAfter_snoc, hmarks]
  exact ⟨rfl, rfl, rfl⟩

/-- Two windows that have come to the same code, in whatever way, are analysed with the same actions
and show and highlight the same afterwards, namely the issues of the code without the blanks at its
end. Code that is nested deeper than calls can be fails with everything as it was, and blank code
gives one error with everything as it was. So each run of the bench of windows gives the same texts.
-/
theorem analysis_ignores_history {is js : List Input} {w w' : State} {code : String}
    (hroom : w'.room = w.room) (hcode : (stateAfter is w).code = code)
    (hcode' : (stateAfter js w').code = code) :
    (code.toList.all isBlank = false → FitsIn w.room (analysedText code) → ∃ found o,
      issues w.room (.text (analysedText code)) = .ok found ∧
      o.results = resultText found ∧
      runInputs (is ++ [Input.analyze]) w = runInputs is w ++ [o] ∧
      runInputs (js ++ [Input.analyze]) w' = runInputs js w' ++ [o] ∧
      marksAfter (runInputs (is ++ [Input.analyze]) w) =
        marksAfter (runInputs (js ++ [Input.analyze]) w')) ∧
    (code.toList.all isBlank = false → ¬FitsIn w.room (analysedText code) →
      runInputs (is ++ [Input.analyze]) w = runInputs is w ++
        [⟨[.readCode], code, (stateAfter is w).results, some (.notAnalyzed .tooDeep)⟩] ∧
      stateAfter (is ++ [Input.analyze]) w = stateAfter is w ∧
      marksAfter (runInputs (is ++ [Input.analyze]) w) = marksAfter (runInputs is w)) ∧
    (code.toList.all isBlank = true →
      runInputs (is ++ [Input.analyze]) w =
        runInputs is w ++ [⟨[.readCode, blankCode], code, (stateAfter is w).results, none⟩] ∧
      stateAfter (is ++ [Input.analyze]) w = stateAfter is w ∧
      marksAfter (runInputs (is ++ [Input.analyze]) w) = marksAfter (runInputs is w)) ∧
    ∀ (s : Surroundings) (n : Int), ∃ r : Except Fault (List String),
      (∀ runs, Bench.windowing.results s n runs = List.replicate runs (Result.texts <$> r)) ∧
      (∀ ts, r = .ok ts → AreShown s.room n ts) ∧
      ∀ k, linesFor s.turned = .ok k → AllAnalysable s.room n → r.isOk = true := by
  have hkept := room_stateAfter is w
  have hkept' := (room_stateAfter js w').trans hroom
  refine ⟨fun htext hfits => ?_, fun htext hdeep => ?_, fun hblank => ?_, fun s n => ?_⟩
  · obtain ⟨found, hissues⟩ := exists_issues hfits
    obtain ⟨r, as, hends⟩ := analyze_ends htext hissues
    have h := Ends.outcome (i := .analyze) (hends _ hkept hcode)
    have h' := Ends.outcome (i := .analyze) (hends _ hkept' hcode')
    simp only [hcode] at h
    simp only [hcode'] at h'
    refine ⟨found, (Input.analyze.outcome (stateAfter is w)).1, hissues, by rw [h],
      runInputs_snoc is .analyze w, ?_, ?_⟩
    · rw [runInputs_snoc, h', h]
    · -- the first thing that the highlighting does forgets what was highlighted
      rw [runInputs_snoc, runInputs_snoc, h, h', marksAfter_snoc, marksAfter_snoc]
      rfl
  · have hissues := issues_of_not_fitsIn hdeep
    rw [← hkept] at hissues
    subst hcode
    have h := Ends.outcome (i := .analyze) (analyze_ends_unanalysed htext hissues)
    exact unchanged_after h fun _ => rfl
  · subst hcode
    have h := Does.outcome (i := .analyze) (analyze_does_blank hblank)
    exact unchanged_after h fun _ => rfl
  · obtain ⟨r, hends, hshown, hok⟩ := windowRun_endsIn s n
    refine ⟨r, fun runs => ?_, hshown, hok⟩
    rw [Bench.results, windowRuns_eq hends runs rfl, List.map_replicate]

/-- Code that is typed after other code was analysed and lines were highlighted that it lacks. -/
def typedLast : List Input :=
  [.type "\nif x == None:\n    pass\n", .analyze, .highlight [.text "line 9"],
    .display [.text "old"], .type "ab = 1 "]

def typedFirst : List Input := [.type "ab = 1 ", .scroll [], .wheel (.whole 240)]

theorem analysis_ignores_history_typedLast :
    (stateAfter typedLast {}).code = "ab = 1 " ∧
    (stateAfter typedFirst { results := "older" }).code = "ab = 1 " ∧
    (∃ o : Outcome, o.results = "W0612: Unused variable 'ab' (line 1)" ∧
      runInputs (typedLast ++ [Input.analyze]) {} = runInputs typedLast {} ++ [o] ∧
      runInputs (typedFirst ++ [Input.analyze]) { results := "older" } =
        runInputs typedFirst { results := "older" } ++ [o] ∧
      marksAfter (runInputs (typedLast ++ [Input.analyze]) {}) =
        marksAfter (runInputs (typedFirst ++ [Input.analyze]) { results := "older" })) ∧
    stateAfter (typedLast ++ [Input.type "\t\n"] ++ [Input.analyze]) {} =
      stateAfter (typedLast ++ [Input.type "\t\n"]) {} := by
  have hevaluated : (stateAfter typedLast {}).code = "ab = 1 " ∧
      (stateAfter typedFirst { results := "older" }).code = "ab = 1 " ∧
      (stateAfter (typedLast ++ [Input.type "\t\n"]) {}).code = "\t\n" ∧
      (readTree (analysedText "ab = 1 ")).isOk = true ∧
      (treeOf (analysedText "ab = 1 ")).nesting ≤ 1000 ∧
      (issues 1000 (.text (analysedText "ab = 1 "))).toOption =
        some ["W0612: Unused variable 'ab' (line 1)"] ∧
      resultText ["W0612: Unused variable 'ab' (line 1)"] =
        "W0612: Unused variable 'ab' (line 1)" := by
    decide +kernel
  obtain ⟨htyped, hfirst, hblank, hok, hnesting, hissues, htext⟩ := hevaluated
  have hfits : FitsIn 1000 (analysedText "ab = 1 ") := by
    intro n hn
    rw [readTree_of_isOk hok, Except.ok.injEq] at hn
    exact hn ▸ hnesting
  have hroom : ({ results := "older" } : State).room = ({} : State).room := rfl
  refine ⟨htyped, hfirst, ?_,
    ((analysis_ignores_history rfl hblank hblank).2.2.1 (by decide +kernel)).2.1⟩
  obtain ⟨found, o, hfound, hresults, hrest⟩ :=
    (analysis_ignores_history hroom htyped hfirst).1 (by decide +kernel) hfits
  rw [hfound] at hissues
  rw [Option.some.inj hissues, htext] at hresults
  exact ⟨o, hresults, hrest⟩

theorem deep_code_not_shown :
    manySigns.toList.all isBlank = false ∧ (readTree manySigns).isOk = true ∧
      (Input.analyze.outcome { code := manySigns, room := 100 }).1 =
        ⟨[.readCode], manySigns, "", some (.notAnalyzed .tooDeep)⟩ := by
  obtain ⟨hok, hnesting⟩ := manySigns_nesting
  have htext : manySigns.toList.all isBlank = false ∧ analysedText manySigns = manySigns := by
    decide +kernel
  have hissues : issues 100 (.text (analysedText manySigns)) = .error .tooDeep := by
    rw [htext.2]
    exact issues_of_deep_tree (readTree_of_isOk hok) (by rw [hnesting]; decide)
  have hends := analyze_ends_unanalysed (w := { code := manySigns, room := 100 }) htext.1 hissues
  exact ⟨htext.1, hok, congrArg Prod.fst (hends.outcome (i := .analyze))⟩

end CodeLint.Window
