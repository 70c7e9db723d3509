import CodeLint.Proofs.Highlighting
import Mathlib.Data.List.TakeWhile

/-!
Analysing does not depend on what happened in the window before. Whatever the inputs were, analysing
code does the same actions and leaves the same results as analysing the same code in any other
window, and analysing blank code changes neither the results nor the highlights.
-/

namespace CodeLint.Window

open CodeLint.Text CodeLint.Lint

/-! ### Events that may fail -/

def Ends {α : Type} (e : Event α) (w : State) (r : Except Fault α) (actions : List Action)
    (w' : State) : Prop :=
  ∀ done, e.run.run ⟨w, done⟩ = (r, ⟨w', actions.reverse ++ done⟩)

section Ends

variable {α β : Type} {w w' w'' : State} {as bs : List Action}

theorem ends_pure (x : α) (w : State) : Ends (pure x) w (.ok x) [] w := fun _ => rfl

theorem ends_throw (f : Fault) (w : State) : Ends (throw f : Event α) w (.error f) [] w :=
  fun _ => rfl

theorem Ends.stop {e : Event α} {g : α → Event β} {f : Fault} (h : Ends e w (.error f) as w') :
    Ends (e >>= g) w (.error f) as w' := by
  intro done
  rw [ExceptT.run_bind, StateT.run_bind, h done]
  rfl

theorem Ends.seq {e : Event α} {g : α → Event β} {x : α} {r : Except Fault β}
    (h : Ends e w (.ok x) as w') (h' : Ends (g x) w' r bs w'') :
    Ends (e >>= g) w r (as ++ bs) w'' := by
  intro done
  rw [ExceptT.run_bind, StateT.run_bind, h done, List.reverse_append, List.append_assoc]
  exact h' (as.reverse ++ done)

theorem ends_get {f : Progress → Event α} {r : Except Fault α}
    (h : ∀ done, Ends (f ⟨w, done⟩) w r as w') : Ends (get >>= f) w r as w' :=
  fun done => h done done

end Ends

variable {w w' w'' : State} {as bs : List Action} {e e' : Event Unit} {r : Except Fault Unit}

theorem Does.ends (h : Does e w as w') (h' : Ends e' w' r bs w'') :
    Ends (e >>= fun _ => e') w r (as ++ bs) w'' :=
  Ends.seq (x := ()) h h'

def faultOf : Except Fault Unit → Option Fault
  | .ok _ => none
  | .error f => some f

theorem Ends.outcome {i : Input} (h : Ends i.event w r as w') :
    i.outcome w = (⟨as, w'.code, w'.results, faultOf r⟩, w') := by
  rw [Input.outcome, h]
  cases r <;> simp [faultOf]

/-! ### Highlighting in any window -/

/-- The event does not look at the window: it ends in the same way in all of them. -/
def EndsAlike (e : Event Unit) : Prop := ∃ r as, ∀ w, Ends e w r as w

theorem EndsAlike.seq (h : EndsAlike e) (h' : EndsAlike e') : EndsAlike (e >>= fun _ => e') := by
  obtain ⟨r, as, hends⟩ := h
  obtain ⟨r', bs, hends'⟩ := h'
  cases r with
  | ok u => exact ⟨r', as ++ bs, fun w => Does.ends (hends w) (hends' w)⟩
  | error f => exact ⟨.error f, as, fun w => (hends w).stop⟩

theorem endsAlike_act (a : Action) : EndsAlike (act a) := ⟨.ok (), [a], does_act a⟩

theorem endsAlike_throw (f : Fault) : EndsAlike (throw f) := ⟨.error f, [], ends_throw f⟩

theorem highlightItem_endsAlike (item : Item) : EndsAlike (highlightItem item) := by
  cases item with
  | other type => exact endsAlike_throw _
  | text s =>
    rw [highlightItem]
    cases lineDigits? s.toList with
    | none => exact ⟨.ok (), [], does_pure⟩
    | some ds =>
      by_cases hmany : ds.length > Source.maxDigits
      · simp only [hmany, if_true]
        exact endsAlike_throw _
      · simp only [hmany, if_false]
        exact endsAlike_act _

theorem highlight_ends (items : List Item) :
    ∃ r as, ∀ w, Ends (highlight items) w r (.removeHighlights :: as) w := by
  have hitems : EndsAlike (items.forM highlightItem) := by
    induction items with
    | nil => exact ⟨.ok (), [], does_pure⟩
    | cons item items ih => exact (highlightItem_endsAlike item).seq ih
  obtain ⟨r, as, hends⟩ := hitems.seq (endsAlike_act .styleHighlights)
  exact ⟨r, as, fun w => (does_act .removeHighlights w).ends (hends w)⟩

/-! ### Blank code -/

theorem source_eq (w : State) : w.source = trimRight w.code.toList := by
  have hnewline : isBlank '\n' = true := rfl
  simp [State.source, trimRight, hnewline]

theorem trim_source (w : State) : trim w.source = [] ↔ w.code.toList.all isBlank = true := by
  -- Taking blanks away, from whichever end, leaves a text as blank as it was.
  rw [source_eq, trim_eq_nil_iff, trimRight, List.all_reverse, all_dropWhile, List.all_reverse]

/-! ### Analysing in any window -/

theorem analyze_ends {room : Nat} {code : String} {found : List String}
    (hcode : code.toList.all isBlank = false)
    (hissues : issues room (.text (String.ofList (trimRight code.toList))) = .ok found) :
    ∃ r as, ∀ w : State, w.room = room → w.code = code → Ends analyze w r
      ([Action.readCode, .unlockResults, .clearResults, .insertResults (resultText found),
        .lockResults] ++ Action.removeHighlights :: as)
      { w with results := resultText found } := by
  obtain ⟨r, as, hends⟩ := highlight_ends (found.map Item.text)
  refine ⟨r, as, fun w hroom hw => ?_⟩
  subst hroom hw
  have hsource : trim w.source ≠ [] := by simp [trim_source, hcode]
  rw [← source_eq] at hissues
  unfold State.source at hsource hissues
  refine (does_act .readCode w).ends (ends_get fun done => ?_)
  simp only [List.isEmpty_iff, if_neg hsource]
  refine ends_get fun done => ?_
  simp only [hissues]
  exact (showResults_does w _).ends (hends _)

theorem analyze_ends_unanalysed {w : State} {f : Lint.Fault}
    (hcode : w.code.toList.all isBlank = false)
    (hissues : issues w.room (.text (String.ofList (trimRight w.code.toList))) = .error f) :
    Ends analyze w (.error (.notAnalyzed f)) [.readCode] w := by
  have hsource : trim w.source ≠ [] := by simp [trim_source, hcode]
  rw [← source_eq] at hissues
  unfold State.source at hsource hissues
  refine (does_act .readCode w).ends (ends_get fun done => ?_)
  simp only [List.isEmpty_iff, if_neg hsource]
  refine ends_get fun done => ?_
  simp only [hissues]
  exact ends_throw _ w

def blankCode : Action := .showError "ERROR" "Please enter or upload code for analysis."

theorem analyze_does_blank {w : State} (hcode : w.code.toList.all isBlank = true) :
    Does analyze w [.readCode, blankCode] w := by
  have hsource := (trim_source w).mpr hcode
  unfold State.source at hsource
  refine (does_act .readCode w).seq (does_get fun done => ?_)
  simp only [List.isEmpty_iff, if_pos hsource]
  exact does_act _ w

/-! ### Histories -/

def stateAfter : List Input → State → State
  | [], w => w
  | i :: is, w => stateAfter is (i.outcome w).2

theorem runInputs_snoc (is : List Input) (i : Input) (w : State) :
    runInputs (is ++ [i]) w = runInputs is w ++ [(i.outcome (stateAfter is w)).1] := by
  induction is generalizing w with
  | nil => rfl
  | cons j is ih => simp [runInputs, stateAfter, ih]

theorem stateAfter_snoc (is : List Input) (i : Input) (w : State) :
    stateAfter (is ++ [i]) w = (i.outcome (stateAfter is w)).2 := by
  induction is generalizing w with
  | nil => rfl
  | cons j is ih => exact ih _

/-- What is highlighted after an action: all highlights are removed at once, and added one by one.
-/
def Action.marks (marked : List (String × String)) : Action → List (String × String)
  | .removeHighlights => []
  | .highlight start stop => marked ++ [(start, stop)]
  | _ => marked

def marksAfter (os : List Outcome) : List (String × String) :=
  (os.flatMap (·.actions)).foldl Action.marks []

theorem marksAfter_snoc (os : List Outcome) (o : Outcome) :
    marksAfter (os ++ [o]) = o.actions.foldl Action.marks (marksAfter os) := by
  simp [marksAfter]

end CodeLint.Window
