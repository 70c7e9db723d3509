import CodeLint.Proofs.WindowHistory
import Mathlib.Algebra.Group.Int.Even

/-!
The numbers in the margin. The rows are drawn one after the other, without a count: what leads from
one to the next is an index, a text with the number of the line in it. The `k`-th index that is asked
for is that of the `k`-th line behind the first visible one, so it is answered by the `k`-th row, and
the rows come to an end.
-/

namespace CodeLint.Window

/-! ### The answers to an index -/

@[simp]
theorem nextLine_lineStart (line : Int) : nextLine (lineStart line) = lineStart (line + 1) := by
  rw [nextLine, lineOf?_lineStart, Option.getD_some]

theorem rowAt?_lineStart (w : State) (k : Nat) :
    w.rowAt? (lineStart (w.first + k)) = w.rows[k]? := by
  have hposition : (w.first + k - w.first).toNat = k := by omega
  simp only [State.rowAt?, lineOf?_lineStart, hposition]
  exact if_neg (by omega)

/-! ### Drawing the rows -/

/-- What is done for the rows from a line on. Behind the last row, one more line is asked for. -/
def rowActions (width : Int) : Int → List Row → List Action
  | line, [] => [.askLine (lineStart line)]
  | line, row :: rows =>
    [Action.askLine (lineStart line), .askWidth,
      .drawBand (bandColor line) 0 row.top width (row.top + row.height),
      .drawNumber (toString line) numberLeft row.top, .askNext (lineStart line)] ++
        rowActions width (line + 1) rows

theorem drawRows_does (w : State) (k : Nat) :
    Does (drawRows w (lineStart (w.first + k))) w
      (rowActions w.width (w.first + k) (w.rows.drop k)) w := by
  -- The rows that are left decide whether there is a row at the index.
  induction hleft : w.rows.drop k generalizing k with
  | nil =>
    have hrow : w.rowAt? (lineStart (w.first + k)) = none := by
      rw [rowAt?_lineStart, List.getElem?_eq_none (List.drop_eq_nil_iff.mp hleft)]
    rw [drawRows]
    refine (does_act _ w).seq ?_
    split
    · exact does_pure w
    · next hsome =>
      rw [hrow] at hsome
      cases hsome
  | cons row rows ih =>
    have hrow : w.rowAt? (lineStart (w.first + k)) = some row := by
      rw [rowAt?_lineStart, ← List.head?_drop, hleft, List.head?_cons]
    have hrest : w.rows.drop (k + 1) = rows := by
      rw [← List.tail_drop, hleft, List.tail_cons]
    have hnext := ih (k + 1) hrest
    rw [Int.natCast_add, Int.natCast_one, ← Int.add_assoc] at hnext
    rw [drawRows]
    refine (does_act _ w).seq ?_
    split
    · next hnone =>
      rw [hrow] at hnone
      cases hnone
    · next row' hsome =>
      obtain rfl : row' = row := Option.some.inj (hsome.symm.trans hrow)
      simp only [printedLine_lineStart, whole?_toString, nextLine_lineStart]
      exact (does_act _ w).seq ((does_act _ w).seq ((does_act _ w).seq ((does_act _ w).seq hnext)))

def State.marginActions (w : State) : List Action :=
  [Action.clearMargin, .askTop] ++ rowActions w.width w.first w.rows

theorem drawMargin_does (w : State) : Does drawMargin w w.marginActions w := by
  have hrows := drawRows_does w 0
  rw [Int.natCast_zero, Int.add_zero, List.drop_zero] at hrows
  exact (does_act _ w).seq ((does_act _ w).seq (does_get fun _ => hrows))

theorem scroll_does (arguments : List Json) (w : State) :
    Does (scroll arguments) w
      ([Action.scrollCode arguments, .scrollMargin arguments] ++ w.marginActions) w :=
  (does_act _ w).seq ((does_act _ w).seq (drawMargin_does w))

theorem turnWheel_does {turn : Turn} {lines : Int} (h : linesFor turn = .ok lines) (w : State) :
    Does (turnWheel turn) w ([Action.moveCode lines, .moveMargin lines] ++ w.marginActions) w := by
  unfold turnWheel
  rw [h]
  exact (does_act _ w).seq ((does_act _ w).seq (drawMargin_does w))

/-! ### What is drawn -/

def Action.changesMargin : Action → Bool
  | .clearMargin | .drawBand .. | .drawNumber .. => true
  | _ => false

/-- What stands in the margin after an action: all is cleared at once, and drawn one by one. -/
def Action.draws (drawn : List Action) (a : Action) : List Action :=
  match a with
  | .clearMargin => []
  | a => if a.changesMargin then drawn ++ [a] else drawn

def State.lineDrawing (w : State) (line : Int) (row : Row) : List Action :=
  [.drawBand (if Even line then "#D3D3D3" else "#FFFFFF") 0 row.top w.width (row.top + row.height),
    .drawNumber (toString line) 2 row.top]

def State.numberedLines (w : State) : List Action :=
  w.rows.zipIdx.flatMap fun r => w.lineDrawing (w.first + r.2) r.1

theorem bandColor_eq (line : Int) :
    bandColor line = if Even line then "#D3D3D3" else "#FFFFFF" := by
  simp only [bandColor, Int.even_iff, beq_iff_eq]

theorem rowActions_drawing (w : State) (k : Nat) (rows : List Row) :
    (rowActions w.width (w.first + k) rows).filter Action.changesMargin =
      (rows.zipIdx k).flatMap fun r => w.lineDrawing (w.first + r.2) r.1 := by
  induction rows generalizing k with
  | nil => rfl
  | cons row rows ih =>
    have hrest := ih (k + 1)
    rw [Int.natCast_add, Int.natCast_one, ← Int.add_assoc] at hrest
    rw [List.zipIdx_cons, List.flatMap_cons, ← hrest, State.lineDrawing, ← bandColor_eq]
    rfl

theorem marginActions_drawing (w : State) :
    w.marginActions.filter Action.changesMargin = .clearMargin :: w.numberedLines := by
  have hrows := rowActions_drawing w 0 w.rows
  rw [Int.natCast_zero, Int.add_zero] at hrows
  rw [State.numberedLines, ← hrows]
  rfl

theorem foldl_draws_filter (as drawn : List Action) :
    (as.filter Action.changesMargin).foldl Action.draws drawn = as.foldl Action.draws drawn := by
  rw [List.foldl_filter]
  congr
  funext drawn a
  cases a <;> rfl

theorem foldl_draws_numberedLines (w : State) (drawn : List Action) :
    w.numberedLines.foldl Action.draws drawn = drawn ++ w.numberedLines := by
  rw [State.numberedLines]
  generalize w.rows.zipIdx = rs
  induction rs generalizing drawn with
  | nil => exact (List.append_nil drawn).symm
  | cons r rs ih =>
    rw [List.flatMap_cons, List.foldl_append, ih, ← List.append_assoc]
    simp [State.lineDrawing, Action.draws, Action.changesMargin]

theorem margin_after {as : List Action} (has : as.filter Action.changesMargin = []) (w : State)
    (drawn : List Action) :
    (as ++ w.marginActions).foldl Action.draws drawn = w.numberedLines := by
  rw [← foldl_draws_filter, List.filter_append, has, List.nil_append, marginActions_drawing,
    List.foldl_cons, foldl_draws_numberedLines]
  rfl

/-- Drawing the margin ends, in every view, with one deletion and then a band and a number for each
visible line, the lines numbered one by one from the first on and nothing behind the last. So what
stands in the margin after scrolling, and after a turn of the wheel that does not fail, are the
numbers of the visible lines, whatever stood there before. -/
theorem margin_numbers_visible_lines (w : State) :
    (∃ as, Input.numbers.outcome w = (⟨as, w.code, w.results, none⟩, w) ∧
      as.filter Action.changesMargin = .clearMargin :: w.numberedLines) ∧
    (∀ arguments drawn, ∃ as,
      (Input.scroll arguments).outcome w = (⟨as, w.code, w.results, none⟩, w) ∧
      as.foldl Action.draws drawn = w.numberedLines) ∧
    ∀ turn drawn, ((Input.wheel turn).outcome w).1.fault = none →
      ((Input.wheel turn).outcome w).2 = w ∧
      ((Input.wheel turn).outcome w).1.actions.foldl Action.draws drawn = w.numberedLines := by
  refine ⟨⟨_, (drawMargin_does w).outcome (i := .numbers), marginActions_drawing w⟩, ?_, ?_⟩
  · intro arguments drawn
    exact ⟨_, (scroll_does arguments w).outcome (i := .scroll arguments), margin_after rfl w drawn⟩
  · intro turn drawn hfault
    cases hlines : linesFor turn with
    | error f =>
      have hends : Ends (turnWheel turn) w (.error f) [] w := by
        unfold turnWheel
        rw [hlines]
        exact ends_throw f w
      rw [hends.outcome (i := .wheel turn)] at hfault
      cases hfault
    | ok lines =>
      rw [(turnWheel_does hlines w).outcome (i := .wheel turn)]
      exact ⟨rfl, margin_after rfl w drawn⟩

def ninthLine : State := { rows := [⟨3, 16⟩, ⟨19, 16⟩], first := 9 }

theorem margin_numbers_visible_lines_ninthLine :
    ((Input.wheel (.whole (-120))).outcome ninthLine).1.fault = none ∧
      ((Input.wheel (.whole (-120))).outcome ninthLine).1.actions.foldl Action.draws
          [.drawNumber "8" 2 3] =
        [.drawBand "#FFFFFF" 0 3 40 19, .drawNumber "9" 2 3,
          .drawBand "#D3D3D3" 0 19 40 35, .drawNumber "10" 2 19] := by
  have hfault : ((Input.wheel (.whole (-120))).outcome ninthLine).1.fault.isNone = true := by
    decide +kernel
  have hnone := Option.isNone_iff_eq_none.mp hfault
  exact ⟨hnone, ((margin_numbers_visible_lines ninthLine).2.2 _ _ hnone).2⟩

end CodeLint.Window
