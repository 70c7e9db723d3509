import CodeLint.Proofs.ParseSteps
import CodeLint.Source.Grammar.Literal

/-!
Numbers and strings as the parser builds them. The expressions inside a formatted text were read by
the reader of expressions, so the node of a formatted text is sound if that reader gives sound ones.
-/

namespace CodeLint.Source

open CodeLint.Tree

/-! ### The lines inside a formatted text -/

def Tail.extent (t : Tail) : Nat := t.spot.lines + t.rest.length

theorem Spot.lines_passAll (s : Spot) (cs : List Char) :
    (s.passAll cs).lines ≤ s.lines + cs.length := by
  induction cs generalizing s with
  | nil => exact Nat.le_refl _
  | cons c cs ih =>
    have hstep : (s.pass c).lines ≤ s.lines + 1 := by
      unfold Spot.pass
      split
      · exact Nat.le_refl _
      · exact Nat.le_succ _
    have hrest := ih (s.pass c)
    rw [Spot.passAll, List.foldl_cons, List.length_cons]
    unfold Spot.passAll at hrest
    omega

theorem Tail.extent_skip (t : Tail) : t.skip.extent ≤ t.extent := by
  unfold Tail.skip
  split
  · exact Nat.le_refl _
  · next c cs hrest =>
    have hstep := Spot.lines_passAll t.spot [c]
    rw [Tail.extent, Tail.extent, hrest, List.length_cons]
    simp only [Spot.passAll, List.foldl_cons, List.foldl_nil, List.length_singleton] at hstep
    dsimp only
    omega

theorem Tail.length_skip (t : Tail) : t.skip.rest.length = t.rest.length - 1 := by
  unfold Tail.skip
  split
  · next hrest => rw [hrest]; rfl
  · next hrest => rw [hrest]; rfl

/-- Taking characters of the rest away gains no more lines than it takes characters. -/
theorem Tail.extent_drop (t : Tail) (k : Nat) :
    Tail.extent ⟨t.spot.passAll (t.rest.take k), t.rest.drop k⟩ ≤ t.extent := by
  have hlines := Spot.lines_passAll t.spot (t.rest.take k)
  rw [List.length_take] at hlines
  simp only [Tail.extent, List.length_drop]
  omega

namespace Grammar

theorem length_body {text : String} (h : (stringParts text).body ≠ []) :
    (stringParts text).body.length + 2 ≤ text.length := by
  have hpositive := List.length_pos_iff.mpr h
  have hrest : (text.toList.dropWhile Char.isAlpha).length ≤ text.length := by
    rw [← String.length_toList]
    exact (List.dropWhile_sublist _).length_le
  simp only [stringParts, List.length_take, List.length_drop] at hpositive ⊢
  revert hpositive
  split
  · split <;> intro hpositive <;> omega
  · intro hpositive
    omega

end Grammar

section Pieces

variable {bound : Nat}

theorem literalPart_yields (raw top : Bool) (n : Nat) {t : Tail} (ht : t.extent ≤ bound)
    (acc : List Char) : Yields (fun r => r.2.2.extent ≤ bound) (literalPart raw top n t acc) := by
  induction n generalizing t acc with
  | zero => exact yields_pure ht
  | succ n ih =>
    have hskip (t : Tail) (ht : t.extent ≤ bound) : t.skip.extent ≤ bound :=
      Nat.le_trans t.extent_skip ht
    have hbrace {before t : Tail} (hbefore : before.extent ≤ bound) (ht : t.extent ≤ bound)
        (c : Char) (acc : List Char) : Yields (fun r => r.2.2.extent ≤ bound)
          (if top then
            if t.rest.head? == some c then pure (c :: acc, LiteralEnd.doubled, t.skip)
            else if c == '\x7d' then throw .formatSingleBrace
            else pure (acc, .plain, before)
          else pure (acc, .plain, before) : Except Cause (List Char × LiteralEnd × Tail)) :=
      yields_ite (yields_ite (yields_pure (hskip t ht)) (yields_ite (yields_throw _)
        (yields_pure hbefore))) (yields_pure hbefore)
    have h1 := hskip t ht
    have h2 := hskip _ h1
    have h3 := hskip _ h2
    rw [literalPart]
    split
    · exact yields_pure ht
    · refine yields_ite (ih h1 _) ?_
      refine ih (Nat.le_trans ?_ h3) _
      exact Tail.extent_drop _ _
    · exact yields_ite (ih h1 _) (ih h3 _)
    · exact yields_ite (ih h1 _) (yields_ite (hbrace h1 h2 _ _) (ih h2 _))
    · exact yields_ite (hbrace ht h1 _ _) (ih h1 _)

theorem two_le_of_tripled {c : Char} {more : List Char}
    (h : (match more with
      | a :: b :: _ => a == c && b == c
      | _ => false) = true) : 2 ≤ more.length := by
  split at h
  · simp
  · cases h

/-- Behind the text of an expression, no character has been counted twice. -/
theorem expressionPart_yields (n : Nat) (quote : Quote) (stack : List Char) {t : Tail} {size : Nat}
    {acc : List Char} (ht : t.extent ≤ bound) (hsize : acc.length + t.rest.length ≤ size) :
    Yields (fun r => r.2.extent ≤ bound ∧ r.1.length + r.2.rest.length ≤ size)
      (expressionPart n quote stack t acc) := by
  induction n generalizing quote stack t acc with
  | zero => exact yields_pure ⟨ht, hsize⟩
  | succ n ih =>
    have hskip (t : Tail) (ht : t.extent ≤ bound) : t.skip.extent ≤ bound :=
      Nat.le_trans t.extent_skip ht
    have h1 := hskip t ht
    have h2 := hskip _ h1
    have h3 := hskip _ h2
    unfold expressionPart
    dsimp only
    split
    · split
      · exact yields_pure ⟨ht, hsize⟩
      · exact yields_throw _
      · exact yields_throw _
    · exact yields_throw _
    · next c more hnot hrest =>
      rw [hrest, List.length_cons] at hsize
      have hone {q : Quote} {st : List Char} : Yields _ (expressionPart n q st t.skip (c :: acc)) :=
        ih q st h1 (by rw [Tail.length_skip, hrest, List.length_cons, List.length_cons]; omega)
      have htwo {d : Char} (hmore : 1 ≤ more.length) {q : Quote} {st : List Char} :
          Yields _ (expressionPart n q st t.skip.skip (d :: c :: acc)) :=
        ih q st h2 (by
          rw [Tail.length_skip, Tail.length_skip, hrest]
          simp only [List.length_cons]
          omega)
      have hthree (hmore : 2 ≤ more.length) {q : Quote} {st : List Char} :
          Yields _ (expressionPart n q st t.skip.skip.skip (c :: c :: c :: acc)) :=
        ih q st h3 (by
          rw [Tail.length_skip, Tail.length_skip, Tail.length_skip, hrest]
          simp only [List.length_cons]
          omega)
      have hhead {d : Char} (h : more.head? = some d) : 1 ≤ more.length := by
        cases more with
        | nil => cases h
        | cons => simp
      split
      · exact hone
      · exact yields_ite' (fun h => hthree (two_le_of_tripled (Bool.and_eq_true_iff.mp h).2))
          fun _ => hone
      · refine yields_ite ?_ ?_
        · exact yields_ite' (fun h => hthree (two_le_of_tripled h)) fun _ => hone
        split
        · exact yields_ite (yields_throw _) hone
        refine yields_ite (yields_throw _) ?_
        split
        · split
          · next hequals => exact htwo (hhead (beq_iff_eq.mp (Bool.and_eq_true_iff.mp hequals).2))
          · refine yields_ite hone (yields_pure ⟨ht, ?_⟩)
            rw [hrest, List.length_cons]
            exact hsize
        split
        · split
          · exact yields_throw _
          · exact yields_ite hone (yields_throw _)
        · exact hone

theorem general_yields {α : Type} {P : α → Prop} {r : Except Cause α} (h : Yields P r) :
    Yields P (general r) := by
  cases r with
  | ok a => exact yields_pure (h a rfl)
  | error c => exact yields_throw _

theorem shownPart_extent (ending : Char) (cs : List Char) {t : Tail} (ht : t.extent ≤ bound) :
    (shownPart ending cs t).2.extent ≤ bound := by
  unfold shownPart
  split
  · have hblanks : t.skip.rest.takeWhile isSpace =
        t.skip.rest.take (t.skip.rest.takeWhile isSpace).length :=
      List.prefix_iff_eq_take.mp (List.takeWhile_prefix isSpace)
    have hdrop := Tail.extent_drop t.skip (t.skip.rest.takeWhile isSpace).length
    rw [← hblanks] at hdrop
    exact Nat.le_trans hdrop (Nat.le_trans t.extent_skip ht)
  · exact ht

theorem conversionPart_yields {t : Tail} (ht : t.extent ≤ bound) :
    Yields (fun r => r.2.extent ≤ bound) (conversionPart t) := by
  unfold conversionPart
  split
  · refine yields_ite (yields_pure ?_) (yields_throw _)
    exact Nat.le_trans t.skip.extent_skip (Nat.le_trans t.extent_skip ht)
  · exact yields_throw _
  · exact yields_pure ht

theorem endingOf_yields (t : Tail) : Yields (fun _ => 1 ≤ t.rest.length) (endingOf t) := by
  unfold endingOf
  split
  · exact yields_throw _
  · next hrest => exact yields_pure (by rw [hrest]; simp)

end Pieces

variable [LineLimit]

/-! ### The pieces of a formatted text -/

inductive SoundPiece : Piece → Prop
  | text (cs : List Char) : SoundPiece (.text cs)
  | plain {e : Node} {conversion : Int} (he : Built .expression e) :
      SoundPiece (.value e conversion none)
  | formatted {e : Node} {conversion : Int} {ps : List Piece} (he : Built .expression e)
      (hps : ∀ p ∈ ps, SoundPiece p) : SoundPiece (.value e conversion (some ps))

section Pieces

variable {bound : Nat}

abbrev YieldsPieces (bound : Nat) (r : Reading (List Piece × Tail)) : Prop :=
  Yields (fun read => (∀ p ∈ read.1, SoundPiece p) ∧ read.2.extent ≤ bound) r

theorem formatPart_yields {format : Tail → Reading (List Piece × Tail)}
    (hformat : ∀ t : Tail, t.extent ≤ bound → YieldsPieces bound (format t)) {t : Tail}
    (ht : t.extent ≤ bound) :
    Yields (fun read => (∀ ps ∈ read.1, ∀ p ∈ ps, SoundPiece p) ∧ read.2.extent ≤ bound)
      (formatPart format t) := by
  unfold formatPart
  split
  · exact yields_throw _
  · refine (hformat _ (Nat.le_trans t.extent_skip ht)).bind fun read hread => ?_
    refine yields_pure ⟨?_, hread.2⟩
    rintro ps ⟨⟩
    exact hread.1
  · exact yields_pure ⟨nofun, ht⟩

theorem valuePieces_sound {e : Node} (he : Built .expression e) (shown : Option (List Char))
    (conversion : Option Char) {spec : Option (List Piece)}
    (hspec : ∀ ps ∈ spec, ∀ p ∈ ps, SoundPiece p) :
    ∀ p ∈ valuePieces e shown conversion spec, SoundPiece p := by
  unfold valuePieces
  refine List.forall_mem_append.mpr ⟨?_, List.forall_mem_singleton.mpr ?_⟩
  · cases shown with
    | none => exact nofun
    | some cs => exact List.forall_mem_singleton.mpr (.text cs)
  · cases spec with
    | none => exact .plain he
    | some ps => exact .formatted he (hspec ps rfl)

theorem textPieces_yields (x : FormatContext) (cs : List Char) :
    Yields (fun ps => ∀ p ∈ ps, SoundPiece p) (textPieces x cs) := by
  have htext (cs : List Char) :
      ∀ p ∈ (if cs.isEmpty then [] else [Piece.text cs]), SoundPiece p := by
    split
    · exact nofun
    · exact List.forall_mem_singleton.mpr (.text cs)
  unfold textPieces
  exact yields_ite ((yields_any _).bind fun cs _ => yields_pure (htext cs))
    ((yields_any _).bind fun cs _ => yields_pure (htext cs))

variable {x : FormatContext}

theorem readExpression_yields (hx : x.expression.Builds) {brace : Spot} {cs : List Char}
    (hlines : 2 ≤ bound → x.line + bound + 2 ≤ LineLimit.last)
    (hcs : brace.lines + cs.length + 2 ≤ bound)
    (behind : List Char) (ending : Char) :
    Yields (Built .expression) (readExpression x brace behind cs ending) := by
  unfold readExpression
  refine yields_ite (yields_throw _) ?_
  dsimp only
  cases hread : x.expression cs (x.line + brace.lines) _ with
  | ok e => exact yields_pure (hx _ _ _ _ (Nat.le_trans (by omega) (hlines (by omega))) hread)
  | error f => exact yields_throw _

theorem fieldPiece_yields (hx : x.expression.Builds)
    (hlines : 2 ≤ bound → x.line + bound + 2 ≤ LineLimit.last)
    {format : Tail → Reading (List Piece × Tail)}
    (hformat : ∀ t : Tail, t.extent ≤ bound → YieldsPieces bound (format t)) (level : Nat)
    {t : Tail}
    (ht : t.extent ≤ bound) : YieldsPieces bound (fieldPiece x level format t) := by
  unfold fieldPiece
  refine yields_ite (yields_throw _) ?_
  have hstart := Nat.le_trans t.extent_skip ht
  refine (general_yields (expressionPart_yields _ _ _ hstart (Nat.le_refl _))).bind
    fun scanned hscanned => (endingOf_yields _).bind fun ending hending => ?_
  have hcs : t.spot.lines + scanned.1.reverse.length + 2 ≤ bound := by
    have hsize := hscanned.2
    rw [Tail.length_skip, List.length_nil] at hsize
    rw [List.length_reverse]
    unfold Tail.extent at ht
    omega
  refine (readExpression_yields hx hlines hcs _ _).bind fun e he => ?_
  have hshown := shownPart_extent ending scanned.1.reverse hscanned.1
  refine (conversionPart_yields hshown).bind fun conversion hconversion =>
    (formatPart_yields hformat hconversion).bind fun spec hspec => ?_
  refine yields_ite (yields_pure ⟨valuePieces_sound he _ _ hspec.1, ?_⟩) (yields_throw _)
  exact Nat.le_trans spec.2.extent_skip hspec.2

theorem piecesFrom_yields (hx : x.expression.Builds)
    (hlines : 2 ≤ bound → x.line + bound + 2 ≤ LineLimit.last) (n level : Nat) {t : Tail}
    (ht : t.extent ≤ bound) :
    YieldsPieces bound (piecesFrom x n level t) := by
  induction n generalizing level t with
  | zero => exact yields_pure ⟨nofun, ht⟩
  | succ n ih =>
    rw [piecesFrom]
    refine (general_yields (literalPart_yields _ _ _ ht [])).bind fun read hread => ?_
    obtain ⟨acc, ending, t⟩ := read
    refine (textPieces_yields _ _).bind fun text htext => ?_
    cases ending with
    | doubled =>
      exact (ih level hread).bind fun rest hrest =>
        yields_pure ⟨List.forall_mem_append.mpr ⟨htext, hrest.1⟩, hrest.2⟩
    | plain =>
      dsimp only
      split
      · exact yields_ite (yields_pure ⟨htext, hread⟩) (yields_throw _)
      · exact yields_pure ⟨htext, hread⟩
      · refine (fieldPiece_yields hx hlines (fun _ => ih (level + 1)) level hread).bind
          fun field hfield => ?_
        refine (ih level hfield.2).bind fun rest hrest => yields_pure ⟨?_, hrest.2⟩
        exact List.forall_mem_append.mpr
          ⟨List.forall_mem_append.mpr ⟨htext, hfield.1⟩, hrest.1⟩

theorem pieces_yields (hx : x.expression.Builds) {cs : List Char}
    (hlines : 2 ≤ cs.length → x.line + cs.length + 2 ≤ LineLimit.last) (start : Nat) :
    Yields (fun ps => ∀ p ∈ ps, SoundPiece p) (pieces x start cs) :=
  (piecesFrom_yields hx hlines _ _ (Nat.le_of_eq (Nat.zero_add _))).bind fun _ hread =>
    yields_pure hread.1

end Pieces

namespace Grammar

/-! ### Nodes of formatted texts -/

variable {p : Place}

mutual
theorem pieceNode_built (hp : p.Sited) :
    ∀ piece, SoundPiece piece → Built .expression (pieceNode p piece)
  | .text cs, _ => built_constant _ hp
  | .value e conversion none, h => by
    cases h with
    | plain he =>
      exact built_build rfl rfl rfl hp ((suits_node rfl rfl he).cons (suits_number rfl rfl _).only)
  | .value e conversion (some ps), h => by
    cases h with
    | formatted he hps =>
      have hspec : Built .expression (build .joinedStr [listField .values (pieceNodes p ps)] p) :=
        built_build rfl rfl rfl hp (suits_list rfl rfl (pieceNodes_built hp ps hps)).only
      exact built_build rfl rfl rfl hp ((suits_node rfl rfl he).cons
        ((suits_number rfl rfl _).cons (suits_node rfl rfl hspec).only))
theorem pieceNodes_built (hp : p.Sited) :
    ∀ ps, (∀ piece ∈ ps, SoundPiece piece) → ∀ n ∈ pieceNodes p ps, Built .expression n
  | [], _ => nofun
  | piece :: ps, h => by
    obtain ⟨hpiece, hps⟩ := List.forall_mem_cons.mp h
    exact List.forall_mem_cons.mpr ⟨pieceNode_built hp piece hpiece, pieceNodes_built hp ps hps⟩
end

theorem joinTexts_sound {ps : List Piece} (h : ∀ p ∈ ps, SoundPiece p) :
    ∀ p ∈ joinTexts ps, SoundPiece p := by
  induction ps with
  | nil => exact nofun
  | cons piece ps ih =>
    obtain ⟨hpiece, hps⟩ := List.forall_mem_cons.mp h
    have hrest := ih hps
    cases piece with
    | value e conversion format => exact List.forall_mem_cons.mpr ⟨hpiece, hrest⟩
    | text cs =>
      rw [joinTexts]
      split
      · next hjoined =>
        rw [hjoined] at hrest
        exact List.forall_mem_cons.mpr ⟨.text _, (List.forall_mem_cons.mp hrest).2⟩
      · split
        · exact hrest
        · exact List.forall_mem_cons.mpr ⟨.text cs, hrest⟩

theorem formattedNode_built {ps : List Piece} (h : ∀ p ∈ ps, SoundPiece p)
    (hp : p.Sited) : Built .expression (formattedNode ps p) :=
  built_build rfl rfl rfl hp (suits_list rfl rfl (pieceNodes_built hp _ (joinTexts_sound h))).only

/-! ### Numbers and strings -/

theorem number_gives : Gives (Built .expression) number := by
  refine (gives_ofKind _).bind fun t ht => ?_
  cases numberValue t.text with
  | ok a => exact .pure (built_constant a ht.sited)
  | error c => exact gives_faultAtBytes _ _ _

def SoundString : StringValue → Prop
  | .bytes _ => True
  | .pieces _ ps => ∀ p ∈ ps, SoundPiece p

theorem stringValue_gives {t : Token} (ht : t.Clear) : Gives SoundString (stringValue t) := by
  refine gives_context.bind fun x hx => .ite ?_ (.ite (.ite ?_ (.ite ?_ ?_)) (.ite ?_ ?_))
  · have hlines (h : 2 ≤ (stringParts t.text).body.length) :
        t.line + (stringParts t.text).body.length + 2 ≤ LineLimit.last := by
      have hbody := length_body (List.ne_nil_of_length_pos (Nat.lt_of_lt_of_le Nat.two_pos h))
      exact Nat.le_trans (by omega) ht.lines
    dsimp only
    split
    · next hpieces => exact .pure (pieces_yields hx.expression hlines _ _ hpieces)
    · exact gives_faultHere _
    · exact gives_fault _
  · exact gives_faultAt _ _
  · exact .pure trivial
  · split
    · exact .pure trivial
    · exact gives_faultHere _
  · exact .pure (List.forall_mem_singleton.mpr (.text _))
  · split
    · exact .pure (List.forall_mem_singleton.mpr (.text _))
    · exact gives_faultHere _

theorem stringValues_gives {ts : List Token} (hts : ∀ t ∈ ts, t.Clear) (acc : Option StringValue)
    (hacc : ∀ v ∈ acc, SoundString v) :
    Gives (fun o => ∀ v ∈ o, SoundString v) (stringValues ts acc) := by
  induction ts generalizing acc with
  | nil => exact .pure hacc
  | cons t ts ih =>
    obtain ⟨ht, hts⟩ := List.forall_mem_cons.mp hts
    have ih := ih hts
    refine (stringValue_gives ht).bind fun v hv => ?_
    split
    · exact ih _ (by rintro u ⟨⟩; exact hv)
    · exact ih _ (by rintro u ⟨⟩; trivial)
    · exact ih _ (by rintro u ⟨⟩; exact List.forall_mem_append.mpr ⟨hacc _ rfl, hv⟩)
    · exact gives_faultHere _

theorem strings_gives : Gives (Built .expression) strings := by
  refine gives_spanned ((gives_ofKind _).many1.bind fun ts hts =>
    (stringValues_gives hts none nofun).bind fun o ho => ?_)
  split
  · exact .pure fun place hplace => built_constant _ hplace
  · exact .pure fun place hplace => formattedNode_built (ho _ rfl) hplace
  · exact .pure fun place hplace => built_constant _ hplace
  · exact gives_miss

end Grammar

end CodeLint.Source
