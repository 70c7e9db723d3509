import CodeLint.Proofs.Origins
import CodeLint.Window.Window

/-!
Finding the line in the text of an issue. The search looks for `line ` with a digit behind it. A
digit directly behind a space is what no code and no message has, whatever names without spaces
stand in the message: so the search can match in one place only, where the line is.
-/

namespace CodeLint.Window

open CodeLint.Text

/-! ### The search -/

theorem lineDigits?_some {cs ds : List Char} (h : lineDigits? cs = some ds) :
    ∃ p rest, cs = p ++ "line ".toList ++ rest ∧ rest.takeWhile isDigit = ds ∧ ds ≠ [] := by
  induction cs with
  | nil => cases h
  | cons c cs ih =>
    simp only [lineDigits?] at h
    split at h
    · next hmatch =>
      obtain ⟨hstarts, hdigits⟩ := Bool.and_eq_true_iff.mp hmatch
      obtain ⟨rest, hrest⟩ := List.isPrefixOf_iff_prefix.mp hstarts
      rw [← hrest, List.drop_left] at h hdigits
      refine ⟨[], rest, by rw [← hrest]; rfl, Option.some.inj h, ?_⟩
      rw [← Option.some.inj h]
      simpa using hdigits
    · obtain ⟨p, rest, hcs, hrest⟩ := ih h
      exact ⟨c :: p, rest, by rw [hcs]; rfl, hrest⟩

theorem lineDigits?_none {cs : List Char} (h : lineDigits? cs = none) (p : List Char) (d : Char)
    (rest : List Char) (hcs : cs = p ++ "line ".toList ++ d :: rest) : isDigit d = false := by
  induction cs generalizing p with
  | nil => simp at hcs
  | cons c cs ih =>
    simp only [lineDigits?] at h
    split at h
    · cases h
    · next hmatch =>
      cases p with
      | nil =>
        rw [hcs] at hmatch
        simpa [List.takeWhile_cons] using hmatch
      | cons b p => exact ih h p (List.cons.inj hcs).2

end CodeLint.Window

namespace CodeLint.Text

/-! ### Digits behind spaces -/

/-- Whether a digit stands directly behind a space. The flag says whether a space stands before. -/
def spacedDigit : Bool → List Char → Bool
  | _, [] => false
  | spaced, c :: cs => (spaced && isDigit c) || spacedDigit (c == ' ') cs

def endsSpaced : Bool → List Char → Bool
  | spaced, [] => spaced
  | _, c :: cs => endsSpaced (c == ' ') cs

/-- The characters have no digit directly behind a space, and lead from one flag to the other. -/
def Passes (before : Bool) (cs : List Char) (behind : Bool) : Prop :=
  spacedDigit before cs = false ∧ endsSpaced before cs = behind

instance (b : Bool) (cs : List Char) (b' : Bool) : Decidable (Passes b cs b') :=
  inferInstanceAs (Decidable (_ ∧ _))

variable {b b' b'' : Bool} {cs ds : List Char}

theorem Passes.append (h : Passes b cs b') (h' : Passes b' ds b'') : Passes b (cs ++ ds) b'' := by
  induction cs generalizing b with
  | nil =>
    obtain ⟨-, rfl⟩ := h
    exact h'
  | cons c cs ih =>
    obtain ⟨hdigit, hends⟩ := h
    obtain ⟨hfirst, hdigit⟩ := Bool.or_eq_false_iff.mp hdigit
    obtain ⟨hrest, hends⟩ := ih ⟨hdigit, hends⟩
    exact ⟨Bool.or_eq_false_iff.mpr ⟨hfirst, hrest⟩, hends⟩

theorem passes_of_no_space (h : ' ' ∉ cs) : Passes false cs false := by
  induction cs with
  | nil => exact ⟨rfl, rfl⟩
  | cons c cs ih =>
    obtain ⟨hc, hcs⟩ := List.ne_and_not_mem_of_not_mem_cons h
    have hflag : (c == ' ') = false := beq_eq_false_iff_ne.mpr hc.symm
    obtain ⟨hdigit, hends⟩ := ih hcs
    exact ⟨by rw [spacedDigit, hflag]; exact hdigit, by rw [endsSpaced, hflag]; exact hends⟩

theorem spacedDigit_mid (p : List Char) {d : Char} (hd : isDigit d = true) (rest : List Char) :
    spacedDigit b (p ++ ' ' :: d :: rest) = true := by
  induction p generalizing b with
  | nil => simp [spacedDigit, hd]
  | cons c p ih =>
    rw [List.cons_append, spacedDigit, ih, Bool.or_true]

end CodeLint.Text

namespace CodeLint.Lint

open CodeLint.Text CodeLint.Window

variable {b b' : Bool}

def Issue.lead (i : Issue) : List Char :=
  (i.finding.code ++ ": " ++ i.finding.message ++ " (").toList

/-! ### Codes and messages -/

-- The parts of a message that are written out are taken as lists of characters, which `decide` can
-- walk through quickly.
theorem passes_none {cs : List Char} (h : Passes b cs b') :
    Passes b (String.ofList cs).toList b' := by
  rwa [String.toList_ofList]

theorem passes_one {x : String} {pre post : List Char} (hx : ' ' ∉ x.toList)
    (hpre : Passes b pre false) (hpost : Passes false post b') :
    Passes b (String.ofList pre ++ x ++ String.ofList post).toList b' := by
  simp only [String.toList_append, String.toList_ofList]
  exact (hpre.append (passes_of_no_space hx)).append hpost

theorem passes_two {x f : String} {pre mid post : List Char} (hx : ' ' ∉ x.toList)
    (hf : ' ' ∉ f.toList) (hpre : Passes b pre false) (hmid : Passes false mid false)
    (hpost : Passes false post b') :
    Passes b (String.ofList pre ++ x ++ String.ofList mid ++ f ++ String.ofList post).toList
      b' := by
  have hfirst := passes_one hx hpre hmid
  simp only [String.toList_append, String.toList_ofList] at hfirst ⊢
  exact (hfirst.append (passes_of_no_space hf)).append hpost

theorem passes_code {f : Finding} (hf : f.isNote = false) :
    Passes false (f.code ++ ": ").toList true := by
  have hcode : Passes false f.code.toList false := by
    cases f with
    | note => cases hf
    | _ => exact passes_none (by decide)
  rw [String.toList_append]
  exact hcode.append (passes_none (by decide))

theorem passes_message {f : Finding} (hf : f.isNote = false)
    (hnames : ∀ x ∈ f.names, ' ' ∉ x.toList) : Passes true f.message.toList false := by
  cases f with
  | note => cases hf
  | argumentName x f | restArgumentName x f | restKeywordName x f | keywordOnlyName x f =>
    exact passes_two (hnames x (by simp [Finding.names])) (hnames f (by simp [Finding.names]))
      (by decide) (by decide) (by decide)
  | undefinedVariable x | unusedVariable x | unusedImport x | builtInRedefined x | constantName x
  | variableName x | className x | functionName x | missingDocstring x | mutableDefault x
  | mixedReturns x | lambdaAssigned x =>
    exact passes_one (hnames x (by simp [Finding.names])) (by decide) (by decide)
  | _ => exact passes_none (by decide)

theorem passes_lead {i : Issue} (hi : i.finding.isNote = false)
    (hnames : ∀ x ∈ i.finding.names, ' ' ∉ x.toList) : Passes false i.lead false := by
  rw [Issue.lead, String.toList_append, String.toList_append]
  exact ((passes_code hi).append (passes_message hi hnames)).append (by decide)

theorem text_eq (i : Issue) :
    i.text.toList = i.lead ++ "line ".toList ++ ((lineText i.line).toList ++ [')']) := by
  have hopen : " (line ".toList = " (".toList ++ "line ".toList := by decide
  simp only [Issue.text, Issue.lead, String.toList_append, hopen, List.append_assoc]
  rfl

theorem toList_lineText (k : Nat) : (lineText (some k)).toList = Nat.toDigits 10 k := by
  have htext : lineText (some k) = toString k := rfl
  rw [htext, Nat.toString_eq_ofList_toDigits, String.toList_ofList]

/-- The search for a line can match in one place of the text of an issue: behind its message. -/
theorem match_unique {i : Issue} {k : Nat} (hline : i.line = some (k : Int))
    (hlead : Passes false i.lead false) {p rest : List Char} {d : Char}
    (htext : i.text.toList = p ++ "line ".toList ++ d :: rest) (hd : isDigit d = true) :
    p = i.lead := by
  rw [text_eq, hline, toList_lineText] at htext
  have hword : "line ".toList = "line".toList ++ [' '] := by decide
  rcases List.append_eq_append_iff.mp htext with ⟨us, hu, hus⟩ | ⟨us, hu, hus⟩
  · rcases List.eq_nil_or_concat us with rfl | ⟨us, c, rfl⟩
    · rw [List.append_nil] at hu
      exact List.append_cancel_right hu
    · -- A match further on has its space among the digits of the line.
      rw [List.concat_eq_append, hword, ← List.append_assoc, ← List.append_assoc] at hu
      have hspace : ' ' ∈ Nat.toDigits 10 k ++ [')'] := by
        rw [hus, List.concat_eq_append, ← (List.append_inj' hu rfl).2]
        simp
      rcases List.mem_append.mp hspace with hdigit | hclose
      · exact absurd (isDigit_of_mem_toDigits hdigit) (by decide)
      · exact absurd (List.mem_singleton.mp hclose) (by decide)
  · cases us with
    | nil =>
      rw [List.append_nil] at hu
      exact (List.append_cancel_right hu).symm
    | cons c us =>
      -- A match further to the left has its digit behind a space before the line.
      obtain rfl : d = c := (List.cons.inj hus).1
      have hword' : Passes false "line ".toList true := by decide
      have hquiet : spacedDigit false (i.lead ++ "line ".toList) = false :=
        (hlead.append hword').1
      rw [hu, hword, ← List.append_assoc, List.append_assoc (p ++ _), List.singleton_append,
        spacedDigit_mid _ hd] at hquiet
      cases hquiet

theorem lineDigits?_text {i : Issue} {k : Nat} (hline : i.line = some (k : Int))
    (hlead : Passes false i.lead false) :
    lineDigits? i.text.toList = some (Nat.toDigits 10 k) := by
  have hdigits : ∀ c ∈ Nat.toDigits 10 k, isDigit c = true := fun c => isDigit_of_mem_toDigits
  have hstop : isDigit ')' = false := by decide
  have htext : i.text.toList = i.lead ++ "line ".toList ++ (Nat.toDigits 10 k ++ [')']) := by
    rw [text_eq, hline, toList_lineText]
  cases hsearch : lineDigits? i.text.toList with
  | none =>
    obtain ⟨d, ds, hne⟩ := List.exists_cons_of_ne_nil (Nat.toDigits_ne_nil (n := k) (b := 10))
    rw [hne] at htext hdigits
    have hd := lineDigits?_none hsearch _ _ _ htext
    rw [hdigits d List.mem_cons_self] at hd
    cases hd
  | some ds =>
    obtain ⟨p, rest, hp, hrest, hne⟩ := lineDigits?_some hsearch
    have hplace : p = i.lead := by
      cases rest with
      | nil => exact (hne hrest.symm).elim
      | cons d rest =>
        refine match_unique hline hlead hp (Decidable.byContradiction fun hd => hne ?_)
        rw [← hrest, List.takeWhile_cons_of_neg hd]
    rw [hplace, htext] at hp
    rw [← hrest, ← List.append_cancel_left hp, List.takeWhile_append_of_pos hdigits,
      List.takeWhile_cons_of_neg (by simp [hstop]), List.append_nil]

end CodeLint.Lint
