import CodeLint.Proofs.MarginLines
import CodeLint.Proofs.Utf8Text

/-!
Opening the file that was chosen. It replaces the code by the text of the file and draws the margin
again, or it shows one error and touches nothing: the whole file is read before a pane changes, so
a fault at any byte of it comes in time.
-/

namespace CodeLint.Source

/-! ### Line ends -/

def joinPairs : List Char → List Char
  | [] => []
  | '\r' :: '\n' :: cs => '\n' :: joinPairs cs
  | c :: cs => c :: joinPairs cs

/-- Unified line ends are those of pairs, joined, and then those of single carriage returns. -/
theorem unifyLineEnds_eq (cs : List Char) :
    unifyLineEnds cs = (joinPairs cs).map fun c => if c = '\r' then '\n' else c := by
  fun_induction unifyLineEnds cs with
  | case1 => rfl
  | case2 cs ih => simp [joinPairs, ih]
  | case3 cs hpair ih =>
    rw [joinPairs]
    · simp [ih]
    · exact fun cs' _ h => hpair cs' h
  | case4 c cs hpair hsingle ih =>
    have hother : c ≠ '\r' := hsingle
    rw [joinPairs]
    · simp [ih, hother]
    · exact fun _ h _ => hother h

end CodeLint.Source

namespace CodeLint.Window

open CodeLint.Text CodeLint.Source

/-! ### Texts of files -/

def HoldsText (fs : FileSystem) (path : String) (cs : List Char) : Prop :=
  fs path = .ok (cs.flatMap String.utf8EncodeChar)

/-- The text of a file with these characters: a line feed stands for every carriage return and line
feed together, and then for every carriage return that is left. -/
def textOf (cs : List Char) : String :=
  String.ofList ((joinPairs cs).map fun c => if c = '\r' then '\n' else c)

theorem readFile_eq_ok_iff {fs : FileSystem} {path text : String} :
    readFile fs path = .ok text ↔ ∃ cs, HoldsText fs path cs ∧ textOf cs = text := by
  simp only [HoldsText, textOf, ← unifyLineEnds_eq]
  unfold readFile
  cases hbytes : fs path with
  | error e => exact ⟨nofun, fun ⟨_, h, _⟩ => nomatch h⟩
  | ok bs =>
    cases hdecoded : decodeUtf8 bs with
    | error f =>
      refine ⟨fun h => ?_, ?_⟩
      · change (Except.mapError _ (decodeUtf8 bs) >>= _) = _ at h
        rw [hdecoded] at h
        cases h
      · rintro ⟨cs, heq, -⟩
        rw [decodeUtf8_eq_ok_iff.mpr (Except.ok.inj heq).symm] at hdecoded
        cases hdecoded
    | ok cs =>
      change (Except.mapError _ (decodeUtf8 bs) >>= _) = _ ↔ _
      rw [hdecoded]
      have hencoded := decodeUtf8_eq_ok_iff.mp hdecoded
      constructor
      · intro htext
        exact ⟨cs, congrArg Except.ok hencoded.symm, Except.ok.inj htext⟩
      · rintro ⟨cs', heq, htext⟩
        rw [decodeUtf8_eq_ok_iff.mpr (Except.ok.inj heq).symm, Except.ok.injEq] at hdecoded
        rw [← htext, ← hdecoded]
        rfl

theorem readFile_eq_error {fs : FileSystem} {path e : String} (h : fs path = .error e) :
    readFile fs path = .error e := by
  rw [readFile, h]
  rfl

/-! ### Opening a file -/

theorem openFile_does_empty (w : State) : Does (openFile "") w [] w := by
  rw [openFile, if_pos (by rfl)]
  exact does_pure w

theorem openFile_does_text {w : State} {path text : String} (hpath : path ≠ "")
    (htext : readFile w.files path = .ok text) :
    Does (openFile path) w ([Action.clearCode, .insertCode text] ++ w.marginActions)
      { w with code := text } := by
  rw [openFile, if_neg (by simpa using hpath)]
  refine does_get fun done => ?_
  simp only [htext]
  exact (does_act _ w).seq ((does_act _ w).seq ((does_update _ w).seq (drawMargin_does _)))

theorem openFile_does_error {w : State} {path e : String} (hpath : path ≠ "")
    (herror : readFile w.files path = .error e) :
    Does (openFile path) w [.showError "error" ("failed to open file: " ++ e)] w := by
  rw [openFile, if_neg (by simpa using hpath)]
  refine does_get fun done => ?_
  simp only [herror]
  exact does_act _ w

def Action.isError : Action → Bool
  | .showError .. => true
  | _ => false

theorem rowActions_noError (width line : Int) (rows : List Row) :
    (rowActions width line rows).any Action.isError = false := by
  induction rows generalizing line with
  | nil => rfl
  | cons row rows ih =>
    rw [rowActions, List.any_append, ih]
    rfl

def errorOnly (w : State) (e : String) : Outcome × State :=
  (⟨[.showError "error" ("failed to open file: " ++ e)], w.code, w.results, none⟩, w)

/-- Without a path, nothing is done. A path to a file that holds a text replaces the code by the
text with its line ends unified, and draws the margin again without an error. Any other path shows
one error, that of the file system if it has one, and that is all that is done. -/
theorem upload_all_or_nothing (w : State) (path : String) :
    (path = "" → (Input.upload path).outcome w = (⟨[], w.code, w.results, none⟩, w)) ∧
    (path ≠ "" →
      (∀ cs, HoldsText w.files path cs →
        (Input.upload path).outcome w =
          (⟨[.clearCode, .insertCode (textOf cs)] ++ w.marginActions, textOf cs, w.results, none⟩,
            { w with code := textOf cs }) ∧
        w.marginActions.any Action.isError = false ∧
        ∀ drawn, w.marginActions.foldl Action.draws drawn = w.numberedLines) ∧
      ((¬∃ cs, HoldsText w.files path cs) →
        ∃ e, (Input.upload path).outcome w = errorOnly w e ∧
          ∀ e', w.files path = .error e' → e = e')) := by
  refine ⟨?_, fun hpath => ⟨fun cs hholds => ?_, fun hnone => ?_⟩⟩
  · rintro rfl
    exact Does.outcome (i := .upload "") (openFile_does_empty w)
  · have hread : readFile w.files path = .ok (textOf cs) :=
      readFile_eq_ok_iff.mpr ⟨cs, hholds, rfl⟩
    refine ⟨Does.outcome (i := .upload path) (openFile_does_text hpath hread), ?_,
      @margin_after [] rfl w⟩
    rw [State.marginActions, List.any_append, rowActions_noError]
    rfl
  · cases hread : readFile w.files path with
    | error e =>
      refine ⟨e, Does.outcome (i := .upload path) (openFile_does_error hpath hread), ?_⟩
      intro e' he'
      rw [readFile_eq_error he'] at hread
      exact (Except.error.inj hread).symm
    | ok text =>
      obtain ⟨cs, hholds, -⟩ := readFile_eq_ok_iff.mp hread
      exact absurd ⟨cs, hholds⟩ hnone

def mixedLineEnds : List UInt8 := [0xC3, 0xA9, 0x0D, 0x0A, 0x0D, 0x78, 0x0A]

def overlongFile : State where
  code := "x = 1"
  results := "no issues found!"
  rows := [⟨3, 16⟩]
  files := fun path =>
    if path = "a.py" then .ok [0x41, 0xC0, 0x80]
    else if path = "/home/u/a.py" then .ok mixedLineEnds
    else .error "[Errno 13] Permission denied: 'b.py'"

theorem upload_all_or_nothing_overlongFile :
    (∃ e, (Input.upload "a.py").outcome overlongFile = errorOnly overlongFile e) ∧
    (Input.upload "b.py").outcome overlongFile =
      errorOnly overlongFile "[Errno 13] Permission denied: 'b.py'" ∧
    ((Input.upload "/home/u/a.py").outcome overlongFile).1.code = "é\n\nx\n" := by
  have hnone : ¬∃ cs, HoldsText overlongFile.files "a.py" cs := by
    rintro ⟨cs, hholds⟩
    have hdecoded := decodeUtf8_eq_ok_iff.mpr (Except.ok.inj hholds).symm
    cases hdecoded
  have hdenied : overlongFile.files "b.py" = .error "[Errno 13] Permission denied: 'b.py'" := rfl
  have hnone' : ¬∃ cs, HoldsText overlongFile.files "b.py" cs := by
    rintro ⟨cs, hholds⟩
    cases hdenied.symm.trans hholds
  have hholds : HoldsText overlongFile.files "/home/u/a.py" ['é', '\r', '\n', '\r', 'x', '\n'] :=
    rfl
  obtain ⟨e, hfailed, -⟩ := ((upload_all_or_nothing overlongFile "a.py").2 (by decide)).2 hnone
  obtain ⟨e', hdenied', htext⟩ :=
    ((upload_all_or_nothing overlongFile "b.py").2 (by decide)).2 hnone'
  refine ⟨⟨e, hfailed⟩, ?_, ?_⟩
  · rw [hdenied', htext _ hdenied]
  · rw [(((upload_all_or_nothing overlongFile "/home/u/a.py").2 (by decide)).1 _ hholds).1]
    decide

end CodeLint.Window
