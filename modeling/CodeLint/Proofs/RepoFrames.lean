import CodeLint.Measure.Frame
import CodeLint.Proofs.Splitting
import Mathlib.Data.List.Infix
import Mathlib.Logic.Relation

/-!
Files of the repository. The patterns of foreign directories are matched against whole paths, and
their stars reach over slashes. On a path in normal form that comes to asking for a directory of
that name, since every part stands between slashes.
-/

namespace CodeLint.Measure

open CodeLint.Text

/-! ### Normal forms -/

def Ordinary (part : List Char) : Prop := part ≠ [] ∧ part ≠ ['.'] ∧ part ≠ ['.', '.']

/-- Takes a needless part out of a path that begins at the root. -/
inductive Simpler : List (List Char) → List (List Char) → Prop
  | empty (front rest : List (List Char)) : Simpler (front ++ [] :: rest) (front ++ rest)
  | dot (front rest : List (List Char)) : Simpler (front ++ ['.'] :: rest) (front ++ rest)
  | up (front rest : List (List Char)) {part : List Char} (h : Ordinary part) :
      Simpler (front ++ part :: ['.', '.'] :: rest) (front ++ rest)
  | top (rest : List (List Char)) : Simpler (['.', '.'] :: rest) rest

def NormalForm (path : List Char) (parts : List (List Char)) : Prop :=
  (∀ part ∈ parts, Ordinary part) ∧
    ∃ raw, (∀ part ∈ raw, '/' ∉ part) ∧ ['/'].intercalate raw = path ∧
      Relation.ReflTransGen Simpler raw parts

theorem stepInto_ordinary {part : List Char} (h : Ordinary part) (above : List (List Char)) :
    stepInto above part = above ++ [part] := by
  obtain ⟨hempty, hdot, hup⟩ := h
  simp [stepInto, hempty, hdot, hup]

theorem normalParts_snoc (parts : List (List Char)) (part : List Char) :
    normalParts (parts ++ [part]) = stepInto (normalParts parts) part :=
  List.foldl_append

theorem normalParts_of_ordinary {parts : List (List Char)} (h : ∀ part ∈ parts, Ordinary part) :
    normalParts parts = parts := by
  induction parts using List.reverseRecOn with
  | nil => rfl
  | append_singleton parts part ih =>
    obtain ⟨hparts, hpart⟩ := List.forall_mem_append.mp h
    rw [normalParts_snoc, ih hparts, stepInto_ordinary (hpart part List.mem_cons_self)]

theorem normalParts_simpler {parts others : List (List Char)} (h : Simpler parts others) :
    normalParts parts = normalParts others := by
  cases h with
  | empty front rest => rw [normalParts, normalParts, List.foldl_append, List.foldl_append]; rfl
  | dot front rest => rw [normalParts, normalParts, List.foldl_append, List.foldl_append]; rfl
  | up front rest hpart =>
    rw [normalParts, normalParts, List.foldl_append, List.foldl_append, List.foldl_cons,
      List.foldl_cons, stepInto_ordinary hpart]
    simp [stepInto]
  | top rest => rfl

theorem Simpler.append {parts others : List (List Char)} (h : Simpler parts others)
    (more : List (List Char)) : Simpler (parts ++ more) (others ++ more) := by
  cases h with
  | empty front rest => simpa using Simpler.empty front (rest ++ more)
  | dot front rest => simpa using Simpler.dot front (rest ++ more)
  | up front rest hpart => simpa using Simpler.up front (rest ++ more) hpart
  | top => exact Simpler.top _

theorem mem_normalParts {parts : List (List Char)} :
    ∀ part ∈ normalParts parts, part ∈ parts ∧ Ordinary part := by
  induction parts using List.reverseRecOn with
  | nil => exact List.forall_mem_nil _
  | append_singleton parts last ih =>
    have habove : ∀ part ∈ normalParts parts, part ∈ parts ++ [last] ∧ Ordinary part :=
      fun part hpart => ⟨List.mem_append_left _ (ih part hpart).1, (ih part hpart).2⟩
    rw [normalParts_snoc, stepInto]
    split
    · exact habove
    · split
      · exact fun part hpart => habove part (List.mem_of_mem_dropLast hpart)
      · rename_i hneedless hup
        simp only [Bool.or_eq_true, beq_iff_eq, not_or] at hneedless hup
        refine List.forall_mem_append.mpr ⟨habove, List.forall_mem_singleton.mpr ?_⟩
        exact ⟨List.mem_append_right _ List.mem_cons_self, hneedless.1, hneedless.2, hup⟩

theorem simpler_normalParts (parts : List (List Char)) :
    Relation.ReflTransGen Simpler parts (normalParts parts) := by
  induction parts using List.reverseRecOn with
  | nil => exact .refl
  | append_singleton parts part ih =>
    have hfront : Relation.ReflTransGen Simpler (parts ++ [part]) (normalParts parts ++ [part]) :=
      ih.lift (· ++ [part]) fun _ _ h => h.append [part]
    refine hfront.trans ?_
    rw [normalParts_snoc, stepInto]
    split
    · rename_i hneedless
      simp only [Bool.or_eq_true, beq_iff_eq] at hneedless
      rcases hneedless with rfl | rfl
      · simpa using Relation.ReflTransGen.single (Simpler.empty (normalParts parts) [])
      · simpa using Relation.ReflTransGen.single (Simpler.dot (normalParts parts) [])
    · split
      · rename_i hup
        obtain rfl := eq_of_beq hup
        rcases List.eq_nil_or_concat (normalParts parts) with hnil | ⟨above, last, hlast⟩
        · rw [hnil]
          exact .single (Simpler.top [])
        · have hmem : last ∈ normalParts parts := by simp [hlast]
          have hordinary := (mem_normalParts last hmem).2
          rw [hlast]
          simpa using Relation.ReflTransGen.single (Simpler.up above [] hordinary)
      · exact .refl

theorem normalForm_iff {path : List Char} {parts : List (List Char)} :
    NormalForm path parts ↔ normalParts (splitAt '/' path) = parts := by
  constructor
  · rintro ⟨hordinary, raw, hfree, rfl, hsimpler⟩
    have hsame : normalParts raw = normalParts parts := by
      clear hordinary
      induction hsimpler with
      | refl => rfl
      | tail _ hstep ih => exact ih.trans (normalParts_simpler hstep)
    rw [normalParts_of_ordinary hordinary] at hsame
    cases raw with
    | nil => exact hsame
    | cons part raw => rw [splitAt_intercalate (List.cons_ne_nil _ _) hfree, hsame]
  · rintro rfl
    exact ⟨fun part hpart => (mem_normalParts part hpart).2, _, not_mem_of_mem_splitAt,
      intercalate_splitAt _ _, simpler_normalParts _⟩

/-! ### Foreign directories -/

def foreignNames : List String :=
  ["site-packages", "dist-packages", ".venv", "venv", ".tox", "node_modules", "vendor", "vendored",
   "_vendor", "third_party", "thirdparty", "build", "dist", ".eggs"]

theorem mem_suffixes {α : Type} {as bs : List α} : bs ∈ suffixes as ↔ bs <:+ as := by
  induction as with
  | nil => simp [suffixes]
  | cons a as ih => rw [suffixes, List.mem_cons, ih, List.suffix_cons_iff]

theorem fits_any {ps : List Piece} {cs : List Char} :
    fits (.any :: ps) cs = true ↔ ∃ ds, ds <:+ cs ∧ fits ps ds = true := by
  simp [fits, mem_suffixes]

theorem fits_chars {ds : List Char} {ps : List Piece} {cs : List Char} :
    fits (ds.map .char ++ ps) cs = true ↔ ∃ rest, cs = ds ++ rest ∧ fits ps rest = true := by
  induction ds generalizing cs with
  | nil => simp
  | cons d ds ih =>
    cases cs with
    | nil => simp [fits]
    | cons c cs =>
      rw [List.map_cons, List.cons_append, fits, Bool.and_eq_true, beq_iff_eq, ih]
      constructor
      · rintro ⟨rfl, rest, rfl, hrest⟩
        exact ⟨rest, rfl, hrest⟩
      · rintro ⟨rest, heq, hrest⟩
        obtain ⟨rfl, rfl⟩ := List.cons.inj heq
        exact ⟨rfl, rest, rfl, hrest⟩

def anywhere (ds : List Char) : List Piece := .any :: (ds.map .char ++ [.any])

theorem fits_anywhere {ds cs : List Char} : fits (anywhere ds) cs = true ↔ ds <:+: cs := by
  rw [anywhere, fits_any]
  have hrest (rest : List Char) : fits [.any] rest = true :=
    fits_any.mpr ⟨[], List.nil_suffix, rfl⟩
  constructor
  · rintro ⟨behind, ⟨front, rfl⟩, hfits⟩
    obtain ⟨rest, rfl, -⟩ := fits_chars.mp hfits
    exact ⟨front, rest, by rw [List.append_assoc]⟩
  · rintro ⟨front, rest, rfl⟩
    exact ⟨ds ++ rest, ⟨front, by rw [List.append_assoc]⟩, fits_chars.mpr ⟨rest, rfl, hrest rest⟩⟩

theorem patterns_eq : foreignPatterns.map pattern =
    (foreignNames.map fun name => anywhere ('/' :: name.toList ++ ['/'])) ++
      [anywhere (".egg-info".toList ++ ['/'])] := by
  decide +kernel

theorem isForeign_iff {path : List Char} : isForeign path = true ↔
    (∃ name ∈ foreignNames, '/' :: name.toList ++ ['/'] <:+: path) ∨
      ".egg-info".toList ++ ['/'] <:+: path := by
  have hmap : isForeign path = (foreignPatterns.map pattern).any (fits · path) := by
    rw [List.any_map]
    rfl
  simp only [hmap, patterns_eq, List.any_append, List.any_map, Bool.or_eq_true, List.any_eq_true,
    Function.comp_apply, fits_anywhere, List.mem_singleton, exists_eq_left]

variable {before : List (List Char)} {last : List Char}

theorem exists_directories (hparts : ∀ part ∈ before ++ [last], '/' ∉ part) {front rest : List Char}
    (h : (before ++ [last]).flatMap ('/' :: ·) = front ++ '/' :: rest) :
    ∃ dirs : List (List Char), (∀ part ∈ dirs, part ∈ before ∧ '/' ∉ part) ∧
      front = dirs.flatMap ('/' :: ·) := by
  obtain ⟨dirs, part, behind, hsplit, hfront, -⟩ := exists_part_of_flatMap_eq hparts h
  have hbefore : before = dirs ++ (part :: behind).dropLast := by
    rw [← List.dropLast_append_of_ne_nil (List.cons_ne_nil _ _), ← hsplit, List.dropLast_concat]
  refine ⟨dirs, fun q hq => ?_, hfront⟩
  have hmem : q ∈ before := hbefore ▸ List.mem_append_left _ hq
  exact ⟨hmem, hparts q (List.mem_append_left _ hmem)⟩

theorem flatMap_of_mem {part : List Char} (h : part ∈ before) :
    ∃ front rest, (before ++ [last]).flatMap ('/' :: ·) = front ++ '/' :: part ++ '/' :: rest := by
  obtain ⟨front, behind, rfl⟩ := List.append_of_mem h
  obtain ⟨next, rest, hrest⟩ := List.exists_cons_of_ne_nil
    (List.append_ne_nil_of_right_ne_nil behind (List.cons_ne_nil last []))
  refine ⟨front.flatMap ('/' :: ·), next ++ rest.flatMap ('/' :: ·), ?_⟩
  rw [List.append_assoc, List.cons_append, hrest]
  simp

theorem between_slashes_iff (hparts : ∀ part ∈ before ++ [last], '/' ∉ part) {name : List Char}
    (hname : '/' ∉ name) :
    '/' :: name ++ ['/'] <:+: (before ++ [last]).flatMap ('/' :: ·) ↔ name ∈ before := by
  constructor
  · rintro ⟨front, rest, h⟩
    have hslash : (before ++ [last]).flatMap ('/' :: ·) =
        (front ++ '/' :: name) ++ '/' :: rest := by
      rw [← h]
      simp
    obtain ⟨dirs, hdirs, hfront⟩ := exists_directories hparts hslash
    obtain ⟨above, part, behind, rfl, -, rfl⟩ :=
      exists_part_of_flatMap_eq (fun part hpart => (hdirs part hpart).2) hfront.symm
    cases behind with
    | nil => simpa using (hdirs part (by simp)).1
    | cons next behind => exact absurd (by simp) hname
  · intro hmem
    obtain ⟨front, rest, h⟩ := @flatMap_of_mem before last name hmem
    exact ⟨front, rest, by rw [h]; simp⟩

theorem in_front_of_slash_iff (hparts : ∀ part ∈ before ++ [last], '/' ∉ part) {ending : List Char}
    (hending : '/' ∉ ending) (hne : ending ≠ []) :
    ending ++ ['/'] <:+: (before ++ [last]).flatMap ('/' :: ·) ↔
      ∃ part ∈ before, ending <:+ part := by
  constructor
  · rintro ⟨front, rest, h⟩
    have hslash : (before ++ [last]).flatMap ('/' :: ·) = (front ++ ending) ++ '/' :: rest := by
      rw [← h]
      simp
    obtain ⟨dirs, hdirs, hfront⟩ := exists_directories hparts hslash
    rcases List.eq_nil_or_concat dirs with rfl | ⟨above, part, rfl⟩
    · exact absurd (List.append_eq_nil_iff.mp hfront).2 hne
    · refine ⟨part, (hdirs part (by simp)).1, ?_⟩
      have hlast : front ++ ending = above.flatMap ('/' :: ·) ++ '/' :: part := by
        rw [hfront]
        simp
      -- the ending holds no slash, so it does not reach beyond the last directory
      rcases List.append_eq_append_iff.mp hlast with ⟨mid, -, rfl⟩ | ⟨mid, -, hmid⟩
      · exact absurd (List.mem_append_right _ List.mem_cons_self) hending
      · cases mid with
        | nil =>
          rw [List.nil_append] at hmid
          exact absurd (hmid ▸ List.mem_cons_self) hending
        | cons c mid => exact ⟨mid, (List.cons.inj hmid).2.symm⟩
  · rintro ⟨part, hmem, start, rfl⟩
    obtain ⟨front, rest, h⟩ := @flatMap_of_mem before last _ hmem
    exact ⟨front ++ '/' :: start, rest, by rw [h]; simp⟩

/-! ### Paths below the root -/

theorem root_toList : (root ++ "/").toList = '/' :: "repo".toList ++ ['/'] := by decide +kernel

theorem benchFile_toList :
    benchFile.toList = ["repo".toList, "microbench.py".toList].flatMap ('/' :: ·) := by
  decide +kernel

/-- A path in normal form begins with a directory just when something stands below it. -/
theorem below_iff {parts : List (List Char)} (hparts : ∀ part ∈ parts, '/' ∉ part)
    {name : List Char} (hname : '/' ∉ name) :
    '/' :: name ++ ['/'] <+: '/' :: ['/'].intercalate parts ↔
      ∃ above last, parts = name :: above ++ [last] := by
  constructor
  · rintro ⟨rest, h⟩
    have hsome : parts ≠ [] := by
      rintro rfl
      simp [List.intercalate] at h
    rw [cons_intercalate hsome] at h
    have hslash : parts.flatMap ('/' :: ·) = ('/' :: name) ++ '/' :: rest := by
      rw [← h]
      simp
    obtain ⟨dirs, part, behind, rfl, hdirs, -⟩ := exists_part_of_flatMap_eq hparts hslash
    have hone : [name] = dirs := by
      refine eq_of_marked (List.forall_mem_singleton.mpr hname)
        (fun dir hdir => hparts dir (List.mem_append_left _ hdir)) ?_
      rw [← hdirs]
      simp
    rcases List.eq_nil_or_concat (part :: behind) with hnil | ⟨above, last, hlast⟩
    · cases hnil
    · exact ⟨above, last, by rw [← hone, hlast, List.concat_eq_append]; rfl⟩
  · rintro ⟨above, last, rfl⟩
    obtain ⟨next, rest, hrest⟩ := List.exists_cons_of_ne_nil
      (List.append_ne_nil_of_right_ne_nil above (List.cons_ne_nil last []))
    have hall : name :: above ++ [last] = name :: next :: rest := congrArg (name :: ·) hrest
    rw [cons_intercalate (by simp), hall]
    exact ⟨next ++ rest.flatMap ('/' :: ·), by simp⟩

theorem lastPart_flatMap (hparts : ∀ part ∈ before ++ [last], '/' ∉ part) :
    lastPart ((before ++ [last]).flatMap ('/' :: ·)) = last := by
  rw [← cons_intercalate (by simp), lastPart, splitAt,
    if_pos (beq_self_eq_true '/'), splitAt_intercalate (by simp) hparts,
    ← List.cons_append, List.getLastD_concat]

theorem isForeign_flatMap_iff (hparts : ∀ part ∈ before ++ [last], '/' ∉ part) :
    isForeign ((before ++ [last]).flatMap ('/' :: ·)) = true ↔
      ∃ part ∈ before, String.ofList part ∈ foreignNames ∨ ".egg-info".toList <:+ part := by
  have hnames : ∀ name ∈ foreignNames, '/' ∉ name.toList := by decide
  have hending : '/' ∉ ".egg-info".toList := by decide
  rw [isForeign_iff, in_front_of_slash_iff hparts hending (by decide)]
  constructor
  · rintro (⟨name, hname, hbetween⟩ | ⟨part, hpart, hsuffix⟩)
    · refine ⟨name.toList, (between_slashes_iff hparts (hnames name hname)).mp hbetween, .inl ?_⟩
      rwa [String.ofList_toList]
    · exact ⟨part, hpart, .inr hsuffix⟩
  · rintro ⟨part, hpart, hname | hsuffix⟩
    · refine .inl ⟨_, hname, ?_⟩
      rw [String.toList_ofList]
      exact (between_slashes_iff hparts (hparts part (List.mem_append_left _ hpart))).mpr hpart
    · exact .inr ⟨part, hpart, hsuffix⟩

/-! ### Frames -/

def joined (file : List Char) : List Char :=
  if file.head? = some '/' then file else "/repo/".toList ++ file

def Doubled (path : List Char) : Prop :=
  ∃ rest, path = '/' :: '/' :: rest ∧ rest.head? ≠ some '/'

theorem isDoubled_iff {path : List Char} : isDoubled path = true ↔ Doubled path := by
  constructor
  · intro h
    rw [isDoubled.eq_def] at h
    split at h
    · exact ⟨_, rfl, bne_iff_ne.mp h⟩
    · cases h
  · rintro ⟨rest, rfl, hrest⟩
    exact bne_iff_ne.mpr hrest

theorem realPath_eq (file : List Char) : realPath file = normalPath (joined file) := by
  have hroot : root.toList ++ ['/'] = "/repo/".toList := by decide +kernel
  rw [realPath, joined, ← hroot, List.append_assoc]
  simp [isAbsolute]

theorem flatMap_eq_benchFile_iff {above : List (List Char)}
    (hparts : ∀ part ∈ "repo".toList :: above ++ [last], '/' ∉ part) :
    ("repo".toList :: above ++ [last]).flatMap ('/' :: ·) = benchFile.toList ↔
      above = [] ∧ last = "microbench.py".toList := by
  rw [benchFile_toList]
  constructor
  · intro h
    have htail := (List.cons.inj (eq_of_marked hparts (by decide) h)).2
    rcases List.append_eq_singleton_iff.mp htail with ⟨hnil, hlast⟩ | ⟨-, hnil⟩
    · exact ⟨hnil, List.singleton_inj.mp hlast⟩
    · cases hnil
  · rintro ⟨rfl, rfl⟩
    rfl

theorem counted_iff {above : List (List Char)}
    (hparts : ∀ part ∈ "repo".toList :: above ++ [last], '/' ∉ part) :
    (('/' :: ['/'].intercalate ("repo".toList :: above ++ [last]) ≠ benchFile.toList) ∧
      (¬ownMark.toList <+: lastPart ('/' :: ['/'].intercalate ("repo".toList :: above ++ [last]))) ∧
      ¬isForeign ('/' :: ['/'].intercalate ("repo".toList :: above ++ [last])) = true) ↔
    (above = [] → last ≠ "microbench.py".toList) ∧ ¬"_pti_".toList <+: last ∧
      ∀ part ∈ above, String.ofList part ∉ foreignNames ∧ ¬".egg-info".toList <:+ part := by
  have hrepo : String.ofList "repo".toList ∉ foreignNames ∧
      ¬".egg-info".toList <:+ "repo".toList := by decide
  rw [cons_intercalate (by simp), lastPart_flatMap hparts, isForeign_flatMap_iff hparts, Ne,
    flatMap_eq_benchFile_iff hparts, not_and]
  simp only [not_exists, not_and, not_or, List.forall_mem_cons, and_iff_right hrepo]
  rfl

/-- A frame belongs to the repository just when its path, in normal form, lies below the root, is
not the file of the benches or one of the measuring programs, and no directory below the root is a
foreign one. -/
theorem isRepoFrame_iff (file : String) :
    isRepoFrame file = true ↔
      file.toList.head? ≠ some '~' ∧ file.toList.head? ≠ some '<' ∧
      ¬Doubled (joined file.toList) ∧ ∃ above last,
        NormalForm (joined file.toList) ("repo".toList :: above ++ [last]) ∧
        (above = [] → last ≠ "microbench.py".toList) ∧ ¬"_pti_".toList <+: last ∧
        ∀ part ∈ above, String.ofList part ∉ foreignNames ∧ ¬".egg-info".toList <:+ part := by
  simp only [isRepoFrame, Bool.and_eq_true, bne_iff_ne, Bool.not_eq_true', ← Bool.not_eq_true,
    List.isPrefixOf_iff_prefix, and_assoc, realPath_eq, root_toList, normalForm_iff]
  refine and_congr_right fun _ => and_congr_right fun _ => ?_
  rw [normalPath]
  generalize joined file.toList = path
  have hfree : ∀ part ∈ normalParts (splitAt '/' path), '/' ∉ part :=
    fun part hpart => not_mem_of_mem_splitAt part (mem_normalParts part hpart).1
  generalize normalParts (splitAt '/' path) = parts at hfree ⊢
  by_cases hdoubled : Doubled path
  · rw [if_pos (isDoubled_iff.mpr hdoubled)]
    refine ⟨fun ⟨hbelow, _⟩ => ?_, fun ⟨hsingle, _⟩ => absurd hdoubled hsingle⟩
    have hrepo : "repo".toList = ['r', 'e', 'p', 'o'] := by decide
    obtain ⟨rest, h⟩ := hbelow
    simp [hrepo] at h
  · rw [if_neg (mt isDoubled_iff.mp hdoubled), List.singleton_append, below_iff hfree (by decide)]
    constructor
    · rintro ⟨⟨above, last, rfl⟩, hcounted⟩
      exact ⟨hdoubled, above, last, rfl, (counted_iff hfree).mp hcounted⟩
    · rintro ⟨-, above, last, rfl, hcounted⟩
      exact ⟨⟨above, last, rfl⟩, (counted_iff hfree).mpr hcounted⟩

end CodeLint.Measure
