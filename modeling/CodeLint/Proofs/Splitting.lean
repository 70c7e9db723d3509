import CodeLint.Text.Split
import Mathlib.Data.List.Basic

/-!
Texts that are cut at a separator. The parts hold no separator and joined they are the text, and
there is no other way to cut it.
-/

namespace CodeLint.Text

variable {sep : Char} {cs : List Char} {parts : List (List Char)}

theorem splitAt_of_not_mem (h : sep ∉ cs) : splitAt sep cs = [cs] := by
  induction cs with
  | nil => rfl
  | cons c cs ih =>
    obtain ⟨hc, hcs⟩ := not_or.mp (mt List.mem_cons.mpr h)
    rw [splitAt, ih hcs, if_neg (by simpa using Ne.symm hc)]

theorem splitAt_append (h : sep ∉ cs) (rest : List Char) :
    splitAt sep (cs ++ sep :: rest) = cs :: splitAt sep rest := by
  induction cs with
  | nil => rw [List.nil_append, splitAt, if_pos (beq_self_eq_true sep)]
  | cons c cs ih =>
    obtain ⟨hc, hcs⟩ := not_or.mp (mt List.mem_cons.mpr h)
    rw [List.cons_append, splitAt, ih hcs, if_neg (by simpa using Ne.symm hc)]

theorem splitAt_intercalate (hne : parts ≠ []) (h : ∀ part ∈ parts, sep ∉ part) :
    splitAt sep ([sep].intercalate parts) = parts := by
  induction parts with
  | nil => exact absurd rfl hne
  | cons part parts ih =>
    obtain ⟨hpart, hparts⟩ := List.forall_mem_cons.mp h
    cases parts with
    | nil => rw [List.intercalate_singleton, splitAt_of_not_mem hpart]
    | cons next parts =>
      rw [List.intercalate_cons_cons, List.append_assoc, List.singleton_append,
        splitAt_append hpart, ih (List.cons_ne_nil _ _) hparts]

theorem cons_intercalate (hne : parts ≠ []) :
    sep :: [sep].intercalate parts = parts.flatMap (sep :: ·) := by
  induction parts with
  | nil => exact absurd rfl hne
  | cons part parts ih =>
    cases parts with
    | nil => simp
    | cons next parts =>
      rw [List.intercalate_cons_cons, List.flatMap_cons, ← ih (List.cons_ne_nil _ _)]
      simp

theorem flatMap_splitAt (sep : Char) (cs : List Char) :
    (splitAt sep cs).flatMap (sep :: ·) = sep :: cs := by
  induction cs with
  | nil => rfl
  | cons c cs ih =>
    by_cases hc : c = sep
    · rw [splitAt, if_pos (by simpa using hc), List.flatMap_cons, ih, hc]
      rfl
    · cases hsplit : splitAt sep cs with
      | nil =>
        rw [hsplit] at ih
        cases ih
      | cons part parts =>
        rw [hsplit, List.flatMap_cons, List.cons_append, List.cons.injEq] at ih
        rw [splitAt, hsplit, if_neg (by simpa using hc), List.flatMap_cons, ← ih.2]
        rfl

theorem intercalate_splitAt (sep : Char) (cs : List Char) :
    [sep].intercalate (splitAt sep cs) = cs := by
  have hjoin := flatMap_splitAt sep cs
  have hne : splitAt sep cs ≠ [] := by
    intro hnil
    rw [hnil] at hjoin
    cases hjoin
  rw [← cons_intercalate hne] at hjoin
  exact (List.cons.inj hjoin).2

theorem not_mem_of_mem_splitAt : ∀ part ∈ splitAt sep cs, sep ∉ part := by
  induction cs with
  | nil => simp [splitAt]
  | cons c cs ih =>
    by_cases hc : c = sep
    · rw [splitAt, if_pos (by simpa using hc), List.forall_mem_cons]
      exact ⟨List.not_mem_nil, ih⟩
    · rw [splitAt, if_neg (by simpa using hc)]
      cases hsplit : splitAt sep cs with
      | nil => simpa using Ne.symm hc
      | cons part parts =>
        rw [hsplit, List.forall_mem_cons] at ih
        rw [List.forall_mem_cons]
        refine ⟨fun hmem => ?_, ih.2⟩
        rcases List.mem_cons.mp hmem with h | h
        · exact hc h.symm
        · exact ih.1 h

/-- What is read as long as a question is answered in one way ends where the answer changes. -/
theorem takeWhile_append_eq {p : Char → Bool} {front rest : List Char}
    (hfront : ∀ c ∈ front, p c = true) (hrest : ∀ c ∈ rest.head?, p c = false) :
    (front ++ rest).takeWhile p = front := by
  have hnone : rest.takeWhile p = [] := by
    cases rest with
    | nil => rfl
    | cons c rest => exact List.takeWhile_cons_of_neg (by simp [hrest c rfl])
  rw [List.takeWhile_append_of_pos hfront, hnone, List.append_nil]

theorem eq_of_marked {mark : Char} {ss ts : List (List Char)}
    (hss : ∀ s ∈ ss, mark ∉ s) (hts : ∀ t ∈ ts, mark ∉ t)
    (h : ss.flatMap (mark :: ·) = ts.flatMap (mark :: ·)) : ss = ts := by
  have hread {u : List Char} (hu : mark ∉ u) (us : List (List Char)) :
      (u ++ us.flatMap (mark :: ·)).takeWhile (· != mark) = u := by
    refine takeWhile_append_eq (fun c hc => bne_iff_ne.mpr fun hcm => hu (hcm ▸ hc)) ?_
    intro c hc
    cases us with
    | nil => cases hc
    | cons u us =>
      rw [← Option.some.inj hc]
      exact bne_self_eq_false mark
  induction ss generalizing ts with
  | nil =>
    cases ts with
    | nil => rfl
    | cons t ts => cases h
  | cons s ss ih =>
    cases ts with
    | nil => cases h
    | cons t ts =>
      obtain ⟨hs, hss⟩ := List.forall_mem_cons.mp hss
      obtain ⟨ht, hts⟩ := List.forall_mem_cons.mp hts
      have hbehind : s ++ ss.flatMap (mark :: ·) = t ++ ts.flatMap (mark :: ·) := by
        simpa using h
      have hsame : s = t := by
        rw [← hread hs ss, hbehind, hread ht ts]
      rw [hsame] at hbehind ⊢
      rw [ih hss hts (List.append_cancel_left hbehind)]

/-- Where a separator stands in parts that are marked with it, a part begins. -/
theorem exists_part_of_flatMap_eq {front rest : List Char} (hparts : ∀ part ∈ parts, sep ∉ part)
    (h : parts.flatMap (sep :: ·) = front ++ sep :: rest) :
    ∃ before part behind, parts = before ++ part :: behind ∧
      front = before.flatMap (sep :: ·) ∧ rest = part ++ behind.flatMap (sep :: ·) := by
  induction parts generalizing front with
  | nil => cases front <;> cases h
  | cons p parts ih =>
    obtain ⟨hp, hparts⟩ := List.forall_mem_cons.mp hparts
    rw [List.flatMap_cons, List.cons_append] at h
    cases front with
    | nil => exact ⟨[], p, parts, rfl, rfl, (List.cons.inj h).2.symm⟩
    | cons c front =>
      obtain ⟨rfl, htail⟩ := List.cons.inj h
      -- the separator is not in the first part, so it stands behind it
      obtain ⟨mid, hfront, hrest⟩ :
          ∃ mid, front = p ++ mid ∧ parts.flatMap (sep :: ·) = mid ++ sep :: rest := by
        rcases List.append_eq_append_iff.mp htail with ⟨mid, hfront, hrest⟩ | ⟨mid, hmid, hrest⟩
        · exact ⟨mid, hfront, hrest⟩
        · cases mid with
          | nil => exact ⟨[], by simpa using hmid.symm, hrest.symm⟩
          | cons a mid =>
            have ha := (List.cons.inj hrest).1
            rw [hmid, ← ha] at hp
            exact absurd (List.mem_append_right _ List.mem_cons_self) hp
      obtain ⟨before, part, behind, rfl, rfl, rfl⟩ := ih hparts hrest
      refine ⟨p :: before, part, behind, rfl, ?_, rfl⟩
      rw [hfront, List.flatMap_cons, List.cons_append]

end CodeLint.Text
