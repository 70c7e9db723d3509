import CodeLint.Ordered
import Mathlib.Data.List.Induction

/-!
What is found in an ordered map after a change, and in a list that stands for a set. A map that is
filled entry by entry holds each name where it first came, with the value that came last.
-/

namespace CodeLint

namespace Ordered

variable {α : Type} {x y : String} {v : α} {m : Ordered α}

theorem has_put : (put x v m).has y = true ↔ x = y ∨ m.has y = true := by
  induction m with
  | nil => simp [put, has]
  | cons e m ih =>
    obtain ⟨k, w⟩ := e
    unfold put
    split
    · next hk =>
      subst hk
      simp [has]
    · simp only [has, List.any_cons, Bool.or_eq_true] at ih ⊢
      rw [ih]
      exact or_left_comm

theorem mem_put {e : String × α} (h : e ∈ put x v m) : e = (x, v) ∨ e ∈ m := by
  induction m with
  | nil => exact .inl (List.mem_singleton.mp h)
  | cons d m ih =>
    obtain ⟨k, w⟩ := d
    unfold put at h
    split at h
    · next hk =>
      subst hk
      rcases List.mem_cons.mp h with rfl | h
      · exact .inl rfl
      · exact .inr (List.mem_cons_of_mem _ h)
    · rcases List.mem_cons.mp h with rfl | h
      · exact .inr List.mem_cons_self
      · exact (ih h).imp_right (List.mem_cons_of_mem _)

theorem get?_cons (k : String) (w : α) (m : Ordered α) :
    get? y ((k, w) :: m) = if y = k then some w else get? y m := by
  rw [get?, List.lookup_cons]
  by_cases hy : y = k
  · simp [hy]
  · rw [beq_eq_false_iff_ne.mpr hy, if_neg hy]
    rfl

theorem get?_put : (put x v m).get? y = if y = x then some v else m.get? y := by
  induction m with
  | nil => exact get?_cons x v []
  | cons e m ih =>
    obtain ⟨k, w⟩ := e
    unfold put
    split
    · next hk =>
      subst hk
      rw [get?_cons, get?_cons]
      split <;> rfl
    · next hk =>
      rw [get?_cons, get?_cons, ih]
      by_cases hy : y = k
      · rw [if_pos hy, if_pos hy, if_neg (hy ▸ hk)]
      · rw [if_neg hy, if_neg hy]

theorem get?_of_has (h : m.has x = true) : ∃ v, m.get? x = some v ∧ (x, v) ∈ m := by
  induction m with
  | nil => cases h
  | cons d m ih =>
    obtain ⟨k, w⟩ := d
    unfold get?
    rw [List.lookup_cons]
    cases hk : x == k with
    | true =>
      rw [eq_of_beq hk]
      exact ⟨w, rfl, List.mem_cons_self⟩
    | false =>
      have hrest : has x m = true := by
        simp only [has, List.any_cons, Bool.or_eq_true] at h
        refine h.resolve_left fun hxk => ?_
        rw [eq_of_beq hxk, BEq.rfl] at hk
        cases hk
      obtain ⟨v, hv, hmem⟩ := ih hrest
      exact ⟨v, hv, List.mem_cons_of_mem _ hmem⟩

end Ordered

theorem mem_insertNew {α : Type} [BEq α] [LawfulBEq α] {a b : α} {as : List α} :
    b ∈ insertNew a as ↔ b = a ∨ b ∈ as := by
  unfold insertNew
  split
  · next h =>
    have ha : a ∈ as := List.contains_iff_mem.mp h
    constructor
    · exact .inr
    · rintro (rfl | hb)
      · exact ha
      · exact hb
  · simp [or_comm]

theorem nodup_insertNew {α : Type} [BEq α] [LawfulBEq α] {a : α} {as : List α} (h : as.Nodup) :
    (insertNew a as).Nodup := by
  unfold insertNew
  split
  · exact h
  · next hnew =>
    refine List.nodup_append.mpr ⟨h, by simp, fun b hb c hc => ?_⟩
    rw [List.mem_singleton.mp hc]
    rintro rfl
    exact hnew (List.contains_iff_mem.mpr hb)

theorem eraseDups_concat {α : Type} [BEq α] [LawfulBEq α] (as : List α) (a : α) :
    (as ++ [a]).eraseDups = insertNew a as.eraseDups := by
  have hcontains : as.eraseDups.contains a = as.contains a := by
    rw [Bool.eq_iff_iff, List.contains_iff_mem, List.contains_iff_mem, List.mem_eraseDups]
  rw [List.eraseDups_append, insertNew, hcontains]
  cases ha : as.contains a with
  | true => simp_all [List.removeAll]
  | false => simp_all [List.removeAll, List.eraseDups_cons]

theorem nodup_eraseDups {α : Type} [BEq α] [LawfulBEq α] (as : List α) : as.eraseDups.Nodup := by
  induction as using List.reverseRecOn with
  | nil => exact List.nodup_nil
  | append_singleton as a ih =>
    rw [eraseDups_concat]
    exact nodup_insertNew ih

/-! ### Maps filled entry by entry -/

namespace Ordered

variable {α : Type}

def tabulate (f : String → α) (xs : List String) : Ordered α := xs.map fun x => (x, f x)

theorem tabulate_congr {f g : String → α} {xs : List String} (h : ∀ x ∈ xs, f x = g x) :
    tabulate f xs = tabulate g xs :=
  List.map_congr_left fun x hx => by rw [h x hx]

theorem put_tabulate (f : String → α) {xs : List String} (hxs : xs.Nodup) (x : String) (v : α) :
    put x v (tabulate f xs) = tabulate (fun y => if y = x then v else f y) (insertNew x xs) := by
  induction xs with
  | nil => simp [tabulate, put, insertNew]
  | cons y ys ih =>
    obtain ⟨hy, hys⟩ := List.nodup_cons.mp hxs
    have hhead : put x v (tabulate f (y :: ys)) =
        if y = x then (y, v) :: tabulate f ys else (y, f y) :: put x v (tabulate f ys) := rfl
    rw [hhead]
    by_cases hx : y = x
    · -- The name is there already, and only there.
      subst hx
      have hrest : tabulate f ys = tabulate (fun z => if z = y then v else f z) ys := by
        refine tabulate_congr fun z hz => ?_
        have hne : z ≠ y := fun h => hy (h ▸ hz)
        rw [if_neg hne]
      have hsame : insertNew y (y :: ys) = y :: ys := by simp [insertNew]
      rw [if_pos rfl, hsame, hrest]
      simp [tabulate]
    · have hnew : insertNew x (y :: ys) = y :: insertNew x ys := by
        have hcontains : (y :: ys).contains x = ys.contains x := by
          simp [Ne.symm hx]
        unfold insertNew
        rw [hcontains]
        split <;> rfl
      rw [if_neg hx, ih hys, hnew]
      simp [tabulate, hx]

def lastValue? (x : String) (es : List (String × α)) : Option α :=
  (es.filter (·.1 == x)).getLast?.map (·.2)

theorem lastValue?_concat (x : String) (es : List (String × α)) (e : String × α) :
    lastValue? x (es ++ [e]) = if x = e.1 then some e.2 else lastValue? x es := by
  unfold lastValue?
  rw [List.filter_append]
  by_cases hx : x = e.1
  · simp [hx]
  · have hne : (e.1 == x) = false := beq_eq_false_iff_ne.mpr (Ne.symm hx)
    simp [hx, hne]

theorem lastValue?_map {β : Type} (f : β → String × α) (x : String) (bs : List β) :
    lastValue? x (bs.map f) =
      (bs.filter fun b => (f b).1 == x).getLast?.map fun b => (f b).2 := by
  simp only [lastValue?, List.filter_map, List.getLast?_map, Option.map_map, Function.comp_def]

def putAll (es : List (String × α)) (m : Ordered α) : Ordered α :=
  es.foldl (fun m e => put e.1 e.2 m) m

theorem has_putAll {es : List (String × α)} {m : Ordered α} {x : String} :
    (putAll es m).has x = true ↔ (∃ e ∈ es, e.1 = x) ∨ m.has x = true := by
  induction es generalizing m with
  | nil => simp [putAll]
  | cons e es ih =>
    have hcons : putAll (e :: es) m = putAll es (put e.1 e.2 m) := rfl
    rw [hcons, ih, has_put, ← or_assoc]
    simp only [List.mem_cons, exists_eq_or_imp]
    rw [@or_comm (e.1 = x)]

theorem putAll_append (es fs : List (String × α)) (m : Ordered α) :
    putAll (es ++ fs) m = putAll fs (putAll es m) := List.foldl_append

theorem mem_putAll {es : List (String × α)} {m : Ordered α} {e : String × α}
    (h : e ∈ putAll es m) : e ∈ es ∨ e ∈ m := by
  induction es generalizing m with
  | nil => exact .inr h
  | cons d es ih =>
    rcases ih (m := put d.1 d.2 m) h with hmem | hmem
    · exact .inl (List.mem_cons_of_mem d hmem)
    · rcases mem_put hmem with rfl | hmem
      · exact .inl List.mem_cons_self
      · exact .inr hmem

theorem putAll_empty (es : List (String × α)) (d : α) :
    putAll es [] =
      tabulate (fun x => (lastValue? x es).getD d) (es.map (·.1)).eraseDups := by
  induction es using List.reverseRecOn with
  | nil => rfl
  | append_singleton es e ih =>
    have hfold : putAll (es ++ [e]) [] = put e.1 e.2 (putAll es []) := by
      simp only [putAll, List.foldl_append, List.foldl_cons, List.foldl_nil]
    rw [hfold, ih, put_tabulate _ (nodup_eraseDups _), List.map_append, List.map_singleton,
      eraseDups_concat]
    refine tabulate_congr fun x _ => ?_
    rw [lastValue?_concat]
    split <;> rfl

end Ordered

theorem mem_of_lookup {α β : Type} [BEq α] [LawfulBEq α] {rows : List (α × β)} {a : α} {b : β}
    (h : rows.lookup a = some b) : (a, b) ∈ rows := by
  obtain ⟨before, behind, rfl, -⟩ := List.lookup_eq_some_iff.mp h
  exact List.mem_append_right before List.mem_cons_self

end CodeLint
