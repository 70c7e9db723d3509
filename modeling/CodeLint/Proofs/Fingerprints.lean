import CodeLint.Measure.Fingerprint
import CodeLint.Proofs.JsonText
import CodeLint.Proofs.Splitting
import CodeLint.Proofs.Utf8Text
import CodeLint.Text.Digit
import Mathlib.Data.List.Nodup
import Mathlib.Data.String.Basic

/-!
Fingerprints of values. The parts of a list are fed one after another with nothing between them, so
lists can be fed alike though they differ; where the parts have one width, or do not hold the letter
that texts begin with, they are not. The items of a dictionary and the elements of a set are sorted
by their fingerprints first, so the order in which they are held does not count.
-/

namespace CodeLint.Measure

open CodeLint.Number CodeLint.Digest

/-! ### Texts as bytes -/

theorem asBytes_inj {s t : String} : asBytes s = asBytes t ↔ s = t := by
  refine ⟨fun h => ?_, congrArg asBytes⟩
  have hs := Text.decodeUtf8_eq_ok_iff.mpr (rfl : asBytes s = asBytes s)
  have ht := Text.decodeUtf8_eq_ok_iff.mpr (rfl : asBytes t = asBytes t)
  rw [h, ht] at hs
  exact String.toList_inj.mp (Except.ok.inj hs).symm

theorem asBytes_append (s t : String) : asBytes (s ++ t) = asBytes s ++ asBytes t := by
  rw [asBytes, String.toList_append, List.flatMap_append]
  rfl

theorem asBytes_join (ss : List String) : asBytes (String.join ss) = (ss.map asBytes).flatten := by
  rw [asBytes, String.toList_join, List.flatMap_assoc, ← List.flatMap_def]
  rfl

/-! ### Lists -/

theorem feedAll_eq (depth : Nat) (vs : List Value) : feedAll depth vs = vs.map (feed depth) := by
  induction vs with
  | nil => rw [feedAll, List.map_nil]
  | cons v vs ih => rw [feedAll, ih, List.map_cons]

theorem within_of_le {depth : Nat} (h : depth ≤ depthLimit) (bs : List UInt8) :
    within depth bs = bs := if_neg (Nat.not_lt.mpr h)

theorem ends_of_le {α : Type} {limit : Nat} {as : List α} (h : as.length ≤ limit) :
    ends limit as = as := if_pos h

theorem feed_list {vs : List Value} (h : vs.length ≤ listLimit) :
    feed 0 (.list vs) = heading "L" vs.length ++ (vs.map (feed 1)).flatten := by
  rw [feed, within_of_le (Nat.zero_le _), feedAll_eq, ends_of_le (by rwa [List.length_map])]

theorem feed_written {α : Type} {f : α → Value} {text : α → String}
    (hf : ∀ a, feed 1 (f a) = asBytes (text a)) {as : List α} (h : as.length ≤ listLimit) :
    feed 0 (.list (as.map f)) =
      asBytes ("L" ++ (toString as.length ++ String.join (as.map text))) := by
  have hparts : (as.map f).map (feed 1) = (as.map text).map asBytes := by
    simp only [List.map_map]
    exact List.map_congr_left fun a _ => hf a
  rw [feed_list (by rwa [List.length_map]), hparts, ← asBytes_join, heading, ← asBytes_append,
    List.length_map, String.append_assoc]

theorem feed_int (i : Int) : feed 1 (.int i) = asBytes (toString i) := by
  rw [feed, within_of_le (by decide)]

theorem feed_text (s : String) : feed 1 (.text s) = asBytes ("s" ++ s) := by
  rw [feed, textFeed, within_of_le (by decide)]

theorem feed_written_iff {α : Type} {f : α → Value} {text : α → String}
    (hf : ∀ a, feed 1 (f a) = asBytes (text a)) {as bs : List α} (has : as.length ≤ listLimit)
    (hbs : bs.length ≤ listLimit) :
    feed 0 (.list (as.map f)) = feed 0 (.list (bs.map f)) ↔
      toString as.length ++ String.join (as.map text) =
        toString bs.length ++ String.join (bs.map text) := by
  rw [feed_written hf has, feed_written hf hbs, asBytes_inj, String.append_right_inj]

theorem toList_written (n : Nat) (ts : List String) :
    (toString n ++ String.join ts).toList = Nat.toDigits 10 n ++ ts.flatMap String.toList := by
  rw [String.toList_append, Nat.toString_eq_ofList_toDigits, String.toList_ofList,
    String.toList_join]

theorem digits_eq {n m : Nat} {cs ds : List Char} (hcs : ∀ c ∈ cs.head?, c.isDigit = false)
    (hds : ∀ c ∈ ds.head?, c.isDigit = false)
    (h : Nat.toDigits 10 n ++ cs = Nat.toDigits 10 m ++ ds) : n = m ∧ cs = ds := by
  have hdigits (k : Nat) : ∀ c ∈ Nat.toDigits 10 k, c.isDigit = true :=
    fun c hc => Nat.isDigit_of_mem_toDigits (by decide) (by decide) hc
  have hsame : Nat.toDigits 10 n = Nat.toDigits 10 m := by
    rw [← Text.takeWhile_append_eq (hdigits n) hcs, h, Text.takeWhile_append_eq (hdigits m) hds]
  rw [hsame] at h
  exact ⟨Text.toDigits_inj hsame, List.append_cancel_left h⟩

theorem eq_of_width {width : Nat} {ss ts : List (List Char)} (hlength : ss.length = ts.length)
    (hss : ∀ s ∈ ss, s.length = width) (hts : ∀ t ∈ ts, t.length = width)
    (h : ss.flatten = ts.flatten) : ss = ts := by
  induction ss generalizing ts with
  | nil => exact (List.length_eq_zero_iff.mp hlength.symm).symm
  | cons s ss ih =>
    cases ts with
    | nil => cases hlength
    | cons t ts =>
      obtain ⟨hs, hss⟩ := List.forall_mem_cons.mp hss
      obtain ⟨ht, hts⟩ := List.forall_mem_cons.mp hts
      rw [List.flatten_cons, List.flatten_cons] at h
      obtain ⟨hsame, hrest⟩ := List.append_inj h (hs.trans ht.symm)
      rw [hsame, ih (Nat.succ.inj hlength) hss hts hrest]

theorem toString_inj {i j : Int} (h : toString i = toString j) : i = j := by
  have hminus (n m : Nat) : '-' :: Nat.toDigits 10 n ≠ Nat.toDigits 10 m := by
    intro heq
    have hmem : '-' ∈ Nat.toDigits 10 m := heq ▸ List.mem_cons_self
    exact absurd (Nat.isDigit_of_mem_toDigits (by decide) (by decide) hmem) (by decide)
  have hlist := congrArg String.toList h
  rw [Json.toList_toString, Json.toList_toString] at hlist
  by_cases hi : i < 0 <;> by_cases hj : j < 0 <;>
    simp only [hi, hj, decide_true, decide_false, signChars, if_true, if_false, Bool.false_eq_true,
      List.cons_append, List.nil_append, List.cons.injEq, true_and] at hlist
  · have habs := Text.toDigits_inj hlist
    omega
  · exact absurd hlist (hminus _ _)
  · exact absurd hlist.symm (hminus _ _)
  · have habs := Text.toDigits_inj hlist
    omega

section
variable {width : Nat} {zs : List Int} (hzs : ∀ z ∈ zs, (toString z).length = width)
include hzs

theorem length_written_numbers :
    (zs.flatMap fun z => (toString z).toList).length = width * zs.length := by
  induction zs with
  | nil => rfl
  | cons z zs ih =>
    obtain ⟨hz, hzs⟩ := List.forall_mem_cons.mp hzs
    rw [List.flatMap_cons, List.length_append, ih hzs, String.length_toList, hz,
      List.length_cons, Nat.mul_add, Nat.mul_one, Nat.add_comm]

theorem width_pos (hne : 0 < zs.length) : 0 < width := by
  obtain ⟨z, hz⟩ := List.exists_mem_of_length_pos hne
  rw [← hzs z hz, ← String.length_toList, Json.toList_toString, List.length_append]
  exact Nat.lt_of_lt_of_le Nat.length_toDigits_pos (Nat.le_add_left _ _)

/-- More numbers of the same width make a longer text. -/
theorem length_le_of_written {count : Nat} (h : (Nat.toDigits 10 count).length + width * count =
    (Nat.toDigits 10 zs.length).length + width * zs.length) : zs.length ≤ count := by
  by_contra hlt
  have hlt := Nat.lt_of_not_le hlt
  have hwidth := Nat.mul_lt_mul_of_pos_left hlt (width_pos hzs (by omega))
  have hdigits := Text.length_toDigits_mono (Nat.le_of_lt hlt)
  omega

end

/-- Numbers in one width can be told apart, and so can their count. -/
theorem eq_of_number_width {width : Nat} {xs ys : List Int}
    (hxs : ∀ x ∈ xs, (toString x).length = width) (hys : ∀ y ∈ ys, (toString y).length = width)
    (h : toString xs.length ++ String.join (xs.map toString) =
      toString ys.length ++ String.join (ys.map toString)) : xs = ys := by
  have hlist := congrArg String.toList h
  rw [toList_written, toList_written, List.flatMap_map, List.flatMap_map] at hlist
  have htotal := congrArg List.length hlist
  rw [List.length_append, List.length_append, length_written_numbers hxs,
    length_written_numbers hys] at htotal
  have hlength : xs.length = ys.length :=
    Nat.le_antisymm (length_le_of_written hxs htotal.symm) (length_le_of_written hys htotal)
  rw [hlength] at hlist
  have hparts : xs.map (fun z => (toString z).toList) = ys.map fun z => (toString z).toList := by
    have hwidth {zs : List Int} (hzs : ∀ z ∈ zs, (toString z).length = width) :
        ∀ cs ∈ zs.map (fun z => (toString z).toList), cs.length = width :=
      List.forall_mem_map.mpr fun z hz => by rw [String.length_toList, hzs z hz]
    exact eq_of_width (by simpa using hlength) (hwidth hxs) (hwidth hys)
      (List.append_cancel_left hlist)
  refine List.map_injective_iff.mpr (fun i j hij => ?_) hparts
  exact toString_inj (String.toList_inj.mp hij)

theorem flatMap_marked (ss : List String) :
    (ss.map ("s" ++ ·)).flatMap String.toList = (ss.map String.toList).flatMap ('s' :: ·) := by
  simp [List.flatMap_map]

theorem feed_texts_iff {ss ts : List String} (hss : ss.length ≤ listLimit)
    (hts : ts.length ≤ listLimit) :
    feed 0 (.list (ss.map .text)) = feed 0 (.list (ts.map .text)) ↔
      ss.length = ts.length ∧
        String.join (ss.map ("s" ++ ·)) = String.join (ts.map ("s" ++ ·)) := by
  rw [feed_written_iff feed_text hss hts]
  constructor
  · intro h
    have hlist := congrArg String.toList h
    have hmark (us : List String) :
        ∀ c ∈ ((us.map ("s" ++ ·)).flatMap String.toList).head?, c.isDigit = false := by
      intro c hc
      rw [flatMap_marked] at hc
      cases us with
      | nil => cases hc
      | cons u us =>
        rw [← Option.some.inj hc]
        decide
    rw [toList_written, toList_written] at hlist
    obtain ⟨hlength, hjoin⟩ := digits_eq (hmark ss) (hmark ts) hlist
    refine ⟨hlength, String.toList_inj.mp ?_⟩
    rw [String.toList_join, String.toList_join, hjoin]
  · rintro ⟨hlength, hjoin⟩
    rw [hlength, hjoin]

/-- Lists are fed alike just when their lengths and parts make the same text in a row. For texts the
lengths are then the same. Numbers in one width can be told apart, and so can texts without the
letter that each is fed with. -/
theorem lists_fed_alike {xs ys : List Int} {ss ts : List String} (hxs : xs.length ≤ listLimit)
    (hys : ys.length ≤ listLimit) (hss : ss.length ≤ listLimit) (hts : ts.length ≤ listLimit) :
    (feed 0 (.list (xs.map .int)) = feed 0 (.list (ys.map .int)) ↔
      toString xs.length ++ String.join (xs.map toString) =
        toString ys.length ++ String.join (ys.map toString)) ∧
    (feed 0 (.list (ss.map .text)) = feed 0 (.list (ts.map .text)) ↔
      ss.length = ts.length ∧
        String.join (ss.map ("s" ++ ·)) = String.join (ts.map ("s" ++ ·))) ∧
    ((∃ width, ∀ x ∈ xs ++ ys, (toString x).length = width) →
      feed 0 (.list (xs.map .int)) = feed 0 (.list (ys.map .int)) → xs = ys) ∧
    ((∀ s ∈ ss ++ ts, 's' ∉ s.toList) →
      feed 0 (.list (ss.map .text)) = feed 0 (.list (ts.map .text)) → ss = ts) := by
  have hints := feed_written_iff feed_int hxs hys
  have htexts := feed_texts_iff hss hts
  refine ⟨hints, htexts, fun ⟨width, hwidth⟩ h => ?_, fun hfree h => ?_⟩
  · exact eq_of_number_width (fun x hx => hwidth x (List.mem_append_left _ hx))
      (fun y hy => hwidth y (List.mem_append_right _ hy)) (hints.mp h)
  · have hjoin := congrArg String.toList (htexts.mp h).2
    rw [String.toList_join, String.toList_join, flatMap_marked, flatMap_marked] at hjoin
    have hsame := Text.eq_of_marked
      (List.forall_mem_map.mpr fun s hs => hfree s (List.mem_append_left _ hs))
      (List.forall_mem_map.mpr fun t ht => hfree t (List.mem_append_right _ ht)) hjoin
    exact List.map_injective_iff.mpr (fun s t hst => String.toList_inj.mp hst) hsame

theorem lists_fed_alike_oneDigit :
    feed 0 (.list ([4, 7].map .int)) ≠ feed 0 (.list ([7, 4].map .int)) ∧
    feed 0 (.list (["a", "b"].map .text)) ≠ feed 0 (.list (["ab", ""].map .text)) := by
  obtain ⟨-, -, hints, htexts⟩ := @lists_fed_alike [4, 7] [7, 4] ["a", "b"] ["ab", ""]
    (by decide) (by decide) (by decide) (by decide)
  exact ⟨fun h => absurd (hints ⟨1, by decide⟩ h) (by decide),
    fun h => absurd (htexts (by decide) h) (by decide)⟩

theorem different_lists_fed_alike :
    feed 0 (.list ([1, 23].map .int)) = feed 0 (.list ([12, 3].map .int)) ∧
    feed 0 (.list (["as", "b"].map .text)) = feed 0 (.list (["a", "sb"].map .text)) := by
  decide +kernel

/-! ### Orders that do not count -/

def printAt (depth : Nat) (v : Value) : String := hexText (sha256 (feed depth v))

mutual
/-- The same value with the items of dictionaries and the elements of sets in another order. -/
inductive Reordered : Value → Value → Prop
  | same (v : Value) : Reordered v v
  | list {vs ws : List Value} (h : ReorderedAll vs ws) : Reordered (.list vs) (.list ws)
  | tuple {vs ws : List Value} (h : ReorderedAll vs ws) : Reordered (.tuple vs) (.tuple ws)
  | dict {items mid others : List (Value × Value)} (hperm : items.Perm mid)
      (h : ReorderedItems mid others) : Reordered (.dict items) (.dict others)
  | set {frozen : Bool} {vs mid ws : List Value} (hperm : vs.Perm mid) (h : ReorderedAll mid ws) :
      Reordered (.set frozen vs) (.set frozen ws)
inductive ReorderedAll : List Value → List Value → Prop
  | nil : ReorderedAll [] []
  | cons {v w : Value} {vs ws : List Value} (h : Reordered v w) (hrest : ReorderedAll vs ws) :
      ReorderedAll (v :: vs) (w :: ws)
inductive ReorderedItems : List (Value × Value) → List (Value × Value) → Prop
  | nil : ReorderedItems [] []
  | cons {k l v w : Value} {items others : List (Value × Value)} (hkey : Reordered k l)
      (h : Reordered v w) (hrest : ReorderedItems items others) :
      ReorderedItems ((k, v) :: items) ((l, w) :: others)
end

mutual
def dictionaries (depth : Nat) : Value → List (Nat × List (Value × Value))
  | .list vs => dictionariesAll (depth + 1) vs
  | .tuple vs => dictionariesAll (depth + 1) vs
  | .dict items => (depth, items) :: dictionariesItems (depth + 1) items
  | .set _ vs => dictionariesAll (depth + 1) vs
  | _ => []
def dictionariesAll (depth : Nat) : List Value → List (Nat × List (Value × Value))
  | [] => []
  | v :: vs => dictionaries depth v ++ dictionariesAll depth vs
def dictionariesItems (depth : Nat) :
    List (Value × Value) → List (Nat × List (Value × Value))
  | [] => []
  | (k, v) :: items =>
    dictionaries depth k ++ dictionaries depth v ++ dictionariesItems depth items
end

def KeysDiffer (d : Nat × List (Value × Value)) : Prop :=
  (d.2.map fun i => printAt (d.1 + 1) i.1).Nodup

theorem dictionariesAll_eq (depth : Nat) (vs : List Value) :
    dictionariesAll depth vs = vs.flatMap (dictionaries depth) := by
  induction vs with
  | nil => rw [dictionariesAll, List.flatMap_nil]
  | cons v vs ih => rw [dictionariesAll, ih, List.flatMap_cons]

theorem dictionariesItems_eq (depth : Nat) (items : List (Value × Value)) :
    dictionariesItems depth items =
      items.flatMap fun i => dictionaries depth i.1 ++ dictionaries depth i.2 := by
  induction items with
  | nil => rw [dictionariesItems, List.flatMap_nil]
  | cons i items ih =>
    obtain ⟨k, v⟩ := i
    rw [dictionariesItems, ih, List.flatMap_cons]

theorem feedItems_eq (depth : Nat) (items : List (Value × Value)) :
    feedItems depth items =
      items.map fun i => (printAt depth i.1, feed depth i.1 ++ feed depth i.2) := by
  induction items with
  | nil => rw [feedItems, List.map_nil]
  | cons i items ih =>
    obtain ⟨k, v⟩ := i
    rw [feedItems, ih, List.map_cons]
    rfl

theorem sort_eq_of_perm {α : Type} (key : α → String) {as bs : List α} (hperm : as.Perm bs)
    (hkey : ∀ a ∈ as, ∀ b ∈ as, key a = key b → a = b) :
    as.mergeSort (fun a b => !decide (key b < key a)) =
      bs.mergeSort fun a b => !decide (key b < key a) := by
  have hle {a b : α} : (!decide (key b < key a)) = true ↔ key a ≤ key b := by
    rw [Bool.not_eq_true', decide_eq_false_iff_not, not_lt]
  have hsorted (cs : List α) :
      (cs.mergeSort fun a b => !decide (key b < key a)).Pairwise fun a b => key a ≤ key b := by
    refine (List.pairwise_mergeSort (fun a b c hab hbc => ?_) (fun a b => ?_) cs).imp hle.mp
    · exact hle.mpr ((hle.mp hab).trans (hle.mp hbc))
    · rw [Bool.or_eq_true, hle, hle]
      exact le_total _ _
  refine List.Perm.eq_of_pairwise (fun a b ha hb hab hba => ?_) (hsorted as) (hsorted bs)
    ((List.mergeSort_perm _ _).trans (hperm.trans (List.mergeSort_perm _ _).symm))
  exact hkey a (List.mem_mergeSort.mp ha) b (hperm.mem_iff.mpr (List.mem_mergeSort.mp hb))
    (le_antisymm hab hba)

theorem joinItems_eq_of_perm {items others : List (String × List UInt8)}
    (hperm : items.Perm others) (hkeys : (items.map (·.1)).Nodup) :
    joinItems items = joinItems others := by
  rw [joinItems, joinItems, sort_eq_of_perm (·.1) hperm fun a ha b hb h => ?_]
  exact List.inj_on_of_nodup_map hkeys ha hb h

theorem joinElements_eq_of_perm {ps qs : List String} (hperm : ps.Perm qs) :
    joinElements ps = joinElements qs := by
  rw [joinElements, joinElements]
  exact congrArg _ (sort_eq_of_perm id hperm fun _ _ _ _ h => h)

theorem length_reordered {vs ws : List Value} (h : ReorderedAll vs ws) : vs.length = ws.length := by
  induction vs generalizing ws with
  | nil =>
    cases h
    rfl
  | cons v vs ih =>
    cases h with
    | cons _ hrest => rw [List.length_cons, List.length_cons, ih hrest]

-- The induction is on the reordering. What is fed for the parts stays the same by hypothesis, in
-- the order that the reordering gave them, and that order goes where the parts are sorted.
mutual
theorem feed_reordered {v w : Value} (h : Reordered v w) {depth : Nat}
    (hkeys : ∀ d ∈ dictionaries depth v, KeysDiffer d) : feed depth v = feed depth w := by
  cases h with
  | same => rfl
  | list h =>
    rw [dictionaries] at hkeys
    rw [feed, feed, feedAll_reordered h hkeys, length_reordered h]
  | tuple h =>
    rw [dictionaries] at hkeys
    rw [feed, feed, feedAll_reordered h hkeys, length_reordered h]
  | @dict items mid others hperm h =>
    rw [dictionaries, List.forall_mem_cons] at hkeys
    obtain ⟨hdiffer, hinner⟩ := hkeys
    have hmid : ∀ d ∈ dictionariesItems (depth + 1) mid, KeysDiffer d := by
      rw [dictionariesItems_eq] at hinner ⊢
      exact fun d hd => hinner d ((hperm.flatMap_right _).mem_iff.mpr hd)
    obtain ⟨hlength, hsame⟩ := feedItems_reordered h hmid
    have hsorted : joinItems (feedItems (depth + 1) items) =
        joinItems (feedItems (depth + 1) mid) := by
      rw [feedItems_eq, feedItems_eq]
      refine joinItems_eq_of_perm (hperm.map _) ?_
      rwa [List.map_map]
    rw [feed, feed, hsorted, hsame, hperm.length_eq, hlength]
  | @set frozen vs mid ws hperm h =>
    rw [dictionaries] at hkeys
    have hmid : ∀ d ∈ dictionariesAll (depth + 1) mid, KeysDiffer d := by
      rw [dictionariesAll_eq] at hkeys ⊢
      exact fun d hd => hkeys d ((hperm.flatMap_right _).mem_iff.mpr hd)
    have hsorted : joinElements ((feedAll (depth + 1) vs).map fun bs => hexText (sha256 bs)) =
        joinElements ((feedAll (depth + 1) mid).map fun bs => hexText (sha256 bs)) := by
      rw [feedAll_eq, feedAll_eq]
      exact joinElements_eq_of_perm ((hperm.map _).map _)
    rw [feed, feed, hsorted, feedAll_reordered h hmid, hperm.length_eq, length_reordered h]
theorem feedAll_reordered {vs ws : List Value} (h : ReorderedAll vs ws) {depth : Nat}
    (hkeys : ∀ d ∈ dictionariesAll depth vs, KeysDiffer d) :
    feedAll depth vs = feedAll depth ws := by
  cases h with
  | nil => rfl
  | cons h hrest =>
    rw [dictionariesAll, List.forall_mem_append] at hkeys
    rw [feedAll, feedAll, feed_reordered h hkeys.1, feedAll_reordered hrest hkeys.2]
theorem feedItems_reordered {items others : List (Value × Value)} (h : ReorderedItems items others)
    {depth : Nat} (hkeys : ∀ d ∈ dictionariesItems depth items, KeysDiffer d) :
    items.length = others.length ∧ feedItems depth items = feedItems depth others := by
  cases h with
  | nil => exact ⟨rfl, rfl⟩
  | cons hkey h hrest =>
    rw [dictionariesItems, List.forall_mem_append, List.forall_mem_append] at hkeys
    obtain ⟨⟨hk, hv⟩, hitems⟩ := hkeys
    obtain ⟨hlength, hsame⟩ := feedItems_reordered hrest hitems
    rw [feedItems, feedItems, feed_reordered hkey hk, feed_reordered h hv, hsame,
      List.length_cons, List.length_cons, hlength]
    exact ⟨rfl, rfl⟩
end

end CodeLint.Measure
