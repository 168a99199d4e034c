import Mathlib.Data.String.Basic
import Mathlib.Data.List.Perm.Basic
import Mathlib.Data.List.Nodup
import TestDispatch.Text.ByteOrder
/-!
# Texts in byte order, and lists grouped by key

`sortTexts` reorders a list (`sortTexts_perm`) into byte order (`sortTexts_sorted`), strictly so
when the texts are distinct (`sortTexts_strict`); `sortedDistinct` lists every text once
(`sortedDistinct_nodup`, `mem_sortedDistinct`).

Indexes and plans file ids under a tag and a mode, and list them per tag in byte order and per
mode. Grouping so over the distinct tags loses and repeats nothing (`perm_flatMap_filter`), so
the groups of all tags are the filed ids in another order (`perm_groups`).
-/

namespace TestDispatch

/-! ## Texts in order, without repeats -/

theorem sortTexts_perm (xs : List String) : (sortTexts xs).Perm xs := List.mergeSort_perm _ _

theorem nodup_eraseDups : ∀ xs : List String, xs.eraseDups.Nodup
  | [] => List.nodup_nil
  | x :: xs => by
    rw [List.eraseDups_cons]
    refine List.nodup_cons.mpr ⟨?_, nodup_eraseDups _⟩
    simp [List.mem_eraseDups]
termination_by xs => xs.length
decreasing_by
  simp only [List.length_cons]
  exact Nat.lt_succ_of_le (List.length_filter_le _ _)

theorem sortedDistinct_nodup (xs : List String) : (sortedDistinct xs).Nodup :=
  (sortTexts_perm _).nodup_iff.mpr (nodup_eraseDups xs)

theorem mem_sortedDistinct {x : String} {xs : List String} : x ∈ sortedDistinct xs ↔ x ∈ xs :=
  (sortTexts_perm _).mem_iff.trans List.mem_eraseDups

/-- Sorting puts texts in byte order. -/
theorem sortTexts_sorted (xs : List String) : (sortTexts xs).Pairwise (· ≤ ·) := by
  -- the comparator of the sort is `≤` of the byte order
  have hle : ∀ a b : String, (!decide (b < a)) = true ↔ a ≤ b := fun a b => by
    rw [Bool.not_eq_true', decide_eq_false_iff_not, not_lt]
  unfold sortTexts
  refine (List.pairwise_mergeSort (fun a b c hab hbc => ?_) (fun a b => ?_) xs).imp
    fun {a b} h => (hle a b).mp h
  · exact (hle a c).mpr (le_trans ((hle a b).mp hab) ((hle b c).mp hbc))
  · simp only [Bool.or_eq_true]
    rcases le_total a b with h | h
    · exact Or.inl ((hle a b).mpr h)
    · exact Or.inr ((hle b a).mpr h)

/-- Sorting distinct texts puts them in strictly increasing byte order. -/
theorem sortTexts_strict {xs : List String} (h : xs.Nodup) : (sortTexts xs).Pairwise (· < ·) :=
  ((sortTexts_sorted xs).and ((sortTexts_perm xs).nodup_iff.mpr h)).imp
    fun ⟨hle, hne⟩ => lt_of_le_of_ne hle hne

/-! ## Grouping by key -/

/-- Grouping a list by key, over distinct keys that include the key of every element, reorders
it. -/
theorem perm_flatMap_filter {α β : Type} [DecidableEq β] (f : α → β) {ks : List β}
    (hks : ks.Nodup) (l : List α) (hl : ∀ x ∈ l, f x ∈ ks) :
    (ks.flatMap fun k => l.filter (f · = k)).Perm l := by
  induction ks generalizing l with
  | nil =>
    cases l with
    | nil => exact .nil
    | cons x _ => exact absurd (hl x (List.mem_cons_self ..)) (List.not_mem_nil)
  | cons k ks ih =>
    obtain ⟨hk, hks⟩ := List.nodup_cons.mp hks
    -- the other keys group what is left once the elements of key `k` are taken out
    have hrest : (ks.flatMap fun k' => l.filter (f · = k')) =
        ks.flatMap fun k' => (l.filter fun x => !decide (f x = k)).filter (f · = k') := by
      refine List.flatMap_congr fun k' hk' => ?_
      rw [List.filter_filter]
      refine List.filter_congr fun x _ => ?_
      by_cases hx : f x = k'
      · have : k' ≠ k := fun h => hk (h ▸ hk')
        simp [hx, this]
      · simp [hx]
    have hleft : ∀ x ∈ l.filter (fun x => !decide (f x = k)), f x ∈ ks := by
      intro x hx
      obtain ⟨hx, hne⟩ := List.mem_filter.mp hx
      simpa [of_decide_eq_false (by simpa using hne)] using hl x hx
    rw [List.flatMap_cons, hrest]
    exact ((ih hks _ hleft).append_left _).trans (List.filter_append_perm _ l)

/-- Ids filed under a tag and a mode, listed per tag in byte order and per tag by mode (the
parallel ones, then the others), are the filed ids in another order. -/
theorem perm_groups {α : Type} (l : List α) (id tag : α → String) (mode : α → Bool) :
    ((sortedDistinct (l.map tag)).flatMap fun t =>
        sortTexts ((l.filter fun a => tag a = t && mode a = true).map id) ++
          sortTexts ((l.filter fun a => tag a = t && mode a = false).map id)).Perm (l.map id) := by
  -- within a tag, the two modes split the elements of the tag
  have htag : ∀ t, (sortTexts ((l.filter fun a => tag a = t && mode a = true).map id) ++
      sortTexts ((l.filter fun a => tag a = t && mode a = false).map id)).Perm
        ((l.filter (tag · = t)).map id) := by
    intro t
    have hsplit := List.filter_append_perm mode (l.filter (tag · = t))
    refine ((sortTexts_perm _).append (sortTexts_perm _)).trans ?_
    rw [← List.map_append]
    refine List.Perm.map _ (List.Perm.trans ?_ hsplit)
    simp only [List.filter_filter]
    refine List.Perm.of_eq ?_
    congr 1 <;> refine List.filter_congr fun a _ => ?_ <;> cases mode a <;> simp [Bool.and_comm]
  refine (List.Perm.flatMap_left _ fun t _ => htag t).trans ?_
  rw [← List.map_flatMap]
  refine List.Perm.map _ (perm_flatMap_filter tag (sortedDistinct_nodup _) _ fun a ha => ?_)
  exact mem_sortedDistinct.mpr (List.mem_map_of_mem ha)

end TestDispatch
