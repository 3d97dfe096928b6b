import Mathlib.Data.Fin.Tuple.Sort
import Mathlib.Data.List.FinRange
import Mathlib.Data.Prod.Lex

/-!
# Sorting by a key

* `pairwise_mergeSort_key` : along the sorted list the key never goes down; `lt_of_pairwise_le`,
  `map_eq_of_pairwise_le`, `exists_split_of_pairwise_le` : where the members of such a list stand;
* `mergeSort_filter` : a stable sort commutes with leaving members out; `filter_mergeSort`, from it
  : it keeps the order of members with the same key;
* `mergeSort_eq_map_positions` : sorting by a key is sorting the positions by key and position;
  `exists_perm_of_mergeSort` : the sorted positions are a permutation that makes the key grow.
-/

namespace Stylebook

variable {α κ : Type} [LinearOrder κ]

theorem decide_key_le_trans (key : α → κ) (a b c : α) (hab : decide (key a ≤ key b) = true)
    (hbc : decide (key b ≤ key c) = true) : decide (key a ≤ key c) = true := by
  rw [decide_eq_true_iff] at hab hbc ⊢
  exact hab.trans hbc

theorem decide_key_le_total (key : α → κ) (a b : α) :
    (decide (key a ≤ key b) || decide (key b ≤ key a)) = true := by
  simpa using le_total (key a) (key b)

/-- Sorting by a key gives a list along which the key never goes down. -/
theorem pairwise_mergeSort_key (key : α → κ) (l : List α) :
    (l.mergeSort fun a b => decide (key a ≤ key b)).Pairwise fun a b => key a ≤ key b := by
  have hsorted := List.pairwise_mergeSort (decide_key_le_trans key) (decide_key_le_total key) l
  exact hsorted.imp of_decide_eq_true

theorem mergeSort_congr_key (key key' : α → κ) {l : List α} (h : ∀ a ∈ l, key a = key' a) :
    (l.mergeSort fun a b => decide (key a ≤ key b)) = l.mergeSort fun a b =>
      decide (key' a ≤ key' b) := by
  have hmap : (l.mergeSort fun a b => decide (key a ≤ key b)).map id =
      (l.map id).mergeSort fun a b => decide (key' a ≤ key' b) :=
    List.map_mergeSort fun a ha b hb => by rw [h a ha, h b hb, id_eq, id_eq]
  rwa [List.map_id, List.map_id] at hmap

/-! ## Lists in order -/

/-- Of two members of a list along which a key never goes down, the one with the smaller key comes
first. -/
theorem lt_of_pairwise_le {key : α → κ} {l : List α} (h : l.Pairwise fun a b => key a ≤ key b)
    {a b : α} (hab : key a < key b) {i j : ℕ} (hi : l[i]? = some a) (hj : l[j]? = some b) :
    i < j := by
  obtain ⟨hil, rfl⟩ := List.getElem?_eq_some_iff.1 hi
  obtain ⟨hjl, rfl⟩ := List.getElem?_eq_some_iff.1 hj
  by_contra hij
  rcases Nat.lt_or_eq_of_le (Nat.le_of_not_lt hij) with hji | rfl
  · exact absurd (List.pairwise_iff_getElem.1 h j i hjl hil hji) (not_le.2 hab)
  · exact lt_irrefl _ hab

theorem map_eq_of_pairwise_le {key : α → κ} {l m : List α} (hperm : l.Perm m)
    (hl : l.Pairwise fun a b => key a ≤ key b) (hm : m.Pairwise fun a b => key a ≤ key b) :
    l.map key = m.map key := by
  apply List.Perm.eq_of_pairwise _ (List.pairwise_map.2 hl) (List.pairwise_map.2 hm) (hperm.map key)
  intro a b _ _ hab hba
  exact le_antisymm hab hba

theorem exists_split_of_pairwise_le {key : α → κ} {l : List α}
    (h : l.Pairwise fun a b => key a ≤ key b) (k : κ) :
    ∃ front group back, l = front ++ group ++ back ∧ (∀ a ∈ front, key a < k) ∧
      (∀ a ∈ group, key a = k) ∧
      ∀ a ∈ back, k < key a := by
  induction l with
  | nil => exact ⟨[], [], [], rfl, by simp, by simp, by simp⟩
  | cons a l ih =>
    rw [List.pairwise_cons] at h
    obtain ⟨front, group, back, rfl, hfront, hgroup, hback⟩ := ih h.2
    rcases lt_trichotomy (key a) k with ha | ha | ha
    · exact ⟨a :: front, group, back, rfl, List.forall_mem_cons.2 ⟨ha, hfront⟩, hgroup, hback⟩
    · have hnil : front = [] := by
        refine List.eq_nil_iff_forall_not_mem.2 fun b hb => ?_
        have hle : k ≤ key b := ha ▸ h.1 b (by simp [hb])
        exact absurd (hfront b hb) (not_lt.2 hle)
      subst hnil
      exact ⟨[], a :: group, back, rfl, by simp, List.forall_mem_cons.2 ⟨ha, hgroup⟩, hback⟩
    · refine ⟨[], [], a :: (front ++ group ++ back), rfl, by simp, by simp, ?_⟩
      exact List.forall_mem_cons.2 ⟨ha, fun b hb => ha.trans_le (h.1 b hb)⟩

/-! ## Leaving members out -/

/-- With one more member in front, a sorted list has it after the smaller ones and before all that
are not smaller. -/
theorem mergeSort_cons_key (key : α → κ) (a : α) (l : List α) :
    ∃ front back, ((a :: l).mergeSort fun a b => decide (key a ≤ key b)) = front ++ a :: back ∧
      (l.mergeSort fun a b => decide (key a ≤ key b)) = front ++ back ∧
      (∀ b ∈ front, key b < key a) ∧
      ∀ b ∈ back, key a ≤ key b := by
  obtain ⟨front, back, hcons, hl, hfront⟩ :=
    List.mergeSort_cons (decide_key_le_trans key) (decide_key_le_total key) a l
  have hsorted := pairwise_mergeSort_key key (a :: l)
  rw [hcons, List.pairwise_append] at hsorted
  refine ⟨front, back, hcons, hl, fun b hb => ?_, (List.pairwise_cons.1 hsorted.2.1).1⟩
  simpa using hfront b hb

theorem append_inj_of_key {key : α → κ} {k : κ} {front back front' back' : List α}
    (h : front ++ back = front' ++ back') (hfront : ∀ b ∈ front, key b < k)
    (hback : ∀ b ∈ back, k ≤ key b) (hfront' : ∀ b ∈ front', key b < k)
    (hback' : ∀ b ∈ back', k ≤ key b) : front = front' ∧ back = back' := by
  have hfilter : ∀ x y : List α, (∀ b ∈ x, key b < k) → (∀ b ∈ y, k ≤ key b) →
      (x ++ y).filter (fun b => decide (key b < k)) = x := by
    intro x y hx hy
    rw [List.filter_append, List.filter_eq_self.2 fun b hb => decide_eq_true (hx b hb),
      List.filter_eq_nil_iff.2 fun b hb => by simpa using hy b hb, List.append_nil]
  have hx : front = front' := by
    rw [← hfilter front back hfront hback, h, hfilter front' back' hfront' hback']
  exact ⟨hx, List.append_cancel_left (hx ▸ h)⟩

/-- Members can be left out before or after sorting. -/
theorem mergeSort_filter (key : α → κ) (p : α → Bool) (l : List α) :
    ((l.filter p).mergeSort fun a b => decide (key a ≤ key b)) =
      (l.mergeSort fun a b => decide (key a ≤ key b)).filter p := by
  induction l with
  | nil => simp
  | cons a l ih =>
    obtain ⟨front, back, hcons, hl, hfront, hback⟩ := mergeSort_cons_key key a l
    rw [hl, List.filter_append] at ih
    rw [hcons, List.filter_append]
    by_cases ha : p a = true
    · rw [List.filter_cons_of_pos ha, List.filter_cons_of_pos ha]
      obtain ⟨front', back', hcons', hl', hfront', hback'⟩ := mergeSort_cons_key key a (l.filter p)
      obtain ⟨rfl, rfl⟩ := append_inj_of_key (hl'.symm.trans ih) hfront' hback'
        (fun b hb => hfront b (List.mem_of_mem_filter hb)) fun b hb =>
          hback b (List.mem_of_mem_filter hb)
      exact hcons'
    · rw [List.filter_cons_of_neg ha, List.filter_cons_of_neg ha, ih]

theorem filter_mergeSort (key : α → κ) {p : α → Bool} {k : κ} (l : List α)
    (h : ∀ a ∈ l, p a = true → key a = k) :
    (l.mergeSort fun a b => decide (key a ≤ key b)).filter p = l.filter p := by
  have hkey : ∀ a ∈ l.filter p, key a = k := by
    intro a ha
    obtain ⟨ha, hp⟩ := List.mem_filter.1 ha
    exact h a ha hp
  rw [← mergeSort_filter, List.mergeSort_of_pairwise]
  apply List.pairwise_of_forall_mem_list
  intro a ha b hb
  rw [hkey a ha, hkey b hb]
  exact decide_eq_true le_rfl

/-! ## Positions -/

theorem zipIdxLE_iff (key : α → κ) (a b : α) (m n : ℕ) :
    List.zipIdxLE (fun a b => decide (key a ≤ key b)) (a, m) (b, n) = true ↔ key a < key b ∨
      key a = key b ∧ m ≤ n := by
  unfold List.zipIdxLE
  rcases lt_trichotomy (key a) (key b) with h | h | h
  · simp [h, h.le, h.not_ge]
  · simp [h]
  · simp [h.ne', h.not_gt, h.not_ge]

/-- Sorting by a key is sorting the positions by key and position. -/
theorem mergeSort_eq_map_positions (key : α → κ) (l : List α) :
    l.mergeSort (fun a b => decide (key a ≤ key b)) =
      ((List.finRange l.length).mergeSort fun i j =>
        decide (toLex (key (l.get i), i) ≤ toLex (key (l.get j), j))).map l.get := by
  have hzip : l.zipIdx = (List.finRange l.length).map fun i => (l.get i, i.val) := by
    apply List.ext_getElem
    · simp
    · intro k _ _
      simp
  have hle : ∀ i ∈ List.finRange l.length, ∀ j ∈ List.finRange l.length,
      decide (toLex (key (l.get i), i) ≤ toLex (key (l.get j), j)) =
        List.zipIdxLE (fun a b => decide (key a ≤ key b)) (l.get i, i.val) (l.get j, j.val) := by
    intro i _ j _
    rw [Bool.eq_iff_iff, decide_eq_true_iff, Prod.Lex.toLex_le_toLex, zipIdxLE_iff, Fin.le_def]
  rw [← List.mergeSort_zipIdx, hzip, ← List.map_mergeSort hle, List.map_map]
  rfl

/-- The positions sorted by a key are a permutation that makes the key grow. -/
theorem exists_perm_of_mergeSort {n : ℕ} {key : Fin n → κ} (hkey : Function.Injective key) :
    ∃ σ : Equiv.Perm (Fin n), StrictMono (key ∘ σ) ∧
      (List.finRange n).mergeSort (fun i j => decide (key i ≤ key j)) = List.ofFn σ := by
  have hmono : StrictMono (key ∘ Tuple.sort key) :=
    (Tuple.monotone_sort key).strictMono_of_injective (hkey.comp (Tuple.sort key).injective)
  refine ⟨Tuple.sort key, hmono, ?_⟩
  have hofFn : (List.ofFn (Tuple.sort key)).Pairwise fun i j => key i ≤ key j := by
    rw [List.pairwise_ofFn]
    intro p q hpq
    exact (hmono hpq).le
  have hperm : ((List.finRange n).mergeSort fun i j => decide (key i ≤ key j)).Perm
      (List.ofFn (Tuple.sort key)) := by
    rw [List.ofFn_eq_map]
    exact (List.mergeSort_perm _ _).trans (Tuple.sort key).map_finRange_perm.symm
  refine List.Perm.eq_of_pairwise ?_ (pairwise_mergeSort_key key _) hofFn hperm
  intro i j _ _ hij hji
  exact hkey (le_antisymm hij hji)

end Stylebook
