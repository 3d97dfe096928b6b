import Stylebook.Proofs.Sorting
import Stylebook.Sorting

/-!
# Sorting by comparisons is stable sorting

* `Sorting.perm_sort` : whatever the comparisons say, the sorted list is a permutation;
* `Sorting.map_sort` : members can be replaced by others that compare alike;
* `Arranged` : the outcome of a stable sort by a key, of which there is only one
  (`Arranged.unique`);
* `Sorting.sort_eq_mergeSort` : if the comparisons are those of a key, the sorted list is that one.
-/

namespace Stylebook

variable {α β κ : Type}

namespace Sorting

variable {before : α → α → Bool}

/-! ## Halving -/

theorem insert_nil (before : α → α → Bool) (x : α) : insert before x [] = [x] := by
  rw [insert, if_pos rfl]

theorem insert_append {x middle : α} {front back : List α}
    (h : front.length = (front ++ middle :: back).length / 2) :
    insert before x (front ++ middle :: back) =
      if before x middle then insert before x front ++ middle :: back
      else front ++ middle :: insert before x back := by
  have htake : (front ++ middle :: back).take (front.length + 1) = front ++ [middle] := by
    simp [List.take_append]
  have hdrop : (front ++ middle :: back).drop (front.length + 1) = back := by
    simp [List.drop_append]
  rw [insert, if_neg (by simp), ← h, List.take_left, List.drop_left, htake, hdrop,
    List.getElem?_append_right le_rfl, Nat.sub_self]
  simp

/-- What holds of a list if it holds of both halves around its middle holds of all lists. -/
theorem halving_induction {motive : List α → Prop} (nil : motive [])
    (halves : ∀ front middle back, front.length = (front ++ middle :: back).length / 2 →
      motive front → motive back → motive (front ++ middle :: back)) (l : List α) : motive l := by
  induction hn : l.length using Nat.strong_induction_on generalizing l with
  | _ n ih =>
    cases hdrop : l.drop (l.length / 2) with
    | nil =>
      have hlength := congrArg List.length hdrop
      rw [List.length_drop, List.length_nil] at hlength
      rw [List.length_eq_zero_iff.1 (show l.length = 0 by omega)]
      exact nil
    | cons middle back =>
      have hl : l.take (l.length / 2) ++ middle :: back = l := hdrop ▸ List.take_append_drop _ _
      have hfront : (l.take (l.length / 2)).length = l.length / 2 :=
        List.length_take_of_le (Nat.div_le_self ..)
      have hlength := congrArg List.length hl
      rw [List.length_append, List.length_cons, hfront] at hlength
      rw [← hl]
      refine halves _ _ _ (by rw [hl, hfront]) (ih _ ?_ _ rfl) (ih _ ?_ _ rfl)
      · omega
      · omega

/-! ## Permutations -/

theorem run_append (follows : α → α → Bool) (a : α) (l : List α) :
    (run follows a l).1 ++ (run follows a l).2 = l := by
  fun_induction run follows a l with
  | case1 => rfl
  | case2 a b l _ parts ih => rw [List.cons_append, ih]
  | case3 => rfl

theorem isChain_run (follows : α → α → Bool) (a : α) (l : List α) :
    (a :: (run follows a l).1).IsChain fun x y => follows x y = true := by
  fun_induction run follows a l with
  | case1 a => exact .singleton a
  | case2 a b l hab parts ih => exact .cons_cons hab ih
  | case3 a => exact .singleton a

theorem perm_firstRun (before : α → α → Bool) (l : List α) :
    ((firstRun before l).1 ++ (firstRun before l).2).Perm l := by
  fun_cases firstRun before l with
  | case1 => exact .refl _
  | case2 a l falls parts =>
    have hturned : (if falls = true then (a :: parts.1).reverse else a :: parts.1).Perm (a :: parts.1) := by
      split
      · exact List.reverse_perm _
      · exact .refl _
    have happend : a :: parts.1 ++ parts.2 = a :: l := congrArg (a :: ·) (run_append _ a l)
    rw [← happend]
    exact hturned.append_right parts.2

theorem perm_insert (before : α → α → Bool) (x : α) (l : List α) :
    (insert before x l).Perm (x :: l) := by
  induction l using halving_induction with
  | nil => rw [insert_nil]
  | halves front middle back hmiddle hfront hback =>
    rw [insert_append hmiddle]
    split
    · exact hfront.append_right _
    · exact (((hback.cons middle).trans (.swap x middle back)).append_left front).trans List.perm_middle

theorem perm_foldl_insert (before : α → α → Bool) (sorted rest : List α) :
    (rest.foldl (fun sorted x => insert before x sorted) sorted).Perm (sorted ++ rest) := by
  induction rest generalizing sorted with
  | nil => simp
  | cons x rest ih =>
    refine (ih (insert before x sorted)).trans ?_
    exact ((perm_insert before x sorted).append_right rest).trans List.perm_middle.symm

theorem perm_sort (before : α → α → Bool) (l : List α) : (sort before l).Perm l :=
  (perm_foldl_insert before _ _).trans (perm_firstRun before l)

/-! ## Replacing members -/

section Map

variable {f : α → β} {before' : β → β → Bool}

theorem map_run {follows : α → α → Bool} {follows' : β → β → Bool} {a : α} {l : List α}
    (h : ∀ x ∈ a :: l, ∀ y ∈ a :: l, follows x y = follows' (f x) (f y)) :
    run follows' (f a) (l.map f) = ((run follows a l).1.map f, (run follows a l).2.map f) := by
  induction l generalizing a with
  | nil => rfl
  | cons b l ih =>
    have hb := ih fun x hx y hy => h x (List.mem_cons_of_mem a hx) y (List.mem_cons_of_mem a hy)
    rw [List.map_cons, run, run, ← h a (by simp) b (by simp)]
    cases follows a b with
    | false => rfl
    | true => simp [hb]

theorem map_firstRun {l : List α} (h : ∀ x ∈ l, ∀ y ∈ l, before x y = before' (f x) (f y)) :
    firstRun before' (l.map f) = ((firstRun before l).1.map f, (firstRun before l).2.map f) := by
  cases l with
  | nil => rfl
  | cons a l =>
    have hfalls : (l.map f).head?.any (before' · (f a)) = l.head?.any (before · a) := by
      cases l with
      | nil => rfl
      | cons b l => simp [h b (by simp) a (by simp)]
    have hrun : ∀ falls, run (fun x y => before' y x == falls) (f a) (l.map f) =
        ((run (fun x y => before y x == falls) a l).1.map f,
          (run (fun x y => before y x == falls) a l).2.map f) :=
      fun falls => map_run fun x hx y hy => by rw [h y hy x hx]
    rw [List.map_cons, firstRun, firstRun, hfalls, hrun]
    cases l.head?.any (before · a) <;> simp

theorem map_insert {x : α} {l : List α} (h : ∀ y ∈ l, before x y = before' (f x) (f y)) :
    insert before' (f x) (l.map f) = (insert before x l).map f := by
  induction l using halving_induction with
  | nil => rw [List.map_nil, insert_nil, insert_nil, List.map_singleton]
  | halves front middle back hmiddle hfront hback =>
    rw [List.forall_mem_append, List.forall_mem_cons] at h
    rw [List.map_append, List.map_cons, insert_append (by simpa using hmiddle),
      insert_append hmiddle, ← h.2.1, hfront h.1, hback h.2.2]
    split
    · simp
    · simp

theorem map_foldl_insert {sorted rest : List α}
    (h : ∀ x ∈ sorted ++ rest, ∀ y ∈ sorted ++ rest, before x y = before' (f x) (f y)) :
    (rest.map f).foldl (fun sorted x => insert before' x sorted) (sorted.map f) =
      (rest.foldl (fun sorted x => insert before x sorted) sorted).map f := by
  induction rest generalizing sorted with
  | nil => rfl
  | cons x rest ih =>
    have hperm : (insert before x sorted ++ rest).Perm (sorted ++ x :: rest) :=
      ((perm_insert before x sorted).append_right rest).trans List.perm_middle.symm
    rw [List.map_cons, List.foldl_cons, List.foldl_cons, map_insert]
    · exact ih fun y hy z hz => h y (hperm.subset hy) z (hperm.subset hz)
    · exact fun y hy => h x (by simp) y (by simp [hy])

/-- Sorting asks for comparisons only, so it can be done before or after members are replaced. -/
theorem map_sort {l : List α} (h : ∀ x ∈ l, ∀ y ∈ l, before x y = before' (f x) (f y)) :
    sort before' (l.map f) = (sort before l).map f := by
  have hperm := perm_firstRun before l
  unfold sort
  rw [map_firstRun h]
  exact map_foldl_insert fun x hx y hy => h x (hperm.subset hx) y (hperm.subset hy)

end Map

end Sorting

/-! ## Stable sorting by a key -/

theorem pairwise_of_isChain {key : α → κ} {l : List α} {r : κ → κ → Prop} [Trans r r r]
    (h : l.IsChain fun a b => r (key a) (key b)) : l.Pairwise fun a b => r (key a) (key b) :=
  List.pairwise_map.1 ((List.isChain_map key).2 h).pairwise

section Key

variable [LinearOrder κ] {key : α → κ} {l m : List α}

theorem Sorting.exists_insert_key (key : α → κ) (x : α) (h : m.Pairwise fun a b => key a ≤ key b) :
    ∃ front back, m = front ++ back ∧ insert (fun a b => decide (key a < key b)) x m = front ++ x :: back ∧
      (∀ a ∈ front, key a ≤ key x) ∧ ∀ b ∈ back, key x < key b := by
  induction m using halving_induction with
  | nil => exact ⟨[], [], rfl, insert_nil _ x, by simp, by simp⟩
  | halves front middle back hmiddle ihfront ihback =>
    obtain ⟨hfront, hback, hacross⟩ := List.pairwise_append.1 h
    obtain ⟨hmiddleback, hback⟩ := List.pairwise_cons.1 hback
    rw [insert_append hmiddle]
    by_cases hx : key x < key middle
    · obtain ⟨front', back', rfl, hinsert, hle, hlt⟩ := ihfront hfront
      refine ⟨front', back' ++ middle :: back, by simp, by simp [hx, hinsert], hle, ?_⟩
      rw [List.forall_mem_append, List.forall_mem_cons]
      exact ⟨hlt, hx, fun b hb => hx.trans_le (hmiddleback b hb)⟩
    · obtain ⟨front', back', rfl, hinsert, hle, hlt⟩ := ihback hback
      refine ⟨front ++ middle :: front', back', by simp, by simp [hx, hinsert], ?_, hlt⟩
      rw [List.forall_mem_append, List.forall_mem_cons]
      exact ⟨fun a ha => (hacross a ha middle (by simp)).trans (not_lt.1 hx), not_lt.1 hx, hle⟩

/-- The list `m` is what a stable sort makes of `l`: the key never goes down along it, and members
with the same key stand as in `l`. -/
structure Arranged (key : α → κ) (l m : List α) : Prop where
  pairwise : m.Pairwise fun a b => key a ≤ key b
  filter : ∀ k, (m.filter fun a => key a = k) = l.filter fun a => key a = k

namespace Arranged

theorem head_le {a b : α} {m' : List α} (hm : (a :: m).Pairwise fun a b => key a ≤ key b)
    (hfilter : ∀ k, ((a :: m).filter fun a => key a = k) = m'.filter fun a => key a = k)
    (hb : b ∈ m') : key a ≤ key b := by
  have hmem : b ∈ m'.filter fun a => key a = key b := by simp [hb]
  rw [← hfilter] at hmem
  rcases List.mem_cons.1 (List.mem_of_mem_filter hmem) with rfl | hmem
  · exact le_rfl
  · exact (List.pairwise_cons.1 hm).1 b hmem

theorem eq_of_filter {m' : List α} (hm : m.Pairwise fun a b => key a ≤ key b)
    (hm' : m'.Pairwise fun a b => key a ≤ key b)
    (hfilter : ∀ k, (m.filter fun a => key a = k) = m'.filter fun a => key a = k) : m = m' := by
  induction m generalizing m' with
  | nil =>
    symm
    refine List.eq_nil_iff_forall_not_mem.2 fun b hb => ?_
    have hnil := (hfilter (key b)).symm
    rw [List.filter_nil, List.filter_eq_nil_iff] at hnil
    exact hnil b hb (by simp)
  | cons a m ih =>
    cases m' with
    | nil => exact absurd (hfilter (key a)) (by simp)
    | cons b m' =>
      have hkey : key a = key b :=
        le_antisymm (head_le hm hfilter (by simp)) (head_le hm' (fun k => (hfilter k).symm) (by simp))
      have hhead := hfilter (key a)
      rw [List.filter_cons_of_pos (by simp), List.filter_cons_of_pos (by simp [hkey]), List.cons.injEq] at hhead
      obtain ⟨rfl, htail⟩ := hhead
      rw [ih (List.pairwise_cons.1 hm).2 (List.pairwise_cons.1 hm').2]
      intro k
      by_cases hk : key a = k
      · rw [← hk, htail]
      · have hrest := hfilter k
        rwa [List.filter_cons_of_neg (by simpa using hk), List.filter_cons_of_neg (by simpa using hk)] at hrest

theorem unique {m' : List α} (h : Arranged key l m) (h' : Arranged key l m') : m = m' :=
  eq_of_filter h.pairwise h'.pairwise fun k => (h.filter k).trans (h'.filter k).symm

theorem mergeSort (key : α → κ) (l : List α) :
    Arranged key l (l.mergeSort fun a b => decide (key a ≤ key b)) where
  pairwise := pairwise_mergeSort_key key l
  filter _ := filter_mergeSort key l fun _ _ => of_decide_eq_true

theorem of_pairwise (h : l.Pairwise fun a b => key a ≤ key b) : Arranged key l l :=
  ⟨h, fun _ => rfl⟩

theorem reverse (h : l.Pairwise fun a b => key b < key a) : Arranged key l l.reverse where
  pairwise := List.pairwise_reverse.2 (h.imp le_of_lt)
  filter k := by
    rw [List.filter_reverse]
    have hk : ∀ a ∈ l.filter fun a => key a = k, key a = k := by simp
    have hfalls := h.filter fun a => decide (key a = k)
    match l.filter fun a => key a = k, hk, hfalls with
    | [], _, _ => rfl
    | [_], _, _ => rfl
    | a :: b :: _, hk, hfalls =>
      have hlt : key b < key a := (List.pairwise_cons.1 hfalls).1 b (by simp)
      rw [hk a (by simp), hk b (by simp)] at hlt
      exact absurd hlt (lt_irrefl k)

/-- One more member goes after those whose key is not above its own. -/
theorem insert (h : Arranged key l m) (x : α) :
    Arranged key (l ++ [x]) (Sorting.insert (fun a b => decide (key a < key b)) x m) := by
  obtain ⟨front, back, rfl, hinsert, hfront, hback⟩ := Sorting.exists_insert_key key x h.pairwise
  rw [hinsert]
  obtain ⟨hsorted, hsorted', hacross⟩ := List.pairwise_append.1 h.pairwise
  refine ⟨?_, fun k => ?_⟩
  · refine List.pairwise_append.2 ⟨hsorted, List.pairwise_cons.2 ⟨fun b hb => (hback b hb).le, hsorted'⟩, ?_⟩
    intro a ha
    rw [List.forall_mem_cons]
    exact ⟨hfront a ha, hacross a ha⟩
  · rw [List.filter_append, List.filter_append, ← h.filter, List.filter_append]
    by_cases hk : key x = k
    · have hnil : (back.filter fun a => key a = k) = [] := by
        rw [List.filter_eq_nil_iff]
        intro b hb
        simpa using (hk ▸ hback b hb).ne'
      rw [List.filter_cons_of_pos (by simpa using hk), hnil]
      simp [hk]
    · rw [List.filter_cons_of_neg (by simpa using hk)]
      simp [hk]

theorem foldl_insert (h : Arranged key l m) (rest : List α) :
    Arranged key (l ++ rest)
      (rest.foldl (fun sorted x => Sorting.insert (fun a b => decide (key a < key b)) x sorted) m) := by
  induction rest generalizing l m with
  | nil => rwa [List.append_nil]
  | cons x rest ih =>
    have hrest := ih (h.insert x)
    rwa [List.append_assoc] at hrest

theorem firstRun (key : α → κ) (l : List α) :
    ∃ front, front ++ (Sorting.firstRun (fun a b => decide (key a < key b)) l).2 = l ∧
      Arranged key front (Sorting.firstRun (fun a b => decide (key a < key b)) l).1 := by
  cases l with
  | nil => exact ⟨[], rfl, .of_pairwise .nil⟩
  | cons a l =>
    rw [Sorting.firstRun]
    generalize (l.head?.any fun b => decide (key b < key a)) = falls
    have happend := Sorting.run_append (fun x y => decide (key y < key x) == falls) a l
    have hchain := Sorting.isChain_run (fun x y => decide (key y < key x) == falls) a l
    refine ⟨a :: (Sorting.run (fun x y => decide (key y < key x) == falls) a l).1,
      congrArg (a :: ·) happend, ?_⟩
    cases falls with
    | true =>
      have hfalls := hchain.imp (S := fun x y => key x > key y) fun x y h => by simpa using h
      exact .reverse (pairwise_of_isChain hfalls)
    | false =>
      have hrises := hchain.imp (S := fun x y => key x ≤ key y) fun x y h => by simpa using h
      exact .of_pairwise (pairwise_of_isChain hrises)

end Arranged

/-- If the comparisons are those of a key, the sorted list is the one that is stable. -/
theorem Sorting.sort_eq_mergeSort {before : α → α → Bool}
    (h : ∀ a ∈ l, ∀ b ∈ l, before a b = true ↔ key a < key b) :
    sort before l = l.mergeSort fun a b => decide (key a ≤ key b) := by
  have hkey : sort (fun a b => decide (key a < key b)) (l.map id) = (sort before l).map id := by
    refine map_sort fun a ha b hb => ?_
    rw [Bool.eq_iff_iff, decide_eq_true_iff]
    exact h a ha b hb
  rw [List.map_id, List.map_id] at hkey
  obtain ⟨front, hl, hfront⟩ := Arranged.firstRun key l
  have hsort := hfront.foldl_insert (Sorting.firstRun (fun a b => decide (key a < key b)) l).2
  rw [hl] at hsort
  rw [← hkey]
  exact hsort.unique (.mergeSort key l)

end Key

end Stylebook
