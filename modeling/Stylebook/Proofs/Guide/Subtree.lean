import Stylebook.Proofs.Guide.Query

/-!
# Subtrees in the hierarchical order

The sections at or below some levels stand together, with no others among them but those that the
order cannot tell from these.

* `SameLevel`, `levelValue_eq_iff` : levels of the same value;
* `Guide.BeginsLike`, `Guide.beginsLike_iff` : levels that are compared like others down to the
  depth of these, so that their grades, and their places, begin alike;
* `lt_of_take_lt_take`, `Guide.pairwise_take_sorted` : cut down to any depth, the places of sorted
  sections never go down.
-/

namespace Stylebook

open Text

/-- Two numbers of the same value, or two names that are the same in lower case. -/
def SameLevel (x y : Text) : Prop :=
  Rank.isNumeral x = true ∧ Rank.isNumeral y = true ∧ numeralValue x = numeralValue y ∨
    Rank.isNumeral x = false ∧ Rank.isNumeral y = false ∧ lower x = lower y

/-- The levels are compared like `above` as far as that goes: at each depth the same weight counts,
and the levels have the same value. -/
def Guide.BeginsLike (sections : List Section) (above levels : List Text) : Prop :=
  above.length ≤ levels.length ∧ ∀ k < above.length,
    ownerWeight sections (levels.take (k + 1)) = ownerWeight sections (above.take (k + 1)) ∧
      SameLevel (levels.getD k []) (above.getD k [])

theorem lt_of_take_lt_take {κ : Type} [LT κ] {n : ℕ} {xs ys : List κ} (h : xs.take n < ys.take n) :
    xs < ys := by
  induction n generalizing xs ys with
  | zero => exact absurd h (by simp)
  | succ n ih =>
    cases ys with
    | nil => exact absurd h (by simp)
    | cons y ys =>
      cases xs with
      | nil => simp
      | cons x xs =>
        rw [List.take_succ_cons, List.take_succ_cons, List.cons_lt_cons_iff] at h
        rw [List.cons_lt_cons_iff]
        rcases h with h | ⟨rfl, h⟩
        · exact Or.inl h
        · exact Or.inr ⟨rfl, ih h⟩

/-! ## Levels that begin alike -/

theorem levelValue_eq_iff {x y : Text} : levelValue x = levelValue y ↔ SameLevel x y := by
  rw [levelValue, levelValue, SameLevel]
  cases Rank.isNumeral x <;> cases Rank.isNumeral y
  · simp [List.map_inj_right char_toNat_injective]
  · simp
  · simp
  · simp

namespace Guide

variable {sections : List Section}

theorem grade_eq_iff {a b : List Text} {k : ℕ} : grade sections a k = grade sections b k ↔
    ownerWeight sections (a.take (k + 1)) = ownerWeight sections (b.take (k + 1)) ∧
      SameLevel (a.getD k []) (b.getD k []) := by
  rw [grade, grade, toLex_inj, Prod.mk.injEq, levelValue_eq_iff]

theorem beginsLike_iff {above levels : List Text} : BeginsLike sections above levels ↔
    (grades sections levels).take above.length = grades sections above := by
  simp only [BeginsLike, ← grade_eq_iff]
  constructor
  · rintro ⟨hlen, h⟩
    exact ((grades_eq_take_iff hlen).2 fun k hk _ => (h k hk).symm).symm
  · intro h
    have hlen : above.length ≤ levels.length := by
      simpa using congrArg List.length h
    exact ⟨hlen, fun k hk => ((grades_eq_take_iff hlen).1 h.symm k hk (hk.trans_le hlen)).symm⟩

theorem beginsLike_iff_places (hw : Weighable sections) {above levels : List Text} :
    BeginsLike sections above levels ↔
      (places sections levels).take above.length = places sections above := by
  have htake : ∀ x ∈ (grades sections levels).take above.length, x.isNan = false :=
    fun x hx => hw.grades levels x (List.mem_of_mem_take hx)
  rw [beginsLike_iff, places, places, ← List.map_take, Grade.map_place_inj htake (hw.grades above)]

/-- Levels at or below others have the same owners down to the depth of these. -/
theorem beginsLike_of_extends {above levels : List Text} (h : above <+: levels) :
    BeginsLike sections above levels :=
  beginsLike_iff.2 ((grades_eq_take_iff h.length_le).2 fun _ hk _ => grade_of_prefix h hk).symm

theorem pairwise_take_sorted {g : Guide} {out : List Section} (hw : Weighable g.sections)
    (h : g.sorted = .ok out) (n : ℕ) :
    out.Pairwise fun a b => (places g.sections (Reference.levels a.reference)).take n ≤
      (places g.sections (Reference.levels b.reference)).take n := by
  refine (pairwise_sorted hw h).imp fun hle => ?_
  rw [← not_lt] at hle ⊢
  exact fun hlt => hle (lt_of_take_lt_take hlt)

/-- If no weight that counts is a NaN, a section that stands between two sections at or below some
levels begins like these levels. So the sections at or below them stand in one stretch of the sorted
sections, in which all begin like them. -/
theorem sorted_subtrees_together (g : Guide) (out : List Section) (hw : Weighable g.sections)
    (h : g.sorted = .ok out) (above : List Text) :
    (∀ (i j k : ℕ) (a u b : Section), i < j → j < k →
        out[i]? = some a → out[j]? = some u → out[k]? = some b →
        above <+: Reference.levels a.reference → above <+: Reference.levels b.reference →
        BeginsLike g.sections above (Reference.levels u.reference)) ∧
      ∃ front group back, out = front ++ group ++ back ∧
        (∀ s ∈ group, BeginsLike g.sections above (Reference.levels s.reference)) ∧
        ∀ s ∈ front ++ back, ¬above <+: Reference.levels s.reference := by
  have hsorted := pairwise_take_sorted hw h above.length
  have hplaces : ∀ {levels : List Text}, above <+: levels →
      (places g.sections levels).take above.length = places g.sections above :=
    fun hext => (beginsLike_iff_places hw).1 (beginsLike_of_extends hext)
  constructor
  · intro i j k a u b hij hjk ha hu hb habove hbelow
    obtain ⟨hi, rfl⟩ := List.getElem?_eq_some_iff.1 ha
    obtain ⟨hj, rfl⟩ := List.getElem?_eq_some_iff.1 hu
    obtain ⟨hk, rfl⟩ := List.getElem?_eq_some_iff.1 hb
    rw [List.pairwise_iff_getElem] at hsorted
    have hau := hsorted i j hi hj hij
    have hub := hsorted j k hj hk hjk
    rw [hplaces habove] at hau
    rw [hplaces hbelow] at hub
    rw [beginsLike_iff_places hw]
    exact le_antisymm hub hau
  · obtain ⟨front, group, back, hout, hfront, hgroup, hback⟩ :=
      exists_split_of_pairwise_le hsorted (places g.sections above)
    refine ⟨front, group, back, hout, fun s hs => (beginsLike_iff_places hw).2 (hgroup s hs), fun s hs hext => ?_⟩
    rcases List.mem_append.1 hs with hs | hs
    · exact (hfront s hs).ne (hplaces hext)
    · exact (hback s hs).ne' (hplaces hext)

/-- Two spellings of one name whose owners both weigh without bound, so that a section below one of
them stands among those below the other. The weights of the sections themselves, one of them the
least of all, take none of these away. -/
theorem sorted_subtrees_together_spellings :
    let node (reference : String) (weight : Weight) : Section :=
      { reference := reference.toList, weight }
    let heavy : Weight := .infinite false
    let least : Weight := .infinite true
    let g : Guide := {
      sections := [node "A.3" 9, node "a - 2" 1, node "A" heavy, node "A.1" least,
        node "a" heavy, node "B" 4] }
    let out := [node "B" 4, node "A" heavy, node "a" heavy, node "A.1" least,
      node "a - 2" 1, node "A.3" 9]
    let above := ["A".toList]
    Weighable g.sections ∧ g.sorted = .ok out ∧ above <+: Reference.levels "A.1".toList ∧
      above <+: Reference.levels "A.3".toList ∧
      BeginsLike g.sections above (Reference.levels "a - 2".toList) ∧
      ∃ front group back, out = front ++ group ++ back ∧
        (∀ s ∈ group, BeginsLike g.sections above (Reference.levels s.reference)) ∧
        ∀ s ∈ front ++ back, ¬above <+: Reference.levels s.reference := by
  intro node heavy least g out above
  have hw : Weighable g.sections := by
    decide +kernel
  have h : g.sorted = .ok out := by
    set_option maxRecDepth 4000 in cbv
  have habove : above <+: Reference.levels "A.1".toList := by
    decide
  have hbelow : above <+: Reference.levels "A.3".toList := by
    decide
  have hboth := sorted_subtrees_together g out hw h above
  exact ⟨hw, h, habove, hbelow, hboth.1 3 4 5 (node "A.1" least) (node "a - 2" 1) (node "A.3" 9) (by decide) (by decide)
    rfl rfl rfl habove hbelow, hboth.2⟩

/-- A section with a NaN for its weight stands between two sections of a subtree that it is not
in. -/
theorem subtree_torn_by_nan :
    let node (reference : String) (weight : Weight) : Section :=
      { reference := reference.toList, weight }
    let g : Guide := { sections := [node "1.1" 0, node "2" (.nan 0), node "1" 0] }
    let above := ["1".toList]
    g.sorted = .ok g.sections ∧
      ¬∀ (i j k : ℕ) (a u b : Section), i < j → j < k →
        g.sections[i]? = some a → g.sections[j]? = some u → g.sections[k]? = some b →
        above <+: Reference.levels a.reference → above <+: Reference.levels b.reference →
        BeginsLike g.sections above (Reference.levels u.reference) := by
  intro node g above
  have h : g.sorted = .ok g.sections := by
    set_option maxRecDepth 4000 in cbv
  refine ⟨h, fun hall => ?_⟩
  have hbegins : BeginsLike g.sections above (Reference.levels "2".toList) :=
    hall 0 1 2 _ _ _ (by decide) (by decide) rfl rfl rfl (by decide) (by decide)
  exact absurd (hbegins.2 0 (by decide)).1 (by decide)

end Guide

end Stylebook
