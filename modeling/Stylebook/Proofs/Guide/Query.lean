import Stylebook.Proofs.Guide.Order

/-!
# Queries and the hierarchical order

* `Guide.isBelow_iff`, `Guide.matching_descendants` : a query `2.1.*` asks for the sections whose
  levels properly extend those of `2.1`;
* `Guide.grade_of_prefix` : levels that go on alike are compared alike, since they have the same
  owners; `Guide.grades_lt_of_isBelow`, from it : a list of levels comes before every one that
  properly extends it;
* `Guide.pairwise_sorted` : the places of sorted sections never go down.
-/

namespace Stylebook

open Text

theorem Text.endsWith_append (s t : Text) : endsWith s (t ++ s) = true := by
  rw [endsWith, List.isPrefixOf_iff_prefix, List.reverse_append]
  exact List.prefix_append _ _

namespace Guide

variable {sections : List Section}

/-! ## Queries -/

theorem isBelow_iff {above levels : List Text} :
    isBelow above levels = true ↔ above <+: levels ∧ above.length < levels.length := by
  rw [isBelow, Bool.and_eq_true, decide_eq_true_iff, List.isPrefixOf_iff_prefix, and_comm]

theorem mem_below {g : Guide} {above : List Text} {t : Section} :
    t ∈ g.below above ↔ t ∈ g.sections ∧ isBelow above (Reference.levels t.reference) = true :=
  List.mem_filter

/-- A query for all descendants goes by the levels of the reference before its mark. -/
theorem matching_descendants (g : Guide) (reference : Text) :
    g.matching (reference ++ ['.', '*']) = g.below (Reference.levels reference) := by
  have htake : (reference ++ ['.', '*']).take ((reference ++ ['.', '*']).length - 2) =
      reference := by
    simp
  rw [matching, if_pos (endsWith_append _ _), htake]

/-! ## Levels that extend others -/

/-- What a level is compared by depends on the levels down to it only. -/
theorem grade_of_prefix {a b : List Text} (h : a <+: b) {k : ℕ} (hk : k < a.length) :
    grade sections a k = grade sections b k := by
  obtain ⟨rest, rfl⟩ := h
  have htake : (a ++ rest).take (k + 1) = a.take (k + 1) := List.take_append_of_le_length hk
  have hlevel : (a ++ rest).getD k [] = a.getD k [] := by simp [List.getElem?_append_left hk]
  rw [grade, grade, htake, hlevel]

/-- A list of levels comes before every one that properly extends it: no weight tells them apart,
and it is shorter. -/
theorem grades_lt_of_isBelow {a b : List Text} (h : isBelow a b = true) :
    grades sections a < grades sections b := by
  obtain ⟨hext, hlen⟩ := isBelow_iff.1 h
  rw [grades_lt_iff]
  right
  exact ⟨fun k hk _ => grade_of_prefix hext hk, hlen⟩

/-! ## Sorted sections -/

/-- The places of sorted sections never go down. -/
theorem pairwise_sorted {g : Guide} {out : List Section} (hw : Weighable g.sections)
    (h : g.sorted = .ok out) :
    out.Pairwise fun a b =>
      places g.sections (Reference.levels a.reference) ≤
        places g.sections (Reference.levels b.reference) := by
  rw [sorted_eq_mergeSort hw h]
  exact pairwise_mergeSort_key (fun s : Section => places g.sections (Reference.levels s.reference)) g.sections

/-- Among the sorted sections, every occurrence of a section stands before every occurrence of a
section that a query for its descendants finds, whatever weights the sections have, as long as none
that counts is a NaN. -/
theorem sorted_before_descendants (g : Guide) (out : List Section) (hw : Weighable g.sections)
    (h : g.sorted = .ok out) : ∀ s ∈ g.sections, ∀ t ∈ g.matching (s.reference ++ ['.', '*']),
      s ∈ out ∧ t ∈ out ∧ ∀ i j : ℕ, out[i]? = some s → out[j]? = some t → i < j := by
  intro s hs t ht
  rw [matching_descendants, mem_below] at ht
  obtain ⟨ht, hbelow⟩ := ht
  have hperm := perm_sorted h
  refine ⟨hperm.mem_iff.2 hs, hperm.mem_iff.2 ht, fun i j hi hj => ?_⟩
  exact lt_of_pairwise_le (pairwise_sorted hw h) ((places_lt hw).2 (grades_lt_of_isBelow hbelow)) hi hj

/-- A section read after its descendant and infinitely heavy, with a duplicate in the other spelling
and of another weight, and with no section at the level between. The sections in lower case are not
below it. -/
theorem sorted_before_descendants_infinite :
    let node (reference : String) (weight : Weight) : Section :=
      { reference := reference.toList, weight }
    let s := node "A - b" (.infinite false)
    let t := node "a.b.c.d" (-5 : Rat)
    let u := node "A - b - c - d" (.infinite true)
    let g : Guide := { sections := [u, t, node "A.b" 2, node "a" (-3 : Rat), s, node "A" 4] }
    let out := [node "a" (-3 : Rat), t, node "A" 4, node "A.b" 2, s, u]
    Weighable g.sections ∧ g.sorted = .ok out ∧ g.matching (s.reference ++ ['.', '*']) = [u] ∧
      s ∈ out ∧ u ∈ out ∧ ∀ i j : ℕ, out[i]? = some s → out[j]? = some u → i < j := by
  intro node s t u g out
  have hw : Weighable g.sections := by
    decide +kernel
  have h : g.sorted = .ok out := by
    set_option maxRecDepth 4000 in cbv
  have hmatch : g.matching (s.reference ++ ['.', '*']) = [u] := by
    decide
  have hs : s ∈ g.sections := by simp [g]
  exact ⟨hw, h, hmatch, sorted_before_descendants g out hw h s hs u (hmatch ▸ List.mem_singleton_self u)⟩

/-- A section with a NaN for its weight stands between a section and one below it, which stay in the
wrong order. -/
theorem descendant_first_of_nan :
    let node (reference : String) (weight : Weight) : Section :=
      { reference := reference.toList, weight }
    let g : Guide := { sections := [node "1.1" 0, node "2" (.nan 0), node "1" 0] }
    g.sorted = .ok g.sections ∧
      ¬∀ s ∈ g.sections, ∀ t ∈ g.matching (s.reference ++ ['.', '*']),
        s ∈ g.sections ∧ t ∈ g.sections ∧ ∀ i j : ℕ, g.sections[i]? = some s →
            g.sections[j]? = some t → i < j := by
  intro node g
  have h : g.sorted = .ok g.sections := by
    set_option maxRecDepth 4000 in cbv
  have hmatch : g.matching ("1".toList ++ ['.', '*']) = [node "1.1" 0] := by
    decide
  refine ⟨h, fun hall => ?_⟩
  have hlt := (hall (node "1" 0) (by simp [g]) (node "1.1" 0) (hmatch ▸ List.mem_singleton_self _)).2.2 2 0 rfl rfl
  exact absurd hlt (by decide)

end Guide

end Stylebook
