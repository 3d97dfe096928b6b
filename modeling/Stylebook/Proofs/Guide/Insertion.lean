import Stylebook.Proofs.Guide.Canonical

/-!
# A new leaf in the hierarchical order

A section lends its weight to all sections at or below its levels, so one more section can move
others about. One that has no section at or below it lends its weight to itself alone.

* `Guide.sorted_filter` : leaving sections out keeps the order of the others, if these are compared
  as before;
* `Guide.grades_insert_leaf` : so they are if a leaf is left out;
* `erase_eq_filter_of_count` : taking out a member that occurs once.
-/

namespace Stylebook

open Text

theorem erase_eq_filter_of_count {α : Type} [DecidableEq α] {l : List α} {a : α} {p : α → Bool}
    (hcount : l.count a = 1) (ha : p a = false) (h : ∀ b ∈ l, b ≠ a → p b = true) :
    l.erase a = l.filter p := by
  induction l with
  | nil => rfl
  | cons b l ih =>
    rw [List.forall_mem_cons] at h
    by_cases hb : b = a
    · subst hb
      have hnot : b ∉ l := by
        rw [List.count_cons_self] at hcount
        exact List.count_eq_zero.1 (by omega)
      rw [List.erase_cons_head, List.filter_cons_of_neg (by simp [ha]), List.filter_eq_self.2]
      exact fun c hc => h.2 c hc fun heq => hnot (heq ▸ hc)
    · rw [List.count_cons_of_ne hb] at hcount
      rw [List.erase_cons_tail (by simpa using hb), List.filter_cons_of_pos (h.1 hb), ih hcount h.2]

namespace Guide

variable {before after : List Section} {s : Section}

theorem sectionsAt_insert {levels : List Text} (h : Reference.levels s.reference ≠ levels) :
    sectionsAt (before ++ s :: after) levels = sectionsAt (before ++ after) levels := by
  unfold sectionsAt
  rw [List.filter_append, List.filter_append, List.filter_cons_of_neg (by simpa using h)]

theorem grades_insert_leaf {levels : List Text} (h : ¬Reference.levels s.reference <+: levels) :
    grades (before ++ s :: after) levels = grades (before ++ after) levels := by
  refine grades_congr_at fun above habove => ownerWeight_congr (sectionsAt_insert ?_)
  rintro rfl
  exact h habove

theorem filter_levels_insert
    (h : ∀ t ∈ before ++ after, Reference.levels t.reference ≠ Reference.levels s.reference) :
    ((before ++ s :: after).filter fun t => Reference.levels t.reference != Reference.levels s.reference) =
      before ++ after := by
  rw [List.filter_append, List.filter_cons_of_neg (by simp), ← List.filter_append, List.filter_eq_self]
  intro t ht
  simpa using h t ht

/-- Sections can be left out before or after sorting, if the others are compared as before. -/
theorem sorted_filter {g g' : Guide} {out : List Section} {p : Section → Bool} (hw : Weighable g.sections)
    (hw' : Weighable g'.sections) (hg : g.sections = g'.sections.filter p)
    (hgrades : ∀ t ∈ g.sections, grades g.sections (Reference.levels t.reference) =
      grades g'.sections (Reference.levels t.reference)) (h : g'.sorted = .ok out) :
    g.sorted = .ok (out.filter p) := by
  have hsub : g.sections ⊆ g'.sections := hg ▸ List.filter_subset_self ..
  obtain ⟨out', h'⟩ := (exists_sorted_iff g).2 ((sortable_of_sorted h).of_subset hsub)
  have hplaces : ∀ t ∈ g.sections, places g.sections (Reference.levels t.reference) =
      places g'.sections (Reference.levels t.reference) :=
        fun t ht => congrArg (List.map Grade.place) (hgrades t ht)
  have hcongr := mergeSort_congr_key (fun t : Section => places g.sections (Reference.levels t.reference))
    (fun t : Section => places g'.sections (Reference.levels t.reference)) hplaces
  have hfilter := mergeSort_filter (fun t : Section => places g'.sections (Reference.levels t.reference)) p g'.sections
  rw [← hg, ← hcongr, ← sorted_eq_mergeSort hw' h, ← sorted_eq_mergeSort hw h'] at hfilter
  rw [h', hfilter]

theorem Weighable.of_insert
    (hs : ∀ t ∈ before ++ after, Reference.levels t.reference ≠ Reference.levels s.reference)
    (h : Weighable (before ++ s :: after)) : Weighable (before ++ after) := by
  rw [weighable_iff]
  intro t ht
  rw [← ownerWeight_congr (sectionsAt_insert (hs t ht).symm)]
  exact h _

/-- If no weight that counts is a NaN, a section that has none at or below it can be put in
anywhere, whatever its weight: it occurs once among the sorted sections, and the others are sorted
as without it. -/
theorem sorted_insert_leaf (g g' : Guide) (before after out : List Section) (s : Section)
    (hg : g.sections = before ++ after) (hg' : g'.sections = before ++ s :: after)
    (hw : Weighable g'.sections)
    (hleaf : ∀ t ∈ g.sections, ¬Reference.levels s.reference <+: Reference.levels t.reference)
    (h : g'.sorted = .ok out) : out.count s = 1 ∧ g.sorted = .ok (out.erase s) := by
  rw [hg] at hleaf
  have hother : ∀ t ∈ before ++ after, Reference.levels t.reference ≠ Reference.levels s.reference :=
    fun t ht heq => hleaf t ht (heq ▸ List.prefix_refl _)
  have hperm : out.Perm (s :: (before ++ after)) := (hg' ▸ perm_sorted h).trans List.perm_middle
  have hcount : out.count s = 1 := by
    have hs : s ∉ before ++ after := fun hs => hother s hs rfl
    rw [hperm.count_eq, List.count_cons_self, List.count_eq_zero.2 hs]
  have herase : out.erase s = out.filter fun t =>
      Reference.levels t.reference != Reference.levels s.reference := by
    refine erase_eq_filter_of_count hcount (by simp) fun t ht hne => ?_
    simpa using hother t ((List.mem_cons.1 (hperm.mem_iff.1 ht)).resolve_left hne)
  have hw' : Weighable g.sections := hg ▸ Weighable.of_insert hother (hg' ▸ hw)
  refine ⟨hcount, ?_⟩
  rw [herase]
  refine sorted_filter hw' hw (by rw [hg, hg', filter_levels_insert hother]) (fun t ht => ?_) h
  rw [hg] at ht
  rw [hg, hg', grades_insert_leaf (hleaf t ht)]

/-- The lightest section of all between others. Its reference is the beginning of another one as a
text and not level by level, and the section at the levels above it is among the others. -/
theorem sorted_insert_leaf_light :
    let node (reference : String) (weight : Weight) : Section :=
      { reference := reference.toList, weight }
    let before := [node "2.10.1" 0, node "2" 3]
    let after := [node "2.10" (-1 : Rat), node "1" 0, node "2.2" 0]
    let s := node "2.1" (.infinite true)
    let g : Guide := { sections := before ++ after }
    let g' : Guide := { sections := before ++ s :: after }
    let out := [node "1" 0, node "2" 3, s, node "2.10" (-1 : Rat), node "2.10.1" 0, node "2.2" 0]
    Weighable g'.sections ∧
      (∀ t ∈ g.sections, ¬Reference.levels s.reference <+: Reference.levels t.reference) ∧
      g'.sorted = .ok out ∧
      out.count s = 1 ∧ g.sorted = .ok (out.erase s) := by
  intro node before after s g g' out
  have hw : Weighable g'.sections := by
    decide +kernel
  have hleaf : ∀ t ∈ g.sections, ¬Reference.levels s.reference <+: Reference.levels t.reference := by
    decide
  have h : g'.sorted = .ok out := by
    set_option maxRecDepth 4000 in cbv
  exact ⟨hw, hleaf, h, sorted_insert_leaf g g' before after out s rfl rfl hw hleaf h⟩

/-- A new leaf with a NaN for its weight keeps two others from being brought into order. -/
theorem leaf_reorders_for_nan :
    let node (reference : String) (weight : Weight) : Section :=
      { reference := reference.toList, weight }
    let s := node "2" (.nan 0)
    let g : Guide := { sections := [node "1.1" 0] ++ [node "1" 0] }
    let g' : Guide := { sections := [node "1.1" 0] ++ s :: [node "1" 0] }
    (∀ t ∈ g.sections, ¬Reference.levels s.reference <+: Reference.levels t.reference) ∧
      g'.sorted = .ok [node "1.1" 0, s, node "1" 0] ∧ g.sorted = .ok [node "1" 0, node "1.1" 0] ∧
      [node "1.1" 0, s, node "1" 0].erase s ≠ [node "1" 0, node "1.1" 0] := by
  intro node s g g'
  have h' : g'.sorted = .ok [node "1.1" 0, s, node "1" 0] := by
    set_option maxRecDepth 4000 in cbv
  have h : g.sorted = .ok [node "1" 0, node "1.1" 0] := by
    set_option maxRecDepth 4000 in cbv
  exact ⟨by decide, h', h, by decide⟩

end Guide

end Stylebook
