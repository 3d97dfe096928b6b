import Stylebook.Proofs.Guide.Source
import Stylebook.Proofs.OrderedMap

/-!
# The index of a guide

A guide keeps its sections twice: as the list of all of them, and in an index by reference. Both
follow from the sections that it has been handed.

* `Guide.duplicates` : the warnings that references call for, one for each that has come before;
  `Guide.length_duplicates` : there are as many as references beyond the different ones;
* `Guide.Faithful` : what the list, the index, the files and the warnings of a guide are;
  `Guide.Faithful.add`, `Guide.Faithful.addAll` : one section more, or several, keep it so.
-/

namespace Stylebook

open Text

namespace Guide

/-! ## Warnings -/

/-- One warning for every reference that has come before, in order. -/
def duplicates (references : List Text) : List Warning :=
  (references.zipIdx.filter fun p => (references.take p.2).contains p.1).map fun p => .duplicate p.1

/-- One more reference calls for a warning if it is among the earlier ones, and changes nothing
about these. -/
theorem duplicates_concat (references : List Text) (reference : Text) :
    duplicates (references ++ [reference]) =
      duplicates references ++ if references.contains reference then [.duplicate reference] else [] := by
  have hearlier : ∀ p ∈ references.zipIdx, ((references ++ [reference]).take p.2).contains p.1 =
      (references.take p.2).contains p.1 := by
    intro p hp
    have hlt : p.2 < references.length := by simpa using (List.mem_zipIdx hp).2.1
    rw [List.take_append_of_le_length hlt.le]
  have hlast : (references ++ [reference]).take references.length = references := by simp
  unfold duplicates
  rw [List.zipIdx_append, List.filter_append, List.map_append, List.filter_congr hearlier,
    List.zipIdx_singleton, Nat.zero_add, List.filter_singleton, hlast]
  cases references.contains reference <;> rfl

theorem length_duplicates (references : List Text) :
    (duplicates references).length + references.toFinset.card = references.length := by
  induction references using List.reverseRecOn with
  | nil => rfl
  | append_singleton rs r ih =>
    rw [duplicates_concat, List.length_append, List.length_append, List.length_singleton,
      List.toFinset_append, List.toFinset_cons, List.toFinset_nil, insert_empty_eq]
    by_cases h : r ∈ rs
    · have hunion : rs.toFinset ∪ {r} = rs.toFinset := by
        rw [Finset.union_eq_left, Finset.singleton_subset_iff, List.mem_toFinset]
        exact h
      rw [if_pos (List.contains_iff_mem.2 h), hunion, List.length_singleton]
      omega
    · have hdisjoint : Disjoint rs.toFinset {r} := by
        rw [Finset.disjoint_singleton_right, List.mem_toFinset]
        exact h
      rw [if_neg (fun hc => h (List.contains_iff_mem.1 hc)), Finset.card_union_of_disjoint hdisjoint,
        Finset.card_singleton, List.length_nil]
      omega

/-! ## Guides that have been handed sections -/

/-- The guide, made for the given files, has been handed the sections `passed` in this order, and
`ws` are all the warnings of that. -/
structure Faithful (g : Guide) (passed : List Section) (files : List Text) (ws : List Warning) : Prop where
  sections : g.sections = passed
  find? : ∀ reference, g.find? reference = (passed.filter (·.reference == reference)).getLast?
  files : g.files = sortTexts files
  warnings : ws = duplicates (passed.map (·.reference))

namespace Faithful

variable {g : Guide} {passed : List Section} {files : List Text} {ws : List Warning}

theorem find?_eq_none_iff (h : g.Faithful passed files ws) (reference : Text) :
    g.find? reference = none ↔ ∀ s ∈ passed, s.reference ≠ reference := by
  rw [h.find?, List.getLast?_eq_none_iff, List.filter_eq_nil_iff]
  simp only [beq_iff_eq, ne_eq]

/-- Adding a section gives a warning if an earlier one has the same reference. -/
theorem warnings_add (h : g.Faithful passed files ws) (s : Section) :
    g.warnings s =
      if (passed.map (·.reference)).contains s.reference then [.duplicate s.reference] else [] := by
  have hcontains : g.index.contains s.reference =
      (passed.map (·.reference)).contains s.reference := by
    rw [OrderedMap.contains_eq_isSome_get?, Bool.eq_iff_iff, Option.isSome_iff_ne_none, ne_eq,
      ← Guide.find?, h.find?_eq_none_iff, List.contains_iff_mem, List.mem_map]
    push Not
    rfl
  rw [Guide.warnings, hcontains]

theorem add (h : g.Faithful passed files ws) (s : Section) :
    (g.add s).Faithful (passed ++ [s]) files (ws ++ g.warnings s) where
  sections := by rw [Guide.add, h.sections]
  find? reference := by
    have hget : (g.add s).find? reference =
      if s.reference == reference then some s else g.find? reference := g.index.get?_insert _ _ _
    rw [hget, h.find?, List.filter_append, List.filter_singleton]
    cases s.reference == reference <;> simp
  files := h.files
  warnings := by
    rw [h.warnings_add, h.warnings, List.map_append, List.map_singleton, duplicates_concat]

theorem addAll (h : g.Faithful passed files ws) (ss : List Section) :
    (g.addAll ss).1.Faithful (passed ++ ss) files (ws ++ (g.addAll ss).2) := by
  induction ss generalizing g passed ws with
  | nil => simpa [Guide.addAll] using h
  | cons s ss ih =>
    have hrest := ih (h.add s)
    rw [List.append_assoc, List.append_assoc] at hrest
    exact hrest

end Faithful

theorem faithful_ofFiles (files : List Text) : (ofFiles files).Faithful [] files [] where
  sections := rfl
  find? _ := rfl
  files := rfl
  warnings := rfl

theorem faithful_ofSections (ss : List Section) (files : List Text) :
    (ofSections ss files).1.Faithful ss files (ofSections ss files).2 :=
  (faithful_ofFiles files).addAll ss

theorem faithful_read (r : Reader) (source : Source) :
    (read r source).1.Faithful (read r source).1.sections (source.filterMap (·.name)) (read r source).2 := by
  rw [read_sections]
  exact faithful_ofSections _ _

/-- However many sections are added to a guide, it lists all that it was ever handed, a look-up
finds the last with the reference, a warning came for each with the reference of an earlier one, and
its files stay. -/
theorem addAll_faithful (initial added : List Section) (files : List Text) :
    let start := ofSections initial files
    let final := start.1.addAll added
    let passed := initial ++ added
    final.1.sections = passed ∧
      (∀ reference, final.1.find? reference = (passed.filter (·.reference == reference)).getLast?) ∧
      (∀ reference, final.1.find? reference = none ↔ ∀ s ∈ passed, s.reference ≠ reference) ∧
      (∀ s, final.1.warnings s =
        if (passed.map (·.reference)).contains s.reference then [.duplicate s.reference] else []) ∧
      start.2 ++ final.2 = duplicates (passed.map (·.reference)) ∧
      (start.2 ++ final.2).length + (passed.map (·.reference)).toFinset.card = passed.length ∧
      start.1.files = sortTexts files ∧ final.1.files = start.1.files := by
  intro start final passed
  have hstart : start.1.Faithful initial files start.2 := faithful_ofSections initial files
  have hfinal : final.1.Faithful passed files (start.2 ++ final.2) := hstart.addAll added
  refine ⟨hfinal.sections, hfinal.find?, hfinal.find?_eq_none_iff, hfinal.warnings_add,
    hfinal.warnings, ?_, hstart.files, hfinal.files.trans hstart.files.symm⟩
  rw [hfinal.warnings, length_duplicates, List.length_map]

end Guide

end Stylebook
