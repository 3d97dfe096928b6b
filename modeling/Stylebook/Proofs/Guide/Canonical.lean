import Stylebook.Proofs.Guide.Query
import Stylebook.Proofs.Guide.Sortable

/-!
# The sorted order is canonical

What sections are compared by depends on the order in which they were read: of several sections at
the same levels the last one lends its weight. Sorting keeps these in order, so it changes no weight
that counts.

* `Guide.sectionsAt`, `Guide.ownerWeight_congr` : the sections at some levels, which alone decide
  the weight that counts there; `Guide.grades_congr`, from it : two lists with the same sections at
  all levels compare sections alike;
* `Guide.sectionsAt_sorted` : a stable sort keeps the order of the sections at the same levels;
* `Guide.sectionsAt_of_perm` : so does any reordering, if no two sections are at the same levels;
* `Guide.Tied`, `Guide.tied_iff` : sections that compare equal, which are those with the same
  grades.
-/

namespace Stylebook

open Text

theorem eq_of_perm_of_length_le_one {α : Type} {l m : List α} (h : l.Perm m) (hlen : m.length ≤ 1) :
    l = m := by
  match m, hlen with
  | [], _ => exact h.eq_nil
  | [a], _ => exact List.perm_singleton.1 h

namespace Guide

variable {sections others : List Section}

/-- The sections compare equal among the given ones. -/
def Tied (sections : List Section) (a b : Section) : Prop :=
  keys (ownerWeights sections) a = keys (ownerWeights sections) b

instance (sections : List Section) (a b : Section) : Decidable (Tied sections a b) :=
  inferInstanceAs (Decidable (keys (ownerWeights sections) a = keys (ownerWeights sections) b))

/-! ## Weights that count -/

def sectionsAt (sections : List Section) (levels : List Text) : List Section :=
  sections.filter fun s => Reference.levels s.reference == levels

theorem ownerWeight_congr {levels : List Text}
    (h : sectionsAt sections levels = sectionsAt others levels) :
    ownerWeight sections levels = ownerWeight others levels := by
  unfold sectionsAt at h
  unfold ownerWeight
  rw [← List.head?_filter, ← List.head?_filter, List.filter_reverse, List.filter_reverse, h]

/-- Levels are compared alike if the same weights count down to them. -/
theorem grades_congr_at {levels : List Text}
    (h : ∀ above, above <+: levels → ownerWeight sections above = ownerWeight others above) :
    grades sections levels = grades others levels := by
  apply List.map_congr_left
  intro depth _
  rw [grade, grade, h _ (List.take_prefix _ _)]

theorem grades_congr (h : ∀ levels, sectionsAt sections levels = sectionsAt others levels) :
    grades sections = grades others := by
  funext levels
  exact grades_congr_at fun above _ => ownerWeight_congr (h above)

theorem places_congr (h : ∀ levels, sectionsAt sections levels = sectionsAt others levels) :
    places sections = places others := by
  funext levels
  rw [places, places, grades_congr h]

theorem Weighable.congr (hw : Weighable sections)
    (h : ∀ levels, sectionsAt others levels = sectionsAt sections levels) : Weighable others := by
  intro levels
  rw [ownerWeight_congr (h levels)]
  exact hw levels

theorem sectionsAt_sorted {g : Guide} {out : List Section} (hw : Weighable g.sections)
    (h : g.sorted = .ok out) (levels : List Text) :
    sectionsAt out levels = sectionsAt g.sections levels := by
  rw [sorted_eq_mergeSort hw h]
  apply filter_mergeSort (fun s : Section => places g.sections (Reference.levels s.reference))
  intro s _ hs
  rw [beq_iff_eq.1 hs]

theorem sectionsAt_of_perm (hperm : others.Perm sections)
    (hnodup : (sections.map fun s => Reference.levels s.reference).Nodup) (levels : List Text) :
    sectionsAt others levels = sectionsAt sections levels := by
  apply eq_of_perm_of_length_le_one (hperm.filter _)
  have hsame : (sectionsAt sections levels).map (fun s => Reference.levels s.reference) =
      List.replicate (sectionsAt sections levels).length levels := by
    rw [List.eq_replicate_iff]
    refine ⟨List.length_map _, fun above habove => ?_⟩
    obtain ⟨s, hs, rfl⟩ := List.mem_map.1 habove
    exact beq_iff_eq.1 (List.mem_filter.1 hs).2
  have hsub : (sectionsAt sections levels).Sublist sections := List.filter_sublist
  have hnodup' := hnodup.sublist (hsub.map _)
  rw [hsame] at hnodup'
  exact List.nodup_replicate.1 hnodup'

/-! ## Sections that compare equal -/

theorem Sortable.exists_keys {g : Guide} (h : g.Sortable) {s : Section} (hs : s ∈ g.sections)
    (weights : OrderedMap (List Text) Weight) : ∃ ks, keys weights s = .ok ks := by
  rw [← failure?_eq_none_iff, keys, failure?_keysFrom, List.findSome?_eq_none_iff]
  intro level hlevel
  exact Rank.failure?_ofLevel.2 (h s hs level hlevel)

theorem Sortable.of_subset {g g' : Guide} (h : g.Sortable) (hsub : g'.sections ⊆ g.sections) :
    g'.Sortable :=
  fun s hs => h s (hsub hs)

theorem Sortable.of_perm {g g' : Guide} (h : g.Sortable) (hperm : g'.sections.Perm g.sections) :
    g'.Sortable :=
  h.of_subset hperm.subset

theorem tied_iff {g : Guide} (h : g.Sortable) {a b : Section} (ha : a ∈ g.sections)
    (hb : b ∈ g.sections) :
    Tied g.sections a b ↔
      grades g.sections (Reference.levels a.reference) =
        grades g.sections (Reference.levels b.reference) := by
  obtain ⟨as, has⟩ := h.exists_keys ha (ownerWeights g.sections)
  obtain ⟨bs, hbs⟩ := h.exists_keys hb (ownerWeights g.sections)
  rw [Tied, has, hbs, ← keys_grades has, ← keys_grades hbs]
  constructor
  · intro heq
    cases heq
    rfl
  · intro heq
    rw [List.map_injective_iff.2 LevelKey.toGrade_injective heq]

theorem eq_of_tied (h : sections.Pairwise fun a b => ¬Tied sections a b) {a b : Section}
    (ha : a ∈ sections) (hb : b ∈ sections) (hab : Tied sections a b) : a = b := by
  have : Std.Symm fun a b => ¬Tied sections a b := ⟨fun _ _ hne heq => hne heq.symm⟩
  by_contra hne
  exact h.forall ha hb hne hab

/-! ## Sorting again, and in another order -/

/-- Sorting sorted sections changes nothing, since the weights that count are those of the first
time. -/
theorem sorted_sorted {g g' : Guide} {out : List Section} (hw : Weighable g.sections)
    (h : g.sorted = .ok out) (hg' : g'.sections = out) : g'.sorted = .ok out := by
  have hsortable : g'.Sortable := (sortable_of_sorted h).of_perm (hg' ▸ perm_sorted h)
  have hat : ∀ levels, sectionsAt g'.sections levels = sectionsAt g.sections levels :=
    hg' ▸ sectionsAt_sorted hw h
  obtain ⟨again, hagain⟩ := (exists_sorted_iff g').2 hsortable
  have hsort := sorted_eq_mergeSort (hw.congr hat) hagain
  rw [places_congr hat, hg'] at hsort
  rw [hagain, hsort, List.mergeSort_of_pairwise]
  exact (pairwise_sorted hw h).imp decide_eq_true

/-- Two orders of sections at different levels are sorted into lists that compare equal place by
place. -/
theorem tied_of_perm {g g' : Guide} {out out' : List Section} (hw : Weighable g.sections)
    (h : g.sorted = .ok out) (h' : g'.sorted = .ok out') (hperm : g'.sections.Perm g.sections)
    (hnodup : (g.sections.map fun s => Reference.levels s.reference).Nodup) {i : ℕ} {a b : Section}
    (ha : out[i]? = some a) (hb : out'[i]? = some b) : Tied g.sections a b := by
  have hat := sectionsAt_of_perm hperm hnodup
  have hout : out'.Perm g.sections := (perm_sorted h').trans hperm
  have hsorted := pairwise_sorted hw h
  have hsorted' := pairwise_sorted (hw.congr hat) h'
  rw [places_congr hat] at hsorted'
  have hi := congrArg (·[i]?) (map_eq_of_pairwise_le (hout.trans (perm_sorted h).symm) hsorted' hsorted)
  simp only [List.getElem?_map, ha, hb, Option.map_some, Option.some.injEq] at hi
  have hmem : a ∈ g.sections := (perm_sorted h).mem_iff.1 (List.mem_of_getElem? ha)
  have hmem' : b ∈ g.sections := hout.mem_iff.1 (List.mem_of_getElem? hb)
  exact (tied_iff (sortable_of_sorted h) hmem hmem').2 ((places_inj hw).1 hi.symm)

/-- If no weight that counts is a NaN, sorting the sorted sections again changes nothing. Read in
any other order, sections at different levels are sorted alike up to those that compare equal. -/
theorem sorted_canonical (g : Guide) (out : List Section) (hw : Weighable g.sections)
    (h : g.sorted = .ok out) :
    (∀ files, (ofSections out files).1.sorted = .ok out) ∧
      ∀ g' : Guide, g'.sections.Perm g.sections →
        (g.sections.map fun s => Reference.levels s.reference).Nodup →
        ∃ out', g'.sorted = .ok out' ∧ out'.Perm out ∧
          (∀ (i : ℕ) (a b : Section), out[i]? = some a → out'[i]? = some b → Tied g.sections a b) ∧
          (g.sections.Pairwise (fun a b => ¬Tied g.sections a b) → out' = out) := by
  refine ⟨fun files => sorted_sorted hw h (addAll_sections _ _), fun g' hperm hnodup => ?_⟩
  obtain ⟨out', h'⟩ := (exists_sorted_iff g').2 ((sortable_of_sorted h).of_perm hperm)
  have hout : out'.Perm out := (perm_sorted h').trans (hperm.trans (perm_sorted h).symm)
  refine ⟨out', h', hout, fun i a b => tied_of_perm hw h h' hperm hnodup, fun hties => ?_⟩
  apply List.ext_getElem hout.length_eq
  intro i hi' hi
  have htied := tied_of_perm hw h h' hperm hnodup (List.getElem?_eq_getElem hi)
    (List.getElem?_eq_getElem hi')
  have hmem := (perm_sorted h).mem_iff.1 (List.getElem_mem hi)
  have hmem' := (perm_sorted h).mem_iff.1 (hout.mem_iff.1 (List.getElem_mem hi'))
  exact (eq_of_tied hties hmem hmem' htied).symm

/-- Sections with one reference and different weights, of which the last counts and an earlier one
is a NaN, sorted twice, and sections without ties, read backwards. -/
theorem sorted_canonical_backwards :
    let node (reference : String) (weight : Weight) : Section :=
      { reference := reference.toList, weight }
    let twins : Guide := { sections := [node "a" (.nan 0), node "b" 0, node "a" (-1 : Rat), node "2.1" 0] }
    let twinsOut := [node "a" (.nan 0), node "a" (-1 : Rat), node "2.1" 0, node "b" 0]
    let g : Guide := { sections := [node "2.1" 0, node "2" 3, node "10" 0, node "b" (.infinite true)] }
    let out := [node "b" (.infinite true), node "10" 0, node "2" 3, node "2.1" 0]
    let g' : Guide := { sections := g.sections.reverse }
    (Weighable twins.sections ∧ twins.sorted = .ok twinsOut ∧ (ofSections twinsOut []).1.sorted = .ok twinsOut) ∧
      Weighable g.sections ∧ g.sorted = .ok out ∧ g'.sections.Perm g.sections ∧
      (g.sections.map fun s => Reference.levels s.reference).Nodup ∧
      g.sections.Pairwise (fun a b => ¬Tied g.sections a b) ∧ g'.sorted = .ok out := by
  intro node twins twinsOut g out g'
  have htwinsWeighable : Weighable twins.sections := by
    decide +kernel
  have htwins : twins.sorted = .ok twinsOut := by
    set_option maxRecDepth 4000 in cbv
  have hw : Weighable g.sections := by
    decide +kernel
  have h : g.sorted = .ok out := by
    set_option maxRecDepth 4000 in cbv
  have hperm : g'.sections.Perm g.sections := List.reverse_perm g.sections
  have hnodup : (g.sections.map fun s => Reference.levels s.reference).Nodup := by
    decide +kernel
  have hties : g.sections.Pairwise (fun a b => ¬Tied g.sections a b) := by
    decide +kernel
  obtain ⟨out', h', -, -, heq⟩ := (sorted_canonical g out hw h).2 g' hperm hnodup
  exact ⟨⟨htwinsWeighable, htwins, (sorted_canonical twins twinsOut htwinsWeighable htwins).1 []⟩,
    hw, h, hperm, hnodup, hties, heq hties ▸ h'⟩

/-- With a NaN among the weights, sections at different levels and without ties are sorted
differently when they are read in another order. -/
theorem order_of_reading_matters_for_nan :
    let node (reference : String) (weight : Weight) : Section :=
      { reference := reference.toList, weight }
    let g : Guide := { sections := [node "1.1" 0, node "2" (.nan 0), node "1" 0] }
    let g' : Guide := { sections := [node "1.1" 0, node "1" 0, node "2" (.nan 0)] }
    g'.sections.Perm g.sections ∧ (g.sections.map fun s => Reference.levels s.reference).Nodup ∧
      g.sections.Pairwise (fun a b => ¬Tied g.sections a b) ∧
      g.sorted = .ok [node "1.1" 0, node "2" (.nan 0), node "1" 0] ∧
      g'.sorted = .ok [node "1" 0, node "1.1" 0, node "2" (.nan 0)] ∧
      ¬Tied g.sections (node "1.1" 0) (node "1" 0) := by
  intro node g g'
  have h : g.sorted = .ok [node "1.1" 0, node "2" (.nan 0), node "1" 0] := by
    set_option maxRecDepth 4000 in cbv
  have h' : g'.sorted = .ok [node "1" 0, node "1.1" 0, node "2" (.nan 0)] := by
    set_option maxRecDepth 4000 in cbv
  exact ⟨.cons _ (.swap _ _ []), by decide +kernel, by decide +kernel, h, h', by decide +kernel⟩

end Guide

end Stylebook
