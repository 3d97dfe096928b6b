import Stylebook.Guide.Record
import Stylebook.Proofs.Failure
import Stylebook.Proofs.Guide.Order
import Stylebook.Proofs.Section.Checked

/-!
# Guides that can be sorted

A level made of figures is compared by its number, and not all figures form one. References are free
text, so a stylesheet can declare such a level; its guide has no order then.

* `Rank.Comparable` : a name, or a numeral of at most 4300 digits;
* `Rank.failure?_ofLevel` : the levels without a rank are those that are not comparable;
* `Guide.failure?_sorted` : sorting fails with the fault of the first such level, in the order of
  reading;
* `Guide.Sortable`, `Guide.exists_sorted_iff` : a guide is sorted if there is none.
-/

namespace Stylebook

open Text

/-- A level that is made of figures only has decimal digits, and at most 4300 of them. -/
def Rank.Comparable (level : Text) : Prop :=
  level.all looksNumeric = true → level.all isDecimal = true ∧ level.length ≤ 4300

instance (level : Text) : Decidable (Rank.Comparable level) :=
  inferInstanceAs (Decidable (level.all looksNumeric = true → level.all isDecimal = true ∧ level.length ≤ 4300))

def Guide.Sortable (g : Guide) : Prop :=
  ∀ s ∈ g.sections, ∀ level ∈ Reference.levels s.reference, Rank.Comparable level

instance (g : Guide) : Decidable g.Sortable :=
  inferInstanceAs (Decidable (∀ s ∈ g.sections, ∀ level ∈ Reference.levels s.reference, Rank.Comparable level))

/-! ## Levels without a rank -/

namespace Rank

theorem takeWhile_isDecimal_eq_iff {level : Text} :
    level.takeWhile isDecimal = level ↔ level.all isDecimal = true := by
  rw [List.takeWhile_eq_self_iff, List.all_eq_true]

theorem failure?_numeral {level : Text} :
    failure? (numeral level) = none ↔ level.all isDecimal = true ∧ level.length ≤ 4300 := by
  have hprefix := List.takeWhile_prefix (l := level) isDecimal
  rw [← takeWhile_isDecimal_eq_iff]
  unfold numeral
  dsimp only
  split
  · rename_i hlong
    simp only [failure?, reduceCtorEq, false_iff, not_and, Nat.not_le]
    intro _
    exact hlong.trans_le hprefix.length_le
  · rename_i hshort
    split
    · rename_i hlen
      simp only [failure?, reduceCtorEq, false_iff, not_and]
      intro heq
      rw [heq] at hlen
      exact absurd hlen (lt_irrefl _)
    · rename_i hlen
      have heq := hprefix.eq_of_length_le (Nat.le_of_not_lt hlen)
      rw [heq] at hshort
      simp only [failure?, true_iff]
      exact ⟨heq, Nat.le_of_not_lt hshort⟩

theorem failure?_ofLevel {level : Text} : failure? (ofLevel level) = none ↔ Comparable level := by
  unfold ofLevel isNumeral Comparable
  split
  · rename_i hfigures
    rw [Bool.and_eq_true] at hfigures
    rw [failure?_numeral]
    exact ⟨fun h _ => h, fun h => h hfigures.2⟩
  · rename_i hname
    simp only [failure?, true_iff]
    intro hall
    have hnil : level = [] := by simpa [hall] using hname
    subst hnil
    simp

end Rank

/-! ## Guides without an order -/

namespace Guide

theorem failure?_keysFrom (weights : OrderedMap (List Text) Weight) (above levels : List Text) :
    failure? (keysFrom weights above levels) = levels.findSome? fun level =>
      failure? (Rank.ofLevel level) := by
  induction levels generalizing above with
  | nil => rfl
  | cons level rest ih =>
    rw [keysFrom, List.findSome?_cons]
    cases Rank.ofLevel level with
    | error e => rfl
    | ok rank =>
      rw [ok_bind]
      exact (failure?_map _ _).trans (ih (above ++ [level]))

theorem failure?_sorted (g : Guide) : failure? g.sorted =
    g.sections.findSome? fun s => (Reference.levels s.reference).findSome? fun level =>
      failure? (Rank.ofLevel level) := by
  have hkeyed : failure? g.sorted = failure? (keyed g.sections) := failure?_map _ _
  rw [hkeyed, keyed, failure?_mapM]
  congr 1
  funext s
  exact (failure?_map _ _).trans (failure?_keysFrom _ _ _)

theorem failure?_json (g : Guide) : failure? (g.json true) = failure? g.sorted :=
  (failure?_map _ _).trans (failure?_map _ _)

theorem failure?_sorted_eq_none_iff (g : Guide) : failure? g.sorted = none ↔ g.Sortable := by
  simp only [failure?_sorted, List.findSome?_eq_none_iff, Rank.failure?_ofLevel, Sortable]

theorem exists_sorted_iff (g : Guide) : (∃ out, g.sorted = .ok out) ↔ g.Sortable :=
  failure?_eq_none_iff.symm.trans g.failure?_sorted_eq_none_iff

theorem sortable_of_sorted {g : Guide} {out : List Section} (h : g.sorted = .ok out) : g.Sortable :=
  g.exists_sorted_iff.1 ⟨out, h⟩

/-- Any stylesheets give a guide, and it can be sorted and exported in order exactly if no section
of it has a level of figures that form no numeral, or a numeral of more than 4300 digits. -/
theorem read_sortable_iff (o : Options) (renderer : Option Renderer) (matcher : Option Matcher)
    (texts : List Text) :
    ∃ g ws, Guide.readValue (Reader.ofOptions o renderer matcher) (.list (texts.map .text)) = .ok (g, ws) ∧
      ((∃ out, g.sorted = .ok out) ↔ g.Sortable) ∧
        ((∃ document, g.json true = .ok document) ↔ g.Sortable) := by
  refine ⟨_, _, readValue_texts _ texts, exists_sorted_iff _, ?_⟩
  rw [← failure?_eq_none_iff, failure?_json, failure?_sorted_eq_none_iff]

/-- A superscript is a figure and no digit, so a guide with this reference has no order. -/
theorem superscript_unsortable :
    let r := Reader.ofOptions {} none none
    ∃ a, readValue r (.list [.text "// Styleguide ²".toList]) = .ok a ∧
      (∀ out, a.1.sorted ≠ .ok out) ∧ ∀ document, a.1.json true ≠ .ok document := by
  intro r
  obtain ⟨a, ha⟩ : ∃ a, a = read r (["// Styleguide ²".toList].map fun t => { text := t }) :=
    ⟨_, rfl⟩
  have hfault : failure? a.1.sorted = some (.notANumeral ['²']) := by
    rw [ha]
    decide +kernel
  refine ⟨a, ha ▸ readValue_texts r ["// Styleguide ²".toList], fun out hout => ?_,
    fun document hdocument => ?_⟩
  · rw [failure?_eq_none_iff.2 ⟨out, hout⟩] at hfault
    exact absurd hfault (by simp)
  · rw [← failure?_json, failure?_eq_none_iff.2 ⟨document, hdocument⟩] at hfault
    exact absurd hfault (by simp)

end Guide

end Stylebook
