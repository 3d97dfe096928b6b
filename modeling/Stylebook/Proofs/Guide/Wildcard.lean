import Stylebook.Proofs.Guide.Query
import Stylebook.Proofs.Reference.Levels

/-!
# Queries for what is below a reference

* `Guide.isBelow_iff_ne`, `Guide.isBelow_irrefl`, `Guide.isBelow_trans` : levels that properly
  extend others are a strict order;
* `Guide.matching_children` : a query `2.1.x` goes by the levels of `2.1`, as one for all
  descendants does.
-/

namespace Stylebook.Guide

open Text

theorem isBelow_iff_ne {above levels : List Text} :
    isBelow above levels = true ↔ above <+: levels ∧ above ≠ levels := by
  rw [isBelow_iff]
  refine and_congr_right fun hext => ?_
  constructor
  · rintro hlen rfl
    exact lt_irrefl _ hlen
  · intro hne
    exact lt_of_le_of_ne hext.length_le fun hlen => hne (hext.eq_of_length hlen)

theorem isBelow_irrefl (levels : List Text) : isBelow levels levels = false := by
  rw [← Bool.not_eq_true, isBelow_iff_ne]
  exact fun h => h.2 rfl

theorem isBelow_trans {a b c : List Text} (hab : isBelow a b = true) (hbc : isBelow b c = true) :
    isBelow a c = true := by
  rw [isBelow_iff] at hab hbc ⊢
  exact ⟨hab.1.trans hbc.1, hab.2.trans hbc.2⟩

theorem matching_children (g : Guide) (reference : Text) :
    g.matching (reference ++ ['.', 'x']) = g.childrenOf (Reference.levels reference) := by
  have htake : (reference ++ ['.', 'x']).take ((reference ++ ['.', 'x']).length - 2) =
      reference := by
    simp
  have hstar : ¬endsWith ['.', '*'] (reference ++ ['.', 'x']) = true := by
    simp [endsWith]
  rw [matching, if_neg hstar, if_pos (endsWith_append _ _), htake]

/-- The sections found below a reference are those whose levels properly extend its levels, in the
order in which they were read, and its children are those of them that are one level deeper. Being
found below is irreflexive and transitive. Only the levels of the reference count: it can be written
with either delimiter, with blanks and with delimiters too many. -/
theorem matching_wildcards (g : Guide) (p : Text) :
    g.matching (p ++ ['.', '*']) = (g.sections.filter fun s => decide
        (Reference.levels p <+: Reference.levels s.reference ∧ Reference.levels p ≠ Reference.levels s.reference)) ∧
      g.matching (p ++ ['.', 'x']) = ((g.matching (p ++ ['.', '*'])).filter fun s =>
        (Reference.levels s.reference).length == (Reference.levels p).length + 1) ∧
      (∀ s : Section, s ∉ g.matching (s.reference ++ ['.', '*'])) ∧
      (∀ s ∈ g.matching (p ++ ['.', '*']), ∀ t ∈ g.matching (s.reference ++ ['.', '*']),
        t ∈ g.matching (p ++ ['.', '*'])) ∧
      ∀ q, (Reference.levels q = Reference.levels p ∨ ∃ ls, Reference.Spells ls p ∧ Reference.Spells ls q) →
        g.matching (q ++ ['.', '*']) = g.matching (p ++ ['.', '*']) ∧
          g.matching (q ++ ['.', 'x']) = g.matching (p ++ ['.', 'x']) := by
  refine ⟨?_, ?_, ?_, ?_, ?_⟩
  · rw [matching_descendants, below]
    refine List.filter_congr fun s _ => ?_
    rw [Bool.eq_iff_iff, isBelow_iff_ne, decide_eq_true_iff]
  · rw [matching_children, matching_descendants, childrenOf]
  · intro s hs
    rw [matching_descendants, mem_below, isBelow_irrefl] at hs
    exact absurd hs.2 (by simp)
  · intro s hs t ht
    rw [matching_descendants, mem_below] at hs ht ⊢
    exact ⟨ht.1, isBelow_trans hs.2 ht.2⟩
  · intro q hq
    have hlevels : Reference.levels q = Reference.levels p := by
      rcases hq with hlevels | ⟨ls, hp, hq⟩
      · exact hlevels
      · rw [Reference.levels_of_spells hp, Reference.levels_of_spells hq]
    rw [matching_descendants, matching_descendants, matching_children, matching_children, hlevels]
    exact ⟨rfl, rfl⟩

/-- A reference with dashes, written once more with dots of which two are too many and with blanks.
Below it are a child, and a section below that in the other spelling. Not below it are the section
at its own levels, and one whose reference goes on within the last level. -/
theorem matching_wildcards_respelt :
    let node (reference : String) : Section := { reference := reference.toList }
    let child := node "Forms - Buttons - Big"
    let deeper := node "Forms.Buttons.Big.Red"
    let g : Guide := { sections := [deeper, node "Forms - Buttonset", node "Forms - Buttons", child] }
    let p := "Forms - Buttons".toList
    let q := " Forms . .Buttons.".toList
    let ls := ["Forms".toList, "Buttons".toList]
    Reference.Spells ls p ∧ Reference.Spells ls q ∧ g.matching (p ++ ['.', '*']) = [deeper, child] ∧
      g.matching (p ++ ['.', 'x']) = [child] ∧
      g.matching (child.reference ++ ['.', '*']) = [deeper] ∧
      deeper ∈ g.matching (p ++ ['.', '*']) ∧ child ∉ g.matching (child.reference ++ ['.', '*']) ∧
      g.matching (q ++ ['.', '*']) = g.matching (p ++ ['.', '*']) ∧
      g.matching (q ++ ['.', 'x']) = g.matching (p ++ ['.', 'x']) := by
  intro node child deeper g p q ls
  have hp : Reference.Spells ls p :=
    .dashed ["Forms".toList, "Buttons".toList] (by decide) (by decide)
  have hq : Reference.Spells ls q :=
    .dotted [" Forms ".toList, " ".toList, "Buttons".toList, []] (by decide) (by decide)
  have hbelow : g.matching (p ++ ['.', '*']) = [deeper, child] := by
    decide +kernel
  have hchildren : g.matching (p ++ ['.', 'x']) = [child] := by
    decide +kernel
  have hdeeper : g.matching (child.reference ++ ['.', '*']) = [deeper] := by
    decide +kernel
  obtain ⟨-, -, hirrefl, htrans, hsame⟩ := matching_wildcards g p
  exact ⟨hp, hq, hbelow, hchildren, hdeeper, htrans child (by simp [hbelow]) deeper (by simp [hdeeper]), hirrefl child,
    hsame q (Or.inr ⟨ls, hp, hq⟩)⟩

end Stylebook.Guide
