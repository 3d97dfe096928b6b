import Stylebook.Proofs.Text.Split
import Stylebook.Reference.Basic

/-!
# Ways to write levels

* `Reference.named` : the levels that parts stand for, whatever blanks and empty parts are among
  them;
* `Reference.Spells` : a reference made of such parts, joined by dots or by dashes between spaces;
* `Reference.levels_of_spells` : its levels are those of the parts.
-/

namespace Stylebook.Reference

open Text

/-- The levels that parts stand for: the parts without blanks around them, and without those of
which nothing is left. -/
def named (parts : List Text) : List Text := (parts.map trim).filter (!·.isEmpty)

/-- The levels are written as a reference: parts joined by dots, or two and more joined by dashes
between spaces. No part holds a delimiter, and none begins in a part and ends in the dash after
it. -/
inductive Spells : List Text → Text → Prop where
  | dotted (parts : List Text) (hne : parts ≠ []) (h : ∀ x ∈ parts, '.' ∉ x ∧ ¬dash <:+: x) :
    Spells (named parts) (['.'].intercalate parts)
  | dashed (parts : List Text) (hlen : 2 ≤ parts.length) (h : ∀ x ∈ parts, ¬dash <:+: x ++ [' ', '-']) :
    Spells (named parts) (dash.intercalate parts)

theorem delimiter_of_infix {reference : Text} (h : dash <:+: reference) :
    delimiter reference = dash := by
  rw [delimiter, if_pos (hasText_iff.2 h)]

theorem delimiter_of_not_infix {reference : Text} (h : ¬dash <:+: reference) :
    delimiter reference = ['.'] := by
  rw [delimiter, if_neg fun hin => h (hasText_iff.1 hin)]

theorem not_infix_dotted {parts : List Text} (h : ∀ x ∈ parts, ¬dash <:+: x) :
    ¬dash <:+: ['.'].intercalate parts := by
  induction parts with
  | nil => decide
  | cons x parts ih =>
    rw [List.forall_mem_cons] at h
    by_cases hnil : parts = []
    · subst hnil
      rw [List.intercalate_singleton]
      exact h.1
    · rw [List.intercalate_cons_of_ne_nil hnil, List.append_assoc, List.singleton_append]
      intro hin
      rcases infix_append_cons hin (by decide) with hx | hrest
      · exact h.1 hx
      · exact ih h.2 hrest

theorem infix_dashed {parts : List Text} (h : 2 ≤ parts.length) :
    dash <:+: dash.intercalate parts := by
  match parts, h with
  | x :: y :: parts, _ =>
    rw [List.intercalate_cons_of_ne_nil (List.cons_ne_nil y parts)]
    exact ⟨x, dash.intercalate (y :: parts), rfl⟩

theorem levels_of_spells {ls : List Text} {reference : Text} (h : Spells ls reference) :
    levels reference = ls := by
  cases h with
  | dotted parts hne h =>
    have hdot : ∀ x ∈ parts, ¬['.'] <:+: x ++ ['.'].dropLast := by
      intro x hx hin
      exact (h x hx).1 (by simpa using hin.subset)
    rw [levels, delimiter_of_not_infix (not_infix_dotted fun x hx => (h x hx).2),
      splitOnText_intercalate (by simp) hne hdot, named]
  | dashed parts hlen h =>
    have hne : parts ≠ [] := by
      rintro rfl
      exact absurd hlen (by simp)
    rw [levels, delimiter_of_infix (infix_dashed hlen), splitOnText_intercalate (by decide) hne h, named]

end Stylebook.Reference
