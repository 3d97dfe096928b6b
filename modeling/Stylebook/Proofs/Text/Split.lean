import Mathlib.Data.List.Infix
import Stylebook.Text.Basic

/-!
# Cutting at a text

* `hasText_iff` : a text occurs in another if it is an infix of it;
* `splitOnText_cons` : a character at which no separator begins stays in the first piece;
  `splitOnText_append_sep` : a separator ends the first piece, if none begins in the piece, not even
  one that ends in the separator itself;
* `splitOnText_intercalate`, from these : pieces joined by a separator are found again;
  `intercalate_splitOnText` : and the pieces of a text joined again are the text;
* `replaceText_cons`, `replaceText_append` : replacing, at a character that stays and at a text that
  is replaced; `filter_replaceText` : it keeps the characters of a kind if the new text has those of
  the old one;
* `infix_append_cons` : an infix without a character lies before it or after it.
-/

namespace Stylebook.Text

theorem hasText_iff {part t : Text} : hasText part t = true ↔ part <:+: t := by
  induction t with
  | nil => simp [hasText, List.infix_nil]
  | cons c t ih => rw [hasText, Bool.or_eq_true, List.isPrefixOf_iff_prefix, ih, List.infix_cons_iff]

theorem splitOnText_ne_nil (sep t : Text) : splitOnText sep t ≠ [] := by
  suffices h : ∀ skip, splitOnTextFrom sep skip t ≠ [] from h 0
  induction t with
  | nil => intro skip; cases skip <;> simp [splitOnTextFrom]
  | cons c t ih =>
    intro skip
    cases skip with
    | zero =>
      rw [splitOnTextFrom]
      split
      · exact List.cons_ne_nil _ _
      · simpa using ih 0
    | succ skip => exact ih skip

theorem splitOnText_cons {sep : Text} {c : Char} {t : Text} (h : sep.isPrefixOf (c :: t) = false) :
    splitOnText sep (c :: t) = (splitOnText sep t).modifyHead (c :: ·) := by
  rw [splitOnText, splitOnTextFrom, if_neg (by simp [h]), splitOnText]

theorem splitOnTextFrom_length (sep x t : Text) :
    splitOnTextFrom sep x.length (x ++ t) = splitOnTextFrom sep 0 t := by
  induction x with
  | nil => rfl
  | cons c x ih => exact ih

theorem splitOnText_sep_append {sep : Text} (hne : sep ≠ []) (t : Text) :
    splitOnText sep (sep ++ t) = [] :: splitOnText sep t := by
  obtain ⟨c, x, rfl⟩ := List.exists_cons_of_ne_nil hne
  have hpre : (c :: x).isPrefixOf (c :: (x ++ t)) = true := by
    rw [List.isPrefixOf_iff_prefix, ← List.cons_append]
    exact List.prefix_append _ _
  rw [splitOnText, List.cons_append, splitOnTextFrom, if_pos hpre, List.length_cons,
    Nat.add_sub_cancel, splitOnTextFrom_length, splitOnText]

theorem splitOnText_append_sep {sep x : Text} (hne : sep ≠ []) (h : ¬sep <:+: x ++ sep.dropLast)
    (t : Text) : splitOnText sep (x ++ (sep ++ t)) = x :: splitOnText sep t := by
  induction x with
  | nil => exact splitOnText_sep_append hne t
  | cons c x ih =>
    have hpre : sep.isPrefixOf (c :: (x ++ (sep ++ t))) = false := by
      rw [← Bool.not_eq_true, List.isPrefixOf_iff_prefix]
      intro hpre
      have hcut : c :: x ++ sep.dropLast <+: c :: (x ++ (sep ++ t)) := by
        rw [← List.cons_append, List.prefix_append_right_inj]
        exact (List.dropLast_prefix sep).trans (List.prefix_append sep t)
      have hlen : sep.length ≤ (c :: x ++ sep.dropLast).length := by
        simp
        omega
      exact h (List.prefix_of_prefix_length_le hpre hcut hlen).isInfix
    have hx : ¬sep <:+: x ++ sep.dropLast := fun hin => h (hin.trans (List.suffix_cons c _).isInfix)
    rw [List.cons_append, splitOnText_cons hpre, ih hx, List.modifyHead_cons]

theorem splitOnText_of_not_infix {sep t : Text} (h : ¬sep <:+: t) : splitOnText sep t = [t] := by
  induction t with
  | nil => rfl
  | cons c t ih =>
    rw [List.infix_cons_iff, not_or] at h
    have hpre : sep.isPrefixOf (c :: t) = false := by
      rw [← Bool.not_eq_true, List.isPrefixOf_iff_prefix]
      exact h.1
    rw [splitOnText_cons hpre, ih h.2, List.modifyHead_cons]

theorem splitOnText_intercalate {sep : Text} (hne : sep ≠ []) {parts : List Text}
    (hparts : parts ≠ []) (h : ∀ x ∈ parts, ¬sep <:+: x ++ sep.dropLast) :
    splitOnText sep (sep.intercalate parts) = parts := by
  induction parts with
  | nil => exact absurd rfl hparts
  | cons x parts ih =>
    rw [List.forall_mem_cons] at h
    by_cases hnil : parts = []
    · subst hnil
      rw [List.intercalate_singleton]
      exact splitOnText_of_not_infix fun hin => h.1 (hin.trans (List.prefix_append x _).isInfix)
    · rw [List.intercalate_cons_of_ne_nil hnil, List.append_assoc, splitOnText_append_sep hne h.1, ih hnil h.2]

/-- What is put before the first of some texts stands before all of them joined. -/
theorem intercalate_modifyHead (sep x : Text) {ps : List Text} (h : ps ≠ []) :
    sep.intercalate (ps.modifyHead (x ++ ·)) = x ++ sep.intercalate ps := by
  obtain ⟨p, qs, rfl⟩ := List.exists_cons_of_ne_nil h
  rw [List.modifyHead_cons]
  by_cases hqs : qs = []
  · subst hqs
    rw [List.intercalate_singleton, List.intercalate_singleton]
  · rw [List.intercalate_cons_of_ne_nil hqs, List.intercalate_cons_of_ne_nil hqs, List.append_assoc,
      List.append_assoc, List.append_assoc]

theorem intercalate_splitOnTextFrom {sep : Text} (hne : sep ≠ []) (skip : Nat) (t : Text) :
    sep.intercalate (splitOnTextFrom sep skip t) = t.drop skip := by
  induction t generalizing skip with
  | nil => cases skip <;> simp [splitOnTextFrom]
  | cons c t ih =>
    cases skip with
    | succ skip => exact ih skip
    | zero =>
      rw [splitOnTextFrom, List.drop_zero]
      split
      · rename_i hpre
        obtain ⟨rest, hrest⟩ := List.isPrefixOf_iff_prefix.1 hpre
        obtain ⟨d, x, rfl⟩ := List.exists_cons_of_ne_nil hne
        rw [List.cons_append, List.cons.injEq] at hrest
        obtain ⟨rfl, rfl⟩ := hrest
        have hpieces := ih x.length
        rw [List.drop_left, splitOnTextFrom_length, ← splitOnText] at hpieces
        rw [List.length_cons, Nat.add_sub_cancel, splitOnTextFrom_length, ← splitOnText,
          List.intercalate_cons_of_ne_nil (splitOnText_ne_nil _ rest), hpieces]
        rfl
      · exact (intercalate_modifyHead sep [c] (splitOnText_ne_nil sep t)).trans
          (congrArg ([c] ++ ·) (ih 0))

theorem intercalate_splitOnText {sep : Text} (hne : sep ≠ []) (t : Text) :
    sep.intercalate (splitOnText sep t) = t :=
  intercalate_splitOnTextFrom hne 0 t

/-! ## Replacing -/

theorem replaceText_cons {old : Text} {c : Char} {t : Text} (h : old.isPrefixOf (c :: t) = false)
    (new : Text) : replaceText old new (c :: t) = c :: replaceText old new t := by
  rw [replaceText, splitOnText_cons h]
  exact intercalate_modifyHead new [c] (splitOnText_ne_nil old t)

theorem replaceText_append {old : Text} (hne : old ≠ []) (new t : Text) :
    replaceText old new (old ++ t) = new ++ replaceText old new t := by
  rw [replaceText, splitOnText_sep_append hne, List.intercalate_cons_of_ne_nil (splitOnText_ne_nil old t)]
  rfl

theorem replaceText_of_not_infix {old t : Text} (h : ¬old <:+: t) (new : Text) :
    replaceText old new t = t := by
  rw [replaceText, splitOnText_of_not_infix h, List.intercalate_singleton]

theorem filter_intercalate (p : Char → Bool) (sep : Text) (ps : List Text) :
    (sep.intercalate ps).filter p = (sep.filter p).intercalate (ps.map (List.filter p)) := by
  induction ps with
  | nil => rfl
  | cons x ps ih =>
    by_cases hnil : ps = []
    · subst hnil
      simp
    · rw [List.map_cons, List.intercalate_cons_of_ne_nil hnil, List.intercalate_cons_of_ne_nil (by simpa using hnil),
        List.filter_append, List.filter_append, ih]

theorem filter_replaceText {old : Text} (hne : old ≠ []) {new : Text} {p : Char → Bool}
    (h : new.filter p = old.filter p) (t : Text) :
    (replaceText old new t).filter p = t.filter p := by
  rw [replaceText, filter_intercalate, h, ← filter_intercalate, intercalate_splitOnText hne]

theorem intercalate_eq_nil_iff {sep : Text} (hne : sep ≠ []) {ps : List Text} :
    sep.intercalate ps = [] ↔ ps = [] ∨ ps = [[]] := by
  cases ps with
  | nil => simp
  | cons x ps =>
    by_cases hnil : ps = []
    · subst hnil
      simp
    · simp [List.intercalate_cons_of_ne_nil hnil, hne, hnil]

theorem replaceText_eq_nil_iff {old new : Text} (hold : old ≠ []) (hnew : new ≠ []) {t : Text} :
    replaceText old new t = [] ↔ t = [] := by
  rw [replaceText, intercalate_eq_nil_iff hnew, ← intercalate_eq_nil_iff hold,
    intercalate_splitOnText hold]

/-! ## Infixes -/

theorem prefix_of_append_cons {c : Char} {s x y : Text} (h : s <+: x ++ c :: y) (hc : c ∉ s) :
    s <+: x := by
  induction s generalizing x with
  | nil => exact List.nil_prefix
  | cons d s ih =>
    rw [List.mem_cons, not_or] at hc
    cases x with
    | nil => exact absurd (List.cons_prefix_cons.1 h).1.symm hc.1
    | cons e x =>
      rw [List.cons_append, List.cons_prefix_cons] at h
      exact List.cons_prefix_cons.2 ⟨h.1, ih h.2 hc.2⟩

theorem infix_append_cons {c : Char} {s x y : Text} (h : s <:+: x ++ c :: y) (hc : c ∉ s) :
    s <:+: x ∨ s <:+: y := by
  induction x with
  | nil =>
    rcases List.infix_cons_iff.1 h with hpre | hin
    · exact Or.inl (prefix_of_append_cons hpre hc).isInfix
    · exact Or.inr hin
  | cons d x ih =>
    rcases List.infix_cons_iff.1 h with hpre | hin
    · exact Or.inl (prefix_of_append_cons hpre hc).isInfix
    · exact (ih hin).imp_left fun hx => hx.trans (List.suffix_cons d x).isInfix

end Stylebook.Text
