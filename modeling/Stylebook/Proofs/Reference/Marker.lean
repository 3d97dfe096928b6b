import Stylebook.Proofs.Text
import Stylebook.Reference.Marker
import Stylebook.Text.Case.Fold

/-!
# Laws of the marker

* `find?_spec` : a reference is made of the last words of the last paragraph, so it is not empty and
  is its own words joined by spaces (`find?_ne_nil`, `find?_eq_unwords`);
* `IsSpelling` : the keyword in any case; `find?_keyword` : the words after it are found.
-/

namespace Stylebook.Marker

open Text

variable {m : Option Matcher}

/-- The words after the keyword are all but the first word, or all but the first two. -/
theorem afterKeyword?_drop {ws rest : List Text} (h : afterKeyword? m ws = some rest) :
    rest = ws.drop 1 ∨ rest = ws.drop 2 := by
  unfold afterKeyword? at h
  split at h
  · split at h
    · exact Or.inl (Option.some.inj h).symm
    · split at h
      · exact Or.inr (Option.some.inj h).symm
      · exact absurd h (by simp)
  · exact absurd h (by simp)

theorem afterKeyword?_suffix {ws rest : List Text} (h : afterKeyword? m ws = some rest) :
    rest <:+ ws := by
  rcases afterKeyword?_drop h with rfl | rfl
  · exact List.drop_suffix 1 ws
  · exact List.drop_suffix 2 ws

theorem find?_eq_some_iff {ps : List Text} {reference : Text} :
    find? m ps = some reference ↔ ∃ w ws,
      afterKeyword? m (words (ps.getLastD [])) = some (w :: ws) ∧ reference = unwords (w :: ws) := by
  unfold find?
  split
  · rename_i w ws hafter
    rw [hafter, Option.some.injEq]
    constructor
    · exact fun h => ⟨w, ws, rfl, h.symm⟩
    · rintro ⟨v, vs, ⟨⟩, rfl⟩
      rfl
  · rename_i hnone
    exact ⟨nofun, fun ⟨w, ws, hafter, _⟩ => absurd hafter (hnone w ws)⟩

/-- A reference is made of the last words of the last paragraph. -/
theorem find?_spec {ps : List Text} {reference : Text} (h : find? m ps = some reference) :
    ∃ w ws, w :: ws <:+ words (ps.getLastD []) ∧ reference = unwords (w :: ws) := by
  obtain ⟨w, ws, hafter, rfl⟩ := find?_eq_some_iff.1 h
  exact ⟨w, ws, afterKeyword?_suffix hafter, rfl⟩

theorem find?_eq_unwords {ps : List Text} {reference : Text} (h : find? m ps = some reference) :
    unwords (words reference) = reference := by
  obtain ⟨w, ws, hsuffix, rfl⟩ := find?_spec h
  rw [words_unwords fun _ hv => isWord_of_mem_words (hsuffix.subset hv)]

/-- A reference has a character that is no blank. -/
theorem exists_not_blank_of_find? {ps : List Text} {reference : Text}
    (h : find? m ps = some reference) : ∃ c ∈ reference, isBlank c = false := by
  obtain ⟨w, ws, hsuffix, rfl⟩ := find?_spec h
  have hword := isWord_of_mem_words (hsuffix.subset List.mem_cons_self)
  obtain ⟨c, u, rfl⟩ := List.exists_cons_of_ne_nil hword.ne_nil
  refine ⟨c, ?_, hword.no_blank c List.mem_cons_self⟩
  rw [unwords_cons]
  exact List.mem_append_left _ List.mem_cons_self

theorem find?_ne_nil {ps : List Text} {reference : Text} (h : find? m ps = some reference) :
    reference ≠ [] := by
  obtain ⟨c, hc, -⟩ := exists_not_blank_of_find? h
  exact List.ne_nil_of_mem hc

/-- The characters of a reference other than spaces are no blanks. -/
theorem not_blank_of_mem_reference {ps : List Text} {reference : Text}
    (h : find? m ps = some reference) {c : Char} (hc : c ∈ reference) :
    c = ' ' ∨ isBlank c = false := by
  obtain ⟨w, ws, hsuffix, rfl⟩ := find?_spec h
  rcases eq_or_mem_of_mem_unwords hc with hc | ⟨v, hv, hc⟩
  · exact Or.inl hc
  · exact Or.inr ((isWord_of_mem_words (hsuffix.subset hv)).no_blank c hc)

/-- A block without paragraphs, or with a blank last one, has no marker. -/
theorem find?_of_blank {ps : List Text} (h : words (ps.getLastD []) = []) : find? m ps = none := by
  rw [find?, h]
  rfl

/-! ## Written markers -/

structure IsSpelling (k : Text) : Prop where
  lower : lower k = keyword
  letters : ∀ c ∈ k, c.isAlpha = true

instance (k : Text) : Decidable (IsSpelling k) :=
  decidable_of_iff (Text.lower k = keyword ∧ k.all Char.isAlpha = true)
    ⟨fun h => ⟨h.1, List.all_eq_true.1 h.2⟩, fun h => ⟨h.1, List.all_eq_true.2 h.2⟩⟩

theorem not_blank_of_isAlpha {c : Char} (h : c.isAlpha = true) : isBlank c = false := by
  have hn := toNat_of_isAlpha h
  simp only [isBlank, Bool.or_eq_false_iff, Bool.and_eq_false_iff, decide_eq_false_iff_not, beq_eq_false_iff_ne]
  omega

theorem lowerChar_of_isAlpha {c : Char} (h : c.isAlpha = true) : lowerChar c = c.toLower := by
  have hn := toNat_of_isAlpha h
  rw [lowerChar, if_pos (by omega)]

theorem lower_of_isAlpha {t : Text} (h : ∀ c ∈ t, c.isAlpha = true) :
    lower t = t.map Char.toLower := by
  refine lower_of_ascii fun c hc => ?_
  have hn := toNat_of_isAlpha (h c hc)
  omega

theorem IsSpelling.ne_nil {k : Text} (h : IsSpelling k) : k ≠ [] := by
  rintro rfl
  exact absurd h.lower (by decide)

theorem IsSpelling.isWord {k : Text} (h : IsSpelling k) : IsWord k :=
  ⟨h.ne_nil, fun c hc => not_blank_of_isAlpha (h.letters c hc)⟩

/-- Letters have no mark at their end that could be dropped. -/
theorem dropMark_of_isAlpha {k : Text} (h : ∀ c ∈ k, c.isAlpha = true) : dropMark k = k := by
  unfold dropMark
  cases hlast : k.getLast? with
  | none => rfl
  | some c =>
    have hc := h c (List.mem_of_getLast? hlast)
    have hmark : (c == '-' || c == ':') = false := by
      rw [Bool.or_eq_false_iff, beq_eq_false_iff_ne, beq_eq_false_iff_ne]
      constructor
      · rintro rfl
        exact absurd hc (by decide)
      · rintro rfl
        exact absurd hc (by decide)
    simp [hmark]

theorem IsSpelling.isKeyword {k : Text} (h : IsSpelling k) (m : Option Matcher) :
    isKeyword m k = true := by
  unfold Marker.isKeyword
  simp [dropMark_of_isAlpha h.letters, h.lower]

/-- Up to case, a spelling of the keyword begins with `s`. -/
theorem IsSpelling.first {k : Text} (h : IsSpelling k) :
    ∃ c rest, k = c :: rest ∧ caseKey c = 's' := by
  obtain ⟨c, rest, rfl⟩ := List.exists_cons_of_ne_nil h.ne_nil
  have hlower := h.lower
  rw [lower_of_isAlpha h.letters, List.map_cons, keyword, List.cons.injEq] at hlower
  refine ⟨c, rest, rfl, ?_⟩
  rw [caseKey, lowerChar_of_isAlpha (h.letters c List.mem_cons_self), hlower.1]
  rfl

/-- The words after the keyword are found, in whatever case it is written. -/
theorem find?_keyword {k : Text} (hk : IsSpelling k) {ws : List Text} (hne : ws ≠ [])
    (hws : ∀ w ∈ ws, IsWord w) (m : Option Matcher) (ps : List Text) :
    find? m (ps ++ [unwords (k :: ws)]) = some (unwords ws) := by
  obtain ⟨w, rest, rfl⟩ := List.exists_cons_of_ne_nil hne
  have hwords : words (unwords (k :: w :: rest)) = k :: w :: rest := by
    apply words_unwords
    intro v hv
    rcases List.mem_cons.1 hv with rfl | hv
    · exact hk.isWord
    · exact hws v hv
  rw [find?, List.getLastD_concat, hwords, afterKeyword?, if_pos (hk.isKeyword m)]

end Stylebook.Marker
