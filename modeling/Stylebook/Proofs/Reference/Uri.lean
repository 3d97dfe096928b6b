import Mathlib
import Stylebook.Proofs.Text
import Stylebook.Proofs.Text.Split
import Stylebook.Reference.Basic

/-!
# URI fragments

A fragment is made in three steps: dashes between spaces, then all that is not safe, then lower
case. After the second step only ASCII characters are left, so the third cannot bring in others.

* `isKept` : the characters of a reference that its fragment keeps;
* `filter_dashUnsafe`, with `filter_replaceText` : the two replacements touch no such character;
* `IsFragment` : the texts that are fragments; `isFragment_uri`, `uri_eq_self` : a reference becomes
  one, and a fragment stays as it is.
-/

namespace Stylebook.Reference

open Text

def isKept (c : Char) : Bool := c.isAlphanum || c == '_'

def IsFragment (t : Text) : Prop := ∀ c ∈ t, c.isLower = true ∨ c.isDigit = true ∨ c = '_' ∨ c = '-'

/-! ## Safe characters -/

theorem isSafe_iff {c : Char} : isSafe c = true ↔ isKept c = true ∨ c = '-' := by
  simp [isSafe, isKept]

theorem not_isUpper_of_isDigit {c : Char} (h : c.isDigit = true) : ¬c.isUpper = true := by
  simp only [Char.isDigit, Char.isUpper, Bool.and_eq_true, decide_eq_true_eq,
    UInt32.le_iff_toNat_le, ge_iff_le] at h ⊢
  change 48 ≤ c.toNat ∧ c.toNat ≤ 57 at h
  change ¬(65 ≤ c.toNat ∧ c.toNat ≤ 90)
  omega

theorem toNat_lt_of_isSafe {c : Char} (h : isSafe c = true) : c.toNat < 128 := by
  simp only [isSafe, Char.isAlphanum, Char.isAlpha, Char.isUpper, Char.isLower, Char.isDigit,
    Bool.or_eq_true, Bool.and_eq_true, decide_eq_true_eq, beq_iff_eq,
    UInt32.le_iff_toNat_le, ge_iff_le] at h
  change ((((65 ≤ c.toNat ∧ c.toNat ≤ 90) ∨ (97 ≤ c.toNat ∧ c.toNat ≤ 122)) ∨ (48 ≤ c.toNat ∧ c.toNat ≤ 57)) ∨
    c = '_') ∨ c = '-' at h
  rcases h with (h | rfl) | rfl
  · omega
  · decide
  · decide

theorem isSafe_of_mem_dashUnsafe {inRun : Bool} {t : Text} {c : Char} (h : c ∈ dashUnsafe inRun t) :
    isSafe c = true := by
  induction t generalizing inRun with
  | nil => simp [dashUnsafe] at h
  | cons d t ih =>
    unfold dashUnsafe at h
    split at h
    · rename_i hd
      rcases List.mem_cons.1 h with rfl | h
      · exact hd
      · exact ih h
    · split at h
      · exact ih h
      · rcases List.mem_cons.1 h with rfl | h
        · rfl
        · exact ih h

theorem dashUnsafe_of_isSafe {t : Text} (h : ∀ c ∈ t, isSafe c = true) (inRun : Bool) :
    dashUnsafe inRun t = t := by
  induction t generalizing inRun with
  | nil => rfl
  | cons c t ih =>
    rw [List.forall_mem_cons] at h
    rw [dashUnsafe, if_pos h.1, ih h.2]

theorem dashUnsafe_eq_nil_iff {t : Text} : dashUnsafe false t = [] ↔ t = [] := by
  cases t with
  | nil => simp [dashUnsafe]
  | cons c t =>
    rw [dashUnsafe]
    split <;> simp

theorem filter_dashUnsafe (inRun : Bool) (t : Text) :
    (dashUnsafe inRun t).filter isKept = t.filter isKept := by
  induction t generalizing inRun with
  | nil => rfl
  | cons c t ih =>
    by_cases hc : isSafe c = true
    · rw [dashUnsafe, if_pos hc, List.filter_cons, List.filter_cons, ih]
    · have hkept : isKept c = false := by
        rw [isSafe_iff, not_or] at hc
        simpa using hc.1
      rw [dashUnsafe, if_neg hc, List.filter_cons_of_neg (by simp [hkept])]
      split
      · exact ih true
      · exact (List.filter_cons_of_neg (by decide)).trans (ih true)

/-! ## Fragments -/

/-- Before it is lowered, a fragment has only safe characters. -/
theorem uri_eq_map (r : Text) :
    uri r = (dashUnsafe false (replaceText dash ['-'] r)).map Char.toLower :=
  lower_of_ascii fun _ hc => toNat_lt_of_isSafe (isSafe_of_mem_dashUnsafe hc)

theorem isFragment_uri (r : Text) : IsFragment (uri r) := by
  intro d hd
  rw [uri_eq_map] at hd
  obtain ⟨c, hc, rfl⟩ := List.mem_map.1 hd
  have hsafe := isSafe_of_mem_dashUnsafe hc
  simp only [isSafe, Char.isAlphanum, Bool.or_eq_true, beq_iff_eq] at hsafe
  rcases hsafe with ((halpha | hdigit) | rfl) | rfl
  · exact Or.inl (by rw [Char.isLower_toLower_eq_isAlpha, halpha])
  · rw [Char.toLower_eq_of_not_isUpper (not_isUpper_of_isDigit hdigit)]
    exact Or.inr (Or.inl hdigit)
  · exact Or.inr (Or.inr (Or.inl rfl))
  · exact Or.inr (Or.inr (Or.inr rfl))

theorem IsFragment.isSafe {t : Text} (h : IsFragment t) : ∀ c ∈ t, isSafe c = true := by
  intro c hc
  rcases h c hc with hlower | hdigit | rfl | rfl
  · simp [Reference.isSafe, Char.isAlphanum, Char.isAlpha, hlower]
  · simp [Reference.isSafe, Char.isAlphanum, hdigit]
  · rfl
  · rfl

theorem IsFragment.toLower {t : Text} (h : IsFragment t) : t.map Char.toLower = t := by
  refine (List.map_congr_left fun c hc => ?_).trans (List.map_id t)
  apply Char.toLower_eq_of_not_isUpper
  rcases h c hc with hlower | hdigit | rfl | rfl
  · exact Char.not_isUpper_of_isLower hlower
  · exact not_isUpper_of_isDigit hdigit
  · decide
  · decide

/-- A fragment has no space, so nothing in it is replaced. -/
theorem uri_eq_self {t : Text} (h : IsFragment t) : uri t = t := by
  have hdash : ¬dash <:+: t := fun hin => absurd (h.isSafe ' ' (hin.subset (by decide))) (by decide)
  rw [uri_eq_map, replaceText_of_not_infix hdash, dashUnsafe_of_isSafe h.isSafe, h.toLower]

theorem uri_eq_nil_iff {r : Text} : uri r = [] ↔ r = [] := by
  rw [uri_eq_map, List.map_eq_nil_iff, dashUnsafe_eq_nil_iff, replaceText_eq_nil_iff (by decide) (by decide)]

theorem isKept_toLower (c : Char) : isKept c.toLower = isKept c := by
  by_cases hc : c.isAlpha = true
  · simp [isKept, Char.isAlphanum, hc]
  · have hupper : ¬c.isUpper = true := fun hupper => hc (by simp [Char.isAlpha, hupper])
    rw [Char.toLower_eq_of_not_isUpper hupper]

theorem filter_uri (r : Text) : (uri r).filter isKept = (r.filter isKept).map Char.toLower := by
  have hkept : isKept ∘ Char.toLower = isKept := funext isKept_toLower
  rw [uri_eq_map, List.filter_map, hkept, filter_dashUnsafe, filter_replaceText (by decide) (by decide)]

/-- Whatever the reference is, its fragment is safe, is its own fragment, and has the letters,
digits and underscores of the reference in their order, with nothing but dashes between them. -/
theorem uri_canonical (r : Text) :
    (∀ c ∈ uri r, c.isLower = true ∨ c.isDigit = true ∨ c = '_' ∨ c = '-') ∧ (uri r = [] ↔ r = []) ∧
      uri (uri r) = uri r ∧
      (uri r).filter (· != '-') = (r.filter fun c => c.isAlpha || c.isDigit || c == '_').map Char.toLower := by
  have hfragment := isFragment_uri r
  refine ⟨hfragment, uri_eq_nil_iff, uri_eq_self hfragment, ?_⟩
  have hdashes : (uri r).filter (· != '-') = (uri r).filter isKept := by
    refine List.filter_congr fun c hc => ?_
    rcases isSafe_iff.1 (hfragment.isSafe c hc) with hkept | rfl
    · have hne : c ≠ '-' := fun hdash => absurd (hdash ▸ hkept) (by decide)
      simp [hkept, hne]
    · decide
  rw [hdashes, filter_uri]
  rfl

/-- The Kelvin sign has an ASCII letter as its lower case, and is replaced all the same. -/
example : uri "\u212a2 - Über_uns".toList = "-2--ber_uns".toList := by decide

end Stylebook.Reference
