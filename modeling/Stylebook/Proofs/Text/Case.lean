import Mathlib
import Stylebook.Proofs.Text
import Stylebook.Text.Case.Fold

/-!
# ASCII characters up to case

The case tables hold few characters that equal one of ASCII: the dotted `İ` and the dotless `ı` of
`i`, the long `ſ` of `s`, and the Kelvin sign of `k`. All else that ASCII characters equal up to
case is ASCII.

* `strayLetters` : those four;
* `lowerChar_cases` : the lower case of a character beyond ASCII, by the run of the table that
  covers it;
* `ascii_of_caseKey` : only ASCII characters and stray letters have an ASCII character to represent
  them;
* `sameLetter_iff_of_not_alpha` : what is no letter equals itself only; `mem_strayLetters_iff` : the
  stray letters are the characters beyond ASCII that equal a letter of ASCII.
-/

namespace Stylebook.Text

variable {a c : Char}

/-- The characters beyond ASCII that equal a letter of ASCII up to case. -/
def strayLetters : List Char := ['İ', 'ı', 'ſ', '\u212a']

theorem mem_strayLetters_iff_toNat :
    c ∈ strayLetters ↔ c.toNat ∈ [0x130, 0x131, 0x17f, 0x212a] := by
  simp [strayLetters, ← Char.toNat_inj]

/-! ## Tables -/

theorem Shift.apply_cases (runs : List Shift) (c : Char) :
    apply runs c = c ∨ ∃ s ∈ runs, s.first ≤ c.toNat ∧ c.toNat ≤ s.last ∧
      apply runs c = Char.ofNat (s.image + (c.toNat - s.first)) := by
  unfold apply
  cases h : runs.find? (·.covers c.toNat) with
  | none => exact Or.inl rfl
  | some s =>
    have hcovers := List.find?_some (p := fun s : Shift => s.covers c.toNat) h
    simp only [covers, Bool.and_eq_true, decide_eq_true_eq] at hcovers
    exact Or.inr ⟨s, List.mem_of_find?_eq_some h, hcovers.1.1, hcovers.1.2, rfl⟩

/-- No run of images meets the surrogates. -/
theorem lowerRuns_valid :
    ∀ s ∈ lowerRuns, s.image + (s.last - s.first) < 0xd800 ∨ 0xdfff < s.image ∧
      s.image + (s.last - s.first) < 0x110000 := by
  decide +kernel

/-- Two runs, of one character each, have an image in ASCII; no other reaches the aliases of ASCII
letters. -/
theorem lowerRuns_ascii : ∀ s ∈ lowerRuns,
    s.first = s.last ∧ s.first ∈ [0x130, 0x212a] ∨
      128 ≤ s.image ∧ ∀ n ∈ [0x131, 0x17f], n < s.image ∨ s.image + (s.last - s.first) < n := by
  decide +kernel

theorem caseAliases_ascii :
    ∀ p ∈ caseAliases, p.2.isValidChar ∧ (p.2 < 128 → p.1 ∈ [0x131, 0x17f]) := by
  decide +kernel

/-- A character beyond ASCII is its own lower case, or a run of the table gives it. -/
theorem lowerChar_cases (h : 128 ≤ c.toNat) :
    lowerChar c = c ∨ ∃ s ∈ lowerRuns, s.first ≤ c.toNat ∧ c.toNat ≤ s.last ∧
      (lowerChar c).toNat = s.image + (c.toNat - s.first) := by
  rw [lowerChar, if_neg (by omega)]
  rcases Shift.apply_cases lowerRuns c with hsame | ⟨s, hs, hfirst, hlast, himage⟩
  · exact Or.inl hsame
  · have hvalid : (s.image + (c.toNat - s.first)).isValidChar := by
      have hrun := lowerRuns_valid s hs
      unfold Nat.isValidChar
      omega
    exact Or.inr ⟨s, hs, hfirst, hlast, by rw [himage, Char.toNat_ofNat, if_pos hvalid]⟩

/-! ## Characters that ASCII represents -/

theorem ascii_of_lowerChar (h : (lowerChar c).toNat < 128 ∨ (lowerChar c).toNat ∈ [0x131, 0x17f]) :
    c.toNat < 128 ∨ c ∈ strayLetters := by
  by_cases hc : c.toNat < 128
  · exact Or.inl hc
  rw [mem_strayLetters_iff_toNat]
  rcases lowerChar_cases (Nat.le_of_not_lt hc) with hsame | ⟨s, hs, hfirst, hlast, himage⟩
  · rw [hsame] at h
    simp only [List.mem_cons, List.not_mem_nil, or_false] at h ⊢
    omega
  · rcases lowerRuns_ascii s hs with ⟨hone, hrun⟩ | ⟨hbeyond, hrun⟩
    · simp only [List.mem_cons, List.not_mem_nil, or_false] at hrun ⊢
      omega
    · simp only [List.mem_cons, List.not_mem_nil, or_false, forall_eq_or_imp, forall_eq] at hrun h
      omega

/-- Only ASCII characters and the stray letters have an ASCII character to represent them. -/
theorem ascii_of_caseKey (h : (caseKey c).toNat < 128) : c.toNat < 128 ∨ c ∈ strayLetters := by
  unfold caseKey at h
  dsimp only at h
  split at h
  · exact ascii_of_lowerChar (Or.inl h)
  · rename_i hbeyond
    split at h
    · rename_i n hlookup
      obtain ⟨before, after, htable, -⟩ := List.lookup_eq_some_iff.1 hlookup
      obtain ⟨hvalid, halias⟩ := caseAliases_ascii ((lowerChar c).toNat, n) (by simp [htable])
      rw [Char.toNat_ofNat, if_pos hvalid] at h
      exact ascii_of_lowerChar (Or.inr (halias h))
    · exact absurd h hbeyond

theorem toNat_toLower_lt (h : c.toNat < 128) : c.toLower.toNat < 128 := by
  have hall : ∀ n < 128, (Char.ofNat n).toLower.toNat < 128 := by decide
  have hc := hall c.toNat h
  rwa [Char.ofNat_toNat] at hc

theorem caseKey_of_ascii (h : c.toNat < 128) : caseKey c = c.toLower := by
  have hlower : lowerChar c = c.toLower := if_pos h
  rw [caseKey, hlower]
  exact if_pos (toNat_toLower_lt h)

theorem strayLetters_caseKey : ∀ c ∈ strayLetters,
    128 ≤ c.toNat ∧ (caseKey c).isAlpha = true ∧ sameLetter (caseKey c) c = true := by
  intro c hc
  simp only [strayLetters, List.mem_cons, List.not_mem_nil, or_false] at hc
  rcases hc with rfl | rfl | rfl | rfl <;> decide

/-- An ASCII character that is no letter equals only itself. -/
theorem sameLetter_iff_of_not_alpha (ha : a.toNat < 128) (halpha : a.isAlpha = false) :
    sameLetter a c = true ↔ c = a := by
  have hupper : ∀ {d : Char}, d.isAlpha = false → d.toLower = d := fun hd =>
    Char.toLower_eq_of_not_isUpper (by simp [(Bool.or_eq_false_iff.1 hd).1])
  have hkey : caseKey a = a := (caseKey_of_ascii ha).trans (hupper halpha)
  rw [sameLetter, beq_iff_eq, hkey]
  constructor
  · intro h
    rcases ascii_of_caseKey (h ▸ ha : (caseKey c).toNat < 128) with hc | hc
    · rw [caseKey_of_ascii hc] at h
      have hcalpha : c.isAlpha = false := by rw [← Char.isAlpha_toLower_eq_isAlpha, ← h, halpha]
      rw [h, hupper hcalpha]
    · have hletter := (strayLetters_caseKey c hc).2.1
      rw [← h, halpha] at hletter
      exact absurd hletter Bool.false_ne_true
  · rintro rfl
    exact hkey.symm

/-- The stray letters are the characters beyond ASCII that equal a letter of ASCII. -/
theorem mem_strayLetters_iff :
    c ∈ strayLetters ↔ 128 ≤ c.toNat ∧ ∃ a : Char, a.isAlpha = true ∧ sameLetter a c = true := by
  constructor
  · intro hc
    obtain ⟨hbeyond, hletter, hsame⟩ := strayLetters_caseKey c hc
    exact ⟨hbeyond, caseKey c, hletter, hsame⟩
  · rintro ⟨hbeyond, a, ha, hsame⟩
    have hascii : a.toNat < 128 := by
      have hn := toNat_of_isAlpha ha
      omega
    rw [sameLetter, beq_iff_eq, caseKey_of_ascii hascii] at hsame
    have hkey := toNat_toLower_lt hascii
    rw [hsame] at hkey
    exact (ascii_of_caseKey hkey).resolve_left (by omega)

end Stylebook.Text
