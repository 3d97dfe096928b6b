import Mathlib
import Stylebook.Proofs.Number.Decimal
import Stylebook.Weight

/-!
# Reading weights

* `Decimal.nearest_of_rounds` : far outside the range of the format the position of the leading
  digit decides as the rounding does;
* `Weight.read_of_rounds`, `Weight.read_of_not_denotes` : the weight of a decimal text is the number
  that it denotes, correctly rounded, and other texts weigh nothing;
* `Weight.read_of_integer` : whole numbers of up to 53 bits are exact.

So the order of the numbers that were written is the order of the weights, up to ties.
-/

namespace Stylebook

open Number

namespace Decimal

variable {d : Decimal} {r : ℚ}

theorem magnitude_nonneg (d : Decimal) : 0 ≤ d.magnitude := by
  rw [magnitude_eq]
  positivity

theorem zpow_lead_le (h : d.digits ≠ 0) : 10 ^ d.lead ≤ d.magnitude := by
  have hlow : ((10 : ℚ) ^ Nat.log 10 d.digits) ≤ d.digits := by
    exact_mod_cast Nat.pow_log_le_self 10 h
  rw [magnitude_eq, lead, logDigits_eq_log (by norm_num), add_comm, zpow_add₀ (by norm_num),
    Int.ofNat_eq_natCast, zpow_natCast]
  exact mul_le_mul_of_nonneg_right hlow (by positivity)

theorem magnitude_lt (d : Decimal) : d.magnitude < 10 ^ (d.lead + 1) := by
  have hhigh : (d.digits : ℚ) < 10 ^ (Nat.log 10 d.digits + 1) := by
    exact_mod_cast Nat.lt_pow_succ_log_self (by norm_num) d.digits
  rw [magnitude_eq, lead, logDigits_eq_log (by norm_num), add_assoc, zpow_add₀ (by norm_num),
    mul_comm, Int.ofNat_eq_natCast, ← Nat.cast_succ, zpow_natCast]
  exact mul_lt_mul_of_pos_left hhigh (by positivity)

theorem two_pow_le_ten_pow : (2 : ℚ) ^ 1075 ≤ 10 ^ 400 := by
  calc (2 : ℚ) ^ 1075 ≤ 2 ^ (3 * 400) := pow_le_pow_right₀ (by norm_num) (by norm_num)
    _ = 8 ^ 400 := by rw [pow_mul, show (2 : ℚ) ^ 3 = 8 by norm_num]
    _ ≤ 10 ^ 400 := pow_le_pow_left₀ (by norm_num) (by norm_num) 400

theorem rounds_zero_of_lead (h : d.lead < -400) : Rounds d.magnitude 0 := by
  refine rounds_zero_of_lt d.magnitude_nonneg ?_
  calc d.magnitude < 10 ^ (d.lead + 1) := d.magnitude_lt
    _ ≤ 10 ^ (-400 : ℤ) := zpow_le_zpow_right₀ (by norm_num) (by omega)
    _ ≤ 2 ^ (-1075 : ℤ) := by
      rw [zpow_neg, zpow_neg]
      exact inv_anti₀ (by positivity) two_pow_le_ten_pow

theorem le_of_rounds_of_lead (hne : d.digits ≠ 0) (h : 400 < d.lead) (hr : Rounds d.magnitude r) :
    2 ^ 1024 ≤ r := by
  have hlimit : Rounds (2 ^ 1024) (2 ^ 1024) := by
    have hpower := representable_mul_zpow (show |(1 : ℤ)| ≤ 2 ^ 53 by norm_num)
      (show -1074 ≤ 1024 by norm_num)
    exact (by simpa using hpower : Representable (2 ^ 1024)).rounds
  refine hlimit.mono hr ?_
  calc (2 : ℚ) ^ 1024 ≤ 2 ^ 1075 := pow_le_pow_right₀ (by norm_num) (by norm_num)
    _ ≤ 10 ^ (400 : ℤ) := two_pow_le_ten_pow
    _ ≤ 10 ^ d.lead := zpow_le_zpow_right₀ (by norm_num) h.le
    _ ≤ d.magnitude := zpow_lead_le hne

/-- What is decided from the leading digit alone is what rounding gives. -/
theorem nearest_of_rounds (hr : Rounds d.magnitude r) :
    d.nearest = if r < 2 ^ 1024 then some r else none := by
  unfold nearest
  split
  · rename_i hsmall
    have hzero : Rounds d.magnitude 0 := by
      obtain hdigits | hlead := Bool.or_eq_true_iff.1 hsmall
      · rw [magnitude_eq, beq_iff_eq.1 hdigits, Nat.cast_zero, zero_mul]
        exact rounds_zero
      · exact rounds_zero_of_lead (of_decide_eq_true hlead)
    rw [hr.unique hzero, if_pos (by norm_num)]
  · rename_i hsmall
    have hne : d.digits ≠ 0 := fun h => hsmall (by simp [h])
    split
    · rename_i hlarge
      rw [if_neg (le_of_rounds_of_lead hne hlarge hr).not_gt]
    · exact Number.nearest_of_rounds d.magnitude_nonneg hr

/-- Rounding is symmetric, so that the sign can be put back after it. -/
theorem rounds_magnitude (hr : Rounds d.value r) :
    Rounds d.magnitude |r| ∧ r = if d.negative then -|r| else |r| := by
  unfold value at hr
  split at hr
  · rename_i hnegative
    have hneg := hr.neg
    rw [neg_neg] at hneg
    have habs : |r| = -r := by rw [← abs_neg, abs_of_nonneg (hneg.nonneg d.magnitude_nonneg)]
    rw [habs, neg_neg, if_pos hnegative]
    exact ⟨hneg, rfl⟩
  · rename_i hnegative
    rw [abs_of_nonneg (hr.nonneg d.magnitude_nonneg), if_neg hnegative]
    exact ⟨hr, rfl⟩

end Decimal

namespace Weight

open Decimal

variable {a t : Text} {x r : ℚ} {n : ℤ}

theorem read_of_rounds (ht : Denotes t x) (hr : Rounds x r) :
    read t = if |r| < 2 ^ 1024 then r else 0 := by
  obtain ⟨d, hd, rfl⟩ := denotes_iff.1 ht
  obtain ⟨hround, hsign⟩ := rounds_magnitude hr
  have hnearest := Decimal.nearest_of_rounds hround
  unfold read
  rw [hd]
  dsimp only
  by_cases hfinite : |r| < 2 ^ 1024
  · rw [if_pos hfinite] at hnearest ⊢
    rw [hnearest]
    exact hsign.symm
  · rw [if_neg hfinite] at hnearest ⊢
    rw [hnearest]

theorem read_of_not_denotes (h : ∀ x, ¬ Denotes t x) : read t = 0 := by
  unfold read
  cases hd : Decimal.read? t with
  | none => rfl
  | some d => exact absurd (denotes_iff.2 ⟨d, hd, rfl⟩) (h d.value)

theorem read_of_integer (ha : Denotes a n) (hn : |n| ≤ 2 ^ 53) : read a = n := by
  have hfinite : |(n : ℚ)| < 2 ^ 1024 := by
    calc |(n : ℚ)| ≤ 2 ^ 53 := by exact_mod_cast hn
      _ < 2 ^ 1024 := pow_lt_pow_right₀ (by norm_num) (by norm_num)
  rw [read_of_rounds ha (representable_intCast hn).rounds, if_pos hfinite]

theorem text_intCast (n : ℤ) : text (n : ℚ) = integerText n := by
  rw [text, finiteText, if_pos (by simp)]
  rfl

/-- The weight of a decimal text is the number that it denotes, correctly rounded, or zero if that
is not finite; all other texts have weight zero. So weights keep the order of the numbers that were
written, and whole numbers of up to 53 bits are exact and shown in full. -/
theorem read_rounds_monotone :
    (∀ t x, Denotes t x → (∃ r, Rounds x r) ∧ ∀ r, Rounds x r → read t = if |r| < 2 ^ 1024 then r else 0) ∧
      (∀ t, (∀ x, ¬ Denotes t x) → read t = 0) ∧
      (∀ a b x y r s, Denotes a x → Denotes b y → x ≤ y → Rounds x r → |r| < 2 ^ 1024 →
        Rounds y s → |s| < 2 ^ 1024 →
        read a ≤ read b) ∧
      ∀ a (n : ℤ), Denotes a n → |n| ≤ 2 ^ 53 → read a = n ∧ text (read a) = integerText n := by
  refine ⟨fun t x ht => ⟨exists_rounds x, fun r => read_of_rounds ht⟩,
    fun t => read_of_not_denotes, ?_, ?_⟩
  · intro a b x y r s ha hb hxy hr hrfinite hs hsfinite
    rw [read_of_rounds ha hr, if_pos hrfinite, read_of_rounds hb hs, if_pos hsfinite]
    exact hr.mono hs hxy
  · intro a n ha hn
    rw [read_of_integer ha hn]
    exact ⟨rfl, text_intCast n⟩

/-- The number `2 ^ 53 + 1` stands between two representable ones and goes to the even one, which is
not above the next number, in digits of another script and with an exponent; `2 ^ 53` itself is
exact, and two underscores are no decimal text. -/
theorem read_rounds_monotone_even :
    (Denotes "9_007199254740993".toList 9007199254740993 ∧ Rounds 9007199254740993 9007199254740992 ∧
      read "9_007199254740993".toList =
        if |(9007199254740992 : ℚ)| < 2 ^ 1024 then 9007199254740992 else 0) ∧
    ((∀ x, ¬ Denotes "1__0".toList x) ∧ read "1__0".toList = 0) ∧
    (Denotes " +९००७१९९२५४७४०९.९४E2\n".toList 9007199254740994 ∧
      read "9_007199254740993".toList ≤ read " +९००७१९९२५४७४०९.९४E2\n".toList) ∧
    Denotes "-9007199254740992".toList (-9007199254740992 : ℤ) ∧
      read "-9007199254740992".toList = (-9007199254740992 : ℤ) := by
  obtain ⟨hread, hother, horder, hinteger⟩ := read_rounds_monotone
  have hodd : Denotes "9_007199254740993".toList 9007199254740993 :=
    denotes_iff.2 ⟨⟨false, 9007199254740993, 0⟩, by decide, by decide +kernel⟩
  have hscript : Denotes " +९००७१९९२५४७४०९.९४E2\n".toList 9007199254740994 :=
    denotes_iff.2 ⟨⟨false, 9007199254740994, 0⟩, by decide, by decide +kernel⟩
  have hwhole : Denotes "-9007199254740992".toList (-9007199254740992 : ℤ) :=
    denotes_iff.2 ⟨⟨true, 9007199254740992, 0⟩, by decide, by decide +kernel⟩
  have hnone : ∀ x, ¬ Denotes "1__0".toList x := by
    intro x hx
    obtain ⟨d, hd, -⟩ := denotes_iff.1 hx
    rw [show read? "1__0".toList = none by decide] at hd
    cases hd
  obtain ⟨htie, htielt⟩ := (nearest_eq_some_iff (q := 9007199254740993) (r := 9007199254740992) (by norm_num)).1
    (by decide +kernel)
  obtain ⟨hnext, hnextlt⟩ := (nearest_eq_some_iff (q := 9007199254740994) (r := 9007199254740994) (by norm_num)).1
    (by decide +kernel)
  refine ⟨⟨hodd, htie, (hread _ _ hodd).2 _ htie⟩, ⟨hnone, hother _ hnone⟩,
    ⟨hscript, ?_⟩, hwhole, ?_⟩
  · refine horder _ _ _ _ _ _ hodd hscript (by norm_num) htie ?_ hnext ?_
    · exact (abs_of_pos (show (0 : ℚ) < 9007199254740992 by norm_num)).trans_lt htielt
    · exact (abs_of_pos (show (0 : ℚ) < 9007199254740994 by norm_num)).trans_lt hnextlt
  · exact (hinteger _ _ hwhole (by decide)).1

end Weight

end Stylebook
