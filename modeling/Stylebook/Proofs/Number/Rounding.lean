import Mathlib
import Stylebook.Number.Rounding

/-!
# Correct rounding

* `Representable` : the numbers with 53 binary digits and no bit below `2 ^ -1074`, of any size;
* `Rounds q r` : `r` is the representable number nearest to `q`, and of two equally near ones the
  even multiple of their distance; `Rounds.mono`, `Rounds.unique`, `Representable.rounds` : what
  this says of any rounding;
* `floorLog_eq_log`, `abs_sub_halfEven_le`, `even_halfEven` : the parts of the computation;
* `rounds_zero_of_lt`, `exists_rounds` : small numbers go to zero, and every number goes somewhere;
* `nearest_of_rounds`, `nearest_eq_some_iff` : the computation gives the correctly rounded number,
  if that is below `2 ^ 1024`.
-/

namespace Stylebook.Number

variable {q r s x y : ℚ}

/-! ## Rounding to nearest -/

/-- The number has 53 binary digits, of which the last stands for `2 ^ -1074` or more. -/
def Representable (r : ℚ) : Prop := ∃ m e : ℤ, |m| < 2 ^ 53 ∧ -1074 ≤ e ∧ r = m * 2 ^ e

/-- The number `r` is `q` rounded to the nearest representable number. Two representable numbers
that are equally near to another one are consecutive multiples of their distance, and the even one
of them is taken. -/
structure Rounds (q r : ℚ) : Prop where
  representable : Representable r
  nearest : ∀ s, Representable s → |q - r| ≤ |q - s|
  even : ∀ s, Representable s → s ≠ r → |q - s| = |q - r| → ∃ k : ℤ, r = 2 * k * |r - s|

theorem Representable.neg (h : Representable r) : Representable (-r) := by
  obtain ⟨m, e, hm, he, rfl⟩ := h
  exact ⟨-m, e, by rwa [abs_neg], he, by push_cast; ring⟩

theorem abs_neg_sub (a b : ℚ) : |-a - b| = |a - -b| := by
  rw [← abs_neg, show -(-a - b) = a - -b by ring]

theorem Rounds.neg (h : Rounds q r) : Rounds (-q) (-r) := by
  refine ⟨h.representable.neg, fun s hs => ?_, fun s hs hne htie => ?_⟩
  · rw [abs_neg_sub, abs_neg_sub, neg_neg]
    exact h.nearest _ hs.neg
  · rw [abs_neg_sub, abs_neg_sub, neg_neg] at htie
    obtain ⟨k, hk⟩ := h.even _ hs.neg (fun heq => hne (by rw [← heq, neg_neg])) htie
    refine ⟨-k, ?_⟩
    rw [abs_neg_sub]
    push_cast
    linarith

/-- What is nearer to `r` than to `s` lies on the side of `r` of their middle. -/
theorem side_of_nearer (h : |x - r| ≤ |x - s|) : 0 ≤ (r - s) * (2 * x - (r + s)) := by
  have hsquares : (x - r) ^ 2 ≤ (x - s) ^ 2 := sq_le_sq.2 h
  linarith [show (r - s) * (2 * x - (r + s)) = (x - s) ^ 2 - (x - r) ^ 2 by ring]

/-- Where rounding turned the order around, both numbers would lie halfway between the same two
consecutive multiples, and both of these would be even. -/
theorem Rounds.mono (hx : Rounds x r) (hy : Rounds y s) (hxy : x ≤ y) : r ≤ s := by
  by_contra hlt
  rw [not_le] at hlt
  have hpos : 0 < r - s := sub_pos.2 hlt
  have habove : 0 ≤ 2 * x - (r + s) :=
    nonneg_of_mul_nonneg_right (side_of_nearer (hx.nearest s hy.representable)) hpos
  have hbelow : 0 ≤ s + r - 2 * y := by
    refine nonneg_of_mul_nonneg_right ?_ hpos
    linarith [side_of_nearer (hy.nearest r hx.representable)]
  have hmiddle : ∀ z, 2 * z = r + s → |z - s| = |z - r| := by
    intro z hz
    rw [abs_sub_comm z r]
    congr 1
    linarith
  obtain ⟨k, hk⟩ := hx.even s hy.representable hlt.ne (hmiddle x (by linarith))
  obtain ⟨j, hj⟩ := hy.even r hx.representable hlt.ne' (hmiddle y (by linarith)).symm
  rw [abs_sub_comm s r] at hj
  rw [abs_of_pos hpos] at hk hj
  have hdistance : (2 * (k - j) : ℚ) * (r - s) = 1 * (r - s) := by linarith
  have hone : (2 * (k - j) : ℚ) = 1 := mul_right_cancel₀ hpos.ne' hdistance
  have hint : 2 * (k - j) = 1 := by exact_mod_cast hone
  omega

theorem Rounds.unique (h : Rounds q r) (h' : Rounds q s) : r = s :=
  le_antisymm (h.mono h' le_rfl) (h'.mono h le_rfl)

theorem Representable.rounds (h : Representable r) : Rounds r r where
  representable := h
  nearest s _ := by
    rw [sub_self, abs_zero]
    exact abs_nonneg _
  even s _ hne htie := by
    rw [sub_self, abs_zero, abs_eq_zero, sub_eq_zero] at htie
    exact absurd htie.symm hne

theorem representable_mul_zpow {n e : ℤ} (hn : |n| ≤ 2 ^ 53) (he : -1074 ≤ e) :
    Representable (n * 2 ^ e) := by
  rcases hn.lt_or_eq with hlt | heq
  · exact ⟨n, e, hlt, he, rfl⟩
  · have hstep : (2 : ℚ) ^ (e + 1) = 2 ^ e * 2 := zpow_add_one₀ (by norm_num) e
    rcases eq_or_eq_neg_of_abs_eq heq with rfl | rfl
    · refine ⟨2 ^ 52, e + 1, by norm_num, by omega, ?_⟩
      rw [hstep]
      push_cast
      ring
    · refine ⟨-2 ^ 52, e + 1, by norm_num, by omega, ?_⟩
      rw [hstep]
      push_cast
      ring

theorem representable_intCast {n : ℤ} (h : |n| ≤ 2 ^ 53) : Representable n := by
  simpa using representable_mul_zpow h (show -1074 ≤ 0 by norm_num)

theorem rounds_zero : Rounds 0 0 := by
  simpa using (representable_intCast (show |(0 : ℤ)| ≤ 2 ^ 53 by norm_num)).rounds

theorem Rounds.nonneg (h : Rounds q r) (hq : 0 ≤ q) : 0 ≤ r := rounds_zero.mono h hq

theorem Representable.le_abs (h : Representable r) (hr : r ≠ 0) : 2 ^ (-1074 : ℤ) ≤ |r| := by
  obtain ⟨m, e, -, he, rfl⟩ := h
  have hm : (1 : ℚ) ≤ |(m : ℚ)| := by
    exact_mod_cast Int.one_le_abs (left_ne_zero_of_mul hr |> Int.cast_ne_zero.1)
  calc (2 : ℚ) ^ (-1074 : ℤ) ≤ 2 ^ e := zpow_le_zpow_right₀ (by norm_num) he
    _ ≤ |(m : ℚ)| * 2 ^ e := le_mul_of_one_le_left (by positivity) hm
    _ = |(m : ℚ) * 2 ^ e| := by rw [abs_mul, abs_of_pos (show (0 : ℚ) < 2 ^ e by positivity)]

/-- Below half of the smallest representable number, zero is nearest. -/
theorem rounds_zero_of_lt (hq : 0 ≤ q) (hlt : q < 2 ^ (-1075 : ℤ)) : Rounds q 0 := by
  have hhalf : (2 : ℚ) ^ (-1074 : ℤ) = 2 * 2 ^ (-1075 : ℤ) := by
    rw [← zpow_one_add₀ (by norm_num : (2 : ℚ) ≠ 0)]
    norm_num
  have hcloser : ∀ s, Representable s → s ≠ 0 → |q - 0| < |q - s| := by
    intro s hs hne
    have hfar := abs_sub_abs_le_abs_sub s q
    rw [abs_sub_comm, abs_of_nonneg hq] at hfar
    rw [sub_zero, abs_of_nonneg hq]
    linarith [hs.le_abs hne]
  refine ⟨rounds_zero.representable, fun s hs => ?_, fun s hs hne htie => ?_⟩
  · by_cases hzero : s = 0
    · rw [hzero]
    · exact (hcloser s hs hzero).le
  · exact absurd htie (hcloser s hs hne).ne'

/-! ## Powers and logarithms -/

theorem scaled_eq (m : ℤ) (b : ℕ) (e : ℤ) : scaled m b e = m * (b : ℚ) ^ e := by
  unfold scaled
  split
  · rename_i he
    lift e to ℕ using he
    rw [Rat.mkRat_eq_div]
    simp
  · rename_i he
    obtain ⟨k, rfl⟩ : ∃ k : ℕ, e = -k := ⟨(-e).toNat, by omega⟩
    rw [Rat.mkRat_eq_div]
    simp [div_eq_mul_inv]

theorem logDigits_eq_log {b : ℕ} (hb : 1 < b) (n : ℕ) : logDigits b n = Nat.log b n := by
  unfold logDigits
  have hlength : ∀ k, 0 < k → ((Nat.toDigits b n).length ≤ k ↔ n < b ^ k) :=
    fun k hk => Nat.length_toDigits_le_iff hb hk
  have hpos : 0 < (Nat.toDigits b n).length := Nat.length_toDigits_pos
  generalize (Nat.toDigits b n).length = len at hlength hpos
  obtain ⟨k, rfl⟩ := Nat.exists_eq_add_one.2 hpos
  have hlt : n < b ^ (k + 1) := (hlength (k + 1) hpos).1 le_rfl
  rw [Nat.add_sub_cancel]
  by_cases hk : k = 0
  · subst hk
    exact (Nat.log_eq_zero_iff.2 (Or.inl (by simpa using hlt))).symm
  · have hge : b ^ k ≤ n := by
      by_contra hlt'
      have := (hlength k (by omega)).2 (not_le.1 hlt')
      omega
    exact ((Nat.log_eq_iff (Or.inl hk)).2 ⟨hge, hlt⟩).symm

theorem zpow_bounds {b : ℕ} (hb : 1 < b) (hq : 0 < q) :
    (b : ℚ) ^ ((Nat.log b q.num.natAbs : ℤ) - Nat.log b q.den - 1) ≤ q ∧
      q < (b : ℚ) ^ ((Nat.log b q.num.natAbs : ℤ) - Nat.log b q.den + 1) := by
  have hb0 : (b : ℚ) ≠ 0 := by positivity
  have hnum : q.num.natAbs ≠ 0 := Int.natAbs_ne_zero.2 (Rat.num_pos.2 hq).ne'
  have hden : (0 : ℚ) < q.den := by exact_mod_cast q.den_pos
  have hdiv : q = (q.num.natAbs : ℚ) / q.den := by
    rw [Nat.cast_natAbs, abs_of_pos (Rat.num_pos.2 hq), Rat.num_div_den]
  have hnumLow : (b : ℚ) ^ Nat.log b q.num.natAbs ≤ q.num.natAbs := by
    exact_mod_cast Nat.pow_log_le_self b hnum
  have hnumHigh : (q.num.natAbs : ℚ) < (b : ℚ) ^ (Nat.log b q.num.natAbs + 1) := by
    exact_mod_cast Nat.lt_pow_succ_log_self hb _
  have hdenLow : (b : ℚ) ^ Nat.log b q.den ≤ q.den := by
    exact_mod_cast Nat.pow_log_le_self b q.den_ne_zero
  have hdenHigh : (q.den : ℚ) < (b : ℚ) ^ (Nat.log b q.den + 1) := by
    exact_mod_cast Nat.lt_pow_succ_log_self hb _
  generalize Nat.log b q.num.natAbs = k at *
  generalize Nat.log b q.den = l at *
  constructor
  · calc (b : ℚ) ^ ((k : ℤ) - l - 1) = (b : ℚ) ^ k / (b : ℚ) ^ (l + 1) := by
          rw [sub_sub, zpow_sub₀ hb0, zpow_natCast]
          norm_cast
      _ ≤ (q.num.natAbs : ℚ) / q.den := by gcongr
      _ = q := hdiv.symm
  · calc q = (q.num.natAbs : ℚ) / q.den := hdiv
      _ < (b : ℚ) ^ (k + 1) / (b : ℚ) ^ l := by gcongr
      _ = (b : ℚ) ^ ((k : ℤ) - l + 1) := by
          rw [sub_add_eq_add_sub, zpow_sub₀ hb0, zpow_natCast]
          norm_cast

/-- The logarithms of numerator and denominator leave two candidates. -/
theorem floorLog_eq_log {b : ℕ} (hb : 1 < b) (hq : 0 < q) : floorLog b q = Int.log b q := by
  obtain ⟨hlow, hhigh⟩ := zpow_bounds hb hq
  rw [Int.zpow_le_iff_le_log hb hq] at hlow
  rw [Int.lt_zpow_iff_log_lt hb hq] at hhigh
  simp only [floorLog, logDigits_eq_log hb, scaled_eq, Int.ofNat_eq_natCast, Int.cast_one, one_mul,
    Int.zpow_le_iff_le_log hb hq]
  split <;> omega

theorem placeExponent_eq (hq : 0 < q) : placeExponent q = max (Int.log 2 q - 52) (-1074) := by
  unfold placeExponent
  rw [floorLog_eq_log (by norm_num) hq]
  dsimp only
  split <;> omega

/-! ## The nearest integer -/

theorem abs_sub_halfEven_le (q : ℚ) : |q - halfEven q| ≤ 1 / 2 := by
  have hlow : (q.floor : ℚ) ≤ q := Int.floor_le q
  have hhigh : q < q.floor + 1 := Int.lt_floor_add_one q
  unfold halfEven
  dsimp only
  rw [abs_le]
  split_ifs <;> push_cast <;> constructor <;> linarith

theorem even_halfEven (h : |q - halfEven q| = 1 / 2) : ∃ k : ℤ, halfEven q = 2 * k := by
  have hlow : (q.floor : ℚ) ≤ q := Int.floor_le q
  have hhigh : q < q.floor + 1 := Int.lt_floor_add_one q
  unfold halfEven at h ⊢
  dsimp only at h ⊢
  split_ifs at h ⊢ with hless hmore heven
  · rw [abs_of_nonneg (by linarith)] at h
    linarith
  · push_cast at h
    rw [abs_of_nonpos (by linarith)] at h
    linarith
  · exact ⟨q.floor / 2, by rw [beq_iff_eq] at heven; omega⟩
  · exact ⟨(q.floor + 1) / 2, by rw [beq_iff_eq] at heven; omega⟩

theorem abs_halfEven_sub_le (q : ℚ) (j : ℤ) :
    |(halfEven q : ℚ) - j| ≤ |q - j| + |q - halfEven q| := by
  calc |(halfEven q : ℚ) - j| = |(q - j) - (q - halfEven q)| := by ring_nf
    _ ≤ |q - j| + |q - halfEven q| := abs_sub _ _

theorem one_le_abs_halfEven_sub {j : ℤ} (hne : j ≠ halfEven q) : 1 ≤ |(halfEven q : ℚ) - j| := by
  exact_mod_cast Int.one_le_abs (sub_ne_zero.2 hne.symm)

theorem abs_sub_halfEven_le_abs_sub (q : ℚ) (j : ℤ) : |q - halfEven q| ≤ |q - j| := by
  by_cases hj : j = halfEven q
  · rw [hj]
  · linarith [one_le_abs_halfEven_sub hj, abs_halfEven_sub_le q j, abs_sub_halfEven_le q]

theorem even_halfEven_of_tie {j : ℤ} (hne : j ≠ halfEven q) (h : |q - j| = |q - halfEven q|) :
    |(halfEven q : ℚ) - j| = 1 ∧ ∃ k : ℤ, halfEven q = 2 * k := by
  have hone := one_le_abs_halfEven_sub hne
  have hsum := abs_halfEven_sub_le q j
  have hhalf := abs_sub_halfEven_le q
  exact ⟨by linarith, even_halfEven (by linarith)⟩

/-! ## Places -/

/-- The number at the place that 53 digits reach, before its size is checked. -/
def rounded (q : ℚ) : ℚ := halfEven (q / 2 ^ placeExponent q) * 2 ^ placeExponent q

theorem nearest_eq (hq : 0 < q) :
    nearest q = if rounded q < 2 ^ 1024 then some (rounded q) else none := by
  have hzero : (q == 0) = false := by simpa using hq.ne'
  have hlimit : scaled 1 2 1024 = 2 ^ 1024 := by
    rw [scaled_eq]
    norm_num
  have hplace : scaled (halfEven (q * scaled 1 2 (-placeExponent q))) 2 (placeExponent q) =
      rounded q := by
    rw [rounded, scaled_eq, scaled_eq, zpow_neg, Int.cast_one, one_mul, ← div_eq_mul_inv]
    rfl
  rw [nearest, hzero, if_neg (by simp)]
  dsimp only
  rw [hlimit, hplace]

/-- A representable number stands on the grid of the place of `q`, or has the finer digits of a
smaller one. -/
theorem grid_or_lt (hq : 0 < q) (hs : Representable s) :
    (∃ j : ℤ, s = j * 2 ^ placeExponent q) ∨
      s < 2 ^ Int.log 2 q ∧ (2 : ℚ) ^ Int.log 2 q = (2 ^ 52 : ℤ) * 2 ^ placeExponent q := by
  obtain ⟨m, e, hm, he, rfl⟩ := hs
  have hplace := placeExponent_eq hq
  by_cases hle : placeExponent q ≤ e
  · obtain ⟨k, hk⟩ : ∃ k : ℕ, e = k + placeExponent q := ⟨(e - placeExponent q).toNat, by omega⟩
    refine Or.inl ⟨m * 2 ^ k, ?_⟩
    rw [hk, zpow_add₀ (by norm_num), zpow_natCast]
    push_cast
    ring
  · have hlog : Int.log 2 q = 52 + placeExponent q := by omega
    refine Or.inr ⟨?_, ?_⟩
    · have hm' : (m : ℚ) < 2 ^ (53 : ℤ) := by
        exact_mod_cast (le_abs_self m).trans_lt hm
      calc (m : ℚ) * 2 ^ e < 2 ^ (53 : ℤ) * 2 ^ e := by gcongr
        _ = 2 ^ (53 + e) := (zpow_add₀ (by norm_num) _ _).symm
        _ ≤ 2 ^ Int.log 2 q := zpow_le_zpow_right₀ (by norm_num) (by omega)
    · rw [hlog, zpow_add₀ (by norm_num)]
      norm_num

theorem abs_sub_mul_zpow (q : ℚ) (j e : ℤ) : |q - j * 2 ^ e| = |q / 2 ^ e - j| * 2 ^ e := by
  have hpos : (0 : ℚ) < 2 ^ e := by positivity
  calc |q - j * 2 ^ e| = |(q / 2 ^ e - j) * 2 ^ e| := by rw [sub_mul, div_mul_cancel₀ q hpos.ne']
    _ = |q / 2 ^ e - j| * 2 ^ e := by rw [abs_mul, abs_of_pos hpos]

theorem abs_sub_rounded_le (q : ℚ) (j : ℤ) : |q - rounded q| ≤ |q - j * 2 ^ placeExponent q| := by
  rw [rounded, abs_sub_mul_zpow, abs_sub_mul_zpow]
  exact mul_le_mul_of_nonneg_right (abs_sub_halfEven_le_abs_sub _ j) (by positivity)

theorem representable_rounded (hq : 0 < q) : Representable (rounded q) := by
  have hplace := placeExponent_eq hq
  have hpos : (0 : ℚ) < 2 ^ placeExponent q := by positivity
  have hlt : q / 2 ^ placeExponent q < 2 ^ (53 : ℤ) := by
    rw [div_lt_iff₀ hpos, ← zpow_add₀ (by norm_num)]
    calc q < 2 ^ (Int.log 2 q + 1) := by exact_mod_cast Int.lt_zpow_succ_log_self (by norm_num) q
      _ ≤ 2 ^ (53 + placeExponent q) := zpow_le_zpow_right₀ (by norm_num) (by omega)
  have hhalf := abs_le.1 (abs_sub_halfEven_le (q / 2 ^ placeExponent q))
  have hnonneg : 0 < q / 2 ^ placeExponent q := div_pos hq hpos
  refine representable_mul_zpow ?_ (by omega)
  generalize halfEven (q / 2 ^ placeExponent q) = n at hhalf
  have hlow : (-1 : ℚ) < n := by linarith
  have hhigh : (n : ℚ) < 2 ^ 53 + 1 := by
    norm_num at hlt ⊢
    linarith
  have hlow' : -1 < n := by exact_mod_cast hlow
  have hhigh' : n < 2 ^ 53 + 1 := by exact_mod_cast hhigh
  rw [abs_of_nonneg (by omega)]
  omega

/-- A number with finer digits than the place of `q` is farther from `q` than the largest power of
two below it. -/
theorem abs_sub_rounded_lt (hq : 0 < q) (hs : s < 2 ^ Int.log 2 q)
    (hgrid : (2 : ℚ) ^ Int.log 2 q = (2 ^ 52 : ℤ) * 2 ^ placeExponent q) :
    |q - rounded q| < |q - s| := by
  have hlog : (2 : ℚ) ^ Int.log 2 q ≤ q := by exact_mod_cast Int.zpow_log_le_self (by norm_num) hq
  calc |q - rounded q| ≤ |q - (2 ^ 52 : ℤ) * 2 ^ placeExponent q| := abs_sub_rounded_le q (2 ^ 52)
    _ = q - 2 ^ Int.log 2 q := by rw [← hgrid, abs_of_nonneg (by linarith)]
    _ < q - s := by linarith
    _ ≤ |q - s| := le_abs_self _

theorem rounded_even {j : ℤ} (hne : j * 2 ^ placeExponent q ≠ rounded q)
    (htie : |q - j * 2 ^ placeExponent q| = |q - rounded q|) :
    ∃ k : ℤ, rounded q = 2 * k * |rounded q - j * 2 ^ placeExponent q| := by
  have hpos : (0 : ℚ) < 2 ^ placeExponent q := by positivity
  rw [rounded, abs_sub_mul_zpow, abs_sub_mul_zpow] at htie
  have hne' : j ≠ halfEven (q / 2 ^ placeExponent q) := fun hj => hne (by rw [hj, rounded])
  obtain ⟨hone, k, hk⟩ := even_halfEven_of_tie hne' (mul_right_cancel₀ hpos.ne' htie)
  refine ⟨k, ?_⟩
  rw [rounded, ← sub_mul, abs_mul, hone, one_mul, abs_of_pos hpos, hk]
  push_cast
  ring

theorem rounds_rounded (hq : 0 < q) : Rounds q (rounded q) := by
  refine ⟨representable_rounded hq, fun s hs => ?_, fun s hs hne htie => ?_⟩
  · rcases grid_or_lt hq hs with ⟨j, rfl⟩ | ⟨hlt, hgrid⟩
    · exact abs_sub_rounded_le q j
    · exact (abs_sub_rounded_lt hq hlt hgrid).le
  · rcases grid_or_lt hq hs with ⟨j, rfl⟩ | ⟨hlt, hgrid⟩
    · exact rounded_even hne htie
    · exact absurd htie (abs_sub_rounded_lt hq hlt hgrid).ne'

theorem exists_rounds (q : ℚ) : ∃ r, Rounds q r := by
  obtain hneg | rfl | hpos := lt_trichotomy q 0
  · have hround := (rounds_rounded (neg_pos.2 hneg)).neg
    rw [neg_neg] at hround
    exact ⟨_, hround⟩
  · exact ⟨0, rounds_zero⟩
  · exact ⟨_, rounds_rounded hpos⟩

theorem nearest_of_rounds (hq : 0 ≤ q) (hr : Rounds q r) :
    nearest q = if r < 2 ^ 1024 then some r else none := by
  rcases hq.eq_or_lt with rfl | hpos
  · rw [hr.unique rounds_zero, if_pos (by norm_num)]
    rfl
  · rw [nearest_eq hpos, hr.unique (rounds_rounded hpos)]

theorem nearest_eq_some_iff (hq : 0 ≤ q) : nearest q = some r ↔ Rounds q r ∧ r < 2 ^ 1024 := by
  obtain ⟨s, hs⟩ := exists_rounds q
  rw [nearest_of_rounds hq hs, Option.ite_none_right_eq_some]
  constructor
  · rintro ⟨hlt, ⟨⟩⟩
    exact ⟨hs, hlt⟩
  · rintro ⟨hr, hlt⟩
    obtain rfl := hs.unique hr
    exact ⟨hlt, rfl⟩

end Stylebook.Number
