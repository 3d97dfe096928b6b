import Mathlib
import Stylebook.Number.Decimal
import Stylebook.Proofs.Number.Rounding
import Stylebook.Proofs.Text

/-!
# The language of decimal texts

* `Digits`, `Signed`, `Mantissa`, `Exponent`, `Denotes` : the grammar of decimal texts, with the
  number that each denotes;
* `Plain` : a text and the same text in plain digits without underscores, as
  `dropUnderscores?_eq_some_iff` makes it;
* `Parts` : a text of plain digits, cut where the reader cuts it (`Parts.readPlain?_text`,
  `exists_parts`);
* `denotes_iff` : the reader accepts just the texts of the grammar, with their numbers.
-/

namespace Stylebook.Decimal

open Text

variable {b negative : Bool} {c : Char} {n k : ℕ} {s t u v : Text} {ns ms : List ℕ}
  {x : ℤ} {q : ℚ} {d : Decimal}

/-! ## The grammar -/

/-- The natural number with the given digits. -/
def numeral (ns : List ℕ) : ℕ := ns.foldl (fun n d => 10 * n + d) 0

/-- Digits of any script, with at most one underscore between two of them. -/
inductive Digits : Text → List ℕ → Prop where
  | nil : Digits [] []
  | cons {c : Char} {n : ℕ} {t : Text} {ns : List ℕ} (digit : digitValue? c = some n) (rest : Digits t ns) :
      Digits (c :: t) (n :: ns)
  | spaced {c : Char} {n m : ℕ} {t : Text} {ns : List ℕ} (digit : digitValue? c = some n) (rest : Digits t (m :: ns)) :
      Digits (c :: '_' :: t) (n :: m :: ns)

inductive Signed : Text → Bool → Prop where
  | none : Signed [] false
  | plus : Signed ['+'] false
  | minus : Signed ['-'] true

/-- Digits, or digits on at least one side of a point; the digits after the point are counted. -/
inductive Mantissa : Text → List ℕ → ℕ → Prop where
  | whole {t : Text} {ns : List ℕ} (digits : Digits t ns) (some : ns ≠ []) : Mantissa t ns 0
  | point {t u : Text} {ns ms : List ℕ} (digits : Digits t ns) (fraction : Digits u ms) (some : ns ++ ms ≠ []) :
      Mantissa (t ++ '.' :: u) (ns ++ ms) ms.length

inductive Exponent : Text → ℤ → Prop where
  | none : Exponent [] 0
  | power {c : Char} {s t : Text} {negative : Bool} {ns : List ℕ} (mark : c = 'e' ∨ c = 'E') (sign : Signed s negative)
      (digits : Digits t ns) (some : ns ≠ []) :
        Exponent (c :: (s ++ t)) (if negative then -numeral ns else numeral ns)

/-- The text is a decimal text for the number, without blanks. -/
inductive Written : Text → ℚ → Prop where
  | text {s t e : Text} {negative : Bool} {ns : List ℕ} {k : ℕ} {x : ℤ} (sign : Signed s negative)
      (mantissa : Mantissa t ns k) (exponent : Exponent e x) :
      Written (s ++ (t ++ e)) (if negative then -(numeral ns * 10 ^ (x - k)) else numeral ns * 10 ^ (x - k))

/-- The text is a decimal text for the number, with blanks around it. -/
inductive Denotes : Text → ℚ → Prop where
  | padded {before t after : Text} {q : ℚ} (blank_before : ∀ c ∈ before, isBlank c = true) (written : Written t q)
      (blank_after : ∀ c ∈ after, isBlank c = true) : Denotes (before ++ t ++ after) q

/-! ## Plain digits -/

/-- The text `u` is `t` with digits from `0` to `9` and without underscores. An underscore follows a
digit, which the flag tells at the start, and precedes one. -/
inductive Plain : Bool → Text → Text → Prop where
  | nil {b : Bool} : Plain b [] []
  | digit {b : Bool} {c : Char} {t u : Text} (decimal : isDecimal c = true) (rest : Plain true t u) :
      Plain b (c :: t) (plainDigit c :: u)
  | spaced {c : Char} {t u : Text} (decimal : isDecimal c = true) (rest : Plain true (c :: t) u) :
      Plain true ('_' :: c :: t) u
  | mark {b : Bool} {c : Char} {t u : Text} (not_decimal : isDecimal c = false) (ne : c ≠ '_') (rest : Plain false t u) :
      Plain b (c :: t) (c :: u)

theorem digitValue?_lt (h : digitValue? c = some n) : n < 10 := by
  unfold digitValue? at h
  obtain ⟨z, hz, rfl⟩ := Option.map_eq_some_iff.1 h
  have hrange := List.find?_some hz
  simp only [Bool.and_eq_true, decide_eq_true_eq] at hrange
  omega

theorem plainDigit_spec (h : digitValue? c = some n) :
    (plainDigit c).isDigit = true ∧ (plainDigit c).toNat - '0'.toNat = n := by
  have hall : ∀ n < 10, (Char.ofNat ('0'.toNat + n)).isDigit = true ∧
      (Char.ofNat ('0'.toNat + n)).toNat - '0'.toNat = n := by decide
  rw [plainDigit, h]
  exact hall n (digitValue?_lt h)

theorem toNat_plainDigit (h : isDecimal c = true) :
    (plainDigit c).toNat - '0'.toNat = (digitValue? c).getD 0 := by
  obtain ⟨n, hn⟩ := Option.isSome_iff_exists.1 h
  rw [hn, Option.getD_some]
  exact (plainDigit_spec hn).2

theorem plainDigit_of_not_isDecimal (h : isDecimal c = false) : plainDigit c = c := by
  have hnone : digitValue? c = none := Option.isSome_eq_false_iff.1 h |> Option.isNone_iff_eq_none.1
  rw [plainDigit, hnone]

theorem isDecimal_of_isDigit (h : c.isDigit = true) : isDecimal c = true := by
  simp only [Char.isDigit, Bool.and_eq_true, decide_eq_true_eq, UInt32.le_iff_toNat_le, ge_iff_le] at h
  change 48 ≤ c.toNat ∧ c.toNat ≤ 57 at h
  rw [isDecimal, digitValue?, Option.isSome_map, List.find?_isSome]
  refine ⟨0x30, by simp [digitZeros], ?_⟩
  simp only [Bool.and_eq_true, decide_eq_true_eq]
  omega

/-- The plain digits are the decimal digits of all scripts. -/
theorem isDigit_plainDigit (c : Char) : (plainDigit c).isDigit = isDecimal c := by
  cases hc : isDecimal c with
  | true =>
    obtain ⟨n, hn⟩ := Option.isSome_iff_exists.1 hc
    exact (plainDigit_spec hn).1
  | false =>
    rw [plainDigit_of_not_isDecimal hc, Bool.eq_false_iff]
    intro hdigit
    rw [isDecimal_of_isDigit hdigit] at hc
    exact absurd hc (by decide)

theorem plainDigit_ne_underscore (h : isDecimal c = true) : plainDigit c ≠ '_' := by
  intro heq
  rw [← isDigit_plainDigit, heq] at h
  exact absurd h (by decide)

theorem plainDigit_underscore : plainDigit '_' = '_' := plainDigit_of_not_isDecimal (by decide)

theorem dropUnderscores?_cons (h : c ≠ '_') (b : Bool) (t : Text) :
    dropUnderscores? b (c :: t) = (dropUnderscores? c.isDigit t).map (c :: ·) := by
  rw [dropUnderscores?, if_neg (by simpa using h)]
  rintro d rest rfl
  exact absurd rfl h

theorem dropUnderscores?_underscore (b : Bool) (c : Char) (t : Text) :
    dropUnderscores? b ('_' :: c :: t) =
      if b && c.isDigit then dropUnderscores? true (c :: t) else none := by
  rw [dropUnderscores?]
  split
  · rename_i h
    have hdigit : c.isDigit = true := (Bool.and_eq_true_iff.1 h).2
    have hne : c ≠ '_' := by
      rintro rfl
      exact absurd hdigit (by decide)
    rw [dropUnderscores?_cons hne, hdigit]
  · rfl

theorem Plain.dropUnderscores? (h : Plain b t u) :
    dropUnderscores? b (t.map plainDigit) = some u := by
  induction h with
  | nil => rfl
  | digit hc _ ih =>
    rw [List.map_cons, dropUnderscores?_cons (plainDigit_ne_underscore hc),
      isDigit_plainDigit, hc, ih, Option.map_some]
  | spaced hc _ ih =>
    rw [List.map_cons, List.map_cons, plainDigit_underscore, dropUnderscores?_underscore,
      isDigit_plainDigit, hc, ← List.map_cons, ih]
    rfl
  | mark hc hne _ ih =>
    have hplain := plainDigit_of_not_isDecimal hc
    rw [List.map_cons, dropUnderscores?_cons (hplain.symm ▸ hne), isDigit_plainDigit, hc,
      ih, hplain, Option.map_some]

theorem plain_of_dropUnderscores? (h : dropUnderscores? b (t.map plainDigit) = some u) :
    Plain b t u := by
  induction t generalizing b u with
  | nil =>
    obtain rfl : [] = u := Option.some.inj h
    exact .nil
  | cons c t ih =>
    by_cases hunder : c = '_'
    · subst hunder
      rw [List.map_cons, plainDigit_underscore] at h
      cases t with
      | nil => cases h
      | cons d t =>
        rw [List.map_cons, dropUnderscores?_underscore, isDigit_plainDigit, ← List.map_cons] at h
        obtain ⟨hbd, hdrop⟩ := Option.ite_none_right_eq_some.1 h
        obtain ⟨rfl, hd⟩ := Bool.and_eq_true_iff.1 hbd
        exact .spaced hd (ih hdrop)
    · have hne : plainDigit c ≠ '_' := by
        cases hc : isDecimal c with
        | true => exact plainDigit_ne_underscore hc
        | false => rwa [plainDigit_of_not_isDecimal hc]
      rw [List.map_cons, dropUnderscores?_cons hne, isDigit_plainDigit] at h
      obtain ⟨v, hv, rfl⟩ := Option.map_eq_some_iff.1 h
      cases hc : isDecimal c with
      | true => exact .digit hc (ih (hc ▸ hv))
      | false =>
        rw [plainDigit_of_not_isDecimal hc]
        exact .mark hc hunder (ih (hc ▸ hv))

theorem dropUnderscores?_eq_some_iff :
    dropUnderscores? b (t.map plainDigit) = some u ↔ Plain b t u :=
  ⟨plain_of_dropUnderscores?, Plain.dropUnderscores?⟩

/-! ## Cutting a text where its plain form is cut -/

theorem Plain.of_false (h : Plain false t u) : Plain b t u := by
  cases h with
  | nil => exact .nil
  | digit hc rest => exact .digit hc rest
  | mark hc hne rest => exact .mark hc hne rest

theorem Plain.append (hs : Plain b s u) (ht : Plain false t v) : Plain b (s ++ t) (u ++ v) := by
  induction hs with
  | nil => exact ht.of_false
  | digit hc _ ih => exact .digit hc ih
  | spaced hc _ ih => exact .spaced hc ih
  | mark hc hne _ ih => exact .mark hc hne ih

theorem Plain.eq_nil_iff (h : Plain b t u) : t = [] ↔ u = [] := by
  induction h with
  | nil => simp
  | digit _ _ _ => simp
  | spaced _ _ ih => simpa using ih
  | mark _ _ _ _ => simp

theorem Plain.exists_append (h : Plain b t (u ++ v)) :
    ∃ s r a, t = s ++ r ∧ Plain b s u ∧ Plain a r v := by
  generalize hw : u ++ v = w at h
  induction h generalizing u with
  | nil =>
    obtain ⟨rfl, rfl⟩ := List.append_eq_nil_iff.1 hw
    exact ⟨[], [], false, rfl, .nil, .nil⟩
  | digit hc rest ih =>
    cases u with
    | nil =>
      obtain rfl : v = _ := hw
      exact ⟨[], _, false, rfl, .nil, .digit hc rest⟩
    | cons d u =>
      obtain ⟨rfl, htail⟩ := List.cons.inj hw
      obtain ⟨s, r, a, rfl, hs, hr⟩ := ih htail
      exact ⟨_ :: s, r, a, rfl, .digit hc hs, hr⟩
  | spaced hc rest ih =>
    obtain ⟨s, r, a, heq, hs, hr⟩ := ih hw
    cases s with
    | nil =>
      obtain rfl := hs.eq_nil_iff.1 rfl
      obtain rfl : v = _ := hw
      exact ⟨[], _, true, rfl, .nil, .spaced hc rest⟩
    | cons d s =>
      obtain ⟨rfl, rfl⟩ := List.cons.inj heq
      exact ⟨'_' :: _ :: s, r, a, rfl, .spaced hc hs, hr⟩
  | mark hc hne rest ih =>
    cases u with
    | nil =>
      obtain rfl : v = _ := hw
      exact ⟨[], _, false, rfl, .nil, .mark hc hne rest⟩
    | cons d u =>
      obtain ⟨rfl, htail⟩ := List.cons.inj hw
      obtain ⟨s, r, a, rfl, hs, hr⟩ := ih htail
      exact ⟨_ :: s, r, a, rfl, .mark hc hne hs, hr⟩

/-- A character that is no digit is its own plain form. -/
theorem Plain.exists_cons (h : Plain b t (c :: u)) (hc : c.isDigit = false) :
    ∃ r, t = c :: r ∧ Plain false r u := by
  have not_plainDigit : ∀ d, isDecimal d = true → plainDigit d ≠ c := by
    rintro d hd rfl
    rw [isDigit_plainDigit, hd] at hc
    exact absurd hc (by decide)
  generalize hw : c :: u = w at h
  cases h with
  | nil => cases hw
  | digit hd _ => exact absurd (List.cons.inj hw).1.symm (not_plainDigit _ hd)
  | mark _ _ rest =>
    obtain ⟨rfl, rfl⟩ := List.cons.inj hw
    exact ⟨_, rfl, rest⟩
  | spaced hd rest =>
    cases rest with
    | digit hd _ => exact absurd (List.cons.inj hw).1.symm (not_plainDigit _ hd)
    | spaced _ _ => exact absurd hd (by decide)
    | mark hnot _ _ => exact absurd hd (by simp [hnot])

/-! ## Signs and digits in plain form -/

theorem Signed.plain (hs : Signed s negative) (ht : Plain false t u) :
    Plain false (s ++ t) (s ++ u) := by
  cases hs with
  | none => exact ht
  | plus => exact .mark (by decide) (by decide) ht
  | minus => exact .mark (by decide) (by decide) ht

theorem Signed.exists_append (hs : Signed s negative) (h : Plain false t (s ++ u)) :
    ∃ r, t = s ++ r ∧ Plain false r u := by
  cases hs with
  | none => exact ⟨t, rfl, h⟩
  | plus => exact h.exists_cons (by decide)
  | minus => exact h.exists_cons (by decide)

def plainValue (c : Char) : ℕ := c.toNat - '0'.toNat

theorem ofDigits_eq_numeral (u : Text) : ofDigits u = numeral (u.map plainValue) := by
  rw [ofDigits, numeral, List.foldl_map]
  rfl

theorem Digits.exists_plain (h : Digits t ns) :
    ∃ u, (∀ b, Plain b t u) ∧ (∀ c ∈ u, c.isDigit = true) ∧ u.map plainValue = ns := by
  induction h with
  | nil => exact ⟨[], fun _ => .nil, by simp, rfl⟩
  | @cons c n _ _ hn _ ih =>
    obtain ⟨u, hplain, hdigits, rfl⟩ := ih
    obtain ⟨hdigit, hvalue⟩ := plainDigit_spec hn
    refine ⟨plainDigit c :: u, fun b => .digit (Option.isSome_of_eq_some hn) (hplain true), ?_, ?_⟩
    · exact List.forall_mem_cons.2 ⟨hdigit, hdigits⟩
    · rw [List.map_cons, plainValue, hvalue]
  | @spaced c n _ _ _ hn rest ih =>
    obtain ⟨u, hplain, hdigits, hvalues⟩ := ih
    obtain ⟨hdigit, hvalue⟩ := plainDigit_spec hn
    refine ⟨plainDigit c :: u, fun b => .digit (Option.isSome_of_eq_some hn) ?_, ?_, ?_⟩
    · cases rest with
      | cons hm _ => exact .spaced (Option.isSome_of_eq_some hm) (hplain true)
      | spaced hm _ => exact .spaced (Option.isSome_of_eq_some hm) (hplain true)
    · exact List.forall_mem_cons.2 ⟨hdigit, hdigits⟩
    · rw [List.map_cons, plainValue, hvalue, hvalues]

/-- After a digit the text may go on with an underscore, which the flag allows. -/
theorem Plain.digits_or (h : Plain b t u) (hu : ∀ c ∈ u, c.isDigit = true) :
    Digits t (u.map plainValue) ∨ b = true ∧ u ≠ [] ∧ ∃ r, t = '_' :: r ∧
      Digits r (u.map plainValue) := by
  induction h with
  | nil => exact .inl .nil
  | digit hc _ ih =>
    obtain ⟨n, hn⟩ := Option.isSome_iff_exists.1 hc
    obtain ⟨-, hu⟩ := List.forall_mem_cons.1 hu
    rw [List.map_cons, plainValue, (plainDigit_spec hn).2]
    obtain hrest | ⟨-, hne, r, rfl, hrest⟩ := ih hu
    · exact .inl (.cons hn hrest)
    · obtain ⟨d, v, rfl⟩ := List.exists_cons_of_ne_nil hne
      exact .inl (.spaced hn hrest)
  | @spaced c t _ hc rest ih =>
    have hne := mt rest.eq_nil_iff.2 (List.cons_ne_nil c t)
    obtain hrest | ⟨-, -, r, heq, -⟩ := ih hu
    · exact .inr ⟨rfl, hne, _, rfl, hrest⟩
    · obtain ⟨rfl, -⟩ := List.cons.inj heq
      exact absurd hc (by decide)
  | mark hc _ _ _ =>
    obtain ⟨hdigit, -⟩ := List.forall_mem_cons.1 hu
    rw [isDecimal_of_isDigit hdigit] at hc
    exact absurd hc (by decide)

theorem Plain.digits (h : Plain false t u) (hu : ∀ c ∈ u, c.isDigit = true) :
    Digits t (u.map plainValue) := by
  obtain hdigits | ⟨hfalse, -⟩ := h.digits_or hu
  · exact hdigits
  · exact absurd hfalse (by decide)

/-! ## The parts of a plain text -/

theorem exists_signed (t : Text) : ∃ s, Signed s (readSign t).1 ∧ t = s ++ (readSign t).2 := by
  unfold readSign
  split
  · exact ⟨['-'], .minus, rfl⟩
  · exact ⟨['+'], .plus, rfl⟩
  · exact ⟨[], .none, rfl⟩

theorem readSign_append (hs : Signed s negative) (ht : ∀ c ∈ t.head?, c ≠ '-' ∧ c ≠ '+') :
    readSign (s ++ t) = (negative, t) := by
  cases hs with
  | plus => rfl
  | minus => rfl
  | none =>
    rw [List.nil_append, readSign]
    · rintro r rfl
      exact (ht '-' rfl).1 rfl
    · rintro r rfl
      exact (ht '+' rfl).2 rfl

theorem takeWhile_digits (hu : ∀ c ∈ u, c.isDigit = true) (hv : ∀ c ∈ v.head?, c.isDigit = false) :
    (u ++ v).takeWhile Char.isDigit = u := by
  rw [List.takeWhile_append_of_pos hu]
  cases v with
  | nil => simp
  | cons c v => rw [List.takeWhile_cons_of_neg (by simp [hv c rfl]), List.append_nil]

theorem dropWhile_digits (hu : ∀ c ∈ u, c.isDigit = true) (hv : ∀ c ∈ v.head?, c.isDigit = false) :
    (u ++ v).dropWhile Char.isDigit = v := by
  rw [List.dropWhile_append_of_pos hu]
  cases v with
  | nil => rfl
  | cons c v => rw [List.dropWhile_cons_of_neg (by simp [hv c rfl])]

theorem readExponent?_power (hc : c = 'e' ∨ c = 'E') (hs : Signed s negative)
    (ht : ∀ c ∈ t, c.isDigit = true) (hne : t ≠ []) :
    readExponent? (c :: (s ++ t)) = some (if negative then -(ofDigits t : ℤ) else ofDigits t) := by
  have hsign : readSign (s ++ t) = (negative, t) := by
    refine readSign_append hs fun d hd => ?_
    have hdigit := ht d (List.mem_of_mem_head? hd)
    constructor <;> rintro rfl <;> exact absurd hdigit (by decide)
  have hmark : (c == 'e' || c == 'E') = true := by simpa using hc
  have hdigits : (!t.isEmpty && t.all Char.isDigit) = true := by simpa [hne] using ht
  rw [readExponent?, if_pos hmark, hsign]
  exact if_pos hdigits

theorem readExponent?_eq_some (h : readExponent? u = some x) :
    u = [] ∧ x = 0 ∨ ∃ c s negative t, u = c :: (s ++ t) ∧ (c = 'e' ∨ c = 'E') ∧ Signed s negative ∧
      (∀ c ∈ t, c.isDigit = true) ∧ t ≠ [] ∧
      x = if negative then -(ofDigits t : ℤ) else ofDigits t := by
  cases u with
  | nil => exact .inl ⟨rfl, (Option.some.inj h).symm⟩
  | cons c u =>
    rw [readExponent?] at h
    obtain ⟨hmark, h⟩ := Option.ite_none_right_eq_some.1 h
    obtain ⟨hdigits, hx⟩ := Option.ite_none_right_eq_some.1 h
    obtain ⟨s, hs, hu⟩ := exists_signed u
    refine .inr ⟨c, s, _, _, congrArg (c :: ·) hu, by simpa using hmark, hs, ?_, ?_, (Option.some.inj hx).symm⟩
    · exact List.all_eq_true.1 (Bool.and_eq_true_iff.1 hdigits).2
    · exact List.isEmpty_eq_false_iff.1 (Bool.not_eq_true' _ ▸ (Bool.and_eq_true_iff.1 hdigits).1)

/-- A decimal text of plain digits, cut where it is read. -/
structure Parts where
  sign : Text
  negative : Bool
  whole : Text
  /-- The digits after the point, if there is one. -/
  fraction : Option Text
  exponent : Text
  power : ℤ
  signed : Signed sign negative
  digits : ∀ c ∈ whole ++ fraction.getD [], c.isDigit = true
  ne_nil : whole ++ fraction.getD [] ≠ []
  read_exponent : readExponent? exponent = some power

namespace Parts

def point (p : Parts) : Text := p.fraction.elim [] ('.' :: ·)

def text (p : Parts) : Text := p.sign ++ (p.whole ++ (p.point ++ p.exponent))

def decimal (p : Parts) : Decimal where
  negative := p.negative
  digits := ofDigits (p.whole ++ p.fraction.getD [])
  exponent := p.power - (p.fraction.getD []).length

variable {p : Parts}

theorem head_exponent (hc : c ∈ p.exponent.head?) : c.isDigit = false ∧ c ≠ '.' := by
  obtain ⟨hnil, -⟩ | ⟨d, s, negative, t, heq, hd, -⟩ := readExponent?_eq_some p.read_exponent
  · rw [hnil] at hc
    cases hc
  · rw [heq] at hc
    obtain rfl : d = c := Option.some.inj hc
    obtain rfl | rfl := hd <;> decide

theorem readFraction_point (p : Parts) :
    readFraction (p.point ++ p.exponent) = (p.fraction.getD [], p.exponent) := by
  have hstop : ∀ c ∈ p.exponent.head?, c.isDigit = false := fun c hc => (head_exponent hc).1
  cases hf : p.fraction with
  | none =>
    rw [point, hf]
    change readFraction p.exponent = ([], p.exponent)
    rw [readFraction]
    intro rest heq
    exact (head_exponent (c := '.') (by rw [heq]; rfl)).2 rfl
  | some f =>
    have hdigits : ∀ c ∈ f, c.isDigit = true :=
      fun c hc => p.digits c (List.mem_append_right _ (by rw [hf]; exact hc))
    rw [point, hf]
    change readFraction ('.' :: (f ++ p.exponent)) = (f, p.exponent)
    rw [readFraction, takeWhile_digits hdigits hstop, dropWhile_digits hdigits hstop]

theorem head_point (hc : c ∈ (p.point ++ p.exponent).head?) : c.isDigit = false := by
  cases hf : p.fraction with
  | none =>
    rw [point, hf] at hc
    exact (head_exponent hc).1
  | some f =>
    rw [point, hf] at hc
    obtain rfl : '.' = c := Option.some.inj hc
    decide

theorem head_whole (hc : c ∈ (p.whole ++ (p.point ++ p.exponent)).head?) : c ≠ '-' ∧ c ≠ '+' := by
  cases hw : p.whole with
  | nil =>
    cases hf : p.fraction with
    | none => exact absurd (by rw [hw, hf]; rfl) p.ne_nil
    | some f =>
      rw [hw, point, hf] at hc
      obtain rfl : '.' = c := Option.some.inj hc
      decide
  | cons d w =>
    have hdigit := p.digits d (by simp [hw])
    rw [hw] at hc
    obtain rfl : d = c := Option.some.inj hc
    constructor <;> rintro rfl <;> exact absurd hdigit (by decide)

theorem readPlain?_text (p : Parts) : readPlain? p.text = some p.decimal := by
  have hwhole : ∀ c ∈ p.whole, c.isDigit = true :=
    fun c hc => p.digits c (List.mem_append_left _ hc)
  have hsign : readSign p.text = (p.negative, p.whole ++ (p.point ++ p.exponent)) :=
    readSign_append p.signed fun _ => head_whole
  rw [readPlain?, hsign]
  dsimp only
  rw [takeWhile_digits hwhole fun _ => head_point, dropWhile_digits hwhole fun _ => head_point,
    readFraction_point, if_neg (by simpa using p.ne_nil), p.read_exponent]
  rfl

end Parts

/-- What is read for a fraction is the digits after a point, if there is one. -/
theorem exists_fraction (u : Text) : ∃ f : Option Text, (readFraction u).1 = f.getD [] ∧
    u = f.elim [] ('.' :: ·) ++ (readFraction u).2 ∧ ∀ c ∈ f.getD [], c.isDigit = true := by
  unfold readFraction
  split
  · rename_i rest
    refine ⟨some (rest.takeWhile Char.isDigit), rfl, ?_, fun c hc => List.mem_takeWhile_imp hc⟩
    exact congrArg ('.' :: ·) List.takeWhile_append_dropWhile.symm
  · exact ⟨none, rfl, rfl, by simp⟩

theorem exists_parts (h : readPlain? u = some d) : ∃ p : Parts, p.text = u ∧ p.decimal = d := by
  obtain ⟨s, hs, hu⟩ := exists_signed u
  obtain ⟨f, hf, hrest, hdigits⟩ := exists_fraction ((readSign u).2.dropWhile Char.isDigit)
  rw [readPlain?] at h
  dsimp only at h
  rw [hf] at h
  obtain ⟨hne, hexp⟩ := Option.ite_none_left_eq_some.1 h
  obtain ⟨x, hx, rfl⟩ := Option.map_eq_some_iff.1 hexp
  refine ⟨⟨s, _, _, f, _, x, hs, ?_, by simpa using hne, hx⟩, ?_, rfl⟩
  · exact List.forall_mem_append.2 ⟨fun c hc => List.mem_takeWhile_imp hc, hdigits⟩
  · change s ++ (_ ++ (f.elim [] ('.' :: ·) ++ _)) = u
    rw [← hrest, List.takeWhile_append_dropWhile, ← hu]

/-! ## The grammar and the reader -/

theorem Plain.exponent (h : Plain b t u) (hu : readExponent? u = some x) : Exponent t x := by
  obtain ⟨rfl, rfl⟩ | ⟨c, s, negative, v, rfl, hc, hs, hv, hne, rfl⟩ := readExponent?_eq_some hu
  · rw [h.eq_nil_iff.2 rfl]
    exact .none
  · have hmark : c.isDigit = false := by obtain rfl | rfl := hc <;> decide
    obtain ⟨r, rfl, hr⟩ := h.exists_cons hmark
    obtain ⟨t, rfl, ht⟩ := hs.exists_append hr
    rw [ofDigits_eq_numeral]
    exact .power hc hs (ht.digits hv) (by simpa using hne)

theorem Exponent.exists_plain (h : Exponent t x) :
    ∃ u, Plain false t u ∧ readExponent? u = some x := by
  cases h with
  | none => exact ⟨[], .nil, rfl⟩
  | @power c s t negative ns hc hs ht hne =>
    obtain ⟨u, hplain, hdigits, rfl⟩ := ht.exists_plain
    refine ⟨c :: (s ++ u), ?_, ?_⟩
    · obtain rfl | rfl := hc <;> exact .mark (by decide) (by decide) (hs.plain (hplain false))
    · rw [readExponent?_power hc hs hdigits (by simpa using hne), ofDigits_eq_numeral]

theorem Mantissa.ne_nil (h : Mantissa t ns k) : ns ≠ [] := by
  cases h with
  | whole _ hne => exact hne
  | point _ _ hne => exact hne

theorem Mantissa.exists_plain (h : Mantissa t ns k) : ∃ (w : Text) (f : Option Text),
    Plain false t (w ++ f.elim [] ('.' :: ·)) ∧ (∀ c ∈ w ++ f.getD [], c.isDigit = true) ∧
      (w ++ f.getD []).map plainValue = ns ∧ (f.getD []).length = k := by
  cases h with
  | whole digits _ =>
    obtain ⟨w, hw, hdigits, rfl⟩ := digits.exists_plain
    refine ⟨w, none, ?_, ?_, ?_, rfl⟩
    · exact (List.append_nil w).symm ▸ hw false
    · exact (List.append_nil w).symm ▸ hdigits
    · exact congrArg (List.map plainValue) (List.append_nil w)
  | point digits fraction _ =>
    obtain ⟨w, hw, hwhole, rfl⟩ := digits.exists_plain
    obtain ⟨f, hf, hfraction, rfl⟩ := fraction.exists_plain
    refine ⟨w, some f, ?_, List.forall_mem_append.2 ⟨hwhole, hfraction⟩,
      List.map_append, (List.length_map _).symm⟩
    exact (hw false).append (.mark (by decide) (by decide) (hf false))

theorem magnitude_eq (d : Decimal) : d.magnitude = d.digits * 10 ^ d.exponent := by
  rw [magnitude, Number.scaled_eq]
  rfl

namespace Parts

theorem exists_mantissa (p : Parts) (h : Plain false t (p.whole ++ (p.point ++ p.exponent))) :
    ∃ m e a, t = m ++ e ∧ Mantissa m ((p.whole ++ p.fraction.getD []).map plainValue)
      (p.fraction.getD []).length ∧ Plain a e p.exponent := by
  obtain ⟨hwhole, hfraction⟩ := List.forall_mem_append.1 p.digits
  have hne : (p.whole ++ p.fraction.getD []).map plainValue ≠ [] :=
    mt List.map_eq_nil_iff.1 p.ne_nil
  obtain ⟨w, r, a, rfl, hw, hr⟩ := h.exists_append
  cases hf : p.fraction with
  | none =>
    rw [point, hf] at hr
    rw [hf, Option.getD_none, List.append_nil] at hne
    refine ⟨w, r, a, rfl, ?_, hr⟩
    rw [Option.getD_none, List.append_nil]
    exact .whole (hw.digits hwhole) hne
  | some f =>
    rw [point, hf] at hr
    rw [hf] at hfraction
    rw [hf, Option.getD_some, List.map_append] at hne
    obtain ⟨tail, rfl, htail⟩ := Plain.exists_cons hr (by decide)
    obtain ⟨g, e, a, rfl, hg, he⟩ := Plain.exists_append htail
    refine ⟨w ++ '.' :: g, e, a, by simp, ?_, he⟩
    rw [Option.getD_some, List.map_append, ← List.length_map (f := plainValue)]
    exact .point (hw.digits hwhole) (hg.digits hfraction) hne

theorem value_decimal (p : Parts) : p.decimal.value =
    if p.negative then -(numeral ((p.whole ++ p.fraction.getD []).map plainValue) *
        10 ^ (p.power - (p.fraction.getD []).length) : ℚ)
      else numeral ((p.whole ++ p.fraction.getD []).map plainValue) * 10 ^ (p.power - (p.fraction.getD []).length) := by
  rw [value, magnitude_eq, ← ofDigits_eq_numeral]
  rfl

theorem written (p : Parts) (h : Plain false t p.text) : Written t p.decimal.value := by
  obtain ⟨r, rfl, hr⟩ := p.signed.exists_append h
  obtain ⟨m, e, a, rfl, hm, he⟩ := p.exists_mantissa hr
  rw [value_decimal]
  exact .text p.signed hm (he.exponent p.read_exponent)

end Parts

theorem Written.exists_parts (h : Written t q) :
    ∃ p : Parts, Plain false t p.text ∧ p.decimal.value = q := by
  cases h with
  | @text s m e negative ns k x hs hm he =>
    obtain ⟨w, f, hplain, hdigits, rfl, rfl⟩ := hm.exists_plain
    obtain ⟨v, hv, hx⟩ := he.exists_plain
    let p : Parts := ⟨s, negative, w, f, v, x, hs, hdigits, mt (congrArg (List.map plainValue)) hm.ne_nil, hx⟩
    refine ⟨p, ?_, p.value_decimal⟩
    have htext : p.text = s ++ ((w ++ f.elim [] ('.' :: ·)) ++ v) := by rw [List.append_assoc]; rfl
    rw [htext]
    exact hs.plain (hplain.append hv)

theorem not_isBlank_of_isDecimal (h : isDecimal c = true) : isBlank c = false := by
  have hall : digitZeros.all (fun z => (List.range 10).all fun k => !isBlank (Char.ofNat (z + k))) =
    true := by decide
  rw [isDecimal, digitValue?, Option.isSome_map, List.find?_isSome] at h
  obtain ⟨z, hz, hrange⟩ := h
  simp only [Bool.and_eq_true, decide_eq_true_eq] at hrange
  have hc := List.all_eq_true.1 (List.all_eq_true.1 hall z hz) (c.toNat - z)
    (List.mem_range.2 (by omega))
  rw [Nat.add_sub_cancel' hrange.1, Char.ofNat_toNat] at hc
  simpa using hc

theorem Digits.not_blank (h : Digits t ns) : ∀ c ∈ t, isBlank c = false := by
  induction h with
  | nil => simp
  | cons hn _ ih => exact List.forall_mem_cons.2 ⟨not_isBlank_of_isDecimal (Option.isSome_of_eq_some hn), ih⟩
  | spaced hn _ ih =>
    refine List.forall_mem_cons.2 ⟨not_isBlank_of_isDecimal (Option.isSome_of_eq_some hn), ?_⟩
    exact List.forall_mem_cons.2 ⟨by decide, ih⟩

theorem Signed.not_blank (h : Signed s negative) : ∀ c ∈ s, isBlank c = false := by
  cases h with
  | none => simp
  | plus => exact List.forall_mem_singleton.2 (by decide)
  | minus => exact List.forall_mem_singleton.2 (by decide)

theorem Mantissa.isWord (h : Mantissa t ns k) : IsWord t := by
  cases h with
  | whole digits hne =>
    refine ⟨?_, digits.not_blank⟩
    rintro rfl
    cases digits
    exact hne rfl
  | point digits fraction _ =>
    refine ⟨by simp, List.forall_mem_append.2 ⟨digits.not_blank, ?_⟩⟩
    exact List.forall_mem_cons.2 ⟨by decide, fraction.not_blank⟩

theorem Exponent.not_blank (h : Exponent t x) : ∀ c ∈ t, isBlank c = false := by
  cases h with
  | none => simp
  | power mark sign digits _ =>
    refine List.forall_mem_cons.2 ⟨?_, List.forall_mem_append.2 ⟨sign.not_blank, digits.not_blank⟩⟩
    obtain rfl | rfl := mark <;> decide

theorem Written.isWord (h : Written t q) : IsWord t := by
  cases h with
  | text sign mantissa exponent =>
    refine ⟨by simp [mantissa.isWord.ne_nil], List.forall_mem_append.2 ⟨sign.not_blank, ?_⟩⟩
    exact List.forall_mem_append.2 ⟨mantissa.isWord.no_blank, exponent.not_blank⟩

theorem read?_eq_some_iff :
    read? t = some d ↔ ∃ p : Parts, Plain false (trim t) p.text ∧ p.decimal = d := by
  rw [read?, Option.bind_eq_some_iff]
  constructor
  · rintro ⟨u, hu, hd⟩
    obtain ⟨p, rfl, rfl⟩ := Decimal.exists_parts hd
    exact ⟨p, dropUnderscores?_eq_some_iff.1 hu, rfl⟩
  · rintro ⟨p, hp, rfl⟩
    exact ⟨p.text, dropUnderscores?_eq_some_iff.2 hp, p.readPlain?_text⟩

/-- The reader accepts the texts of the grammar, each with the number that it denotes, and no
others. -/
theorem denotes_iff : Denotes t q ↔ ∃ d, read? t = some d ∧ d.value = q := by
  constructor
  · rintro ⟨hbefore, written, hafter⟩
    obtain ⟨p, hp, hq⟩ := written.exists_parts
    refine ⟨p.decimal, read?_eq_some_iff.2 ⟨p, ?_, rfl⟩, hq⟩
    rwa [List.append_assoc, trim_append_of_blank hbefore, trim, written.isWord.trimStart_append,
      trimEnd_append_of_blank _ hafter, written.isWord.trimEnd]
  · rintro ⟨d, hd, rfl⟩
    obtain ⟨p, hp, rfl⟩ := read?_eq_some_iff.1 hd
    obtain ⟨before, hstart, hbefore⟩ := trimStart_prefix_split t
    obtain ⟨after, hend, hafter⟩ := trimEnd_suffix_split (trimStart t)
    have ht : t = before ++ trim t ++ after := by
      rw [List.append_assoc, trim, ← hend]
      exact hstart
    rw [ht]
    exact .padded hbefore (p.written hp) hafter

end Stylebook.Decimal
