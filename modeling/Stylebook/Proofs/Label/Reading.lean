import Stylebook.Proofs.Label.Extraction
import Stylebook.Proofs.Text.Case

/-!
# Labels at the start of a text

A label is any text: it may hold colons, and blanks may stand at its ends, so more than one division
of a text into blanks, label and rest has to be looked at.

* `Reading.stop` : where the label ends in a reading of a text;
* `SpellsExactly.count_colon` : a label has its colons in any spelling. `Reading.eq_of_exact`, from
  it : no two readings spell a label letter by letter, since the colons up to the end of the label
  can be counted;
* `afterExact?_eq_some_iff`, `afterLoose?_eq_some_iff` : a label is found exactly where there is a
  reading. Misspelt, it may have several, which differ in the blanks before it only;
* `isLoose_iff` : the characters of a misspelt label.
-/

namespace Stylebook.Label

open Text

variable {label t : Text} {spelling : Text → Prop}

/-- Where the label ends: after the colon, or after the blank that follows it. -/
def Reading.stop (r : Reading spelling t) : Nat :=
  r.blanks.length + r.written.length + 1 + if r.rest.head?.any isBlank then 1 else 0

theorem length_dropBlank (t : Text) :
    t.length = (if t.head?.any isBlank then 1 else 0) + (dropBlank t).length := by
  cases t with
  | nil => rfl
  | cons c t =>
    by_cases hc : isBlank c = true
    · simp [dropBlank, hc, Nat.add_comm]
    · simp [dropBlank, hc]

/-- Up to its end a label takes up all that does not follow it. -/
theorem Reading.stop_eq (r : Reading spelling t) :
    t.length - (dropBlank r.rest).length = r.stop := by
  have hrest := length_dropBlank r.rest
  have hsplit := congrArg List.length r.split
  simp only [List.length_append, List.length_cons] at hsplit
  unfold stop
  omega

/-! ## Labels in any case -/

theorem isBlank_colon : isBlank ':' = false := by decide

/-- The colon has one case only. -/
theorem eq_colon_iff_of_sameLetter {p c : Char} (h : sameLetter p c = true) :
    p = ':' ↔ c = ':' := by
  have hcolon : ∀ {d}, sameLetter ':' d = true ↔ d = ':' :=
    sameLetter_iff_of_not_alpha (by decide) (by decide)
  constructor
  · rintro rfl
    exact hcolon.1 h
  · rintro rfl
    rw [sameLetter, BEq.comm] at h
    exact hcolon.1 h

/-- A label has its colons in any spelling. -/
theorem SpellsExactly.count_colon {written : Text} (h : SpellsExactly label written) :
    label.count ':' = written.count ':' := by
  induction h with
  | nil => rfl
  | cons hpc _ ih =>
    have hcolon := eq_colon_iff_of_sameLetter hpc
    simp only [List.count_cons, ih, beq_iff_eq, hcolon]

namespace Reading

variable (r r' : Reading (SpellsExactly label) t)

theorem count_blanks : r.blanks.count ':' = 0 := by
  rw [List.count_eq_zero]
  intro hmem
  exact absurd (r.blank ':' hmem) (by simp [isBlank_colon])

/-- With fewer blanks before it, one label with its colon would lie before the colon of the other
one. -/
theorem length_blanks_le : r'.blanks.length ≤ r.blanks.length := by
  by_contra hlt
  have hlength := r.spelled.length_eq
  have hlength' := r'.spelled.length_eq
  have hwhole : r.blanks ++ r.written ++ [':'] <+: t := ⟨r.rest, by simpa using r.split.symm⟩
  have hfront : r'.blanks ++ r'.written <+: t := ⟨':' :: r'.rest, r'.split.symm⟩
  have hprefix : r.blanks ++ r.written ++ [':'] <+: r'.blanks ++ r'.written := by
    refine List.prefix_of_prefix_length_le hwhole hfront ?_
    simp only [List.length_append, List.length_singleton]
    omega
  have hcount := hprefix.sublist.count_le ':'
  simp only [List.count_append, count_blanks, List.count_singleton_self, ← r.spelled.count_colon,
    ← r'.spelled.count_colon] at hcount
  omega

/-- A text is read in one way as a label in any case. -/
theorem eq_of_exact : r = r' := by
  have hblanks : r.blanks.length = r'.blanks.length :=
    Nat.le_antisymm (length_blanks_le r' r) (length_blanks_le r r')
  have hwritten : r.written.length = r'.written.length :=
    r.spelled.length_eq.symm.trans r'.spelled.length_eq
  have hsplit := r.split.symm.trans r'.split
  rw [List.append_assoc, List.append_assoc] at hsplit
  obtain ⟨hb, hsplit⟩ := List.append_inj hsplit hblanks
  obtain ⟨hw, hrest⟩ := List.append_inj hsplit hwritten
  exact Reading.ext hb hw (List.cons.inj hrest).2

end Reading

/-- Blanks are passed one by one as long as the label is not found, so it is found before its own
blanks are passed. -/
theorem exists_afterExact? {blanks written : Text} (hblanks : ∀ c ∈ blanks, isBlank c = true)
    (hwritten : SpellsExactly label written) (rest : Text) :
    ∃ found, afterExact? label (blanks ++ written ++ ':' :: rest) = some found := by
  induction blanks with
  | nil => exact ⟨_, afterExact?_of_afterHere? (afterHere?_of_forall₂ hwritten rest)⟩
  | cons b blanks ih =>
    rw [List.forall_mem_cons] at hblanks
    rw [List.cons_append, List.cons_append, afterExact?]
    split
    · rename_i found _
      exact ⟨found, rfl⟩
    · rw [if_pos hblanks.1]
      exact ih hblanks.2

theorem afterExact?_eq_some_iff {rest : Text} :
    afterExact? label t = some rest ↔ ∃ r : Reading (SpellsExactly label) t,
      dropBlank r.rest = rest := by
  constructor
  · exact exists_reading_of_afterExact?
  · rintro ⟨r, rfl⟩
    obtain ⟨found, hfound⟩ := exists_afterExact? r.blank r.spelled r.rest
    rw [← r.split] at hfound
    obtain ⟨r', rfl⟩ := exists_reading_of_afterExact? hfound
    rw [hfound, r'.eq_of_exact r]

/-! ## Misspelt labels -/

theorem isLoose_iff (c : Char) :
    isLoose c = true ↔ c = ' ' ∨ c.isAlpha = true ∨ c ∈ strayLetters := by
  have hkelvin : c.toNat = 0x212a ↔ c = '\u212a' := by
    rw [← Char.toNat_inj]
    rfl
  simp only [isLoose, strayLetters, Bool.or_eq_true, beq_iff_eq, hkelvin, List.mem_cons,
    List.not_mem_nil, or_false, or_assoc]

theorem isLoose_colon : isLoose ':' = false := by decide

/-- Blanks before a misspelt label may count as its own or not: they are trimmed away in both
cases. -/
theorem afterLoose?_reading {k : Matcher} (r : Reading (SpellsLoosely k label) t) :
    afterLoose? k label t = some (dropBlank r.rest) := by
  have hstart : trimStart t = trimStart r.written ++ ':' :: r.rest := by
    conv_lhs => rw [r.split]
    rw [List.append_assoc, trimStart_append_of_blank r.blank, trimStart_append_cons _ isBlank_colon]
  have hloose : ∀ c ∈ trimStart r.written, isLoose c = true := fun c hc =>
    r.spelled.1 c ((List.dropWhile_suffix isBlank).subset hc)
  have htake : (trimStart t).takeWhile isLoose = trimStart r.written := by
    rw [hstart, List.takeWhile_append_of_pos hloose, List.takeWhile_cons_of_neg (by simp [isLoose_colon]),
      List.append_nil]
  have hdrop : (trimStart t).dropWhile isLoose = ':' :: r.rest := by
    rw [hstart, List.dropWhile_append_of_pos hloose, List.dropWhile_cons_of_neg (by simp [isLoose_colon])]
  have halike : k.alike (trim (trimStart r.written)) label = true := by
    rw [trim, trimStart_trimStart]
    exact r.spelled.2
  unfold afterLoose?
  dsimp only
  rw [hdrop, htake]
  exact if_pos halike

theorem afterLoose?_eq_some_iff {k : Matcher} {rest : Text} :
    afterLoose? k label t = some rest ↔ ∃ r : Reading (SpellsLoosely k label) t,
      dropBlank r.rest = rest := by
  constructor
  · exact exists_reading_of_afterLoose?
  · rintro ⟨r, rfl⟩
    exact afterLoose?_reading r

/-! ## Both together -/

theorem after?_none (label t : Text) : after? none label t = afterExact? label t := by
  unfold after?
  split
  · rename_i rest hrest
    exact hrest.symm
  · rename_i hnone
    exact hnone.symm

theorem after?_some_of_exact (k : Matcher) (r : Reading (SpellsExactly label) t) :
    after? (some k) label t = afterExact? label t := by
  unfold after?
  rw [afterExact?_eq_some_iff.2 ⟨r, rfl⟩]

theorem after?_some_of_not_exact (k : Matcher) (h : IsEmpty (Reading (SpellsExactly label) t)) :
    after? (some k) label t = afterLoose? k label t := by
  have hnone : afterExact? label t = none := by
    rw [Option.eq_none_iff_forall_not_mem]
    intro rest hrest
    obtain ⟨r, -⟩ := afterExact?_eq_some_iff.1 hrest
    exact h.elim r
  unfold after?
  rw [hnone, Option.bind_some]

/-- What follows a label begins where the label ends. -/
theorem after?_eq_drop (m : Option Matcher) (label t : Text) :
    after? m label t = (length? m label t).map fun n => t.drop n := by
  unfold length?
  cases h : after? m label t with
  | none => rfl
  | some rest =>
    obtain ⟨head, rfl, -⟩ := after?_eq_some h
    simp

theorem length?_eq_some_iff {m : Option Matcher}
    (h : ∀ rest, after? m label t = some rest ↔ ∃ r : Reading spelling t, dropBlank r.rest = rest)
    (n : Nat) : length? m label t = some n ↔ ∃ r : Reading spelling t, r.stop = n := by
  simp only [length?, Option.map_eq_some_iff, h]
  constructor
  · rintro ⟨_, ⟨r, rfl⟩, rfl⟩
    exact ⟨r, r.stop_eq.symm⟩
  · rintro ⟨r, rfl⟩
    exact ⟨dropBlank r.rest, ⟨r, rfl⟩, r.stop_eq⟩

/-- A label is found exactly where the text reads as blanks, the label in any case, and a colon.
There is one such reading at most, and it tells where the label ends. A matcher changes nothing
there. Elsewhere it lets the label be found exactly where the text reads as blanks, a text of spaces
and letters that it accepts, and a colon. Letters are those of ASCII, and the four others that equal
one of them up to case. -/
theorem length?_by_readings (label t : Text) :
    (∀ n, length? none label t = some n ↔ ∃ r : Reading (SpellsExactly label) t, r.stop = n) ∧
      (∀ r r' : Reading (SpellsExactly label) t, r = r') ∧
      (∀ k, Nonempty (Reading (SpellsExactly label) t) → length? (some k) label t = length? none label t) ∧
      (∀ k, IsEmpty (Reading (SpellsExactly label) t) →
        ∀ n, length? (some k) label t = some n ↔
          ∃ r : Reading (SpellsLoosely k label) t, r.stop = n) ∧
      (∀ m, after? m label t = (length? m label t).map fun n => t.drop n) ∧
      (∀ c, isLoose c = true ↔ c = ' ' ∨ c.isAlpha = true ∨ c ∈ strayLetters) ∧
      ∀ c, c ∈ strayLetters ↔ 128 ≤ c.toNat ∧ ∃ a : Char, a.isAlpha = true ∧
        sameLetter a c = true := by
  refine ⟨?_, Reading.eq_of_exact, ?_, ?_, fun m => after?_eq_drop m label t, isLoose_iff,
    fun c => mem_strayLetters_iff⟩
  · apply length?_eq_some_iff
    intro rest
    rw [after?_none, afterExact?_eq_some_iff]
  · rintro k ⟨r⟩
    unfold length?
    rw [after?_some_of_exact k r, after?_none]
  · intro k hempty
    apply length?_eq_some_iff
    intro rest
    rw [after?_some_of_not_exact k hempty, afterLoose?_eq_some_iff]

/-- A label with a colon and two leading blanks, after one more blank; and a misspelt label. -/
theorem length?_by_readings_blanks :
    let k : Matcher := ⟨fun written expected => written == "Mark up".toList && expected == "markup".toList⟩
    (length? none "  a:b".toList "   A:B:  x".toList = some 8 ∧
      ∃ r : Reading (SpellsExactly "  a:b".toList) "   A:B:  x".toList, r.stop = 8) ∧
    length? none "markup".toList " Mark up: x".toList = none ∧
      ∃ r : Reading (SpellsLoosely k "markup".toList) " Mark up: x".toList, r.stop = 10 := by
  intro k
  obtain ⟨hexact, -⟩ := length?_by_readings "  a:b".toList "   A:B:  x".toList
  obtain ⟨hexact', -, -, hloose, -⟩ := length?_by_readings "markup".toList " Mark up: x".toList
  have hfound : length? none "  a:b".toList "   A:B:  x".toList = some 8 := by decide
  have hnone : length? none "markup".toList " Mark up: x".toList = none := by decide
  have hmisspelt : length? (some k) "markup".toList " Mark up: x".toList = some 10 := by decide
  have hempty : IsEmpty (Reading (SpellsExactly "markup".toList) " Mark up: x".toList) :=
    ⟨fun r => Option.some_ne_none r.stop (((hexact' r.stop).2 ⟨r, rfl⟩).symm.trans hnone)⟩
  exact ⟨⟨hfound, (hexact 8).1 hfound⟩, hnone, (hloose k hempty 10).1 hmisspelt⟩

end Stylebook.Label
