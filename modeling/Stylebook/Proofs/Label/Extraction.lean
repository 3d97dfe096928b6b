import Mathlib.Data.List.Forall2
import Mathlib.Data.List.Basic
import Stylebook.Proofs.Label

/-!
# What an extraction takes, and what it leaves

* `Spells`, `IsHead` : how a label can be written, and what it takes up at the start of a line;
* `Reading spelling t` : a division of `t` into blanks, a label of this spelling, a colon, and the
  rest; `exists_reading_of_afterExact?`, `exists_reading_of_afterLoose?` : where a label is found,
  there is one;
* `after?_eq_some` : so the line is a head and the rest;
* `IsValue m label p value` : `value` is the paragraph `p` with the first label cut off its line;
* `extract_fst`, `filterMap_extract`, `filter_extract` : the first value is taken, the later ones
  and all paragraphs without the label stay;
* `extract_leftover`, `leftover_replicate` : so extracting again and again gives the values one by
  one, and leaves the paragraphs without the label.
-/

namespace Stylebook.Label

open Text

variable {m : Option Matcher} {label : Text}

/-! ## Heads of lines -/

/-- The label in any case, letter by letter. -/
def SpellsExactly (label written : Text) : Prop :=
  List.Forall₂ (fun p c => sameLetter p c = true) label written

def SpellsLoosely (k : Matcher) (label written : Text) : Prop :=
  (∀ c ∈ written, isLoose c = true) ∧ k.alike (trim written) label = true

def Spells (m : Option Matcher) (label written : Text) : Prop :=
  SpellsExactly label written ∨ ∃ k ∈ m, SpellsLoosely k label written

/-- What a label takes up at the start of a line: blanks, the label as it is spelled, a colon, and
one blank at most. -/
def IsHead (spelling : Text → Prop) (head : Text) : Prop :=
  ∃ blanks written tail, head = blanks ++ written ++ ':' :: tail ∧
    (∀ c ∈ blanks, isBlank c = true) ∧ spelling written ∧ tail.length ≤ 1 ∧
    ∀ c ∈ tail, isBlank c = true

theorem IsHead.mono {P Q : Text → Prop} {head : Text} (h : IsHead P head) (hPQ : ∀ w, P w → Q w) :
    IsHead Q head := by
  obtain ⟨blanks, written, tail, hhead, hblanks, hwritten, htail⟩ := h
  exact ⟨blanks, written, tail, hhead, hblanks, hPQ written hwritten, htail⟩

theorem dropBlank_split (t : Text) :
    ∃ tail, t = tail ++ dropBlank t ∧ tail.length ≤ 1 ∧ ∀ c ∈ tail, isBlank c = true := by
  cases t with
  | nil => exact ⟨[], rfl, by simp, by simp⟩
  | cons c t =>
    by_cases hc : isBlank c = true
    · exact ⟨[c], by simp [dropBlank, hc], by simp, by simpa using hc⟩
    · exact ⟨[], by simp [dropBlank, hc], by simp, by simp⟩

/-- A text as blanks, a label, a colon, and the rest. -/
@[ext]
structure Reading (spelling : Text → Prop) (t : Text) where
  blanks : Text
  written : Text
  rest : Text
  split : t = blanks ++ written ++ ':' :: rest
  blank : ∀ c ∈ blanks, isBlank c = true
  spelled : spelling written

/-- One more blank in front of a label. -/
def Reading.cons {spelling : Text → Prop} {t : Text} {c : Char} (hc : isBlank c = true)
    (r : Reading spelling t) : Reading spelling (c :: t) where
  blanks := c :: r.blanks
  written := r.written
  rest := r.rest
  split := congrArg (c :: ·) r.split
  blank := List.forall_mem_cons.2 ⟨hc, r.blank⟩
  spelled := r.spelled

theorem Reading.exists_head {spelling : Text → Prop} {t : Text} (r : Reading spelling t) :
    ∃ head, t = head ++ dropBlank r.rest ∧ IsHead spelling head := by
  obtain ⟨tail, hrest, htail⟩ := dropBlank_split r.rest
  refine ⟨r.blanks ++ r.written ++ ':' :: tail, ?_, r.blanks, r.written, tail, rfl,
    r.blank, r.spelled, htail⟩
  conv_lhs => rw [r.split, hrest]
  simp

theorem exists_reading_of_afterHere? {t rest : Text} (h : afterHere? label t = some rest) :
    ∃ r : Reading (SpellsExactly label) t, dropBlank r.rest = rest := by
  have hsplit : ∃ written after, t = written ++ ':' :: after ∧ dropBlank after = rest ∧
      SpellsExactly label written := by
    fun_induction afterHere? label t with
    | case1 after => exact ⟨[], after, rfl, by simpa using h, .nil⟩
    | case2 p label c t hpc ih =>
      obtain ⟨written, after, rfl, hafter, hspells⟩ := ih h
      exact ⟨c :: written, after, rfl, hafter, .cons hpc hspells⟩
    | case3 => simp at h
    | case4 => simp at h
  obtain ⟨written, after, rfl, hafter, hspells⟩ := hsplit
  exact ⟨⟨[], written, after, rfl, by simp, hspells⟩, hafter⟩

theorem exists_reading_of_afterExact? {t rest : Text} (h : afterExact? label t = some rest) :
    ∃ r : Reading (SpellsExactly label) t, dropBlank r.rest = rest := by
  induction t with
  | nil => exact exists_reading_of_afterHere? h
  | cons c t ih =>
    unfold afterExact? at h
    split at h
    · rename_i r hr
      exact exists_reading_of_afterHere? (hr.trans h)
    · split at h
      · rename_i hc
        obtain ⟨r, hr⟩ := ih h
        exact ⟨r.cons hc, hr⟩
      · simp at h

theorem exists_reading_of_afterLoose? {k : Matcher} {t rest : Text}
    (h : afterLoose? k label t = some rest) :
    ∃ r : Reading (SpellsLoosely k label) t, dropBlank r.rest = rest := by
  unfold afterLoose? at h
  dsimp only at h
  split at h
  · rename_i after hdrop
    split at h
    · rename_i halike
      obtain ⟨blanks, hsplit, hblanks⟩ := trimStart_prefix_split t
      have hstart : trimStart t = (trimStart t).takeWhile isLoose ++ ':' :: after := by
        rw [← hdrop, List.takeWhile_append_dropWhile]
      refine ⟨⟨blanks, (trimStart t).takeWhile isLoose, after, ?_, hblanks, ?_, halike⟩, Option.some.inj h⟩
      · rw [List.append_assoc, ← hstart, ← hsplit]
      · exact fun c hc => List.mem_takeWhile_imp hc
    · simp at h
  · simp at h

/-- Where a label is found, the line is the head that it makes up and the rest. -/
theorem after?_eq_some {t rest : Text} (h : after? m label t = some rest) :
    ∃ head, t = head ++ rest ∧ IsHead (Spells m label) head := by
  unfold after? at h
  split at h
  · rename_i found hfound
    obtain ⟨r, rfl⟩ := exists_reading_of_afterExact? (hfound.trans h)
    obtain ⟨head, ht, hhead⟩ := r.exists_head
    exact ⟨head, ht, hhead.mono fun _ hw => .inl hw⟩
  · obtain ⟨k, hk, hloose⟩ := Option.bind_eq_some_iff.1 h
    obtain ⟨r, rfl⟩ := exists_reading_of_afterLoose? hloose
    obtain ⟨head, ht, hhead⟩ := r.exists_head
    exact ⟨head, ht, hhead.mono fun _ hw => .inr ⟨k, hk, hw⟩⟩

theorem length?_append {head rest : Text} (h : after? m label (head ++ rest) = some rest) :
    length? m label (head ++ rest) = some head.length := by
  simp [length?, h]

/-! ## Values of paragraphs -/

/-- The value is the paragraph in which the first line with the label has lost what the label takes
up. If nothing is left of that line, the line is gone. -/
def IsValue (m : Option Matcher) (label p value : Text) : Prop :=
  ∃ before head rest behind, lines p = before ++ (head ++ rest) :: behind ∧
    (∀ l ∈ before, after? m label l = none) ∧ IsHead (Spells m label) head ∧
    length? m label (head ++ rest) = some head.length ∧
    value = unlines (before ++ (if rest = [] then [] else [rest]) ++ behind)

theorem removeFrom?_eq_some {ls out : List Text} (h : removeFrom? m label ls = some out) :
    ∃ before line rest behind, ls = before ++ line :: behind ∧
      (∀ l ∈ before, after? m label l = none) ∧
      after? m label line = some rest ∧
        out = before ++ (if rest = [] then [] else [rest]) ++ behind := by
  induction ls generalizing out with
  | nil => simp [removeFrom?] at h
  | cons line ls ih =>
    unfold removeFrom? at h
    split at h
    · rename_i rest hrest
      refine ⟨[], line, rest, ls, rfl, by simp, hrest, ?_⟩
      cases rest <;> simpa using h.symm
    · rename_i hnone
      obtain ⟨others, hothers, rfl⟩ := Option.map_eq_some_iff.1 h
      obtain ⟨before, labelled, rest, behind, rfl, hbefore, hrest, rfl⟩ := ih hothers
      exact ⟨line :: before, labelled, rest, behind, rfl, List.forall_mem_cons.2 ⟨hnone, hbefore⟩, hrest, by simp⟩

theorem isValue_of_remove? {p value : Text} (h : remove? m label p = some value) :
    IsValue m label p value := by
  obtain ⟨out, hout, rfl⟩ := Option.map_eq_some_iff.1 h
  obtain ⟨before, line, rest, behind, hlines, hbefore, hrest, rfl⟩ := removeFrom?_eq_some hout
  obtain ⟨head, rfl, hhead⟩ := after?_eq_some hrest
  exact ⟨before, head, rest, behind, hlines, hbefore, hhead, length?_append hrest, rfl⟩

theorem exists_remove?_of_occurs {p : Text} (h : occurs m label p = true) :
    ∃ value, remove? m label p = some value := by
  rw [← Option.ne_none_iff_exists', ne_eq, remove?_eq_none_iff, h]
  simp

/-! ## One extraction -/

theorem extract_cons_of_remove? {p value : Text} (h : remove? m label p = some value)
    (ps : List Text) : extract m label (p :: ps) = (some value, ps) := by
  rw [extract, h]

theorem extract_fst (ps : List Text) :
    (extract m label ps).1 = (ps.filterMap (remove? m label)).head? := by
  induction ps with
  | nil => rfl
  | cons p ps ih =>
    cases hp : remove? m label p with
    | some value => rw [extract_cons_of_remove? hp, List.filterMap_cons_some hp, List.head?_cons]
    | none => rw [extract_cons_of_not_occurs (remove?_eq_none_iff.1 hp), List.filterMap_cons_none hp, ih]

/-- The later values stay. -/
theorem filterMap_extract (ps : List Text) :
    (extract m label ps).2.filterMap (remove? m label) = (ps.filterMap (remove? m label)).tail := by
  induction ps with
  | nil => rfl
  | cons p ps ih =>
    cases hp : remove? m label p with
    | some value => rw [extract_cons_of_remove? hp, List.filterMap_cons_some hp, List.tail_cons]
    | none =>
      rw [extract_cons_of_not_occurs (remove?_eq_none_iff.1 hp), List.filterMap_cons_none hp,
        List.filterMap_cons_none hp, ih]

/-- The paragraphs without the label stay. -/
theorem filter_extract (ps : List Text) :
    (extract m label ps).2.filter (!occurs m label ·) = ps.filter (!occurs m label ·) := by
  induction ps with
  | nil => rfl
  | cons p ps ih =>
    by_cases hp : occurs m label p = true
    · obtain ⟨value, hvalue⟩ := exists_remove?_of_occurs hp
      rw [extract_cons_of_remove? hvalue, List.filter_cons_of_neg (by simp [hp])]
    · rw [extract_cons_of_not_occurs (by simpa using hp), List.filter_cons_of_pos (by simpa using hp),
        List.filter_cons_of_pos (by simpa using hp), ih]

theorem forall₂_isValue (ps : List Text) :
    List.Forall₂ (IsValue m label) (ps.filter (occurs m label)) (ps.filterMap (remove? m label)) := by
  induction ps with
  | nil => exact .nil
  | cons p ps ih =>
    by_cases hp : occurs m label p = true
    · obtain ⟨value, hvalue⟩ := exists_remove?_of_occurs hp
      rw [List.filter_cons_of_pos hp, List.filterMap_cons_some hvalue]
      exact .cons (isValue_of_remove? hvalue) ih
    · rw [List.filter_cons_of_neg hp, List.filterMap_cons_none (remove?_eq_none_iff.2 (by simpa using hp))]
      exact ih

/-! ## One extraction after the other -/

theorem leftover_nil (m : Option Matcher) (ps : List Text) : leftover m [] ps = ps := rfl

theorem leftover_cons (m : Option Matcher) (l : Text) (labels ps : List Text) :
    leftover m (l :: labels) ps = leftover m labels (extract m l ps).2 := rfl

theorem leftover_sublist (m : Option Matcher) (labels ps : List Text) :
    (leftover m labels ps).Sublist ps := by
  induction labels generalizing ps with
  | nil => exact List.Sublist.refl ps
  | cons l labels ih => exact (ih _).trans (extract_sublist m l ps)

theorem filterMap_leftover (m : Option Matcher) (label : Text) (n : Nat) (ps : List Text) :
    (leftover m (List.replicate n label) ps).filterMap (remove? m label) =
      (ps.filterMap (remove? m label)).drop n := by
  induction n generalizing ps with
  | zero => rfl
  | succ n ih => rw [List.replicate_succ, leftover_cons, ih, filterMap_extract, List.drop_tail]

theorem filter_leftover (n : Nat) (ps : List Text) :
    (leftover m (List.replicate n label) ps).filter (!occurs m label ·) =
      ps.filter (!occurs m label ·) := by
  induction n generalizing ps with
  | zero => rfl
  | succ n ih => rw [List.replicate_succ, leftover_cons, ih, filter_extract]

/-- The values come out in the order of their paragraphs, and nothing after the last. -/
theorem extract_leftover (n : Nat) (ps : List Text) :
    (extract m label (leftover m (List.replicate n label) ps)).1 =
      (ps.filterMap (remove? m label))[n]? := by
  rw [extract_fst, filterMap_leftover, List.head?_drop]

/-- Once all values are out, the paragraphs without the label are left. -/
theorem leftover_replicate {n : Nat} {ps : List Text}
    (h : (ps.filterMap (remove? m label)).length ≤ n) :
    leftover m (List.replicate n label) ps = ps.filter (!occurs m label ·) := by
  have hnone := filterMap_leftover m label n ps
  rw [List.drop_eq_nil_of_le h, List.filterMap_eq_nil_iff] at hnone
  rw [← filter_leftover n ps]
  refine (List.filter_eq_self.2 fun p hp => ?_).symm
  simp [remove?_eq_none_iff.1 (hnone p hp)]

/-- An extraction finds a value exactly if the label occurs in some paragraph. It takes the first
such paragraph away and leaves the others, and the value is that paragraph without the label.
Repeated, it gives the values of all such paragraphs in order, and at the end the other paragraphs
are left. -/
theorem extract_takes_first (m : Option Matcher) (label : Text) (ps : List Text) :
    ((extract m label ps).1 = none ↔ ∀ p ∈ ps, occurs m label p = false) ∧
      ((extract m label ps).1 = none → (extract m label ps).2 = ps) ∧
      (∀ (i : Nat) (hi : i < ps.length), occurs m label ps[i] = true →
        (∀ (j : Nat) (hj : j < i), occurs m label ps[j] = false) →
        (extract m label ps).2 = ps.eraseIdx i ∧
          ∃ value, (extract m label ps).1 = some value ∧ IsValue m label ps[i] value) ∧
      ∃ values, List.Forall₂ (IsValue m label) (ps.filter (occurs m label)) values ∧
        (∀ n, (extract m label (leftover m (List.replicate n label) ps)).1 = values[n]?) ∧
        ∀ n, values.length ≤ n → leftover m (List.replicate n label) ps = ps.filter (!occurs m label ·) := by
  have hnone : (extract m label ps).1 = none ↔ ∀ p ∈ ps, occurs m label p = false := by
    simp [extract_fst, remove?_eq_none_iff]
  refine ⟨hnone, ?_, ?_, ps.filterMap (remove? m label), forall₂_isValue ps,
    fun n => extract_leftover n ps, fun n hn => leftover_replicate hn⟩
  · intro h
    rw [extract_of_not_occurs (hnone.1 h)]
  · intro i hi hoccurs hfirst
    obtain ⟨value, hvalue⟩ := exists_remove?_of_occurs hoccurs
    have hbefore : ∀ q ∈ ps.take i, occurs m label q = false := by
      intro q hq
      obtain ⟨j, hj, rfl⟩ := List.mem_take_iff_getElem.1 hq
      exact hfirst j (by omega)
    have hsplit : ps = ps.take i ++ ps[i] :: ps.drop (i + 1) := by simp
    have hextract := extract_append hvalue hbefore (ps.drop (i + 1))
    rw [← hsplit] at hextract
    rw [hextract, List.eraseIdx_eq_take_drop_succ]
    exact ⟨rfl, value, rfl, isValue_of_remove? hvalue⟩

end Stylebook.Label
