import Mathlib.Data.List.DropRight
import Stylebook.Text.Basic
import Stylebook.Text.Case.Full

/-!
# Laws of texts

* `trimStart_*`, `trimEnd_*`, `trim_*` : trimming against appending. `trimEnd t = t` says that `t`
  has no trailing blank, `trimStart t = t` that it has no leading one, and `trimEnd t = []` that it
  holds only blanks;
* `lines_unlines`, `unlines_lines`, `lines_append_newline`, `lines_reverse` : cutting into lines and
  joining lines;
* `unifyNewlines_of_no_cr`, `unifyNewlines_append`, `cr_not_mem_unifyNewlines` : line endings;
* `IsWord` : a text without blanks; `isWord_of_mem_words`, `words_append_blank`, `words_unwords` :
  cutting into words and joining words; `words_trim`, `words_unlines` : trimming and joining lines
  keep the words;
* `toNat_of_isAlpha`, `lower_of_ascii` : the letters of ASCII; a text of ASCII characters is lowered
  character by character.
-/

namespace Stylebook.Text

/-! ## Trimming -/

theorem isBlank_newline : isBlank '\n' = true := by decide

theorem isBlank_space : isBlank ' ' = true := by decide

@[simp] theorem trimStart_nil : trimStart [] = [] := rfl

@[simp] theorem trimEnd_nil : trimEnd [] = [] := rfl

theorem trimEnd_eq_rdropWhile (t : Text) : trimEnd t = t.rdropWhile isBlank := rfl

theorem trimStart_eq_nil_iff {t : Text} : trimStart t = [] ↔ ∀ c ∈ t, isBlank c = true :=
  List.dropWhile_eq_nil_iff

theorem trimEnd_eq_nil_iff {t : Text} : trimEnd t = [] ↔ ∀ c ∈ t, isBlank c = true :=
  List.rdropWhile_eq_nil_iff

theorem trimStart_of_blank {c : Char} (h : isBlank c = true) (t : Text) :
    trimStart (c :: t) = trimStart t := List.dropWhile_cons_of_pos h

theorem trimStart_of_not_blank {c : Char} (h : isBlank c = false) (t : Text) :
    trimStart (c :: t) = c :: t := List.dropWhile_cons_of_neg (by simp [h])

/-- Blanks in front do not matter to what is left of a text. -/
theorem trimStart_append_of_blank {b : Text} (h : ∀ c ∈ b, isBlank c = true) (t : Text) :
    trimStart (b ++ t) = trimStart t := List.dropWhile_append_of_pos h

theorem trimStart_append_of_ne_nil {t : Text} (h : trimStart t ≠ []) (u : Text) :
    trimStart (t ++ u) = trimStart t ++ u := by
  unfold trimStart at *
  rw [List.dropWhile_append, if_neg (by simpa using h)]

theorem trimStart_append_cons (t : Text) {c : Char} (h : isBlank c = false) (u : Text) :
    trimStart (t ++ c :: u) = trimStart t ++ c :: u := by
  by_cases ht : trimStart t = []
  · rw [trimStart_append_of_blank (trimStart_eq_nil_iff.1 ht), trimStart_of_not_blank h, ht, List.nil_append]
  · exact trimStart_append_of_ne_nil ht (c :: u)

@[simp] theorem trimStart_trimStart (t : Text) : trimStart (trimStart t) = trimStart t :=
  List.dropWhile_idempotent isBlank t

@[simp] theorem trimEnd_trimEnd (t : Text) : trimEnd (trimEnd t) = trimEnd t :=
  List.rdropWhile_idempotent isBlank t

/-- A text that is not empty begins with a character that is no blank, if trimming its start changes
nothing. -/
theorem not_blank_of_trimStart {c : Char} {t : Text} (h : trimStart (c :: t) = c :: t) :
    isBlank c = false := by
  by_contra hc
  rw [Bool.not_eq_false] at hc
  rw [trimStart_of_blank hc] at h
  have hlen := congrArg List.length h
  have hle := (List.dropWhile_sublist (l := t) isBlank).length_le
  simp only [trimStart, List.length_cons] at hlen hle
  omega

theorem trimEnd_concat (t : Text) (c : Char) :
    trimEnd (t ++ [c]) = if isBlank c then trimEnd t else t ++ [c] :=
  List.rdropWhile_concat isBlank t c

/-- Blanks at the end do not matter to what is left of a text. -/
theorem trimEnd_append_of_blank (t : Text) {b : Text} (h : ∀ c ∈ b, isBlank c = true) :
    trimEnd (t ++ b) = trimEnd t := by
  unfold trimEnd
  rw [List.reverse_append, List.dropWhile_append_of_pos fun c hc => h c (List.mem_reverse.1 hc)]

theorem trimEnd_append_of_ne_nil (t : Text) {u : Text} (h : trimEnd u ≠ []) :
    trimEnd (t ++ u) = t ++ trimEnd u := by
  unfold trimEnd at *
  rw [List.reverse_append, List.dropWhile_append, if_neg (by simpa using h), List.reverse_append,
    List.reverse_reverse]

theorem trimEnd_cons_of_not_blank {c : Char} (h : isBlank c = false) (t : Text) :
    trimEnd (c :: t) = c :: trimEnd t := by
  by_cases ht : trimEnd t = []
  · rw [← List.singleton_append, trimEnd_append_of_blank _ (trimEnd_eq_nil_iff.1 ht), ht]
    simp [trimEnd, h]
  · rw [← List.singleton_append, trimEnd_append_of_ne_nil _ ht, List.singleton_append]

/-- What stands at the end of a text without trailing blanks has none either. -/
theorem trimEnd_eq_self_of_suffix {s t : Text} (h : trimEnd t = t) (hs : s <:+ t) :
    trimEnd s = s := by
  rw [trimEnd_eq_rdropWhile, List.rdropWhile_eq_self_iff] at h ⊢
  intro hne
  obtain ⟨u, rfl⟩ := hs
  have := h (by simp [hne])
  rwa [List.getLast_append_of_ne_nil _ hne] at this

/-- A text that is not empty ends in a character that is no blank, if trimming its end changes
nothing. -/
theorem exists_concat_of_trimEnd {u : Text} (hne : u ≠ []) (h : trimEnd u = u) :
    ∃ x c, u = x ++ [c] ∧ isBlank c = false := by
  refine ⟨u.dropLast, u.getLast hne, (List.dropLast_append_getLast hne).symm, ?_⟩
  rw [trimEnd_eq_rdropWhile, List.rdropWhile_eq_self_iff] at h
  simpa using h hne

theorem trimEnd_suffix_split (t : Text) : ∃ b, t = trimEnd t ++ b ∧ ∀ c ∈ b, isBlank c = true :=
  ⟨t.rtakeWhile isBlank, List.rdropWhile_append_rtakeWhile.symm, fun _ hc => List.mem_rtakeWhile_imp hc⟩

theorem trimStart_prefix_split (t : Text) : ∃ b, t = b ++ trimStart t ∧ ∀ c ∈ b, isBlank c = true :=
  ⟨t.takeWhile isBlank, List.takeWhile_append_dropWhile.symm, fun _ hc => List.mem_takeWhile_imp hc⟩

/-- Both ends of a text are trimmed independently. -/
theorem trimStart_trimEnd (t : Text) : trimStart (trimEnd t) = trim t := by
  obtain ⟨b, hb, hblank⟩ := trimStart_prefix_split t
  unfold trim
  by_cases h : trimEnd (trimStart t) = []
  · have hall : ∀ c ∈ t, isBlank c = true := by
      rw [hb]
      intro c hc
      rcases List.mem_append.1 hc with hc | hc
      · exact hblank c hc
      · exact trimEnd_eq_nil_iff.1 h c hc
    rw [h, trimEnd_eq_nil_iff.2 hall, trimStart_nil]
  · conv_lhs => rw [hb, trimEnd_append_of_ne_nil _ h, trimStart_append_of_blank hblank]
    cases hs : trimStart t with
    | nil => rfl
    | cons c u =>
      have hc : isBlank c = false := not_blank_of_trimStart (by rw [← hs, trimStart_trimStart])
      rw [trimEnd_cons_of_not_blank hc, trimStart_of_not_blank hc]

theorem trim_trimEnd (t : Text) : trim (trimEnd t) = trim t := by
  rw [← trimStart_trimEnd, trimEnd_trimEnd, trimStart_trimEnd]

theorem trim_of_trimEnd {t : Text} (h : trimEnd t = t) : trim t = trimStart t := by
  rw [← trimStart_trimEnd, h]

theorem trim_eq_self {t : Text} (hs : trimStart t = t) (he : trimEnd t = t) : trim t = t := by
  rw [trim, hs, he]

theorem trimEnd_trim (t : Text) : trimEnd (trim t) = trim t := trimEnd_trimEnd _

theorem trimStart_trim (t : Text) : trimStart (trim t) = trim t := by
  rw [← trimStart_trimEnd, trimStart_trimStart]

theorem trim_append_of_blank {b : Text} (h : ∀ c ∈ b, isBlank c = true) (t : Text) :
    trim (b ++ t) = trim t := by
  rw [trim, trimStart_append_of_blank h, trim]

theorem trim_eq_nil_iff {t : Text} : trim t = [] ↔ ∀ c ∈ t, isBlank c = true := by
  rw [trim, trimEnd_eq_nil_iff]
  constructor
  · intro h c hc
    obtain ⟨b, hb, hblank⟩ := trimStart_prefix_split t
    rw [hb] at hc
    rcases List.mem_append.1 hc with hc | hc
    · exact hblank c hc
    · exact h c hc
  · intro h c hc
    exact h c (List.dropWhile_subset isBlank hc)

/-! ## Lines -/

/-- A member of joined lists stands in the separator or in one of them. -/
theorem mem_or_mem_of_mem_intercalate {α : Type} {a : α} {sep : List α} {xs : List (List α)}
    (h : a ∈ sep.intercalate xs) : a ∈ sep ∨ ∃ x ∈ xs, a ∈ x := by
  induction xs with
  | nil => exact absurd h List.not_mem_nil
  | cons x xs ih =>
    by_cases hxs : xs = []
    · subst hxs
      exact Or.inr ⟨x, List.mem_cons_self, by simpa using h⟩
    · rw [List.intercalate_cons_of_ne_nil hxs, List.mem_append, List.mem_append] at h
      rcases h with (h | h) | h
      · exact Or.inr ⟨x, List.mem_cons_self, h⟩
      · exact Or.inl h
      · rcases ih h with h | ⟨y, hy, ha⟩
        · exact Or.inl h
        · exact Or.inr ⟨y, List.mem_cons_of_mem _ hy, ha⟩

theorem mem_intercalate_of_mem {α : Type} {a : α} {sep x : List α} {xs : List (List α)}
    (hx : x ∈ xs) (ha : a ∈ x) : a ∈ sep.intercalate xs := by
  induction xs with
  | nil => exact absurd hx List.not_mem_nil
  | cons y xs ih =>
    by_cases hxs : xs = []
    · subst hxs
      rw [List.mem_singleton.1 hx] at ha
      simpa using ha
    · rw [List.intercalate_cons_of_ne_nil hxs, List.mem_append]
      rcases List.mem_cons.1 hx with rfl | hx
      · exact Or.inl (List.mem_append_left _ ha)
      · exact Or.inr (ih hx)

/-- A piece of a cut holds members of the whole, and none that the cut was made at. -/
theorem of_mem_splitOnP {α : Type} {p : α → Bool} {piece t : List α} {c : α}
    (h : piece ∈ t.splitOnP p) (hc : c ∈ piece) : c ∈ t ∧ p c = false := by
  induction t generalizing piece with
  | nil =>
    rw [List.splitOnP_nil, List.mem_singleton] at h
    subst h
    exact absurd hc List.not_mem_nil
  | cons a t ih =>
    rw [List.splitOnP_cons_eq_if_modifyHead] at h
    by_cases ha : p a = true
    · rw [if_pos ha, List.mem_cons] at h
      rcases h with rfl | h
      · exact absurd hc List.not_mem_nil
      · exact ⟨List.mem_cons_of_mem _ (ih h hc).1, (ih h hc).2⟩
    · rw [if_neg ha] at h
      obtain ⟨first, others, hcut⟩ := List.exists_cons_of_ne_nil (List.splitOnP_ne_nil p t)
      rw [hcut] at ih
      rw [hcut, List.modifyHead_cons, List.mem_cons] at h
      rcases h with rfl | h
      · rcases List.mem_cons.1 hc with rfl | hc
        · exact ⟨List.mem_cons_self, by simpa using ha⟩
        · exact ⟨List.mem_cons_of_mem _ (ih List.mem_cons_self hc).1, (ih List.mem_cons_self hc).2⟩
      · exact ⟨List.mem_cons_of_mem _ (ih (List.mem_cons_of_mem _ h) hc).1,
          (ih (List.mem_cons_of_mem _ h) hc).2⟩

theorem lines_ne_nil (t : Text) : lines t ≠ [] := List.splitOn_ne_nil '\n' t

@[simp] theorem lines_nil : lines [] = [[]] := List.splitOn_nil '\n'

theorem lines_unlines {ls : List Text} (hne : ls ≠ []) (h : ∀ l ∈ ls, '\n' ∉ l) :
    lines (unlines ls) = ls :=
  List.splitOn_intercalate '\n' h hne

theorem unlines_lines (t : Text) : unlines (lines t) = t := List.intercalate_splitOn '\n'

theorem lines_append_newline (x y : Text) : lines (x ++ '\n' :: y) = lines x ++ lines y :=
  List.splitOn_append_cons_self x y

theorem lines_of_no_newline {t : Text} (h : '\n' ∉ t) : lines t = [t] := List.splitOn_eq_singleton h

theorem lines_cons_newline (t : Text) : lines ('\n' :: t) = [] :: lines t :=
  lines_append_newline [] t

theorem unlines_cons {l : Text} {ls : List Text} (h : ls ≠ []) :
    unlines (l :: ls) = l ++ '\n' :: unlines ls := by
  unfold unlines
  rw [List.intercalate_cons_of_ne_nil h]
  simp

theorem unlines_concat {ls : List Text} (h : ls ≠ []) (l : Text) :
    unlines (ls ++ [l]) = unlines ls ++ '\n' :: l := by
  induction ls with
  | nil => exact absurd rfl h
  | cons k ls ih =>
    by_cases hls : ls = []
    · subst hls
      simp [unlines]
    · rw [List.cons_append, unlines_cons (by simp), ih hls, unlines_cons hls]
      simp

/-- A character of joined lines is a line feed or stands in one of them. -/
theorem eq_or_mem_of_mem_unlines {c : Char} {ls : List Text} (h : c ∈ unlines ls) :
    c = '\n' ∨ ∃ l ∈ ls, c ∈ l := by
  simpa using mem_or_mem_of_mem_intercalate h

/-- The first line of a text, followed by its line feed and the other lines if there are any. -/
theorem lines_cases (t : Text) : ('\n' ∉ t ∧ lines t = [t]) ∨
    ∃ l u, t = l ++ '\n' :: u ∧ '\n' ∉ l ∧ lines t = l :: lines u := by
  by_cases h : '\n' ∈ t
  · obtain ⟨l, u, rfl, hl⟩ := List.eq_append_cons_of_mem h
    exact Or.inr ⟨l, u, rfl, hl, by rw [lines_append_newline, lines_of_no_newline hl, List.singleton_append]⟩
  · exact Or.inl ⟨h, lines_of_no_newline h⟩

theorem newline_not_mem_of_mem_lines {l t : Text} (h : l ∈ lines t) : '\n' ∉ l := by
  intro hc
  simpa using (of_mem_splitOnP h hc).2

theorem mem_of_mem_lines {c : Char} {l t : Text} (h : l ∈ lines t) (hc : c ∈ l) : c ∈ t :=
  (of_mem_splitOnP h hc).1

/-- The lines of a text read backwards are its lines read backwards, the last one first. -/
theorem lines_reverse (t : Text) : lines t.reverse = ((lines t).map List.reverse).reverse := by
  induction hn : t.length using Nat.strong_induction_on generalizing t with
  | _ n ih =>
    rcases lines_cases t with ⟨ht, heq⟩ | ⟨first, u, rfl, hf, heq⟩
    · rw [heq, lines_of_no_newline (by simpa using ht)]
      simp
    · rw [heq, List.reverse_append, List.reverse_cons, List.append_assoc, List.singleton_append,
        lines_append_newline, ih u.length (by simp at hn; omega) u rfl,
        lines_of_no_newline (t := first.reverse) (by simpa using hf)]
      simp

/-! ## Empty lines at the ends -/

theorem lines_cons_of_ne {c : Char} (h : c ≠ '\n') (t : Text) :
    lines (c :: t) = (lines t).modifyHead (c :: ·) := by
  unfold lines
  rw [List.splitOn_cons_eq_if_modifyHead, if_neg (by simpa using h)]

/-- The first line is empty exactly when a line feed stands in front. -/
theorem head_lines_ne_nil_iff {t : Text} (hne : t ≠ []) :
    (lines t).head (lines_ne_nil t) ≠ [] ↔ t.head hne ≠ '\n' := by
  obtain ⟨c, u, rfl⟩ := List.exists_cons_of_ne_nil hne
  rw [List.head_cons]
  by_cases hc : c = '\n'
  · subst hc
    simp [lines_cons_newline]
  · obtain ⟨first, others, hu⟩ := List.exists_cons_of_ne_nil (lines_ne_nil u)
    simp [lines_cons_of_ne hc, hu, hc]

/-- The last line is empty exactly when a line feed stands at the end. -/
theorem getLast_lines_ne_nil_iff {t : Text} (hne : t ≠ []) :
    (lines t).getLast (lines_ne_nil t) ≠ [] ↔ t.getLast hne ≠ '\n' := by
  have hrev := head_lines_ne_nil_iff (t := t.reverse) (by simpa using hne)
  rw [List.head_reverse] at hrev
  rw [← hrev]
  simp [lines_reverse]

theorem trimLines_eq_self {t : Text} (hf : (lines t).head (lines_ne_nil t) ≠ [])
    (hl : (lines t).getLast (lines_ne_nil t) ≠ []) : trimLines t = t := by
  by_cases hne : t = []
  · subst hne
    rfl
  · rw [head_lines_ne_nil_iff hne] at hf
    rw [getLast_lines_ne_nil_iff hne] at hl
    obtain ⟨c, u, rfl⟩ := List.exists_cons_of_ne_nil hne
    have hdrop : (c :: u).dropWhile (· == '\n') = c :: u :=
      List.dropWhile_cons_of_neg (by simpa using hf)
    have hrdrop : (c :: u).rdropWhile (· == '\n') = c :: u :=
      List.rdropWhile_eq_self_iff.2 fun _ => by simpa using hl
    rw [trimLines, hdrop]
    exact hrdrop

theorem lines_dropWhile_subset (t : Text) : lines (t.dropWhile (· == '\n')) ⊆ lines t := by
  induction t with
  | nil => exact List.Subset.refl _
  | cons c t ih =>
    by_cases hc : c = '\n'
    · subst hc
      rw [List.dropWhile_cons_of_pos (by simp), lines_cons_newline]
      exact List.subset_cons_of_subset _ ih
    · rw [List.dropWhile_cons_of_neg (by simpa using hc)]
      exact List.Subset.refl _

/-- Without line feeds at its ends a text has no new lines. -/
theorem lines_trimLines_subset (t : Text) : lines (trimLines t) ⊆ lines t := by
  refine List.Subset.trans ?_ (lines_dropWhile_subset t)
  intro l hl
  rw [trimLines, lines_reverse, List.mem_reverse, List.mem_map] at hl
  obtain ⟨r, hr, rfl⟩ := hl
  have := lines_dropWhile_subset _ hr
  rw [lines_reverse, List.mem_reverse, List.mem_map] at this
  obtain ⟨l, hl, rfl⟩ := this
  rwa [List.reverse_reverse]

theorem head_trimLines_ne (t : Text) (hne : trimLines t ≠ []) : (trimLines t).head hne ≠ '\n' := by
  have hpre : trimLines t <+: t.dropWhile (· == '\n') := List.rdropWhile_prefix _ _
  have hd : t.dropWhile (· == '\n') ≠ [] := fun h => hne (List.prefix_nil.1 (h ▸ hpre))
  rw [hpre.head hne]
  simpa using List.head_dropWhile_not (· == '\n') hd

theorem getLast_trimLines_ne (t : Text) (hne : trimLines t ≠ []) :
    (trimLines t).getLast hne ≠ '\n' := by
  have h := List.rdropWhile_last_not (· == '\n') (t.dropWhile (· == '\n')) hne
  rw [beq_iff_eq] at h
  exact h

theorem trimLines_concat_newline (t : Text) : trimLines (t ++ ['\n']) = trimLines t := by
  have htrim : ∀ u : Text, trimLines u = (u.dropWhile (· == '\n')).rdropWhile (· == '\n') :=
    fun _ => rfl
  rw [htrim, htrim, List.dropWhile_append]
  split
  · rename_i h
    rw [List.isEmpty_iff.1 h]
    rfl
  · exact List.rdropWhile_concat_pos _ _ _ (by simp)

/-! ## Line endings -/

theorem unifyNewlines_of_no_cr {t : Text} (h : '\r' ∉ t) : unifyNewlines t = t := by
  induction t with
  | nil => rfl
  | cons c t ih =>
    rw [List.mem_cons, not_or] at h
    rw [unifyNewlines, ih h.2]
    · rintro _ rfl
      exact absurd rfl h.1
    · rintro rfl
      exact absurd rfl h.1

theorem cr_not_mem_unifyNewlines (t : Text) : '\r' ∉ unifyNewlines t := by
  fun_induction unifyNewlines t with
  | case1 rest ih => simpa using ih
  | case2 rest _ ih => simpa using ih
  | case3 c rest _ h ih =>
    rw [List.mem_cons, not_or]
    exact ⟨fun hc => h hc.symm, ih⟩
  | case4 => simp

theorem unifyNewlines_append {l : Text} (h : '\r' ∉ l) (t : Text) :
    unifyNewlines (l ++ t) = l ++ unifyNewlines t := by
  induction l with
  | nil => rfl
  | cons c l ih =>
    rw [List.mem_cons, not_or] at h
    rw [List.cons_append, unifyNewlines, ih h.2, List.cons_append]
    · rintro _ rfl
      exact absurd rfl h.1
    · rintro rfl
      exact absurd rfl h.1

@[simp] theorem unifyNewlines_unifyNewlines (t : Text) :
    unifyNewlines (unifyNewlines t) = unifyNewlines t :=
  unifyNewlines_of_no_cr (cr_not_mem_unifyNewlines t)

/-! ## Words -/

/-- A text that is not empty and holds no blank. -/
structure IsWord (w : Text) : Prop where
  ne_nil : w ≠ []
  no_blank : ∀ c ∈ w, isBlank c = false

theorem isWord_iff_all {w : Text} : (w ≠ [] ∧ w.all (!isBlank ·) = true) ↔ IsWord w := by
  rw [List.all_eq_true]
  exact ⟨fun h => ⟨h.1, fun c hc => by simpa using h.2 c hc⟩, fun h => ⟨h.1, fun c hc => by simp [h.2 c hc]⟩⟩

instance (w : Text) : Decidable (IsWord w) := decidable_of_iff _ isWord_iff_all

theorem IsWord.trimStart {w : Text} (h : IsWord w) : trimStart w = w := by
  obtain ⟨c, u, rfl⟩ := List.exists_cons_of_ne_nil h.ne_nil
  exact trimStart_of_not_blank (h.no_blank c List.mem_cons_self) u

theorem IsWord.trimStart_append {w : Text} (h : IsWord w) (t : Text) :
    Text.trimStart (w ++ t) = w ++ t := by
  rw [trimStart_append_of_ne_nil (by rw [h.trimStart]; exact h.ne_nil), h.trimStart]

theorem IsWord.trimEnd {w : Text} (h : IsWord w) : trimEnd w = w := by
  rw [trimEnd_eq_rdropWhile, List.rdropWhile_eq_self_iff]
  intro hne
  simp [h.no_blank _ (List.getLast_mem hne)]

theorem isWord_of_mem_words {w t : Text} (h : w ∈ words t) : IsWord w := by
  obtain ⟨hmem, hne⟩ := List.mem_filter.1 h
  exact ⟨by simpa using hne, fun c hc => (of_mem_splitOnP hmem hc).2⟩

/-- Words are cut at any blank. -/
theorem words_append_blank {c : Char} (hc : isBlank c = true) (x y : Text) :
    words (x ++ c :: y) = words x ++ words y := by
  unfold words
  rw [List.splitOnP_append_cons x y hc, List.filter_append]

theorem words_blank_append {b : Text} (h : ∀ c ∈ b, isBlank c = true) (t : Text) :
    words (b ++ t) = words t := by
  induction b with
  | nil => rfl
  | cons c b ih =>
    rw [List.forall_mem_cons] at h
    exact (words_append_blank h.1 [] (b ++ t)).trans (ih h.2)

theorem words_of_blank {b : Text} (h : ∀ c ∈ b, isBlank c = true) : words b = [] := by
  rw [← List.append_nil b, words_blank_append h]
  rfl

theorem words_append_blanks (t : Text) {b : Text} (h : ∀ c ∈ b, isBlank c = true) :
    words (t ++ b) = words t := by
  cases b with
  | nil => rw [List.append_nil]
  | cons c b =>
    rw [List.forall_mem_cons] at h
    rw [words_append_blank h.1, words_of_blank h.2, List.append_nil]

theorem words_trimStart (t : Text) : words (trimStart t) = words t := by
  obtain ⟨b, hb, hblank⟩ := trimStart_prefix_split t
  conv_rhs => rw [hb, words_blank_append hblank]

theorem words_trim (t : Text) : words (trim t) = words t := by
  obtain ⟨b, hb, hblank⟩ := trimEnd_suffix_split (trimStart t)
  rw [trim, ← words_trimStart t]
  conv_rhs => rw [hb, words_append_blanks _ hblank]

theorem words_unlines (ls : List Text) : words (unlines ls) = ls.flatMap words := by
  induction ls with
  | nil => rfl
  | cons l ls ih =>
    by_cases hls : ls = []
    · subst hls
      simp [unlines]
    · rw [unlines_cons hls, words_append_blank isBlank_newline, ih, List.flatMap_cons]

theorem words_of_word {w : Text} (h : IsWord w) : words w = [w] := by
  rw [words, List.splitOnP_eq_singleton h.no_blank]
  simp [h.ne_nil]

theorem unwords_cons (w : Text) (ws : List Text) :
    unwords (w :: ws) = w ++ if ws = [] then [] else ' ' :: unwords ws := by
  split
  · rename_i h
    subst h
    simp [unwords]
  · rename_i h
    unfold unwords
    rw [List.intercalate_cons_of_ne_nil h]
    simp

/-- A character of joined words is a space or stands in one of them. -/
theorem eq_or_mem_of_mem_unwords {c : Char} {ws : List Text} (h : c ∈ unwords ws) :
    c = ' ' ∨ ∃ w ∈ ws, c ∈ w := by
  simpa using mem_or_mem_of_mem_intercalate h

/-- Words joined by spaces are found again. -/
theorem words_unwords {ws : List Text} (h : ∀ w ∈ ws, IsWord w) : words (unwords ws) = ws := by
  induction ws with
  | nil => rfl
  | cons w ws ih =>
    have hw := h w List.mem_cons_self
    rw [unwords_cons]
    split
    · rename_i hws
      rw [List.append_nil, words_of_word hw, hws]
    · rw [words_append_blank isBlank_space, words_of_word hw, ih fun v hv => h v (List.mem_cons_of_mem _ hv),
        List.singleton_append]

/-! ## Letters -/

theorem toNat_of_isAlpha {c : Char} (h : c.isAlpha = true) :
    (65 ≤ c.toNat ∧ c.toNat ≤ 90) ∨ (97 ≤ c.toNat ∧ c.toNat ≤ 122) := by
  rcases Bool.or_eq_true_iff.1 h with hupper | hlower
  · obtain ⟨hA, hZ⟩ := of_decide_eq_true hupper
    exact Or.inl ⟨hA, hZ⟩
  · obtain ⟨ha, hz⟩ := Bool.and_eq_true_iff.1 hlower
    exact Or.inr ⟨of_decide_eq_true ha, of_decide_eq_true hz⟩

theorem lowerIn_of_ascii {c : Char} (h : c.toNat < 128) (before rest : Text) :
    lowerIn before c rest = [c.toLower] := by
  have hdotted : (c == 'İ') = false := by
    rw [beq_eq_false_iff_ne]
    rintro rfl
    exact absurd h (by decide)
  have hsigma : (c == 'Σ') = false := by
    rw [beq_eq_false_iff_ne]
    rintro rfl
    exact absurd h (by decide)
  simp [lowerIn, hdotted, hsigma, lowerChar, h]

theorem lower_of_ascii {t : Text} (h : ∀ c ∈ t, c.toNat < 128) : lower t = t.map Char.toLower := by
  suffices hfrom : ∀ before, lowerFrom before t = t.map Char.toLower from hfrom []
  induction t with
  | nil => exact fun _ => rfl
  | cons c t ih =>
    intro before
    rw [List.forall_mem_cons] at h
    rw [lowerFrom, lowerIn_of_ascii h.1, ih h.2, List.map_cons, List.singleton_append]

end Stylebook.Text
