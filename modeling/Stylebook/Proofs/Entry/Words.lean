import Stylebook.Proofs.Entry

/-!
# The words of entries

* `Entry.spelled` : the words of an entry, with the dash between name and description;
* `Entry.afterSeparator?_eq_some`, `Entry.cut?_eq_some` : a line is cut at blanks, a dash and
  blanks, and at nothing else; `Entry.spelled_ofLine`, from them : the entry of a line has the words
  of the line;
* `Entry.length_collectFrom`, `Entry.words_collectFrom` : collecting adds a line where one begins an
  entry, and carries the words of every other line over to the entry before.
-/

namespace Stylebook.Entry

open Text

def spelled (e : Entry) : List Text := words e.name ++ ['-'] :: words e.description

/-! ## Cutting a line -/

theorem afterSeparator?_eq_some {t description : Text} (h : afterSeparator? t = some description) :
    ∃ (gap : Text) (d : Char) (rest : Text), t = gap ++ '-' :: d :: rest ∧ gap ≠ [] ∧
      (∀ c ∈ gap, isBlank c = true) ∧ isBlank d = true ∧ description = trimStart rest := by
  cases t with
  | nil => exact absurd h (by simp [show afterSeparator? [] = none from rfl])
  | cons c t =>
    rw [afterSeparator?_cons] at h
    split at h
    · rename_i d rest htrim
      split at h
      · rename_i hblank
        rw [Bool.and_eq_true] at hblank
        obtain ⟨gap, hgap, hall⟩ := trimStart_prefix_split (c :: t)
        refine ⟨gap, d, rest, htrim ▸ hgap, ?_, hall, hblank.2, (Option.some.inj h).symm⟩
        rintro rfl
        have hc : isBlank c = false := not_blank_of_trimStart hgap.symm
        exact absurd hblank.1 (by simp [hc])
      · exact absurd h (by simp)
    · exact absurd h (by simp)

theorem cut?_eq_some {t name description : Text} (h : cut? t = some (name, description)) :
    ∃ s, t = name ++ s ∧ afterSeparator? s = some description := by
  induction t generalizing name with
  | nil => exact absurd h (by simp [show cut? [] = none from rfl])
  | cons c t ih =>
    rw [cut?_cons] at h
    split at h
    · rename_i hsep
      cases h
      exact ⟨c :: t, rfl, hsep⟩
    · obtain ⟨⟨name', description'⟩, hcut, heq⟩ := Option.map_eq_some_iff.1 h
      cases heq
      obtain ⟨s, hs, hsep⟩ := ih hcut
      exact ⟨s, by rw [hs, List.cons_append], hsep⟩

theorem isSome_cut?_append (x : Text) {s description : Text}
    (h : afterSeparator? s = some description) : (cut? (x ++ s)).isSome = true := by
  induction x with
  | nil => rw [List.nil_append, cut?_of_afterSeparator? h, Option.isSome_some]
  | cons c x ih =>
    rw [List.cons_append, cut?_cons]
    split
    · rfl
    · rw [Option.isSome_map, ih]

/-- A line that begins an entry has a separator, though not always the one after its first word. -/
theorem isSome_cut?_of_starts {line : Text} (h : starts line = true) :
    (cut? line).isSome = true := by
  obtain ⟨o, rfl⟩ := exists_opening h
  rw [Opening.line, ← List.append_assoc]
  exact isSome_cut?_append _ (afterSeparator?_gap o.gap_ne_nil o.gap_blank o.isBlank_blank o.rest)

theorem words_of_cut? {t name description : Text} (h : cut? t = some (name, description)) :
    words t = words name ++ ['-'] :: words description := by
  obtain ⟨s, rfl, hsep⟩ := cut?_eq_some h
  obtain ⟨gap, d, rest, rfl, hne, hgap, hd, rfl⟩ := afterSeparator?_eq_some hsep
  rw [words_separator hne hgap hd, words_trimStart]

theorem spelled_ofLine {line : Text} (h : starts line = true) :
    (ofLine line).spelled = words line := by
  obtain ⟨⟨name, description⟩, hcut⟩ := Option.isSome_iff_exists.1 (isSome_cut?_of_starts h)
  rw [ofLine, hcut, words_of_cut? hcut]
  simp only [spelled, words_trim]

/-! ## Collecting lines -/

theorem length_collectFrom (current : Text) (ls : List Text) :
    (collectFrom current ls).length = ls.countP starts + 1 := by
  induction ls generalizing current with
  | nil => rfl
  | cons l ls ih =>
    rw [collectFrom]
    split
    · rename_i hl
      rw [List.length_cons, ih, List.countP_cons_of_pos hl]
    · rename_i hl
      rw [ih, List.countP_cons_of_neg hl]

theorem words_collectFrom (current : Text) (ls : List Text) :
    (collectFrom current ls).flatMap words = words current ++ ls.flatMap words := by
  induction ls generalizing current with
  | nil => simp [collectFrom]
  | cons l ls ih =>
    rw [collectFrom]
    split
    · rw [List.flatMap_cons, ih, List.flatMap_cons]
    · rw [ih, words_append_blank isBlank_space, words_trim, List.flatMap_cons, List.append_assoc]

theorem words_eq_flatMap_collectFrom {paragraph first : Text} {rest : List Text}
    (h : lines paragraph = first :: rest) :
    words paragraph = (collectFrom first rest).flatMap words := by
  rw [words_collectFrom, ← List.flatMap_cons, ← h, ← words_unlines, unlines_lines]

/-- A paragraph lists entries exactly if its first line begins one. It is then collected into as
many lines as begin entries, each of which begins one again. The entries built from these have the
words of the paragraph, none lost, doubled or moved, if the dash between name and description is
counted in. -/
theorem collected_words_conserved (r : Reader) (hr : r.renderer = none) (paragraph : Text) :
    (collect? paragraph = none ↔ starts ((lines paragraph).head (lines_ne_nil paragraph)) = false) ∧
      ∀ ls, collect? paragraph = some ls →
        ls.length = (lines paragraph).countP starts ∧ (∀ line ∈ ls, starts line = true) ∧
          (ls.map r.entry).flatMap spelled = words paragraph := by
  constructor
  · rw [← isSome_collect?, Option.isSome_eq_false_iff, Option.isNone_iff_eq_none]
  · intro ls hls
    have hstarts : ∀ line ∈ ls, starts line = true := fun line => starts_of_mem_collect? hls
    obtain ⟨first, rest, hlines, hfirst, rfl⟩ := collect?_eq_some hls
    refine ⟨?_, hstarts, ?_⟩
    · rw [hlines, length_collectFrom, List.countP_cons_of_pos hfirst]
    · rw [entry_eq_ofLine hr, List.flatMap_map, words_eq_flatMap_collectFrom hlines]
      exact List.flatMap_congr fun line hline => spelled_ofLine (hstarts line hline)

/-- A name with a description of three lines, one of them blank and one with a dash between blanks,
and a dash that blanks lead in and that is taken for a separator. -/
theorem collected_words_conserved_mixed :
    let r : Reader := {}
    let paragraph := ".big\t-  Makes it\n \n  much bigger - or not\n - - odd".toList
    let ls := [".big\t-  Makes it  much bigger - or not".toList, " - - odd".toList]
    r.renderer = none ∧ collect? paragraph = some ls ∧
      ls.map r.entry = [⟨".big".toList, "Makes it  much bigger - or not".toList⟩, ⟨[], "- odd".toList⟩] ∧
      ls.length = (lines paragraph).countP starts ∧ (∀ line ∈ ls, starts line = true) ∧
      (ls.map r.entry).flatMap spelled = words paragraph := by
  intro r paragraph ls
  have h : collect? paragraph = some ls := by
    decide +kernel
  exact ⟨rfl, h, by decide +kernel, (collected_words_conserved r rfl paragraph).2 ls h⟩

end Stylebook.Entry
