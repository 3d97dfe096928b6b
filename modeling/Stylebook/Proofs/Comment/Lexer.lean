import Stylebook.Comment.Lexer
import Stylebook.Proofs.Text

/-!
# What the comment lexer keeps

* `IsLine` : a line of source, without line endings;
* `IsBlock` : a block in the form in which the lexer gives it: no line ends in a blank, and neither
  the first line nor the last is empty;
* `Lexer.feed_lines`, `Lexer.feed_blocks` : all that one line of source can do;
* `Lexer.Clean` : the blocks found are blocks in that form, and the lines gathered are lines without
  trailing blanks. It holds at first, is kept by every step (`Clean.feed`, `Clean.flush`), and so
  holds after every run (`Clean.feedAll`);
* `isBlock_of_mem_blocks` : every block of a text is in that form.
-/

namespace Stylebook.Comment

open Text

structure IsLine (l : Text) : Prop where
  no_lf : '\n' ∉ l
  no_cr : '\r' ∉ l

/-- The form of the blocks that the lexer gives. -/
structure IsBlock (b : Text) : Prop where
  ne_nil : b ≠ []
  no_cr : '\r' ∉ b
  trimmed : ∀ l ∈ lines b, trimEnd l = l
  first : (lines b).head (lines_ne_nil b) ≠ []
  last : (lines b).getLast (lines_ne_nil b) ≠ []

instance (l : Text) : Decidable (IsLine l) :=
  decidable_of_iff ('\n' ∉ l ∧ '\r' ∉ l) ⟨fun h => ⟨h.1, h.2⟩, fun h => ⟨h.1, h.2⟩⟩

instance (b : Text) : Decidable (IsBlock b) :=
  decidable_of_iff (b ≠ [] ∧ '\r' ∉ b ∧ (∀ l ∈ lines b, trimEnd l = l) ∧
      (lines b).head (lines_ne_nil b) ≠ [] ∧ (lines b).getLast (lines_ne_nil b) ≠ [])
    ⟨fun h => ⟨h.1, h.2.1, h.2.2.1, h.2.2.2.1, h.2.2.2.2⟩, fun h => ⟨h.1, h.2, h.3, h.4, h.5⟩⟩

theorem IsLine.of_suffix {l m : Text} (h : IsLine m) (hl : l <:+ m) : IsLine l :=
  ⟨fun hc => h.no_lf (hl.subset hc), fun hc => h.no_cr (hl.subset hc)⟩

theorem IsLine.trimEnd {l : Text} (h : IsLine l) : IsLine (trimEnd l) := by
  obtain ⟨b, hb, -⟩ := trimEnd_suffix_split l
  constructor
  · exact fun hc => h.no_lf (hb ▸ List.mem_append_left b hc)
  · exact fun hc => h.no_cr (hb ▸ List.mem_append_left b hc)

theorem isLine_of_mem_lines {l t : Text} (ht : '\r' ∉ t) (h : l ∈ lines t) : IsLine l :=
  ⟨newline_not_mem_of_mem_lines h, fun hc => ht (mem_of_mem_lines h hc)⟩

theorem IsBlock.isLine {b l : Text} (hb : IsBlock b) (hl : l ∈ lines b) : IsLine l :=
  isLine_of_mem_lines hb.no_cr hl

/-! ## Markers -/

theorem dropBlank_suffix (t : Text) : dropBlank t <:+ t := by
  unfold dropBlank
  split
  · split
    · exact List.suffix_cons _ _
    · exact List.suffix_refl _
  · exact List.suffix_refl _

theorem trimStart_suffix (t : Text) : trimStart t <:+ t := List.dropWhile_suffix isBlank

theorem dropSlashes_suffix (line : Text) : dropSlashes line <:+ line :=
  (dropBlank_suffix _).trans ((List.drop_suffix 2 _).trans (trimStart_suffix line))

theorem dropStar_suffix (line : Text) : dropStar line <:+ line := by
  unfold dropStar
  split
  · rename_i rest h
    have hrest : rest <:+ line := (List.suffix_cons '*' rest).trans (h ▸ trimStart_suffix line)
    exact (dropBlank_suffix rest).trans hrest
  · exact List.suffix_refl _

theorem eq_append_of_afterText? {p t rest : Text} (h : afterText? p t = some rest) :
    t = p ++ rest := by
  induction p generalizing t with
  | nil =>
    rw [afterText?, Option.some.injEq] at h
    exact h
  | cons a p ih =>
    cases t with
    | nil => simp [afterText?] at h
    | cons b t =>
      rw [afterText?] at h
      split at h
      · rename_i hab
        rw [beq_iff_eq.1 hab, ih h, List.cons_append]
      · exact absurd h (by simp)

theorem afterText?_append (p t : Text) : afterText? p (p ++ t) = some t := by
  induction p with
  | nil => rfl
  | cons a p ih => simpa [afterText?] using ih

theorem dropBaseline_suffix (baseline line : Text) : dropBaseline baseline line <:+ line := by
  unfold dropBaseline
  cases h : afterText? baseline line with
  | none => exact List.suffix_refl _
  | some rest => exact ⟨baseline, (eq_append_of_afterText? h).symm⟩

theorem dropBaseline_append (baseline line : Text) :
    dropBaseline baseline (baseline ++ line) = line := by
  rw [dropBaseline, afterText?_append, Option.getD_some]

/-! ## One step -/

theorem opened_lines (line : Text) : (opened line).lines = [] := by
  unfold opened
  split
  · rfl
  · split <;> rfl

theorem mem_addToRun {l line : Text} {ls : List Text} (h : l ∈ addToRun ls line) :
    l ∈ ls ∨ l = dropSlashes line := by
  unfold addToRun at h
  split at h
  · exact Or.inl h
  · simpa using h

theorem mem_addToPlain {l line : Text} {base : Option Text} {ls : List Text}
    (h : l ∈ (addToPlain base ls line).lines) : l ∈ ls ∨ l <:+ line := by
  unfold addToPlain at h
  split at h
  · rename_i b
    rcases List.mem_append.1 h with h | h
    · exact Or.inl h
    · exact Or.inr (List.mem_singleton.1 h ▸ dropBaseline_suffix b line)
  · split at h
    · exact Or.inl h
    · rcases List.mem_append.1 h with h | h
      · exact Or.inl h
      · exact Or.inr (List.mem_singleton.1 h ▸ dropBaseline_suffix (indentation line) line)

namespace Lexer

@[simp] theorem flush_scan (x : Lexer) : x.flush.scan = .idle := rfl

theorem flush_blocks (x : Lexer) : x.flush.blocks =
    if (trimLines (unlines x.scan.lines)).isEmpty then x.blocks
    else x.blocks ++ [trimLines (unlines x.scan.lines)] := rfl

/-- A comment without lines gives no block. -/
theorem flush_blocks_of_no_lines {x : Lexer} (h : x.scan.lines = []) :
    x.flush.blocks = x.blocks := by
  rw [flush_blocks, h]
  rfl

theorem flush_of_isBlock {x : Lexer} (h : IsBlock (unlines x.scan.lines)) :
    x.flush = { blocks := x.blocks ++ [unlines x.scan.lines] } := by
  have hb : x.flush.blocks = x.blocks ++ [unlines x.scan.lines] := by
    rw [flush_blocks, trimLines_eq_self h.first h.last, if_neg (by simpa using h.ne_nil)]
  cases hx : x.flush with
  | mk blocks scan =>
    have hscan : scan = .idle := by rw [← flush_scan x, hx]
    rw [hx] at hb
    rw [hscan]
    exact congrArg (Lexer.mk · .idle) hb

/-- A line of source leaves the blocks alone or ends a comment. -/
theorem feed_blocks (x : Lexer) (source : Text) :
    (x.feed source).blocks = x.blocks ∨ (x.feed source).blocks = x.flush.blocks := by
  unfold feed
  cases x.scan with
  | idle => dsimp only; split <;> exact Or.inl rfl
  | run ls =>
    dsimp only
    split
    · exact Or.inl rfl
    · exact Or.inr rfl
  | plain base ls =>
    dsimp only
    split
    · exact Or.inr rfl
    · exact Or.inl rfl
  | doc ls =>
    dsimp only
    split
    · exact Or.inr rfl
    · exact Or.inl rfl

/-- The lines gathered after a line of source were gathered before it, or stand at its end. -/
theorem feed_lines (x : Lexer) (source : Text) {l : Text} (h : l ∈ (x.feed source).scan.lines) :
    l ∈ x.scan.lines ∨ l <:+ trimEnd source := by
  unfold feed at h
  cases hx : x.scan with
  | idle =>
    rw [hx] at h
    dsimp only at h
    split at h
    · rcases mem_addToRun h with h | rfl
      · exact Or.inl h
      · exact Or.inr (dropSlashes_suffix _)
    · rw [opened_lines] at h
      exact absurd h List.not_mem_nil
  | run ls =>
    rw [hx] at h
    dsimp only at h
    split at h
    · rcases mem_addToRun h with h | rfl
      · exact Or.inl h
      · exact Or.inr (dropSlashes_suffix _)
    · rw [opened_lines] at h
      exact absurd h List.not_mem_nil
  | plain base ls =>
    rw [hx] at h
    dsimp only at h
    split at h
    · exact absurd h List.not_mem_nil
    · exact mem_addToPlain h
  | doc ls =>
    rw [hx] at h
    dsimp only at h
    split at h
    · exact absurd h List.not_mem_nil
    · rcases List.mem_append.1 h with h | h
      · exact Or.inl h
      · exact Or.inr (List.mem_singleton.1 h ▸ dropStar_suffix _)

/-! ## Every run -/

/-- What the lexer has gathered has the form of blocks and of lines without trailing blanks. -/
structure Clean (x : Lexer) : Prop where
  blocks : ∀ b ∈ x.blocks, IsBlock b
  lines : ∀ l ∈ x.scan.lines, IsLine l ∧ trimEnd l = l

theorem Clean.empty : Clean {} := ⟨by simp, by simp [Scan.lines]⟩

/-- Lines without trailing blanks, joined and without empty lines at the ends, form a block unless
nothing is left. -/
theorem isBlock_trimLines {ls : List Text} (h : ∀ l ∈ ls, IsLine l ∧ trimEnd l = l)
    (hne : trimLines (unlines ls) ≠ []) : IsBlock (trimLines (unlines ls)) := by
  have hls : ls ≠ [] := by
    rintro rfl
    exact hne rfl
  have hmem : ∀ l ∈ Text.lines (trimLines (unlines ls)), l ∈ ls := by
    intro l hl
    have := lines_trimLines_subset _ hl
    rwa [lines_unlines hls fun l hl => (h l hl).1.no_lf] at this
  refine ⟨hne, ?_, fun l hl => (h l (hmem l hl)).2, ?_, ?_⟩
  · intro hcr
    rw [← unlines_lines (trimLines (unlines ls))] at hcr
    rcases eq_or_mem_of_mem_unlines hcr with hcr | ⟨l, hl, hcr⟩
    · exact absurd hcr (by decide)
    · exact (h l (hmem l hl)).1.no_cr hcr
  · exact (head_lines_ne_nil_iff hne).2 (head_trimLines_ne _ hne)
  · exact (getLast_lines_ne_nil_iff hne).2 (getLast_trimLines_ne _ hne)

theorem Clean.flush {x : Lexer} (h : x.Clean) : x.flush.Clean := by
  refine ⟨?_, by simp [Scan.lines]⟩
  rw [flush_blocks]
  split
  · exact h.blocks
  · rename_i hne
    intro b hb
    rcases List.mem_append.1 hb with hb | hb
    · exact h.blocks b hb
    · rw [List.mem_singleton.1 hb]
      exact isBlock_trimLines h.lines (by simpa using hne)

theorem Clean.feed {x : Lexer} (h : x.Clean) {source : Text} (hs : IsLine source) :
    (x.feed source).Clean := by
  constructor
  · rcases feed_blocks x source with hb | hb
    · rw [hb]
      exact h.blocks
    · rw [hb]
      exact h.flush.blocks
  · intro l hl
    rcases feed_lines x source hl with hl | hl
    · exact h.lines l hl
    · exact ⟨hs.trimEnd.of_suffix hl, trimEnd_eq_self_of_suffix (trimEnd_trimEnd source) hl⟩

theorem Clean.feedAll {x : Lexer} (h : x.Clean) {sources : List Text}
    (hs : ∀ l ∈ sources, IsLine l) : (x.feedAll sources).Clean := by
  induction sources generalizing x with
  | nil => exact h
  | cons l ls ih =>
    exact ih (h.feed (hs l List.mem_cons_self)) fun m hm => hs m (List.mem_cons_of_mem _ hm)

end Lexer

/-- Every block of a text has the form of a block. -/
theorem isBlock_of_mem_blocks {t b : Text} (h : b ∈ blocks t) : IsBlock b := by
  have hlines : ∀ l ∈ lines (unifyNewlines t), IsLine l :=
    fun l hl => isLine_of_mem_lines (cr_not_mem_unifyNewlines t) hl
  exact (Lexer.Clean.empty.feedAll hlines).flush.blocks b h

end Stylebook.Comment
