import Stylebook.Proofs.Comment.Writing

/-!
# Runs of the lexer

* `Lexer.blocks_prefix_step` : a step never takes back a block;
* `Lexer.after` : a lexer with further blocks before its own. No step looks at the blocks found so
  far (`feed_after`, `flush_after`), so neither does a run;
* `segments` : the lines between the ends of sources in a sequence of steps; `Lexer.run_close`, by
  induction on the steps : every segment is read as if by a fresh lexer;
* `Lexer.feedAll_resume` : where a comment cannot go on, the lines that follow are read as if by a
  fresh lexer.
-/

namespace Stylebook.Comment

open Text

def Step.source? : Step → Option Text
  | .line source => some source
  | .stop => none

/-- The lines of the maximal parts of a sequence of steps in which no source ends. -/
def segments (steps : List Step) : List (List Text) :=
  (steps.splitOn .stop).map (·.filterMap Step.source?)

theorem segments_nil : segments [] = [[]] := rfl

theorem segments_stop (steps : List Step) : segments (.stop :: steps) = [] :: segments steps := by
  rw [segments, List.splitOn_cons_eq_if_modifyHead, if_pos (by decide)]
  rfl

theorem segments_ne_nil (steps : List Step) : segments steps ≠ [] := by
  simp [segments, List.splitOn_ne_nil]

theorem segments_line (source : Text) (steps : List Step) :
    segments (.line source :: steps) = (segments steps).modifyHead (source :: ·) := by
  obtain ⟨first, others, hcut⟩ := List.exists_cons_of_ne_nil (List.splitOn_ne_nil Step.stop steps)
  rw [segments, segments, List.splitOn_cons_eq_if_modifyHead, if_neg (by simp), hcut]
  rfl

namespace Lexer

/-! ## Blocks are only added -/

theorem blocks_prefix_flush (x : Lexer) : x.blocks <+: x.flush.blocks := by
  rw [flush_blocks]
  split
  · exact List.prefix_refl _
  · exact List.prefix_append _ _

/-- A step never takes back a block. -/
theorem blocks_prefix_step (x : Lexer) (s : Step) : x.blocks <+: (x.step s).blocks := by
  cases s with
  | stop => exact x.blocks_prefix_flush
  | line source =>
    rcases feed_blocks x source with h | h
    · exact h ▸ List.prefix_refl x.blocks
    · exact (h ▸ x.blocks_prefix_flush : x.blocks <+: (x.feed source).blocks)

/-! ## Blocks found before -/

/-- The lexer with further blocks before those that it has found. -/
def after (bs : List Text) (x : Lexer) : Lexer := { x with blocks := bs ++ x.blocks }

theorem after_scan (bs : List Text) (x : Lexer) : (x.after bs).scan = x.scan := rfl

theorem flush_after (bs : List Text) (x : Lexer) : (x.after bs).flush = x.flush.after bs := by
  unfold flush after
  dsimp only
  split
  · rfl
  · rw [List.append_assoc]

/-- A line of source does the same whatever blocks have been found. -/
theorem feed_after (bs : List Text) (x : Lexer) (source : Text) :
    (x.after bs).feed source = (x.feed source).after bs := by
  unfold feed
  rw [after_scan, flush_after]
  cases x.scan with
  | idle => dsimp only; split <;> rfl
  | run ls => dsimp only; split <;> rfl
  | plain base ls => dsimp only; split <;> rfl
  | doc ls => dsimp only; split <;> rfl

theorem feedAll_after (bs : List Text) (x : Lexer) (ls : List Text) :
    (x.after bs).feedAll ls = (x.feedAll ls).after bs := by
  induction ls generalizing x with
  | nil => rfl
  | cons l ls ih => rw [feedAll_cons, feedAll_cons, feed_after, ih]

/-- What an idle lexer finds comes after what it has found. -/
theorem close_feedAll_after (bs ls : List Text) :
    ((({} : Lexer).after bs).feedAll ls).close.blocks = bs ++ blocksOfLines ls := by
  rw [close, feedAll_after, flush_after]
  rfl

/-! ## Ends of sources -/

theorem close_eq_after (x : Lexer) : x.close = ({} : Lexer).after x.close.blocks := by
  rw [close, after, List.append_nil]
  rfl

/-- The blocks of any sequence of steps: the first segment goes on where the lexer stands, and each
of the others is read as if by a fresh one. -/
theorem run_close (x : Lexer) (steps : List Step) : (x.run steps).close.blocks =
    (x.feedAll ((segments steps).head (segments_ne_nil steps))).close.blocks ++
      (segments steps).tail.flatMap blocksOfLines := by
  induction steps generalizing x with
  | nil => simp [segments_nil, run]
  | cons s steps ih =>
    obtain ⟨first, others, hsegments⟩ := List.exists_cons_of_ne_nil (segments_ne_nil steps)
    simp only [hsegments, List.head_cons, List.tail_cons] at ih
    cases s with
    | line source =>
      have hrun : x.run (.line source :: steps) = (x.feed source).run steps := rfl
      simp only [segments_line, hsegments, List.modifyHead_cons, List.head_cons,
        List.tail_cons, feedAll_cons]
      rw [hrun, ih]
    | stop =>
      have hrun : x.run (.stop :: steps) = x.close.run steps := rfl
      simp only [segments_stop, hsegments, List.head_cons, List.tail_cons,
        feedAll_nil, List.flatMap_cons]
      rw [hrun, ih, close_eq_after x, close_feedAll_after, List.append_assoc, ← close_eq_after x]

/-! ## Lines that follow -/

/-- Where a comment cannot go on, the lines that follow are read as if by a fresh lexer. -/
theorem feedAll_resume {x : Lexer} {ls : List Text}
    (h : x.scan = .idle ∨ (∃ ms, x.scan = .run ms) ∧ ∀ l ∈ ls.head?, isSlashLine l = false) :
    (x.feedAll ls).close.blocks = x.close.blocks ++ blocksOfLines ls := by
  rcases h with hidle | ⟨hrun, hfirst⟩
  · have hx : x = ({} : Lexer).after x.close.blocks := by
      rw [after, List.append_nil]
      exact eq_of_idle hidle
    rw [← close_feedAll_after, ← hx]
  · cases ls with
    | nil => exact (List.append_nil _).symm
    | cons l ls =>
      have hl : isSlashLine (trimEnd l) = false := by
        rw [isSlashLine_trimEnd]
        exact hfirst l rfl
      have hfeed : x.feed l = (({} : Lexer).after x.close.blocks).feed l := by
        rw [feed_of_not_slash (Or.inr hrun) hl, feed_of_not_slash (Or.inl rfl) hl]
        exact congrArg (Lexer.mk · _) (List.append_nil _).symm
      rw [feedAll_cons, hfeed, ← feedAll_cons, close_feedAll_after]

/-- The lexer is compositional: steps only add blocks; with the last source ended, the blocks of any
sequence of steps are those of its segments, each read by a fresh lexer; and the blocks of lines are
those of their first part and those of the rest, if a fresh lexer is idle after the first part, or
in a run of `//` lines that the rest does not continue. -/
theorem run_compositional :
    (∀ (steps : List Step) (s : Step), (({} : Lexer).run steps).blocks <+: (({} : Lexer).run (steps ++ [s])).blocks) ∧
    (∀ steps : List Step, (({} : Lexer).run steps).close.blocks = (segments steps).flatMap blocksOfLines) ∧
    ∀ as bs : List Text,
      ((({} : Lexer).feedAll as).scan = .idle ∨
        (∃ ls, (({} : Lexer).feedAll as).scan = .run ls) ∧ ∀ l ∈ bs.head?, isSlashLine l = false) →
      blocksOfLines (as ++ bs) = blocksOfLines as ++ blocksOfLines bs := by
  refine ⟨fun steps s => ?_, fun steps => ?_, fun as bs h => ?_⟩
  · have hstep : ({} : Lexer).run (steps ++ [s]) = (({} : Lexer).run steps).step s := by
      rw [run, List.foldl_append]
      rfl
    rw [hstep]
    exact blocks_prefix_step _ s
  · obtain ⟨first, others, hsegments⟩ := List.exists_cons_of_ne_nil (segments_ne_nil steps)
    rw [run_close]
    simp only [hsegments, List.head_cons, List.tail_cons, List.flatMap_cons]
    rfl
  · rw [blocksOfLines, feedAll_append, feedAll_resume h]
    rfl

/-- A plain comment left open at the end of a source, two ends one after the other, and a run of
`//` lines with a doc comment after it. -/
theorem run_compositional_open :
    let steps : List Step := [.line "/*".toList, .line "  a".toList, .stop, .stop,
      .line "//".toList, .line "// b".toList,
      .stop, .line "c */".toList]
    let as : List Text := ["// x".toList, " //".toList]
    let bs : List Text := ["/**".toList, "* // y".toList]
    (({} : Lexer).run steps).close.blocks = (segments steps).flatMap blocksOfLines ∧
      segments steps = [["/*".toList, "  a".toList], [], ["//".toList, "// b".toList], ["c */".toList]] ∧
      (({} : Lexer).feedAll as).scan = .run ["x".toList, []] ∧
      blocksOfLines (as ++ bs) = blocksOfLines as ++ blocksOfLines bs ∧
      blocksOfLines (as ++ bs) = ["x".toList, "// y".toList] := by
  intro steps as bs
  have hscan : (({} : Lexer).feedAll as).scan = .run ["x".toList, []] := by decide
  have hfirst : ∀ l ∈ bs.head?, isSlashLine l = false := by decide
  refine ⟨run_compositional.2.1 steps, by decide, hscan, ?_, by decide⟩
  exact run_compositional.2.2 as bs (Or.inr ⟨⟨_, hscan⟩, hfirst⟩)

end Lexer

end Stylebook.Comment
