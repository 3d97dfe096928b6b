import Stylebook.Proofs.Comment.Registers
import Stylebook.Proofs.Comment.Writing

/-!
# The indentation of plain comments

A plain comment is read line by line, and its baseline becomes known on the way. Here its block is
given at once, from all its lines.

* `body ls` : the lines of a plain comment from the first that is not blank on; `baseline ls` : the
  blanks that this line begins with;
* `unindent base l` : a line without one `base` in front; `unindented ls` : the block of the lines;
* `gathered ls` : what a lexer stands in after these lines. `Lexer.feed_gathered` is the step, and
  `Lexer.feedAll_gathered`, by induction on the lines, the run;
* `Lexer.flush_gathered` : the block that comes of it.
-/

namespace Stylebook.Comment

open Text

/-- The lines without trailing blanks, from the first that is not blank on. -/
def body (ls : List Text) : List Text := (ls.map trimEnd).dropWhile List.isEmpty

/-- The blanks that the first line of the body begins with. -/
def baseline (ls : List Text) : Text := ((body ls).headD []).takeWhile isBlank

/-- A line without one `base` in front, if it begins so. -/
def unindent (base line : Text) : Text :=
  if base.isPrefixOf line then line.drop base.length else line

/-- The body without the baseline, as one text that does not end in line feeds. -/
def unindented (ls : List Text) : Text :=
  (unlines ((body ls).map (unindent (baseline ls)))).rdropWhile (· == '\n')

/-- What a lexer stands in after the given lines of a plain comment. -/
def gathered (ls : List Text) : Scan :=
  if body ls = [] then .plain none [] else .plain (some (baseline ls))
    ((body ls).map (unindent (baseline ls)))

/-! ## The body -/

theorem body_eq_nil_iff {ls : List Text} : body ls = [] ↔ ∀ l ∈ ls, trim l = [] := by
  simp only [body, List.dropWhile_eq_nil_iff, List.forall_mem_map, List.isEmpty_iff,
    trimEnd_eq_nil_iff, trim_eq_nil_iff]

/-- A line after a body belongs to it; a line before one begins it unless it is blank. -/
theorem body_concat (ls : List Text) (l : Text) :
    body (ls ++ [l]) = if body ls = [] then body [l] else body ls ++ [trimEnd l] := by
  unfold body
  rw [List.map_append, List.dropWhile_append]
  simp only [List.isEmpty_iff, List.map_cons, List.map_nil]

theorem baseline_concat {ls : List Text} (h : body ls ≠ []) (l : Text) :
    baseline (ls ++ [l]) = baseline ls := by
  obtain ⟨first, rest, hbody⟩ := List.exists_cons_of_ne_nil h
  rw [baseline, baseline, body_concat, if_neg h, hbody]
  rfl

/-- The body begins with a line that is more than its indentation. -/
theorem body_first {ls rest : List Text} {first : Text} (h : body ls = first :: rest) :
    trimEnd first = first ∧ first ≠ [] := by
  have hne : body ls ≠ [] := h ▸ List.cons_ne_nil first rest
  have hhead : (body ls).head hne = first := by simp only [h, List.head_cons]
  constructor
  · have hmem : first ∈ ls.map trimEnd :=
      (List.dropWhile_suffix _).subset (hhead ▸ List.head_mem hne)
    obtain ⟨l, -, rfl⟩ := List.mem_map.1 hmem
    exact trimEnd_trimEnd l
  · have hfirst := List.head_dropWhile_not List.isEmpty hne
    rintro rfl
    exact absurd (hhead ▸ hfirst) (by simp)

/-! ## The baseline -/

theorem afterText?_eq_none {p t : Text} (h : ¬p <+: t) : afterText? p t = none := by
  cases hafter : afterText? p t with
  | none => rfl
  | some rest => exact absurd ⟨rest, (eq_append_of_afterText? hafter).symm⟩ h

theorem dropBaseline_eq_unindent (base line : Text) :
    dropBaseline base line = unindent base line := by
  unfold unindent
  split
  · rename_i h
    obtain ⟨rest, rfl⟩ := List.isPrefixOf_iff_prefix.1 h
    rw [dropBaseline_append, List.drop_left]
  · rename_i h
    rw [dropBaseline, afterText?_eq_none (by simpa using h), Option.getD_none]

/-- Without its own indentation a line that is not blank begins with a character that is no
blank. -/
theorem unindent_first {line : Text} (hend : trimEnd line = line) (hne : line ≠ []) :
    ∃ c u, unindent (line.takeWhile isBlank) line = c :: u ∧ isBlank c = false := by
  have hline : unindent (line.takeWhile isBlank) line = trimStart line := by
    rw [← dropBaseline_eq_unindent]
    exact dropBaseline_indentation line
  have hstart : trimStart line ≠ [] := by
    intro hnil
    rw [trimEnd_eq_nil_iff.2 (trimStart_eq_nil_iff.1 hnil)] at hend
    exact hne hend.symm
  obtain ⟨c, u, hcu⟩ := List.exists_cons_of_ne_nil hstart
  refine ⟨c, u, hline.trans hcu, ?_⟩
  exact not_blank_of_trimStart (by rw [← hcu, trimStart_trimStart])

/-! ## Lines of a comment -/

theorem gathered_of_nil {ls : List Text} (h : body ls = []) : gathered ls = .plain none [] :=
  if_pos h

theorem gathered_of_ne {ls : List Text} (h : body ls ≠ []) :
    gathered ls = .plain (some (baseline ls)) ((body ls).map (unindent (baseline ls))) := if_neg h

/-- The first line of a comment that is not blank sets the baseline. -/
theorem addToPlain_none {ls : List Text} (h : body ls = []) (l : Text) :
    addToPlain none [] (trimEnd l) = gathered (ls ++ [l]) := by
  have hbody : body (ls ++ [l]) = if trimEnd l = [] then [] else [trimEnd l] := by
    rw [body_concat, if_pos h, body, List.map_cons, List.map_nil]
    split
    · rename_i hl
      rw [hl]
      rfl
    · rename_i hl
      rw [List.dropWhile_cons_of_neg (by simpa using hl)]
  unfold addToPlain
  by_cases hl : trimEnd l = []
  · rw [if_pos hl] at hbody
    rw [gathered_of_nil hbody, hl]
    rfl
  · rw [if_neg hl] at hbody
    have hbase : baseline (ls ++ [l]) = indentation (trimEnd l) := by
      rw [baseline, hbody]
      rfl
    rw [gathered_of_ne (by rw [hbody]; simp), hbase, hbody]
    simp [hl, dropBaseline_eq_unindent]

/-- The lines that follow lose the baseline if they begin with it. -/
theorem addToPlain_some {ls : List Text} (h : body ls ≠ []) (l : Text) :
    addToPlain (some (baseline ls)) ((body ls).map (unindent (baseline ls))) (trimEnd l) =
      gathered (ls ++ [l]) := by
  have hbody : body (ls ++ [l]) = body ls ++ [trimEnd l] := by rw [body_concat, if_neg h]
  rw [gathered_of_ne (by rw [hbody]; simp), baseline_concat h, hbody, List.map_append]
  simp [addToPlain, dropBaseline_eq_unindent]

namespace Lexer

theorem feed_gathered (bs ls : List Text) {l : Text} (hl : trim l ≠ ['*', '/']) :
    ({ blocks := bs, scan := gathered ls } : Lexer).feed l =
      { blocks := bs, scan := gathered (ls ++ [l]) } := by
  have hopen : isCloser (trimEnd l) = false := by
    rw [isCloser, trim_trimEnd]
    simpa using hl
  by_cases h : body ls = []
  · rw [gathered_of_nil h]
    simp [feed, hopen, addToPlain_none h]
  · rw [gathered_of_ne h]
    simp [feed, hopen, addToPlain_some h]

theorem feedAll_gathered (bs : List Text) {ls : List Text} (hls : ∀ l ∈ ls, trim l ≠ ['*', '/']) :
    ({ blocks := bs, scan := .plain none [] } : Lexer).feedAll ls =
      { blocks := bs, scan := gathered ls } := by
  induction ls using List.reverseRecOn with
  | nil => rfl
  | append_singleton ls l ih =>
    rw [feedAll_append, ih fun m hm => hls m (List.mem_append_left _ hm), feedAll_cons, feedAll_nil,
      feed_gathered bs ls (hls l (by simp))]

end Lexer

/-! ## The block -/

theorem unlines_body {ls : List Text} (h : body ls ≠ []) :
    ∃ c u, unlines ((body ls).map (unindent (baseline ls))) = c :: u ∧ isBlank c = false := by
  obtain ⟨first, rest, hbody⟩ := List.exists_cons_of_ne_nil h
  obtain ⟨hend, hne⟩ := body_first hbody
  obtain ⟨c, u, hcu, hc⟩ := unindent_first hend hne
  have hbase : baseline ls = first.takeWhile isBlank := by
    rw [baseline, hbody]
    rfl
  rw [hbase, hbody, List.map_cons, hcu]
  by_cases hrest : rest.map (unindent (first.takeWhile isBlank)) = []
  · exact ⟨c, u, by rw [hrest, unlines, List.intercalate_singleton], hc⟩
  · exact ⟨c, _, unlines_cons hrest, hc⟩

/-- The block of a comment begins with a character that is no blank. -/
theorem unindented_first {ls : List Text} (h : body ls ≠ []) :
    ∃ c u, unindented ls = c :: u ∧ isBlank c = false := by
  obtain ⟨c, u, hcu, hc⟩ := unlines_body h
  have hblock : unindented ls = (c :: u).rdropWhile (· == '\n') := by rw [unindented, hcu]
  have hne : unindented ls ≠ [] := by
    intro hnil
    rw [hblock, List.rdropWhile_eq_nil_iff] at hnil
    rw [beq_iff_eq.1 (hnil c List.mem_cons_self)] at hc
    exact absurd hc (by decide)
  obtain ⟨d, v, hdv⟩ := List.exists_cons_of_ne_nil hne
  have hpre : d :: v <+: c :: u := by
    rw [← hdv, hblock]
    exact List.rdropWhile_prefix _ _
  exact ⟨c, v, by rw [hdv, (List.cons_prefix_cons.1 hpre).1], hc⟩

namespace Lexer

/-- The end of a plain comment gives its block, unless all its lines are blank. -/
theorem flush_gathered (bs ls : List Text) :
    ({ blocks := bs, scan := gathered ls } : Lexer).flush.blocks =
      bs ++ if body ls = [] then [] else [unindented ls] := by
  split
  · rename_i h
    rw [gathered_of_nil h, flush_blocks_of_no_lines rfl, List.append_nil]
  · rename_i h
    obtain ⟨c, u, hcu, hc⟩ := unlines_body h
    obtain ⟨d, v, hdv, -⟩ := unindented_first h
    have htrim : trimLines (unlines (gathered ls).lines) = unindented ls := by
      have hnewline : (c == '\n') = false := by
        rw [beq_eq_false_iff_ne]
        rintro rfl
        exact absurd hc (by decide)
      rw [gathered_of_ne h, Scan.lines, unindented, hcu, trimLines,
        List.dropWhile_cons_of_neg (by simp [hnewline])]
      rfl
    rw [flush_blocks, htrim, hdv]
    rfl

theorem feed_closer_gathered (bs ls : List Text) :
    ({ blocks := bs, scan := gathered ls } : Lexer).feed ['*', '/'] =
      ({ blocks := bs, scan := gathered ls } : Lexer).flush := by
  by_cases h : body ls = []
  · rw [gathered_of_nil h]
    rfl
  · rw [gathered_of_ne h]
    rfl

theorem blocksOfLines_plain {ls closing : List Text} (hls : ∀ l ∈ ls, trim l ≠ ['*', '/'])
    (hclosing : closing = [] ∨ closing = [['*', '/']]) :
    blocksOfLines (['/', '*'] :: (ls ++ closing)) = if body ls =
      [] then [] else [unindented ls] := by
  have hopen : ({} : Lexer).feed ['/', '*'] = { scan := .plain none [] } := rfl
  rw [blocksOfLines, feedAll_cons, hopen, feedAll_append, feedAll_gathered [] hls]
  rcases hclosing with rfl | rfl
  · rw [feedAll_nil, close, flush_gathered, List.nil_append]
  · rw [feedAll_cons, feedAll_nil, feed_closer_gathered, close, flush_blocks_of_no_lines rfl,
      flush_gathered, List.nil_append]

end Lexer

/-- A plain comment, ended or not, of blank lines gives no block. Any other gives one: its lines
without trailing blanks and without those before the first that is not blank, each without the
indentation of this one if it begins so. The block begins with a character that is no blank. -/
theorem blocks_plain_comment {ls closing : List Text}
    (hls : ∀ l ∈ ls, IsLine l ∧ trim l ≠ ['*', '/'])
    (hclosing : closing = [] ∨ closing = [['*', '/']]) :
    ((∀ l ∈ ls, trim l = []) → blocks (unlines (['/', '*'] :: (ls ++ closing))) = []) ∧
    ((∃ l ∈ ls, trim l ≠ []) → blocks (unlines (['/', '*'] :: (ls ++ closing))) = [unindented ls] ∧
      ∃ c u, unindented ls = c :: u ∧ isBlank c = false) := by
  have hlines : ∀ l ∈ ['/', '*'] :: (ls ++ closing), IsLine l := by
    intro l hl
    rw [List.mem_cons, List.mem_append] at hl
    rcases hl with rfl | hl | hl
    · exact ⟨by decide, by decide⟩
    · exact (hls l hl).1
    · rcases hclosing with rfl | rfl
      · exact absurd hl List.not_mem_nil
      · exact List.mem_singleton.1 hl ▸ ⟨by decide, by decide⟩
  have hblocks := Lexer.blocksOfLines_plain (fun l hl => (hls l hl).2) hclosing
  rw [blocks_unlines hlines, hblocks]
  constructor
  · intro hblank
    rw [if_pos (body_eq_nil_iff.2 hblank)]
  · rintro ⟨l, hl, hne⟩
    have hbody : body ls ≠ [] := fun hnil => hne (body_eq_nil_iff.1 hnil l hl)
    rw [if_neg hbody]
    exact ⟨rfl, unindented_first hbody⟩

/-- Blank lines before the baseline and after it, a line that begins with the baseline twice and one
in which its blanks stand in another order. -/
theorem blocks_plain_comment_tabs :
    let ls : List Text := ["".toList, " \t\t".toList, "\t a ".toList, "\t \t b".toList,
      " \t c".toList, "\t ".toList,
      "*/ // d".toList, " ".toList]
    (∀ l ∈ ls, IsLine l ∧ trim l ≠ ['*', '/']) ∧ (∃ l ∈ ls, trim l ≠ []) ∧
      baseline ls = "\t ".toList ∧ unindented ls = "a\n\t b\n \t c\n\n*/ // d".toList ∧
      blocks (unlines (['/', '*'] :: (ls ++ [['*', '/']]))) = [unindented ls] ∧
      blocks (unlines (['/', '*'] :: (ls ++ []))) = [unindented ls] ∧
      blocks (unlines (['/', '*'] :: (ls.take 2 ++ []))) = [] := by
  intro ls
  have hls : ∀ l ∈ ls, IsLine l ∧ trim l ≠ ['*', '/'] := by decide
  have hword : ∃ l ∈ ls, trim l ≠ [] := by decide
  have hblank : ∀ l ∈ ls.take 2, trim l = [] := by decide
  refine ⟨hls, hword, by decide, by decide, ?_, ?_, ?_⟩
  · exact ((blocks_plain_comment hls (Or.inr rfl)).2 hword).1
  · exact ((blocks_plain_comment hls (Or.inl rfl)).2 hword).1
  · exact (blocks_plain_comment (fun l hl => hls l (List.take_subset 2 ls hl)) (Or.inl rfl)).1 hblank

end Stylebook.Comment
