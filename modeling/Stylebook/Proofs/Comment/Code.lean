import Stylebook.Proofs.Comment.Writing
import Stylebook.Section.Reader

/-!
# Code between comments

* `Lexer.ReadsCode x l` : the line `l` is code where the lexer `x` stands. The same line may be part
  of a comment elsewhere;
* `Recoded x ls ms` : the lines `ms` differ from the lines `ls` in their code only, where `ls` are
  read from `x` on. Lines of code may be replaced by others, and left out where no run of `//` lines
  ends at them;
* `Lexer.feed_code` : what one line of code does; `Lexer.feedAll_recoded`, by induction on the lines
  : a lexer ends in one state after both.
-/

namespace Stylebook

open Text

namespace Comment

/-- The line is code where the lexer stands: neither in a plain nor in a doc comment, no `//`
comment, no opener. -/
structure Lexer.ReadsCode (x : Lexer) (l : Text) : Prop where
  between : x.Between
  inert : IsInert (trimEnd l)

/-- The lines `ms` are the lines `ls` with other code, if a lexer reads `ls` from the state `x`
on. -/
inductive Recoded : Lexer → List Text → List Text → Prop where
  | nil (x : Lexer) : Recoded x [] []
  | keep {x : Lexer} {l : Text} {ls ms : List Text} (h : Recoded (x.feed l) ls ms) : Recoded x (l :: ls) (l :: ms)
  | replace {x : Lexer} {l : Text} {ls ms : List Text} (code : List Text) (hl : x.ReadsCode l) (hne : code ≠ [])
      (hcode : ∀ c ∈ code, IsInert c) (h : Recoded (x.feed l) ls ms) :
        Recoded x (l :: ls) (code ++ ms)
  | delete {x : Lexer} {l : Text} {ls ms : List Text} (hl : x.ReadsCode l) (hidle : x.scan = .idle)
      (h : Recoded (x.feed l) ls ms) : Recoded x (l :: ls) ms

theorem isInert_trimEnd {l : Text} (h : IsInert (trimEnd l)) : IsInert l :=
  ⟨(isSlashLine_trimEnd l).symm.trans h.not_slash, (isOpener_trimEnd l).symm.trans h.not_opener⟩

namespace Lexer

/-- A line of code ends the run that there may be, and opens nothing. -/
theorem feed_code {x : Lexer} {l : Text} (h : x.ReadsCode l) :
    x.feed l = { blocks := x.flush.blocks } :=
  feed_inert h.between (isInert_trimEnd h.inert)

theorem feedAll_code_eq_feed {x : Lexer} {l : Text} {code : List Text} (h : x.ReadsCode l)
    (hne : code ≠ []) (hcode : ∀ c ∈ code, IsInert c) : x.feedAll code = x.feed l := by
  rw [feedAll_inert h.between hcode, if_neg hne, feed_code h]

/-- Between comments, a line of code does nothing. -/
theorem feed_code_of_idle {x : Lexer} {l : Text} (h : x.ReadsCode l) (hidle : x.scan = .idle) :
    x.feed l = x := by
  rw [feed_code h, ← eq_of_idle hidle]

/-- A lexer ends in one state after lines and after the same lines with other code. -/
theorem feedAll_recoded {x : Lexer} {ls ms : List Text} (h : Recoded x ls ms) :
    x.feedAll ms = x.feedAll ls := by
  induction h with
  | nil x => rfl
  | keep h ih => rw [feedAll_cons, feedAll_cons, ih]
  | replace code hl hne hcode h ih => rw [feedAll_append, feedAll_code_eq_feed hl hne hcode, ih, feedAll_cons]
  | delete hl hidle h ih => rw [feedAll_cons, ← ih, feed_code_of_idle hl hidle]

end Lexer

/-- The code of a stylesheet has no influence on what is found in it: lines with other code give the
same blocks, and the same sections to every reader. -/
theorem blocks_recoded {ls ms : List Text} (h : Recoded {} ls ms) :
    blocksOfLines ms = blocksOfLines ls ∧
    ((∀ l ∈ ls, IsLine l) → (∀ l ∈ ms, IsLine l) → blocks (unlines ms) = blocks (unlines ls) ∧
      ∀ r : Reader, r.sheet (unlines ms) = r.sheet (unlines ls)) := by
  have hfed : blocksOfLines ms = blocksOfLines ls := by
    rw [blocksOfLines, Lexer.feedAll_recoded h, blocksOfLines]
  refine ⟨hfed, fun hls hms => ?_⟩
  have hblocks : blocks (unlines ms) = blocks (unlines ls) := by
    rw [blocks_unlines hms, blocks_unlines hls, hfed]
  exact ⟨hblocks, fun r => by rw [Reader.sheet, hblocks, Reader.sheet]⟩

/-- Code before a run, at its end and after it, with an end of comment among the new lines; the same
text stays in a plain comment. -/
theorem blocks_recoded_run :
    let ls : List Text := ["a { }".toList, "// x".toList, "b".toList, "c".toList,
      "/*".toList, "b".toList, "*/".toList,
      "d // e".toList]
    let ms : List Text := ["// x".toList, "*/".toList, " /* y */".toList, "/*".toList,
      "b".toList, "*/".toList, "f".toList]
    Recoded {} ls ms ∧ blocksOfLines ms = blocksOfLines ls ∧ (blocks (unlines ms) = blocks (unlines ls) ∧
      ∀ r : Reader, r.sheet (unlines ms) = r.sheet (unlines ls)) ∧
          blocks (unlines ls) = ["x".toList, "b".toList] := by
  intro ls ms
  have hidle : ∀ {x : Lexer} {l : Text}, x.scan = .idle → IsInert (trimEnd l) → x.ReadsCode l :=
    fun hx hl => ⟨Or.inl hx, hl⟩
  have h : Recoded {} ls ms := by
    refine .delete (hidle rfl (by decide)) rfl (.keep ?_)
    refine .replace ["*/".toList, " /* y */".toList] ⟨Or.inr ⟨_, rfl⟩, by decide⟩ (by simp) (by decide) ?_
    refine .delete (hidle rfl (by decide)) rfl (.keep (.keep (.keep ?_)))
    exact .replace ["f".toList] (hidle (by decide) (by decide)) (by simp) (by decide) (.nil _)
  exact ⟨h, (blocks_recoded h).1, (blocks_recoded h).2 (by decide) (by decide), by decide⟩

/-- A line of code that ends a run cannot be left out. -/
example :
    blocksOfLines ["// x".toList, "// y".toList] ≠
      blocksOfLines ["// x".toList, "b".toList, "// y".toList] := by
  decide

end Comment

end Stylebook
