import Stylebook.Proofs.Comment.Lexer

/-!
# The lexer in registers

A lexer can keep what it stands in, the lines gathered and the baseline in registers that nothing
ties together. A step then changes only the registers that it has to, and relies on what earlier
steps have left in the others.

* `Mode`, `Registers` : the registers; `Registers.feed`, `Registers.close` : a line of source and
  the end of a source;
* `Lexer.registers` : the registers of a lexer; `registers_run` : both take the same steps;
* `Scan.Sound` : what the lines gathered look like in each comment. It is kept by every step
  (`Sound.feed`), and so holds after every run (`Sound.run`);
* `Registers.Sound` : what this says of the registers.
-/

namespace Stylebook.Comment

open Text

/-! ## Registers -/

inductive Mode where
  | idle
  | run
  | plain
  | doc
  deriving DecidableEq

structure Registers where
  blocks : List Text := []
  mode : Mode := .idle
  lines : List Text := []
  baseline : Option Text := none
  deriving DecidableEq

namespace Registers

/-- Ends the comment being read and clears the registers for the next one. -/
def flush (r : Registers) : Registers :=
  let block := trimLines (unlines r.lines)
  { blocks := if block.isEmpty then r.blocks else r.blocks ++ [block] }

def push (r : Registers) (line : Text) : Registers := { r with lines := r.lines ++ [line] }

/-- One more line of a plain comment. The first that is not empty sets the baseline. -/
def pushPlain (r : Registers) (line : Text) : Registers :=
  match r.baseline with
  | some base => r.push (dropBaseline base line)
  | none =>
    if line.isEmpty then r
    else ({ r with baseline := some (indentation line) } : Registers).push
      (dropBaseline (indentation line) line)

/-- One more line of a run. Bare lines before any other are left out. -/
def pushRun (r : Registers) (line : Text) : Registers :=
  if r.lines.isEmpty && isBareSlashLine line then r else r.push (dropSlashes line)

/-- A line that belongs to no comment sets the mode if it opens one. -/
def enter (r : Registers) (line : Text) : Registers :=
  if isDocOpener line then { r with mode := .doc }
  else if isOpener line then { r with mode := .plain }
  else r

def feed (r : Registers) (source : Text) : Registers :=
  let line := trimEnd source
  match r.mode with
  | .idle => if isSlashLine line then ({ r with mode := .run } : Registers).pushRun line else r.enter line
  | .run => if isSlashLine line then r.pushRun line else r.flush.enter line
  | .plain => if isCloser line then r.flush else r.pushPlain line
  | .doc => if isCloser line then r.flush else r.push (dropStar line)

def close (r : Registers) : Registers :=
  if r.lines.isEmpty then { blocks := r.blocks } else r.flush

def step (r : Registers) : Step → Registers
  | .line source => r.feed source
  | .stop => r.close

def run (r : Registers) (steps : List Step) : Registers := steps.foldl step r

end Registers

def Scan.mode : Scan → Mode
  | .idle => .idle
  | .run _ => .run
  | .plain _ _ => .plain
  | .doc _ => .doc

def Scan.baseline? : Scan → Option Text
  | .plain base _ => base
  | _ => none

namespace Lexer

def registers (x : Lexer) : Registers :=
  { blocks := x.blocks, mode := x.scan.mode, lines := x.scan.lines, baseline := x.scan.baseline? }

theorem registers_flush (x : Lexer) : x.registers.flush = x.flush.registers := rfl

theorem registers_close (x : Lexer) : x.registers.close = x.close.registers := by
  unfold Registers.close
  split
  · rename_i h
    have hblocks : x.flush.blocks = x.blocks := flush_blocks_of_no_lines (List.isEmpty_iff.1 h)
    exact congrArg (fun bs => ({ blocks := bs } : Registers)) hblocks.symm
  · exact registers_flush x

/-- Registers that a comment has been cleared from take on what a line opens. -/
theorem enter_registers (bs : List Text) (line : Text) :
    ({ blocks := bs } : Registers).enter line =
      ({ blocks := bs, scan := opened line } : Lexer).registers := by
  unfold Registers.enter opened
  split
  · rfl
  · split <;> rfl

theorem pushRun_registers (bs ls : List Text) (line : Text) :
    ({ blocks := bs, mode := .run, lines := ls } : Registers).pushRun line =
      ({ blocks := bs, scan := .run (addToRun ls line) } : Lexer).registers := by
  unfold Registers.pushRun addToRun
  dsimp only
  split <;> rfl

theorem pushPlain_registers (bs ls : List Text) (base : Option Text) (line : Text) :
    ({ blocks := bs, mode := .plain, lines := ls, baseline := base } : Registers).pushPlain line =
      ({ blocks := bs, scan := addToPlain base ls line } : Lexer).registers := by
  unfold Registers.pushPlain addToPlain
  cases base with
  | some base => rfl
  | none => dsimp only; split <;> rfl

/-- A line of source does the same in registers. -/
theorem registers_feed (x : Lexer) (source : Text) :
    x.registers.feed source = (x.feed source).registers := by
  obtain ⟨bs, scan⟩ := x
  unfold feed
  cases scan with
  | idle =>
    dsimp only
    split
    · rename_i h
      exact (if_pos h).trans (pushRun_registers bs [] _)
    · rename_i h
      exact (if_neg h).trans (enter_registers bs _)
  | run ls =>
    dsimp only
    split
    · rename_i h
      exact (if_pos h).trans (pushRun_registers bs ls _)
    · rename_i h
      exact (if_neg h).trans (enter_registers _ _)
  | plain base ls =>
    dsimp only
    split
    · rename_i h
      exact if_pos h
    · rename_i h
      exact (if_neg h).trans (pushPlain_registers bs ls base _)
  | doc ls =>
    dsimp only
    split
    · rename_i h
      exact if_pos h
    · rename_i h
      exact if_neg h

/-- A lexer and its registers take the same steps. -/
theorem registers_run (x : Lexer) (steps : List Step) :
    x.registers.run steps = (x.run steps).registers := by
  induction steps generalizing x with
  | nil => rfl
  | cons s steps ih =>
    have hstep : x.registers.step s = (x.step s).registers := by
      cases s with
      | line source => exact registers_feed x source
      | stop => exact registers_close x
    have hrun : x.registers.run (s :: steps) = (x.registers.step s).run steps := rfl
    rw [hrun, hstep, ih]
    rfl

end Lexer

/-! ## The first line gathered -/

/-- A `//` line that is more than bare has more than its slashes. -/
theorem dropSlashes_ne_nil {line : Text} (hend : trimEnd line = line)
    (hslash : isSlashLine line = true) (hbare : isBareSlashLine line = false) :
    dropSlashes line ≠ [] := by
  obtain ⟨u, hu⟩ := List.isPrefixOf_iff_prefix.1 hslash
  have hsuffix : u <:+ line := List.IsSuffix.trans ⟨['/', '/'], hu⟩ (trimStart_suffix line)
  have hu_end := trimEnd_eq_self_of_suffix hend hsuffix
  have hdrop : dropSlashes line = dropBlank u := by
    rw [dropSlashes, ← hu]
    rfl
  rw [hdrop]
  cases u with
  | nil =>
    rw [isBareSlashLine, trim_of_trimEnd hend, ← hu] at hbare
    exact absurd hbare (by decide)
  | cons c v =>
    rw [dropBlank]
    split
    · rename_i hc
      rintro rfl
      rw [trimEnd_eq_nil_iff.2 (by simpa using hc)] at hu_end
      exact absurd hu_end (by simp)
    · exact List.cons_ne_nil _ _

/-- The line that sets the baseline loses all its leading blanks. -/
theorem dropBaseline_indentation (line : Text) :
    dropBaseline (indentation line) line = trimStart line := by
  have hsplit : indentation line ++ trimStart line = line := List.takeWhile_append_dropWhile
  have hdrop := dropBaseline_append (indentation line) (trimStart line)
  rwa [hsplit] at hdrop

/-- What the lines gathered look like in each comment: the first is not empty in a run, nor in a
plain comment, where it came with the baseline and has no leading blanks. -/
def Scan.Sound : Scan → Prop
  | .idle => True
  | .run ls => ∀ l ∈ ls.head?, l ≠ []
  | .plain base ls => (base.isSome = true ↔ ls ≠ []) ∧ ∀ l ∈ ls.head?, l ≠ [] ∧ trimStart l = l
  | .doc _ => True

theorem sound_opened (line : Text) : (opened line).Sound := by
  unfold opened
  split
  · trivial
  · split
    · simp [Scan.Sound]
    · trivial

theorem sound_addToRun {ls : List Text} {line : Text} (h : (Scan.run ls).Sound)
    (hend : trimEnd line = line) (hslash : isSlashLine line = true) :
    (Scan.run (addToRun ls line)).Sound := by
  unfold addToRun
  split
  · exact h
  · rename_i hadd
    cases ls with
    | nil =>
      have hbare : isBareSlashLine line = false := by simpa using hadd
      rintro l ⟨⟩
      exact dropSlashes_ne_nil hend hslash hbare
    | cons first rest =>
      rintro l ⟨⟩
      exact h first rfl

theorem sound_addToPlain {base : Option Text} {ls : List Text} {line : Text}
    (h : (Scan.plain base ls).Sound) (hend : trimEnd line = line) :
    (addToPlain base ls line).Sound := by
  obtain ⟨hbase, hfirst⟩ := h
  cases base with
  | some base =>
    obtain ⟨first, rest, rfl⟩ := List.exists_cons_of_ne_nil (hbase.1 rfl)
    refine ⟨by simp, ?_⟩
    rintro l ⟨⟩
    exact hfirst first rfl
  | none =>
    have hls : ls = [] := by simpa using hbase
    subst hls
    unfold addToPlain
    dsimp only
    split
    · exact ⟨hbase, hfirst⟩
    · rename_i hline
      refine ⟨by simp, ?_⟩
      rintro l ⟨⟩
      rw [dropBaseline_indentation]
      refine ⟨fun hnil => ?_, trimStart_trimStart line⟩
      rw [trimEnd_eq_nil_iff.2 (trimStart_eq_nil_iff.1 hnil)] at hend
      exact hline (List.isEmpty_iff.2 hend.symm)

namespace Scan.Sound

theorem feed {x : Lexer} (h : x.scan.Sound) (source : Text) : (x.feed source).scan.Sound := by
  have hend := trimEnd_trimEnd source
  unfold Lexer.feed
  cases hx : x.scan with
  | idle =>
    dsimp only
    split
    · rename_i hslash
      have hempty : (Scan.run []).Sound := by simp [Sound]
      exact sound_addToRun hempty hend hslash
    · exact sound_opened _
  | run ls =>
    dsimp only
    split
    · rename_i hslash
      exact sound_addToRun (hx ▸ h) hend hslash
    · exact sound_opened _
  | plain base ls =>
    dsimp only
    split
    · trivial
    · exact sound_addToPlain (hx ▸ h) hend
  | doc ls =>
    dsimp only
    split
    · trivial
    · trivial

theorem run {x : Lexer} (h : x.scan.Sound) (steps : List Step) : (x.run steps).scan.Sound := by
  induction steps generalizing x with
  | nil => exact h
  | cons s steps ih =>
    cases s with
    | line source => exact ih (h.feed source)
    | stop => exact ih (x := x.close) trivial

end Scan.Sound

/-! ## Registers of a run -/

/-- What the registers of a lexer hold. -/
structure Registers.Sound (r : Registers) : Prop where
  idle : r.mode = .idle → r.lines = []
  baseline : r.baseline.isSome = true → r.mode = .plain
  plain : r.mode = .plain → (r.baseline.isSome = true ↔ r.lines ≠ [])
  first : r.mode = .run ∨ r.mode = .plain → ∀ l ∈ r.lines.head?, l ≠ []
  unindented : r.mode = .plain → ∀ l ∈ r.lines.head?, ∀ c ∈ l.head?, isBlank c = false

theorem not_blank_of_mem_head? {l : Text} {c : Char} (h : trimStart l = l) (hc : c ∈ l.head?) :
    isBlank c = false := by
  obtain ⟨rest, rfl⟩ := List.head?_eq_some_iff.1 hc
  exact not_blank_of_trimStart h

theorem Scan.Sound.registers {x : Lexer} (h : x.scan.Sound) : x.registers.Sound := by
  obtain ⟨bs, scan⟩ := x
  cases scan with
  | idle => exact ⟨fun _ => rfl, nofun, nofun, nofun, nofun⟩
  | run ls => exact ⟨nofun, nofun, nofun, fun _ => h, nofun⟩
  | plain base ls =>
    obtain ⟨hbase, hfirst⟩ := h
    exact ⟨nofun, fun _ => rfl, fun _ => hbase, fun _ l hl => (hfirst l hl).1,
      fun _ l hl _ hc => not_blank_of_mem_head? (hfirst l hl).2 hc⟩
  | doc ls => exact ⟨nofun, nofun, nofun, nofun, nofun⟩

/-- Every block is in the form of blocks, with words in its first line and in its last; and after
every sequence of steps the registers of the lexer hold what they should: no lines between comments,
a baseline only in a plain comment and there from its first line on, and a first line that is
neither empty nor, in a plain comment, indented. -/
theorem lexer_wellFormed :
    (∀ t : Text, ∀ b ∈ blocks t, b ≠ [] ∧ '\r' ∉ b ∧ (∀ l ∈ Text.lines b, ∀ c ∈ l.getLast?, isBlank c = false) ∧
      (∃ c ∈ (Text.lines b).head (lines_ne_nil b), isBlank c = false) ∧
      ∃ c ∈ (Text.lines b).getLast (lines_ne_nil b), isBlank c = false) ∧
    ∀ steps : List Step, ({} : Registers).run steps = (({} : Lexer).run steps).registers ∧
      (({} : Registers).run steps).Sound := by
  refine ⟨fun t b hb => ?_, fun steps => ?_⟩
  · have hblock := isBlock_of_mem_blocks hb
    have hlast : ∀ l ∈ Text.lines b, l ≠ [] → ∃ x c, l = x ++ [c] ∧ isBlank c = false :=
      fun l hl hne => exists_concat_of_trimEnd hne (hblock.trimmed l hl)
    have hword : ∀ l ∈ Text.lines b, l ≠ [] → ∃ c ∈ l, isBlank c = false := by
      intro l hl hne
      obtain ⟨x, c, rfl, hc⟩ := hlast l hl hne
      exact ⟨c, by simp, hc⟩
    refine ⟨hblock.ne_nil, hblock.no_cr, ?_, ?_, ?_⟩
    · intro l hl c hc
      obtain ⟨x, d, rfl, hd⟩ := hlast l hl (by rintro rfl; exact absurd hc (by simp))
      obtain rfl : d = c := by simpa using hc
      exact hd
    · exact hword _ (List.head_mem _) hblock.first
    · exact hword _ (List.getLast_mem _) hblock.last
  · have hrun : ({} : Registers).run steps = (({} : Lexer).run steps).registers :=
      Lexer.registers_run {} steps
    have hsound : (({} : Lexer).run steps).scan.Sound := Scan.Sound.run (x := {}) trivial steps
    exact ⟨hrun, hrun ▸ hsound.registers⟩

/-- A plain comment that begins with blank lines and goes on less indented than it began. -/
theorem lexer_wellFormed_plain :
    let t : Text := "//\r\n /*\t\r\n \n\t  a \r  b\n\n".toList
    let b : Text := "a\n  b".toList
    let steps := (Text.lines (unifyNewlines t)).map Step.line
    let r : Registers :=
      { mode := .plain, lines := ["a".toList, "  b".toList, [], []], baseline := some "\t  ".toList }
    blocks t = [b] ∧ (b ≠ [] ∧ '\r' ∉ b ∧ (∀ l ∈ Text.lines b, ∀ c ∈ l.getLast?, isBlank c = false) ∧
      (∃ c ∈ (Text.lines b).head (lines_ne_nil b), isBlank c = false) ∧
      ∃ c ∈ (Text.lines b).getLast (lines_ne_nil b), isBlank c = false) ∧
      ({} : Registers).run steps = r ∧ r.Sound := by
  intro t b steps r
  have hblocks : blocks t = [b] := by decide
  have hrun : ({} : Registers).run steps = r := by decide
  exact ⟨hblocks, lexer_wellFormed.1 t b (hblocks ▸ List.mem_singleton_self b), hrun,
    hrun ▸ (lexer_wellFormed.2 steps).2⟩

end Stylebook.Comment
