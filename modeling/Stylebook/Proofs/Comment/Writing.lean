import Stylebook.Proofs.Comment.Lexer

/-!
# Writing comments

* `Style` : the ways to write a block as a comment: as `//` lines, as a doc comment, or as a plain
  comment with an indentation; `Style.Fits` tells which blocks a style can carry;
* `IsInert` : a text that neither is a `//` comment nor opens a comment; `IsCode` : a line of source
  like this;
* `Piece` : a block in a style, with lines of code before it; `write` : the stylesheet of several
  pieces;
* `Writable` : the pieces can be told apart, that is, there is code between two runs of `//` lines;
* `Lexer.feedAll_piece` : what the lexer gathers from one piece, and `blocks_write`, from it, that
  the blocks of a written stylesheet are the blocks written.
-/

namespace Stylebook.Comment

open Text

/-! ## Styles -/

inductive Style where
  | slashes
  | doc
  | plain (indent : Text)
  deriving DecidableEq

namespace Style

def opening : Style → List Text
  | slashes => []
  | doc => [['/', '*', '*']]
  | plain _ => [['/', '*']]

/-- What stands before each line of the block. -/
def lead : Style → Text
  | slashes => ['/', '/', ' ']
  | doc => [' ', '*', ' ']
  | plain indent => indent

def closing : Style → List Text
  | slashes => []
  | doc => [[' ', '*', '/']]
  | plain _ => [['*', '/']]

def comment (s : Style) (ls : List Text) : List Text :=
  s.opening ++ ls.map (s.lead ++ ·) ++ s.closing

/-- The block can be written in the style. A plain comment needs an indentation of blanks, takes its
baseline from the first line and ends at the first line that looks like its end; the other styles
can carry every block. -/
def Fits (b : Text) : Style → Prop
  | slashes => True
  | doc => True
  | plain indent => (∀ c ∈ indent, isBlank c = true) ∧ IsLine indent ∧
      trimStart ((lines b).head (lines_ne_nil b)) = (lines b).head (lines_ne_nil b) ∧
      ∀ l ∈ lines b, trim l ≠ ['*', '/']

end Style

/-- A line of source that is no `//` comment and opens no comment. -/
structure IsCode (l : Text) : Prop where
  isLine : IsLine l
  not_slash : isSlashLine l = false
  not_opener : isOpener l = false

/-- A text that is no `//` comment and opens no comment, whatever else stands in it. -/
structure IsInert (l : Text) : Prop where
  not_slash : isSlashLine l = false
  not_opener : isOpener l = false

theorem IsCode.isInert {l : Text} (h : IsCode l) : IsInert l := ⟨h.not_slash, h.not_opener⟩

/-- A block to be written, after lines of code. -/
structure Piece where
  gap : List Text := []
  style : Style
  block : Text
  deriving DecidableEq

def Piece.lines (p : Piece) : List Text := p.gap ++ p.style.comment (Text.lines p.block)

/-- The stylesheet of the given pieces, with lines of code at its end. -/
def write (ps : List Piece) (tail : List Text) : Text := unlines (ps.flatMap Piece.lines ++ tail)

/-- The pieces follow each other without two runs of `//` lines that touch. -/
def Apart (p q : Piece) : Prop := p.style = .slashes → q.style = .slashes → q.gap ≠ []

structure Writable (ps : List Piece) (tail : List Text) : Prop where
  isBlock : ∀ p ∈ ps, IsBlock p.block
  fits : ∀ p ∈ ps, p.style.Fits p.block
  gaps : ∀ p ∈ ps, ∀ l ∈ p.gap, IsCode l
  tail : ∀ l ∈ tail, IsCode l
  apart : ps.IsChain Apart

instance (b : Text) : (s : Style) → Decidable (s.Fits b)
  | .slashes => isTrue trivial
  | .doc => isTrue trivial
  | .plain indent => decidable_of_iff (indent.all isBlank = true ∧ IsLine indent ∧
      trimStart ((lines b).head (lines_ne_nil b)) = (lines b).head (lines_ne_nil b) ∧
      ∀ l ∈ lines b, trim l ≠ ['*', '/']) (and_congr_left' List.all_eq_true)

instance (l : Text) : Decidable (IsCode l) :=
  decidable_of_iff (IsLine l ∧ isSlashLine l = false ∧ isOpener l = false)
    ⟨fun h => ⟨h.1, h.2.1, h.2.2⟩, fun h => ⟨h.1, h.2, h.3⟩⟩

instance (l : Text) : Decidable (IsInert l) :=
  decidable_of_iff (isSlashLine l = false ∧ isOpener l = false) ⟨fun h => ⟨h.1, h.2⟩, fun h => ⟨h.1, h.2⟩⟩

instance (p q : Piece) : Decidable (Apart p q) := inferInstanceAs (Decidable (_ → _ → _))

instance (ps : List Piece) (tail : List Text) : Decidable (Writable ps tail) :=
  decidable_of_iff ((∀ p ∈ ps, IsBlock p.block) ∧ (∀ p ∈ ps, p.style.Fits p.block) ∧
      (∀ p ∈ ps, ∀ l ∈ p.gap, IsCode l) ∧ (∀ l ∈ tail, IsCode l) ∧ ps.IsChain Apart)
    ⟨fun h => ⟨h.1, h.2.1, h.2.2.1, h.2.2.2.1, h.2.2.2.2⟩, fun h => ⟨h.1, h.2, h.3, h.4, h.5⟩⟩

/-! ## Single lines -/

theorem isPrefixOf_slashes_iff {t : Text} :
    ['/', '/'].isPrefixOf t = true ↔ ∃ u, t = '/' :: '/' :: u := by
  rw [List.isPrefixOf_iff_prefix]
  exact ⟨fun ⟨u, hu⟩ => ⟨u, hu.symm⟩, fun ⟨u, hu⟩ => ⟨u, hu.symm⟩⟩

/-- Trailing blanks do not matter to whether a line is a `//` comment. -/
theorem isSlashLine_trimEnd (l : Text) : isSlashLine (trimEnd l) = isSlashLine l := by
  have hslash : isBlank '/' = false := by decide
  unfold isSlashLine
  rw [trimStart_trimEnd, trim, Bool.eq_iff_iff, isPrefixOf_slashes_iff, isPrefixOf_slashes_iff]
  constructor
  · rintro ⟨u, hu⟩
    obtain ⟨b, hb, -⟩ := trimEnd_suffix_split (trimStart l)
    exact ⟨u ++ b, by rw [hb, hu]; rfl⟩
  · rintro ⟨u, hu⟩
    exact ⟨trimEnd u, by rw [hu, trimEnd_cons_of_not_blank hslash, trimEnd_cons_of_not_blank hslash]⟩

theorem isOpener_of_isDocOpener {l : Text} (h : isDocOpener l = true) : isOpener l = true := by
  rw [isDocOpener, beq_iff_eq] at h
  rw [isOpener, h]
  rfl

theorem isOpener_trimEnd (l : Text) : isOpener (trimEnd l) = isOpener l := by
  unfold isOpener
  rw [trim_trimEnd]

theorem IsInert.opened {l : Text} (h : IsInert l) : opened (trimEnd l) = .idle := by
  have hopen : isOpener (trimEnd l) = false := (isOpener_trimEnd l).trans h.not_opener
  have hdoc : isDocOpener (trimEnd l) = false := by
    by_contra hd
    rw [isOpener_of_isDocOpener (by simpa using hd)] at hopen
    exact absurd hopen (by decide)
  simp [Comment.opened, hdoc, hopen]

/-- A written line without trailing blanks: the lead stays only before a line that is not empty. -/
theorem trimEnd_lead_append (lead : Text) {l : Text} (hl : trimEnd l = l) :
    trimEnd (lead ++ l) = if l = [] then trimEnd lead else lead ++ l := by
  split
  · rename_i h
    rw [h, List.append_nil]
  · rename_i h
    rw [trimEnd_append_of_ne_nil _ (by rwa [hl]), hl]

theorem isSlashLine_slashes (l : Text) :
    isSlashLine (trimEnd (Style.slashes.lead ++ l)) = true := by
  rw [isSlashLine_trimEnd]
  rfl

theorem dropSlashes_slashes {l : Text} (hl : trimEnd l = l) :
    dropSlashes (trimEnd (Style.slashes.lead ++ l)) = l := by
  rw [trimEnd_lead_append _ hl]
  split
  · rename_i h
    rw [h]
    decide
  · rfl

theorem isBareSlashLine_slashes {l : Text} (hl : trimEnd l = l) :
    isBareSlashLine (trimEnd (Style.slashes.lead ++ l)) = l.isEmpty := by
  unfold isBareSlashLine
  rw [trim_of_trimEnd (trimEnd_trimEnd _), trimEnd_lead_append _ hl]
  cases l with
  | nil => decide
  | cons c l => rfl

theorem isCloser_doc {l : Text} (hl : trimEnd l = l) :
    isCloser (trimEnd (Style.doc.lead ++ l)) = false := by
  unfold isCloser
  rw [trim_of_trimEnd (trimEnd_trimEnd _), trimEnd_lead_append _ hl]
  cases l with
  | nil => decide
  | cons c l => rfl

theorem dropStar_doc {l : Text} (hl : trimEnd l = l) :
    dropStar (trimEnd (Style.doc.lead ++ l)) = l := by
  rw [trimEnd_lead_append _ hl]
  split
  · rename_i h
    rw [h]
    decide
  · rfl

theorem isCloser_plain {indent l : Text} (hi : ∀ c ∈ indent, isBlank c = true)
    (hend : trim l ≠ ['*', '/']) : isCloser (trimEnd (indent ++ l)) = false := by
  rw [isCloser, trim_trimEnd, trim_append_of_blank hi]
  simpa using hend

/-- The line that sets the baseline. -/
theorem addToPlain_first {indent l : Text} (hi : ∀ c ∈ indent, isBlank c = true)
    (hl : trimEnd l = l) (hne : l ≠ []) (hs : trimStart l = l) :
    addToPlain none [] (trimEnd (indent ++ l)) = .plain (some indent) [l] := by
  have hindent : indentation (indent ++ l) = indent := by
    obtain ⟨c, u, rfl⟩ := List.exists_cons_of_ne_nil hne
    have hc : isBlank c = false := not_blank_of_trimStart hs
    rw [indentation, List.takeWhile_append_of_pos hi, List.takeWhile_cons_of_neg (by simp [hc]),
      List.append_nil]
  rw [trimEnd_lead_append _ hl, if_neg hne]
  simp [addToPlain, hne, hindent, dropBaseline_append]

theorem addToPlain_next {indent l : Text} (hi : ∀ c ∈ indent, isBlank c = true) (hl : trimEnd l = l)
    (ls : List Text) :
    addToPlain (some indent) ls (trimEnd (indent ++ l)) = .plain (some indent) (ls ++ [l]) := by
  rw [trimEnd_lead_append _ hl]
  split
  · rename_i h
    have hempty : dropBaseline indent [] = [] := List.suffix_nil.1 (dropBaseline_suffix indent [])
    rw [trimEnd_eq_nil_iff.2 hi, h, addToPlain, hempty]
  · rw [addToPlain, dropBaseline_append]

/-! ## Several lines -/

namespace Lexer

@[simp] theorem feedAll_nil (x : Lexer) : x.feedAll [] = x := rfl

@[simp] theorem feedAll_cons (x : Lexer) (l : Text) (ls : List Text) :
    x.feedAll (l :: ls) = (x.feed l).feedAll ls := rfl

theorem feedAll_append (x : Lexer) (ls ms : List Text) :
    x.feedAll (ls ++ ms) = (x.feedAll ls).feedAll ms :=
  List.foldl_append

/-- The lexer stands neither in a plain nor in a doc comment. -/
def Between (x : Lexer) : Prop := x.scan = .idle ∨ ∃ ls, x.scan = .run ls

theorem eq_of_idle {x : Lexer} (h : x.scan = .idle) : x = { blocks := x.flush.blocks } := by
  obtain ⟨blocks, scan⟩ := x
  subst h
  rfl

/-- Outside of plain and doc comments, a line that is no `//` comment ends what there is and opens
what it may. -/
theorem feed_of_not_slash {x : Lexer} (hx : x.Between) {l : Text}
    (hl : isSlashLine (trimEnd l) = false) :
    x.feed l = { blocks := x.flush.blocks, scan := opened (trimEnd l) } := by
  rcases hx with hx | ⟨ls, hx⟩
  · have hflush : x.flush.blocks = x.blocks := flush_blocks_of_no_lines (by rw [hx]; rfl)
    simp [feed, hx, hl, hflush]
  · simp [feed, hx, hl]

theorem feed_inert {x : Lexer} (hx : x.Between) {l : Text} (hl : IsInert l) :
    x.feed l = { blocks := x.flush.blocks } := by
  rw [feed_of_not_slash hx ((isSlashLine_trimEnd l).trans hl.not_slash), hl.opened]

theorem feedAll_inert {x : Lexer} (hx : x.Between) {ls : List Text} (hls : ∀ l ∈ ls, IsInert l) :
    x.feedAll ls = if ls = [] then x else { blocks := x.flush.blocks } := by
  induction ls generalizing x with
  | nil => rfl
  | cons l ls ih =>
    rw [feedAll_cons, feed_inert hx (hls l List.mem_cons_self),
      ih (Or.inl rfl) fun m hm => hls m (List.mem_cons_of_mem _ hm), if_neg (List.cons_ne_nil l ls)]
    split <;> rfl

theorem feedAll_code {x : Lexer} (hx : x.Between) {ls : List Text} (hls : ∀ l ∈ ls, IsCode l) :
    x.feedAll ls = if ls = [] then x else { blocks := x.flush.blocks } :=
  feedAll_inert hx fun l hl => (hls l hl).isInert

theorem feedAll_slashes (bs : List Text) {acc ls : List Text} (hacc : acc ≠ [])
    (hls : ∀ l ∈ ls, trimEnd l = l) :
    ({ blocks := bs, scan := .run acc } : Lexer).feedAll (ls.map (Style.slashes.lead ++ ·)) =
      { blocks := bs, scan := .run (acc ++ ls) } := by
  induction ls generalizing acc with
  | nil => simp
  | cons l ls ih =>
    have hl := hls l List.mem_cons_self
    have hfeed : ({ blocks := bs, scan := .run acc } : Lexer).feed (Style.slashes.lead ++ l) =
        { blocks := bs, scan := .run (acc ++ [l]) } := by
      simp [feed, isSlashLine_slashes, addToRun, hacc, dropSlashes_slashes hl]
    rw [List.map_cons, feedAll_cons, hfeed, ih (by simp) fun m hm => hls m (List.mem_cons_of_mem _ hm),
      List.append_assoc, List.singleton_append]

theorem feedAll_doc (bs : List Text) {acc ls : List Text} (hls : ∀ l ∈ ls, trimEnd l = l) :
    ({ blocks := bs, scan := .doc acc } : Lexer).feedAll (ls.map (Style.doc.lead ++ ·)) =
      { blocks := bs, scan := .doc (acc ++ ls) } := by
  induction ls generalizing acc with
  | nil => simp
  | cons l ls ih =>
    have hl := hls l List.mem_cons_self
    have hfeed : ({ blocks := bs, scan := .doc acc } : Lexer).feed (Style.doc.lead ++ l) =
        { blocks := bs, scan := .doc (acc ++ [l]) } := by
      simp [feed, isCloser_doc hl, dropStar_doc hl]
    rw [List.map_cons, feedAll_cons, hfeed, ih fun m hm => hls m (List.mem_cons_of_mem _ hm),
      List.append_assoc, List.singleton_append]

theorem feedAll_plain (bs : List Text) {indent : Text} (hi : ∀ c ∈ indent, isBlank c = true)
    {acc ls : List Text} (hls : ∀ l ∈ ls, trimEnd l = l ∧ trim l ≠ ['*', '/']) :
    ({ blocks := bs, scan := .plain (some indent) acc } : Lexer).feedAll (ls.map (indent ++ ·)) =
      { blocks := bs, scan := .plain (some indent) (acc ++ ls) } := by
  induction ls generalizing acc with
  | nil => simp
  | cons l ls ih =>
    obtain ⟨hl, hend⟩ := hls l List.mem_cons_self
    have hfeed : ({ blocks := bs, scan := .plain (some indent) acc } : Lexer).feed (indent ++ l) =
        { blocks := bs, scan := .plain (some indent) (acc ++ [l]) } := by
      simp [feed, isCloser_plain hi hend, addToPlain_next hi hl]
    rw [List.map_cons, feedAll_cons, hfeed, ih fun m hm => hls m (List.mem_cons_of_mem _ hm),
      List.append_assoc, List.singleton_append]

/-! ## A written block -/

theorem flush_of_lines {b : Text} (hb : IsBlock b) (bs : List Text) (scan : Scan)
    (h : scan.lines = Text.lines b) :
    ({ blocks := bs, scan := scan } : Lexer).flush = { blocks := bs ++ [b] } := by
  have hun : unlines scan.lines = b := by rw [h, unlines_lines]
  have := flush_of_isBlock (x := { blocks := bs, scan := scan }) (by rwa [hun])
  rwa [hun] at this

/-- A run of `//` lines is still being read after its last line. -/
theorem feedAll_comment_slashes {b : Text} (hb : IsBlock b) (bs : List Text) :
    ({ blocks := bs } : Lexer).feedAll (Style.slashes.comment (Text.lines b)) =
      { blocks := bs, scan := .run (Text.lines b) } := by
  obtain ⟨first, rest, hlines⟩ := List.exists_cons_of_ne_nil (lines_ne_nil b)
  have htrim := hb.trimmed
  have hfirst := hb.first
  simp only [hlines, List.head_cons] at htrim hfirst
  have hl := htrim first List.mem_cons_self
  have hfeed : ({ blocks := bs } : Lexer).feed (Style.slashes.lead ++ first) =
      { blocks := bs, scan := .run [first] } := by
    simp [feed, isSlashLine_slashes, addToRun, isBareSlashLine_slashes hl,
      hfirst, dropSlashes_slashes hl]
  rw [hlines, Style.comment, Style.opening, Style.closing, List.nil_append, List.append_nil,
    List.map_cons, feedAll_cons, hfeed, feedAll_slashes bs (by simp) fun m hm =>
    htrim m (List.mem_cons_of_mem _ hm), List.singleton_append]

theorem feedAll_comment_doc {b : Text} (hb : IsBlock b) {x : Lexer} (hx : x.Between) :
    x.feedAll (Style.doc.comment (Text.lines b)) = { blocks := x.flush.blocks ++ [b] } := by
  have hopen : x.feed ['/', '*', '*'] = { blocks := x.flush.blocks, scan := .doc [] } :=
    feed_of_not_slash hx (by decide)
  have hclose : ({ blocks := x.flush.blocks, scan := .doc (Text.lines b) } : Lexer).feed [' ', '*',
      '/'] = { blocks := x.flush.blocks ++ [b] } := by
    rw [← flush_of_lines hb x.flush.blocks (.doc (Text.lines b)) rfl]
    rfl
  rw [Style.comment, feedAll_append, feedAll_append, Style.opening, feedAll_cons, feedAll_nil,
    hopen, feedAll_doc _ hb.trimmed, List.nil_append, Style.closing,
    feedAll_cons, feedAll_nil, hclose]

theorem feedAll_comment_plain {b indent : Text} (hb : IsBlock b)
    (hfits : (Style.plain indent).Fits b) {x : Lexer} (hx : x.Between) :
    x.feedAll ((Style.plain indent).comment (Text.lines b)) =
      { blocks := x.flush.blocks ++ [b] } := by
  obtain ⟨hi, -, hstart, hend⟩ := hfits
  have hopen : x.feed ['/', '*'] = { blocks := x.flush.blocks, scan := .plain none [] } :=
    feed_of_not_slash hx (by decide)
  have hclose : ({ blocks := x.flush.blocks, scan := .plain (some indent) (Text.lines b) } : Lexer).feed ['*', '/'] =
      { blocks := x.flush.blocks ++ [b] } := by
    rw [← flush_of_lines hb x.flush.blocks (.plain (some indent) (Text.lines b)) rfl]
    rfl
  obtain ⟨first, rest, hlines⟩ := List.exists_cons_of_ne_nil (lines_ne_nil b)
  have htrim := hb.trimmed
  have hfirst := hb.first
  simp only [hlines, List.head_cons] at htrim hfirst hstart hend
  have hfeed : ({ blocks := x.flush.blocks, scan := .plain none [] } : Lexer).feed (indent ++ first) =
      { blocks := x.flush.blocks, scan := .plain (some indent) [first] } := by
    simp [feed, isCloser_plain hi (hend first List.mem_cons_self),
      addToPlain_first hi (htrim first List.mem_cons_self) hfirst hstart]
  have hrest : ∀ m ∈ rest, trimEnd m = m ∧ trim m ≠ ['*', '/'] :=
    fun m hm => ⟨htrim m (List.mem_cons_of_mem _ hm), hend m (List.mem_cons_of_mem _ hm)⟩
  rw [hlines] at hclose
  rw [Style.comment, feedAll_append, feedAll_append, Style.opening, feedAll_cons, feedAll_nil,
    hopen, hlines, List.map_cons, feedAll_cons, Style.lead, hfeed, feedAll_plain _ hi hrest,
    List.singleton_append, Style.closing, feedAll_cons, feedAll_nil, hclose]

/-! ## Written stylesheets -/

/-- After a piece the lexer has one more block, if it counts the run that it may stand in. -/
theorem feedAll_piece {p : Piece} (hb : IsBlock p.block) (hfits : p.style.Fits p.block)
    (hgap : ∀ l ∈ p.gap, IsCode l) {x : Lexer} (hx : x.Between)
    (hstart : p.style = .slashes → p.gap = [] → x.scan = .idle) :
    (x.feedAll p.lines).flush.blocks = x.flush.blocks ++ [p.block] ∧ (x.feedAll p.lines).Between ∧
      (p.style ≠ .slashes → (x.feedAll p.lines).scan = .idle) := by
  obtain ⟨y, hy⟩ : ∃ y, y = x.feedAll p.gap := ⟨_, rfl⟩
  have hcode := hy.trans (feedAll_code hx hgap)
  have hbetween : y.Between := by
    rw [hcode]
    split
    · exact hx
    · exact Or.inl rfl
  have hblocks : y.flush.blocks = x.flush.blocks := by
    rw [hcode]
    split <;> rfl
  rw [Piece.lines, feedAll_append, ← hy, ← hblocks]
  cases hs : p.style with
  | slashes =>
    have hidle : y.scan = .idle := by
      rw [hcode]
      split
      · rename_i hempty
        exact hstart hs hempty
      · rfl
    have hrun := feedAll_comment_slashes hb y.flush.blocks
    rw [← eq_of_idle hidle] at hrun
    rw [hrun, flush_of_lines hb y.flush.blocks (.run (Text.lines p.block)) rfl]
    exact ⟨rfl, Or.inr ⟨_, rfl⟩, fun h => absurd rfl h⟩
  | doc =>
    rw [feedAll_comment_doc hb hbetween]
    exact ⟨rfl, Or.inl rfl, fun _ => rfl⟩
  | plain indent =>
    rw [feedAll_comment_plain hb (hs ▸ hfits) hbetween]
    exact ⟨rfl, Or.inl rfl, fun _ => rfl⟩

/-- After several pieces the lexer has the block of each, in order: a piece may follow at once
unless both are runs, and then it has lines of code before it. -/
theorem feedAll_pieces {ps : List Piece} {tail : List Text} (h : Writable ps tail) {x : Lexer}
    (hx : x.Between) (hstart : ∀ p ∈ ps.head?, p.style = .slashes → p.gap = [] → x.scan = .idle) :
    (x.feedAll (ps.flatMap Piece.lines ++ tail)).flush.blocks =
      x.flush.blocks ++ ps.map (·.block) := by
  induction ps generalizing x with
  | nil =>
    rw [List.flatMap_nil, List.nil_append, feedAll_code hx h.tail, List.map_nil, List.append_nil]
    split <;> rfl
  | cons p ps ih =>
    obtain ⟨hblocks, hbetween, hidle⟩ := feedAll_piece (h.isBlock p List.mem_cons_self)
      (h.fits p List.mem_cons_self) (h.gaps p List.mem_cons_self) hx (hstart p rfl)
    have hrest : Writable ps tail :=
      ⟨fun q hq => h.isBlock q (List.mem_cons_of_mem _ hq), fun q hq => h.fits q (List.mem_cons_of_mem _ hq),
        fun q hq => h.gaps q (List.mem_cons_of_mem _ hq), h.tail, h.apart.of_cons⟩
    have hnext : ∀ q ∈ ps.head?, q.style = .slashes → q.gap = [] →
        (x.feedAll p.lines).scan = .idle := by
      intro q hq hqs hqgap
      refine hidle fun hps => ?_
      cases ps with
      | nil => exact absurd hq (by simp)
      | cons q' ps =>
        obtain rfl : q' = q := by simpa using hq
        exact (List.isChain_cons_cons.1 h.apart).1 hps hqs hqgap
    rw [List.flatMap_cons, List.append_assoc, feedAll_append, ih hrest hbetween hnext, hblocks,
      List.map_cons, List.append_assoc, List.singleton_append]

end Lexer

theorem IsLine.append {l m : Text} (hl : IsLine l) (hm : IsLine m) : IsLine (l ++ m) := by
  constructor
  · exact fun h => (List.mem_append.1 h).elim hl.no_lf hm.no_lf
  · exact fun h => (List.mem_append.1 h).elim hl.no_cr hm.no_cr

theorem isLine_of_mem_comment {s : Style} {b l : Text} (hb : IsBlock b) (hfits : s.Fits b)
    (hl : l ∈ s.comment (lines b)) : IsLine l := by
  have hlead : IsLine s.lead := by
    cases s with
    | slashes => exact ⟨by decide, by decide⟩
    | doc => exact ⟨by decide, by decide⟩
    | plain indent => exact hfits.2.1
  rw [Style.comment, List.mem_append, List.mem_append, List.mem_map] at hl
  rcases hl with (hl | ⟨m, hm, rfl⟩) | hl
  · cases s <;> simp only [Style.opening, List.mem_singleton, List.not_mem_nil] at hl <;>
      exact hl ▸ ⟨by decide, by decide⟩
  · exact hlead.append (hb.isLine hm)
  · cases s <;> simp only [Style.closing, List.mem_singleton, List.not_mem_nil] at hl <;>
      exact hl ▸ ⟨by decide, by decide⟩

/-- The blocks of joined lines are the blocks of the lines. -/
theorem blocks_unlines {ls : List Text} (h : ∀ l ∈ ls, IsLine l) :
    blocks (unlines ls) = blocksOfLines ls := by
  have hcr : '\r' ∉ unlines ls := by
    intro hc
    rcases eq_or_mem_of_mem_unlines hc with hc | ⟨l, hl, hc⟩
    · exact absurd hc (by decide)
    · exact (h l hl).no_cr hc
  rw [blocks, unifyNewlines_of_no_cr hcr]
  by_cases hls : ls = []
  · subst hls
    rfl
  · rw [lines_unlines hls fun l hl => (h l hl).no_lf]

/-- The blocks of a written stylesheet are the blocks written. -/
theorem blocks_write {ps : List Piece} {tail : List Text} (h : Writable ps tail) :
    blocks (write ps tail) = ps.map (·.block) := by
  have hlines : ∀ l ∈ ps.flatMap Piece.lines ++ tail, IsLine l := by
    intro l hl
    rw [List.mem_append, List.mem_flatMap] at hl
    rcases hl with ⟨p, hp, hl⟩ | hl
    · rcases List.mem_append.1 hl with hl | hl
      · exact (h.gaps p hp l hl).isLine
      · exact isLine_of_mem_comment (h.isBlock p hp) (h.fits p hp) hl
    · exact (h.tail l hl).isLine
  rw [write, blocks_unlines hlines]
  exact Lexer.feedAll_pieces h (x := {}) (Or.inl rfl) fun _ _ _ _ => rfl

/-- The lexer inverts the writing of comments, in any mix of styles; and blocks that it has found
can always be written again as `//` lines or as doc comments. -/
theorem blocks_of_written_comments :
    (∀ (ps : List Piece) (tail : List Text), Writable ps tail → blocks (write ps tail) = ps.map (·.block)) ∧
    ∀ (t : Text) (ps : List Piece) (tail : List Text), ps.map (·.block) = blocks t →
      (∀ p ∈ ps, p.style = .slashes ∨ p.style = .doc) → (∀ p ∈ ps, ∀ l ∈ p.gap, IsCode l) →
      (∀ l ∈ tail, IsCode l) → ps.IsChain Apart → blocks (write ps tail) = blocks t := by
  refine ⟨fun ps tail h => blocks_write h, ?_⟩
  intro t ps tail hblocks hstyle hgaps htail hapart
  have hmem : ∀ p ∈ ps, IsBlock p.block := fun p hp =>
    isBlock_of_mem_blocks (hblocks ▸ List.mem_map_of_mem hp)
  have hfits : ∀ p ∈ ps, p.style.Fits p.block := by
    intro p hp
    rcases hstyle p hp with h | h <;> rw [h] <;> exact trivial
  rw [blocks_write ⟨hmem, hfits, hgaps, htail, hapart⟩, hblocks]

/-- Blocks full of markers in all three styles, and the blocks of a stylesheet in two styles that it
did not use. -/
theorem blocks_of_written_comments_markers :
    (let ps : List Piece := [
      { style := .slashes, block := "// */\n\n  /*".toList },
      { gap := ["a { }".toList], style := .slashes, block := "* /".toList },
      { style := .plain "\t ".toList, block := "//\n\n * /**".toList },
      { style := .doc, block := " */\n*\n/".toList }]
    Writable ps ["*/".toList] ∧ blocks (write ps ["*/".toList]) = ps.map (·.block)) ∧
    let t : Text := "/*\n  a\n\n   b\n*/\nx\n/*\nc".toList
    let ps : List Piece := [{ style := .slashes, block := "a\n\n b".toList },
      { style := .doc, block := "c".toList }]
    ps.map (·.block) = blocks t ∧ blocks (write ps []) = blocks t := by
  refine ⟨?_, ?_⟩
  · intro ps
    have h : Writable ps ["*/".toList] := by decide
    exact ⟨h, blocks_of_written_comments.1 ps _ h⟩
  · intro t ps
    have h : ps.map (·.block) = blocks t := by decide
    exact ⟨h, blocks_of_written_comments.2 t ps [] h (by decide) (by decide) (by decide) (by decide)⟩

end Stylebook.Comment
