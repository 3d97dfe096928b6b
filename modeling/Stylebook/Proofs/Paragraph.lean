import Stylebook.Paragraph
import Stylebook.Proofs.Text
import Stylebook.Proofs.Text.Split

/-!
# Paragraphs by lines

* `isBlankLine` : a line of nothing but blanks;
* `runs` : the maximal runs of lines that are not blank;
* `paragraphs_eq` : the paragraphs of a text are the runs of its lines, once blanks at its ends are
  trimmed;
* `paragraphs_unparagraphs` : paragraphs that have no blank lines, joined by empty lines, are found
  again;
* `IsSolid` : a text without blank lines; `isSolid_of_mem_paragraphs`,
  `cr_not_mem_of_mem_paragraphs` : the paragraphs of a text that has words are such, and none holds
  a carriage return.
-/

namespace Stylebook.Text

/-! ## Runs of lines -/

def isBlankLine (l : Text) : Bool := l.all isBlank

/-- The maximal runs of lines that are not blank. -/
def runs (ls : List Text) : List (List Text) := (ls.splitOnP isBlankLine).filter (!·.isEmpty)

theorem isBlankLine_iff {l : Text} : isBlankLine l = true ↔ ∀ c ∈ l, isBlank c = true :=
  List.all_eq_true

theorem isBlankLine_nil : isBlankLine [] = true := rfl

/-- A line is not blank if a part of it is not. -/
theorem isBlankLine_append (l m : Text) : isBlankLine (l ++ m) = (isBlankLine l && isBlankLine m) :=
  List.all_append

@[simp] theorem runs_nil : runs [] = [] := by simp [runs]

theorem runs_cons_blank {l : Text} (h : isBlankLine l = true) (ls : List Text) :
    runs (l :: ls) = runs ls := by
  simp [runs, List.splitOnP_cons_eq_if_modifyHead, h]

theorem runs_append_blank {ls : List Text} (h : ∀ l ∈ ls, isBlankLine l = true) (ms : List Text) :
    runs (ls ++ ms) = runs ms := by
  induction ls with
  | nil => rfl
  | cons l ls ih =>
    rw [List.cons_append, runs_cons_blank (h l List.mem_cons_self), ih fun m hm => h m (List.mem_cons_of_mem _ hm)]

theorem runs_singleton {l : Text} (h : isBlankLine l = false) : runs [l] = [[l]] := by
  simp [runs, List.splitOnP_cons_eq_if_modifyHead, h]

/-- A line before a blank one is a run of its own. -/
theorem runs_cons_cons_blank {l m : Text} (hl : isBlankLine l = false) (hm : isBlankLine m = true)
    (ls : List Text) : runs (l :: m :: ls) = [l] :: runs ls := by
  simp [runs, List.splitOnP_cons_eq_if_modifyHead, hl, hm]

/-- A line before one that is not blank belongs to the run of that one. -/
theorem runs_cons_cons {l m : Text} (hl : isBlankLine l = false) (hm : isBlankLine m = false)
    (ls : List Text) : runs (l :: m :: ls) = (runs (m :: ls)).modifyHead (l :: ·) := by
  obtain ⟨r, rs, hcut⟩ := List.exists_cons_of_ne_nil (List.splitOnP_ne_nil isBlankLine ls)
  simp [runs, List.splitOnP_cons_eq_if_modifyHead, hl, hm, hcut]

/-- The front of a line can be put on in the run that it begins. -/
theorem runs_modifyHead {x m : Text} (hm : isBlankLine m = false) (ls : List Text) :
    runs ((x ++ m) :: ls) = (runs (m :: ls)).modifyHead (List.modifyHead (x ++ ·)) := by
  have hx : isBlankLine (x ++ m) = false := by rw [isBlankLine_append, hm, Bool.and_false]
  obtain ⟨r, rs, hcut⟩ := List.exists_cons_of_ne_nil (List.splitOnP_ne_nil isBlankLine ls)
  simp [runs, List.splitOnP_cons_eq_if_modifyHead, hx, hm, hcut]

theorem ne_nil_of_mem_runs {r : List Text} {ls : List Text} (h : r ∈ runs ls) : r ≠ [] := by
  have := (List.mem_filter.1 h).2
  simpa using this

/-- Runs are cut at any blank line. -/
theorem runs_append_cons_blank (ls : List Text) {l : Text} (h : isBlankLine l = true)
    (ms : List Text) : runs (ls ++ l :: ms) = runs ls ++ runs ms := by
  unfold runs
  rw [List.splitOnP_append_cons ls ms h, List.filter_append]

theorem runs_of_not_blank {p : List Text} (hne : p ≠ []) (h : ∀ l ∈ p, isBlankLine l = false) :
    runs p = [p] := by
  rw [runs, List.splitOnP_eq_singleton h]
  simp [hne]

/-- Runs joined by empty lines are found again. -/
theorem runs_intercalate {ps : List (List Text)}
    (h : ∀ p ∈ ps, p ≠ [] ∧ ∀ l ∈ p, isBlankLine l = false) : runs ([[]].intercalate ps) = ps := by
  induction ps with
  | nil => simp
  | cons p ps ih =>
    obtain ⟨hne, hp⟩ := h p List.mem_cons_self
    by_cases hps : ps = []
    · subst hps
      rw [List.intercalate_singleton, runs_of_not_blank hne hp]
    · rw [List.intercalate_cons_of_ne_nil hps, List.append_assoc, List.singleton_append,
        runs_append_cons_blank p isBlankLine_nil, runs_of_not_blank hne hp,
        ih fun q hq => h q (List.mem_cons_of_mem _ hq), List.singleton_append]

/-! ## Shrunken runs of blanks -/

theorem shrinkRun_of_no_newline {b : Text} (h : '\n' ∉ b) : shrinkRun b = b := by
  rw [shrinkRun, lines_of_no_newline h]

theorem shrinkRun_of_one_newline {b₁ b₂ : Text} (h₁ : '\n' ∉ b₁) (h₂ : '\n' ∉ b₂) :
    shrinkRun (b₁ ++ '\n' :: b₂) = b₁ ++ '\n' :: b₂ := by
  rw [shrinkRun, lines_append_newline, lines_of_no_newline h₁, lines_of_no_newline h₂]
  rfl

theorem shrinkRun_of_newlines {b₁ b₂ : Text} (h₁ : '\n' ∉ b₁) (h₂ : '\n' ∉ b₂) (mid : Text) :
    shrinkRun (b₁ ++ '\n' :: (mid ++ '\n' :: b₂)) = b₁ ++ '\n' :: '\n' :: b₂ := by
  obtain ⟨m, ms, hmid⟩ := List.exists_cons_of_ne_nil (lines_ne_nil mid)
  rw [shrinkRun, lines_append_newline, lines_append_newline, lines_of_no_newline h₁,
    lines_of_no_newline h₂, hmid]
  cases ms with
  | nil => simp
  | cons n ns => simp

/-- A text has no line feed, one, or a first and a last one. -/
theorem newline_cases (b : Text) :
    '\n' ∉ b ∨ (∃ b₁ b₂, b = b₁ ++ '\n' :: b₂ ∧ '\n' ∉ b₁ ∧ '\n' ∉ b₂) ∨
      ∃ b₁ mid b₂, b = b₁ ++ '\n' :: (mid ++ '\n' :: b₂) ∧ '\n' ∉ b₁ ∧ '\n' ∉ b₂ := by
  by_cases h : '\n' ∈ b
  · obtain ⟨b₁, rest, rfl, h₁⟩ := List.eq_append_cons_of_mem h
    by_cases hrest : '\n' ∈ rest
    · obtain ⟨r₁, r₂, hr, hr₁⟩ := List.eq_append_cons_of_mem (List.mem_reverse.2 hrest)
      have hsplit : rest = r₂.reverse ++ '\n' :: r₁.reverse := by
        rw [← List.reverse_reverse rest, hr]
        simp
      exact Or.inr (Or.inr ⟨b₁, r₂.reverse, r₁.reverse, by rw [hsplit], h₁, by simpa using hr₁⟩)
    · exact Or.inr (Or.inl ⟨b₁, rest, rfl, h₁, hrest⟩)
  · exact Or.inl h

theorem blank_shrinkRun {b : Text} (h : ∀ c ∈ b, isBlank c = true) :
    ∀ c ∈ shrinkRun b, isBlank c = true := by
  rcases newline_cases b with hb | ⟨b₁, b₂, rfl, h₁, h₂⟩ | ⟨b₁, mid, b₂, rfl, h₁, h₂⟩
  · rwa [shrinkRun_of_no_newline hb]
  · rwa [shrinkRun_of_one_newline h₁ h₂]
  · rw [shrinkRun_of_newlines h₁ h₂]
    intro c hc
    apply h c
    simp only [List.mem_append, List.mem_cons] at hc ⊢
    tauto

/-! ## Collapsing -/

theorem collapseFrom_blank_append {b : Text} (h : ∀ c ∈ b, isBlank c = true) (run y : Text) :
    collapseFrom run (b ++ y) = collapseFrom (b.reverse ++ run) y := by
  induction b generalizing run with
  | nil => rfl
  | cons c b ih =>
    rw [List.cons_append, collapseFrom, if_pos (h c List.mem_cons_self),
      ih fun d hd => h d (List.mem_cons_of_mem _ hd), List.reverse_cons,
        List.append_assoc, List.singleton_append]

theorem collapse_of_blank {b : Text} (h : ∀ c ∈ b, isBlank c = true) :
    collapse b = shrinkRun b := by
  have := collapseFrom_blank_append h [] []
  rw [List.append_nil, List.append_nil] at this
  rw [collapse, this, collapseFrom, List.reverse_reverse]

theorem collapse_blank_append {b : Text} (h : ∀ c ∈ b, isBlank c = true) {c : Char}
    (hc : isBlank c = false) (y : Text) :
    collapse (b ++ c :: y) = shrinkRun b ++ c :: collapse y := by
  rw [collapse, collapseFrom_blank_append h, collapseFrom, if_neg (by simp [hc]), List.append_nil,
    List.reverse_reverse, collapse]

/-- A text collapses independently before and after a character that is no blank. -/
theorem collapseFrom_append {c : Char} (hc : isBlank c = false) (run x y : Text) :
    ∃ z, collapseFrom run (x ++ c :: y) = z ++ c :: collapse y ∧
      collapseFrom run (x ++ [c]) = z ++ [c] := by
  induction x generalizing run with
  | nil =>
    refine ⟨shrinkRun run.reverse, ?_, ?_⟩
    · rw [List.nil_append, collapseFrom, if_neg (by simp [hc]), collapse]
    · rw [List.nil_append, collapseFrom, if_neg (by simp [hc]), collapseFrom]
      rfl
  | cons a x ih =>
    by_cases ha : isBlank a = true
    · obtain ⟨z, hz, hz'⟩ := ih (a :: run)
      refine ⟨z, ?_, ?_⟩
      · rw [List.cons_append, collapseFrom, if_pos ha, hz]
      · rw [List.cons_append, collapseFrom, if_pos ha, hz']
    · obtain ⟨z, hz, hz'⟩ := ih []
      refine ⟨shrinkRun run.reverse ++ a :: z, ?_, ?_⟩
      · rw [List.cons_append, collapseFrom, if_neg ha, hz, List.append_assoc, List.cons_append]
      · rw [List.cons_append, collapseFrom, if_neg ha, hz', List.append_assoc, List.cons_append]

theorem collapse_cons_of_not_blank {c : Char} (h : isBlank c = false) (y : Text) :
    collapse (c :: y) = c :: collapse y := collapse_blank_append (b := []) (by simp) h y

/-- A text is its trimmed form between blanks. -/
theorem trim_split (t : Text) : ∃ b₁ b₂, t = b₁ ++ trim t ++ b₂ ∧
    (∀ c ∈ b₁, isBlank c = true) ∧ ∀ c ∈ b₂, isBlank c = true := by
  obtain ⟨b₁, h₁, hb₁⟩ := trimStart_prefix_split t
  obtain ⟨b₂, h₂, hb₂⟩ := trimEnd_suffix_split (trimStart t)
  refine ⟨b₁, b₂, ?_, hb₁, hb₂⟩
  rw [List.append_assoc, trim, ← h₂]
  exact h₁

theorem exists_cons_of_trimStart {u : Text} (hne : u ≠ []) (h : trimStart u = u) :
    ∃ c x, u = c :: x ∧ isBlank c = false := by
  obtain ⟨c, x, rfl⟩ := List.exists_cons_of_ne_nil hne
  exact ⟨c, x, rfl, not_blank_of_trimStart h⟩

theorem trimEnd_append_not_blank (t : Text) {c : Char} (h : isBlank c = false) :
    trimEnd (t ++ [c]) = t ++ [c] := by
  rw [trimEnd_concat, if_neg (by simp [h])]

/-- Trimming and collapsing can be done in either order. -/
theorem trim_collapse (t : Text) : trim (collapse t) = collapse (trim t) := by
  by_cases h : trim t = []
  · have hall := trim_eq_nil_iff.1 h
    rw [h, collapse_of_blank hall, trim_eq_nil_iff.2 (blank_shrinkRun hall)]
    rfl
  · obtain ⟨b₁, b₂, hsplit, hb₁, hb₂⟩ := trim_split t
    obtain ⟨c, x, hx, hc⟩ := exists_cons_of_trimStart h (trimStart_trim t)
    obtain ⟨y, d, hy, hd⟩ := exists_concat_of_trimEnd h (trimEnd_trim t)
    have hfront : collapse t = shrinkRun b₁ ++ collapse (trim t ++ b₂) := by
      conv_lhs => rw [hsplit, hx, List.append_assoc, List.cons_append, collapse_blank_append hb₁ hc]
      rw [hx, List.cons_append, collapse_cons_of_not_blank hc]
    obtain ⟨z, hz, hz'⟩ := collapseFrom_append hd [] y b₂
    change collapse (y ++ d :: b₂) = _ at hz
    change collapse (y ++ [d]) = _ at hz'
    have hback : collapse (trim t ++ b₂) = collapse (trim t) ++ shrinkRun b₂ := by
      rw [hy, List.append_assoc, List.singleton_append, hz, hz', collapse_of_blank hb₂,
        List.append_assoc, List.singleton_append]
    have hstart : trimStart (collapse (trim t)) = collapse (trim t) := by
      rw [hx, collapse_cons_of_not_blank hc]
      exact trimStart_of_not_blank hc _
    have hend : trimEnd (collapse (trim t)) = collapse (trim t) := by
      rw [hy, hz']
      exact trimEnd_append_not_blank z hd
    rw [hfront, hback, trim_append_of_blank (blank_shrinkRun hb₁), ← trim_trimEnd,
      trimEnd_append_of_blank _ (blank_shrinkRun hb₂), trim_trimEnd, trim_eq_self hstart hend]

/-! ## Cutting at empty lines -/

abbrev gap : Text := ['\n', '\n']

theorem splitOnText_gap_append {x : Text} (h : '\n' ∉ x) (t : Text) :
    splitOnText gap (x ++ t) = (splitOnText gap t).modifyHead (x ++ ·) := by
  obtain ⟨p, ps, hcut⟩ := List.exists_cons_of_ne_nil (splitOnText_ne_nil gap t)
  induction x with
  | nil => simp [hcut]
  | cons c x ih =>
    rw [List.mem_cons, not_or] at h
    rw [List.cons_append, splitOnText_cons (by simp [List.isPrefixOf, h.1]), ih h.2]
    simp [hcut]

/-- A line feed before another character cuts nothing. -/
theorem splitOnText_gap_newline {t : Text} (h : t.head? ≠ some '\n') :
    splitOnText gap ('\n' :: t) = (splitOnText gap t).modifyHead ('\n' :: ·) := by
  apply splitOnText_cons
  cases t with
  | nil => rfl
  | cons c t =>
    have hc : '\n' ≠ c := by
      rintro rfl
      exact h rfl
    simp [List.isPrefixOf, hc]

theorem splitOnText_gap_gap (t : Text) :
    splitOnText gap ('\n' :: '\n' :: t) = [] :: splitOnText gap t := by
  exact splitOnText_sep_append (by simp) t

theorem unlines_modifyHead (x : Text) {r : List Text} (h : r ≠ []) :
    unlines (r.modifyHead (x ++ ·)) = x ++ unlines r := intercalate_modifyHead ['\n'] x h

theorem lines_append {x : Text} (h : '\n' ∉ x) (t : Text) :
    lines (x ++ t) = (lines t).modifyHead (x ++ ·) := by
  obtain ⟨l, ls, ht⟩ := List.exists_cons_of_ne_nil (lines_ne_nil t)
  induction x with
  | nil => simp [ht]
  | cons c x ih =>
    rw [List.mem_cons, not_or] at h
    rw [List.cons_append, lines_cons_of_ne (fun hc => h.1 hc.symm), ih h.2]
    simp [ht]

/-! ## Paragraphs are runs of lines -/

def runTexts (ls : List Text) : List Text := (runs ls).map unlines

/-- What stands before a text on its first line stands before it in its first run. -/
theorem runTexts_append {x v : Text} (hx : '\n' ∉ x)
    (hv : isBlankLine ((lines v).head (lines_ne_nil v)) = false) :
    runTexts (lines (x ++ v)) = (runTexts (lines v)).modifyHead (x ++ ·) := by
  obtain ⟨l, ls, hlines⟩ := List.exists_cons_of_ne_nil (lines_ne_nil v)
  simp only [hlines, List.head_cons] at hv
  rw [lines_append hx, hlines, List.modifyHead_cons, runTexts, runTexts, runs_modifyHead hv]
  cases hr : runs (l :: ls) with
  | nil => rfl
  | cons r rs =>
    have hne : r ≠ [] := ne_nil_of_mem_runs (hr ▸ List.mem_cons_self)
    simp [unlines_modifyHead x hne]

/-- A line before the first line of a text belongs to the same run. -/
theorem runTexts_append_newline {x v : Text} (hx : isBlankLine x = false)
    (hv : isBlankLine ((lines v).head (lines_ne_nil v)) = false) :
    runTexts (x :: lines v) = (runTexts (lines v)).modifyHead (x ++ '\n' :: ·) := by
  obtain ⟨l, ls, hlines⟩ := List.exists_cons_of_ne_nil (lines_ne_nil v)
  simp only [hlines, List.head_cons] at hv
  rw [hlines, runTexts, runTexts, runs_cons_cons hx hv]
  cases hr : runs (l :: ls) with
  | nil => rfl
  | cons r rs =>
    have hne : r ≠ [] := ne_nil_of_mem_runs (hr ▸ List.mem_cons_self)
    simp [unlines_cons hne]

/-- The first line of a text that begins with a character other than a blank is not blank. -/
theorem head_lines_not_blank {c : Char} (hc : isBlank c = false) (x : Text) :
    isBlankLine ((lines (c :: x)).head (lines_ne_nil (c :: x))) = false := by
  obtain ⟨l, ls, hx⟩ := List.exists_cons_of_ne_nil (lines_ne_nil x)
  have hne : c ≠ '\n' := by
    rintro rfl
    rw [isBlank_newline] at hc
    exact absurd hc (by decide)
  simp [lines_cons_of_ne hne, hx, isBlankLine, hc]

theorem isBlankLine_cons_of_not_blank {c : Char} (hc : isBlank c = false) (x : Text) :
    isBlankLine (c :: x) = false := by
  simp [isBlankLine, hc]

/-- The lines between two line feeds of a run of blanks separate two runs of lines. -/
theorem runTexts_append_blank {x : Text} (hx : isBlankLine x = false) {mid : Text}
    (hmid : ∀ c ∈ mid, isBlank c = true) (ls : List Text) :
    runTexts (x :: (lines mid ++ ls)) = x :: runTexts ls := by
  have hblank : ∀ l ∈ lines mid, isBlankLine l = true := fun l hl =>
    isBlankLine_iff.2 fun c hc => hmid c (mem_of_mem_lines hl hc)
  obtain ⟨m, ms, hlines⟩ := List.exists_cons_of_ne_nil (lines_ne_nil mid)
  rw [hlines] at hblank
  rw [hlines, List.cons_append, runTexts, runs_cons_cons_blank hx (hblank m List.mem_cons_self),
    runs_append_blank fun l hl => hblank l (List.mem_cons_of_mem _ hl), List.map_cons, runTexts]
  simp [unlines]

theorem ne_newline_of_not_blank {c : Char} (h : isBlank c = false) : c ≠ '\n' := by
  rintro rfl
  rw [isBlank_newline] at h
  exact absurd h (by decide)

theorem head?_ne_newline {b : Text} (h : '\n' ∉ b) {d : Char} (hd : isBlank d = false) (t : Text) :
    (b ++ d :: t).head? ≠ some '\n' := by
  cases b with
  | nil => simpa using ne_newline_of_not_blank hd
  | cons e b =>
    rw [List.cons_append, List.head?_cons, ne_eq, Option.some.injEq]
    rintro rfl
    exact h List.mem_cons_self

/-- One run of blanks: it stays in its line, it is one line ending, or it cuts. -/
theorem splitOnText_shrinkRun {c d : Char} (hc : isBlank c = false) (hd : isBlank d = false)
    {b : Text} (hb : ∀ e ∈ b, isBlank e = true) {t v : Text}
    (h : splitOnText gap (d :: t) = runTexts (lines (d :: v))) :
    splitOnText gap (c :: shrinkRun b ++ d :: t) = runTexts (lines (c :: b ++ d :: v)) := by
  have hcn := (ne_newline_of_not_blank hc).symm
  have hv := head_lines_not_blank hd v
  rcases newline_cases b with hno | ⟨b₁, b₂, rfl, h₁, h₂⟩ | ⟨b₁, mid, b₂, rfl, h₁, h₂⟩
  · have hcb : '\n' ∉ c :: b := by simpa [hcn] using hno
    rw [shrinkRun_of_no_newline hno, splitOnText_gap_append hcb, h, runTexts_append hcb hv]
  · have hcb : '\n' ∉ c :: b₁ := by simpa [hcn] using h₁
    have hline : isBlankLine ((lines (b₂ ++ d :: v)).head (lines_ne_nil _)) = false := by
      obtain ⟨l, ls, hlines⟩ := List.exists_cons_of_ne_nil (lines_ne_nil (d :: v))
      simp only [hlines, List.head_cons] at hv
      simp [lines_append h₂, hlines, isBlankLine_append, hv]
    have hleft : c :: (b₁ ++ '\n' :: b₂) ++ d :: t = (c :: b₁) ++ '\n' :: (b₂ ++ d :: t) := by simp
    have hright : c :: (b₁ ++ '\n' :: b₂) ++ d :: v = (c :: b₁) ++ '\n' :: (b₂ ++ d :: v) := by simp
    rw [shrinkRun_of_one_newline h₁ h₂, hleft, hright, splitOnText_gap_append hcb,
      splitOnText_gap_newline (head?_ne_newline h₂ hd t), splitOnText_gap_append h₂, h,
      lines_append_newline, lines_of_no_newline hcb, List.singleton_append,
      runTexts_append_newline (isBlankLine_cons_of_not_blank hc b₁) hline, runTexts_append h₂ hv,
      List.modifyHead_modifyHead, List.modifyHead_modifyHead, List.modifyHead_modifyHead]
    rfl
  · have hcb : '\n' ∉ c :: b₁ := by simpa [hcn] using h₁
    have hmid : ∀ e ∈ mid, isBlank e = true := fun e he => hb e (by simp [he])
    have hleft : c :: (b₁ ++ '\n' :: '\n' :: b₂) ++ d :: t =
      (c :: b₁) ++ '\n' :: '\n' :: (b₂ ++ d :: t) := by simp
    have hright : c :: (b₁ ++ '\n' :: (mid ++ '\n' :: b₂)) ++ d :: v =
        (c :: b₁) ++ '\n' :: (mid ++ '\n' :: (b₂ ++ d :: v)) := by simp
    rw [shrinkRun_of_newlines h₁ h₂, hleft, hright, splitOnText_gap_append hcb, splitOnText_gap_gap,
      splitOnText_gap_append h₂, h, lines_append_newline, lines_of_no_newline hcb,
      lines_append_newline, List.singleton_append,
      runTexts_append_blank (isBlankLine_cons_of_not_blank hc b₁) hmid, runTexts_append h₂ hv,
      List.modifyHead_cons, List.append_nil]

/-- Cutting a collapsed text at empty lines gives its runs of lines. -/
theorem splitOnText_collapse {u : Text} (hne : u ≠ []) (hs : trimStart u = u) (he : trimEnd u = u) :
    splitOnText gap (collapse u) = runTexts (lines u) := by
  induction hn : u.length using Nat.strong_induction_on generalizing u with
  | _ n ih =>
    obtain ⟨c, y, rfl, hc⟩ := exists_cons_of_trimStart hne hs
    obtain ⟨b, hb, hblank⟩ := trimStart_prefix_split y
    by_cases hy : trimStart y = []
    · have hnil : y = [] := by
        have := trimEnd_cons_of_not_blank hc y
        rw [he, trimEnd_eq_nil_iff.2 (trimStart_eq_nil_iff.1 hy)] at this
        simpa using this
      subst hnil
      rw [collapse_cons_of_not_blank hc, lines_of_no_newline (by simpa using (ne_newline_of_not_blank hc).symm),
        runTexts, runs_singleton (isBlankLine_cons_of_not_blank hc [])]
      simp [unlines, shrinkRun, collapse, collapseFrom, splitOnText, splitOnTextFrom, List.isPrefixOf]
    · obtain ⟨d, z, hd, hdb⟩ := exists_cons_of_trimStart hy (trimStart_trimStart y)
      rw [hd] at hb
      have hrest : splitOnText gap (collapse (d :: z)) = runTexts (lines (d :: z)) := by
        refine ih (d :: z).length ?_ (List.cons_ne_nil _ _) (trimStart_of_not_blank hdb z) ?_ rfl
        · rw [hb] at hn
          simp only [List.length_cons, List.length_append] at hn ⊢
          omega
        · exact trimEnd_eq_self_of_suffix he ⟨c :: b, by rw [hb]; rfl⟩
      rw [collapse_cons_of_not_blank hdb] at hrest
      rw [hb, collapse_cons_of_not_blank hc, collapse_blank_append hblank hdb, ← List.cons_append,
        ← List.cons_append, splitOnText_shrinkRun hc hdb hblank hrest]

/-- The paragraphs of a text are the runs of its lines, once the blanks at its ends are gone. -/
theorem paragraphs_eq {t : Text} (h : trim (unifyNewlines t) ≠ []) :
    paragraphs t = runTexts (lines (trim (unifyNewlines t))) := by
  rw [paragraphs, trim_collapse, splitOnText_collapse h (trimStart_trim _) (trimEnd_trim _)]

theorem paragraphs_of_blank {t : Text} (h : trim (unifyNewlines t) = []) : paragraphs t = [[]] := by
  rw [paragraphs, trim_collapse, h]
  rfl

/-! ## What paragraphs hold -/

/-- A run of lines holds lines of the whole, none of them blank. -/
theorem of_mem_runs {r : List Text} {ls : List Text} {l : Text} (hr : r ∈ runs ls) (hl : l ∈ r) :
    l ∈ ls ∧ isBlankLine l = false := of_mem_splitOnP (List.mem_filter.1 hr).1 hl

theorem cr_not_mem_of_mem_paragraphs {p t : Text} (hp : p ∈ paragraphs t) : '\r' ∉ p := by
  intro hc
  by_cases h : trim (unifyNewlines t) = []
  · rw [paragraphs_of_blank h, List.mem_singleton] at hp
    exact absurd (hp ▸ hc) List.not_mem_nil
  · rw [paragraphs_eq h, runTexts, List.mem_map] at hp
    obtain ⟨r, hr, rfl⟩ := hp
    rcases eq_or_mem_of_mem_unlines hc with hc | ⟨l, hl, hc⟩
    · exact absurd hc (by decide)
    · obtain ⟨b₁, b₂, hsplit, -, -⟩ := trim_split (unifyNewlines t)
      have htrim : '\r' ∈ trim (unifyNewlines t) := mem_of_mem_lines (of_mem_runs hr hl).1 hc
      apply cr_not_mem_unifyNewlines t
      rw [hsplit]
      exact List.mem_append_left _ (List.mem_append_right _ htrim)

def IsSolid (p : Text) : Prop := ∀ l ∈ lines p, isBlankLine l = false

theorem IsSolid.exists_not_blank {p : Text} (h : IsSolid p) : ∃ c ∈ p, isBlank c = false := by
  have hl := List.head_mem (lines_ne_nil p)
  have hblank := h _ hl
  simp only [isBlankLine, List.all_eq_false, Bool.not_eq_true] at hblank
  obtain ⟨c, hc, hc'⟩ := hblank
  exact ⟨c, mem_of_mem_lines hl hc, hc'⟩

theorem IsSolid.ne_nil {p : Text} (h : IsSolid p) : p ≠ [] := by
  obtain ⟨c, hc, -⟩ := h.exists_not_blank
  exact List.ne_nil_of_mem hc

theorem IsSolid.line_ne_nil {p l : Text} (h : IsSolid p) (hl : l ∈ lines p) : l ≠ [] := by
  rintro rfl
  exact absurd (h [] hl) (by decide)

/-- No line of a paragraph is blank, but for the one of a blank text. -/
theorem isSolid_of_mem_paragraphs {p t : Text} (hp : p ∈ paragraphs t) (h : paragraphs t ≠ [[]]) :
    IsSolid p := by
  have htrim : trim (unifyNewlines t) ≠ [] := fun hblank => h (paragraphs_of_blank hblank)
  rw [paragraphs_eq htrim, runTexts, List.mem_map] at hp
  obtain ⟨r, hr, rfl⟩ := hp
  intro l hl
  rw [lines_unlines (ne_nil_of_mem_runs hr) fun k hk => newline_not_mem_of_mem_lines (of_mem_runs hr hk).1] at hl
  exact (of_mem_runs hr hl).2

/-! ## Joined paragraphs -/

/-- A paragraph as it stands in a block: lines that are not blank, without blanks at the ends. -/
structure IsParagraph (p : Text) : Prop where
  no_cr : '\r' ∉ p
  lines : ∀ l ∈ lines p, isBlankLine l = false
  start : trimStart p = p
  stop : trimEnd p = p

instance (p : Text) : Decidable (IsParagraph p) :=
  decidable_of_iff (p.contains '\r' = false ∧ (Text.lines p).all (!isBlankLine ·) = true ∧
    trimStart p = p ∧ trimEnd p = p)
    ⟨fun h => ⟨by simpa using h.1, by simpa using h.2.1, h.2.2.1, h.2.2.2⟩,
      fun h => ⟨by simpa using h.1, by simpa using h.2, h.3, h.4⟩⟩

theorem IsParagraph.isSolid {p : Text} (h : IsParagraph p) : IsSolid p := h.lines

theorem unparagraphs_cons {p : Text} {ps : List Text} (h : ps ≠ []) :
    unparagraphs (p :: ps) = p ++ '\n' :: '\n' :: unparagraphs ps := by
  unfold unparagraphs
  rw [List.intercalate_cons_of_ne_nil h]
  simp

theorem unparagraphs_concat {ps : List Text} (h : ps ≠ []) (p : Text) :
    unparagraphs (ps ++ [p]) = unparagraphs ps ++ '\n' :: '\n' :: p := by
  induction ps with
  | nil => exact absurd rfl h
  | cons q ps ih =>
    by_cases hps : ps = []
    · subst hps
      simp [unparagraphs]
    · rw [List.cons_append, unparagraphs_cons (by simp), ih hps, unparagraphs_cons hps]
      simp

@[simp] theorem unparagraphs_singleton (p : Text) : unparagraphs [p] = p :=
  List.intercalate_singleton

/-- The lines of joined paragraphs, an empty one between two paragraphs. -/
theorem lines_unparagraphs {ps : List Text} (h : ps ≠ []) :
    lines (unparagraphs ps) = [[]].intercalate (ps.map lines) := by
  induction ps with
  | nil => exact absurd rfl h
  | cons p ps ih =>
    by_cases hps : ps = []
    · subst hps
      simp
    · rw [unparagraphs_cons hps, lines_append_newline, lines_cons_newline, ih hps, List.map_cons,
        List.intercalate_cons_of_ne_nil (by simpa using hps)]
      simp

theorem eq_or_mem_of_mem_unparagraphs {c : Char} {ps : List Text} (h : c ∈ unparagraphs ps) :
    c = '\n' ∨ ∃ p ∈ ps, c ∈ p := by
  simpa using mem_or_mem_of_mem_intercalate h

theorem unparagraphs_ne_nil {ps : List Text} (hne : ps ≠ []) (h : ∀ p ∈ ps, IsSolid p) :
    unparagraphs ps ≠ [] := by
  obtain ⟨p, qs, rfl⟩ := List.exists_cons_of_ne_nil hne
  by_cases hqs : qs = []
  · subst hqs
    rw [unparagraphs_singleton]
    exact (h p List.mem_cons_self).ne_nil
  · rw [unparagraphs_cons hqs]
    simp

theorem trimStart_unparagraphs {ps : List Text} (h : ∀ p ∈ ps, IsParagraph p) :
    trimStart (unparagraphs ps) = unparagraphs ps := by
  cases ps with
  | nil => rfl
  | cons p ps =>
    have hp := h p List.mem_cons_self
    by_cases hps : ps = []
    · subst hps
      rw [unparagraphs_singleton, hp.start]
    · rw [unparagraphs_cons hps, trimStart_append_of_ne_nil (by rw [hp.start]; exact hp.isSolid.ne_nil), hp.start]

theorem trimEnd_unparagraphs {ps : List Text} (h : ∀ p ∈ ps, IsParagraph p) :
    trimEnd (unparagraphs ps) = unparagraphs ps := by
  induction ps with
  | nil => rfl
  | cons p ps ih =>
    by_cases hps : ps = []
    · subst hps
      rw [unparagraphs_singleton, (h p List.mem_cons_self).stop]
    · have htail : ∀ q ∈ ps, IsParagraph q := fun q hq => h q (List.mem_cons_of_mem _ hq)
      have hrest := ih htail
      have hne : trimEnd (unparagraphs ps) ≠ [] := by
        rw [hrest]
        exact unparagraphs_ne_nil hps fun q hq => (htail q hq).isSolid
      have hsplit : unparagraphs (p :: ps) = (p ++ gap) ++ unparagraphs ps := by
        rw [unparagraphs_cons hps]
        simp
      rw [hsplit, trimEnd_append_of_ne_nil _ hne, hrest]

/-- Joined paragraphs are found again, if none has blank lines and the whole has no blanks at its
ends. -/
theorem paragraphs_unparagraphs_of_solid {ps : List Text} (hne : ps ≠ []) (hcr : ∀ p ∈ ps, '\r' ∉ p)
    (h : ∀ p ∈ ps, IsSolid p) (htrim : trim (unparagraphs ps) = unparagraphs ps) :
    paragraphs (unparagraphs ps) = ps := by
  have hno : '\r' ∉ unparagraphs ps := by
    intro hc
    rcases eq_or_mem_of_mem_unparagraphs hc with hc | ⟨p, hp, hc⟩
    · exact absurd hc (by decide)
    · exact hcr p hp hc
  have hruns : ∀ q ∈ ps.map lines, q ≠ [] ∧ ∀ l ∈ q, isBlankLine l = false := by
    intro q hq
    obtain ⟨p, hp, rfl⟩ := List.mem_map.1 hq
    exact ⟨lines_ne_nil p, h p hp⟩
  have hid : unlines ∘ lines = id := funext unlines_lines
  have hunify : trim (unifyNewlines (unparagraphs ps)) = unparagraphs ps := by
    rw [unifyNewlines_of_no_cr hno, htrim]
  rw [paragraphs_eq (by rw [hunify]; exact unparagraphs_ne_nil hne h), hunify,
    lines_unparagraphs hne, runTexts, runs_intercalate hruns, List.map_map, hid, List.map_id]

theorem paragraphs_unparagraphs {ps : List Text} (hne : ps ≠ []) (h : ∀ p ∈ ps, IsParagraph p) :
    paragraphs (unparagraphs ps) = ps :=
  paragraphs_unparagraphs_of_solid hne (fun p hp => (h p hp).no_cr) (fun p hp => (h p hp).isSolid)
    (trim_eq_self (trimStart_unparagraphs h) (trimEnd_unparagraphs h))

end Stylebook.Text
