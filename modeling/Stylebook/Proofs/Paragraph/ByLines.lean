import Stylebook.Proofs.Section.Checked

/-!
# Paragraphs read off the characters and off the lines

* `IsGap`, `GapsReplaced` : two line feeds with blanks between them, and a text in which every gap,
  from the left and as long as possible, has become two line feeds; `gapsReplaced_iff` : collapsing
  does this, and nothing else does;
* `lineParagraphs` : paragraphs as runs of lines; `paragraphs_eq_lineParagraphs` : these are the
  paragraphs of a text;
* `runTexts_trimStart`, `runTexts_trimEnd` : trimming a text trims its first run, or its last. The
  second follows from the first by reading backwards (`runTexts_reverse`);
* `unparagraphs_paragraphs` : joined again, the paragraphs make up the collapsed text.
-/

namespace Stylebook.Text

/-! ## Gaps -/

/-- Two line feeds with blanks between them, at least one. -/
def IsGap (g : Text) : Prop := ∃ b, b ≠ [] ∧ (∀ c ∈ b, isBlank c = true) ∧ g = '\n' :: (b ++ ['\n'])

/-- The second text is the first with its gaps replaced by two line feeds. A gap is taken where it
begins first, and is taken whole. -/
inductive GapsReplaced : Text → Text → Prop
  | nil : GapsReplaced [] []
  | keep {c : Char} {t u : Text} (hnone : ∀ g, IsGap g → ¬g <+: c :: t) (h : GapsReplaced t u) :
      GapsReplaced (c :: t) (c :: u)
  | replace {g t u : Text} (hg : IsGap g) (hlongest : ∀ g', IsGap g' → g' <+: g ++ t → g'.length ≤ g.length)
      (h : GapsReplaced t u) : GapsReplaced (g ++ t) ('\n' :: '\n' :: u)

theorem IsGap.blank {g : Text} (h : IsGap g) : ∀ c ∈ g, isBlank c = true := by
  obtain ⟨b, -, hb, rfl⟩ := h
  intro c hc
  rcases List.mem_cons.1 hc with rfl | hc
  · exact isBlank_newline
  · rcases List.mem_append.1 hc with hc | hc
    · exact hb c hc
    · rw [List.mem_singleton.1 hc]
      exact isBlank_newline

theorem IsGap.ne_nil {g : Text} (h : IsGap g) : g ≠ [] := by
  obtain ⟨b, -, -, rfl⟩ := h
  simp

def Stops (t : Text) : Prop := ∀ c ∈ t.head?, isBlank c = false

/-- Blanks at the front of a text are part of its first run. -/
theorem prefix_of_stops {g b t : Text} (hg : ∀ c ∈ g, isBlank c = true) (ht : Stops t)
    (h : g <+: b ++ t) : g <+: b := by
  rcases List.prefix_or_prefix_of_prefix h (List.prefix_append b t) with hgb | ⟨z, rfl⟩
  · exact hgb
  · have hz : z <+: t := (List.prefix_append_right_inj b).1 h
    cases z with
    | nil => simp
    | cons c z =>
      obtain ⟨y, rfl⟩ := hz
      have hblank := hg c (by simp)
      rw [ht c rfl] at hblank
      exact absurd hblank (by decide)

/-- No gap begins at the last line feed of a run. -/
theorem not_gap_of_last {b t g : Text} (hb : '\n' ∉ b) (ht : Stops t) (hg : IsGap g) :
    ¬g <+: '\n' :: (b ++ t) := by
  intro h
  have hpre : g <+: '\n' :: b := prefix_of_stops (b := '\n' :: b) hg.blank ht h
  obtain ⟨d, -, -, rfl⟩ := hg
  have hd := (List.cons_prefix_cons.1 hpre).2
  exact hb (hd.subset (by simp))

namespace GapsReplaced

theorem line {x t u : Text} (hx : '\n' ∉ x) (h : GapsReplaced t u) :
    GapsReplaced (x ++ t) (x ++ u) := by
  induction x with
  | nil => exact h
  | cons c x ih =>
    rw [List.mem_cons, not_or] at hx
    refine .keep ?_ (ih hx.2)
    rintro g ⟨b, -, -, rfl⟩ hg
    exact hx.1 (List.cons_prefix_cons.1 hg).1

theorem last {b t u : Text} (hb : '\n' ∉ b) (ht : Stops t) (h : GapsReplaced t u) :
    GapsReplaced ('\n' :: (b ++ t)) ('\n' :: (b ++ u)) :=
  .keep (fun _ hg => not_gap_of_last hb ht hg) (h.line hb)

/-- Two line feeds in a row are no gap, and no gap begins at the first of them. -/
theorem pair {b t u : Text} (hb : '\n' ∉ b) (ht : Stops t) (h : GapsReplaced t u) :
    GapsReplaced ('\n' :: '\n' :: (b ++ t)) ('\n' :: '\n' :: (b ++ u)) := by
  refine .keep ?_ (h.last hb ht)
  intro g hg hpre
  have hrun : g <+: '\n' :: '\n' :: b := prefix_of_stops (b := '\n' :: '\n' :: b) hg.blank ht hpre
  obtain ⟨d, hne, -, rfl⟩ := hg
  obtain ⟨c, d, rfl⟩ := List.exists_cons_of_ne_nil hne
  have hd := (List.cons_prefix_cons.1 (List.cons_prefix_cons.1 hrun).2).2
  exact hb (hd.subset (by simp))

/-- From its first line feed to its last, a run of blanks is one gap. -/
theorem wide {mid b t u : Text} (hne : mid ≠ []) (hmid : ∀ c ∈ mid, isBlank c = true)
    (hb : '\n' ∉ b) (ht : Stops t) (h : GapsReplaced t u) :
    GapsReplaced ('\n' :: (mid ++ '\n' :: (b ++ t))) ('\n' :: '\n' :: (b ++ u)) := by
  have hsplit : '\n' :: (mid ++ '\n' :: (b ++ t)) = ('\n' :: (mid ++ ['\n'])) ++ (b ++ t) := by simp
  rw [hsplit]
  refine .replace ⟨mid, hne, hmid, rfl⟩ ?_ (h.line hb)
  intro g hg hpre
  rw [← List.append_assoc] at hpre
  have hrun := prefix_of_stops hg.blank ht hpre
  rcases List.prefix_or_prefix_of_prefix hrun (List.prefix_append ('\n' :: (mid ++ ['\n'])) b) with hle | ⟨z, rfl⟩
  · exact hle.length_le
  · have hz : z <+: b := (List.prefix_append_right_inj _).1 hrun
    rcases List.eq_nil_or_concat z with rfl | ⟨y, c, rfl⟩
    · simp
    · obtain ⟨d, -, -, hd⟩ := hg
      have hlast : c = '\n' := by
        have hends : (mid ++ '\n' :: y) ++ [c] = d ++ ['\n'] := by simpa using hd
        exact List.singleton_inj.1 (List.append_inj_right' hends rfl)
      exact absurd (hz.subset (by simp [hlast])) hb

/-- Where each gap begins and ends is settled, so there is one way to replace them. -/
theorem unique {t u v : Text} (h : GapsReplaced t u) (h' : GapsReplaced t v) : u = v := by
  induction h generalizing v with
  | nil =>
    generalize hx : ([] : Text) = x at h'
    cases h' with
    | nil => rfl
    | keep => simp at hx
    | replace hg => exact absurd (List.append_eq_nil_iff.1 hx.symm).1 hg.ne_nil
  | @keep c t u hnone _ ih =>
    generalize hx : c :: t = x at h'
    cases h' with
    | nil => simp at hx
    | keep _ h' =>
      obtain ⟨rfl, rfl⟩ := List.cons.inj hx
      rw [ih h']
    | replace hg => exact absurd (hx ▸ List.prefix_append _ _) (hnone _ hg)
  | @replace g t u hg hlongest _ ih =>
    generalize hx : g ++ t = x at h'
    cases h' with
    | nil => exact absurd (List.append_eq_nil_iff.1 hx).1 hg.ne_nil
    | keep hnone => exact absurd (hx ▸ List.prefix_append _ _) (hnone _ hg)
    | @replace g' t' u' hg' hlongest' h' =>
      have hle : g.length ≤ g'.length := hlongest' g hg (hx ▸ List.prefix_append _ _)
      have hge : g'.length ≤ g.length := hlongest g' hg' (hx ▸ List.prefix_append _ _)
      obtain ⟨-, rfl⟩ := List.append_inj hx (by omega)
      rw [ih h']

/-- A run of blanks loses its gap by shrinking. -/
theorem shrink {b t u : Text} (hb : ∀ c ∈ b, isBlank c = true) (ht : Stops t)
    (h : GapsReplaced t u) : GapsReplaced (b ++ t) (shrinkRun b ++ u) := by
  rcases newline_cases b with hno | ⟨b₁, b₂, rfl, h₁, h₂⟩ | ⟨b₁, mid, b₂, rfl, h₁, h₂⟩
  · rw [shrinkRun_of_no_newline hno]
    exact h.line hno
  · rw [shrinkRun_of_one_newline h₁ h₂, List.append_assoc, List.append_assoc]
    exact (h.last h₂ ht).line h₁
  · rw [shrinkRun_of_newlines h₁ h₂, List.append_assoc, List.append_assoc,
      List.cons_append, List.append_assoc]
    apply line h₁
    by_cases hmid : mid = []
    · subst hmid
      exact h.pair h₂ ht
    · exact h.wide hmid (fun c hc => hb c (by simp [hc])) h₂ ht

end GapsReplaced

/-- Collapsing replaces the gaps of a text. -/
theorem gapsReplaced_collapse (t : Text) : GapsReplaced t (collapse t) := by
  induction hn : t.length using Nat.strong_induction_on generalizing t with
  | _ n ih =>
    obtain ⟨b, hsplit, hb⟩ := trimStart_prefix_split t
    by_cases hrest : trimStart t = []
    · have h := GapsReplaced.nil.shrink hb (by simp [Stops])
      rw [hrest, List.append_nil] at hsplit
      rw [hsplit, collapse_of_blank hb]
      simpa using h
    · obtain ⟨c, y, hy, hc⟩ := exists_cons_of_trimStart hrest (trimStart_trimStart t)
      rw [hy] at hsplit
      have hlt : y.length < n := by
        rw [hsplit] at hn
        simp only [List.length_append, List.length_cons] at hn
        omega
      have hnext : GapsReplaced (c :: y) (c :: collapse y) :=
        (ih y.length hlt y rfl).line (x := [c]) (by simpa using (ne_newline_of_not_blank hc).symm)
      rw [hsplit, collapse_blank_append hb hc]
      exact hnext.shrink hb (by simpa [Stops] using hc)

theorem gapsReplaced_iff {t u : Text} : GapsReplaced t u ↔ u = collapse t := by
  constructor
  · intro h
    exact h.unique (gapsReplaced_collapse t)
  · rintro rfl
    exact gapsReplaced_collapse t

/-! ## Runs of lines read backwards -/

theorem isBlankLine_reverse (l : Text) : isBlankLine l.reverse = isBlankLine l := List.all_reverse

theorem runs_map_reverse (ls : List Text) :
    runs (ls.map List.reverse) = (runs ls).map (List.map List.reverse) := by
  induction ls with
  | nil => simp
  | cons l ls ih =>
    by_cases hl : isBlankLine l = true
    · rw [List.map_cons, runs_cons_blank (by rwa [isBlankLine_reverse]), runs_cons_blank hl, ih]
    · rw [Bool.not_eq_true] at hl
      have hl' : isBlankLine l.reverse = false := by rwa [isBlankLine_reverse]
      cases ls with
      | nil => simp [runs_singleton hl, runs_singleton hl']
      | cons k ls =>
        by_cases hk : isBlankLine k = true
        · have hk' : isBlankLine k.reverse = true := by rwa [isBlankLine_reverse]
          rw [List.map_cons, runs_cons_blank hk', runs_cons_blank hk] at ih
          rw [List.map_cons, List.map_cons, runs_cons_cons_blank hl' hk',
            runs_cons_cons_blank hl hk, ih]
          rfl
        · rw [Bool.not_eq_true] at hk
          have hk' : isBlankLine k.reverse = false := by rwa [isBlankLine_reverse]
          rw [List.map_cons] at ih
          rw [List.map_cons, List.map_cons, runs_cons_cons hl' hk', runs_cons_cons hl hk, ih]
          cases runs (k :: ls) <;> rfl

theorem runs_reverse (ls : List Text) : runs ls.reverse = ((runs ls).map List.reverse).reverse := by
  induction hn : ls.length using Nat.strong_induction_on generalizing ls with
  | _ n ih =>
    by_cases hall : ∀ l ∈ ls, isBlankLine l = false
    · by_cases hne : ls = []
      · subst hne
        simp
      · rw [runs_of_not_blank hne hall, runs_of_not_blank (by simpa using hne) (by simpa using hall)]
        rfl
    · obtain ⟨l, hl, hblank⟩ : ∃ l ∈ ls, isBlankLine l = true := by simpa using hall
      obtain ⟨xs, ys, rfl⟩ := List.append_of_mem hl
      simp only [List.length_append, List.length_cons] at hn
      rw [List.reverse_append, List.reverse_cons, List.append_assoc, List.singleton_append,
        runs_append_cons_blank _ hblank, runs_append_cons_blank _ hblank,
        ih ys.length (by omega) ys rfl, ih xs.length (by omega) xs rfl]
      simp

theorem unlines_reverse (ls : List Text) :
    unlines (ls.map List.reverse).reverse = (unlines ls).reverse := by
  induction ls with
  | nil => rfl
  | cons l ls ih =>
    by_cases hls : ls = []
    · subst hls
      simp [unlines]
    · rw [List.map_cons, List.reverse_cons, unlines_concat (by simpa using hls), ih, unlines_cons hls]
      simp

theorem runTexts_reverse (t : Text) :
    runTexts (lines t.reverse) = ((runTexts (lines t)).map List.reverse).reverse := by
  rw [lines_reverse, runTexts, runs_reverse, runs_map_reverse, runTexts, List.map_reverse,
    List.map_map, List.map_map, List.map_map]
  congr 1
  apply List.map_congr_left
  intro r _
  exact unlines_reverse r

/-! ## Paragraphs by lines -/

/-- The first of the paragraphs without its leading blanks, the last without its trailing ones. -/
def trimOuter (ps : List Text) : List Text :=
  ((ps.modifyHead trimStart).reverse.modifyHead trimEnd).reverse

/-- The maximal runs of lines that are not blank, joined, and without the blanks at both ends of the
whole. A text of nothing but blanks has one empty paragraph. -/
def lineParagraphs (t : Text) : List Text :=
  if t.all isBlank then [[]] else trimOuter ((runs (lines (unifyNewlines t))).map unlines)

theorem runs_cons_of_not_blank {l : Text} (hl : isBlankLine l = false) (ls : List Text) :
    ∃ r rs, runs (l :: ls) = (l :: r) :: rs := by
  obtain ⟨r, rs, hcut⟩ := List.exists_cons_of_ne_nil (List.splitOnP_ne_nil isBlankLine ls)
  exact ⟨r, rs.filter (!·.isEmpty), by simp [runs, List.splitOnP_cons_eq_if_modifyHead, hl, hcut]⟩

/-- The first run of a text that does not begin with a blank begins as the text does. -/
theorem runTexts_cons_of_not_blank {c : Char} (hc : isBlank c = false) (x : Text) :
    ∃ p ps, runTexts (lines (c :: x)) = (c :: p) :: ps := by
  obtain ⟨l, ls, hx⟩ := List.exists_cons_of_ne_nil (lines_ne_nil x)
  obtain ⟨r, rs, hruns⟩ := runs_cons_of_not_blank (isBlankLine_cons_of_not_blank hc l) ls
  rw [lines_cons_of_ne (ne_newline_of_not_blank hc), hx, List.modifyHead_cons,
    runTexts, hruns, List.map_cons]
  by_cases hr : r = []
  · exact ⟨l, rs.map unlines, by simp [hr, unlines]⟩
  · exact ⟨l ++ '\n' :: unlines r, rs.map unlines, by rw [unlines_cons hr, List.cons_append]⟩

/-- Blanks before a text add no run to it. On its first line they belong to its first run. -/
theorem runTexts_blank_append {b v : Text} (hb : ∀ c ∈ b, isBlank c = true)
    (hv : isBlankLine ((lines v).head (lines_ne_nil v)) = false) :
    ∃ x, (∀ c ∈ x, isBlank c = true) ∧
      runTexts (lines (b ++ v)) = (runTexts (lines v)).modifyHead (x ++ ·) := by
  by_cases hn : '\n' ∈ b
  · obtain ⟨r₁, r₂, hr, hr₁⟩ := List.eq_append_cons_of_mem (List.mem_reverse.2 hn)
    have hsplit : b = r₂.reverse ++ '\n' :: r₁.reverse := by
      rw [← List.reverse_reverse b, hr]
      simp
    have hblank : ∀ l ∈ lines r₂.reverse, isBlankLine l = true := by
      intro l hl
      exact isBlankLine_iff.2 fun c hc =>
        hb c (by rw [hsplit]; exact List.mem_append_left _ (mem_of_mem_lines hl hc))
    refine ⟨r₁.reverse, fun c hc => hb c (by rw [hsplit]; simp [List.mem_reverse.1 hc]), ?_⟩
    rw [hsplit, List.append_assoc, List.cons_append, lines_append_newline,
      runTexts, runs_append_blank hblank]
    exact runTexts_append (by simpa using hr₁) hv
  · exact ⟨b, hb, runTexts_append hn hv⟩

/-- A text without its leading blanks has the same runs, the first without its leading blanks. -/
theorem runTexts_trimStart {t : Text} (h : trimStart t ≠ []) :
    runTexts (lines (trimStart t)) = (runTexts (lines t)).modifyHead trimStart := by
  obtain ⟨b, hsplit, hb⟩ := trimStart_prefix_split t
  obtain ⟨c, y, hy, hc⟩ := exists_cons_of_trimStart h (trimStart_trimStart t)
  obtain ⟨x, hx, hruns⟩ := runTexts_blank_append hb (head_lines_not_blank hc y)
  obtain ⟨p, ps, hfirst⟩ := runTexts_cons_of_not_blank hc y
  rw [hy] at hsplit ⊢
  rw [hsplit, hruns, hfirst, List.modifyHead_cons, List.modifyHead_cons,
    trimStart_append_of_blank hx, trimStart_of_not_blank hc]

theorem runTexts_trimEnd {t : Text} (h : trimEnd t ≠ []) :
    runTexts (lines (trimEnd t)) = ((runTexts (lines t)).reverse.modifyHead trimEnd).reverse := by
  have hne : trimStart t.reverse ≠ [] := by simpa [trimEnd, trimStart] using h
  have hback : runTexts (lines (trimEnd t)) =
    ((runTexts (lines (trimStart t.reverse))).map List.reverse).reverse := runTexts_reverse _
  rw [hback, runTexts_trimStart hne, runTexts_reverse]
  congr 1
  rw [← List.map_reverse]
  cases (runTexts (lines t)).reverse with
  | nil => rfl
  | cons p ps => simp [trimEnd, trimStart]

theorem blank_unifyNewlines_iff (t : Text) :
    (∀ c ∈ unifyNewlines t, isBlank c = true) ↔ ∀ c ∈ t, isBlank c = true := by
  have hcr : isBlank '\r' = true := by decide
  fun_induction unifyNewlines t with
  | case1 rest ih => simp [ih, hcr, isBlank_newline]
  | case2 rest _ ih => simp [ih, hcr, isBlank_newline]
  | case3 c rest _ _ ih => simp [ih]
  | case4 => simp

theorem trim_unifyNewlines_eq_nil_iff {t : Text} :
    trim (unifyNewlines t) = [] ↔ t.all isBlank = true := by
  rw [trim_eq_nil_iff, blank_unifyNewlines_iff, List.all_eq_true]

/-- The paragraphs of a text are those that its lines make up. -/
theorem paragraphs_eq_lineParagraphs (t : Text) : paragraphs t = lineParagraphs t := by
  unfold lineParagraphs
  by_cases hall : t.all isBlank = true
  · rw [if_pos hall, paragraphs_of_blank (trim_unifyNewlines_eq_nil_iff.2 hall)]
  · have htrim : trim (unifyNewlines t) ≠ [] :=
      fun hnil => hall (trim_unifyNewlines_eq_nil_iff.1 hnil)
    have hstart : trimStart (unifyNewlines t) ≠ [] :=
      fun hnil => htrim (by rw [trim, hnil, trimEnd_nil])
    rw [if_neg hall, paragraphs_eq htrim, trim, runTexts_trimEnd htrim, runTexts_trimStart hstart]
    rfl

theorem paragraphs_ne_of_not_blank {t : Text} (h : t.all isBlank = false) :
    paragraphs t ≠ [[]] := by
  have htrim : trim (unifyNewlines t) ≠ [] := by
    rw [ne_eq, trim_unifyNewlines_eq_nil_iff, h]
    simp
  obtain ⟨c, x, hx, hc⟩ := exists_cons_of_trimStart htrim (trimStart_trim _)
  obtain ⟨p, ps, hfirst⟩ := runTexts_cons_of_not_blank hc x
  rw [paragraphs_eq htrim, hx, hfirst]
  simp

/-! ## Joined again -/

theorem unparagraphs_modifyHead (c : Char) {ps : List Text} (h : ps ≠ []) :
    unparagraphs (ps.modifyHead (c :: ·)) = c :: unparagraphs ps :=
  intercalate_modifyHead ['\n', '\n'] [c] h

theorem unparagraphs_splitOnText (t : Text) : unparagraphs (splitOnText gap t) = t := by
  induction hn : t.length using Nat.strong_induction_on generalizing t with
  | _ n ih =>
    cases t with
    | nil => rfl
    | cons c t =>
      by_cases hgap : gap.isPrefixOf (c :: t) = true
      · obtain ⟨y, hy⟩ := List.isPrefixOf_iff_prefix.1 hgap
        rw [← hy] at hn ⊢
        change unparagraphs (splitOnText gap ('\n' :: '\n' :: y)) = '\n' :: '\n' :: y
        rw [splitOnText_gap_gap, unparagraphs_cons (splitOnText_ne_nil gap y),
          ih y.length (by rw [← hn, List.length_append]; simp) y rfl, List.nil_append]
      · rw [splitOnText_cons (Bool.eq_false_iff.2 hgap), unparagraphs_modifyHead c (splitOnText_ne_nil gap t),
          ih t.length (by rw [← hn]; simp) t rfl]

theorem unparagraphs_paragraphs (t : Text) :
    unparagraphs (paragraphs t) = trim (collapse (unifyNewlines t)) :=
  unparagraphs_splitOnText _

theorem paragraphs_rejoined (t : Text) :
    paragraphs (unparagraphs (paragraphs t)) = paragraphs t := by
  by_cases hblank : paragraphs t = [[]]
  · rw [hblank]
    rfl
  · refine paragraphs_unparagraphs_of_solid (splitOnText_ne_nil gap _) ?_ ?_ ?_
    · exact fun p hp => cr_not_mem_of_mem_paragraphs hp
    · exact fun p hp => isSolid_of_mem_paragraphs hp hblank
    · rw [unparagraphs_paragraphs, trim_eq_self (trimStart_trim _) (trimEnd_trim _)]

/-- Two ways to find paragraphs are one. Cutting at empty lines, once gaps are replaced and the ends
trimmed, gives the runs of lines that are not blank. So no paragraph is blank or has a blank line,
and joined paragraphs are found again, with nothing changed for a reader but the block that it was
given. -/
theorem paragraphs_by_lines (t : Text) :
    (∃ u, (∀ v, GapsReplaced (unifyNewlines t) v ↔ v = u) ∧ paragraphs t = splitOnText gap (trim u)) ∧
      paragraphs t = lineParagraphs t ∧
      (t.all isBlank = false → ∀ p ∈ paragraphs t, isBlankLine p = false ∧
        ∀ l ∈ lines p, isBlankLine l = false) ∧
      paragraphs (unparagraphs (paragraphs t)) = paragraphs t ∧
      ∀ r : Reader, r.block? (unparagraphs (paragraphs t)) =
        (r.block? t).map fun s => { s with raw := unparagraphs (paragraphs t) } := by
  refine ⟨⟨_, fun _ => gapsReplaced_iff, rfl⟩, paragraphs_eq_lineParagraphs t, ?_,
    paragraphs_rejoined t, ?_⟩
  · intro hall p hp
    have hsolid := isSolid_of_mem_paragraphs hp (paragraphs_ne_of_not_blank hall)
    obtain ⟨c, hc, hcb⟩ := hsolid.exists_not_blank
    refine ⟨?_, hsolid⟩
    rw [isBlankLine, List.all_eq_false]
    exact ⟨c, hc, by simp [hcb]⟩
  · intro r
    rw [Reader.block?_eq, Reader.block?_eq, paragraphs_rejoined, Option.map_map]
    rfl

end Stylebook.Text
