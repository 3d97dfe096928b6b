import Stylebook.Proofs.Comment.Writing
import Stylebook.Proofs.Label
import Stylebook.Proofs.Paragraph
import Stylebook.Section.Reader

/-!
# Stanzas

A stanza is a paragraph by its lines. Blocks are written as stanzas with an empty line between two.

* `IsFull`, `IsTight` : a line without trailing blanks, or without blanks at both ends; `IsStanza` :
  the lines of a paragraph;
* `isBlock_stanzas` : joined stanzas are a block as the lexer gives it;
* `afterFirstParagraph_unparagraphs`, `occurs_unparagraphs` : what a reader makes of joined
  paragraphs;
* `labelled` : the stanza of a property; `place` : puts it among others;
* `extract_place` : a property is taken out wherever it stands.
-/

namespace Stylebook

open Text

/-! ## Stanzas -/

structure IsFull (l : Text) : Prop where
  isLine : Comment.IsLine l
  ne_nil : l ≠ []
  stop : trimEnd l = l

/-- A line that is not empty and has no blanks at its ends. -/
structure IsTight (l : Text) : Prop extends IsFull l where
  start : trimStart l = l

structure IsLead (l : Text) : Prop where
  isLine : Comment.IsLine l
  ne_nil : l ≠ []
  start : trimStart l = l

/-- The lines of a paragraph. All but the first may be indented. -/
structure IsStanza (ls : List Text) : Prop where
  ne_nil : ls ≠ []
  full : ∀ l ∈ ls, IsFull l
  start : ∀ l ∈ ls.head?, trimStart l = l

instance (l : Text) : Decidable (IsFull l) :=
  decidable_of_iff (Comment.IsLine l ∧ l ≠ [] ∧ trimEnd l = l) ⟨fun h => ⟨h.1, h.2.1, h.2.2⟩, fun h => ⟨h.1, h.2, h.3⟩⟩

instance (l : Text) : Decidable (IsTight l) :=
  decidable_of_iff (IsFull l ∧ trimStart l = l) ⟨fun h => ⟨h.1, h.2⟩, fun h => ⟨h.1, h.2⟩⟩

instance (l : Text) : Decidable (IsLead l) :=
  decidable_of_iff (Comment.IsLine l ∧ l ≠ [] ∧ trimStart l = l) ⟨fun h => ⟨h.1, h.2.1, h.2.2⟩, fun h => ⟨h.1, h.2, h.3⟩⟩

instance (ls : List Text) : Decidable (IsStanza ls) :=
  decidable_of_iff (ls ≠ [] ∧ (∀ l ∈ ls, IsFull l) ∧ ∀ l ∈ ls.head?, trimStart l = l)
    ⟨fun h => ⟨h.1, h.2.1, h.2.2⟩, fun h => ⟨h.1, h.2, h.3⟩⟩

theorem IsFull.not_blank {l : Text} (h : IsFull l) : isBlankLine l = false := by
  rw [Bool.eq_false_iff]
  intro hblank
  apply h.ne_nil
  rw [← h.stop, trimEnd_eq_nil_iff.2 (isBlankLine_iff.1 hblank)]

theorem IsTight.isLead {l : Text} (h : IsTight l) : IsLead l := ⟨h.isLine, h.ne_nil, h.start⟩

theorem IsFull.append {l m : Text} (hl : Comment.IsLine l) (hm : IsFull m) : IsFull (l ++ m) where
  isLine := hl.append hm.isLine
  ne_nil := by simp [hm.ne_nil]
  stop := by rw [trimEnd_append_of_ne_nil _ (by rw [hm.stop]; exact hm.ne_nil), hm.stop]

theorem IsLead.append {l m : Text} (hl : IsLead l) (hm : IsFull m) : IsTight (l ++ m) where
  toIsFull := hm.append hl.isLine
  start := by rw [trimStart_append_of_ne_nil (by rw [hl.start]; exact hl.ne_nil), hl.start]

theorem isTight_of_word {w : Text} (h : IsWord w) : IsTight w where
  isLine := by
    constructor
    · exact fun hc => absurd (h.no_blank _ hc) (by decide)
    · exact fun hc => absurd (h.no_blank _ hc) (by decide)
  ne_nil := h.ne_nil
  stop := h.trimEnd
  start := h.trimStart

/-- Words joined by spaces make a line. -/
theorem isTight_unwords {ws : List Text} (hne : ws ≠ []) (h : ∀ w ∈ ws, IsWord w) :
    IsTight (unwords ws) := by
  induction ws with
  | nil => exact absurd rfl hne
  | cons w ws ih =>
    have hw := isTight_of_word (h w List.mem_cons_self)
    rw [unwords_cons]
    split
    · rwa [List.append_nil]
    · rename_i hws
      have hrest := (ih hws fun v hv => h v (List.mem_cons_of_mem _ hv)).toIsFull
      exact hw.isLead.append (hrest.append (by decide : Comment.IsLine [' ']))

theorem isStanza_of_tight {ls : List Text} (hne : ls ≠ []) (h : ∀ l ∈ ls, IsTight l) :
    IsStanza ls :=
  ⟨hne, fun l hl => (h l hl).toIsFull, fun l hl => (h l (List.mem_of_mem_head? hl)).start⟩

namespace IsStanza

variable {ls : List Text}

theorem lines_unlines (h : IsStanza ls) : lines (unlines ls) = ls :=
  Text.lines_unlines h.ne_nil fun l hl => (h.full l hl).isLine.no_lf

theorem cr_not_mem (h : IsStanza ls) : '\r' ∉ unlines ls := by
  intro hc
  rcases eq_or_mem_of_mem_unlines hc with hc | ⟨l, hl, hc⟩
  · exact absurd hc (by decide)
  · exact (h.full l hl).isLine.no_cr hc

theorem trimStart_unlines (h : IsStanza ls) : trimStart (unlines ls) = unlines ls := by
  obtain ⟨l, rest, rfl⟩ := List.exists_cons_of_ne_nil h.ne_nil
  have hl : trimStart l = l := h.start l rfl
  by_cases hrest : rest = []
  · subst hrest
    simpa [unlines] using hl
  · have hne : trimStart l ≠ [] := by
      rw [hl]
      exact (h.full l List.mem_cons_self).ne_nil
    rw [unlines_cons hrest, trimStart_append_of_ne_nil hne, hl]

end IsStanza

theorem trimEnd_unlines {ls : List Text} (h : ∀ l ∈ ls, IsFull l) :
    trimEnd (unlines ls) = unlines ls := by
  induction ls with
  | nil => rfl
  | cons l ls ih =>
    by_cases hls : ls = []
    · subst hls
      simpa [unlines] using (h l List.mem_cons_self).stop
    · have hfull : ∀ k ∈ ls, IsFull k := fun k hk => h k (List.mem_cons_of_mem _ hk)
      have hrest := ih hfull
      have hne : trimEnd (unlines ls) ≠ [] := by
        rw [hrest]
        intro hnil
        obtain ⟨k, ks, rfl⟩ := List.exists_cons_of_ne_nil hls
        have hlines := Text.lines_unlines hls fun k hk => (hfull k hk).isLine.no_lf
        rw [hnil, lines_nil] at hlines
        exact (hfull k List.mem_cons_self).ne_nil (List.cons.inj hlines).1.symm
      rw [unlines_cons hls, ← List.singleton_append, ← List.append_assoc,
        trimEnd_append_of_ne_nil _ hne, hrest]

/-- A stanza is a paragraph. -/
theorem IsStanza.isParagraph {ls : List Text} (h : IsStanza ls) : IsParagraph (unlines ls) where
  no_cr := h.cr_not_mem
  lines l hl := (h.full l (h.lines_unlines ▸ hl)).not_blank
  start := h.trimStart_unlines
  stop := trimEnd_unlines h.full

theorem isParagraph_of_mem_stanzas {ss : List (List Text)} (h : ∀ s ∈ ss, IsStanza s) :
    ∀ p ∈ ss.map unlines, IsParagraph p := by
  intro p hp
  obtain ⟨s, hs, rfl⟩ := List.mem_map.1 hp
  exact (h s hs).isParagraph

/-- The lines of joined stanzas are theirs, with empty lines between. -/
theorem lines_stanzas {ss : List (List Text)} (hne : ss ≠ []) (h : ∀ s ∈ ss, IsStanza s) :
    lines (unparagraphs (ss.map unlines)) = [[]].intercalate ss := by
  have hlines : (ss.map unlines).map lines = ss := by
    rw [List.map_map]
    exact (List.map_congr_left fun s hs => (h s hs).lines_unlines).trans (List.map_id ss)
  rw [lines_unparagraphs (by simpa using hne), hlines]

/-- Joined stanzas are a block as the lexer gives it. -/
theorem isBlock_stanzas {ss : List (List Text)} (hne : ss ≠ []) (h : ∀ s ∈ ss, IsStanza s) :
    Comment.IsBlock (unparagraphs (ss.map unlines)) := by
  have hps := isParagraph_of_mem_stanzas h
  have hblock : unparagraphs (ss.map unlines) ≠ [] :=
    unparagraphs_ne_nil (by simpa using hne) fun p hp => (hps p hp).isSolid
  constructor
  · exact hblock
  · intro hc
    rcases eq_or_mem_of_mem_unparagraphs hc with hc | ⟨p, hp, hc⟩
    · exact absurd hc (by decide)
    · exact (hps p hp).no_cr hc
  · intro l hl
    rw [lines_stanzas hne h] at hl
    rcases mem_or_mem_of_mem_intercalate hl with hl | ⟨s, hs, hl⟩
    · rw [List.mem_singleton.1 hl, trimEnd_nil]
    · exact ((h s hs).full l hl).stop
  · rw [head_lines_ne_nil_iff hblock]
    obtain ⟨c, x, hx, hc⟩ := exists_cons_of_trimStart hblock (trimStart_unparagraphs hps)
    simp only [hx, List.head_cons]
    exact ne_newline_of_not_blank hc
  · rw [getLast_lines_ne_nil_iff hblock]
    obtain ⟨x, c, hx, hc⟩ := exists_concat_of_trimEnd hblock (trimEnd_unparagraphs hps)
    simp only [hx, List.getLast_concat]
    exact ne_newline_of_not_blank hc

/-! ## Headers and descriptions -/

/-- A text with spaces in place of its line feeds. -/
theorem replaceChar_newline (t : Text) :
    replaceChar '\n' [' '] t = t.map fun c => if c = '\n' then ' ' else c := by
  induction t with
  | nil => rfl
  | cons c t ih =>
    unfold replaceChar at ih ⊢
    rw [List.flatMap_cons, ih, List.map_cons]
    by_cases hc : c = '\n' <;> simp [hc]

theorem replaceChar_of_no_newline {t : Text} (h : '\n' ∉ t) : replaceChar '\n' [' '] t = t := by
  rw [replaceChar_newline]
  refine (List.map_congr_left fun c hc => ?_).trans (List.map_id t)
  rw [if_neg (by rintro rfl; exact h hc), id]

/-- Lines with spaces in place of the line feeds between them. -/
theorem replaceChar_unlines {ls : List Text} (h : ∀ l ∈ ls, '\n' ∉ l) :
    replaceChar '\n' [' '] (unlines ls) = unwords ls := by
  induction ls with
  | nil => rfl
  | cons l ls ih =>
    have hl := replaceChar_of_no_newline (h l List.mem_cons_self)
    rw [unwords_cons]
    split
    · rename_i hls
      subst hls
      simpa [unlines] using hl
    · rename_i hls
      have hrest := ih fun k hk => h k (List.mem_cons_of_mem _ hk)
      unfold replaceChar at hl hrest ⊢
      rw [unlines_cons hls, List.flatMap_append, List.flatMap_cons, hl, hrest]
      rfl

theorem afterFirstParagraph_cons {c : Char} (h : c ≠ '\n') (t : Text) :
    afterFirstParagraph (c :: t) = afterFirstParagraph t := by
  rw [afterFirstParagraph]
  intro _ hc
  exact absurd hc h

theorem afterFirstParagraph_newline {c : Char} (h : c ≠ '\n') (t : Text) :
    afterFirstParagraph ('\n' :: c :: t) = afterFirstParagraph (c :: t) := by
  rw [afterFirstParagraph]
  rintro _ - hc
  exact absurd (List.cons.inj hc).1 h

theorem afterFirstParagraph_line {l : Text} (h : '\n' ∉ l) (t : Text) :
    afterFirstParagraph (l ++ t) = afterFirstParagraph t := by
  induction l with
  | nil => rfl
  | cons c l ih =>
    rw [List.mem_cons, not_or] at h
    rw [List.cons_append, afterFirstParagraph_cons (Ne.symm h.1), ih h.2]

/-- There is no empty line among lines that are not empty. -/
theorem afterFirstParagraph_lines {ls : List Text} (hlf : ∀ l ∈ ls, '\n' ∉ l)
    (hne : ∀ l ∈ ls, l ≠ []) (t : Text) :
    afterFirstParagraph (unlines ls ++ t) = afterFirstParagraph t := by
  induction ls with
  | nil => rfl
  | cons l ls ih =>
    have hl := hlf l List.mem_cons_self
    cases ls with
    | nil => simpa [unlines] using afterFirstParagraph_line hl t
    | cons m ls =>
      have hrest := ih (fun k hk => hlf k (List.mem_cons_of_mem _ hk)) fun k hk =>
        hne k (List.mem_cons_of_mem _ hk)
      have hm : m ∈ l :: m :: ls := List.mem_cons_of_mem _ List.mem_cons_self
      obtain ⟨c, x, hx⟩ : ∃ c x, unlines (m :: ls) = c :: x ∧ c ≠ '\n' := by
        obtain ⟨c, k, rfl⟩ := List.exists_cons_of_ne_nil (hne m hm)
        have hc : c ≠ '\n' := fun hc => hlf _ hm (hc ▸ List.mem_cons_self)
        by_cases hls : ls = []
        · subst hls
          exact ⟨c, k, by simp [unlines], hc⟩
        · exact ⟨c, k ++ '\n' :: unlines ls, by rw [unlines_cons hls]; rfl, hc⟩
      rw [hx.1, List.cons_append] at hrest
      rw [unlines_cons (List.cons_ne_nil m ls), hx.1, List.append_assoc,
        afterFirstParagraph_line hl, List.cons_append, List.cons_append,
        afterFirstParagraph_newline hx.2, hrest]

theorem afterFirstParagraph_solid {p : Text} (h : IsSolid p) (t : Text) :
    afterFirstParagraph (p ++ t) = afterFirstParagraph t := by
  have hlines := afterFirstParagraph_lines (fun _ hl => newline_not_mem_of_mem_lines hl)
    (fun _ hl => h.line_ne_nil hl) t
  rwa [unlines_lines] at hlines

/-- The paragraphs after the first one. -/
theorem afterFirstParagraph_unparagraphs {p : Text} {ps : List Text} (hp : IsSolid p)
    (h : ∀ q ∈ ps, IsSolid q) : afterFirstParagraph (unparagraphs (p :: ps)) = unparagraphs ps := by
  cases ps with
  | nil =>
    have hlast := afterFirstParagraph_solid hp []
    rw [List.append_nil] at hlast
    rw [unparagraphs_singleton, hlast]
    rfl
  | cons q qs =>
    have hq := h q List.mem_cons_self
    have hfirst : q.head hq.ne_nil ≠ '\n' :=
      (head_lines_ne_nil_iff hq.ne_nil).1 (hq.line_ne_nil (List.head_mem _))
    obtain ⟨c, x, rfl⟩ := List.exists_cons_of_ne_nil hq.ne_nil
    obtain ⟨y, hy⟩ : ∃ y, unparagraphs ((c :: x) :: qs) = c :: y := by
      cases qs with
      | nil => exact ⟨x, unparagraphs_singleton _⟩
      | cons _ _ => exact ⟨_, unparagraphs_cons (List.cons_ne_nil _ _)⟩
    have hdrop : (c :: y).dropWhile (· == '\n') = c :: y :=
      List.dropWhile_cons_of_neg (by simpa using hfirst)
    rw [unparagraphs_cons (List.cons_ne_nil _ _), afterFirstParagraph_solid hp,
      afterFirstParagraph, hy, hdrop]

theorem after?_nil (m : Option Matcher) (label : Text) : Label.after? m label [] = none := by
  have hexact : Label.afterExact? label [] = none := by cases label <;> rfl
  rw [Label.after?, hexact]
  cases m <;> rfl

/-- A label occurs in joined paragraphs if it occurs in one of them. -/
theorem occurs_unparagraphs (m : Option Matcher) (label : Text) (ps : List Text) :
    Label.occurs m label (unparagraphs ps) = ps.any (Label.occurs m label) := by
  by_cases hne : ps = []
  · subst hne
    have hlines : lines (unparagraphs []) = [[]] := lines_nil
    rw [Label.occurs, hlines, List.any_cons, after?_nil]
    rfl
  · unfold Label.occurs
    rw [lines_unparagraphs hne, Bool.eq_iff_iff]
    simp only [List.any_eq_true]
    constructor
    · rintro ⟨l, hl, hlabel⟩
      rcases mem_or_mem_of_mem_intercalate hl with hl | ⟨s, hs, hl⟩
      · rw [List.mem_singleton.1 hl, after?_nil] at hlabel
        exact absurd hlabel (by decide)
      · obtain ⟨p, hp, rfl⟩ := List.mem_map.1 hs
        exact ⟨p, hp, l, hl, hlabel⟩
    · rintro ⟨p, hp, l, hl, hlabel⟩
      exact ⟨l, mem_intercalate_of_mem (List.mem_map_of_mem hp) hl, hlabel⟩

/-- Some line of joined stanzas has the label if one of theirs has. -/
theorem occurs_stanzas (label : Text) {ss : List (List Text)} (h : ∀ s ∈ ss, IsStanza s) :
    Label.occurs none label (unparagraphs (ss.map unlines)) =
      ss.flatten.any fun l => (Label.after? none label l).isSome := by
  rw [occurs_unparagraphs, List.any_map, List.any_flatten, Bool.eq_iff_iff,
    List.any_eq_true, List.any_eq_true]
  refine exists_congr fun s => and_congr_right fun hs => ?_
  rw [Function.comp_apply, Label.occurs, (h s hs).lines_unlines]

/-! ## Properties -/

/-- The stanza of a property: its label before the first line of the value, or on a line of its
own. -/
def labelled (label : Text) (ownLine : Bool) (value : List Text) : List Text :=
  if ownLine then (label ++ [':']) :: value
  else (label ++ ':' :: ' ' :: value.headD []) :: value.tail

/-- Puts a property, if there is one, among other stanzas. -/
def place (label : Text) (ownLine : Bool) (position : Nat) (value : Option (List Text))
    (ss : List (List Text)) : List (List Text) :=
  match value with
  | none => ss
  | some ls => ss.take position ++ labelled label ownLine ls :: ss.drop position

theorem isStanza_labelled {label : Text} (h : IsLead label) (ownLine : Bool) {value : List Text}
    (hvalue : IsStanza value) : IsStanza (labelled label ownLine value) := by
  obtain ⟨l, ls, rfl⟩ := List.exists_cons_of_ne_nil hvalue.ne_nil
  have hls : ∀ k ∈ ls, IsFull k := fun k hk => hvalue.full k (List.mem_cons_of_mem _ hk)
  cases ownLine with
  | true =>
    refine ⟨List.cons_ne_nil _ _, ?_, ?_⟩
    · intro k hk
      rcases List.mem_cons.1 hk with rfl | hk
      · exact (h.append (by decide : IsFull [':'])).toIsFull
      · exact hvalue.full k hk
    · rintro k ⟨⟩
      exact (h.append (by decide : IsFull [':'])).start
  | false =>
    have hfirst : IsTight (label ++ ':' :: ' ' :: l) :=
      h.append ((hvalue.full l List.mem_cons_self).append (by decide : Comment.IsLine [':', ' ']))
    refine ⟨List.cons_ne_nil _ _, ?_, ?_⟩
    · intro k hk
      rcases List.mem_cons.1 hk with rfl | hk
      · exact hfirst.toIsFull
      · exact hls k hk
    · rintro k ⟨⟩
      exact hfirst.start

/-- The value of a property is found in its stanza. -/
theorem remove?_labelled {label : Text} (h : IsLead label) (ownLine : Bool) {value : List Text}
    (hvalue : IsStanza value) :
    Label.remove? none label (unlines (labelled label ownLine value)) = some (unlines value) := by
  have hlines := isStanza_labelled h ownLine hvalue
  obtain ⟨l, ls, rfl⟩ := List.exists_cons_of_ne_nil hvalue.ne_nil
  have hl : l ≠ [] := (hvalue.full l List.mem_cons_self).ne_nil
  cases ownLine with
  | true =>
    have hafter : Label.after? none label (label ++ [':']) = some [] :=
      Label.after?_label none label []
    have hlf : ∀ k ∈ (label ++ [':']) :: l :: ls, '\n' ∉ k :=
      fun k hk => (hlines.full k hk).isLine.no_lf
    rw [labelled, if_pos rfl, Label.remove?_unlines_cons (hlf _ List.mem_cons_self)
      (fun k hk => hlf k (List.mem_cons_of_mem _ hk)) hafter]
    rfl
  | false =>
    have hafter : Label.after? none label (label ++ ':' :: ' ' :: l) = some l :=
      Label.after?_label none label (' ' :: l)
    have hlf : ∀ k ∈ (label ++ ':' :: ' ' :: l) :: ls, '\n' ∉ k :=
      fun k hk => (hlines.full k hk).isLine.no_lf
    rw [labelled, if_neg (by simp), List.headD_cons, List.tail_cons,
      Label.remove?_unlines_cons (hlf _ List.mem_cons_self) (fun k hk => hlf k (List.mem_cons_of_mem _ hk)) hafter,
      if_neg (by simpa using hl)]

theorem mem_place {label : Text} {ownLine : Bool} {position : Nat} {value : Option (List Text)}
    {ss : List (List Text)} {s : List Text} (h : s ∈ place label ownLine position value ss) :
    s ∈ ss ∨ ∃ ls ∈ value, s = labelled label ownLine ls := by
  cases value with
  | none => exact Or.inl h
  | some ls =>
    rw [place, List.mem_append, List.mem_cons] at h
    rcases h with h | h | h
    · exact Or.inl (List.mem_of_mem_take h)
    · exact Or.inr ⟨ls, rfl, h⟩
    · exact Or.inl (List.mem_of_mem_drop h)

/-- A property is taken out wherever it stands, if no other stanza has a line with its label. -/
theorem extract_place {label : Text} (hlabel : IsLead label) (ownLine : Bool) (position : Nat)
    {value : Option (List Text)} (hvalue : ∀ ls ∈ value, IsStanza ls) {ss : List (List Text)}
    (hss : ∀ s ∈ ss, IsStanza s) (h : ∀ s ∈ ss, ∀ l ∈ s, Label.after? none label l = none) :
    Label.extract none label ((place label ownLine position value ss).map unlines) =
      (value.map unlines, ss.map unlines) := by
  have hnot : ∀ p ∈ ss.map unlines, Label.occurs none label p = false := by
    intro p hp
    obtain ⟨s, hs, rfl⟩ := List.mem_map.1 hp
    rw [Label.occurs, (hss s hs).lines_unlines, List.any_eq_false]
    intro l hl
    simp [h s hs l hl]
  cases value with
  | none => exact Label.extract_of_not_occurs hnot
  | some ls =>
    have htake : ∀ p ∈ (ss.map unlines).take position, Label.occurs none label p = false :=
      fun p hp => hnot p (List.mem_of_mem_take hp)
    rw [place, List.map_append, List.map_cons, List.map_take, List.map_drop,
      Label.extract_append (remove?_labelled hlabel ownLine (hvalue ls rfl)) htake,
      List.take_append_drop, Option.map_some]

end Stylebook
