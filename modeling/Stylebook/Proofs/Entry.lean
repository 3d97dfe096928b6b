import Mathlib.Data.List.Forall2
import Stylebook.Proofs.Text
import Stylebook.Section.Reader

/-!
# Laws of entries

* `Entry.Opening` : the parts of a line that begins an entry: blanks, a word, blanks, a dash, and a
  rest after a blank; `Entry.starts_iff` : these are the lines that do;
* `Entry.Opening.ofLine_line` : the entry of such a line is its word with the rest, and
  `Entry.Opening.name_of_leading_dash` : a dash that blanks lead in is taken for the separator
  instead;
* `Entry.written` : the line of an entry, `name - description`; `Entry.IsWritable` : name and
  description can be told apart in it; `Entry.ofLine_written` : the entry is read back from it;
* `Entry.collect?_unlines` : lines that all begin entries are collected one by one;
  `Entry.isSome_collect?`, `Entry.collect?_eq_some` : when lines are collected, and which;
  `Entry.starts_of_mem_collect?` : these begin entries;
* `Entry.NamedBy`, `Entry.leadsWithDash` : when the name of an entry is the first word of its line.
-/

namespace Stylebook.Entry

open Text

/-! ## Lines that begin entries -/

/-- A dash between blanks is a word of its own. -/
theorem words_separator {gap : Text} (hne : gap ≠ []) (hgap : ∀ c ∈ gap, isBlank c = true)
    {d : Char} (hd : isBlank d = true) (x t : Text) :
    words (x ++ (gap ++ '-' :: d :: t)) = words x ++ ['-'] :: words t := by
  obtain ⟨c, gap, rfl⟩ := List.exists_cons_of_ne_nil hne
  rw [List.forall_mem_cons] at hgap
  have hdash : words ('-' :: d :: t) = ['-'] :: words t := words_append_blank hd ['-'] t
  rw [List.cons_append, words_append_blank hgap.1, words_blank_append hgap.2, hdash]

/-- A line that begins an entry. -/
structure Opening where
  lead : Text
  word : Text
  gap : Text
  blank : Char
  rest : Text
  lead_blank : ∀ c ∈ lead, isBlank c = true
  isWord : IsWord word
  gap_ne_nil : gap ≠ []
  gap_blank : ∀ c ∈ gap, isBlank c = true
  isBlank_blank : isBlank blank = true

namespace Opening

def line (o : Opening) : Text := o.lead ++ (o.word ++ (o.gap ++ '-' :: o.blank :: o.rest))

def extend (o : Opening) (t : Text) : Opening := { o with rest := o.rest ++ t }

theorem line_extend (o : Opening) (t : Text) : (o.extend t).line = o.line ++ t := by
  simp [line, extend]

theorem trimStart_line (o : Opening) :
    trimStart o.line = o.word ++ (o.gap ++ '-' :: o.blank :: o.rest) := by
  rw [line, trimStart_append_of_blank o.lead_blank, o.isWord.trimStart_append]

theorem dashFollows_gap (o : Opening) : dashFollows (o.gap ++ '-' :: o.blank :: o.rest) = true := by
  rw [dashFollows, trimStart_append_of_blank o.gap_blank, trimStart_of_not_blank (by decide)]
  exact o.isBlank_blank

theorem starts_line (o : Opening) : starts o.line = true := by
  obtain ⟨g, gap, hgap⟩ := List.exists_cons_of_ne_nil o.gap_ne_nil
  have hg : isBlank g = true := o.gap_blank g (hgap ▸ List.mem_cons_self)
  have hdrop : (o.word ++ (o.gap ++ '-' :: o.blank :: o.rest)).dropWhile (!isBlank ·) =
      o.gap ++ '-' :: o.blank :: o.rest := by
    rw [List.dropWhile_append_of_pos fun c hc => by simp [o.isWord.no_blank c hc], hgap, List.cons_append,
      List.dropWhile_cons_of_neg (by simp [hg])]
  rw [starts, trimStart_line, hdrop, dashFollows_gap]

theorem words_line (o : Opening) : words o.line = o.word :: ['-'] :: words o.rest := by
  rw [line, words_blank_append o.lead_blank, words_separator o.gap_ne_nil o.gap_blank o.isBlank_blank,
    words_of_word o.isWord]
  rfl

end Opening

theorem exists_opening {line : Text} (h : starts line = true) : ∃ o : Opening, o.line = line := by
  obtain ⟨u, hu⟩ : ∃ u, u = trimStart line := ⟨_, rfl⟩
  obtain ⟨t, ht⟩ : ∃ t, t = u.dropWhile (!isBlank ·) := ⟨_, rfl⟩
  rw [starts, ← hu, ← ht] at h
  unfold dashFollows at h
  split at h
  case h_2 => exact absurd h (by simp)
  rename_i d rest hdash
  have hne : t ≠ [] := by
    rintro rfl
    exact absurd hdash (by simp)
  have hword : u.takeWhile (!isBlank ·) ≠ [] := by
    cases u with
    | nil => exact absurd ht hne
    | cons c u =>
      have hc : isBlank c = false := not_blank_of_trimStart (by rw [hu, trimStart_trimStart])
      simp [hc]
  have hgap : t.takeWhile isBlank ≠ [] := by
    have hhead := List.head_dropWhile_not (!isBlank ·) (ht ▸ hne)
    obtain ⟨c, t', rfl⟩ := List.exists_cons_of_ne_nil hne
    simp only [← ht, List.head_cons, Bool.not_eq_false'] at hhead
    simp [hhead]
  refine ⟨⟨line.takeWhile isBlank, u.takeWhile (!isBlank ·), t.takeWhile isBlank, d, rest,
    fun c hc => List.mem_takeWhile_imp hc,
    ⟨hword, fun c hc => by simpa using List.mem_takeWhile_imp hc⟩, hgap,
    fun c hc => List.mem_takeWhile_imp hc, h⟩, ?_⟩
  calc line.takeWhile isBlank ++ (u.takeWhile (!isBlank ·) ++ (t.takeWhile isBlank ++ '-' :: d :: rest))
      = line.takeWhile isBlank ++ (u.takeWhile (!isBlank ·) ++ t) := by
        rw [← hdash]
        exact congrArg _ (congrArg _ List.takeWhile_append_dropWhile)
    _ = line.takeWhile isBlank ++ u := by rw [ht, List.takeWhile_append_dropWhile]
    _ = line := by
      rw [hu]
      exact List.takeWhile_append_dropWhile

theorem starts_iff {line : Text} : starts line = true ↔ ∃ o : Opening, o.line = line := by
  constructor
  · exact exists_opening
  · rintro ⟨o, rfl⟩
    exact o.starts_line

/-! ## The first separator -/

theorem afterSeparator?_cons (c : Char) (t : Text) : afterSeparator? (c :: t) =
    match trimStart (c :: t) with
    | '-' :: d :: rest => if isBlank c && isBlank d then some (trimStart rest) else none
    | _ => none := by
  rfl

theorem afterSeparator?_of_not_blank {c : Char} (hc : isBlank c = false) (t : Text) :
    afterSeparator? (c :: t) = none := by
  rw [afterSeparator?_cons]
  split
  · simp [hc]
  · rfl

theorem afterSeparator?_gap {gap : Text} (hne : gap ≠ []) (hgap : ∀ c ∈ gap, isBlank c = true)
    {d : Char} (hd : isBlank d = true) (t : Text) :
    afterSeparator? (gap ++ '-' :: d :: t) = some (trimStart t) := by
  obtain ⟨c, gap, rfl⟩ := List.exists_cons_of_ne_nil hne
  have hc : isBlank c = true := hgap c List.mem_cons_self
  have htrim : trimStart (c :: (gap ++ '-' :: d :: t)) = '-' :: d :: t := by
    rw [← List.cons_append, trimStart_append_of_blank hgap, trimStart_of_not_blank (by decide)]
  rw [List.cons_append, afterSeparator?_cons, htrim]
  simp only [hc, hd, Bool.and_self]
  rfl

theorem afterSeparator?_word {c : Char} {s word t : Text} (htrim : trimStart (c :: s) = word ++ t)
    (hword : IsWord word) (hne : word ≠ ['-']) : afterSeparator? (c :: s) = none := by
  rw [afterSeparator?_cons, htrim]
  split
  · rename_i d rest hdash
    match word, hword, hne with
    | [a], _, hne =>
      rw [List.singleton_append, List.cons.injEq] at hdash
      exact absurd (hdash.1 ▸ rfl) hne
    | a :: b :: word, hword, _ =>
      simp only [List.cons_append, List.cons.injEq] at hdash
      have hd : isBlank d = false := hdash.2.1 ▸ hword.no_blank b (by simp)
      simp [hd]
  · rfl

theorem cut?_cons (c : Char) (t : Text) : cut? (c :: t) =
    match afterSeparator? (c :: t) with
    | some description => some ([], description)
    | none => (cut? t).map fun (name, description) => (c :: name, description) := by
  rfl

theorem cut?_of_afterSeparator? {t description : Text} (h : afterSeparator? t = some description) :
    cut? t = some ([], description) := by
  cases t with
  | nil => exact absurd h (by simp [show afterSeparator? [] = none from rfl])
  | cons c t => rw [cut?_cons, h]

/-- A text in which no separator begins stands before the first one. -/
theorem cut?_append {x t name description : Text}
    (hx : ∀ y c z, x = y ++ c :: z → afterSeparator? (c :: z ++ t) = none)
    (ht : cut? t = some (name, description)) : cut? (x ++ t) = some (x ++ name, description) := by
  induction x with
  | nil => exact ht
  | cons c x ih =>
    have hc : afterSeparator? (c :: (x ++ t)) = none := hx [] c x rfl
    have hrest := ih fun y d z hy => hx (c :: y) d z (by rw [hy, List.cons_append])
    rw [List.cons_append, cut?_cons, hc, hrest]
    rfl

namespace Opening

/-- No separator begins in the lead or in the word, so the line is cut at the gap after them. -/
theorem cut?_line {o : Opening} (h : o.lead = [] ∨ o.word ≠ ['-']) :
    cut? o.line = some (o.lead ++ o.word, trimStart o.rest) := by
  have hgap : cut? (o.gap ++ '-' :: o.blank :: o.rest) = some ([], trimStart o.rest) :=
    cut?_of_afterSeparator? (afterSeparator?_gap o.gap_ne_nil o.gap_blank o.isBlank_blank o.rest)
  have hword : cut? (o.word ++ (o.gap ++ '-' :: o.blank :: o.rest)) =
      some (o.word ++ [], trimStart o.rest) := by
    refine cut?_append (fun y c z hy => ?_) hgap
    exact afterSeparator?_of_not_blank (o.isWord.no_blank c (by simp [hy])) _
  rw [List.append_nil] at hword
  refine cut?_append (fun y c z hy => ?_) hword
  rcases h with hlead | hdash
  · exact absurd (hlead.symm.trans hy) (by simp)
  · have hz : ∀ d ∈ c :: z, isBlank d = true :=
      fun d hd => o.lead_blank d (hy ▸ List.mem_append_right y hd)
    have htrim := trimStart_append_of_blank hz (o.word ++ (o.gap ++ '-' :: o.blank :: o.rest))
    rw [o.isWord.trimStart_append] at htrim
    exact afterSeparator?_word htrim o.isWord hdash

theorem ofLine_line {o : Opening} (h : o.lead = [] ∨ o.word ≠ ['-']) :
    ofLine o.line = { name := o.word, description := trimStart o.rest } := by
  rw [ofLine, cut?_line h]
  simp [trim_append_of_blank o.lead_blank, trim_eq_self o.isWord.trimStart o.isWord.trimEnd]

theorem name_of_leading_dash {o : Opening} (hlead : o.lead ≠ []) (hword : o.word = ['-']) :
    (ofLine o.line).name = [] := by
  obtain ⟨g, gap, hgap⟩ := List.exists_cons_of_ne_nil o.gap_ne_nil
  have hg : isBlank g = true := o.gap_blank g (hgap ▸ List.mem_cons_self)
  have hline : o.line = o.lead ++ '-' :: g :: (gap ++ '-' :: o.blank :: o.rest) := by
    simp [line, hword, hgap]
  rw [ofLine, hline, cut?_of_afterSeparator? (afterSeparator?_gap hlead o.lead_blank hg _)]
  rfl

end Opening

/-! ## Written entries -/

def written (e : Entry) : Text := e.name ++ [' ', '-', ' '] ++ e.description

/-- The name is a word, and the description has no leading blanks. -/
structure IsWritable (e : Entry) : Prop where
  name : IsWord e.name
  description : trimStart e.description = e.description

variable {e : Entry}

theorem written_eq (e : Entry) : e.written = e.name ++ ' ' :: '-' :: ' ' :: e.description := by
  simp [written]

def IsWritable.opening (h : e.IsWritable) : Opening where
  lead := []
  word := e.name
  gap := [' ']
  blank := ' '
  rest := e.description
  lead_blank := by simp
  isWord := h.name
  gap_ne_nil := by simp
  gap_blank := by simp [isBlank_space]
  isBlank_blank := isBlank_space

theorem IsWritable.line_opening (h : e.IsWritable) : h.opening.line = e.written :=
  (written_eq e).symm

/-- A written line begins an entry. -/
theorem starts_written (h : e.IsWritable) : starts e.written = true :=
  h.line_opening ▸ h.opening.starts_line

/-- An entry is read back from its line. -/
theorem ofLine_written (h : e.IsWritable) : ofLine e.written = e := by
  rw [← h.line_opening, Opening.ofLine_line (Or.inl rfl)]
  simp [IsWritable.opening, h.description]

/-! ## Collected lines -/

theorem collectFrom_of_starts {current : Text} {ls : List Text} (h : ∀ l ∈ ls, starts l = true) :
    collectFrom current ls = current :: ls := by
  induction ls generalizing current with
  | nil => rfl
  | cons l ls ih =>
    rw [collectFrom, if_pos (h l List.mem_cons_self), ih fun k hk => h k (List.mem_cons_of_mem _ hk)]

/-- Lines that all begin entries are collected one by one. -/
theorem collect?_unlines {ls : List Text} (hne : ls ≠ []) (hlines : ∀ l ∈ ls, '\n' ∉ l)
    (h : ∀ l ∈ ls, starts l = true) : collect? (unlines ls) = some ls := by
  obtain ⟨first, rest, rfl⟩ := List.exists_cons_of_ne_nil hne
  rw [collect?, lines_unlines hne hlines]
  simp only
  rw [if_pos (h first List.mem_cons_self), collectFrom_of_starts fun l hl => h l (List.mem_cons_of_mem _ hl)]

theorem starts_append {line : Text} (h : starts line = true) (t : Text) :
    starts (line ++ t) = true := by
  obtain ⟨o, rfl⟩ := starts_iff.1 h
  rw [← o.line_extend]
  exact (o.extend t).starts_line

theorem starts_of_mem_collectFrom {current line : Text} {ls : List Text} (h : starts current = true)
    (hline : line ∈ collectFrom current ls) : starts line = true := by
  induction ls generalizing current with
  | nil =>
    rw [List.mem_singleton.1 hline]
    exact h
  | cons l ls ih =>
    rw [collectFrom] at hline
    split at hline
    · rename_i hl
      rcases List.mem_cons.1 hline with rfl | hline
      · exact h
      · exact ih hl hline
    · exact ih (starts_append h _) hline

theorem isSome_collect? (paragraph : Text) :
    (collect? paragraph).isSome = starts ((lines paragraph).head (lines_ne_nil paragraph)) := by
  obtain ⟨first, rest, hlines⟩ := List.exists_cons_of_ne_nil (lines_ne_nil paragraph)
  simp only [collect?, hlines, List.head_cons]
  cases starts first <;> rfl

theorem collect?_eq_some {paragraph : Text} {ls : List Text} (h : collect? paragraph = some ls) :
    ∃ first rest, lines paragraph = first :: rest ∧ starts first = true ∧
      ls = collectFrom first rest := by
  unfold collect? at h
  split at h
  · rename_i first rest hlines
    split at h
    · rename_i hfirst
      cases h
      exact ⟨first, rest, hlines, hfirst, rfl⟩
    · exact absurd h (by simp)
  · exact absurd h (by simp)

theorem starts_of_mem_collect? {paragraph line : Text} {ls : List Text}
    (h : collect? paragraph = some ls) (hline : line ∈ ls) : starts line = true := by
  obtain ⟨first, rest, -, hfirst, rfl⟩ := collect?_eq_some h
  exact starts_of_mem_collectFrom hfirst hline

/-! ## Names -/

def NamedBy (line : Text) (e : Entry) : Prop := IsWord e.name ∧ (words line).head? = some e.name

/-- Blanks stand before the first word of the line, and this is a dash. -/
def leadsWithDash (line : Text) : Bool := line.head?.any isBlank && (words line).head? == some ['-']

theorem Opening.leadsWithDash_line (o : Opening) :
    leadsWithDash o.line = true ↔ o.lead ≠ [] ∧ o.word = ['-'] := by
  have hlead : o.line.head?.any isBlank = true ↔ o.lead ≠ [] := by
    cases hlead : o.lead with
    | nil =>
      obtain ⟨c, word, hword⟩ := List.exists_cons_of_ne_nil o.isWord.ne_nil
      have hc : isBlank c = false := o.isWord.no_blank c (hword ▸ List.mem_cons_self)
      simp [line, hlead, hword, hc]
    | cons c lead => simp [line, hlead, o.lead_blank c (hlead ▸ List.mem_cons_self)]
  rw [leadsWithDash, Bool.and_eq_true, hlead, o.words_line]
  simp

theorem entry_eq_ofLine {r : Reader} (h : r.renderer = none) : r.entry = ofLine := by
  funext line
  rw [Reader.entry, h]

theorem name_entry (r : Reader) (line : Text) : (r.entry line).name = (ofLine line).name := by
  unfold Reader.entry
  cases r.renderer <;> rfl

/-- The lines collected from a paragraph give one entry each. An entry is named by the first word of
its line unless blanks lead in a dash there, and then it has no name. -/
theorem named_by_first_word (r : Reader) (paragraph : Text) (ls : List Text)
    (h : collect? paragraph = some ls) :
    List.Forall₂ (fun line e =>
        (NamedBy line e ↔ leadsWithDash line = false) ∧ (leadsWithDash line = true → e.name = []))
      ls (ls.map r.entry) := by
  rw [List.forall₂_map_right_iff, List.forall₂_same]
  intro line hline
  obtain ⟨o, rfl⟩ := exists_opening (starts_of_mem_collect? h hline)
  rw [NamedBy, name_entry, ← Bool.not_eq_true, o.leadsWithDash_line]
  by_cases hdash : o.lead ≠ [] ∧ o.word = ['-']
  · have hname := Opening.name_of_leading_dash hdash.1 hdash.2
    rw [hname]
    exact ⟨⟨fun hnamed => absurd rfl hnamed.1.ne_nil, fun hnot => absurd hdash hnot⟩, fun _ => rfl⟩
  · have hopen : o.lead = [] ∨ o.word ≠ ['-'] := by
      rwa [not_and_or, not_not] at hdash
    rw [Opening.ofLine_line hopen, o.words_line]
    exact ⟨⟨fun _ => hdash, fun _ => ⟨o.isWord, rfl⟩⟩, fun hnot => absurd hnot hdash⟩

/-- A name with a description of two lines, a dash as a name, and one that blanks lead in. -/
theorem named_by_first_word_dashes :
    let paragraph := ".big - Makes it\n   bigger\n- - dash\n - - odd".toList
    let ls := [".big - Makes it bigger".toList, "- - dash".toList, " - - odd".toList]
    let r : Reader := {}
    collect? paragraph = some ls ∧
      ls.map r.entry = [⟨".big".toList, "Makes it bigger".toList⟩, ⟨['-'], "dash".toList⟩, ⟨[], "- odd".toList⟩] ∧
      List.Forall₂ (fun line e =>
          (NamedBy line e ↔ leadsWithDash line = false) ∧ (leadsWithDash line = true → e.name = []))
        ls (ls.map r.entry) := by
  intro paragraph ls r
  have h : collect? paragraph = some ls := by
    decide +kernel
  exact ⟨h, by decide +kernel, named_by_first_word r paragraph ls h⟩

/-- An indented dash is collected as the name of an entry and yet names none. -/
theorem leading_dash_unnamed :
    let ls := ["  - - odd".toList]
    let r : Reader := {}
    collect? "  - - odd".toList = some ls ∧ ¬List.Forall₂ NamedBy ls (ls.map r.entry) := by
  intro ls r
  refine ⟨by decide +kernel, fun hnamed => ?_⟩
  rw [List.forall₂_map_right_iff, List.forall₂_same] at hnamed
  have hword := (hnamed "  - - odd".toList List.mem_cons_self).1
  exact hword.ne_nil (by decide +kernel)

end Stylebook.Entry
