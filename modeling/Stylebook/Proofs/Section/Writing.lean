import Stylebook.Proofs.Entry
import Stylebook.Proofs.Section.Checked
import Stylebook.Proofs.Section.Stanza

/-!
# Writing sections

* `Draft` : a section as its author has it, line by line; `Draft.WellFormed` : its parts can be told
  apart;
* `Layout` : how the keyword is spelt and where the properties stand; `Draft.block` : the comment
  block of a draft;
* `Draft.toSection` : the section that a draft stands for;
* `Draft.properties_block`, `Draft.ofParagraphs_body` : what a reader takes out of the block and the
  roles of what is left; `Draft.block?_block`, from them : the block of a draft is read as its
  section;
* `Passage`, `writeSheet` : drafts in a stylesheet, as comments of any style among code;
  `sheet_writeSheet` : they are read back.
-/

namespace Stylebook

open Text

/-! ## Drafts -/

/-- A section as its author has it. -/
structure Draft where
  header : List Text
  description : List (List Text) := []
  entries : List Entry := []
  markup : Option (List Text) := none
  weight : Option Text := none
  reference : List Text
  deriving DecidableEq

/-- The choices in writing a draft: the keyword in any case, the markup on the line of its label or
below it, and markup and weight after any number of the other paragraphs. -/
structure Layout where
  keyword : Text := "Styleguide".toList
  markupBelow : Bool := false
  markupAt : Nat := 0
  weightAt : Nat := 0
  deriving DecidableEq

namespace Draft

def prose (d : Draft) : List Text := d.header ++ d.description.flatten

def entryLines (d : Draft) : List Text := d.entries.map Entry.written

/-- The parts of the draft can be told apart when it is written down. -/
structure WellFormed (d : Draft) : Prop where
  header_ne_nil : d.header ≠ []
  header : ∀ l ∈ d.header, IsTight l
  description : ∀ p ∈ d.description, p ≠ [] ∧ ∀ l ∈ p, IsTight l
  entries : ∀ e ∈ d.entries, IsWord e.name ∧ IsTight e.description
  markup : ∀ ls ∈ d.markup, IsStanza ls
  weight : ∀ w ∈ d.weight, IsTight w
  reference_ne_nil : d.reference ≠ []
  reference : ∀ w ∈ d.reference, IsWord w
  no_markup : ∀ l ∈ d.prose ++ d.entryLines, Label.after? none "Markup".toList l = none
  no_weight : ∀ l ∈ d.prose ++ d.entryLines, Label.after? none "Weight".toList l = none
  no_entry : d.entries = [] → ∀ p ∈ d.description.getLast?, ∀ l ∈ p.head?, Entry.starts l = false

def body (d : Draft) (keyword : Text) : List (List Text) :=
  d.header :: d.description ++ (if d.entries = [] then [] else [d.entryLines]) ++
    [[unwords (keyword :: d.reference)]]

def stanzas (d : Draft) (lay : Layout) : List (List Text) :=
  place "Markup".toList lay.markupBelow lay.markupAt d.markup
    (place "Weight".toList false lay.weightAt (d.weight.map ([·])) (d.body lay.keyword))

def block (d : Draft) (lay : Layout) : Text := unparagraphs ((d.stanzas lay).map unlines)

def shownEntries (d : Draft) (r : Reader) : List Entry :=
  d.entries.map fun e => { e with description := r.renderer.elim id Renderer.inline e.description }

/-- The section that a draft stands for. -/
def toSection (d : Draft) (r : Reader) (raw : Text) : Section where
  reference := unwords d.reference
  raw := raw
  header := unwords d.header
  description := r.renderer.elim id Renderer.block
    (unparagraphs (((if r.dropsHeader then [] else [d.header]) ++ d.description).map unlines))
  weight := (d.weight.map Weight.read).getD 0
  markup := d.markup.map unlines
  modifiers := if d.markup.isSome then d.shownEntries r else []
  parameters := if d.markup.isSome then [] else d.shownEntries r
  deprecated := d.prose.any fun l => (Label.after? none "Deprecated".toList l).isSome
  experimental := d.prose.any fun l => (Label.after? none "Experimental".toList l).isSome

variable {d : Draft}

namespace WellFormed

theorem isStanza_header (h : d.WellFormed) : IsStanza d.header :=
  isStanza_of_tight h.header_ne_nil h.header

theorem isStanza_description (h : d.WellFormed) {p : List Text} (hp : p ∈ d.description) :
    IsStanza p :=
  isStanza_of_tight (h.description p hp).1 (h.description p hp).2

theorem isWritable (h : d.WellFormed) {e : Entry} (he : e ∈ d.entries) : e.IsWritable :=
  ⟨(h.entries e he).1, (h.entries e he).2.start⟩

theorem isTight_written (h : d.WellFormed) {e : Entry} (he : e ∈ d.entries) :
    IsTight e.written := by
  obtain ⟨hname, hdescription⟩ := h.entries e he
  rw [Entry.written_eq]
  exact (isTight_of_word hname).isLead.append
    (hdescription.toIsFull.append (by decide : Comment.IsLine [' ', '-', ' ']))

theorem isStanza_entryLines (h : d.WellFormed) (hne : d.entries ≠ []) : IsStanza d.entryLines := by
  apply isStanza_of_tight
  · simpa [entryLines] using hne
  · intro l hl
    obtain ⟨e, he, rfl⟩ := List.mem_map.1 hl
    exact h.isTight_written he

theorem isTight_marker (h : d.WellFormed) {k : Text} (hk : Marker.IsSpelling k) :
    IsTight (unwords (k :: d.reference)) := by
  apply isTight_unwords (List.cons_ne_nil _ _)
  intro w hw
  rcases List.mem_cons.1 hw with rfl | hw
  · exact hk.isWord
  · exact h.reference w hw

end WellFormed

/-- A stanza of the body is the header, a paragraph of the description, the entries or the
marker. -/
theorem mem_body {k : Text} {s : List Text} (hs : s ∈ d.body k) :
    s = d.header ∨ s ∈ d.description ∨ (d.entries ≠ [] ∧ s = d.entryLines) ∨
      s = [unwords (k :: d.reference)] := by
  rw [body, List.mem_append, List.mem_append, List.mem_cons, List.mem_singleton] at hs
  rcases hs with ((hs | hs) | hs) | hs
  · exact Or.inl hs
  · exact Or.inr (Or.inl hs)
  · split at hs
    · exact absurd hs List.not_mem_nil
    · rename_i hne
      exact Or.inr (Or.inr (Or.inl ⟨hne, List.mem_singleton.1 hs⟩))
  · exact Or.inr (Or.inr (Or.inr hs))

theorem isStanza_of_mem_body (h : d.WellFormed) {k : Text} (hk : Marker.IsSpelling k) :
    ∀ s ∈ d.body k, IsStanza s := by
  intro s hs
  rcases mem_body hs with rfl | hs | ⟨hne, rfl⟩ | rfl
  · exact h.isStanza_header
  · exact h.isStanza_description hs
  · exact h.isStanza_entryLines hne
  · exact isStanza_of_tight (List.cons_ne_nil _ _) fun l hl =>
      List.mem_singleton.1 hl ▸ h.isTight_marker hk

/-- No line of the body has a label that neither text nor entries have, for the marker begins with
another letter. -/
theorem after?_of_mem_body {p : Char} {label : Text} (hp : (caseKey p == 's') = false)
    (h : ∀ l ∈ d.prose ++ d.entryLines, Label.after? none (p :: label) l = none) {k : Text}
    (hk : Marker.IsSpelling k) :
    ∀ s ∈ d.body k, ∀ l ∈ s, Label.after? none (p :: label) l = none := by
  intro s hs l hl
  rcases mem_body hs with rfl | hs | ⟨-, rfl⟩ | rfl
  · exact h l (List.mem_append_left _ (List.mem_append_left _ hl))
  · exact h l (List.mem_append_left _ (List.mem_append_right _ (List.mem_flatten.2 ⟨s, hs, hl⟩)))
  · exact h l (List.mem_append_right _ hl)
  · obtain ⟨c, rest, rfl, hc⟩ := hk.first
    rw [List.mem_singleton.1 hl, unwords_cons, List.cons_append]
    exact Label.after?_of_first (hk.isWord.no_blank c List.mem_cons_self)
      (by rw [sameLetter, hc, hp]) _ _

theorem isStanza_weight (h : d.WellFormed) : ∀ ls ∈ d.weight.map ([·]), IsStanza ls := by
  intro ls hls
  obtain ⟨w, hw, rfl⟩ := Option.map_eq_some_iff.1 hls
  exact isStanza_of_tight (List.cons_ne_nil _ _) fun l hl => List.mem_singleton.1 hl ▸ h.weight w hw

theorem isLead_markup : IsLead "Markup".toList := by decide

theorem isLead_weight : IsLead "Weight".toList := by decide

theorem isStanza_of_mem_stanzas (h : d.WellFormed) {lay : Layout}
    (hk : Marker.IsSpelling lay.keyword) : ∀ s ∈ d.stanzas lay, IsStanza s := by
  intro s hs
  rcases mem_place hs with hs | ⟨ls, hls, rfl⟩
  · rcases mem_place hs with hs | ⟨ls, hls, rfl⟩
    · exact isStanza_of_mem_body h hk s hs
    · exact isStanza_labelled isLead_weight false (isStanza_weight h ls hls)
  · exact isStanza_labelled isLead_markup lay.markupBelow (h.markup ls hls)

theorem stanzas_ne_nil (d : Draft) (lay : Layout) : d.stanzas lay ≠ [] := by
  have hplace : ∀ (label : Text) (ownLine : Bool) (position : Nat) (value : Option (List Text))
      {ss : List (List Text)}, ss ≠ [] → place label ownLine position value ss ≠ [] := by
    intro label ownLine position value ss hss
    cases value with
    | none => exact hss
    | some ls => simp [place]
  exact hplace _ _ _ _ (hplace _ _ _ _ (by simp [body]))

/-! ## Reading drafts -/

theorem paragraphs_block (h : d.WellFormed) {lay : Layout} (hk : Marker.IsSpelling lay.keyword) :
    paragraphs (d.block lay) = (d.stanzas lay).map unlines :=
  paragraphs_unparagraphs (by simpa using stanzas_ne_nil d lay)
    (isParagraph_of_mem_stanzas (isStanza_of_mem_stanzas h hk))

/-- The properties of a draft are found, and its body is left. -/
theorem properties_block (h : d.WellFormed) {lay : Layout} (hk : Marker.IsSpelling lay.keyword)
    {r : Reader} (hm : r.matcher = none) (hc : r.custom = []) :
    r.properties (paragraphs (d.block lay)) =
      { markup := d.markup.map unlines
        weight := (d.weight.map Weight.read).getD 0
        custom := {}
        rest := (d.body lay.keyword).map unlines } := by
  have hbody := isStanza_of_mem_body h hk
  have hweight := extract_place isLead_weight false lay.weightAt (isStanza_weight h) hbody
    (after?_of_mem_body (by decide) h.no_weight hk)
  have hstanzas : ∀ s ∈ place "Weight".toList false lay.weightAt (d.weight.map ([·]))
      (d.body lay.keyword), IsStanza s ∧ ∀ l ∈ s, Label.after? none "Markup".toList l = none := by
    intro s hs
    rcases mem_place hs with hs | ⟨ls, hls, rfl⟩
    · exact ⟨hbody s hs, after?_of_mem_body (by decide) h.no_markup hk s hs⟩
    · refine ⟨isStanza_labelled isLead_weight false (isStanza_weight h ls hls), ?_⟩
      obtain ⟨w, -, rfl⟩ := Option.map_eq_some_iff.1 hls
      intro l hl
      rw [List.mem_singleton.1 hl]
      exact Label.after?_of_first (by decide) (by decide) _ _
  have hmarkup := extract_place isLead_markup lay.markupBelow lay.markupAt h.markup
    (fun s hs => (hstanzas s hs).1) fun s hs => (hstanzas s hs).2
  have hone : (d.weight.map ([·])).map unlines = d.weight := by
    cases d.weight <;> simp [unlines]
  rw [paragraphs_block h hk, Reader.properties, hm, hc, stanzas, hmarkup]
  simp only
  rw [hweight, hone, Reader.customProperties]

/-- The paragraphs of the body have the roles for which they were written. -/
theorem ofParagraphs_body (h : d.WellFormed) {k : Text} (reference : Text) :
    Content.ofParagraphs reference ((d.body k).map unlines) =
      ⟨unlines d.header, unparagraphs ((d.header :: d.description).map unlines), d.entryLines⟩ := by
  by_cases hentries : d.entries = []
  · rcases List.eq_nil_or_concat d.description with hnil | ⟨mid, last, hlast⟩
    · simp [body, hentries, hnil, entryLines, Content.ofParagraphs]
    · rw [List.concat_eq_append] at hlast
      have hp : last ∈ d.description := by simp [hlast]
      obtain ⟨l, ls, rfl⟩ := List.exists_cons_of_ne_nil (h.description last hp).1
      have hstart : Entry.starts l = false := h.no_entry hentries (l :: ls) (by simp [hlast]) l rfl
      have hcollect : Entry.collect? (unlines (l :: ls)) = none := by
        rw [Entry.collect?, (h.isStanza_description hp).lines_unlines]
        simp [hstart]
      have hbody : (d.body k).map unlines = unlines d.header :: mid.map unlines ++
          [unlines (l :: ls), unlines [unwords (k :: d.reference)]] := by
        simp [body, hentries, hlast]
      rw [hbody, Content.ofParagraphs_concat, hcollect]
      simp [hlast, entryLines, hentries]
  · have hcollect : Entry.collect? (unlines d.entryLines) = some d.entryLines := by
      have hstanza := h.isStanza_entryLines hentries
      refine Entry.collect?_unlines hstanza.ne_nil (fun l hl => (hstanza.full l hl).isLine.no_lf) ?_
      intro l hl
      obtain ⟨e, he, rfl⟩ := List.mem_map.1 hl
      exact Entry.starts_written (h.isWritable he)
    have hbody : (d.body k).map unlines = unlines d.header :: d.description.map unlines ++
        [unlines d.entryLines, unlines [unwords (k :: d.reference)]] := by
      simp [body, hentries]
    rw [hbody, Content.ofParagraphs_concat, hcollect, List.map_cons]

theorem map_entry_entryLines (h : d.WellFormed) (r : Reader) :
    d.entryLines.map r.entry = d.shownEntries r := by
  rw [entryLines, List.map_map]
  apply List.map_congr_left
  intro e he
  rw [Function.comp_apply, Reader.entry, Entry.ofLine_written (h.isWritable he)]
  cases r.renderer <;> rfl

theorem shownDescription_draft (h : d.WellFormed) (r : Reader) :
    r.shownDescription (unparagraphs ((d.header :: d.description).map unlines)) =
      r.renderer.elim id Renderer.block
      (unparagraphs (((if r.dropsHeader then [] else [d.header]) ++ d.description).map unlines)) := by
  have hparagraphs := isParagraph_of_mem_stanzas fun _ hs => h.isStanza_description hs
  have hafter := afterFirstParagraph_unparagraphs h.isStanza_header.isParagraph.isSolid fun p hp =>
    (hparagraphs p hp).isSolid
  rw [Reader.shownDescription, List.map_cons, hafter]
  cases r.dropsHeader <;> cases r.renderer <;> rfl

/-- The block of a draft is read as its section. -/
theorem block?_block (h : d.WellFormed) {lay : Layout} (hk : Marker.IsSpelling lay.keyword)
    {r : Reader} (hm : r.matcher = none) (hc : r.custom = []) :
    r.block? (d.block lay) = some (d.toSection r (d.block lay)) := by
  have hmarker : Marker.find? none ((d.body lay.keyword).map unlines) =
      some (unwords d.reference) := by
    rw [body, List.map_append, List.map_singleton, unlines, List.intercalate_singleton]
    exact Marker.find?_keyword hk h.reference_ne_nil h.reference none _
  have hoccurs : ∀ label, Label.occurs none label (unparagraphs ((d.header :: d.description).map unlines)) =
      d.prose.any fun l => (Label.after? none label l).isSome := by
    intro label
    refine occurs_stanzas label fun s hs => ?_
    rcases List.mem_cons.1 hs with rfl | hs
    · exact h.isStanza_header
    · exact h.isStanza_description hs
  have hheader : replaceChar '\n' [' '] (unlines d.header) = unwords d.header :=
    replaceChar_unlines fun l hl => (h.header l hl).isLine.no_lf
  rw [Reader.block?_eq, properties_block h hk hm hc, hm, hmarker, Option.map_some, ofParagraphs_body h]
  simp only [Reader.assemble, hm, hoccurs, hheader, shownDescription_draft h,
    map_entry_entryLines h, toSection, Option.isSome_map]

end Draft

/-! ## Stylesheets -/

structure Passage where
  gap : List Text := []
  style : Comment.Style
  layout : Layout := {}
  draft : Draft
  deriving DecidableEq

def Passage.piece (p : Passage) : Comment.Piece :=
  { gap := p.gap, style := p.style, block := p.draft.block p.layout }

/-- The stylesheet of the given passages, with lines of code at its end. -/
def writeSheet (ps : List Passage) (tail : List Text) : Text :=
  Comment.write (ps.map Passage.piece) tail

/-- Passages that can be told apart when they are written one after the other. -/
structure Legible (ps : List Passage) (tail : List Text) : Prop where
  drafts : ∀ p ∈ ps, p.draft.WellFormed
  keywords : ∀ p ∈ ps, Marker.IsSpelling p.layout.keyword
  fits : ∀ p ∈ ps, p.style.Fits (p.draft.block p.layout)
  gaps : ∀ p ∈ ps, ∀ l ∈ p.gap, Comment.IsCode l
  tail : ∀ l ∈ tail, Comment.IsCode l
  apart : (ps.map Passage.piece).IsChain Comment.Apart

instance (d : Draft) : Decidable d.WellFormed :=
  decidable_of_iff ((d.header ≠ [] ∧ (∀ l ∈ d.header, IsTight l) ∧
      (∀ p ∈ d.description, p ≠ [] ∧ ∀ l ∈ p, IsTight l) ∧
      (∀ e ∈ d.entries, IsWord e.name ∧ IsTight e.description)) ∧
      ((∀ ls ∈ d.markup, IsStanza ls) ∧ (∀ w ∈ d.weight, IsTight w) ∧
      d.reference ≠ [] ∧ ∀ w ∈ d.reference, IsWord w) ∧
      (∀ l ∈ d.prose ++ d.entryLines, Label.after? none "Markup".toList l = none) ∧
      (∀ l ∈ d.prose ++ d.entryLines, Label.after? none "Weight".toList l = none) ∧
      (d.entries = [] → ∀ p ∈ d.description.getLast?, ∀ l ∈ p.head?, Entry.starts l = false))
    ⟨fun ⟨⟨h₁, h₂, h₃, h₄⟩, ⟨h₅, h₆, h₇, h₈⟩, h₉, h₁₀, h₁₁⟩ => ⟨h₁, h₂, h₃, h₄, h₅, h₆, h₇, h₈, h₉, h₁₀, h₁₁⟩,
      fun ⟨h₁, h₂, h₃, h₄, h₅, h₆, h₇, h₈, h₉, h₁₀, h₁₁⟩ =>
        ⟨⟨h₁, h₂, h₃, h₄⟩, ⟨h₅, h₆, h₇, h₈⟩, h₉, h₁₀, h₁₁⟩⟩

instance (ps : List Passage) (tail : List Text) : Decidable (Legible ps tail) :=
  decidable_of_iff ((∀ p ∈ ps, p.draft.WellFormed) ∧ (∀ p ∈ ps, Marker.IsSpelling p.layout.keyword) ∧
      (∀ p ∈ ps, p.style.Fits (p.draft.block p.layout)) ∧
      (∀ p ∈ ps, ∀ l ∈ p.gap, Comment.IsCode l) ∧
      (∀ l ∈ tail, Comment.IsCode l) ∧ (ps.map Passage.piece).IsChain Comment.Apart)
    ⟨fun ⟨h₁, h₂, h₃, h₄, h₅, h₆⟩ => ⟨h₁, h₂, h₃, h₄, h₅, h₆⟩, fun ⟨h₁, h₂, h₃, h₄, h₅, h₆⟩ => ⟨h₁, h₂, h₃, h₄, h₅, h₆⟩⟩

/-- The blocks of a legible stylesheet are those of its passages. -/
theorem blocks_writeSheet {ps : List Passage} {tail : List Text} (h : Legible ps tail) :
    Comment.blocks (writeSheet ps tail) = ps.map fun p => p.draft.block p.layout := by
  have hwritable : Comment.Writable (ps.map Passage.piece) tail := by
    constructor
    · intro q hq
      obtain ⟨p, hp, rfl⟩ := List.mem_map.1 hq
      exact isBlock_stanzas (p.draft.stanzas_ne_nil p.layout)
        (Draft.isStanza_of_mem_stanzas (h.drafts p hp) (h.keywords p hp))
    · intro q hq
      obtain ⟨p, hp, rfl⟩ := List.mem_map.1 hq
      exact h.fits p hp
    · intro q hq
      obtain ⟨p, hp, rfl⟩ := List.mem_map.1 hq
      exact h.gaps p hp
    · exact h.tail
    · exact h.apart
  rw [writeSheet, Comment.blocks_write hwritable, List.map_map]
  rfl

/-- A legible stylesheet is read as the sections of its drafts. -/
theorem sheet_writeSheet {ps : List Passage} {tail : List Text} (h : Legible ps tail) {r : Reader}
    (hm : r.matcher = none) (hc : r.custom = []) :
    r.sheet (writeSheet ps tail) = ps.map fun p =>
      p.draft.toSection r (p.draft.block p.layout) := by
  rw [Reader.sheet, blocks_writeSheet h, List.filterMap_map, ← List.filterMap_eq_map]
  apply List.filterMap_congr
  intro p hp
  rw [Function.comp_apply, Function.comp_apply, Draft.block?_block (h.drafts p hp) (h.keywords p hp) hm hc]

/-- Drafts written as a stylesheet are read back as their sections, in order, whether or not
descriptions are rendered and keep their headers. -/
theorem Guide.read_written_drafts (ps : List Passage) (tail : List Text) (h : Legible ps tail)
    (markdown header : Bool) (renderer : Option Renderer) (matcher : Option Matcher) :
    let r := Reader.ofOptions { markdown, header } renderer matcher
    ∃ g ws, Guide.readValue r (.text (writeSheet ps tail)) = .ok (g, ws) ∧
      g.sections = ps.map fun p => p.draft.toSection r (p.draft.block p.layout) := by
  intro r
  have hm : r.matcher = none := rfl
  have hc : r.custom = [] := rfl
  obtain ⟨g, hg⟩ : ∃ g, g = read r [{ text := writeSheet ps tail }] := ⟨_, rfl⟩
  refine ⟨g.1, g.2, ?_, ?_⟩
  · rw [readValue_text, ← hg]
  · rw [hg, read_sections, List.flatMap_singleton, sheet_writeSheet h hm hc]

/-- Drafts in the three styles: one with everything, its properties at both ends and looking like
each other; one that is deprecated and has an entry on a line where none counts; one that is only a
header and a reference. -/
theorem Guide.read_written_drafts_mixed :
    let full : Draft := {
      header := ["Buttons".toList, "of all kinds".toList]
      description := [["size - in points".toList, "x".toList], ["a //".toList]]
      entries := [⟨":hover".toList, "- lit".toList⟩, ⟨".big".toList, "b - c".toList⟩]
      markup := some ["<a>".toList, "  Weight: 9".toList]
      weight := some "Markup: 1.5".toList
      reference := ["Forms".toList, "1.1".toList] }
    let plain : Draft := {
      header := ["Deprecated: tables".toList]
      description := [["Cells".toList, "size - in points".toList]]
      reference := ["2".toList] }
    let bare : Draft := { header := ["Styleguide".toList], reference := ["-".toList] }
    let ps : List Passage := [
      { style := .slashes, layout := { keyword := "STYLEguide".toList, markupBelow := true, markupAt := 9 }, draft := full },
      { gap := ["a { }".toList], style := .doc, draft := plain },
      { style := .plain "\t".toList, draft := bare }]
    let r := Reader.ofOptions { markdown := false } none none
    Legible ps ["*/".toList] ∧ ∃ g ws,
      Guide.readValue r (.text (writeSheet ps ["*/".toList])) = .ok (g, ws) ∧
      g.sections = ps.map fun p => p.draft.toSection r (p.draft.block p.layout) := by
  intro full plain bare ps r
  have h : Legible ps ["*/".toList] := by decide
  exact ⟨h, Guide.read_written_drafts ps _ h false true none none⟩

end Stylebook
