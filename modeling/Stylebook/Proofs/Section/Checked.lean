import Stylebook.Guide.Source
import Stylebook.Proofs.Failure
import Stylebook.Proofs.Label
import Stylebook.Proofs.Paragraph
import Stylebook.Proofs.Reference.Marker

/-!
# Reading never fails

Reading a stylesheet reaches into lists by position, adds to the last of the entries gathered so far
and builds sections that have to stand. The checked reader makes each of these a step that can fail;
it never does, and gives what the plain reader gives.

* `ReadFault` : how a step of reading could fail;
* `Entry.gather`, `Entry.collectChecked`, `Content.ofParagraphsChecked`, `Reader.blockChecked`,
  `Reader.sheetChecked`, `Reader.sheetsChecked` : the checked reader, layer by layer, each with the
  lemma that it agrees with the plain one;
* `Section.Sound` : what holds of every section that is read.
-/

namespace Stylebook

open Text

/-- How a step of reading could fail. -/
inductive ReadFault where
  | outOfRange
  | badSection (fault : Section.Fault)
  deriving DecidableEq

def memberAt {α : Type} (xs : List α) (i : Nat) : Except ReadFault α :=
  match xs[i]? with
  | some x => .ok x
  | none => .error .outOfRange

/-! ## Entries -/

namespace Entry

/-- One more line for the entries gathered so far: it begins an entry, or belongs to the last
one. -/
def gather (entries : List Text) (line : Text) : Except ReadFault (List Text) :=
  if starts line then .ok (entries ++ [line])
  else do
    let last ← memberAt entries (entries.length - 1)
    return entries.dropLast ++ [last ++ ' ' :: trim line]

def collectChecked (paragraph : Text) : Except ReadFault (Option (List Text)) := do
  let first ← memberAt (lines paragraph) 0
  if starts first then
    let entries ← (lines paragraph).foldlM gather []
    return some entries
  else return none

theorem memberAt_last {α : Type} (xs : List α) (x : α) :
    memberAt (xs ++ [x]) ((xs ++ [x]).length - 1) = .ok x := by
  simp [memberAt]

/-- Once there is an entry, every further line finds one to belong to. -/
theorem foldlM_gather (done : List Text) (current : Text) (ls : List Text) :
    ls.foldlM gather (done ++ [current]) = .ok (done ++ collectFrom current ls) := by
  induction ls generalizing done current with
  | nil => rfl
  | cons l ls ih =>
    rw [List.foldlM_cons, collectFrom]
    by_cases hl : starts l = true
    · have hstep : gather (done ++ [current]) l = .ok (done ++ [current] ++ [l]) := by
        rw [gather, if_pos hl]
      rw [hstep, if_pos hl, ok_bind, ih, List.append_assoc, List.singleton_append]
    · have hstep : gather (done ++ [current]) l = .ok (done ++ [current ++ ' ' :: trim l]) := by
        rw [gather, if_neg hl, memberAt_last, ok_bind, List.dropLast_concat]
        rfl
      rw [hstep, if_neg hl, ok_bind, ih]

/-- Collecting entries reaches no position that is not there. -/
theorem collectChecked_eq (paragraph : Text) :
    collectChecked paragraph = .ok (collect? paragraph) := by
  obtain ⟨first, rest, hlines⟩ := List.exists_cons_of_ne_nil (lines_ne_nil paragraph)
  rw [collectChecked, collect?, hlines]
  have hfirst : memberAt (first :: rest) 0 = .ok first := rfl
  rw [hfirst, ok_bind]
  by_cases h : starts first = true
  · have hstep : gather [] first = .ok ([] ++ [first]) := by rw [gather, if_pos h]
    rw [if_pos h, List.foldlM_cons, hstep, ok_bind, foldlM_gather]
    simp [h]
  · rw [if_neg h]
    simp [h]
    rfl

end Entry

/-! ## Contents -/

def Content.ofParagraphsChecked (reference : Text) (ps : List Text) : Except ReadFault Content :=
  if ps.length == 1 then .ok ⟨reference, [], []⟩
  else if ps.length == 2 then do
    let p ← memberAt ps 0
    return ⟨p, p, []⟩
  else do
    let header ← memberAt ps 0
    let candidate ← memberAt ps (ps.length - 2)
    let description := unparagraphs (ps.take (ps.length - 2))
    let entries ← Entry.collectChecked candidate
    match entries with
    | some ls => return ⟨header, description, ls⟩
    | none => return ⟨header, description ++ '\n' :: '\n' :: candidate, []⟩

/-- The roles of three paragraphs or more, the marker apart. -/
theorem Content.ofParagraphs_concat (reference header : Text) (mid : List Text)
    (candidate marker : Text) :
    ofParagraphs reference (header :: mid ++ [candidate, marker]) =
      match Entry.collect? candidate with
      | some ls => ⟨header, unparagraphs (header :: mid), ls⟩
      | none => ⟨header, unparagraphs (header :: mid ++ [candidate]), []⟩ := by
  have hfront : (header :: mid ++ [candidate, marker]).dropLast =
      header :: (mid ++ [candidate]) := by
    rw [show header :: mid ++ [candidate, marker] = (header :: (mid ++ [candidate])) ++ [marker] by simp,
      List.dropLast_concat]
  rw [ofParagraphs, hfront]
  cases mid with
  | nil => rfl
  | cons second rest =>
    have hlast : (second :: (rest ++ [candidate])).getLast (List.cons_ne_nil _ _) = candidate := by
      simp
    have hdrop : (second :: (rest ++ [candidate])).dropLast = second :: rest := by
      rw [← List.cons_append, List.dropLast_concat]
    cases hcollect : Entry.collect? candidate with
    | none => simp [hlast, hcollect]
    | some ls => simp [hlast, hdrop, hcollect]

/-- Where a marker was found there is a paragraph, so all positions asked for are there. -/
theorem Content.ofParagraphsChecked_eq (reference : Text) {ps : List Text} (hne : ps ≠ []) :
    ofParagraphsChecked reference ps = .ok (ofParagraphs reference ps) := by
  obtain ⟨front, marker, rfl⟩ : ∃ front marker, ps = front ++ [marker] :=
    ⟨_, _, (List.dropLast_append_getLast hne).symm⟩
  cases front with
  | nil => rfl
  | cons header others =>
    by_cases hothers : others = []
    · subst hothers
      rfl
    · obtain ⟨mid, candidate, rfl⟩ : ∃ mid candidate, others = mid ++ [candidate] :=
        ⟨_, _, (List.dropLast_append_getLast hothers).symm⟩
      have hps : header :: (mid ++ [candidate]) ++ [marker] =
        header :: mid ++ [candidate, marker] := by simp
      have hlen : (header :: mid ++ [candidate, marker]).length = mid.length + 3 := by simp
      have hheader : memberAt (header :: mid ++ [candidate, marker]) 0 = .ok header := rfl
      have hcandidate : memberAt (header :: mid ++ [candidate, marker]) (mid.length + 3 - 2) =
          .ok candidate := by
        simp [memberAt]
      have htake : (header :: mid ++ [candidate, marker]).take (mid.length + 3 - 2) =
        header :: mid := by simp
      rw [ofParagraphsChecked, hps, hlen, if_neg (by simp), if_neg (by simp), hheader, ok_bind,
        hcandidate, ok_bind, htake, Entry.collectChecked_eq, ok_bind, ofParagraphs_concat,
        unparagraphs_concat (List.cons_ne_nil header mid)]
      cases Entry.collect? candidate <;> rfl

/-! ## Sound sections -/

/-- What holds of every section that is read. -/
structure Section.Sound (s : Section) : Prop where
  reference_ne_nil : s.reference ≠ []
  reference_words : unwords (words s.reference) = s.reference
  header_not_blank : ∃ c ∈ s.header, isBlank c = false
  header_no_lf : '\n' ∉ s.header
  header_no_cr : '\r' ∉ s.header
  modifiers : s.modifiers ≠ [] → s.markup.isSome = true
  parameters : s.parameters ≠ [] → s.markup = none

/-- A sound section has entries of one kind at most. -/
theorem Section.Sound.one_kind {s : Section} (h : s.Sound) :
    s.modifiers = [] ∨ s.parameters = [] := by
  by_contra hboth
  rw [not_or] at hboth
  have hsome := h.modifiers hboth.1
  rw [h.parameters hboth.2] at hsome
  exact absurd hsome (by decide)

theorem Section.Sound.check {s : Section} (h : s.Sound) : s.check = .ok s := by
  have href : s.reference.isEmpty = false := by simpa using h.reference_ne_nil
  have hkinds : (!s.modifiers.isEmpty && !s.parameters.isEmpty) = false := by
    rcases h.one_kind with hm | hp
    · simp [hm]
    · simp [hp]
  simp [Section.check, href, hkinds]

/-! ## Blocks -/

/-- The header is the reference or one of the paragraphs. -/
theorem Content.header_ofParagraphs (reference : Text) (ps : List Text) :
    (ofParagraphs reference ps).header = reference ∨ (ofParagraphs reference ps).header ∈ ps := by
  have hsub : ps.dropLast ⊆ ps := List.dropLast_subset ps
  unfold ofParagraphs
  split
  · exact Or.inl rfl
  · rename_i p h
    exact Or.inr (hsub (h ▸ List.mem_cons_self))
  · rename_i header second rest h
    have hmem : header ∈ ps := hsub (h ▸ List.mem_cons_self)
    dsimp only
    split <;> exact Or.inr hmem

theorem mem_replaceChar_newline {c : Char} {t : Text} (h : c ∈ replaceChar '\n' [' '] t) :
    c = ' ' ∨ (c ∈ t ∧ c ≠ '\n') := by
  rw [replaceChar, List.mem_flatMap] at h
  obtain ⟨d, hd, hc⟩ := h
  by_cases hn : d = '\n'
  · left
    simpa [hn] using hc
  · right
    have hcd : c = d := by simpa [hn] using hc
    exact ⟨hcd ▸ hd, hcd ▸ hn⟩

theorem mem_replaceChar_of_ne {c : Char} {t : Text} (h : c ∈ t) (hn : c ≠ '\n') :
    c ∈ replaceChar '\n' [' '] t := by
  rw [replaceChar, List.mem_flatMap]
  exact ⟨c, h, by simp [hn]⟩

namespace Reader

theorem customProperties_sublist (r : Reader) (labels : List Text) (found : OrderedMap Text Text)
    (ps : List Text) : (r.customProperties labels found ps).2.Sublist ps := by
  induction labels generalizing found ps with
  | nil => exact List.Sublist.refl ps
  | cons label labels ih =>
    have hstep := Label.extract_sublist r.matcher label ps
    rw [customProperties]
    split
    · rename_i value rest h
      rw [h] at hstep
      exact (ih _ _).trans hstep
    · rename_i rest h
      rw [h] at hstep
      exact (ih _ _).trans hstep

/-- Taking properties out of paragraphs adds none and keeps their order. -/
theorem properties_rest_sublist (r : Reader) (ps : List Text) : (r.properties ps).rest.Sublist ps :=
  (r.customProperties_sublist _ _ _).trans
    ((Label.extract_sublist r.matcher _ _).trans (Label.extract_sublist r.matcher _ _))

def assemble (r : Reader) (block : Text) (p : Properties) (reference : Text) (content : Content) :
    Section :=
  let entries := content.entryLines.map r.entry
  { reference
    raw := block
    header := replaceChar '\n' [' '] content.header
    description := r.shownDescription content.description
    weight := p.weight
    markup := p.markup
    modifiers := if p.markup.isSome then entries else []
    parameters := if p.markup.isSome then [] else entries
    deprecated := Label.occurs r.matcher "Deprecated".toList content.description
    experimental := Label.occurs r.matcher "Experimental".toList content.description
    custom := p.custom }

theorem block?_eq (r : Reader) (block : Text) : r.block? block =
    (Marker.find? r.matcher (r.properties (paragraphs block)).rest).map fun reference =>
      r.assemble block (r.properties (paragraphs block)) reference
        (Content.ofParagraphs reference (r.properties (paragraphs block)).rest) := rfl

/-- A paragraph that is left of a block with a marker has no blank lines. -/
theorem isSolid_of_mem_rest {r : Reader} {block reference q : Text}
    (h : Marker.find? r.matcher (r.properties (paragraphs block)).rest = some reference)
    (hq : q ∈ (r.properties (paragraphs block)).rest) : IsSolid q := by
  have hsub := r.properties_rest_sublist (paragraphs block)
  refine isSolid_of_mem_paragraphs (hsub.subset hq) fun hempty => ?_
  rw [hempty] at hsub h
  have hlast : (r.properties [[]]).rest.getLastD [] = [] := by
    have hmem : (r.properties [[]]).rest.getLastD [] ∈ [] :: (r.properties [[]]).rest :=
      List.getLastD_mem_cons
    rcases List.mem_cons.1 hmem with hnil | hmem
    · exact hnil
    · exact List.mem_singleton.1 (hsub.subset hmem)
  rw [Marker.find?_of_blank (by rw [hlast]; rfl)] at h
  exact absurd h (by simp)

/-- Every section that is read is sound. -/
theorem block?_sound {r : Reader} {block : Text} {s : Section} (h : r.block? block = some s) :
    s.Sound := by
  rw [block?_eq, Option.map_eq_some_iff] at h
  obtain ⟨reference, hfind, rfl⟩ := h
  obtain ⟨ps, hps⟩ : ∃ ps, ps = (r.properties (paragraphs block)).rest := ⟨_, rfl⟩
  have hheader := Content.header_ofParagraphs reference ps
  obtain ⟨content, hcontent⟩ : ∃ content, content = Content.ofParagraphs reference ps := ⟨_, rfl⟩
  rw [← hcontent] at hheader
  rw [← hps] at hfind ⊢
  rw [← hcontent]
  have hblank : ∃ c ∈ content.header, isBlank c = false := by
    rcases hheader with hheader | hheader
    · rw [hheader]
      exact Marker.exists_not_blank_of_find? hfind
    · exact (isSolid_of_mem_rest (hps ▸ hfind) (hps ▸ hheader)).exists_not_blank
  have hcr : '\r' ∉ content.header := by
    rcases hheader with hheader | hheader
    · rw [hheader]
      intro hc
      rcases Marker.not_blank_of_mem_reference hfind hc with hc | hc
      · exact absurd hc (by decide)
      · exact absurd hc (by decide)
    · rw [hps] at hheader
      exact cr_not_mem_of_mem_paragraphs ((r.properties_rest_sublist _).subset hheader)
  refine ⟨Marker.find?_ne_nil hfind, Marker.find?_eq_unwords hfind, ?_, ?_, ?_, ?_, ?_⟩
  · obtain ⟨c, hc, hnb⟩ := hblank
    exact ⟨c, mem_replaceChar_of_ne hc (ne_newline_of_not_blank hnb), hnb⟩
  · intro hc
    rcases mem_replaceChar_newline hc with hc | hc
    · exact absurd hc (by decide)
    · exact hc.2 rfl
  · intro hc
    rcases mem_replaceChar_newline hc with hc | hc
    · exact absurd hc (by decide)
    · exact hcr hc.1
  · intro hm
    cases hmarkup : (r.properties (paragraphs block)).markup with
    | none => simp [assemble, hmarkup] at hm
    | some markup => simp [assemble, hmarkup]
  · intro hp
    cases hmarkup : (r.properties (paragraphs block)).markup with
    | none => exact hmarkup
    | some markup => simp [assemble, hmarkup] at hp

def blockChecked (r : Reader) (block : Text) : Except ReadFault (Option Section) :=
  let p := r.properties (paragraphs block)
  match Marker.find? r.matcher p.rest with
  | none => .ok none
  | some reference => do
    let content ← Content.ofParagraphsChecked reference p.rest
    let s ← (r.assemble block p reference content).check.mapError .badSection
    return some s

theorem blockChecked_eq (r : Reader) (block : Text) :
    r.blockChecked block = .ok (r.block? block) := by
  have hsound : ∀ s, r.block? block = some s → s.Sound := fun _ h => block?_sound h
  rw [block?_eq] at hsound ⊢
  rw [blockChecked]
  cases hfind : Marker.find? r.matcher (r.properties (paragraphs block)).rest with
  | none => rfl
  | some reference =>
    have hne : (r.properties (paragraphs block)).rest ≠ [] := by
      intro hnil
      rw [hnil, Marker.find?_of_blank rfl] at hfind
      exact absurd hfind (by simp)
    rw [hfind] at hsound
    dsimp only
    rw [Content.ofParagraphsChecked_eq reference hne, ok_bind, (hsound _ rfl).check]
    rfl

def sheetChecked (r : Reader) (text : Text) : Except ReadFault (List Section) := do
  let found ← (Comment.blocks text).mapM r.blockChecked
  return found.filterMap id

theorem sheetChecked_eq (r : Reader) (text : Text) : r.sheetChecked text = .ok (r.sheet text) := by
  rw [sheetChecked, mapM_ok r.blockChecked_eq, ok_bind, sheet, List.filterMap_map]
  rfl

def sheetsChecked (r : Reader) (texts : List Text) : Except ReadFault (List Section) := do
  let found ← texts.mapM r.sheetChecked
  return found.flatten

theorem sheetsChecked_eq (r : Reader) (texts : List Text) :
    r.sheetsChecked texts = .ok (texts.flatMap r.sheet) := by
  rw [sheetsChecked, mapM_ok r.sheetChecked_eq, ok_bind, List.flatMap_def]
  rfl

theorem sheet_raw_sublist (r : Reader) (text : Text) :
    ((r.sheet text).map (·.raw)).Sublist (Comment.blocks text) := by
  rw [sheet]
  induction Comment.blocks text with
  | nil => exact List.Sublist.slnil
  | cons b bs ih =>
    cases hb : r.block? b with
    | none =>
      rw [List.filterMap_cons_none hb]
      exact ih.cons b
    | some s =>
      have hraw : s.raw = b := by
        rw [block?_eq, Option.map_eq_some_iff] at hb
        obtain ⟨reference, -, rfl⟩ := hb
        rfl
      rw [List.filterMap_cons_some hb, List.map_cons, hraw]
      exact ih.cons_cons b

theorem sheets_raw_sublist (r : Reader) (texts : List Text) :
    ((texts.flatMap r.sheet).map (·.raw)).Sublist (texts.flatMap Comment.blocks) := by
  induction texts with
  | nil => exact List.Sublist.slnil
  | cons t ts ih =>
    rw [List.flatMap_cons, List.flatMap_cons, List.map_append]
    exact (r.sheet_raw_sublist t).append ih

theorem sheet_sound {r : Reader} {text : Text} {s : Section} (h : s ∈ r.sheet text) : s.Sound := by
  rw [sheet, List.mem_filterMap] at h
  obtain ⟨block, -, hs⟩ := h
  exact block?_sound hs

end Reader

/-! ## Guides -/

theorem Guide.addAll_sections (g : Guide) (ss : List Section) :
    (g.addAll ss).1.sections = g.sections ++ ss := by
  induction ss generalizing g with
  | nil => simp [addAll]
  | cons s ss ih =>
    rw [addAll]
    simp [ih, add]

theorem Guide.read_sections (r : Reader) (source : Source) :
    (read r source).1.sections = source.flatMap fun s => r.sheet s.text := by
  rw [read, ofSections, addAll_sections]
  rfl

theorem Guide.readValue_text (r : Reader) (t : Text) :
    readValue r (.text t) = .ok (read r [{ text := t }]) :=
  rfl

theorem Source.ofItems_texts (index : Nat) (texts : List Text) :
    ofItems index (texts.map .text) = .ok (texts.map fun t => { text := t }) := by
  induction texts generalizing index with
  | nil => rfl
  | cons t ts ih =>
    rw [List.map_cons, ofItems, ih]
    rfl

theorem Guide.readValue_texts (r : Reader) (texts : List Text) :
    readValue r (.list (texts.map .text)) = .ok (read r (texts.map fun t => { text := t })) := by
  have hsource : Source.ofValue (.list (texts.map .text)) =
    .ok (texts.map fun t => { text := t }) := Source.ofItems_texts 0 texts
  rw [readValue, hsource]
  rfl

/-- Reading any stylesheets with any options, renderer and matcher gives a guide, without any step
failing; its sections are sound, and what they were read from are blocks of the stylesheets in
order. -/
theorem Guide.read_sound (o : Options) (renderer : Option Renderer) (matcher : Option Matcher)
    (texts : List Text) :
    ∃ g ws, Guide.readValue (Reader.ofOptions o renderer matcher) (.list (texts.map .text)) = .ok (g, ws) ∧
      (Reader.ofOptions o renderer matcher).sheetsChecked texts = .ok g.sections ∧
      (∀ s ∈ g.sections, s.Sound) ∧ (g.sections.map (·.raw)).Sublist (texts.flatMap Comment.blocks) := by
  obtain ⟨r, hr⟩ : ∃ r, r = Reader.ofOptions o renderer matcher := ⟨_, rfl⟩
  rw [← hr]
  have hsource : Source.ofValue (.list (texts.map .text)) =
    .ok (texts.map fun t => { text := t }) := Source.ofItems_texts 0 texts
  obtain ⟨g, hg⟩ : ∃ g, g = Guide.read r (texts.map fun t => { text := t }) := ⟨_, rfl⟩
  have hsections : g.1.sections = texts.flatMap r.sheet := by
    rw [hg, read_sections, List.flatMap_map]
  refine ⟨g.1, g.2, ?_, ?_, ?_, ?_⟩
  · rw [Guide.readValue, hsource, ok_bind, ← hg]
    rfl
  · rw [hsections, r.sheetsChecked_eq]
  · intro s hs
    rw [hsections, List.mem_flatMap] at hs
    obtain ⟨t, -, hs⟩ := hs
    exact Reader.sheet_sound hs
  · rw [hsections]
    exact r.sheets_raw_sublist texts

end Stylebook
