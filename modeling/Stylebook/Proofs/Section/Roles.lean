import Stylebook.Proofs.Entry
import Stylebook.Proofs.Section.Checked
import Stylebook.Proofs.Section.Stanza

/-!
# The roles of paragraphs

* `Reader.properties_rest` : the paragraphs that a reader looks for roles in;
* `listing` : the paragraph that lists entries, if there is one;
* `Content.exists_ofParagraphs` : the paragraphs left are prose, then the listing, then the marker,
  and each goes where its role says;
* `Reader.shownDescription_prose`, `occurs_prose_iff` : joining the prose and cutting it again loses
  no paragraph;
* `Section.Accounts` : what a section has made of the paragraphs of its block.
-/

namespace Stylebook

open Text

/-! ## Properties -/

theorem Reader.customProperties_rest (r : Reader) (labels : List Text)
    (found : OrderedMap Text Text) (ps : List Text) :
    (r.customProperties labels found ps).2 = Label.leftover r.matcher labels ps := by
  induction labels generalizing found ps with
  | nil => rfl
  | cons label labels ih =>
    rw [customProperties, Label.leftover, List.foldl_cons]
    split
    · rename_i h
      rw [ih, h]
      rfl
    · rename_i h
      rw [ih, h]
      rfl

theorem Reader.properties_rest (r : Reader) (ps : List Text) :
    (r.properties ps).rest = Label.leftover r.matcher ("Markup".toList :: "Weight".toList :: r.custom) ps := by
  rw [properties]
  dsimp only
  rw [customProperties_rest, Label.leftover, Label.leftover, List.foldl_cons, List.foldl_cons]

/-! ## Listings -/

/-- The paragraph that lists entries: the last but one of at least three, if its first line begins
an entry. -/
def listing (ps : List Text) : List Text :=
  let candidate := ps.getD (ps.length - 2) []
  if 3 ≤ ps.length ∧ Entry.starts ((lines candidate).head (lines_ne_nil candidate)) = true then [candidate] else []

def Entry.ofParagraph (p : Text) : List Entry := ((collect? p).getD []).map ofLine

theorem listing_of_length_lt {ps : List Text} (h : ps.length < 3) : listing ps = [] := by
  unfold listing
  dsimp only
  rw [if_neg fun hand => absurd hand.1 (Nat.not_le.2 h)]

/-- Of three paragraphs or more the last but one is the candidate. -/
theorem listing_concat (header : Text) (mid : List Text) (candidate marker : Text) :
    listing (header :: mid ++ [candidate, marker]) =
      if (Entry.collect? candidate).isSome then [candidate] else [] := by
  have hlen : (header :: mid ++ [candidate, marker]).length = mid.length + 3 := by simp
  have hcandidate : (header :: mid ++ [candidate, marker]).getD (mid.length + 3 - 2) [] =
    candidate := by simp
  unfold listing
  dsimp only
  rw [hlen, hcandidate, Entry.isSome_collect?]
  simp

/-- The paragraphs of a block are prose, then the listing, then the marker. The prose gives header
and description, the listing the entries. -/
theorem Content.exists_ofParagraphs (reference : Text) {ps : List Text} (hne : ps ≠ []) :
    ∃ prose marker, ps = prose ++ listing ps ++ [marker] ∧ (prose = [] ↔ ps.length = 1) ∧
      ofParagraphs reference ps =
        ⟨prose.headD reference, unparagraphs prose, (listing ps).flatMap fun p => (Entry.collect? p).getD []⟩ := by
  obtain ⟨front, marker, rfl⟩ : ∃ front marker, ps = front ++ [marker] :=
    ⟨_, _, (List.dropLast_append_getLast hne).symm⟩
  cases front with
  | nil => exact ⟨[], marker, rfl, by simp, rfl⟩
  | cons header others =>
    rcases List.eq_nil_or_concat others with rfl | ⟨mid, candidate, rfl⟩
    · exact ⟨[header], marker, rfl, by simp, by simp [listing_of_length_lt, ofParagraphs]⟩
    · have hps : header :: mid.concat candidate ++ [marker] =
        header :: mid ++ [candidate, marker] := by simp
      rw [hps, listing_concat, ofParagraphs_concat]
      cases hcollect : Entry.collect? candidate with
      | some ls => exact ⟨header :: mid, marker, by simp, by simp, by simp [hcollect]⟩
      | none => exact ⟨header :: mid ++ [candidate], marker, by simp, by simp, by simp⟩

/-! ## Descriptions -/

/-- The description without rendering is the prose, or the prose after its first paragraph. -/
theorem Reader.shownDescription_prose {r : Reader} (hr : r.renderer = none) {prose : List Text}
    (h : ∀ p ∈ prose, IsSolid p) :
    r.shownDescription (unparagraphs prose) =
      unparagraphs (if r.dropsHeader then prose.tail else prose) := by
  have hafter : afterFirstParagraph (unparagraphs prose) = unparagraphs prose.tail := by
    cases prose with
    | nil => rfl
    | cons p ps =>
      exact afterFirstParagraph_unparagraphs (h p List.mem_cons_self) fun q hq =>
        h q (List.mem_cons_of_mem _ hq)
  rw [shownDescription, hr, hafter]
  cases r.dropsHeader <;> rfl

theorem occurs_prose_iff (m : Option Matcher) (label : Text) (prose : List Text) :
    Label.occurs m label (unparagraphs prose) = true ↔
      ∃ p ∈ prose, ∃ l ∈ lines p, (Label.after? m label l).isSome = true := by
  rw [occurs_unparagraphs, List.any_eq_true]
  simp only [Label.occurs, List.any_eq_true]

/-! ## Entries and markers -/

theorem Reader.map_entry_listing {r : Reader} (hr : r.renderer = none) (ps : List Text) :
    (ps.flatMap fun p => (Entry.collect? p).getD []).map r.entry =
      ps.flatMap Entry.ofParagraph := by
  rw [List.map_flatMap, Entry.entry_eq_ofLine hr]
  rfl

/-- Only the last paragraph can declare a reference. -/
theorem Marker.find?_concat (m : Option Matcher) (ps : List Text) (marker : Text) :
    find? m (ps ++ [marker]) = find? m [marker] := by
  rw [find?, find?, List.getLastD_concat, List.getLastD_cons, List.getLastD_nil]

theorem Marker.newline_not_mem_reference {m : Option Matcher} {ps : List Text} {reference : Text}
    (h : find? m ps = some reference) : '\n' ∉ reference := by
  intro hc
  rcases not_blank_of_mem_reference h hc with hc | hc
  · exact absurd hc (by decide)
  · exact absurd hc (by decide)

/-! ## Sections -/

/-- A section is assembled from the paragraphs of its block that are no properties, each in its
role. None of them has blank lines. -/
theorem Reader.exists_assemble {r : Reader} {block : Text} {s : Section}
    (h : r.block? block = some s) :
    let ps := Label.leftover r.matcher ("Markup".toList :: "Weight".toList :: r.custom) (paragraphs block)
    ∃ prose marker, ps = prose ++ listing ps ++ [marker] ∧ (prose = [] ↔ ps.length = 1) ∧
      (∀ p ∈ prose, IsSolid p) ∧ Marker.find? r.matcher [marker] = some s.reference ∧
      s = r.assemble block (r.properties (paragraphs block)) s.reference
        ⟨prose.headD s.reference, unparagraphs prose, (listing ps).flatMap fun p => (Entry.collect? p).getD []⟩ := by
  intro ps
  have hrest : (r.properties (paragraphs block)).rest = ps := r.properties_rest _
  rw [block?_eq, Option.map_eq_some_iff] at h
  obtain ⟨reference, hfind, rfl⟩ := h
  have hsolid : ∀ p ∈ ps, IsSolid p := fun p hp => isSolid_of_mem_rest hfind (hrest ▸ hp)
  rw [hrest] at hfind ⊢
  have hne : ps ≠ [] := by
    intro hnil
    rw [hnil, Marker.find?_of_blank rfl] at hfind
    exact absurd hfind (by simp)
  obtain ⟨prose, marker, hsplit, hempty, hcontent⟩ := Content.exists_ofParagraphs reference hne
  refine ⟨prose, marker, hsplit, hempty, fun p hp => hsolid p ?_, ?_, ?_⟩
  · rw [hsplit]
    simp [hp]
  · rw [hsplit, Marker.find?_concat] at hfind
    exact hfind
  · rw [hcontent]
    rfl

/-- What a section read without rendering has made of the paragraphs `ps` of its block that are no
properties: the last is the marker, the one before it may be the listing, and all others are the
prose. -/
structure Section.Accounts (o : Options) (m : Option Matcher) (ps : List Text) (s : Section) (prose : List Text)
    (marker : Text) : Prop where
  split : ps = prose ++ listing ps ++ [marker]
  reference : Marker.find? m [marker] = some s.reference
  entries : (if s.markup.isSome then s.modifiers else s.parameters) =
    (listing ps).flatMap Entry.ofParagraph
  one_kind : (if s.markup.isSome then s.parameters else s.modifiers) = []
  prose_eq_nil : prose = [] ↔ ps.length = 1
  bare : prose = [] → s.header = s.reference ∧ s.description = []
  header : ∀ first others, prose = first :: others → s.header = first.map fun c =>
    if c = '\n' then ' ' else c
  description : ∀ first others, prose = first :: others →
    s.description = unparagraphs (if o.header then others else first :: others)
  deprecated : s.deprecated = true ↔ ∃ p ∈ prose, ∃ l ∈ lines p, (Label.after? m "Deprecated".toList l).isSome = true
  experimental : s.experimental = true ↔
    ∃ p ∈ prose, ∃ l ∈ lines p, (Label.after? m "Experimental".toList l).isSome = true

/-- A section read without rendering accounts for every paragraph of its block that is no
property. -/
theorem Reader.block?_accounts (o : Options) (renderer : Option Renderer) (matcher : Option Matcher)
    (hmarkdown : o.markdown = false) (block : Text) (s : Section)
    (h : (Reader.ofOptions o renderer matcher).block? block = some s) :
    let m := (Reader.ofOptions o renderer matcher).matcher
    let ps := Label.leftover m ("Markup".toList :: "Weight".toList :: o.custom) (paragraphs block)
    ∃ prose marker, s.Accounts o m ps prose marker := by
  intro m ps
  have hrenderer : (Reader.ofOptions o renderer matcher).renderer = none := by
    simp [ofOptions, hmarkdown]
  obtain ⟨prose, marker, hsplit, hempty, hsolid, hfind, hs⟩ := exists_assemble h
  have hdescription := shownDescription_prose hrenderer hsolid
  refine ⟨prose, marker, ?_⟩
  constructor
  · exact hsplit
  · exact hfind
  · rw [hs, ← map_entry_listing hrenderer]
    dsimp only [assemble]
    split <;> rfl
  · rw [hs]
    dsimp only [assemble]
    split <;> rfl
  · exact hempty
  · rintro rfl
    rw [hs]
    refine ⟨replaceChar_of_no_newline (Marker.newline_not_mem_reference hfind), hdescription.trans ?_⟩
    split <;> rfl
  · rintro first others rfl
    rw [hs]
    exact replaceChar_newline first
  · rintro first others rfl
    rw [hs]
    exact hdescription
  · rw [hs]
    exact occurs_prose_iff _ _ prose
  · rw [hs]
    exact occurs_prose_iff _ _ prose

/-- A block with properties between its other paragraphs, a header of two lines, a flag inside the
prose and an entry that goes on in a second line. -/
theorem Reader.block?_accounts_full :
    let o : Options := { markdown := false, custom := ["Colour".toList] }
    let first := "Buttons\nof all kinds".toList
    let second := "Text\n experimental: x - y".toList
    let entries := ".big - large\n  and tall".toList
    let marker := "Style guide: 1.2".toList
    let block := unparagraphs [first, "Markup: <a>".toList, second, entries,
      "Colour:\nred".toList, marker]
    let ps := [first, second, entries, marker]
    let s : Section := {
      reference := "1.2".toList
      raw := block
      header := "Buttons of all kinds".toList
      description := second
      markup := some "<a>".toList
      modifiers := [⟨".big".toList, "large and tall".toList⟩]
      experimental := true
      custom := ⟨[("colour".toList, "red".toList)]⟩ }
    o.markdown = false ∧ (Reader.ofOptions o none none).block? block = some s ∧
      Label.leftover none ("Markup".toList :: "Weight".toList :: o.custom) (paragraphs block) = ps ∧
      listing ps = [entries] ∧ ∃ prose last, s.Accounts o none ps prose last := by
  intro o first second entries marker block ps s
  have hblock : (Reader.ofOptions o none none).block? block = some s := by decide +kernel
  have hleft : Label.leftover none ("Markup".toList :: "Weight".toList :: o.custom)
      (paragraphs block) = ps := by
    decide +kernel
  have haccounts := Reader.block?_accounts o none none rfl block s hblock
  refine ⟨rfl, hblock, hleft, by decide, ?_⟩
  rw [← hleft]
  exact haccounts

end Stylebook
