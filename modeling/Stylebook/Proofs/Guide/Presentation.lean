import Stylebook.Proofs.Entry
import Stylebook.Proofs.Guide.Canonical
import Stylebook.Proofs.Guide.Index

/-!
# Presentation

Whether descriptions are rendered, by what, and whether they keep the header, changes the texts of
descriptions and nothing else.

* `Section.SameOutline` : sections that agree in all but these texts;
* `Reader.SameLabels` : readers that look for the same labels; `Reader.properties_congr`,
  `Reader.block?_sameOutline`, `Reader.sheet_sameOutline` : they find the same, and make sections of
  one outline;
* `Guide.ownerWeights_congr` : what sections are compared by depends on references and weights only;
  `Guide.exists_sorted_pairs` : so two guides of one outline are sorted by the same moves, also where
  a weight is a NaN; `Guide.SortedTogether`, `Guide.sortedTogether` : or both cannot be sorted.
-/

namespace Stylebook

open Text

/-- The sections agree in everything but the texts of descriptions. -/
structure Section.SameOutline (a b : Section) : Prop where
  raw : a.raw = b.raw
  reference : a.reference = b.reference
  header : a.header = b.header
  weight : a.weight = b.weight
  markup : a.markup = b.markup
  deprecated : a.deprecated = b.deprecated
  experimental : a.experimental = b.experimental
  custom : a.custom = b.custom
  modifiers : a.modifiers.map (·.name) = b.modifiers.map (·.name)
  parameters : a.parameters.map (·.name) = b.parameters.map (·.name)

/-! ## Readers -/

namespace Reader

/-- The readers look for the same labels, and let the same misspelt ones pass. -/
structure SameLabels (r r' : Reader) : Prop where
  matcher : r.matcher = r'.matcher
  custom : r.custom = r'.custom

variable {r r' : Reader}

theorem customProperties_congr (h : r.matcher = r'.matcher) (labels : List Text)
    (found : OrderedMap Text Text) (ps : List Text) :
    r.customProperties labels found ps = r'.customProperties labels found ps := by
  induction labels generalizing found ps with
  | nil => rfl
  | cons label labels ih =>
    rw [customProperties, customProperties, h]
    split
    · exact ih _ _
    · exact ih _ _

/-- Readers that look for the same labels find the same properties. -/
theorem properties_congr (h : r.SameLabels r') (ps : List Text) :
    r.properties ps = r'.properties ps := by
  rw [properties, properties, h.matcher, h.custom]
  dsimp only
  rw [customProperties_congr h.matcher]

theorem map_name_entry (r : Reader) (ls : List Text) :
    (ls.map r.entry).map (·.name) = ls.map fun line => (Entry.ofLine line).name := by
  rw [List.map_map]
  exact List.map_congr_left fun line _ => Entry.name_entry r line

/-- The flags are read off the description before it is changed, and the entries are named before
they are rendered. -/
theorem assemble_sameOutline (h : r.matcher = r'.matcher) (block : Text) (p : Properties)
    (reference : Text) (content : Content) :
    (r.assemble block p reference content).SameOutline (r'.assemble block p reference content) where
  raw := rfl
  reference := rfl
  header := rfl
  weight := rfl
  markup := rfl
  deprecated := by rw [assemble, assemble, h]
  experimental := by rw [assemble, assemble, h]
  custom := rfl
  modifiers := by
    dsimp only [assemble]
    split
    · rw [map_name_entry, map_name_entry]
    · rfl
  parameters := by
    dsimp only [assemble]
    split
    · rfl
    · rw [map_name_entry, map_name_entry]

theorem block?_sameOutline (h : r.SameLabels r') (block : Text) :
    Option.Rel Section.SameOutline (r.block? block) (r'.block? block) := by
  rw [block?_eq, block?_eq, properties_congr h, h.matcher]
  cases Marker.find? r'.matcher (r'.properties (paragraphs block)).rest with
  | none => exact .none
  | some reference => exact .some (assemble_sameOutline h.matcher block _ reference _)

theorem sheet_sameOutline (h : r.SameLabels r') (text : Text) :
    List.Forall₂ Section.SameOutline (r.sheet text) (r'.sheet text) := by
  apply List.rel_filterMap (R := Eq)
  · rintro block _ rfl
    exact block?_sameOutline h block
  · exact List.forall₂_refl _

theorem sheets_sameOutline (h : r.SameLabels r') (texts : List Text) :
    List.Forall₂ Section.SameOutline (texts.flatMap r.sheet) (texts.flatMap r'.sheet) := by
  apply List.rel_flatMap (R := Eq)
  · exact List.forall₂_refl texts
  · rintro text _ rfl
    exact sheet_sameOutline h text

theorem sameLabels_ofOptions {o o' : Options} (htypos : o.typos = o'.typos)
    (hcustom : o.custom = o'.custom) (renderer renderer' : Option Renderer)
    (matcher : Option Matcher) :
    (ofOptions o renderer matcher).SameLabels (ofOptions o' renderer' matcher) where
  matcher := by rw [ofOptions, ofOptions, htypos]
  custom := hcustom

end Reader

/-! ## Sorting -/

namespace Guide

variable {sections others : List Section} {g g' : Guide}

/-- The weights that count depend on the references and weights of all sections, in order. -/
theorem ownerWeights_congr (h : sections.map (fun s => (s.reference, s.weight)) =
    others.map fun s => (s.reference, s.weight)) : ownerWeights sections = ownerWeights others := by
  have hfold : ∀ ss : List Section, ownerWeights ss = (ss.map fun s => (s.reference, s.weight)).foldl
      (fun m p => m.insert (Reference.levels p.1) p.2) {} := by
    intro ss
    rw [ownerWeights, List.foldl_map]
  rw [hfold, hfold, h]

theorem failure?_sorted_references (g : Guide) : failure? g.sorted =
    (g.sections.map (·.reference)).findSome? fun reference =>
      (Reference.levels reference).findSome? fun level => failure? (Rank.ofLevel level) := by
  rw [failure?_sorted, List.findSome?_map]
  rfl

/-- The guides are sorted by moving the sections at the same places to the same places, or neither
can be sorted, for the same reason. -/
def SortedTogether (g g' : Guide) : Prop :=
  (∃ fault, g.sorted = .error fault ∧ g'.sorted = .error fault) ∨
    ∃ pairs : List (Section × Section), pairs.Perm (g.sections.zip g'.sections) ∧
      g.sorted = .ok (pairs.map (·.1)) ∧ g'.sorted = .ok (pairs.map (·.2))

theorem map_eq_of_sameOutline {α : Type} {f : Section → α}
    (hf : ∀ {a b : Section}, a.SameOutline b → f a = f b)
    (h : List.Forall₂ Section.SameOutline sections others) : sections.map f = others.map f := by
  induction h with
  | nil => rfl
  | cons hab _ ih => rw [List.map_cons, List.map_cons, hf hab, ih]

/-- Sections with the same outlines have the same keys, so they are sorted in pairs. -/
theorem exists_sorted_pairs {out out' : List Section}
    (h : List.Forall₂ Section.SameOutline g.sections g'.sections) (hg : g.sorted = .ok out)
    (hg' : g'.sorted = .ok out') :
    ∃ pairs : List (Section × Section), pairs.Perm (g.sections.zip g'.sections) ∧
      out = pairs.map (·.1) ∧
      out' = pairs.map (·.2) := by
  obtain ⟨ps, hps, hkeys, rfl⟩ := exists_keyed_of_sorted hg
  obtain ⟨ps', hps', hkeys', rfl⟩ := exists_keyed_of_sorted hg'
  have hweights : ownerWeights g.sections = ownerWeights g'.sections :=
    ownerWeights_congr (map_eq_of_sameOutline (fun hab => by rw [hab.reference, hab.weight]) h)
  rw [← hps, ← hps', List.forall₂_map_left_iff, List.forall₂_map_right_iff] at h
  obtain ⟨hlen, houtlines⟩ := List.forall₂_iff_zip.1 h
  have hsame : ∀ q ∈ ps.zip ps', q.1.1 = q.2.1 := by
    intro q hq
    have hkeys₁ := hkeys q.1 (List.of_mem_zip hq).1
    have hkeys₂ := hkeys' q.2 (List.of_mem_zip hq).2
    rw [hweights, keys, (houtlines hq).reference] at hkeys₁
    exact Except.ok.inj (hkeys₁.symm.trans hkeys₂)
  let both := Sorting.sort (fun p q => LevelKey.areBefore p.1.1 q.1.1) (ps.zip ps')
  have hfst : Sorting.sort (fun p q => LevelKey.areBefore p.1 q.1) ((ps.zip ps').map Prod.fst) =
    both.map Prod.fst := Sorting.map_sort fun _ _ _ _ => rfl
  have hsnd : Sorting.sort (fun p q => LevelKey.areBefore p.1 q.1) ((ps.zip ps').map Prod.snd) =
    both.map Prod.snd := Sorting.map_sort fun p hp q hq => by rw [hsame p hp, hsame q hq]
  rw [List.map_fst_zip hlen.le] at hfst
  rw [List.map_snd_zip hlen.ge] at hsnd
  refine ⟨both.map (Prod.map Prod.snd Prod.snd), ?_, ?_, ?_⟩
  · rw [← hps, ← hps', List.zip_map]
    exact (Sorting.perm_sort _ _).map _
  · rw [hfst, List.map_map, List.map_map]
    rfl
  · rw [hsnd, List.map_map, List.map_map]
    rfl

/-- Guides whose sections have the same outlines are sorted alike. -/
theorem sortedTogether (h : List.Forall₂ Section.SameOutline g.sections g'.sections) :
    g.SortedTogether g' := by
  have hreferences := map_eq_of_sameOutline Section.SameOutline.reference h
  have hfailure : failure? g.sorted = failure? g'.sorted := by
    rw [failure?_sorted_references, failure?_sorted_references, hreferences]
  cases hg : g.sorted with
  | error fault =>
    cases hg' : g'.sorted with
    | error fault' =>
      rw [hg, hg'] at hfailure
      cases hfailure
      exact Or.inl ⟨fault, hg, hg'⟩
    | ok out' =>
      rw [hg, hg'] at hfailure
      exact absurd hfailure (by simp [failure?])
  | ok out =>
    obtain ⟨out', hg'⟩ : ∃ out', g'.sorted = .ok out' := by
      rw [← failure?_eq_none_iff, ← hfailure, hg]
      rfl
    obtain ⟨pairs, hperm, rfl, rfl⟩ := exists_sorted_pairs h hg hg'
    exact Or.inr ⟨pairs, hperm, hg, hg'⟩

/-- Options that differ only in whether descriptions are rendered and keep the header, and any
renderers, give sections with the same outlines, and so guides with the same references, warnings
and order. -/
theorem read_sameOutline (o o' : Options) (renderer renderer' : Option Renderer)
    (matcher : Option Matcher)
    (htypos : o.typos = o'.typos) (hcustom : o.custom = o'.custom) :
    let r := Reader.ofOptions o renderer matcher
    let r' := Reader.ofOptions o' renderer' matcher
    (∀ block, Option.Rel Section.SameOutline (r.block? block) (r'.block? block)) ∧
      ∀ texts : List Text, ∃ g ws g' ws', readValue r (.list (texts.map .text)) = .ok (g, ws) ∧
        readValue r' (.list (texts.map .text)) = .ok (g', ws') ∧
        List.Forall₂ Section.SameOutline g.sections g'.sections ∧
        g.sections.map (·.reference) = g'.sections.map (·.reference) ∧
            ws = ws' ∧ g.SortedTogether g' := by
  intro r r'
  have hlabels : r.SameLabels r' := Reader.sameLabels_ofOptions htypos hcustom renderer renderer' matcher
  refine ⟨Reader.block?_sameOutline hlabels, fun texts => ?_⟩
  obtain ⟨a, ha⟩ : ∃ a, a = read r (texts.map fun t => { text := t }) := ⟨_, rfl⟩
  obtain ⟨a', ha'⟩ : ∃ a', a' = read r' (texts.map fun t => { text := t }) := ⟨_, rfl⟩
  have houtlines : List.Forall₂ Section.SameOutline a.1.sections a'.1.sections := by
    rw [ha, ha', read_sections, read_sections, List.flatMap_map, List.flatMap_map]
    exact Reader.sheets_sameOutline hlabels texts
  have hreferences := map_eq_of_sameOutline Section.SameOutline.reference houtlines
  have hwarnings : a.2 = a'.2 := by
    rw [ha, ha'] at hreferences ⊢
    rw [(faithful_read r _).warnings, (faithful_read r' _).warnings, hreferences]
  exact ⟨a.1, a.2, a'.1, a'.2, ha ▸ readValue_texts r texts, ha' ▸ readValue_texts r' texts,
    houtlines, hreferences, hwarnings, sortedTogether houtlines⟩

/-- A block with a rendered header, a flag in the first paragraph and an entry, read as it stands
and with its descriptions in Markdown. -/
theorem read_sameOutline_rendered :
    let o : Options := { custom := ["Colour".toList] }
    let o' : Options := { markdown := false, header := false, custom := ["Colour".toList] }
    let r := Reader.ofOptions o none none
    let r' := Reader.ofOptions o' none none
    let block := "Deprecated: *buttons*\n\nSee *below*.\n\nColour: red\n\n.big - *large*\n\nStyleguide 1".toList
    let s : Section := {
      reference := ['1']
      raw := block
      header := "Deprecated: *buttons*".toList
      description := "<p>See <em>below</em>.</p>".toList
      parameters := [⟨".big".toList, "<em>large</em>".toList⟩]
      deprecated := true
      custom := ⟨[("colour".toList, "red".toList)]⟩ }
    let s' : Section := { s with
      description := "Deprecated: *buttons*\n\nSee *below*.".toList
      parameters := [⟨".big".toList, "*large*".toList⟩] }
    o.typos = o'.typos ∧ o.custom = o'.custom ∧ r.block? block = some s ∧
      r'.block? block = some s' ∧ s.SameOutline s' ∧ s ≠ s' := by
  intro o o' r r' block s s'
  have hs : r.block? block = some s := by decide +kernel
  have hs' : r'.block? block = some s' := by decide +kernel
  have houtline := (read_sameOutline o o' none none none rfl rfl).1 block
  rw [hs, hs'] at houtline
  cases houtline with
  | some houtline => exact ⟨rfl, rfl, hs, hs', houtline, by decide⟩

end Guide

end Stylebook
