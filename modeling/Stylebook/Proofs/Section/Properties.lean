import Mathlib.Data.List.Perm.Basic
import Stylebook.Proofs.OrderedMap
import Stylebook.Proofs.Label.Extraction
import Stylebook.Proofs.Section.Roles

/-!
# Properties in any place and any order

All properties are taken out of a block before a role is looked for, one label after the other. Each
extraction sees what the ones before it have left.

* `Label.values`, `Label.leftover` : what several extractions give, and what they leave;
  `Reader.properties_eq` : the properties of a block in these terms;
* `Label.Inserted` : one more paragraph somewhere. `Inserted.extract` : an extraction with a label
  that it has not finds the same; `extract_inserted` : with its own label, it is gone, wherever it
  was;
* `Label.Exclusive` : no paragraph has two of the labels. `extract_extract` : then two extractions
  commute; `values_of_exclusive`, `leftover_perm` : so each finds what it would find alone, and the
  order is of no account;
* `customMap` : the custom properties that labels with different keys find, each on its own.
-/

namespace Stylebook

open Text

namespace Label

variable {m : Option Matcher} {label : Text}

def values (m : Option Matcher) : (labels ps : List Text) → List (Option Text)
  | [], _ => []
  | label :: labels, ps => (extract m label ps).1 :: values m labels (extract m label ps).2

/-! ## One more paragraph -/

/-- The list `qs` is `ps` with one more member. -/
def Inserted (p : Text) (ps qs : List Text) : Prop := ∃ xs ys, ps = xs ++ ys ∧ qs = xs ++ p :: ys

theorem inserted_take_drop (p : Text) (ps : List Text) (i : Nat) :
    Inserted p ps (ps.take i ++ p :: ps.drop i) :=
  ⟨ps.take i, ps.drop i, (List.take_append_drop i ps).symm, rfl⟩

theorem Inserted.cons {p : Text} {ps qs : List Text} (h : Inserted p ps qs) (q : Text) :
    Inserted p (q :: ps) (q :: qs) := by
  obtain ⟨xs, ys, rfl, rfl⟩ := h
  exact ⟨q :: xs, ys, rfl, rfl⟩

/-- A paragraph without the label does not matter to an extraction, and stays. -/
theorem Inserted.extract {p : Text} (hp : occurs m label p = false) {ps qs : List Text}
    (h : Inserted p ps qs) :
    (extract m label qs).1 = (extract m label ps).1 ∧
      Inserted p (extract m label ps).2 (extract m label qs).2 := by
  obtain ⟨xs, ys, rfl, rfl⟩ := h
  induction xs with
  | nil =>
    rw [List.nil_append, List.nil_append, extract_cons_of_not_occurs hp]
    exact ⟨rfl, [], _, rfl, rfl⟩
  | cons x xs ih =>
    rw [List.cons_append, List.cons_append]
    cases hx : remove? m label x with
    | some value =>
      rw [extract_cons_of_remove? hx, extract_cons_of_remove? hx]
      exact ⟨rfl, xs, ys, rfl, rfl⟩
    | none =>
      rw [extract_cons_of_not_occurs (remove?_eq_none_iff.1 hx), extract_cons_of_not_occurs (remove?_eq_none_iff.1 hx)]
      exact ⟨ih.1, ih.2.cons x⟩

/-- The only paragraph with the label is taken from any place. -/
theorem extract_inserted {p value : Text} (hp : remove? m label p = some value) {ps qs : List Text}
    (hps : ∀ q ∈ ps, occurs m label q = false) (h : Inserted p ps qs) :
    extract m label qs = (some value, ps) := by
  obtain ⟨xs, ys, rfl, rfl⟩ := h
  exact extract_append hp (fun q hq => hps q (List.mem_append_left _ hq)) ys

/-- Extractions find and leave the same, wherever the only paragraph with one of the labels
stands. -/
theorem extractions_inserted {p : Text} (hp : occurs m label p = true) {labels : List Text}
    (hlabel : label ∈ labels) (hothers : ∀ l ∈ labels, l ≠ label → occurs m l p = false)
    {ps qs qs' : List Text} (hps : ∀ q ∈ ps, occurs m label q = false) (h : Inserted p ps qs)
    (h' : Inserted p ps qs') :
    values m labels qs = values m labels qs' ∧ leftover m labels qs = leftover m labels qs' := by
  induction labels generalizing ps qs qs' with
  | nil => exact absurd hlabel List.not_mem_nil
  | cons l labels ih =>
    rw [values, values, leftover_cons, leftover_cons]
    by_cases hl : l = label
    · subst hl
      obtain ⟨value, hvalue⟩ := exists_remove?_of_occurs hp
      rw [extract_inserted hvalue hps h, extract_inserted hvalue hps h']
      exact ⟨rfl, rfl⟩
    · have hlp := hothers l List.mem_cons_self hl
      obtain ⟨hfirst, hrest⟩ := h.extract hlp
      obtain ⟨hfirst', hrest'⟩ := h'.extract hlp
      have hmem : label ∈ labels := (List.mem_cons.1 hlabel).resolve_left (Ne.symm hl)
      have hleft : ∀ q ∈ (Label.extract m l ps).2, occurs m label q = false :=
        fun q hq => hps q ((extract_sublist m l ps).subset hq)
      obtain ⟨hvalues, hleftover⟩ := ih hmem (fun k hk => hothers k (List.mem_cons_of_mem _ hk)) hleft hrest hrest'
      exact ⟨by rw [hfirst, hfirst', hvalues], hleftover⟩

/-! ## Labels in another order -/

/-- No paragraph has two of the labels. -/
def Exclusive (m : Option Matcher) (labels ps : List Text) : Prop :=
  ∀ p ∈ ps, ∀ a ∈ labels, ∀ b ∈ labels, occurs m a p = true → occurs m b p = true → a = b

theorem Exclusive.of_subset {labels labels' ps ps' : List Text} (h : Exclusive m labels ps)
    (hlabels : labels' ⊆ labels) (hps : ps' ⊆ ps) : Exclusive m labels' ps' :=
  fun p hp a ha b hb => h p (hps hp) a (hlabels ha) b (hlabels hb)

theorem Exclusive.tail {l : Text} {labels ps : List Text} (h : Exclusive m (l :: labels) ps) :
    Exclusive m labels (extract m l ps).2 :=
  h.of_subset (List.subset_cons_self l labels) (extract_sublist m l ps).subset

theorem Exclusive.leftover {labels ps : List Text} (h : Exclusive m labels ps) (taken : List Text) :
    Exclusive m labels (leftover m taken ps) :=
  h.of_subset (List.Subset.refl labels) (leftover_sublist m taken ps).subset

/-- Extractions with two labels that no paragraph has both of find the same in either order, and
leave the same. -/
theorem extract_extract {a b : Text} {ps : List Text}
    (h : ∀ p ∈ ps, occurs m a p = true → occurs m b p = false) :
    (extract m b (extract m a ps).2).1 = (extract m b ps).1 ∧
      (extract m b (extract m a ps).2).2 = (extract m a (extract m b ps).2).2 := by
  induction ps with
  | nil => exact ⟨rfl, rfl⟩
  | cons p ps ih =>
    obtain ⟨hp, hps⟩ := List.forall_mem_cons.1 h
    by_cases ha : occurs m a p = true
    · obtain ⟨value, hvalue⟩ := exists_remove?_of_occurs ha
      rw [extract_cons_of_remove? hvalue, extract_cons_of_not_occurs (hp ha),
        extract_cons_of_remove? hvalue]
      exact ⟨rfl, rfl⟩
    · rw [extract_cons_of_not_occurs (by simpa using ha)]
      by_cases hb : occurs m b p = true
      · obtain ⟨value, hvalue⟩ := exists_remove?_of_occurs hb
        rw [extract_cons_of_remove? hvalue, extract_cons_of_remove? hvalue]
        exact ⟨rfl, rfl⟩
      · rw [extract_cons_of_not_occurs (by simpa using hb), extract_cons_of_not_occurs (by simpa using hb),
          extract_cons_of_not_occurs (by simpa using ha), (ih hps).1, (ih hps).2]
        exact ⟨rfl, rfl⟩

theorem Exclusive.extract_extract {labels ps : List Text} (h : Exclusive m labels ps) {a b : Text}
    (ha : a ∈ labels) (hb : b ∈ labels) (hne : a ≠ b) :
    (extract m b (extract m a ps).2).1 = (extract m b ps).1 ∧
      (extract m b (extract m a ps).2).2 = (extract m a (extract m b ps).2).2 := by
  apply Label.extract_extract
  intro p hp hap
  rw [Bool.eq_false_iff]
  intro hbp
  exact hne (h p hp a ha b hb hap hbp)

/-- Each extraction finds what it would find alone. -/
theorem values_of_exclusive {labels ps : List Text} (h : Exclusive m labels ps)
    (hnodup : labels.Nodup) : values m labels ps = labels.map fun l => (extract m l ps).1 := by
  induction labels generalizing ps with
  | nil => rfl
  | cons a labels ih =>
    rw [List.nodup_cons] at hnodup
    rw [values, ih h.tail hnodup.2, List.map_cons]
    congr 1
    apply List.map_congr_left
    intro b hb
    have hne : a ≠ b := fun hab => hnodup.1 (hab ▸ hb)
    exact (h.extract_extract List.mem_cons_self (List.mem_cons_of_mem _ hb) hne).1

theorem leftover_perm {c c' ps : List Text} (hperm : c.Perm c') (h : Exclusive m c ps) :
    leftover m c ps = leftover m c' ps := by
  induction hperm generalizing ps with
  | nil => rfl
  | cons l _ ih => rw [leftover_cons, leftover_cons, ih h.tail]
  | swap a b labels =>
    rw [leftover_cons, leftover_cons, leftover_cons, leftover_cons]
    by_cases hab : b = a
    · rw [hab]
    · rw [(h.extract_extract List.mem_cons_self (List.mem_cons_of_mem _ List.mem_cons_self) hab).2]
  | trans h₁ _ ih₁ ih₂ => rw [ih₁ h, ih₂ (h.of_subset h₁.symm.subset (List.Subset.refl ps))]

end Label

/-! ## The properties of a block -/

def customPairs (labels : List Text) (values : List (Option Text)) : List (Text × Text) :=
  (labels.zip values).filterMap fun p => p.2.map fun value => (lower p.1, value)

namespace Reader

theorem customProperties_fst (r : Reader) (labels : List Text) (found : OrderedMap Text Text)
    (ps : List Text) :
    (r.customProperties labels found ps).1 =
      (customPairs labels (Label.values r.matcher labels ps)).foldl (fun m p => m.insert p.1 p.2) found := by
  induction labels generalizing found ps with
  | nil => rfl
  | cons label labels ih =>
    rw [customProperties, Label.values]
    split
    · rename_i value rest h
      rw [ih, h]
      rfl
    · rename_i rest h
      rw [ih, h]
      rfl

theorem properties_eq (r : Reader) (ps : List Text) : r.properties ps =
    { markup := (Label.extract r.matcher "Markup".toList ps).1
      weight := ((Label.extract r.matcher "Weight".toList
        (Label.leftover r.matcher ["Markup".toList] ps)).1.map Weight.read).getD 0
      custom := OrderedMap.ofList (customPairs r.custom (Label.values r.matcher r.custom
        (Label.leftover r.matcher ["Markup".toList, "Weight".toList] ps)))
      rest := Label.leftover r.matcher ("Markup".toList :: "Weight".toList :: r.custom) ps } := by
  rw [← properties_rest]
  unfold properties
  dsimp only
  rw [customProperties_fst]
  rfl

/-- The properties of a block depend on what the extractions find and leave, and on nothing else. -/
theorem properties_eq_of_values {r : Reader} {ps qs : List Text}
    (hvalues : Label.values r.matcher ("Markup".toList :: "Weight".toList :: r.custom) ps =
      Label.values r.matcher ("Markup".toList :: "Weight".toList :: r.custom) qs)
    (hleft : Label.leftover r.matcher ("Markup".toList :: "Weight".toList :: r.custom) ps =
      Label.leftover r.matcher ("Markup".toList :: "Weight".toList :: r.custom) qs) :
    r.properties ps = r.properties qs := by
  simp only [Label.values, List.cons.injEq] at hvalues
  obtain ⟨hmarkup, hweight, hcustom⟩ := hvalues
  rw [properties_eq, properties_eq, hleft, hmarkup]
  simp only [Label.leftover_cons, Label.leftover_nil]
  rw [hweight, hcustom]

theorem assemble_congr (r : Reader) (block : Text) {p p' : Properties} (hmarkup : p.markup = p'.markup)
    (hweight : p.weight = p'.weight) (reference : Text) (content : Content) :
    { r.assemble block p reference content with custom := (r.assemble block p' reference content).custom } =
      r.assemble block p' reference content := by
  rw [assemble, assemble, hmarkup, hweight]

/-- Once the properties are taken out, the custom labels are not looked at again. -/
theorem assemble_custom (r : Reader) (labels : List Text) :
    ({ r with custom := labels } : Reader).assemble = r.assemble :=
  rfl

end Reader

/-! ## Custom properties -/

def customMap (value : Text → Option Text) (labels : List Text) : OrderedMap Text Text :=
  .ofList (labels.filterMap fun label => (value label).map fun v => (lower label, v))

theorem customPairs_map (value : Text → Option Text) (labels : List Text) :
    customPairs labels (labels.map value) =
      labels.filterMap fun label => (value label).map fun v => (lower label, v) := by
  rw [customPairs, ← List.map_prod_left_eq_zip, List.filterMap_map]
  rfl

theorem map_fst_customPairs_sublist (value : Text → Option Text) (labels : List Text) :
    ((labels.filterMap fun label => (value label).map fun v => (lower label, v)).map (·.1)).Sublist
      (labels.map lower) := by
  induction labels with
  | nil => exact List.Sublist.slnil
  | cons label labels ih =>
    cases h : value label with
    | none =>
      rw [List.filterMap_cons_none (by rw [h]; rfl)]
      exact ih.cons _
    | some v =>
      rw [List.filterMap_cons_some (by rw [h]; rfl)]
      exact ih.cons_cons _

section CustomMap

variable {value : Text → Option Text} {labels labels' : List Text}

theorem entries_customMap (h : (labels.map lower).Nodup) : (customMap value labels).entries =
    labels.filterMap fun label => (value label).map fun v => (lower label, v) :=
  OrderedMap.entries_ofList_of_nodup ((map_fst_customPairs_sublist value labels).nodup h)

theorem nodup_keys_customMap (h : (labels.map lower).Nodup) :
    (customMap value labels).keys.Nodup := by
  rw [OrderedMap.keys, entries_customMap h]
  exact (map_fst_customPairs_sublist value labels).nodup h

theorem perm_entries_customMap (h : (labels.map lower).Nodup) (hperm : labels.Perm labels') :
    (customMap value labels).entries.Perm (customMap value labels').entries := by
  rw [entries_customMap h, entries_customMap ((hperm.map lower).nodup_iff.1 h)]
  exact hperm.filterMap _

/-- Each label finds its own value, since no other has its key. -/
theorem get?_customMap (h : (labels.map lower).Nodup) {label : Text} (hlabel : label ∈ labels) :
    (customMap value labels).get? (lower label) = value label := by
  ext v
  rw [OrderedMap.get?_eq_some_iff_mem (nodup_keys_customMap h), entries_customMap h, List.mem_filterMap]
  constructor
  · rintro ⟨other, hother, hv⟩
    obtain ⟨w, hw, hpair⟩ := Option.map_eq_some_iff.1 hv
    obtain ⟨hkey, rfl⟩ := Prod.mk.inj hpair
    rwa [← List.inj_on_of_nodup_map h hother hlabel hkey]
  · intro hv
    exact ⟨label, hlabel, by rw [hv]; rfl⟩

end CustomMap

theorem Reader.rest_eq_of_perm (r : Reader) {labels labels' : List Text}
    (hperm : labels.Perm labels') {ps : List Text} (h : Label.Exclusive r.matcher labels ps) :
    (({ r with custom := labels } : Reader).properties ps).rest =
      (({ r with custom := labels' } : Reader).properties ps).rest := by
  have hsame := Label.leftover_perm hperm (h.leftover ["Markup".toList, "Weight".toList])
  simp only [Label.leftover_cons, Label.leftover_nil] at hsame
  simp only [properties_rest, Label.leftover_cons]
  exact hsame

theorem Reader.custom_eq_customMap (r : Reader) {labels : List Text} (hnodup : labels.Nodup)
    {ps : List Text} (h : Label.Exclusive r.matcher labels ps) :
    (({ r with custom := labels } : Reader).properties ps).custom =
      customMap (fun label => (Label.extract r.matcher label
        (Label.leftover r.matcher ["Markup".toList, "Weight".toList] ps)).1) labels := by
  rw [properties_eq]
  dsimp only
  rw [Label.values_of_exclusive (h.leftover _) hnodup, customPairs_map]
  rfl

/-! ## Sections -/

/-- The sections agree in all fields but the block that they were read from. -/
def Section.SameContent (a b : Section) : Prop := { a with raw := b.raw } = b

theorem Reader.assemble_sameContent (r : Reader) (block block' : Text) (p : Properties)
    (reference : Text) (content : Content) :
    (r.assemble block p reference content).SameContent (r.assemble block' p reference content) :=
  rfl

/-- A property that no other paragraph has the label of may stand anywhere in a block. -/
theorem Reader.block?_property_anywhere (r : Reader) (label property : Text) (others : List Text)
    (hparagraph : IsParagraph property) (hparagraphs : ∀ p ∈ others, IsParagraph p)
    (hlabel : label ∈ "Markup".toList :: "Weight".toList :: r.custom)
    (hoccurs : Label.occurs r.matcher label property = true)
    (hone : ∀ l ∈ "Markup".toList :: "Weight".toList :: r.custom, l ≠ label →
      Label.occurs r.matcher l property = false)
    (hothers : ∀ p ∈ others, Label.occurs r.matcher label p = false) (i j : Nat) :
    Option.Rel Section.SameContent (r.block? (unparagraphs (others.take i ++ property :: others.drop i)))
      (r.block? (unparagraphs (others.take j ++ property :: others.drop j))) := by
  have hsplit : ∀ k, paragraphs (unparagraphs (others.take k ++ property :: others.drop k)) =
      others.take k ++ property :: others.drop k := by
    intro k
    apply paragraphs_unparagraphs (by simp)
    intro p hp
    rcases List.mem_append.1 hp with hp | hp
    · exact hparagraphs p (List.mem_of_mem_take hp)
    · rcases List.mem_cons.1 hp with rfl | hp
      · exact hparagraph
      · exact hparagraphs p (List.mem_of_mem_drop hp)
  obtain ⟨hvalues, hleft⟩ := Label.extractions_inserted hoccurs hlabel hone hothers
    (Label.inserted_take_drop property others i) (Label.inserted_take_drop property others j)
  have hproperties := properties_eq_of_values hvalues hleft
  rw [← hsplit i, ← hsplit j] at hproperties
  rw [block?_eq, block?_eq, hproperties]
  generalize r.properties _ = p
  cases Marker.find? r.matcher p.rest with
  | none => exact .none
  | some reference => exact .some (assemble_sameContent r _ _ p reference _)

/-- A misspelt property before the header and after the marker. -/
theorem Reader.block?_property_anywhere_misspelt :
    let r := Reader.ofOptions { markdown := false, typos := true, custom := ["Colour".toList] } none none
    let property := "Color:\ndark red".toList
    let others := ["Buttons".toList, "Markup: <a>".toList, "Some text".toList,
      ".big - large".toList, "Styleguide 1".toList]
    let s : Section := {
      reference := ['1']
      raw := unparagraphs (property :: others)
      header := "Buttons".toList
      description := "Some text".toList
      markup := some "<a>".toList
      modifiers := [⟨".big".toList, "large".toList⟩]
      custom := ⟨[("colour".toList, "dark red".toList)]⟩ }
    IsParagraph property ∧ (∀ p ∈ others, IsParagraph p) ∧
      Label.occurs r.matcher "Colour".toList property = true ∧
      (∀ p ∈ others, Label.occurs r.matcher "Colour".toList p = false) ∧
      r.block? (unparagraphs (property :: others)) = some s ∧
      ∃ s', r.block? (unparagraphs (others ++ [property])) = some s' ∧ s.SameContent s' := by
  intro r property others s
  have hproperty : IsParagraph property := by decide
  have hothers : ∀ p ∈ others, IsParagraph p := by decide
  have hoccurs : Label.occurs r.matcher "Colour".toList property = true := by decide +kernel
  have hnone : ∀ p ∈ others, Label.occurs r.matcher "Colour".toList p = false := by decide +kernel
  have hone : ∀ l ∈ "Markup".toList :: "Weight".toList :: r.custom, l ≠ "Colour".toList →
      Label.occurs r.matcher l property = false := by decide +kernel
  have hs : r.block? (unparagraphs (property :: others)) = some s := by decide +kernel
  have hrel := r.block?_property_anywhere "Colour".toList property others hproperty hothers
    (by decide) hoccurs hone hnone 0 5
  change Option.Rel _ (r.block? (unparagraphs (property :: others))) (r.block? (unparagraphs (others ++ [property]))) at hrel
  rw [hs] at hrel
  refine ⟨hproperty, hothers, hoccurs, hnone, hs, ?_⟩
  generalize r.block? (unparagraphs (others ++ [property])) = found at hrel ⊢
  cases hrel with
  | some hsame => exact ⟨_, rfl, hsame⟩

/-- Sections with the same custom properties, in whatever order, and the same other fields. -/
theorem Section.same_of_perm {s s' : Section} (hfields : { s with custom := s'.custom } = s')
    (hkeys : s.custom.keys.Nodup) (hperm : s.custom.entries.Perm s'.custom.entries) :
        s.same s' = true := by
  rw [Section.same, Bool.and_eq_true, beq_iff_eq, ← hfields]
  exact ⟨rfl, OrderedMap.sameAs_of_perm hkeys hperm⟩

/-- The order of the custom labels is of no account, if they have different keys and no paragraph
has two of them: the sections are the same, and each label has the value that it would have
alone. -/
theorem Reader.block?_custom_perm (r : Reader) (labels labels' : List Text)
    (hperm : labels.Perm labels') (hkeys : (labels.map lower).Nodup) (block : Text)
    (hone : ∀ p ∈ paragraphs block, ∀ a ∈ labels, ∀ b ∈ labels, Label.occurs r.matcher a p = true →
      Label.occurs r.matcher b p = true → a = b) :
    Option.Rel (fun s s' => s.same s' = true ∧ ∀ key, s.custom.get? key = s'.custom.get? key)
        (({ r with custom := labels } : Reader).block? block) (({ r with custom := labels' } : Reader).block? block) ∧
      ∀ s, ({ r with custom := labels } : Reader).block? block = some s → ∀ label ∈ labels,
        s.customProperty? label = (Label.extract r.matcher label
          (Label.leftover r.matcher ["Markup".toList, "Weight".toList] (paragraphs block))).1 := by
  obtain ⟨value, hvalue⟩ : ∃ value : Text → Option Text, value = fun label => (Label.extract r.matcher label
    (Label.leftover r.matcher ["Markup".toList, "Weight".toList] (paragraphs block))).1 := ⟨_, rfl⟩
  have hkeys' : (labels'.map lower).Nodup := (hperm.map lower).nodup_iff.1 hkeys
  have hone' : Label.Exclusive r.matcher labels' (paragraphs block) :=
    Label.Exclusive.of_subset hone hperm.symm.subset (List.Subset.refl _)
  obtain ⟨p, hp⟩ : ∃ p, p = ({ r with custom := labels } : Reader).properties (paragraphs block) :=
    ⟨_, rfl⟩
  obtain ⟨p', hp'⟩ : ∃ p', p' = ({ r with custom := labels' } : Reader).properties (paragraphs block) :=
    ⟨_, rfl⟩
  have hrest : p.rest = p'.rest := by rw [hp, hp', r.rest_eq_of_perm hperm hone]
  have hcustom : p.custom = customMap value labels := by
    rw [hp, hvalue, r.custom_eq_customMap hkeys.of_map hone]
  have hcustom' : p'.custom = customMap value labels' := by
    rw [hp', hvalue, r.custom_eq_customMap hkeys'.of_map hone']
  have hmarkup : p.markup = p'.markup := by
    rw [hp, hp', properties_eq, properties_eq]
  have hweight : p.weight = p'.weight := by
    rw [hp, hp', properties_eq, properties_eq]
  rw [block?_eq, block?_eq, ← hp, ← hp', assemble_custom, assemble_custom, ← hrest]
  constructor
  · cases Marker.find? r.matcher p.rest with
    | none => exact .none
    | some reference =>
      have hnodup : p.custom.keys.Nodup := hcustom ▸ nodup_keys_customMap hkeys
      have hentries : p.custom.entries.Perm p'.custom.entries := by
        rw [hcustom, hcustom']
        exact perm_entries_customMap hkeys hperm
      have hfields := r.assemble_congr block hmarkup hweight reference
        (Content.ofParagraphs reference p.rest)
      exact .some ⟨Section.same_of_perm hfields hnodup hentries, OrderedMap.get?_eq_of_perm hnodup hentries⟩
  · intro s hs label hlabel
    obtain ⟨reference, -, rfl⟩ := Option.map_eq_some_iff.1 hs
    have hget : p.custom.get? (lower label) = value label := hcustom ▸ get?_customMap hkeys hlabel
    rw [hvalue] at hget
    exact hget

/-- Two labels the other way round, with a second paragraph for one of them. -/
theorem Reader.block?_custom_perm_reversed :
    let r := Reader.ofOptions { markdown := false } none none
    let labels := ["Colour".toList, "Size".toList]
    let labels' := ["Size".toList, "Colour".toList]
    let block := "Buttons\n\nSize: big\n\nSize: small\n\nWeight: 2\n\ncolour:\nred\n\nStyleguide 1".toList
    let s : Section := {
      reference := ['1']
      raw := block
      header := "Buttons".toList
      description := "Size: small".toList
      weight := 2
      custom := ⟨[("colour".toList, "red".toList), ("size".toList, "big".toList)]⟩ }
    let s' : Section := { s with custom := ⟨[("size".toList, "big".toList), ("colour".toList, "red".toList)]⟩ }
    labels.Perm labels' ∧ (labels.map lower).Nodup ∧
      ({ r with custom := labels } : Reader).block? block = some s ∧
      ({ r with custom := labels' } : Reader).block? block = some s' ∧ s.same s' = true ∧ s ≠ s' ∧
      s.customProperty? "Size".toList = (Label.extract none "Size".toList
        (Label.leftover none ["Markup".toList, "Weight".toList] (paragraphs block))).1 := by
  intro r labels labels' block s s'
  have hperm : labels.Perm labels' := List.Perm.swap _ _ []
  have hkeys : (labels.map lower).Nodup := by decide +kernel
  have hone : ∀ p ∈ paragraphs block, ∀ a ∈ labels, ∀ b ∈ labels,
      Label.occurs r.matcher a p = true → Label.occurs r.matcher b p = true →
        a = b := by decide +kernel
  have hs : ({ r with custom := labels } : Reader).block? block = some s := by decide +kernel
  have hs' : ({ r with custom := labels' } : Reader).block? block = some s' := by decide +kernel
  obtain ⟨hrel, hvalues⟩ := r.block?_custom_perm labels labels' hperm hkeys block hone
  rw [hs, hs'] at hrel
  cases hrel with
  | some hsame => exact ⟨hperm, hkeys, hs, hs', hsame.1, by decide, hvalues s hs "Size".toList (by decide)⟩

end Stylebook
