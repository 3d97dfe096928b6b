import Stylebook.Guide.Source
import Stylebook.Proofs.Guide.Order
import Stylebook.Proofs.Section.Checked

/-!
# Input of several stylesheets

Stylesheets are read one after the other, whatever form they are handed over in, and their names
serve for the list of files only.

* `Item` : the items that a sequence may hold; `Source.sheet?_eq_none_iff` : there are no others;
* `Source.ofItems_values`, `Source.ofPairs_texts` : sequences of items and mappings of names to
  texts are stylesheets; `Source.exists_error_iff` : a sequence with any other item is refused;
* `Text.sortTexts_eq`, `Guide.read_files` : the files are the names in the order of their code
  points;
* `Reader.Itemwise` : what follows for reading.
-/

namespace Stylebook

open Text

/-- An item of a sequence of stylesheets: a text, or a pair of a name, or none, and a text. -/
inductive Item where
  | bare (text : Text)
  | unnamed (text : Text)
  | named (name text : Text)
  deriving DecidableEq

namespace Item

def value : Item → Value
  | .bare t => .text t
  | .unnamed t => .tuple [.null, .text t]
  | .named name t => .tuple [.text name, .text t]

def text : Item → Text
  | .bare t => t
  | .unnamed t => t
  | .named _ t => t

def name? : Item → Option Text
  | .named name _ => some name
  | _ => none

def sheet (i : Item) : Sheet := { name := i.name?, text := i.text }

end Item

/-- What reading makes of sequences, single texts and mappings. -/
structure Reader.Itemwise (r : Reader) : Prop where
  /-- The guide of a sequence holds the sections of its texts, one text after the other, and its names
in order. -/
  items : ∀ A : List Item, ∃ a, Guide.readValue r (.list (A.map Item.value)) = .ok a ∧
    a.1.sections = (A.map Item.text).flatMap r.sheet ∧ a.1.files.Perm (A.filterMap Item.name?) ∧
    a.1.files.Pairwise fun s t => s.map Char.toNat ≤ t.map Char.toNat
  /-- The sections of two sequences in a row are those of the first and then those of the second. -/
  append : ∀ A B : List Item, ∃ a b ab, Guide.readValue r (.list (A.map Item.value)) = .ok a ∧
    Guide.readValue r (.list (B.map Item.value)) = .ok b ∧
    Guide.readValue r (.list ((A ++ B).map Item.value)) = .ok ab ∧
      ab.1.sections = a.1.sections ++ b.1.sections
  /-- A single text is read like the sequence of it alone. -/
  single : ∀ t : Text, Guide.readValue r (.text t) = Guide.readValue r (.list [.text t])
  /-- A mapping is read like the sequence of its pairs. -/
  mapping : ∀ pairs : List (Text × Text),
    Guide.readValue r (.map (pairs.map fun p => (.text p.1, .text p.2))) =
    Guide.readValue r (.list (pairs.map fun p => (Item.named p.1 p.2).value))
  /-- Sequences of the same texts have the same sections, whatever names they give. -/
  names : ∀ A B : List Item, A.map Item.text = B.map Item.text →
    ∃ a b, Guide.readValue r (.list (A.map Item.value)) = .ok a ∧
      Guide.readValue r (.list (B.map Item.value)) = .ok b ∧ a.1.sections = b.1.sections
  /-- A sequence is refused for any other item in it. -/
  refused : ∀ vs : List Value, (∃ fault, Guide.readValue r (.list vs) = .error fault) ↔
    ∃ v ∈ vs, ∀ i : Item, i.value ≠ v
  /-- Two sequences in a row are refused if one of them is. -/
  refused_append : ∀ vs ws : List Value, (∃ fault, Guide.readValue r (.list (vs ++ ws)) = .error fault) ↔
    (∃ fault, Guide.readValue r (.list vs) = .error fault) ∨
      ∃ fault, Guide.readValue r (.list ws) = .error fault

/-! ## Items -/

namespace Source

theorem sheet?_value (i : Item) : sheet? i.value = some i.sheet := by
  cases i <;> rfl

theorem sheet?_eq_none_iff {v : Value} : sheet? v = none ↔ ∀ i : Item, i.value ≠ v := by
  constructor
  · rintro h i rfl
    rw [sheet?_value] at h
    exact absurd h (by simp)
  · intro h
    unfold sheet?
    split
    · exact absurd rfl (h (.bare _))
    · exact absurd rfl (h (.unnamed _))
    · exact absurd rfl (h (.named _ _))
    · rfl

theorem ofItems_values (index : ℕ) (items : List Item) :
    ofItems index (items.map Item.value) = .ok (items.map Item.sheet) := by
  induction items generalizing index with
  | nil => rfl
  | cons i items ih =>
    rw [List.map_cons, ofItems, sheet?_value, ih]
    rfl

theorem ofPairs_texts (pairs : List (Text × Text)) :
    ofPairs (pairs.map fun p => (.text p.1, .text p.2)) =
      .ok (pairs.map fun p => (Item.named p.1 p.2).sheet) := by
  induction pairs with
  | nil => rfl
  | cons p pairs ih =>
    rw [List.map_cons, ofPairs, ih]
    rfl

theorem exists_error_iff (index : ℕ) (vs : List Value) :
    (∃ fault, ofItems index vs = .error fault) ↔ ∃ v ∈ vs, ∀ i : Item, i.value ≠ v := by
  simp only [← sheet?_eq_none_iff]
  induction vs generalizing index with
  | nil => simp [ofItems]
  | cons v vs ih =>
    rw [ofItems, List.exists_mem_cons_iff, ← ih (index + 1)]
    cases hv : sheet? v with
    | none => simp
    | some s =>
      cases ofItems (index + 1) vs with
      | error fault => simp [Functor.map, Except.map]
      | ok source => simp [Functor.map, Except.map]

end Source

/-! ## Files -/

theorem Text.sortTexts_eq (ts : List Text) :
    sortTexts ts = ts.mergeSort fun s t => decide (s.map Char.toNat ≤ t.map Char.toNat) := by
  unfold sortTexts
  congr 1
  funext s t
  rw [Bool.eq_iff_iff, Bool.not_eq_true', ← Bool.not_eq_true, isBefore_iff_map_lt,
    not_lt, decide_eq_true_iff]

namespace Guide

theorem addAll_files (g : Guide) (ss : List Section) : (g.addAll ss).1.files = g.files := by
  induction ss generalizing g with
  | nil => rfl
  | cons s ss ih =>
    rw [addAll]
    exact ih (g.add s)

theorem read_files (r : Reader) (source : Source) :
    (read r source).1.files = sortTexts (source.filterMap (·.name)) := by
  rw [read, ofSections, addAll_files]
  rfl

/-! ## Reading -/

theorem readValue_items (r : Reader) (items : List Item) :
    readValue r (.list (items.map Item.value)) = .ok (read r (items.map Item.sheet)) := by
  have hsource : Source.ofValue (.list (items.map Item.value)) = .ok (items.map Item.sheet) :=
    Source.ofItems_values 0 items
  rw [readValue, hsource]
  rfl

theorem read_items_sections (r : Reader) (items : List Item) :
    (read r (items.map Item.sheet)).1.sections = (items.map Item.text).flatMap r.sheet := by
  rw [read_sections, List.flatMap_map, List.flatMap_map]
  rfl

theorem read_items_files (r : Reader) (items : List Item) :
    (read r (items.map Item.sheet)).1.files = sortTexts (items.filterMap Item.name?) := by
  rw [read_files, List.filterMap_map]
  rfl

theorem exists_error_readValue_iff (r : Reader) (vs : List Value) :
    (∃ fault, readValue r (.list vs) = .error fault) ↔ ∃ v ∈ vs, ∀ i : Item, i.value ≠ v := by
  rw [← Source.exists_error_iff 0, readValue, Source.ofValue]
  cases Source.ofItems 0 vs with
  | error fault => simp [bind, Except.bind]
  | ok source => simp [bind, Except.bind, pure, Except.pure]

/-- Reading treats stylesheets one by one, and goes by their texts alone. -/
theorem readValue_itemwise (o : Options) (renderer : Option Renderer) (matcher : Option Matcher) :
    (Reader.ofOptions o renderer matcher).Itemwise where
  items A := by
    refine ⟨_, readValue_items _ A, read_items_sections _ A, ?_, ?_⟩
    · rw [read_items_files]
      exact List.mergeSort_perm _ _
    · rw [read_items_files, sortTexts_eq]
      exact pairwise_mergeSort_key (fun t : Text => t.map Char.toNat) _
  append A B := by
    refine ⟨_, _, _, readValue_items _ A, readValue_items _ B, readValue_items _ (A ++ B), ?_⟩
    rw [read_items_sections, read_items_sections, read_items_sections,
      List.map_append, List.flatMap_append]
  single _ := rfl
  mapping pairs := by
    have hitems := readValue_items (Reader.ofOptions o renderer matcher)
      (pairs.map fun p => .named p.1 p.2)
    rw [List.map_map, List.map_map] at hitems
    have hsource : Source.ofValue (.map (pairs.map fun p => (.text p.1, .text p.2))) =
        .ok (pairs.map fun p => (Item.named p.1 p.2).sheet) := Source.ofPairs_texts pairs
    rw [readValue, hsource]
    exact hitems.symm
  names A B htexts := by
    refine ⟨_, _, readValue_items _ A, readValue_items _ B, ?_⟩
    rw [read_items_sections, read_items_sections, htexts]
  refused := exists_error_readValue_iff _
  refused_append vs ws := by
    simp only [exists_error_readValue_iff, List.mem_append, or_and_right, exists_or]

/-- Two stylesheets with other names and in other forms. -/
theorem readValue_itemwise_renamed :
    let r := Reader.ofOptions {} none none
    let A : List Item := [.named "b.css".toList "// Styleguide 2".toList,
      .bare "// Styleguide 1".toList]
    let B : List Item := [.unnamed "// Styleguide 2".toList, .named "a.css".toList "// Styleguide 1".toList]
    A.map Item.text = B.map Item.text ∧
      ∃ a b, readValue r (.list (A.map Item.value)) = .ok a ∧
        readValue r (.list (B.map Item.value)) = .ok b ∧ a.1.sections = b.1.sections := by
  intro r A B
  have htexts : A.map Item.text = B.map Item.text := rfl
  exact ⟨htexts, (readValue_itemwise {} none none).names A B htexts⟩

end Guide

end Stylebook
