import Mathlib
import Stylebook.Proofs.Failure
import Stylebook.Settings
import Stylebook.Yaml.Document

/-!
# Settings that are accepted

* `Settings.Sets` : a field is what the mapping gives under its name, or the default;
  `Settings.Reflects` : all fields are;
* `Settings.WellTyped`, `Settings.Writable` : the values have the types that settings ask for, and
  the members of lists have texts; `Settings.exists_reflects_iff` : these are the mappings that
  settings can reflect;
* `Settings.expect_cases` : what the check of one setting does; from it `Settings.ofPairs_eq_ok_iff`
  : the settings of a mapping are those that reflect it, and `Settings.blamed_of_ofPairs` : what a
  mapping is refused for;
* `Settings.load_eq_ofValue` : a file gives the settings of its document.
-/

namespace Stylebook

open Text

namespace Settings

variable {α : Type} {path : Path} {pairs : List (Value × Value)} {name : Text}
  {s : Settings} {fault : Fault}

/-! ## What a mapping gives -/

/-- The value under a name gives `a`; without any, `a` is the default. -/
def Sets (pairs : List (Value × Value)) (name : Text) (default : α) (gives : Value → α → Prop)
    (a : α) : Prop :=
  match field? pairs name with
  | none => a = default
  | some v => gives v a

/-- The texts are those of the values, each of which has one. -/
def Texts (items : List Value) (ts : List Text) : Prop :=
  (∀ v ∈ items, v.isWritable = true) ∧ ts = items.map Value.plain

/-- Every field is what the mapping gives under its name. -/
structure Reflects (pairs : List (Value × Value)) (s : Settings) : Prop where
  markdown : Sets pairs "markdown".toList true (fun v b => v = .bool b) s.options.markdown
  header : Sets pairs "header".toList true (fun v b => v = .bool b) s.options.header
  typos : Sets pairs "typos".toList false (fun v b => v = .bool b) s.options.typos
  custom : Sets pairs "custom".toList [] (fun v ts => ∃ items, v = .list items ∧
    Texts items ts) s.options.custom
  mask : Sets pairs "mask".toList Mask.stylesheets (fun v t => v = .text t) s.mask
  source : Sets pairs "source".toList []
    (fun v ts => (∃ t, v = .text t ∧ ts = [t]) ∨ ∃ items, v = .list items ∧ Texts items ts) s.source

/-- Where there is a value under the name of a setting, it has the type of that setting. -/
structure WellTyped (pairs : List (Value × Value)) : Prop where
  flags : ∀ name ∈ ["markdown".toList, "header".toList, "typos".toList],
    ∀ v, field? pairs name = some v → ∃ b, v = .bool b
  custom : ∀ v, field? pairs "custom".toList = some v → ∃ items, v = .list items
  mask : ∀ v, field? pairs "mask".toList = some v → ∃ t, v = .text t
  source : ∀ v, field? pairs "source".toList = some v →
    (∃ t, v = .text t) ∨ ∃ items, v = .list items

def Writable (pairs : List (Value × Value)) : Prop :=
  ∀ name ∈ ["custom".toList, "source".toList], ∀ items, field? pairs name = some (.list items) →
    ∀ v ∈ items, v.isWritable = true

theorem exists_sets_iff {default : α} {gives : Value → α → Prop} :
    (∃ a, Sets pairs name default gives a) ↔ ∀ v, field? pairs name = some v → ∃ a, gives v a := by
  unfold Sets
  cases field? pairs name with
  | none => simp
  | some v => simp

theorem Reflects.wellTyped (h : Reflects pairs s) : WellTyped pairs where
  flags name hname := by
    simp only [List.mem_cons, List.not_mem_nil, or_false] at hname
    rcases hname with rfl | rfl | rfl
    · exact exists_sets_iff.1 ⟨_, h.markdown⟩
    · exact exists_sets_iff.1 ⟨_, h.header⟩
    · exact exists_sets_iff.1 ⟨_, h.typos⟩
  custom v hv := by
    obtain ⟨_, items, hitems, -⟩ := exists_sets_iff.1 ⟨_, h.custom⟩ v hv
    exact ⟨items, hitems⟩
  mask := exists_sets_iff.1 ⟨_, h.mask⟩
  source v hv := by
    obtain ⟨_, ⟨t, ht, -⟩ | ⟨items, hitems, -⟩⟩ := exists_sets_iff.1 ⟨_, h.source⟩ v hv
    · exact .inl ⟨t, ht⟩
    · exact .inr ⟨items, hitems⟩

theorem Reflects.writable (h : Reflects pairs s) : Writable pairs := by
  intro name hname items hitems
  simp only [List.mem_cons, List.not_mem_nil, or_false] at hname
  rcases hname with rfl | rfl
  · obtain ⟨_, _, ⟨⟩, htexts⟩ := exists_sets_iff.1 ⟨_, h.custom⟩ _ hitems
    exact htexts.1
  · obtain ⟨_, ⟨_, ⟨⟩, -⟩ | ⟨_, ⟨⟩, htexts⟩⟩ := exists_sets_iff.1 ⟨_, h.source⟩ _ hitems
    exact htexts.1

theorem exists_reflects (htyped : WellTyped pairs) (hwritable : Writable pairs) :
    ∃ s, Reflects pairs s := by
  have hflag : ∀ name ∈ ["markdown".toList, "header".toList, "typos".toList], ∀ default,
      ∃ b, Sets pairs name default (fun v b => v = .bool b) b :=
    fun name hname _ => exists_sets_iff.2 (htyped.flags name hname)
  obtain ⟨markdown, hmarkdown⟩ := hflag "markdown".toList (by simp) true
  obtain ⟨header, hheader⟩ := hflag "header".toList (by simp) true
  obtain ⟨typos, htypos⟩ := hflag "typos".toList (by simp) false
  obtain ⟨custom, hcustom⟩ : ∃ ts, Sets pairs "custom".toList []
      (fun v ts => ∃ items, v = .list items ∧ Texts items ts) ts := by
    refine exists_sets_iff.2 fun v hv => ?_
    obtain ⟨items, rfl⟩ := htyped.custom v hv
    exact ⟨_, items, rfl, hwritable _ (by simp) items hv, rfl⟩
  obtain ⟨mask, hmask⟩ := exists_sets_iff.2 htyped.mask
  obtain ⟨source, hsource⟩ : ∃ ts, Sets pairs "source".toList []
      (fun v ts => (∃ t, v = .text t ∧ ts = [t]) ∨ ∃ items, v = .list items ∧ Texts items ts) ts := by
    refine exists_sets_iff.2 fun v hv => ?_
    rcases htyped.source v hv with ⟨t, rfl⟩ | ⟨items, rfl⟩
    · exact ⟨[t], .inl ⟨t, rfl, rfl⟩⟩
    · exact ⟨_, .inr ⟨items, rfl, hwritable _ (by simp) items hv, rfl⟩⟩
  exact ⟨{ options := { markdown, header, typos, custom }, mask, source },
    hmarkdown, hheader, htypos, hcustom, hmask, hsource⟩

/-- Mappings that settings can reflect have the right types, and texts for what is taken as text. -/
theorem exists_reflects_iff : (∃ s, Reflects pairs s) ↔ WellTyped pairs ∧ Writable pairs :=
  ⟨fun ⟨_, h⟩ => ⟨h.wellTyped, h.writable⟩, fun ⟨htyped, hwritable⟩ => exists_reflects htyped hwritable⟩

/-! ## Kinds -/

namespace Kind

variable {v : Value}

@[simp] theorem flag_get?_eq_some_iff {b : Bool} : flag.get? v = some b ↔ v = .bool b := by
  cases v <;> simp [flag]

@[simp] theorem text_get?_eq_some_iff {t : Text} : text.get? v = some t ↔ v = .text t := by
  cases v <;> simp [text]

@[simp] theorem items_get?_eq_some_iff {items : List Value} :
    Kind.items.get? v = some items ↔ v = .list items := by
  cases v <;> simp [Kind.items]

@[simp] theorem itemsOrText_get?_eq_some_iff {items : List Value} :
    itemsOrText.get? v = some items ↔ v = .list items ∨ ∃ t, v = .text t ∧ items = [.text t] := by
  cases v <;> simp [itemsOrText, eq_comm]

end Kind

/-! ## Checks -/

theorem written_eq_ok_iff {items : List Value} {ts : List Text} :
    written items = .ok ts ↔ Texts items ts := by
  unfold written Texts
  rw [← List.all_eq_true]
  split
  · simp [*, eq_comm]
  · simp [*]

theorem texts_text {t : Text} {ts : List Text} : Texts [.text t] ts ↔ ts = [t] := by
  simp [Texts, Value.isWritable, Value.plain]

/-- A check finds nothing, a value of its kind, or another value. -/
theorem expect_cases (path : Path) (pairs : List (Value × Value)) (kind : Kind α) (name : Text) :
    (field? pairs name = none ∧ expect path pairs kind name = .ok none) ∨
    (∃ v x, field? pairs name = some v ∧ kind.get? v = some x ∧ expect path pairs kind name = .ok (some x)) ∨
    ∃ v, field? pairs name = some v ∧ kind.get? v = none ∧
      expect path pairs kind name = .error (.problem path (.wrongType name kind.name)) := by
  unfold expect
  cases field? pairs name with
  | none => exact .inl ⟨rfl, rfl⟩
  | some v =>
    cases hv : kind.get? v with
    | some x => exact .inr (.inl ⟨v, x, rfl, hv, by simp [hv]⟩)
    | none => exact .inr (.inr ⟨v, rfl, hv, by simp [hv]⟩)

/-- A setting is what its check gives, with the default in the place of nothing. -/
theorem sets_iff_expect (path : Path) {kind : Kind α} {default x : α} :
    Sets pairs name default (fun v x => kind.get? v = some x) x ↔
      ∃ a, expect path pairs kind name = .ok a ∧ a.getD default = x := by
  unfold Sets
  rcases expect_cases path pairs kind name with ⟨hfield, h⟩ | ⟨v, y, hfield,
    hv, h⟩ | ⟨v, hfield, hv, h⟩
  · simp [hfield, h, eq_comm]
  · simp [hfield, h, hv]
  · simp [hfield, h, hv]

theorem map_written_eq_ok_iff {items : List Value} {b : Option (List Text)} :
    some <$> written items = .ok b ↔ ∃ ts, Texts items ts ∧ some ts = b := by
  simp only [← written_eq_ok_iff]
  cases written items <;> simp [Functor.map, Except.map]

theorem map_written_eq_error_iff {items : List Value} :
    some <$> written items = .error fault ↔ (¬ ∀ v ∈ items, v.isWritable = true) ∧
      fault = .scalar .unwritable := by
  rw [written, ← List.all_eq_true]
  split <;> simp [*, Functor.map, Except.map, eq_comm]

theorem sets_iff_written (path : Path) {kind : Kind (List Value)} {ts : List Text} :
    Sets pairs name [] (fun v ts => ∃ items, kind.get? v = some items ∧ Texts items ts) ts ↔
      ∃ a, expect path pairs kind name = .ok a ∧ ∃ b, a.mapM written = .ok b ∧ b.getD [] = ts := by
  unfold Sets
  rcases expect_cases path pairs kind name with ⟨hfield, h⟩ | ⟨v, items, hfield,
    hv, h⟩ | ⟨v, hfield, hv, h⟩
  · simp [hfield, h, pure, Except.pure, eq_comm]
  · simp [hfield, h, hv, map_written_eq_ok_iff]
  · simp [hfield, h, hv]

section Fields

variable (path : Path)

theorem sets_flag_iff {default b : Bool} : Sets pairs name default (fun v b => v = .bool b) b ↔
    ∃ a, expect path pairs .flag name = .ok a ∧ a.getD default = b := by
  rw [← sets_iff_expect path]
  simp only [Kind.flag_get?_eq_some_iff]

theorem sets_text_iff {default t : Text} : Sets pairs name default (fun v t => v = .text t) t ↔
    ∃ a, expect path pairs .text name = .ok a ∧ a.getD default = t := by
  rw [← sets_iff_expect path]
  simp only [Kind.text_get?_eq_some_iff]

theorem sets_items_iff {ts : List Text} :
    Sets pairs name [] (fun v ts => ∃ items, v = .list items ∧ Texts items ts) ts ↔
      ∃ a, expect path pairs .items name = .ok a ∧ ∃ b, a.mapM written = .ok b ∧
        b.getD [] = ts := by
  rw [← sets_iff_written path]
  simp only [Kind.items_get?_eq_some_iff]

theorem sets_itemsOrText_iff {ts : List Text} :
    Sets pairs name [] (fun v ts => (∃ t, v = .text t ∧ ts = [t]) ∨ ∃ items, v = .list items ∧ Texts items ts) ts ↔
      ∃ a, expect path pairs .itemsOrText name = .ok a ∧ ∃ b, a.mapM written = .ok b ∧
        b.getD [] = ts := by
  have hgives : ∀ (v : Value) (ts : List Text),
      (∃ items, Kind.itemsOrText.get? v = some items ∧ Texts items ts) ↔
      (∃ t, v = .text t ∧ ts = [t]) ∨ ∃ items, v = .list items ∧ Texts items ts := by
    intro v ts
    simp only [Kind.itemsOrText_get?_eq_some_iff]
    constructor
    · rintro ⟨items, hitems | ⟨t, ht, rfl⟩, htexts⟩
      · exact .inr ⟨items, hitems, htexts⟩
      · exact .inl ⟨t, ht, texts_text.1 htexts⟩
    · rintro (⟨t, ht, hts⟩ | ⟨items, hitems, htexts⟩)
      · exact ⟨[.text t], .inr ⟨t, ht, rfl⟩, texts_text.2 hts⟩
      · exact ⟨items, .inl hitems, htexts⟩
  rw [← sets_iff_written path]
  simp only [hgives]

end Fields

/-- The settings of a mapping are those that reflect it. -/
theorem ofPairs_eq_ok_iff : ofPairs path pairs = .ok s ↔ Reflects pairs s := by
  unfold ofPairs
  simp only [bind_eq_ok_iff]
  constructor
  · rintro ⟨_, hmarkdown, _, hheader, _, htypos, _, hcustom, _, hcustom', _, hmask,
      _, hsource, _, hsource', ⟨⟩⟩
    exact ⟨(sets_flag_iff path).2 ⟨_, hmarkdown, rfl⟩, (sets_flag_iff path).2 ⟨_, hheader, rfl⟩,
      (sets_flag_iff path).2 ⟨_, htypos, rfl⟩,
      (sets_items_iff path).2 ⟨_, hcustom, _, hcustom', rfl⟩,
      (sets_text_iff path).2 ⟨_, hmask, rfl⟩,
      (sets_itemsOrText_iff path).2 ⟨_, hsource, _, hsource', rfl⟩⟩
  · rintro ⟨hmarkdown, hheader, htypos, hcustom, hmask, hsource⟩
    obtain ⟨m, hm, hmarkdown⟩ := (sets_flag_iff path).1 hmarkdown
    obtain ⟨h, hh, hheader⟩ := (sets_flag_iff path).1 hheader
    obtain ⟨t, ht, htypos⟩ := (sets_flag_iff path).1 htypos
    obtain ⟨c, hc, cs, hcs, hcustom⟩ := (sets_items_iff path).1 hcustom
    obtain ⟨k, hk, hmask⟩ := (sets_text_iff path).1 hmask
    obtain ⟨f, hf, fs, hfs, hsource⟩ := (sets_itemsOrText_iff path).1 hsource
    refine ⟨m, hm, h, hh, t, ht, c, hc, cs, hcs, k, hk, f, hf, fs, hfs, ?_⟩
    rw [hmarkdown, hheader, htypos, hcustom, hmask, hsource]
    rfl

/-! ## Refusals -/

/-- The names of settings, each with the type that a refusal asks for. -/
def types : List (Text × Text) :=
  [("markdown".toList, "bool".toList), ("header".toList, "bool".toList),
    ("typos".toList, "bool".toList), ("custom".toList, "list".toList),
    ("mask".toList, "str".toList), ("source".toList, "list".toList)]

/-- What a mapping may be refused for: a value that does not have the type of its setting, or a
member of a list that has no text. -/
inductive Blamed (path : Path) (pairs : List (Value × Value)) : Fault → Prop where
  | wrongType {name type : Text} {v : Value} (setting : (name, type) ∈ types) (present : field? pairs name = some v)
      (other : v.kind ≠ type) : Blamed path pairs (.problem path (.wrongType name type))
  | unwritable (h : ¬ Writable pairs) : Blamed path pairs (.scalar .unwritable)

theorem blamed_of_expect {kind : Kind α} (hname : (name, kind.name) ∈ types)
    (h : expect path pairs kind name = .error fault) : Blamed path pairs fault := by
  rcases expect_cases path pairs kind name with ⟨-, h'⟩ | ⟨v, x, -, -, h'⟩ | ⟨v, hfield, hv, h'⟩
  · exact absurd (h.symm.trans h') (by simp)
  · exact absurd (h.symm.trans h') (by simp)
  · cases h.symm.trans h'
    refine .wrongType hname hfield fun hkind => ?_
    have hsome := kind.isSome_get? v hkind
    exact absurd hsome (by simp [hv])

theorem blamed_of_written {kind : Kind (List Value)} {a : Option (List Value)}
    (hname : name ∈ ["custom".toList, "source".toList])
    (hkind : ∀ v items, kind.get? v = some items → v = .list items ∨ ∀ i ∈ items, i.isWritable = true)
    (ha : expect path pairs kind name = .ok a) (h : a.mapM written = .error fault) : Blamed path pairs fault := by
  rcases expect_cases path pairs kind name with ⟨-, ha'⟩ | ⟨v, items,
    hfield, hv, ha'⟩ | ⟨v, -, -, ha'⟩
  · cases ha.symm.trans ha'
    exact absurd h (by simp [pure, Except.pure])
  · cases ha.symm.trans ha'
    obtain ⟨hnot, rfl⟩ := map_written_eq_error_iff.1 h
    refine .unwritable fun hwritable => hnot ?_
    rcases hkind v items hv with rfl | hitems
    · exact hwritable name hname items hfield
    · exact hitems
  · exact absurd (ha.symm.trans ha') (by simp)

theorem blamed_of_ofPairs (h : ofPairs path pairs = .error fault) : Blamed path pairs fault := by
  unfold ofPairs at h
  simp only [bind_eq_error_iff] at h
  rcases h with h | ⟨_, -, h | ⟨_, -, h | ⟨_, -, h | ⟨_, hcustom, h | ⟨_, -, h | ⟨_, -, h | ⟨_, hsource, h | ⟨_, -, h⟩⟩⟩⟩⟩⟩⟩⟩
  · exact blamed_of_expect (by decide) h
  · exact blamed_of_expect (by decide) h
  · exact blamed_of_expect (by decide) h
  · exact blamed_of_expect (by decide) h
  · exact blamed_of_written (by simp) (fun v items hv => .inl (Kind.items_get?_eq_some_iff.1 hv)) hcustom h
  · exact blamed_of_expect (by decide) h
  · exact blamed_of_expect (by decide) h
  · refine blamed_of_written (by simp) (fun v items hv => ?_) hsource h
    rcases Kind.itemsOrText_get?_eq_some_iff.1 hv with hv | ⟨t, -, rfl⟩
    · exact .inl hv
    · exact .inr (texts_text.2 rfl).1
  · cases h

/-! ## Files -/

theorem ofValue_map (path : Path) (pairs : List (Value × Value)) :
    ofValue path (.map pairs) = ofPairs path pairs := by
  cases pairs with
  | nil => rfl
  | cons p pairs => rfl

theorem ofValue_of_isNothing (path : Path) {v : Value} (h : isNothing v = true) :
    ofValue path v = .ok {} := by
  unfold ofValue
  rw [if_pos h]

theorem ofValue_of_not_map (path : Path) {v : Value} (h : ¬ isNothing v = true)
    (hmap : ∀ pairs, v ≠ .map pairs) : ofValue path v = .error (.problem path .noMapping) := by
  unfold ofValue
  rw [if_neg h]
  split
  · exact absurd rfl (hmap _)
  · rfl

theorem ofValue_eq_ok_iff {v : Value} : ofValue path v = .ok s ↔
    (isNothing v = true ∧ s = {}) ∨ ∃ pairs, v = .map pairs ∧ Reflects pairs s := by
  by_cases hmap : ∃ pairs, v = .map pairs
  · obtain ⟨pairs, rfl⟩ := hmap
    have hreflects : (∃ pairs', Value.map pairs = .map pairs' ∧ Reflects pairs' s) ↔
        ofValue path (.map pairs) = .ok s := by
      rw [ofValue_map, ofPairs_eq_ok_iff]
      simp
    rw [hreflects]
    refine ⟨.inr, ?_⟩
    rintro (⟨hnothing, rfl⟩ | h)
    · exact ofValue_of_isNothing path hnothing
    · exact h
  · have hother : ¬ ∃ pairs, v = .map pairs ∧ Reflects pairs s :=
      fun ⟨pairs, h, _⟩ => hmap ⟨pairs, h⟩
    by_cases hnothing : isNothing v = true
    · rw [ofValue_of_isNothing path hnothing]
      simp [hnothing, hother, eq_comm]
    · rw [ofValue_of_not_map path hnothing fun pairs h => hmap ⟨pairs, h⟩]
      simp [hnothing, hother]

theorem blamed_of_ofValue {v : Value} (h : ofValue path v = .error fault) :
    ((∀ pairs, v ≠ .map pairs) ∧ fault = .problem path .noMapping) ∨ ∃ pairs, v = .map pairs ∧
      Blamed path pairs fault := by
  by_cases hmap : ∃ pairs, v = .map pairs
  · obtain ⟨pairs, rfl⟩ := hmap
    rw [ofValue_map] at h
    exact .inr ⟨pairs, rfl, blamed_of_ofPairs h⟩
  · have hother : ∀ pairs, v ≠ .map pairs := fun pairs hv => hmap ⟨pairs, hv⟩
    by_cases hnothing : isNothing v = true
    · rw [ofValue_of_isNothing path hnothing] at h
      cases h
    · rw [ofValue_of_not_map path hnothing hother] at h
      cases h
      exact .inl ⟨hother, rfl⟩

theorem load_eq_ofValue {loader : Loader} {files : Files} {path : Option Text} {bytes : List UInt8}
    {t : Text} {v : Value} (hfile : files (pathOf path) = some (.file bytes))
    (htext : Discovery.contentOf? bytes = some t) (hvalue : loader t = .ok v) :
    load loader files path = ofValue (pathOf path) v := by
  have hofFile : ofFile loader files (pathOf path) = ofValue (pathOf path) v := by
    simp only [ofFile, hfile, htext, ofText, hvalue]
  cases path with
  | some p => exact hofFile
  | none =>
    have hplace : files usualPath = some (.file bytes) := hfile
    rw [load, hplace]
    exact hofFile

/-- However documents are read, a file is accepted if its document counts as nothing, or is a
mapping with values of the right types and members of lists that have texts, and then each field is
what the mapping gives under its name. Any other document is refused as no mapping, or for a value
of the wrong type or a member without a text. -/
theorem load_accepts_iff {loader : Loader} {files : Files} {path : Option Text} {bytes : List UInt8}
    {t : Text} {v : Value} (hfile : files (pathOf path) = some (.file bytes))
    (htext : Discovery.contentOf? bytes = some t) (hvalue : loader t = .ok v) :
    ((∃ s, load loader files path = .ok s) ↔
      isNothing v = true ∨ ∃ pairs, v = .map pairs ∧ WellTyped pairs ∧ Writable pairs) ∧
    (∀ s, load loader files path = .ok s ↔
      (isNothing v = true ∧ s = {}) ∨ ∃ pairs, v = .map pairs ∧ Reflects pairs s) ∧
    ∀ fault, load loader files path = .error fault →
      ((∀ pairs, v ≠ .map pairs) ∧ fault = .problem (pathOf path) .noMapping) ∨
        ∃ pairs, v = .map pairs ∧ Blamed (pathOf path) pairs fault := by
  rw [load_eq_ofValue hfile htext hvalue]
  refine ⟨?_, fun s => ofValue_eq_ok_iff, fun fault => blamed_of_ofValue⟩
  simp only [ofValue_eq_ok_iff, exists_or, ← exists_reflects_iff]
  refine or_congr (by simp) ?_
  rw [exists_comm]
  simp only [exists_and_left]

/-- A file with a number in a list, a single text in the place of one, and a name that is no
setting. -/
theorem load_accepts_iff_fields :
    let t := "custom: [a, 2]\nsource: styles\nheader: no\nother: 1".toList
    let files : Files := fun _ => some (.file (t.map (·.toNat.toUInt8)))
    let s : Settings :=
      { options := { header := false, custom := ["a".toList, "2".toList] }, source := ["styles".toList] }
    load Yaml.read files none = .ok s ∧ ∃ pairs, Yaml.read t = .ok (.map pairs) ∧ WellTyped pairs ∧
      Writable pairs ∧ Reflects pairs s := by
  intro t files s
  have htext : Discovery.contentOf? (t.map (·.toNat.toUInt8)) = some t := by decide +kernel
  have hload : load Yaml.read files none = .ok s := by decide +kernel
  have hok : ∀ x : Except Yaml.Fault Value, x.isOk = true → ∃ v, x = .ok v := by
    rintro (f | v) h
    · cases h
    · exact ⟨v, rfl⟩
  obtain ⟨v, hvalue⟩ := hok (Yaml.read t) (by decide +kernel)
  refine ⟨hload, ?_⟩
  rcases ((load_accepts_iff rfl htext hvalue).2.1 s).1 hload with ⟨-,
    hdefault⟩ | ⟨pairs, rfl, hreflects⟩
  · exact absurd hdefault (by decide +kernel)
  · exact ⟨pairs, hvalue, hreflects.wellTyped, hreflects.writable, hreflects⟩

/-- An empty list is neither null nor a mapping, and is accepted. -/
theorem load_empty_list :
    let t := "[]".toList
    let files : Files := fun _ => some (.file (t.map (·.toNat.toUInt8)))
    Discovery.contentOf? (t.map (·.toNat.toUInt8)) = some t ∧
      ∃ v, Yaml.read t = .ok v ∧ v ≠ .null ∧ (∀ pairs, v ≠ .map pairs) ∧
          load Yaml.read files none = .ok {} := by
  intro t files
  have hkind : ∀ x : Except Yaml.Fault Value, x.map Value.kind = .ok "list".toList →
      ∃ v, x = .ok v ∧ v.kind = "list".toList := by
    rintro (f | v) h
    · cases h
    · exact ⟨v, rfl, Except.ok.inj h⟩
  obtain ⟨v, hvalue, hv⟩ := hkind (Yaml.read t) (by decide +kernel)
  refine ⟨by decide +kernel, v, hvalue, ?_, ?_, by decide +kernel⟩
  · rintro rfl
    exact absurd hv (by decide)
  · rintro pairs rfl
    exact absurd (show "dict".toList = "list".toList from hv) (by decide)

end Settings

end Stylebook
