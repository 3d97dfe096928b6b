import Stylebook.Guide.Record
import Stylebook.Proofs.Guide.Query
import Stylebook.Proofs.OrderedMap

/-!
# What exported records say

Custom properties are named by their authors, so a name may be that of a field or of a place in the
guide. A field is written before the custom properties, which do not replace it, and the place after
them, replacing one of its name.

* `Section.fieldNames`, `Section.recordNames` : the names that a record always has;
* `Section.IsRecord s r` : `r` tells the truth about `s`: the fields, the place in the guide, the
  custom properties under other names, and nothing else;
* `Section.get?_addCustom` : what one custom property adds to a record;
  `Section.get?_foldl_addCustom` : and several of them;
* `Section.isRecord_fullRecord` : the record of a section with any custom properties;
* `Guide.records_eq`, `Guide.json_eq` : records and documents go by the sections that are listed.
-/

namespace Stylebook

namespace Section

variable {s : Section}

def fieldNames : List Text :=
  ["header", "description", "deprecated", "experimental", "reference", "weight", "markup",
    "modifiers", "parameters"].map String.toList

/-- The names that a record has whatever custom properties there are. -/
def recordNames : List Text := fieldNames ++ ["referenceURI".toList, "depth".toList]

/-- The record tells what the section holds and where it stands. Custom properties that are not
empty are under their names, as far as these are free, and there is nothing else. -/
structure IsRecord (s : Section) (r : Record) : Prop where
  header : r.get? "header".toList = some (.text s.header)
  description : r.get? "description".toList = some (.text s.description)
  deprecated : r.get? "deprecated".toList = some (.bool s.deprecated)
  experimental : r.get? "experimental".toList = some (.bool s.experimental)
  reference : r.get? "reference".toList = some (.text s.reference)
  weight : r.get? "weight".toList = some (.number s.weight)
  markup : r.get? "markup".toList = some (s.markup.elim .null .text)
  modifiers : r.get? "modifiers".toList = some (.array (s.modifiers.map Entry.modifierJson))
  parameters : r.get? "parameters".toList = some (.array (s.parameters.map Entry.parameterJson))
  referenceURI : r.get? "referenceURI".toList = some (.text (Reference.uri s.reference))
  depth : r.get? "depth".toList = some (.number (Reference.levels s.reference).length)
  custom : ∀ name value, s.custom.get? name = some value → value ≠ [] → name ∉ recordNames →
    r.get? name = some (.text value)
  nothing_else : ∀ name ∈ r.keys, name ∈ recordNames ∨
    ∃ value, (name, value) ∈ s.custom.entries ∧ value ≠ [] ∧ r.get? name = some (.text value)
  distinct : r.keys.Nodup

/-! ## Custom properties -/

def offered (p : Text × Text) (name : Text) : Option Json :=
  if p.1 == name && !p.2.isEmpty then some (.text p.2) else none

/-- A custom property says something under its name, unless something is said there already. -/
theorem get?_addCustom (r : Record) (p : Text × Text) (name : Text) :
    (addCustom r p).get? name = (r.get? name).or (offered p name) := by
  unfold addCustom offered
  rw [OrderedMap.contains_eq_isSome_get?]
  by_cases hname : (p.1 == name) = true
  · rw [beq_iff_eq] at hname
    cases hold : r.get? name with
    | some value => simp [hname, hold]
    | none => by_cases hempty : p.2.isEmpty = true <;> simp [hname, hold, hempty, OrderedMap.get?_insert]
  · split <;> simp [hname, OrderedMap.get?_insert]

/-- Of several custom properties of a name, the first that is not empty counts. -/
theorem get?_foldl_addCustom (ps : List (Text × Text)) (r : Record) (name : Text) :
    (ps.foldl addCustom r).get? name = (r.get? name).or (ps.findSome? (offered · name)) := by
  induction ps generalizing r with
  | nil => simp
  | cons p ps ih =>
    rw [List.foldl_cons, ih, get?_addCustom, Option.or_assoc, List.findSome?_cons]
    cases offered p name <;> rfl

theorem nodup_keys_foldl_addCustom (ps : List (Text × Text)) {r : Record} (h : r.keys.Nodup) :
    (ps.foldl addCustom r).keys.Nodup := by
  induction ps generalizing r with
  | nil => exact h
  | cons p ps ih =>
    rw [List.foldl_cons]
    apply ih
    unfold addCustom
    split
    · exact h
    · exact OrderedMap.nodup_keys_insert h _ _

/-- The value of a name is what is said under it, if it is not empty. -/
theorem findSome?_offered_of_get? {m : OrderedMap Text Text} {name value : Text}
    (h : m.get? name = some value) (hne : value ≠ []) :
    m.entries.findSome? (offered · name) = some (.text value) := by
  obtain ⟨es⟩ := m
  unfold OrderedMap.get? at h
  induction es with
  | nil => simp at h
  | cons e es ih =>
    rw [List.find?_cons] at h
    rw [List.findSome?_cons]
    by_cases hname : (e.1 == name) = true
    · rw [hname] at h
      obtain rfl : e.2 = value := by simpa using h
      simp [offered, hname, hne]
    · simp only [hname] at h
      simp only [offered, hname, Bool.false_and, Bool.false_eq_true, if_false]
      exact ih h

/-- Nothing is said but by a custom property. -/
theorem exists_of_findSome?_offered {ps : List (Text × Text)} {name : Text} {j : Json}
    (h : ps.findSome? (offered · name) = some j) :
    ∃ value, (name, value) ∈ ps ∧ value ≠ [] ∧ j = .text value := by
  obtain ⟨⟨key, value⟩, hmem, hoffered⟩ := List.exists_of_findSome?_eq_some h
  simp only [offered, Bool.and_eq_true, beq_iff_eq, Option.ite_none_right_eq_some,
    Option.some.injEq] at hoffered
  obtain ⟨⟨rfl, hne⟩, rfl⟩ := hoffered
  exact ⟨value, hmem, by simpa using hne, rfl⟩

/-! ## Fields and places -/

theorem keys_fields (s : Section) : OrderedMap.keys ⟨s.fields⟩ = fieldNames := rfl

theorem nodup_recordNames : recordNames.Nodup := by decide

theorem nodup_keys_fields (s : Section) : (OrderedMap.keys ⟨s.fields⟩).Nodup :=
  keys_fields s ▸ nodup_recordNames.of_append_left

theorem get?_record (s : Section) (name : Text) :
    s.record.get? name = (OrderedMap.get? ⟨s.fields⟩ name).or (s.custom.entries.findSome? (offered · name)) :=
  get?_foldl_addCustom s.custom.entries ⟨s.fields⟩ name

theorem get?_fullRecord (s : Section) (name : Text) :
    s.fullRecord.get? name =
      if "depth".toList == name then some (.number (Reference.levels s.reference).length)
      else if "referenceURI".toList == name then some (.text (Reference.uri s.reference))
      else s.record.get? name := by
  rw [fullRecord, OrderedMap.get?_insert, OrderedMap.get?_insert]

theorem get?_fullRecord_of_ne {name : Text} (hdepth : name ≠ "depth".toList)
    (huri : name ≠ "referenceURI".toList) : s.fullRecord.get? name = s.record.get? name := by
  rw [get?_fullRecord, if_neg (by simpa using hdepth.symm), if_neg (by simpa using huri.symm)]

/-- No custom property hides a field, and no field has the name of a place. -/
theorem get?_fullRecord_of_mem_fields {name : Text} {j : Json} (h : (name, j) ∈ s.fields) :
    s.fullRecord.get? name = some j := by
  have hname : name ∈ fieldNames := List.mem_map_of_mem (f := (·.1)) h
  have hplace : ∀ place ∈ ["referenceURI".toList, "depth".toList], name ≠ place :=
    fun place hplace => (List.nodup_append.1 nodup_recordNames).2.2 name hname place hplace
  have hfield : OrderedMap.get? ⟨s.fields⟩ name = some j :=
    (OrderedMap.get?_eq_some_iff_mem (nodup_keys_fields s)).2 h
  rw [get?_fullRecord_of_ne (hplace _ (by simp)) (hplace _ (by simp)),
    get?_record, hfield, Option.some_or]

/-- Under any other name there are the custom properties only. -/
theorem get?_fullRecord_of_not_mem {name : Text} (h : name ∉ recordNames) :
    s.fullRecord.get? name = s.custom.entries.findSome? (offered · name) := by
  simp only [recordNames, List.mem_append, List.mem_cons, List.not_mem_nil, or_false, not_or] at h
  obtain ⟨hname, huri, hdepth⟩ := h
  have hfield : OrderedMap.get? ⟨s.fields⟩ name = none := by
    rw [Option.eq_none_iff_forall_not_mem]
    intro value hvalue
    exact hname (keys_fields s ▸ OrderedMap.mem_keys_iff.2 ⟨value, hvalue⟩)
  rw [get?_fullRecord_of_ne hdepth huri, get?_record, hfield, Option.none_or]

theorem nodup_keys_fullRecord (s : Section) : s.fullRecord.keys.Nodup :=
  OrderedMap.nodup_keys_insert
    (OrderedMap.nodup_keys_insert (nodup_keys_foldl_addCustom s.custom.entries (nodup_keys_fields s)) _ _) _ _

/-- Whatever custom properties a section has, its record tells the truth. -/
theorem isRecord_fullRecord (s : Section) : s.IsRecord s.fullRecord where
  header := get?_fullRecord_of_mem_fields (by simp [fields])
  description := get?_fullRecord_of_mem_fields (by simp [fields])
  deprecated := get?_fullRecord_of_mem_fields (by simp [fields])
  experimental := get?_fullRecord_of_mem_fields (by simp [fields])
  reference := get?_fullRecord_of_mem_fields (by simp [fields])
  weight := get?_fullRecord_of_mem_fields (by simp [fields])
  markup := get?_fullRecord_of_mem_fields (by cases h : s.markup <;> simp [fields, h])
  modifiers := get?_fullRecord_of_mem_fields (by simp [fields])
  parameters := get?_fullRecord_of_mem_fields (by simp [fields])
  referenceURI := s.get?_fullRecord "referenceURI".toList
  depth := s.get?_fullRecord "depth".toList
  custom name value hget hne hfree := by
    rw [get?_fullRecord_of_not_mem hfree, findSome?_offered_of_get? hget hne]
  nothing_else name hname := by
    by_cases hfree : name ∈ recordNames
    · exact Or.inl hfree
    · obtain ⟨j, hj⟩ := OrderedMap.mem_keys_iff.1 hname
      obtain ⟨value, hmem, hne, rfl⟩ :=
        exists_of_findSome?_offered (get?_fullRecord_of_not_mem hfree ▸ hj)
      exact Or.inr ⟨value, hmem, hne, hj⟩
  distinct := s.nodup_keys_fullRecord

end Section

namespace Guide

def document (files : List Text) (rs : List Record) : Json :=
  .object [("files".toList, .array (files.map .text)),
    ("sections".toList, .array (rs.map fun r => .object r.entries))]

theorem json_eq (g : Guide) (inOrder : Bool) :
    g.json inOrder = (g.records inOrder).map (document g.files) := by
  unfold json
  cases g.records inOrder <;> rfl

/-- As they were read, or in order as far as there is one, the sections are listed by their
records. -/
theorem records_eq (g : Guide) (inOrder : Bool) :
    g.records inOrder =
      (if inOrder then g.sorted else .ok g.sections).map (List.map Section.fullRecord) := by
  unfold records
  cases inOrder
  · rfl
  · cases g.sorted <;> rfl

theorem forall₂_isRecord (ss : List Section) :
    List.Forall₂ Section.IsRecord ss (ss.map Section.fullRecord) := by
  rw [List.forall₂_map_right_iff, List.forall₂_same]
  exact fun s _ => s.isRecord_fullRecord

/-- The exported document has one record for each section, as they were read or, where they can be
sorted, in order. Each tells the truth about its section whatever custom properties that has, and
the order changes no record. -/
theorem records_truthful (g : Guide) :
    ∃ rs, g.records false = .ok rs ∧ g.json false = .ok (document g.files rs) ∧
      List.Forall₂ Section.IsRecord g.sections rs ∧
      (∀ out, g.sorted = .ok out → ∃ rs', g.records true = .ok rs' ∧ g.json true = .ok (document g.files rs') ∧
        List.Forall₂ Section.IsRecord out rs' ∧ rs'.Perm rs) ∧
      ∀ fault, g.sorted = .error fault → g.records true = .error fault ∧
        g.json true = .error fault := by
  refine ⟨g.sections.map Section.fullRecord, rfl, rfl, forall₂_isRecord g.sections, ?_, ?_⟩
  · intro out hout
    have hrecords : g.records true = .ok (out.map Section.fullRecord) := by
      rw [records_eq, if_pos rfl, hout]
      rfl
    have hjson : g.json true = .ok (document g.files (out.map Section.fullRecord)) := by
      rw [json_eq, hrecords]
      rfl
    exact ⟨out.map Section.fullRecord, hrecords, hjson, forall₂_isRecord out,
      (perm_sorted hout).map Section.fullRecord⟩
  · intro fault hfault
    have hrecords : g.records true = .error fault := by
      rw [records_eq, if_pos rfl, hfault]
      rfl
    have hjson : g.json true = .error fault := by
      rw [json_eq, hrecords]
      rfl
    exact ⟨hrecords, hjson⟩

/-- Custom properties named like a field, like both places, like none of them, and one that is
empty. -/
theorem records_truthful_collisions :
    let s : Section := {
      reference := "2.10".toList
      header := "Deep".toList
      custom := ⟨[("header".toList, "fake".toList), ("depth".toList, "99".toList),
        ("owner".toList, "me".toList), ("note".toList, [])]⟩ }
    let t : Section := {
      reference := "2.9".toList
      weight := (-1 : Rat)
      custom := ⟨[("referenceURI".toList, "fake".toList)]⟩ }
    let g : Guide := { sections := [s, t] }
    g.sorted = .ok [t, s] ∧ ∃ rs rs', g.records false = .ok rs ∧ g.records true = .ok rs' ∧
      List.Forall₂ Section.IsRecord [s, t] rs ∧ List.Forall₂ Section.IsRecord [t, s] rs' ∧
      rs'.Perm rs := by
  intro s t g
  have h : g.sorted = .ok [t, s] := by
    set_option maxRecDepth 4000 in cbv
  obtain ⟨rs, hrs, -, hread, hsorted, -⟩ := records_truthful g
  obtain ⟨rs', hrs', -, hordered, hperm⟩ := hsorted [t, s] h
  exact ⟨h, rs, rs', hrs, hrs', hread, hordered, hperm⟩

end Guide

end Stylebook
