import Mathlib.Data.List.Induction
import Mathlib.Data.List.Nodup
import Stylebook.OrderedMap

/-!
# Laws of ordered maps

* `eraseDups_concat`, `nodup_eraseDups`, `eraseDups_append_of_subset` : a list without the members
  that have come before;
* `OrderedMap.contains_eq_isSome_get?`, `OrderedMap.get?_insert` : the keys are those with a value;
  the value inserted last counts;
* `OrderedMap.entries_ofList` : pairs in which the key decides the value make a map of these keys,
  each once, in the order in which they first came; `OrderedMap.entries_ofList_of_nodup` : pairs
  with distinct keys are the entries of their map;
* `OrderedMap.get?_eq_some_iff_mem` : with distinct keys, look-up is membership, so the order of
  entries does not matter (`OrderedMap.get?_eq_of_perm`, `OrderedMap.sameAs_of_perm`);
* `OrderedMap.nodup_keys_insert` : distinct keys stay distinct.
-/

namespace Stylebook

/-! ## Lists without repetitions -/

section EraseDups

variable {α : Type} [BEq α] [LawfulBEq α]

theorem eraseDups_append_of_subset {l m : List α} (h : m ⊆ l) :
    (l ++ m).eraseDups = l.eraseDups := by
  have hnone : m.removeAll l = [] := List.filter_eq_nil_iff.2 fun a ha => by simpa using h ha
  rw [List.eraseDups_append, hnone, List.eraseDups_nil, List.append_nil]

/-- One more member is new, or changes nothing. -/
theorem eraseDups_concat (l : List α) (a : α) :
    (l ++ [a]).eraseDups = if l.contains a then l.eraseDups else l.eraseDups ++ [a] := by
  by_cases h : l.contains a = true
  · have hold : [a] ⊆ l := List.cons_subset.2 ⟨List.contains_iff_mem.1 h, List.nil_subset l⟩
    rw [if_pos h, eraseDups_append_of_subset hold]
  · have hnew : [a].removeAll l = [a] := by
      refine List.filter_eq_self.2 fun b hb => ?_
      rw [List.mem_singleton.1 hb]
      simpa using h
    rw [if_neg h, List.eraseDups_append, hnew, List.eraseDups_cons, List.filter_nil, List.eraseDups_nil]

theorem nodup_eraseDups (l : List α) : l.eraseDups.Nodup := by
  induction l using List.reverseRecOn with
  | nil => simp
  | append_singleton l a ih =>
    rw [eraseDups_concat]
    split
    · exact ih
    · rename_i h
      refine List.nodup_append.2 ⟨ih, List.nodup_singleton a, ?_⟩
      rintro b hb c hc rfl
      rw [List.mem_eraseDups] at hb
      rw [List.mem_singleton] at hc
      exact h (List.contains_iff_mem.2 (hc ▸ hb))

end EraseDups

namespace OrderedMap

variable {κ ν : Type} [BEq κ]

theorem contains_eq_isSome_get? (m : OrderedMap κ ν) (key : κ) :
    m.contains key = (m.get? key).isSome := by
  rw [contains, get?, Option.isSome_map, Bool.eq_iff_iff, List.any_eq_true, List.find?_isSome]

theorem entries_ofList_concat (pairs : List (κ × ν)) (p : κ × ν) :
    (ofList (pairs ++ [p])).entries = insertIn p.1 p.2 (ofList pairs).entries := by
  rw [ofList, List.foldl_append]
  rfl

variable [LawfulBEq κ]

theorem get?_insert (m : OrderedMap κ ν) (key k : κ) (value : ν) :
    (m.insert key value).get? k = if key == k then some value else m.get? k := by
  obtain ⟨es⟩ := m
  unfold insert get?
  induction es with
  | nil => by_cases h : (key == k) = true <;> simp [insertIn, h]
  | cons e es ih =>
    obtain ⟨k', v⟩ := e
    rw [insertIn]
    by_cases hkey : (k' == key) = true
    · rw [if_pos hkey, beq_iff_eq.1 hkey]
      by_cases h : (key == k) = true <;> simp [h]
    · rw [if_neg hkey]
      by_cases hk : (k' == k) = true
      · have hne : ¬(key == k) = true := by
          rw [← beq_iff_eq.1 hk, beq_iff_eq]
          intro h
          exact hkey (beq_iff_eq.2 h.symm)
        simp [hk, hne]
      · simpa [hk] using ih

/-- A table of a function stays one when it is given the value of another key. -/
theorem insertIn_table (value : κ → ν) (keys : List κ) (key : κ) :
    insertIn key (value key) (keys.map fun k => (k, value k)) =
      (if keys.contains key then keys else keys ++ [key]).map fun k => (k, value k) := by
  induction keys with
  | nil => rfl
  | cons k keys ih =>
    rw [List.map_cons, insertIn, ih]
    by_cases hk : k = key
    · subst hk
      simp
    · have hne : (k == key) = false := by simpa using hk
      have hne' : (key == k) = false := by simpa using fun h => hk h.symm
      rw [if_neg (Bool.not_eq_true _ ▸ hne), List.contains_cons, hne', Bool.false_or]
      split <;> rfl

/-- Where the key decides the value, the map has each key once, in the order in which they first
came. -/
theorem entries_ofList {value : κ → ν} {pairs : List (κ × ν)} (h : ∀ p ∈ pairs, p.2 = value p.1) :
    (ofList pairs).entries = (pairs.map (·.1)).eraseDups.map fun k => (k, value k) := by
  induction pairs using List.reverseRecOn with
  | nil => rfl
  | append_singleton pairs p ih =>
    have hlast : p.2 = value p.1 := h p (by simp)
    have hpairs := ih fun q hq => h q (List.mem_append_left _ hq)
    have hcontains : (pairs.map (·.1)).eraseDups.contains p.1 = (pairs.map (·.1)).contains p.1 := by
      rw [Bool.eq_iff_iff, List.contains_iff_mem, List.contains_iff_mem, List.mem_eraseDups]
    rw [entries_ofList_concat, hpairs, hlast, insertIn_table, hcontains, List.map_append,
      List.map_singleton, eraseDups_concat]

/-! ## Distinct keys -/

theorem insertIn_of_not_mem {key : κ} {es : List (κ × ν)} (h : key ∉ es.map (·.1)) (value : ν) :
    insertIn key value es = es ++ [(key, value)] := by
  induction es with
  | nil => rfl
  | cons e es ih =>
    rw [List.map_cons, List.mem_cons, not_or] at h
    have hne : ¬(e.1 == key) = true := by simpa using Ne.symm h.1
    rw [insertIn, if_neg hne, ih h.2, List.cons_append]

theorem entries_ofList_of_nodup {pairs : List (κ × ν)} (h : (pairs.map (·.1)).Nodup) :
    (ofList pairs).entries = pairs := by
  induction pairs using List.reverseRecOn with
  | nil => rfl
  | append_singleton pairs p ih =>
    rw [List.map_append, List.map_singleton, List.nodup_append] at h
    have hnew : p.1 ∉ pairs.map (·.1) := fun hmem => h.2.2 _ hmem _ (List.mem_singleton_self _) rfl
    rw [entries_ofList_concat, ih h.1, insertIn_of_not_mem hnew]

theorem keys_insertIn_of_mem {key : κ} {es : List (κ × ν)} (h : key ∈ es.map (·.1)) (value : ν) :
    (insertIn key value es).map (·.1) = es.map (·.1) := by
  induction es with
  | nil => simp at h
  | cons e es ih =>
    rw [insertIn]
    by_cases hkey : (e.1 == key) = true
    · simp [hkey]
    · have hrest : key ∈ es.map (·.1) := by
        rw [List.map_cons, List.mem_cons] at h
        exact h.resolve_left fun heq => hkey (by simp [heq])
      simp [hkey, ih hrest]

/-- An insertion overwrites, or brings a key that is new. -/
theorem nodup_keys_insert {m : OrderedMap κ ν} (h : m.keys.Nodup) (key : κ) (value : ν) :
    (m.insert key value).keys.Nodup := by
  unfold keys insert at *
  by_cases hmem : key ∈ m.entries.map (·.1)
  · rw [keys_insertIn_of_mem hmem]
    exact h
  · rw [insertIn_of_not_mem hmem, List.map_append, List.map_singleton, ← List.concat_eq_append]
    exact h.concat hmem

theorem mem_keys_iff {m : OrderedMap κ ν} {key : κ} :
    key ∈ m.keys ↔ ∃ value, m.get? key = some value := by
  rw [← Option.isSome_iff_exists, ← contains_eq_isSome_get?, contains, keys]
  simp

theorem get?_eq_some_iff_mem {m : OrderedMap κ ν} (h : m.keys.Nodup) {key : κ} {value : ν} :
    m.get? key = some value ↔ (key, value) ∈ m.entries := by
  obtain ⟨es⟩ := m
  unfold keys get? at *
  induction es with
  | nil => simp
  | cons e es ih =>
    rw [List.map_cons, List.nodup_cons] at h
    rw [List.find?_cons, List.mem_cons]
    by_cases hkey : e.1 = key
    · have hrest : (key, value) ∉ es :=
        fun hmem => h.1 (hkey ▸ List.mem_map_of_mem (f := (·.1)) hmem)
      simp [hkey, hrest, Prod.ext_iff, eq_comm]
    · have hne : (key, value) ≠ e := fun heq => hkey (heq ▸ rfl)
      have hbeq : (e.1 == key) = false := by simpa using hkey
      rw [hbeq, ih h.2, or_iff_right hne]

variable {a b : OrderedMap κ ν}

omit [BEq κ] [LawfulBEq κ] in
theorem nodup_keys_of_perm (ha : a.keys.Nodup) (h : a.entries.Perm b.entries) : b.keys.Nodup :=
  (h.map Prod.fst).nodup_iff.1 ha

theorem get?_eq_of_perm (ha : a.keys.Nodup) (h : a.entries.Perm b.entries) (key : κ) :
    a.get? key = b.get? key := by
  ext value
  rw [get?_eq_some_iff_mem ha, get?_eq_some_iff_mem (nodup_keys_of_perm ha h), h.mem_iff]

theorem sameAs_of_perm [BEq ν] [LawfulBEq ν] (ha : a.keys.Nodup) (h : a.entries.Perm b.entries) :
    a.sameAs b = true := by
  rw [sameAs, Bool.and_eq_true, beq_iff_eq, List.all_eq_true]
  refine ⟨h.length_eq, fun p hp => ?_⟩
  rw [beq_iff_eq, get?_eq_some_iff_mem (nodup_keys_of_perm ha h)]
  exact h.mem_iff.1 hp

end OrderedMap

end Stylebook
