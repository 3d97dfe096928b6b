import Mathlib
import Stylebook.Guide.Order
import Stylebook.Proofs.Failure
import Stylebook.Proofs.Number.Decimal
import Stylebook.Proofs.OrderedMap
import Stylebook.Proofs.Sorting.Stability

/-!
# The hierarchical order

* `Guide.ownerWeight` : the weight that counts at a level; `Guide.grade` : what a level is compared
  by, in the lexicographic order of weight, kind and value;
* `Guide.Precedes` : the order of positions: the first level that differs decides, then the number
  of levels, then the position itself;
* `LevelKey.toGrade` : the grade that a key stands for; `keysFrom_grades` : the keys of a section
  are the grades of its levels; `LevelKey.areBefore_iff` : they are compared like these;
* `Guide.perm_sorted` : sorting loses no section and makes none up, whatever the weights;
* `Guide.Weighable` : no weight that counts is a NaN. Then grades are compared like their places in
  a linear order, `Grade.place`, which keeps numbers between the two infinities (`Weight.toLine`);
* `Guide.precedes_iff` : the order of positions is that of their places with ties kept, so it is a
  strict total order;
* `Guide.sorted_eq_mergeSort` : sorting is a stable sort by the places.
-/

namespace Stylebook

open Text

/-- What one level is compared by: a weight, then a number or the code points of a name. -/
abbrev Grade := Weight ×ₗ (ℕ ⊕ₗ List ℕ)

instance (x y : Grade) : Decidable (x < y) := decidable_of_iff' _ (Prod.Lex.lt_iff (α := Weight))

instance (xs ys : List Grade) : Decidable (xs < ys) := List.decidableLT xs ys

/-- The number whose digits, of any script, are the characters of a text. -/
def numeralValue (level : Text) : ℕ := level.foldl (fun n c => 10 * n + (digitValue? c).getD 0) 0

/-- A level made of figures by its value, and any other by the code points of its lower case. -/
def levelValue (level : Text) : ℕ ⊕ₗ List ℕ :=
  if Rank.isNumeral level then Sum.inlₗ (numeralValue level)
  else Sum.inrₗ ((lower level).map Char.toNat)

namespace Guide

/-- The weight of the last section with exactly the given levels, and zero if there is none. -/
def ownerWeight (sections : List Section) (levels : List Text) : Weight :=
  ((sections.reverse.find? fun s => Reference.levels s.reference == levels).map (·.weight)).getD 0

def grade (sections : List Section) (levels : List Text) (depth : ℕ) : Grade :=
  toLex (ownerWeight sections (levels.take (depth + 1)), levelValue (levels.getD depth []))

def levelsAt (sections : List Section) (i : Fin sections.length) : List Text :=
  Reference.levels (sections.get i).reference

/-- The section at position `i` comes before that at `j`. -/
def Precedes (sections : List Section) (i j : Fin sections.length) : Prop :=
  let a := levelsAt sections i
  let b := levelsAt sections j
  (∃ k, k < a.length ∧ k < b.length ∧ (∀ m < k, grade sections a m = grade sections b m) ∧
    grade sections a k < grade sections b k) ∨
  (∀ k, k < a.length → k < b.length → grade sections a k = grade sections b k) ∧
    (a.length < b.length ∨ a.length = b.length ∧ i < j)

/-- No weight that counts is a NaN. -/
def Weighable (sections : List Section) : Prop :=
  ∀ levels, (ownerWeight sections levels).isNan = false

end Guide

/-! ## Weights -/

namespace Weight

/-- A number as a point of the line of numbers with its two ends. A NaN has no point of its own. -/
def toLine : Weight → WithBot (WithTop ℚ)
  | .finite q => ((q : WithTop ℚ) : WithBot (WithTop ℚ))
  | .infinite false => ⊤
  | .infinite true => ⊥
  | .nan _ => ⊥

theorem lt_iff_isBelow {v w : Weight} : v < w ↔ isBelow v w = true := Iff.rfl

theorem toLine_lt {v w : Weight} (hv : v.isNan = false) (hw : w.isNan = false) :
    v.toLine < w.toLine ↔ v < w := by
  rw [lt_iff_isBelow]
  rcases v with p | (_ | _) | _ <;> rcases w with q | (_ | _) | _ <;>
    simp_all [toLine, isBelow, isNan, ← WithBot.coe_top]

theorem toLine_inj {v w : Weight} (hv : v.isNan = false) (hw : w.isNan = false) :
    v.toLine = w.toLine ↔ v = w := by
  rcases v with p | (_ | _) | _ <;> rcases w with q | (_ | _) | _ <;>
    simp_all [toLine, isNan, ← WithBot.coe_top]

end Weight

/-! ## Numerals -/

/-- Digits of all scripts are read like those from `0` to `9`. -/
theorem ofDigits_plainDigit {level : Text} (h : ∀ c ∈ level, isDecimal c = true) :
    Decimal.ofDigits (level.map Decimal.plainDigit) = numeralValue level := by
  rw [Decimal.ofDigits, numeralValue, List.foldl_map]
  apply List.foldl_ext
  intro n c hc
  rw [Decimal.toNat_plainDigit (h c hc)]

def Rank.toValue : Rank → ℕ ⊕ₗ List ℕ
  | .number n => Sum.inlₗ n
  | .name t => Sum.inrₗ (t.map Char.toNat)

/-- The rank of a level, where it has one, is its value. -/
theorem Rank.toValue_ofLevel {level : Text} {rank : Rank} (h : Rank.ofLevel level = .ok rank) :
    rank.toValue = levelValue level := by
  rw [Rank.ofLevel] at h
  rw [levelValue]
  split at h
  · rename_i hnumeric
    rw [if_pos hnumeric]
    unfold Rank.numeral at h
    dsimp only at h
    split at h
    · exact absurd h (by simp)
    · split at h
      · exact absurd h (by simp)
      · rename_i hlen
        have htake : level.takeWhile isDecimal = level :=
          (List.takeWhile_prefix isDecimal).eq_of_length_le (Nat.le_of_not_lt hlen)
        have hdecimal : ∀ c ∈ level, isDecimal c = true :=
          fun c hc => List.mem_takeWhile_imp (htake.symm ▸ hc)
        rw [htake, ofDigits_plainDigit hdecimal] at h
        cases h
        rfl
  · rename_i hnumeric
    rw [if_neg hnumeric]
    cases h
    rfl

/-! ## Keys -/

/-- Lists are compared like their images, if single members are. -/
theorem lex_iff_map_lt {α β : Type} [BEq α] [LawfulBEq α] [LT β] {f : α → β}
    (hf : Function.Injective f) {lt : α → α → Bool} (hlt : ∀ a b, lt a b = true ↔ f a < f b)
    (as bs : List α) : List.lex as bs lt = true ↔ as.map f < bs.map f := by
  induction as generalizing bs with
  | nil => cases bs <;> simp [List.lex]
  | cons a as ih =>
    cases bs with
    | nil => simp [List.lex]
    | cons b bs => simp [List.lex, List.cons_lt_cons_iff, ih, hlt, hf.eq_iff]

theorem char_toNat_injective : Function.Injective Char.toNat := fun _ _ h => Char.toNat_inj.1 h

theorem isBefore_iff_map_lt (s t : Text) :
    Text.isBefore s t = true ↔ s.map Char.toNat < t.map Char.toNat :=
  lex_iff_map_lt char_toNat_injective (fun _ _ => decide_eq_true_iff) s t

theorem Rank.toValue_injective : Function.Injective Rank.toValue := by
  have hchars : Function.Injective (List.map Char.toNat) :=
    List.map_injective_iff.2 char_toNat_injective
  intro x y h
  cases x <;> cases y
  · exact congrArg number (Sum.inl_injective h)
  · exact absurd h Sum.inl_ne_inr
  · exact absurd h Sum.inr_ne_inl
  · exact congrArg name (hchars (Sum.inr_injective h))

theorem Rank.isBefore_iff (x y : Rank) : x.isBefore y = true ↔ x.toValue < y.toValue := by
  cases x <;> cases y
  · simp [Rank.isBefore, Rank.toValue]
  · simp [Rank.isBefore, Rank.toValue]
  · simp [Rank.isBefore, Rank.toValue]
  · simp [Rank.isBefore, Rank.toValue, isBefore_iff_map_lt]

namespace LevelKey

def toGrade (k : LevelKey) : Grade := toLex (k.weight, k.rank.toValue)

theorem toGrade_injective : Function.Injective toGrade := by
  rintro ⟨w, x⟩ ⟨v, y⟩ h
  have hpair : (w, x.toValue) = (v, y.toValue) := toLex.injective h
  obtain ⟨rfl, hxy⟩ := Prod.mk.inj hpair
  rw [Rank.toValue_injective hxy]

/-- Keys are compared like grades. -/
theorem isBefore_iff (a b : LevelKey) : a.isBefore b = true ↔ a.toGrade < b.toGrade := by
  rw [isBefore, toGrade, toGrade, Prod.Lex.toLex_lt_toLex, Bool.or_eq_true, Bool.and_eq_true,
    decide_eq_true_eq, beq_iff_eq, Rank.isBefore_iff]

theorem areBefore_iff (as bs : List LevelKey) :
    areBefore as bs = true ↔ as.map toGrade < bs.map toGrade :=
  lex_iff_map_lt toGrade_injective isBefore_iff as bs

end LevelKey

/-! ## Places -/

/-- Where a grade stands in the linear order of those without a NaN. -/
abbrev Place := WithBot (WithTop ℚ) ×ₗ (ℕ ⊕ₗ List ℕ)

namespace Grade

def place (x : Grade) : Place := toLex ((ofLex x).1.toLine, (ofLex x).2)

def isNan (x : Grade) : Bool := (ofLex x).1.isNan

theorem place_inj {x y : Grade} (hx : x.isNan = false) (hy : y.isNan = false) :
    x.place = y.place ↔ x = y := by
  rw [place, place, toLex_inj, Prod.mk.injEq, Weight.toLine_inj hx hy, ← Prod.ext_iff, ofLex_inj]

theorem place_lt {x y : Grade} (hx : x.isNan = false) (hy : y.isNan = false) :
    x.place < y.place ↔ x < y := by
  rw [place, place, Prod.Lex.toLex_lt_toLex, Weight.toLine_lt hx hy, Weight.toLine_inj hx hy,
    ← Prod.Lex.toLex_lt_toLex, toLex_ofLex, toLex_ofLex]

theorem map_place_inj {xs ys : List Grade} (hxs : ∀ x ∈ xs, x.isNan = false)
    (hys : ∀ y ∈ ys, y.isNan = false) : xs.map place = ys.map place ↔ xs = ys := by
  induction xs generalizing ys with
  | nil => cases ys <;> simp
  | cons x xs ih =>
    cases ys with
    | nil => simp
    | cons y ys =>
      rw [List.forall_mem_cons] at hxs hys
      rw [List.map_cons, List.map_cons, List.cons.injEq, List.cons.injEq,
        place_inj hxs.1 hys.1, ih hxs.2 hys.2]

theorem map_place_lt {xs ys : List Grade} (hxs : ∀ x ∈ xs, x.isNan = false)
    (hys : ∀ y ∈ ys, y.isNan = false) : xs.map place < ys.map place ↔ xs < ys := by
  induction xs generalizing ys with
  | nil => cases ys <;> simp
  | cons x xs ih =>
    cases ys with
    | nil => simp
    | cons y ys =>
      rw [List.forall_mem_cons] at hxs hys
      rw [List.map_cons, List.map_cons, List.cons_lt_cons_iff, List.cons_lt_cons_iff,
        place_lt hxs.1 hys.1, place_inj hxs.1 hys.1, ih hxs.2 hys.2]

end Grade

/-! ## Weights of owners -/

namespace Guide

variable {sections : List Section}

/-- The weight found for some levels is that of the last section that has them. -/
theorem get?_ownerWeights (sections : List Section) (levels : List Text) :
    ((ownerWeights sections).get? levels).getD 0 = ownerWeight sections levels := by
  unfold ownerWeights ownerWeight
  congr 1
  induction sections using List.reverseRecOn with
  | nil => rfl
  | append_singleton ss s ih =>
    rw [List.foldl_append, List.foldl_cons, List.foldl_nil, OrderedMap.get?_insert, ih,
      List.reverse_append, List.reverse_singleton, List.singleton_append, List.find?_cons]
    cases Reference.levels s.reference == levels <;> rfl

theorem weighable_iff : Weighable sections ↔
    ∀ s ∈ sections, (ownerWeight sections (Reference.levels s.reference)).isNan = false := by
  refine ⟨fun h s _ => h _, fun h levels => ?_⟩
  cases hfind : sections.reverse.find? fun s => Reference.levels s.reference == levels with
  | none =>
    rw [ownerWeight, hfind]
    rfl
  | some s =>
    have hs : s ∈ sections := List.mem_reverse.1 (List.mem_of_find?_eq_some hfind)
    have hlevels := List.find?_some hfind
    rw [← beq_iff_eq.1 hlevels]
    exact h s hs

instance (sections : List Section) : Decidable (Weighable sections) :=
  decidable_of_iff' _ weighable_iff

/-! ## Keys of sections -/

def grades (sections : List Section) (levels : List Text) : List Grade :=
  (List.range levels.length).map (grade sections levels)

/-- The keys of levels are their grades, level by level. -/
theorem keysFrom_grades {above levels : List Text} {ks : List LevelKey}
    (h : keysFrom (ownerWeights sections) above levels = .ok ks) :
    ks.map LevelKey.toGrade =
      (List.range levels.length).map fun k =>
        grade sections (above ++ levels) (above.length + k) := by
  induction levels generalizing above ks with
  | nil =>
    cases h
    rfl
  | cons level rest ih =>
    obtain ⟨rank, hrank, h⟩ := bind_eq_ok_iff.1 h
    obtain ⟨more, hmore, h⟩ := bind_eq_ok_iff.1 h
    cases h
    have happend : above ++ [level] ++ rest = above ++ level :: rest := by simp
    have hfirst : grade sections (above ++ level :: rest) above.length =
        toLex (ownerWeight sections (above ++ [level]), levelValue level) := by
      simp [grade, List.take_length_add_append]
    rw [List.map_cons, ih hmore, happend, List.length_cons, List.range_succ_eq_map, List.map_cons,
      List.map_map, Nat.add_zero, hfirst, LevelKey.toGrade, Rank.toValue_ofLevel hrank,
      get?_ownerWeights]
    congr 1
    apply List.map_congr_left
    intro k _
    rw [Function.comp_apply, List.length_append, List.length_singleton, Nat.succ_eq_add_one]
    congr 1
    omega

theorem keys_grades {s : Section} {ks : List LevelKey}
    (h : keys (ownerWeights sections) s = .ok ks) :
    ks.map LevelKey.toGrade = grades sections (Reference.levels s.reference) := by
  rw [keysFrom_grades h]
  simp [grades]

/-! ## The order of positions -/

@[simp] theorem length_grades (sections : List Section) (levels : List Text) :
    (grades sections levels).length = levels.length := by
  simp [grades]

theorem getElem_grades {levels : List Text} {k : ℕ} (h : k < (grades sections levels).length) :
    (grades sections levels)[k] = grade sections levels k := by
  simp [grades]

/-- The grades of a shorter list are those that the longer one begins with if they agree depth by
depth. -/
theorem grades_eq_take_iff {a b : List Text} (hab : a.length ≤ b.length) :
    grades sections a = (grades sections b).take a.length ↔
      ∀ k, k < a.length → k < b.length → grade sections a k = grade sections b k := by
  constructor
  · intro h k ha hb
    have hk := congrArg (·[k]?) h
    simpa [grades, ha, hb] using hk
  · intro h
    apply List.ext_getElem
    · simp [hab]
    · intro k hk _
      have hka : k < a.length := length_grades sections a ▸ hk
      rw [List.getElem_take, getElem_grades, getElem_grades, h k hka (hka.trans_le hab)]

theorem grades_eq_iff {a b : List Text} :
    grades sections a = grades sections b ↔
      (∀ k, k < a.length → k < b.length → grade sections a k = grade sections b k) ∧
      a.length = b.length := by
  have hall : a.length = b.length → (grades sections b).take a.length = grades sections b := by
    intro hlen
    exact List.take_of_length_le (by simp [hlen])
  constructor
  · intro h
    have hlen : a.length = b.length := by simpa using congrArg List.length h
    exact ⟨(grades_eq_take_iff hlen.le).1 (by rw [h, hall hlen]), hlen⟩
  · rintro ⟨h, hlen⟩
    rw [(grades_eq_take_iff hlen.le).2 h, hall hlen]

/-- Lists of grades are compared at the first depth where they differ, and else by their lengths. -/
theorem grades_lt_iff {a b : List Text} :
    grades sections a < grades sections b ↔
      (∃ k, k < a.length ∧ k < b.length ∧ (∀ m < k, grade sections a m = grade sections b m) ∧
      grade sections a k < grade sections b k) ∨
      (∀ k, k < a.length → k < b.length → grade sections a k = grade sections b k) ∧
      a.length < b.length := by
  have hlast : (grades sections a = (grades sections b).take (grades sections a).length ∧
      (grades sections a).length < (grades sections b).length) ↔
      (∀ k, k < a.length → k < b.length → grade sections a k = grade sections b k) ∧
        a.length < b.length := by
    rw [length_grades, length_grades]
    exact and_congr_left fun hab => grades_eq_take_iff hab.le
  rw [List.lt_iff_exists, or_comm, hlast]
  refine or_congr_left ?_
  constructor
  · rintro ⟨k, ha, hb, hbefore, hk⟩
    simp only [getElem_grades] at hbefore hk
    exact ⟨k, length_grades sections a ▸ ha, length_grades sections b ▸ hb, hbefore, hk⟩
  · rintro ⟨k, ha, hb, hbefore, hk⟩
    refine ⟨k, by rwa [length_grades], by rwa [length_grades], ?_, ?_⟩
    · intro m hm
      rw [getElem_grades, getElem_grades, hbefore m hm]
    · rwa [getElem_grades, getElem_grades]

theorem precedes_iff_grades (i j : Fin sections.length) : Precedes sections i j ↔
    grades sections (levelsAt sections i) < grades sections (levelsAt sections j) ∨
      grades sections (levelsAt sections i) = grades sections (levelsAt sections j) ∧ i < j := by
  rw [grades_lt_iff, grades_eq_iff, Precedes, and_or_left, or_assoc, and_assoc]

instance (sections : List Section) (i j : Fin sections.length) :
    Decidable (Precedes sections i j) :=
  decidable_of_iff' _ (precedes_iff_grades i j)

def places (sections : List Section) (levels : List Text) : List Place :=
  (grades sections levels).map Grade.place

theorem Weighable.grades (h : Weighable sections) (levels : List Text) :
    ∀ x ∈ grades sections levels, x.isNan = false := by
  intro x hx
  obtain ⟨k, -, rfl⟩ := List.mem_map.1 hx
  exact h _

theorem places_inj (h : Weighable sections) {a b : List Text} :
    places sections a = places sections b ↔ grades sections a = grades sections b :=
  Grade.map_place_inj (h.grades a) (h.grades b)

theorem places_lt (h : Weighable sections) {a b : List Text} :
    places sections a < places sections b ↔ grades sections a < grades sections b :=
  Grade.map_place_lt (h.grades a) (h.grades b)

/-- A position after the places of the levels of the section there. -/
def positionKey (sections : List Section) (i : Fin sections.length) :
    List Place ×ₗ Fin sections.length :=
  toLex (places sections (levelsAt sections i), i)

theorem positionKey_injective (sections : List Section) :
    Function.Injective (positionKey sections) :=
  fun _ _ h => (Prod.mk.inj (toLex.injective h)).2

/-- The order of positions is that of the places, with ties kept. -/
theorem precedes_iff (h : Weighable sections) (i j : Fin sections.length) :
    Precedes sections i j ↔ positionKey sections i < positionKey sections j := by
  rw [positionKey, positionKey, Prod.Lex.toLex_lt_toLex]
  dsimp only
  rw [places_lt h, places_inj h, precedes_iff_grades]

theorem isStrictTotalOrder_precedes (h : Weighable sections) :
    IsStrictTotalOrder (Fin sections.length) (Precedes sections) where
  irrefl i hi := lt_irrefl _ ((precedes_iff h i i).1 hi)
  trans i j k hij hjk := (precedes_iff h i k).2 (((precedes_iff h i j).1 hij).trans ((precedes_iff h j k).1 hjk))
  trichotomous i j hij hji := by
    rw [precedes_iff h] at hij hji
    exact positionKey_injective sections (le_antisymm (not_lt.1 hji) (not_lt.1 hij))

/-! ## Sorting -/

theorem mapM_keys_spec {weights : OrderedMap (List Text) Weight} {ss : List Section}
    {pairs : List (List LevelKey × Section)}
    (h : (ss.mapM fun s => do return (← keys weights s, s)) = .ok pairs) :
    pairs.map (·.2) = ss ∧ ∀ p ∈ pairs, keys weights p.2 = .ok p.1 := by
  induction ss generalizing pairs with
  | nil =>
    cases h
    exact ⟨rfl, fun _ hp => absurd hp List.not_mem_nil⟩
  | cons s ss ih =>
    rw [List.mapM_cons] at h
    obtain ⟨p, hp, h⟩ := bind_eq_ok_iff.1 h
    obtain ⟨rest, hrest, h⟩ := bind_eq_ok_iff.1 h
    obtain ⟨ks, hks, hp⟩ := bind_eq_ok_iff.1 hp
    cases hp
    cases h
    obtain ⟨hsections, hkeys⟩ := ih hrest
    exact ⟨by rw [List.map_cons, hsections], List.forall_mem_cons.2 ⟨hks, hkeys⟩⟩

/-- Sorted sections are sorted together with their keys. -/
theorem exists_keyed_of_sorted {g : Guide} {out : List Section} (h : g.sorted = .ok out) :
    ∃ pairs : List (List LevelKey × Section), pairs.map (·.2) = g.sections ∧
      (∀ p ∈ pairs, keys (ownerWeights g.sections) p.2 = .ok p.1) ∧
      out = (Sorting.sort (fun a b => LevelKey.areBefore a.1 b.1) pairs).map (·.2) := by
  obtain ⟨pairs, hpairs, h⟩ := bind_eq_ok_iff.1 h
  cases h
  obtain ⟨hsections, hkeys⟩ := mapM_keys_spec hpairs
  exact ⟨pairs, hsections, hkeys, rfl⟩

theorem perm_sorted {g : Guide} {out : List Section} (h : g.sorted = .ok out) :
    out.Perm g.sections := by
  obtain ⟨pairs, hsections, -, rfl⟩ := exists_keyed_of_sorted h
  rw [← hsections]
  exact (Sorting.perm_sort _ pairs).map _

/-- Without a NaN, sorting goes by the places of the sections. -/
theorem sorted_eq_mergeSort {g : Guide} {out : List Section} (hw : Weighable g.sections)
    (h : g.sorted = .ok out) :
    out = g.sections.mergeSort fun a b =>
      decide (places g.sections (Reference.levels a.reference) ≤ places g.sections (Reference.levels b.reference)) := by
  obtain ⟨pairs, hsections, hkeys, rfl⟩ := exists_keyed_of_sorted h
  have hbefore : ∀ a ∈ pairs, ∀ b ∈ pairs, LevelKey.areBefore a.1 b.1 = true ↔
      places g.sections (Reference.levels a.2.reference) <
        places g.sections (Reference.levels b.2.reference) := by
    intro a ha b hb
    rw [places_lt hw, LevelKey.areBefore_iff, keys_grades (hkeys a ha), keys_grades (hkeys b hb)]
  rw [Sorting.sort_eq_mergeSort hbefore, List.map_mergeSort, hsections]
  intro a _ b _
  rfl

/-- If no weight that counts is a NaN, the sorted sections are a permutation of all of them, in the
hierarchical order of their positions, which is a strict total order. -/
theorem sorted_hierarchical (g : Guide) (out : List Section) (hw : Weighable g.sections)
    (h : g.sorted = .ok out) :
    out.Perm g.sections ∧ IsStrictTotalOrder (Fin g.sections.length) (Precedes g.sections) ∧
      ∃ σ : Equiv.Perm (Fin g.sections.length), out = List.ofFn (fun p => g.sections.get (σ p)) ∧
        ∀ p q, p < q ↔ Precedes g.sections (σ p) (σ q) := by
  have hsort := sorted_eq_mergeSort hw h
  obtain ⟨σ, hmono, hσ⟩ := exists_perm_of_mergeSort (positionKey_injective g.sections)
  refine ⟨perm_sorted h, isStrictTotalOrder_precedes hw, σ, ?_, fun p q => ?_⟩
  · rw [hsort, mergeSort_eq_map_positions fun s : Section => places g.sections (Reference.levels s.reference)]
    have hmap := congrArg (List.map g.sections.get) hσ
    rwa [List.map_ofFn] at hmap
  · rw [precedes_iff hw]
    exact hmono.lt_iff_lt.symm

/-- Numbers of two scripts, names in two cases, a level without an owner, an infinite weight, and a
level with two owners, of which the last counts and the first has a NaN for its weight. -/
theorem sorted_hierarchical_mixed :
    let node (reference : String) (weight : Weight) : Section :=
      { reference := reference.toList, weight }
    let g : Guide := {
      sections := [node "2.a" 0, node "10" 0, node "2" (.nan 0), node "B - x" (.infinite false),
        node "2" 1, node "b" (.infinite true), node "٣" 0] }
    let out := [node "b" (.infinite true), node "٣" 0, node "10" 0, node "B - x" (.infinite false),
      node "2" (.nan 0), node "2" 1, node "2.a" 0]
    Weighable g.sections ∧ g.sorted = .ok out ∧ out.Perm g.sections ∧
      IsStrictTotalOrder (Fin g.sections.length) (Precedes g.sections) ∧
      ∃ σ : Equiv.Perm (Fin g.sections.length), out = List.ofFn (fun p => g.sections.get (σ p)) ∧
        ∀ p q, p < q ↔ Precedes g.sections (σ p) (σ q) := by
  intro node g out
  have hw : Weighable g.sections := by
    decide +kernel
  have h : g.sorted = .ok out := by
    set_option maxRecDepth 4000 in cbv
  exact ⟨hw, h, sorted_hierarchical g out hw h⟩

/-- A section with a NaN for its weight comes neither before another one nor after it, and the
sections on either side of it are not brought into order. -/
theorem not_hierarchical_of_nan :
    let node (reference : String) (weight : Weight) : Section :=
      { reference := reference.toList, weight }
    let g : Guide := { sections := [node "1.1" 0, node "2" (.nan 0), node "1" 0] }
    g.sorted = .ok g.sections ∧ ¬IsStrictTotalOrder (Fin g.sections.length) (Precedes g.sections) ∧
      ¬∃ σ : Equiv.Perm (Fin g.sections.length),
        g.sections = List.ofFn (fun p => g.sections.get (σ p)) ∧ ∀ p q, p < q ↔
        Precedes g.sections (σ p) (σ q) := by
  intro node g
  have h : g.sorted = .ok g.sections := by
    set_option maxRecDepth 4000 in cbv
  have hbefore : ¬Precedes g.sections (0 : Fin 3) (1 : Fin 3) := by
    decide +kernel
  have hafter : ¬Precedes g.sections (1 : Fin 3) (0 : Fin 3) := by
    decide +kernel
  refine ⟨h, fun hstrict => ?_, ?_⟩
  · exact absurd (hstrict.trichotomous _ _ hbefore hafter) (by decide)
  · rintro ⟨σ, -, hσ⟩
    rcases lt_trichotomy (σ.symm (0 : Fin 3)) (σ.symm (1 : Fin 3)) with hlt | heq | hlt
    · exact hbefore (by simpa using (hσ _ _).1 hlt)
    · exact absurd (σ.symm.injective heq) (by decide)
    · exact hafter (by simpa using (hσ _ _).1 hlt)

end Guide

end Stylebook
