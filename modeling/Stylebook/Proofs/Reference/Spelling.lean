import Stylebook.Proofs.Reference.Marker

/-!
# Ways to write the keyword

* `Spelled` : the words that spell the keyword, whole or broken in two, in any case, with a mark at
  its end or without;
* `isSpelling_of_toLower` : the letters of such words are a spelling of the keyword;
  `afterKeyword?_whole`, `afterKeyword?_broken` : what follows them is found. Broken in two it is
  found for sure without a matcher only, since a matcher may take the first of the two words for the
  keyword;
* `find?_words` : a reference that is found leaves out one word or two;
* `isSome_find?_of_none` : no matcher makes a marker disappear.
-/

namespace Stylebook.Marker

open Text

variable {m : Option Matcher}

/-- What may stand at the end of the keyword. -/
def marks : List Text := [[], [':'], ['-']]

/-- The words spell the keyword, in any case of its letters, whole or in two words, and with at most
one mark. -/
inductive Spelled : List Text → Prop where
  | whole {k mark : Text} (hk : k.map Char.toLower = keyword) (hmark : mark ∈ marks) : Spelled [k ++ mark]
  | broken {a b mark : Text} (ha : a ≠ []) (hb : b ≠ []) (hk : (a ++ b).map Char.toLower = keyword)
      (hmark : mark ∈ marks) : Spelled [a, b ++ mark]

/-! ## The keyword -/

theorem isAlpha_of_toLower {c : Char} (h : c.toLower ∈ keyword) : c.isAlpha = true := by
  have hletters : ∀ d ∈ keyword, d.isAlpha = true := List.all_eq_true.1 (by decide)
  by_cases hupper : c.val ≥ 'A'.val ∧ c.val ≤ 'Z'.val
  · exact Bool.or_eq_true_iff.2 (Or.inl (decide_eq_true hupper))
  · have hsame : c.toLower = c := dif_neg hupper
    exact hletters c (hsame ▸ h)

theorem isSpelling_of_toLower {k : Text} (h : k.map Char.toLower = keyword) : IsSpelling k := by
  have hletters : ∀ c ∈ k, c.isAlpha = true :=
    fun c hc => isAlpha_of_toLower (h ▸ List.mem_map_of_mem hc)
  exact ⟨(lower_of_isAlpha hletters).trans h, hletters⟩

theorem IsSpelling.dropMark_append {k mark : Text} (h : IsSpelling k) (hmark : mark ∈ marks) :
    Marker.dropMark (k ++ mark) = k := by
  simp only [marks, List.mem_cons, List.not_mem_nil, or_false] at hmark
  rcases hmark with rfl | rfl | rfl
  · rw [List.append_nil, dropMark_of_isAlpha h.letters]
  · simp [Marker.dropMark]
  · simp [Marker.dropMark]

theorem IsSpelling.isKeyword_append {k mark : Text} (h : IsSpelling k) (hmark : mark ∈ marks)
    (m : Option Matcher) : Marker.isKeyword m (k ++ mark) = true := by
  unfold Marker.isKeyword
  simp [h.dropMark_append hmark, h.lower]

/-- The front of a spelling of the keyword is not the keyword. -/
theorem IsSpelling.not_isKeyword {a b : Text} (h : IsSpelling (a ++ b)) (hb : b ≠ []) :
    Marker.isKeyword none a = false := by
  have hletters : ∀ c ∈ a, c.isAlpha = true := fun c hc => h.letters c (List.mem_append_left b hc)
  have hlength : Text.lower a ≠ keyword := by
    intro hlower
    have hboth := congrArg List.length (h.lower.trans hlower.symm)
    rw [lower_of_isAlpha h.letters, lower_of_isAlpha hletters, List.length_map, List.length_map,
      List.length_append] at hboth
    exact hb (List.length_eq_zero_iff.1 (by omega))
  unfold Marker.isKeyword
  simp [dropMark_of_isAlpha hletters, hlength]

/-! ## Words after the keyword -/

theorem afterKeyword?_whole {k mark : Text} (hk : IsSpelling k) (hmark : mark ∈ marks)
    {ws : List Text} (hne : ws ≠ []) (m : Option Matcher) :
    afterKeyword? m ((k ++ mark) :: ws) = some ws := by
  obtain ⟨w, rest, rfl⟩ := List.exists_cons_of_ne_nil hne
  rw [afterKeyword?, if_pos (hk.isKeyword_append hmark m)]

theorem afterKeyword?_broken {a b mark : Text} (hk : IsSpelling (a ++ b)) (hb : b ≠ [])
    (hmark : mark ∈ marks) (ws : List Text) :
    afterKeyword? none (a :: (b ++ mark) :: ws) = some ws := by
  have hfirst : ¬isKeyword none a = true := by simp [hk.not_isKeyword hb]
  have hboth : isKeyword none (a ++ (b ++ mark)) = true := by
    rw [← List.append_assoc]
    exact hk.isKeyword_append hmark none
  rw [afterKeyword?, if_neg hfirst, if_pos hboth]

theorem getLastD_of_getLast? {ps : List Text} {p : Text} (h : ps.getLast? = some p) :
    ps.getLastD [] = p := by
  rw [List.getLastD_eq_getLast?, h, Option.getD_some]

/-- Words after the keyword are the reference, unless there are none. -/
theorem find?_of_afterKeyword? {ps ws : List Text} {p : Text} (hp : ps.getLast? = some p)
    (h : afterKeyword? m (words p) = some ws) :
    find? m ps = if ws = [] then none else some (unwords ws) := by
  rw [find?, getLastD_of_getLast? hp, h]
  cases ws with
  | nil => rfl
  | cons w ws => rfl

theorem find?_whole {ps : List Text} {p k mark r : Text} (hk : IsSpelling k) (hmark : mark ∈ marks)
    (hp : ps.getLast? = some p) (hwords : words p = (k ++ mark) :: words r) (m : Option Matcher) :
    find? m ps = if words r = [] then none else some (unwords (words r)) := by
  by_cases hr : words r = []
  · rw [if_pos hr, find?, getLastD_of_getLast? hp, hwords, hr]
    rfl
  · have hafter := afterKeyword?_whole hk hmark hr m
    rw [← hwords] at hafter
    exact find?_of_afterKeyword? hp hafter

theorem find?_broken {ps : List Text} {p a b mark r : Text} (hk : IsSpelling (a ++ b)) (hb : b ≠ [])
    (hmark : mark ∈ marks) (hp : ps.getLast? = some p)
    (hwords : words p = a :: (b ++ mark) :: words r) :
    find? none ps = if words r = [] then none else some (unwords (words r)) := by
  have hafter := afterKeyword?_broken hk hb hmark (words r)
  rw [← hwords] at hafter
  exact find?_of_afterKeyword? hp hafter

/-! ## Any marker -/

theorem find?_words {ps : List Text} {reference : Text} (h : find? m ps = some reference) :
    ∃ p, ps.getLast? = some p ∧ (words reference = (words p).drop 1 ∨
      words reference = (words p).drop 2) := by
  obtain ⟨w, ws, hafter, rfl⟩ := find?_eq_some_iff.1 h
  have hwords : words (unwords (w :: ws)) = w :: ws :=
    words_unwords fun v hv => isWord_of_mem_words ((afterKeyword?_suffix hafter).subset hv)
  cases hlast : ps.getLast? with
  | none =>
    rw [List.getLastD_eq_getLast?, hlast] at hafter
    exact absurd hafter (by simp [words, afterKeyword?])
  | some p =>
    rw [getLastD_of_getLast? hlast] at hafter
    refine ⟨p, rfl, ?_⟩
    rw [hwords]
    exact afterKeyword?_drop hafter

theorem isKeyword_of_none {w : Text} (h : isKeyword none w = true) (m : Option Matcher) :
    isKeyword m w = true := by
  have hexact : lower (dropMark w) = keyword := by simpa [isKeyword] using h
  simp [isKeyword, hexact]

/-- Where words follow the keyword without a matcher, words follow it with a matcher too: those, or
one more if the matcher takes the first word alone for the keyword. -/
theorem afterKeyword?_of_none {ws rest : List Text} {w : Text}
    (h : afterKeyword? none ws = some (w :: rest)) (m : Option Matcher) :
    ∃ v vs, afterKeyword? m ws = some (v :: vs) := by
  match ws, h with
  | first :: second :: others, h =>
    rw [afterKeyword?] at h ⊢
    by_cases hm : isKeyword m first = true
    · exact ⟨second, others, if_pos hm⟩
    · have hfirst : ¬isKeyword none first = true := fun hnone => hm (isKeyword_of_none hnone m)
      rw [if_neg hfirst] at h
      split at h
      · rename_i hboth
        rw [if_neg hm, if_pos (isKeyword_of_none hboth m)]
        exact ⟨w, rest, h⟩
      · exact absurd h (by simp)

theorem isSome_find?_of_none {ps : List Text} (h : (find? none ps).isSome = true)
    (m : Option Matcher) : (find? m ps).isSome = true := by
  obtain ⟨reference, hfind⟩ := Option.isSome_iff_exists.1 h
  obtain ⟨w, ws, hafter, -⟩ := find?_eq_some_iff.1 hfind
  obtain ⟨v, vs, hmatched⟩ := afterKeyword?_of_none hafter m
  exact Option.isSome_iff_exists.2 ⟨_, find?_eq_some_iff.2 ⟨v, vs, hmatched, rfl⟩⟩

/-- Every spelling of the keyword is accepted, and the words after it are the reference: without a
matcher, and with any if the keyword is one word. Whatever is found is not empty, and is all words
of the last paragraph but the first or the first two; and what is found without a matcher is not
lost with one. -/
theorem find?_spellings :
    (∀ (ps head : List Text) (p r : Text), Spelled head → ps.getLast? = some p →
      words p = head ++ words r →
      find? none ps = (if words r = [] then none else some (unwords (words r))) ∧
      (head.length = 1 → ∀ m, find? m ps = if words r = [] then none else some (unwords (words r)))) ∧
    (∀ (m : Option Matcher) (ps : List Text) (reference : Text), find? m ps = some reference →
      reference ≠ [] ∧ ∃ p, ps.getLast? = some p ∧
        (words reference = (words p).drop 1 ∨ words reference = (words p).drop 2)) ∧
    ∀ (m : Matcher) (ps : List Text), (find? none ps).isSome = true →
      (find? (some m) ps).isSome = true := by
  refine ⟨fun ps head p r hhead hp hwords => ?_, fun m ps reference h => ⟨find?_ne_nil h, find?_words h⟩,
    fun m ps h => isSome_find?_of_none h (some m)⟩
  cases hhead with
  | whole hk hmark =>
    have hfind := find?_whole (isSpelling_of_toLower hk) hmark hp hwords
    exact ⟨hfind none, fun _ => hfind⟩
  | broken ha hb hk hmark =>
    exact ⟨find?_broken (isSpelling_of_toLower hk) hb hmark hp hwords,
      fun hone => absurd hone (by simp)⟩

/-- The keyword in two words and in mixed case, with a colon, in a paragraph of several lines; and a
matcher that takes the first of two such words for the keyword. -/
theorem find?_spellings_broken :
    let ps : List Text := ["a".toList, "\tsTyle\n GUIDE:  Forms -\nButtons ".toList]
    let qs : List Text := ["STYLEGUIDE- 2.1\t".toList]
    let m : Matcher := ⟨fun written _ => written == "sTyle".toList⟩
    find? none ps = some "Forms - Buttons".toList ∧ (∀ m, find? m qs = some "2.1".toList) ∧
      find? (some m) ps = some "GUIDE: Forms - Buttons".toList ∧ (find? (some m) ps).isSome = true ∧
      ("GUIDE: Forms - Buttons".toList ≠ [] ∧ ∃ p, ps.getLast? = some p ∧
        (words "GUIDE: Forms - Buttons".toList = (words p).drop 1 ∨
          words "GUIDE: Forms - Buttons".toList = (words p).drop 2)) := by
  intro ps qs m
  have hbroken : Spelled ["sTyle".toList, "GUIDE".toList ++ ":".toList] :=
    .broken (by decide) (by decide) (by decide) (by decide)
  have hwhole : Spelled ["STYLEGUIDE".toList ++ "-".toList] := .whole (by decide) (by decide)
  have hps := find?_spellings.1 ps _ _ "Forms - Buttons".toList hbroken rfl (by decide)
  have hqs := find?_spellings.1 qs _ _ "2.1".toList hwhole rfl (by decide)
  have hmatched : find? (some m) ps = some "GUIDE: Forms - Buttons".toList := by decide
  refine ⟨hps.1.trans (by decide), fun m => (hqs.2 rfl m).trans (by decide), hmatched, ?_, ?_⟩
  · exact find?_spellings.2.2 m ps (by decide)
  · exact find?_spellings.2.1 (some m) ps _ hmatched

end Stylebook.Marker
