import Stylebook.Files.Mask
import Stylebook.Files.Path
import Stylebook.Proofs.Text

/-!
# What masks accept

* `Pattern.suffixMatches_cons` : the table of a name has the answer for the name and then the table
  of the rest, so that `Pattern.accepts` obeys the equations of the plain recursion
  (`accepts_any_cons`, `accepts_single_cons`);
* `Pattern.Fits` : the texts that a pattern stands for, part by part; `Pattern.accepts_iff` :
  exactly these are accepted;
* `Pattern.fits_any_chars_iff` : a star and then characters stand for the texts that end in these;
* `Mask.accepts_append` : two masks with a bar between them; `Mask.SuffixPattern` : a pattern that
  asks for a suffix.
-/

namespace Stylebook

open Text

namespace Pattern

variable {ts : List Token} {tok : Token} {c : Char} {name : Text}

/-! ## The table of a name -/

theorem anyFrom_cons (b : Bool) (bs : List Bool) :
    anyFrom (b :: bs) = (b || (anyFrom bs).headD false) :: anyFrom bs := by
  rw [anyFrom]
  cases anyFrom bs with
  | nil => simp
  | cons r more => rfl

theorem suffixMatches_single (htok : tok ≠ .any) (ts : List Token) (name : Text) :
    suffixMatches (tok :: ts) name =
      List.zipWith (fun c fits => tok.fits c && fits) name ((suffixMatches ts name).drop 1) ++ [false] := by
  cases tok with
  | any => exact absurd rfl htok
  | one => rfl
  | char d => rfl
  | set s => rfl

theorem suffixMatches_nil (ts : List Token) : suffixMatches ts [] = [accepts ts []] := by
  suffices h : ∃ b, suffixMatches ts [] = [b] by
    obtain ⟨b, hb⟩ := h
    rw [accepts, hb, List.headD_cons]
  induction ts with
  | nil => exact ⟨true, rfl⟩
  | cons tok ts ih =>
    by_cases htok : tok = .any
    · subst htok
      obtain ⟨b, hb⟩ := ih
      exact ⟨b, by rw [suffixMatches, hb]; rfl⟩
    · exact ⟨false, suffixMatches_single htok ts []⟩

/-- The suffixes of a name are the name and the suffixes of what follows its first character. -/
theorem suffixMatches_cons (ts : List Token) (c : Char) (name : Text) :
    suffixMatches ts (c :: name) = accepts ts (c :: name) :: suffixMatches ts name := by
  suffices h : ∃ b, suffixMatches ts (c :: name) = b :: suffixMatches ts name by
    obtain ⟨b, hb⟩ := h
    rw [accepts, hb, List.headD_cons]
  induction ts generalizing c name with
  | nil => exact ⟨false, rfl⟩
  | cons tok ts ih =>
    obtain ⟨b, hb⟩ := ih c name
    by_cases htok : tok = .any
    · subst htok
      exact ⟨_, by rw [suffixMatches, hb, anyFrom_cons, suffixMatches]⟩
    · have hhead : ∃ r more, suffixMatches ts name = r :: more := by
        cases name with
        | nil => exact ⟨_, _, suffixMatches_nil ts⟩
        | cons d name =>
          obtain ⟨r, hr⟩ := ih d name
          exact ⟨r, _, hr⟩
      obtain ⟨r, more, hmore⟩ := hhead
      refine ⟨tok.fits c && r, ?_⟩
      rw [suffixMatches_single htok, suffixMatches_single htok, hb, hmore]
      rfl

theorem suffixMatches_eq (ts : List Token) (name : Text) :
    ∃ more, suffixMatches ts name = accepts ts name :: more := by
  cases name with
  | nil => exact ⟨[], suffixMatches_nil ts⟩
  | cons c name => exact ⟨_, suffixMatches_cons ts c name⟩

theorem accepts_nil (name : Text) : accepts [] name = name.isEmpty := by
  cases name <;> rfl

theorem accepts_any_nil (ts : List Token) : accepts (.any :: ts) [] = accepts ts [] := by
  rw [accepts, suffixMatches, suffixMatches_nil]
  rfl

theorem accepts_any_cons (ts : List Token) (c : Char) (name : Text) :
    accepts (.any :: ts) (c :: name) = (accepts ts (c :: name) || accepts (.any :: ts) name) := by
  rw [accepts, suffixMatches, suffixMatches_cons, anyFrom_cons, List.headD_cons]
  rfl

theorem accepts_single_nil (htok : tok ≠ .any) (ts : List Token) :
    accepts (tok :: ts) [] = false := by
  rw [accepts, suffixMatches_single htok]
  rfl

theorem accepts_single_cons (htok : tok ≠ .any) (ts : List Token) (c : Char) (name : Text) :
    accepts (tok :: ts) (c :: name) = (tok.fits c && accepts ts name) := by
  obtain ⟨more, hmore⟩ := suffixMatches_eq ts name
  rw [accepts, suffixMatches_single htok, suffixMatches_cons, List.drop_one, List.tail_cons, hmore]
  rfl

/-! ## The texts of a pattern -/

/-- The text is made of texts that the parts stand for, one after the other. -/
inductive Fits : List Token → Text → Prop where
  | nil : Fits [] []
  | any {ts : List Token} {t : Text} (x : Text) (rest : Fits ts t) : Fits (.any :: ts) (x ++ t)
  | single {tok : Token} {c : Char} {ts : List Token} {t : Text} (first : tok.fits c = true) (rest : Fits ts t) :
      Fits (tok :: ts) (c :: t)

theorem fits_nil_iff : Fits [] name ↔ name = [] := by
  constructor
  · rintro ⟨⟩
    rfl
  · rintro rfl
    exact .nil

theorem fits_any_iff : Fits (.any :: ts) name ↔ ∃ x t, x ++ t = name ∧ Fits ts t := by
  constructor
  · intro h
    cases h with
    | any x rest => exact ⟨x, _, rfl, rest⟩
    | single first rest => exact absurd first (by simp [Token.fits])
  · rintro ⟨x, t, rfl, h⟩
    exact .any x h

theorem fits_single_iff (htok : tok ≠ .any) :
    Fits (tok :: ts) name ↔ ∃ c t, c :: t = name ∧ tok.fits c = true ∧ Fits ts t := by
  constructor
  · intro h
    cases h with
    | any x rest => exact absurd rfl htok
    | single first rest => exact ⟨_, _, rfl, first, rest⟩
  · rintro ⟨c, t, rfl, hc, h⟩
    exact .single hc h

/-- A pattern accepts the texts that it stands for. A star that takes in one more character is still
the star, so the induction for it is on the name. -/
theorem accepts_iff : accepts ts name = true ↔ Fits ts name := by
  induction ts generalizing name with
  | nil => rw [accepts_nil, List.isEmpty_iff, fits_nil_iff]
  | cons tok ts ih =>
    by_cases htok : tok = .any
    · subst htok
      rw [fits_any_iff]
      induction name with
      | nil =>
        rw [accepts_any_nil, ih]
        simp
      | cons c name ihname =>
        rw [accepts_any_cons, Bool.or_eq_true, ih, ihname]
        constructor
        · rintro (h | ⟨x, t, rfl, h⟩)
          · exact ⟨[], _, rfl, h⟩
          · exact ⟨c :: x, t, rfl, h⟩
        · rintro ⟨x, t, hxt, h⟩
          cases x with
          | nil =>
            rw [List.nil_append] at hxt
            exact Or.inl (hxt ▸ h)
          | cons d x =>
            rw [List.cons_append, List.cons.injEq] at hxt
            exact Or.inr ⟨x, t, hxt.2, h⟩
    · rw [fits_single_iff htok]
      cases name with
      | nil => simp [accepts_single_nil htok]
      | cons c name => simp [accepts_single_cons htok, ih]

theorem fits_chars_iff {s : Text} : Fits (s.map .char) name ↔ name = s := by
  induction s generalizing name with
  | nil => exact fits_nil_iff
  | cons c s ih =>
    rw [List.map_cons, fits_single_iff (by simp)]
    simp only [Token.fits, beq_iff_eq, ih]
    constructor
    · rintro ⟨d, t, rfl, rfl, rfl⟩
      rfl
    · rintro rfl
      exact ⟨c, s, rfl, rfl, rfl⟩

/-- Whatever a star takes in, the characters after it are the end of the name. -/
theorem fits_any_chars_iff {s : Text} : Fits (.any :: s.map .char) name ↔ s <:+ name := by
  rw [fits_any_iff]
  simp only [fits_chars_iff]
  constructor
  · rintro ⟨x, t, rfl, rfl⟩
    exact List.suffix_append x t
  · rintro ⟨x, rfl⟩
    exact ⟨x, s, rfl, rfl⟩

/-- The characters that stand for something else in a pattern, or end it. -/
def marks : List Char := ['*', '?', '[', '|']

theorem ofText_of_plain {s : Text} (h : ∀ c ∈ s, c ∉ marks) : ofText s = s.map .char := by
  unfold ofText
  induction s with
  | nil => rfl
  | cons c s ih =>
    rw [List.forall_mem_cons] at h
    obtain ⟨hstar, hquery, hbracket, -⟩ : c ≠ '*' ∧ c ≠ '?' ∧ c ≠ '[' ∧
      c ≠ '|' := by simpa [marks] using h.1
    simp [tokensFrom, hstar, hquery, hbracket, ih h.2]

theorem ofText_star {s : Text} (h : ∀ c ∈ s, c ∉ marks) :
    ofText ('*' :: s) = .any :: s.map .char := by
  rw [← ofText_of_plain h]
  rfl

end Pattern

/-! ## Masks -/

namespace Mask

theorem accepts_append (m₁ m₂ name : Text) :
    accepts (m₁ ++ '|' :: m₂) name = (accepts m₁ name || accepts m₂ name) := by
  rw [accepts, patterns, List.splitOn_append_cons_self, List.map_append, List.any_append]
  rfl

/-- A pattern that asks for a suffix, with blanks around it. -/
structure SuffixPattern where
  before : Text
  suffix : Text
  after : Text
  blank_before : ∀ c ∈ before, isBlank c = true
  plain : ∀ c ∈ suffix, c ∉ Pattern.marks
  no_blank : trimEnd suffix = suffix
  blank_after : ∀ c ∈ after, isBlank c = true

namespace SuffixPattern

def text (p : SuffixPattern) : Text := p.before ++ '*' :: p.suffix ++ p.after

theorem isBlank_of_mem_nil : ∀ c ∈ ([] : Text), isBlank c = true := by simp

def bare (s : Text) (plain : ∀ c ∈ s, c ∉ Pattern.marks) (no_blank : trimEnd s = s) :
    SuffixPattern where
  before := []
  suffix := s
  after := []
  blank_before := isBlank_of_mem_nil
  plain := plain
  no_blank := no_blank
  blank_after := isBlank_of_mem_nil

theorem text_bare {s : Text} (plain : ∀ c ∈ s, c ∉ Pattern.marks) (no_blank : trimEnd s = s) :
    (bare s plain no_blank).text = '*' :: s := List.append_nil _

theorem trim_text (p : SuffixPattern) : trim p.text = '*' :: p.suffix := by
  have hstar : isBlank '*' = false := by decide
  rw [text, List.append_assoc, trim_append_of_blank p.blank_before, trim, List.cons_append,
    trimStart_of_not_blank hstar, ← List.cons_append, trimEnd_append_of_blank _ p.blank_after,
    trimEnd_cons_of_not_blank hstar, p.no_blank]

theorem bar_not_mem_text (p : SuffixPattern) : '|' ∉ p.text := by
  have hbar : isBlank '|' = false := by decide
  have hblank : ∀ t : Text, (∀ c ∈ t, isBlank c = true) → '|' ∉ t := by
    intro t ht hmem
    exact absurd (ht _ hmem) (by simp [hbar])
  have hsuffix : '|' ∉ p.suffix := fun hmem => p.plain _ hmem (by simp [Pattern.marks])
  simp [text, hblank _ p.blank_before, hblank _ p.blank_after, hsuffix]

end SuffixPattern

theorem accepts_suffixes {ps : List SuffixPattern} (hne : ps ≠ []) (name : Text) :
    accepts (['|'].intercalate (ps.map (·.text))) name = true ↔ ∃ p ∈ ps, p.suffix <:+ name := by
  have hbar : ∀ t ∈ ps.map (·.text), '|' ∉ t := by
    intro t ht
    obtain ⟨p, -, rfl⟩ := List.mem_map.1 ht
    exact p.bar_not_mem_text
  rw [accepts, patterns, List.splitOn_intercalate '|' hbar (by simpa using hne), List.map_map,
    List.any_map, List.any_eq_true]
  refine exists_congr fun p => and_congr_right fun _ => ?_
  simp only [Function.comp_apply, p.trim_text, Pattern.ofText_star p.plain, Pattern.accepts_iff,
    Pattern.fits_any_chars_iff]

def extensions : List Text :=
  [".css", ".less", ".sass", ".scss", ".styl", ".stylus"].map String.toList

theorem accepts_stylesheets (name : Text) :
    accepts stylesheets name = true ↔ ∃ s ∈ extensions, s <:+ name := by
  have hplain : ∀ s ∈ extensions, (∀ c ∈ s, c ∉ Pattern.marks) ∧ trimEnd s = s := by
    have hall : (extensions.all fun s => s.all (fun c => !Pattern.marks.contains c) && trimEnd s == s) = true := by decide
    simpa using hall
  have hmask : stylesheets =
      ['|'].intercalate ((extensions.pmap (fun s hs => SuffixPattern.bare s hs.1 hs.2) hplain).map (·.text)) := by
    simp only [List.map_pmap, SuffixPattern.text_bare, List.pmap_eq_map]
    decide
  rw [hmask, accepts_suffixes (by simp [extensions])]
  constructor
  · rintro ⟨p, hp, hsuffix⟩
    obtain ⟨s, hs, rfl⟩ := List.mem_pmap.1 hp
    exact ⟨s, hs, hsuffix⟩
  · rintro ⟨s, hs, hsuffix⟩
    exact ⟨_, List.mem_pmap.2 ⟨s, hs, rfl⟩, hsuffix⟩

/-- A bar joins what two masks accept, and a star before a suffix accepts just the names that end in
it, whatever blanks stand around the pattern. -/
theorem accepts_union_suffix (path : Path) :
    (∀ m₁ m₂, accepts (m₁ ++ '|' :: m₂) path.name = true ↔ accepts m₁ path.name = true ∨
      accepts m₂ path.name = true) ∧
    (∀ ps : List SuffixPattern, ps ≠ [] →
      (accepts (['|'].intercalate (ps.map (·.text))) path.name = true ↔
        ∃ p ∈ ps, p.suffix <:+ path.name)) ∧
    (accepts stylesheets path.name = true ↔ ∃ s ∈ extensions, s <:+ path.name) :=
  ⟨fun m₁ m₂ => by rw [accepts_append, Bool.or_eq_true], fun _ hne => accepts_suffixes hne _, accepts_stylesheets _⟩

/-- The name has the suffix twice, and the second pattern stands between blanks. -/
theorem accepts_union_suffix_twice : ∃ ps : List SuffixPattern, ps ≠ [] ∧
    ['|'].intercalate (ps.map (·.text)) = "*.css| *.min\t".toList ∧
      (∃ p ∈ ps, p.suffix <:+ (Path.ofText "css/a.min.min".toList).name) ∧
      accepts "*.css| *.min\t".toList (Path.ofText "css/a.min.min".toList).name = true := by
  let css : SuffixPattern := .bare ".css".toList (by simp [Pattern.marks]) (by decide)
  let min : SuffixPattern := ⟨" ".toList, ".min".toList, "\t".toList, by simp [isBlank], by simp [Pattern.marks], by decide,
    by simp [isBlank]⟩
  have hmask : ['|'].intercalate ([css, min].map (·.text)) = "*.css| *.min\t".toList := by decide
  have hsuffix : ∃ p ∈ [css, min], p.suffix <:+ (Path.ofText "css/a.min.min".toList).name :=
    ⟨min, by simp, by decide⟩
  refine ⟨[css, min], List.cons_ne_nil _ _, hmask, hsuffix, ?_⟩
  rw [← hmask]
  exact ((accepts_union_suffix _).2.1 _ (List.cons_ne_nil _ _)).2 hsuffix

end Mask

end Stylebook
