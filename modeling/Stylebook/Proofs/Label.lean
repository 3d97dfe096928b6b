import Mathlib.Data.List.Forall2
import Stylebook.Label
import Stylebook.Proofs.Text

/-!
# Laws of labels

* `after?_label` : a label is found where it is written, with what follows it; `after?_of_first` :
  and not where the text begins with another letter;
* `remove?_eq_none_iff` : a paragraph loses a label exactly when the label occurs in it;
* `leftover` : the paragraphs left once the first with each of some labels has been taken away;
* `extract_of_not_occurs`, `extract_append` : no paragraph is taken, or the first in which the label
  occurs, and all others stay (`extract_sublist`).
-/

namespace Stylebook.Label

open Text

variable {m : Option Matcher} {label : Text}

/-! ## Written labels -/

theorem sameLetter_self (c : Char) : sameLetter c c = true := beq_self_eq_true (caseKey c)

/-- A label in any case is passed letter by letter. -/
theorem afterHere?_of_forall₂ {written : Text}
    (h : List.Forall₂ (fun p c => sameLetter p c = true) label written) (rest : Text) :
    afterHere? label (written ++ ':' :: rest) = some (dropBlank rest) := by
  induction h with
  | nil => rfl
  | cons hpc _ ih => rw [List.cons_append, afterHere?, if_pos hpc, ih]

theorem afterExact?_of_afterHere? {t rest : Text} (h : afterHere? label t = some rest) :
    afterExact? label t = some rest := by
  cases t with
  | nil => rw [afterExact?, h]
  | cons c t => rw [afterExact?, h]

/-- A label is found where it is written. -/
theorem after?_label (m : Option Matcher) (label rest : Text) :
    after? m label (label ++ ':' :: rest) = some (dropBlank rest) := by
  have hself : List.Forall₂ (fun p c => sameLetter p c = true) label label :=
    List.forall₂_same.2 fun c _ => sameLetter_self c
  rw [after?, afterExact?_of_afterHere? (afterHere?_of_forall₂ hself rest)]

/-- A text that begins with another letter has not the label. -/
theorem after?_of_first {p c : Char} (hblank : isBlank c = false) (hc : sameLetter p c = false)
    (label t : Text) : after? none (p :: label) (c :: t) = none := by
  have hexact : afterExact? (p :: label) (c :: t) = none := by
    simp [afterExact?, afterHere?, hc, hblank]
  rw [after?, hexact, Option.bind_none]

/-! ## Paragraphs -/

theorem removeFrom?_eq_none_iff {ls : List Text} :
    removeFrom? m label ls = none ↔ ∀ l ∈ ls, after? m label l = none := by
  induction ls with
  | nil => simp [removeFrom?]
  | cons l ls ih =>
    rw [removeFrom?]
    cases h : after? m label l with
    | some value => simp [h]
    | none => simp [h, ih]

/-- A paragraph keeps all its lines exactly when the label does not occur in it. -/
theorem remove?_eq_none_iff {p : Text} : remove? m label p = none ↔ occurs m label p = false := by
  rw [remove?, Option.map_eq_none_iff, removeFrom?_eq_none_iff, occurs, List.any_eq_false]
  simp

/-- A paragraph whose first line has the label. -/
theorem remove?_unlines_cons {l : Text} {ls : List Text} (hl : '\n' ∉ l) (hls : ∀ k ∈ ls, '\n' ∉ k)
    {value : Text} (h : after? m label l = some value) :
    remove? m label (unlines (l :: ls)) =
      some (unlines (if value.isEmpty then ls else value :: ls)) := by
  have hlines : lines (unlines (l :: ls)) = l :: ls :=
    lines_unlines (List.cons_ne_nil _ _) fun k hk =>
      (List.mem_cons.1 hk).elim (fun h => h ▸ hl) (hls k)
  rw [remove?, hlines, removeFrom?, h, Option.map_some]

/-! ## Lists of paragraphs -/

/-- The paragraphs left after the first with each label, label by label, has been taken away. -/
def leftover (m : Option Matcher) (labels ps : List Text) : List Text :=
  labels.foldl (fun ps label => (extract m label ps).2) ps

theorem extract_cons_of_not_occurs {p : Text} (h : occurs m label p = false) (ps : List Text) :
    extract m label (p :: ps) = ((extract m label ps).1, p :: (extract m label ps).2) := by
  rw [extract, remove?_eq_none_iff.2 h]

/-- Without the label nothing is taken. -/
theorem extract_of_not_occurs {ps : List Text} (h : ∀ p ∈ ps, occurs m label p = false) :
    extract m label ps = (none, ps) := by
  induction ps with
  | nil => rfl
  | cons p ps ih =>
    rw [extract_cons_of_not_occurs (h p List.mem_cons_self), ih fun q hq => h q (List.mem_cons_of_mem _ hq)]

/-- The first paragraph with the label is taken, and all others stay. -/
theorem extract_append {p value : Text} (hp : remove? m label p = some value) {xs : List Text}
    (h : ∀ q ∈ xs, occurs m label q = false) (ys : List Text) :
    extract m label (xs ++ p :: ys) = (some value, xs ++ ys) := by
  induction xs with
  | nil => rw [List.nil_append, extract, hp, List.nil_append]
  | cons q xs ih =>
    rw [List.cons_append, extract_cons_of_not_occurs (h q List.mem_cons_self),
      ih fun k hk => h k (List.mem_cons_of_mem _ hk), List.cons_append]

theorem extract_sublist (m : Option Matcher) (label : Text) (ps : List Text) :
    (extract m label ps).2.Sublist ps := by
  induction ps with
  | nil => exact List.Sublist.slnil
  | cons p ps ih =>
    rw [extract]
    split
    · exact List.sublist_cons_self p ps
    · exact ih.cons_cons p

end Stylebook.Label
