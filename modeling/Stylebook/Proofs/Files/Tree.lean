import Stylebook.Files.Tree
import Stylebook.Proofs.Text

/-!
# Paths in file trees

* `Path.IsPart`, `Path.IsPlain` : what can stand between the slashes of a path, and relative paths
  made of it; `Path.ofText_text` : their texts read back, so different ones have different texts;
* `Node.IsTree` : a node in which every folder has different names, all of which lead somewhere;
* `Node.walk_append` : a path that goes on from a node is a walk from that node;
* `Node.mem_files_iff` : the files below a node are those that a walk without `..` leads to;
  `Node.append_mem_files`, from it : what is below a folder is below every folder above it;
* `Node.lookFrom` : the nodes that paths lead to from a folder inside other folders.
-/

namespace Stylebook

open Text

/-! ## Paths -/

namespace Path

/-- The name stands for itself between the slashes of a path. The name `..` does. -/
structure IsPart (name : Text) : Prop where
  ne_nil : name ≠ []
  no_slash : '/' ∉ name
  ne_dot : name ≠ ['.']

/-- A relative path, every name of which stands for itself. -/
structure IsPlain (p : Path) : Prop where
  root : p.root = []
  names : ∀ name ∈ p.names, IsPart name

theorem isPart_of_mem_ofText {t name : Text} (h : name ∈ (ofText t).names) : IsPart name := by
  obtain ⟨hpiece, hname⟩ := List.mem_filter.1 h
  simp only [Bool.and_eq_true, Bool.not_eq_true', List.isEmpty_eq_false_iff,
    bne_iff_ne, ne_eq] at hname
  refine ⟨hname.1, fun hslash => ?_, hname.2⟩
  have hcut := (of_mem_splitOnP hpiece hslash).2
  exact absurd hcut (by decide)

theorem rootOf_of_ne {c : Char} (hc : c ≠ '/') (t : Text) : rootOf (c :: t) = [] := by
  have hnone : (c :: t).takeWhile (· == '/') = [] := by simp [hc]
  rw [rootOf, hnone]
  rfl

/-- The text of a path reads back as the path. -/
theorem ofText_text {p : Path} (h : p.IsPlain) : ofText p.text = p := by
  obtain ⟨root, names⟩ := p
  obtain ⟨hroot, hnames⟩ := h
  dsimp only at hroot hnames
  subst hroot
  cases names with
  | nil => rfl
  | cons first rest =>
    have htext : text ⟨[], first :: rest⟩ = ['/'].intercalate (first :: rest) := by simp [text]
    have hfirst := hnames first List.mem_cons_self
    have hroot : rootOf (['/'].intercalate (first :: rest)) = [] := by
      obtain ⟨c, name, rfl⟩ := List.exists_cons_of_ne_nil hfirst.ne_nil
      have hc : c ≠ '/' := fun hc => hfirst.no_slash (hc ▸ List.mem_cons_self)
      cases rest with
      | nil =>
        rw [List.intercalate_singleton]
        exact rootOf_of_ne hc name
      | cons second rest =>
        rw [List.intercalate_cons_cons, List.cons_append, List.cons_append]
        exact rootOf_of_ne hc _
    have hcut : (['/'].intercalate (first :: rest)).splitOn '/' = first :: rest :=
      List.splitOn_intercalate '/' (fun name hname => (hnames name hname).no_slash) (List.cons_ne_nil _ _)
    rw [htext, ofText, hroot, hcut, List.filter_eq_self.2]
    intro name hname
    have hpart := hnames name hname
    simp [hpart.ne_nil, hpart.ne_dot]

theorem IsPlain.append {p : Path} (h : p.IsPlain) {names : List Text}
    (hnames : ∀ name ∈ names, IsPart name) : (p.append names).IsPlain where
  root := h.root
  names name hname := by
    rcases List.mem_append.1 hname with hname | hname
    · exact h.names name hname
    · exact hnames name hname

@[simp] theorem append_nil (p : Path) : p.append [] = p := by
  rw [append, List.append_nil]

theorem append_append (p : Path) (xs ys : List Text) :
    (p.append xs).append ys = p.append (xs ++ ys) := by
  rw [append, append, append, List.append_assoc]

end Path

/-! ## Trees -/

namespace Node

/-- The names of one folder are different, and each stands for itself in a path and is not `..`. -/
inductive IsTree : Node → Prop where
  | file (bytes : List UInt8) : IsTree (.file bytes)
  | folder {es : List (Text × Node)} (distinct : (es.map (·.1)).Nodup)
      (names : ∀ e ∈ es, Path.IsPart e.1 ∧ e.1 ≠ ['.', '.']) (trees : ∀ e ∈ es, e.2.IsTree) :
        IsTree (.folder es)

variable {n m : Node} {es : List (Text × Node)} {name : Text} {names : List Text} {bytes : List UInt8}

theorem filesIn_eq (es : List (Text × Node)) :
    filesIn es = es.flatMap fun e => e.2.files.map fun f => (e.1 :: f.1, f.2) := by
  induction es with
  | nil => rfl
  | cons e es ih => rw [filesIn, ih, List.flatMap_cons]

theorem nil_mem_files : ([], bytes) ∈ n.files ↔ n = .file bytes := by
  cases n with
  | file bs => simp [files, eq_comm]
  | folder es => simp [files, filesIn_eq]

theorem cons_mem_files : (name :: names, bytes) ∈ (folder es).files ↔
    ∃ node, (name, node) ∈ es ∧ (names, bytes) ∈ node.files := by
  rw [files, filesIn_eq, List.mem_flatMap]
  constructor
  · rintro ⟨⟨x, node⟩, he, hf⟩
    obtain ⟨⟨rest, bs⟩, hmem, heq⟩ := List.mem_map.1 hf
    cases heq
    exact ⟨node, he, hmem⟩
  · rintro ⟨node, he, hf⟩
    exact ⟨(name, node), he, List.mem_map.2 ⟨(names, bytes), hf, rfl⟩⟩

/-- Among different names a look-up finds just the nodes that are there. -/
theorem lookup_eq_some_iff (h : (es.map (·.1)).Nodup) {node : Node} :
    es.lookup name = some node ↔ (name, node) ∈ es := by
  induction es with
  | nil => simp
  | cons e es ih =>
    obtain ⟨x, other⟩ := e
    rw [List.map_cons, List.nodup_cons] at h
    by_cases hx : name = x
    · subst hx
      have hnot : (name, node) ∉ es := fun hmem => h.1 (List.mem_map.2 ⟨_, hmem, rfl⟩)
      simp [hnot, eq_comm]
    · have hne : (name == x) = false := by simpa using hx
      rw [List.lookup_cons, hne, ih h.2]
      simp [hx]

/-! ## Walks -/

theorem walk_name (h : name ≠ ['.', '.']) (above : List Node) (es : List (Text × Node))
    (rest : List Text) :
    walk above (.folder es) (name :: rest) =
      (es.lookup name).bind fun node => walk (.folder es :: above) node rest := by
  have hne : (name == ['.', '.']) = false := by simpa using h
  simp only [walk, hne, Bool.false_eq_true, if_false]
  cases es.lookup name <;> rfl

/-- A walk from a node where another walk has ended is the rest of one walk. -/
theorem walk_append {above : List Node} {xs : List Text} (h : walk above n xs = some m) :
    ∃ above', ∀ ys, walk above n (xs ++ ys) = walk above' m ys := by
  induction xs generalizing above n with
  | nil =>
    cases h
    exact ⟨above, fun _ => rfl⟩
  | cons x xs ih =>
    cases n with
    | file bs => exact absurd h (by simp [walk])
    | folder es =>
      by_cases hx : x = ['.', '.']
      · subst hx
        cases above with
        | nil => exact absurd h (by simp [walk])
        | cons parent others =>
          have hparent : walk others parent xs = some m := h
          exact ih hparent
      · rw [walk_name hx] at h
        obtain ⟨node, hnode, h⟩ := Option.bind_eq_some_iff.1 h
        obtain ⟨above', hrest⟩ := ih h
        refine ⟨above', fun ys => ?_⟩
        rw [List.cons_append, walk_name hx, hnode, Option.bind_some, hrest]

theorem isTree_of_walk {above : List Node} (hn : n.IsTree) (habove : ∀ a ∈ above, a.IsTree)
    (h : walk above n names = some m) : m.IsTree := by
  induction names generalizing above n with
  | nil =>
    cases h
    exact hn
  | cons x xs ih =>
    cases hn with
    | file bs => exact absurd h (by simp [walk])
    | folder distinct hnames trees =>
      rename_i es
      by_cases hx : x = ['.', '.']
      · subst hx
        cases above with
        | nil => exact absurd h (by simp [walk])
        | cons parent others =>
          exact ih (habove parent List.mem_cons_self) (fun a ha => habove a (List.mem_cons_of_mem _ ha)) h
      · rw [walk_name hx] at h
        obtain ⟨node, hnode, h⟩ := Option.bind_eq_some_iff.1 h
        refine ih (trees _ ((lookup_eq_some_iff distinct).1 hnode)) (fun a ha => ?_) h
        rcases List.mem_cons.1 ha with rfl | ha
        · exact .folder distinct hnames trees
        · exact habove a ha

/-- The files below a node are those that a walk down from it leads to. -/
theorem mem_files_iff (hn : n.IsTree) (above : List Node) :
    (names, bytes) ∈ n.files ↔ ['.', '.'] ∉ names ∧ walk above n names = some (.file bytes) := by
  induction names generalizing above n with
  | nil => simp [nil_mem_files, walk]
  | cons x xs ih =>
    cases hn with
    | file bs => simp [files, walk]
    | folder distinct hnames trees =>
      rename_i es
      rw [cons_mem_files, List.mem_cons, not_or]
      constructor
      · rintro ⟨node, he, hf⟩
        have hx : x ≠ ['.', '.'] := (hnames _ he).2
        obtain ⟨hup, hwalk⟩ := (ih (trees _ he) (.folder es :: above)).1 hf
        refine ⟨⟨hx.symm, hup⟩, ?_⟩
        rw [walk_name hx, (lookup_eq_some_iff distinct).2 he, Option.bind_some, hwalk]
      · rintro ⟨⟨hx, hup⟩, hwalk⟩
        rw [walk_name (Ne.symm hx)] at hwalk
        obtain ⟨node, hnode, hwalk⟩ := Option.bind_eq_some_iff.1 hwalk
        have he := (lookup_eq_some_iff distinct).1 hnode
        exact ⟨node, he, (ih (trees _ he) _).2 ⟨hup, hwalk⟩⟩

theorem isPart_of_mem_files (hn : n.IsTree) (h : (names, bytes) ∈ n.files) :
    ∀ x ∈ names, Path.IsPart x := by
  induction names generalizing n with
  | nil => simp
  | cons x xs ih =>
    cases hn with
    | file bs => exact absurd h (by simp [files])
    | folder distinct hnames trees =>
      obtain ⟨node, he, hf⟩ := cons_mem_files.1 h
      intro y hy
      rcases List.mem_cons.1 hy with rfl | hy
      · exact (hnames _ he).1
      · exact ih (trees _ he) hf y hy

/-- What is below a folder is below every folder above it. -/
theorem append_mem_files (hn : n.IsTree) (hm : m.IsTree) {above : List Node} {xs : List Text}
    (hup : ['.', '.'] ∉ xs) (hwalk : walk above n xs = some m) (hf : (names, bytes) ∈ m.files) :
    (xs ++ names, bytes) ∈ n.files := by
  obtain ⟨above', hrest⟩ := walk_append hwalk
  obtain ⟨hup', hwalk'⟩ := (mem_files_iff hm above').1 hf
  rw [mem_files_iff hn above, hrest, hwalk', List.mem_append, not_or]
  exact ⟨⟨hup, hup'⟩, rfl⟩

/-- The node that a path leads to from a folder that lies in the given folders, the innermost first.
Only relative paths lead anywhere. -/
def lookFrom (above : List Node) (here : Node) (p : Path) : Option Node :=
  if p.root.isEmpty then here.walk above p.names else none

theorem look_eq_lookFrom (root : Node) : root.look = lookFrom [] root := rfl

end Node

end Stylebook
