import Stylebook.Proofs.Files.Discovery
import Stylebook.Proofs.Guide.Order

/-!
# What discovery lists

* `Path.isBefore_iff` : paths are compared name by name, and names by code points;
* `Node.nodup_files` : no two files below a node have the same names;
* `Files.Linkless` : below every path that leads somewhere, paths go down a tree;
* `Discovery.Lists` : the list that one source contributes, said by its order and its members only;
  `Discovery.findIn_eq_ok_iff`, `Discovery.find_eq_ok_iff` : the files that are found are these
  lists, one after the other;
* `Node.Reordered` : a tree whose folders list their entries in another order;
  `Files.reordered_lookFrom` : paths lead to such trees in such trees.
-/

namespace Stylebook

open Text

/-! ## Order of paths -/

theorem isBefore_iff_lt (s t : Text) : Text.isBefore s t = true ↔ s < t := by
  have hlt : ∀ x y : Char, decide (x.toNat < y.toNat) = true ↔ id x < id y :=
    fun _ _ => decide_eq_true_iff
  have h := lex_iff_map_lt Function.injective_id hlt s t
  rwa [List.map_id, List.map_id] at h

theorem Path.isBefore_iff (p q : Path) : p.isBefore q = true ↔ p.names < q.names := by
  have h := lex_iff_map_lt Function.injective_id isBefore_iff_lt p.names q.names
  rwa [List.map_id, List.map_id] at h

/-! ## Files of a tree -/

namespace Node

variable {n m : Node} {es : List (Text × Node)} {names : List Text}

theorem map_fst_filesIn (es : List (Text × Node)) :
    (filesIn es).map (·.1) = es.flatMap fun e => (e.2.files.map (·.1)).map (e.1 :: ·) := by
  rw [filesIn_eq, List.map_flatMap]
  simp [Function.comp_def]

theorem nodup_files (hn : n.IsTree) : (n.files.map (·.1)).Nodup := by
  induction hn with
  | file bytes => simp [files]
  | folder distinct names trees ih =>
    rw [files, map_fst_filesIn, List.nodup_flatMap]
    refine ⟨fun e he => (ih e he).map fun _ _ h => List.tail_eq_of_cons_eq h, ?_⟩
    refine (List.pairwise_map.1 distinct).imp fun {d e} hne => ?_
    rintro names hd he
    obtain ⟨x, -, rfl⟩ := List.mem_map.1 hd
    obtain ⟨y, -, hy⟩ := List.mem_map.1 he
    exact hne (List.head_eq_of_cons_eq hy).symm

/-- A walk that never turns back does not depend on the folders above. -/
theorem walk_down (h : ['.', '.'] ∉ names) (above : List Node) (n : Node) :
    n.walk above names = n.walk [] names := by
  induction names generalizing above n with
  | nil => rfl
  | cons name names ih =>
    rw [List.mem_cons, not_or] at h
    cases n with
    | file bytes => rfl
    | folder es =>
      rw [walk_name (Ne.symm h.1), walk_name (Ne.symm h.1)]
      refine congrArg _ (funext fun node => ?_)
      rw [ih h.2, ih h.2 [Node.folder es]]

end Node

/-- Whatever a path leads to is a tree, and longer paths go down this tree. -/
structure Files.Linkless (files : Files) : Prop where
  isTree : ∀ {p : Path} {n : Node}, files p = some n → n.IsTree
  below : ∀ {p : Path} {n : Node} {names : List Text}, files p = some n → ['.', '.'] ∉ names →
    files (p.append names) = n.walk [] names

theorem Files.Lawful.linkless {files : Files} (h : files.Lawful) : files.Linkless where
  isTree := h.isTree
  below hp hnames := by
    obtain ⟨above, habove⟩ := h.append hp
    rw [habove, Node.walk_down hnames]

/-! ## The files of one source -/

namespace Discovery

variable {files : Files} {mask : Text} {source : Path} {part : List Found} {f : Found}

/-- The list that a source contributes: itself if it is a file, and of a folder the files at any
depth below it whose names fit the mask, each once and in the order of their paths. -/
inductive Lists (files : Files) (mask : Text) (source : Path) : List Found → Prop where
  | file {bytes : List UInt8} (leads : files source = some (.file bytes)) : Lists files mask source [⟨source, bytes⟩]
  | folder {es : List (Text × Node)} {part : List Found} (leads : files source = some (.folder es))
      (increasing : part.Pairwise fun a b => a.path.names < b.path.names)
      (members : ∀ f, f ∈ part ↔ ∃ names, ['.', '.'] ∉ names ∧ f.path = source.append names ∧
        files f.path = some (.file f.bytes) ∧ Mask.accepts mask f.path.name = true) :
      Lists files mask source part

theorem mem_filesBelow_iff (hfiles : files.Linkless) {es : List (Text × Node)}
    (hsource : files source = some (.folder es)) :
    f ∈ filesBelow mask source (.folder es) ↔ ∃ names, ['.', '.'] ∉ names ∧
      f.path = source.append names ∧
      files f.path = some (.file f.bytes) ∧ Mask.accepts mask f.path.name = true := by
  rw [mem_filesBelow, ← exists_and_right]
  refine exists_congr fun names => ?_
  rw [Node.mem_files_iff (hfiles.isTree hsource) []]
  constructor
  · rintro ⟨⟨⟨hup, hwalk⟩, hpath⟩, hmask⟩
    refine ⟨hup, hpath.symm, ?_, hmask⟩
    rw [← hpath, hfiles.below hsource hup, hwalk]
  · rintro ⟨hup, hpath, hfile, hmask⟩
    rw [hpath, hfiles.below hsource hup] at hfile
    exact ⟨⟨⟨hup, hfile⟩, hpath.symm⟩, hmask⟩

theorem filesBelow_eq_mergeSort (folder : Path) (node : Node) : filesBelow mask folder node =
    ((node.files.map fun f => { path := folder.append f.1, bytes := f.2 : Found }).filter fun f =>
      Mask.accepts mask f.path.name).mergeSort fun a b => decide (a.path.names ≤ b.path.names) := by
  have hle : (fun a b : Found => !b.path.isBefore a.path) = fun a b =>
      decide (a.path.names ≤ b.path.names) := by
    funext a b
    rw [Bool.eq_iff_iff, Bool.not_eq_true', ← Bool.not_eq_true, Path.isBefore_iff,
      not_lt, decide_eq_true_iff]
  rw [filesBelow, hle]

/-- Files below one folder have different paths, so that the sorted list is strictly increasing. -/
theorem pairwise_filesBelow {folder : Path} {node : Node} (hnode : node.IsTree) :
    (filesBelow mask folder node).Pairwise fun a b => a.path.names < b.path.names := by
  have hnodup : ((filesBelow mask folder node).map (·.path.names)).Nodup := by
    rw [filesBelow_eq_mergeSort]
    refine ((List.mergeSort_perm _ _).map _).nodup_iff.2 ?_
    refine (List.filter_sublist.map _).nodup ?_
    rw [List.map_map]
    have happend : (fun f : Found => f.path.names) ∘
        (fun f : List Text × List UInt8 => ({ path := folder.append f.1, bytes := f.2 } : Found)) =
          (folder.names ++ ·) ∘ (·.1) := rfl
    rw [happend, ← List.map_map]
    exact (Node.nodup_files hnode).map fun _ _ h => List.append_cancel_left h
  have hsorted := pairwise_mergeSort_key (fun f : Found => f.path.names)
    ((node.files.map fun f => { path := folder.append f.1, bytes := f.2 : Found }).filter fun f =>
      Mask.accepts mask f.path.name)
  rw [← filesBelow_eq_mergeSort] at hsorted
  exact (hsorted.and (List.pairwise_map.1 hnodup)).imp fun h => lt_of_le_of_ne h.1 h.2

/-- Two strictly increasing lists with the same members are one list. -/
theorem eq_of_increasing {xs ys : List Found}
    (hx : xs.Pairwise fun a b => a.path.names < b.path.names)
    (hy : ys.Pairwise fun a b => a.path.names < b.path.names) (h : ∀ f, f ∈ xs ↔ f ∈ ys) :
    xs = ys := by
  have hnodup : ∀ l : List Found, (l.Pairwise fun a b => a.path.names < b.path.names) → l.Nodup :=
    fun l hl => hl.imp fun hab heq => absurd (heq ▸ hab) (lt_irrefl _)
  have hperm : xs.Perm ys := (List.perm_ext_iff_of_nodup (hnodup xs hx) (hnodup ys hy)).2 h
  exact hperm.eq_of_pairwise (fun a b _ _ hab hba => absurd (hab.trans hba) (lt_irrefl _)) hx hy

theorem findIn_eq_ok_iff (hfiles : files.Linkless) :
    findIn files mask source = .ok part ↔ Lists files mask source part := by
  constructor
  · intro h
    unfold findIn at h
    split at h
    · cases h
    · rename_i bytes hfile
      cases h
      exact .file hfile
    · rename_i es hfolder
      cases h
      exact .folder hfolder (pairwise_filesBelow (hfiles.isTree hfolder)) fun f =>
        mem_filesBelow_iff hfiles hfolder
  · intro h
    cases h with
    | file leads => rw [findIn, leads]
    | folder leads increasing members =>
      rw [findIn, leads]
      refine congrArg Except.ok (eq_of_increasing (pairwise_filesBelow (hfiles.isTree leads)) increasing fun f => ?_)
      rw [mem_filesBelow_iff hfiles leads, members]

/-! ## The files of several sources -/

theorem find_eq_ok_iff (hfiles : files.Linkless) {sources : List Path} {found : List Found} :
    find files mask sources = .ok found ↔
      ∃ parts, List.Forall₂ (Lists files mask) sources parts ∧ parts.flatten = found := by
  induction sources generalizing found with
  | nil =>
    constructor
    · rintro ⟨⟩
      exact ⟨[], .nil, rfl⟩
    · rintro ⟨parts, hparts, rfl⟩
      rw [List.forall₂_nil_left_iff.1 hparts]
      rfl
  | cons source sources ih =>
    rw [find_cons_eq_ok_iff]
    constructor
    · rintro ⟨here, more, hhere, hmore, rfl⟩
      obtain ⟨parts, hparts, rfl⟩ := ih.1 hmore
      exact ⟨here :: parts, .cons ((findIn_eq_ok_iff hfiles).1 hhere) hparts, rfl⟩
    · rintro ⟨parts, hparts, rfl⟩
      cases hparts with
      | cons hhere hmore => exact ⟨_, _, (findIn_eq_ok_iff hfiles).2 hhere, ih.2 ⟨_, hmore, rfl⟩, rfl⟩

theorem findIn_of_missing (h : files source = none) :
    findIn files mask source = .error ⟨source⟩ := by
  rw [findIn, h]

theorem findIn_of_present (h : files source ≠ none) (mask : Text) :
    ∃ here, findIn files mask source = .ok here := by
  unfold findIn
  split
  · contradiction
  · exact ⟨_, rfl⟩
  · exact ⟨_, rfl⟩

/-- Discovery fails at the first source that does not exist. -/
theorem find_eq_error_iff {sources : List Path} {fault : Fault} :
    find files mask sources = .error fault ↔
      sources.find? (fun s => (files s).isNone) = some fault.source := by
  induction sources with
  | nil =>
    constructor
    · rintro ⟨⟩
    · rintro ⟨⟩
  | cons source sources ih =>
    rw [find]
    by_cases hsource : files source = none
    · rw [findIn_of_missing hsource, List.find?_cons_of_pos (by simp [hsource])]
      constructor
      · rintro ⟨⟩
        rfl
      · rintro ⟨⟩
        rfl
    · obtain ⟨here, hhere⟩ := findIn_of_present hsource mask
      rw [hhere, List.find?_cons_of_neg (by simpa using hsource), ← ih]
      cases find files mask sources with
      | error other => exact Iff.rfl
      | ok more =>
        constructor
        · rintro ⟨⟩
        · rintro ⟨⟩

end Discovery

/-! ## The order of entries -/

namespace Node

variable {n m : Node} {name : Text}

/-- The same tree, but for the order in which its folders list their entries. -/
inductive Reordered : Node → Node → Prop where
  | refl (n : Node) : Reordered n n
  | listed {es fs : List (Text × Node)} (perm : es.Perm fs) : Reordered (.folder es) (.folder fs)
  | inside {n m : Node} {before after : List (Text × Node)} {name : Text} (entry : Reordered n m) :
      Reordered (.folder (before ++ (name, n) :: after)) (.folder (before ++ (name, m) :: after))
  | trans {n m k : Node} (first : Reordered n m) (second : Reordered m k) : Reordered n k

theorem Reordered.file_iff (h : Reordered n m) (bytes : List UInt8) :
    n = .file bytes ↔ m = .file bytes := by
  induction h with
  | refl => exact Iff.rfl
  | listed => simp
  | inside => simp
  | trans _ _ ih₁ ih₂ => exact ih₁.trans ih₂

theorem Reordered.symm (h : Reordered n m) : Reordered m n := by
  induction h with
  | refl => exact .refl _
  | listed perm => exact .listed perm.symm
  | inside _ ih => exact .inside ih
  | trans _ _ ih₁ ih₂ => exact .trans ih₂ ih₁

theorem Reordered.isTree (h : Reordered n m) (hn : n.IsTree) : m.IsTree := by
  induction h with
  | refl => exact hn
  | listed perm =>
    cases hn with
    | folder distinct names trees =>
      exact .folder ((perm.map _).nodup_iff.1 distinct) (fun e he => names e (perm.mem_iff.2 he))
        fun e he => trees e (perm.mem_iff.2 he)
  | inside entry ih =>
    cases hn with
    | folder distinct names trees =>
      simp only [List.forall_mem_append, List.forall_mem_cons] at names trees
      refine .folder (by simpa using distinct) ?_ ?_
      · simp only [List.forall_mem_append, List.forall_mem_cons]
        exact names
      · simp only [List.forall_mem_append, List.forall_mem_cons]
        exact ⟨trees.1, ih trees.2.1, trees.2.2⟩
  | trans _ _ ih₁ ih₂ => exact ih₂ (ih₁ hn)

theorem rel_refl (x : Option Node) : Option.Rel Reordered x x := by
  cases x with
  | none => exact .none
  | some n => exact .some (.refl n)

theorem rel_trans {x y z : Option Node} (hxy : Option.Rel Reordered x y)
    (hyz : Option.Rel Reordered y z) : Option.Rel Reordered x z := by
  cases hxy with
  | none => exact hyz
  | some hxy =>
    cases hyz with
    | some hyz => exact .some (hxy.trans hyz)

/-- A name leads to the same entry, up to the order further down. -/
theorem Reordered.lookup (h : Reordered n m) (hn : n.IsTree) (name : Text) :
    Option.Rel Reordered (n.entries.lookup name) (m.entries.lookup name) := by
  induction h with
  | refl => exact rel_refl _
  | listed perm =>
    cases hn with
    | folder distinct names trees =>
      rename_i es fs
      have hlookup : es.lookup name = fs.lookup name := Option.ext fun node => by
        rw [lookup_eq_some_iff distinct, perm.mem_iff, ← lookup_eq_some_iff ((perm.map _).nodup_iff.1 distinct)]
      rw [entries, entries, hlookup]
      exact rel_refl _
  | inside entry ih =>
    rename_i before after other
    rw [entries, entries, List.lookup_append, List.lookup_append]
    cases before.lookup name with
    | some node => exact rel_refl _
    | none =>
      rw [List.lookup_cons, List.lookup_cons]
      split
      · exact .some entry
      · exact rel_refl _
  | trans first second ih₁ ih₂ => exact rel_trans (ih₁ hn) (ih₂ (first.isTree hn))

theorem Reordered.walk {above above' : List Node} {names : List Text}
    (h : List.Forall₂ Reordered (n :: above) (m :: above')) (htrees : ∀ a ∈ n :: above, a.IsTree) :
    Option.Rel Reordered (n.walk above names) (m.walk above' names) := by
  induction names generalizing n m above above' with
  | nil => exact .some (List.forall₂_cons.1 h).1
  | cons name names ih =>
    obtain ⟨hnm, habove⟩ := List.forall₂_cons.1 h
    cases n with
    | file bytes =>
      rw [(hnm.file_iff bytes).1 rfl]
      exact .none
    | folder es =>
      cases m with
      | file bytes => exact absurd ((hnm.file_iff bytes).2 rfl) (by simp)
      | folder fs =>
        by_cases hup : name = ['.', '.']
        · subst hup
          cases habove with
          | nil => exact .none
          | cons hparent hothers =>
            exact ih (.cons hparent hothers) fun a ha => htrees a (List.mem_cons_of_mem _ ha)
        · rw [walk_name hup, walk_name hup]
          have htree := htrees _ List.mem_cons_self
          have hentry := hnm.lookup htree name
          rw [entries, entries] at hentry
          generalize hes : es.lookup name = x, fs.lookup name = y at hentry ⊢
          cases hentry with
          | none => exact .none
          | some hnode =>
            refine ih (.cons hnode h) (List.forall_mem_cons.2 ⟨?_, htrees⟩)
            cases htree with
            | folder distinct names trees => exact trees _ ((lookup_eq_some_iff distinct).1 hes)

end Node

/-- Every path leads to the same tree, but for the order of entries. -/
def Files.Reordered (files files' : Files) : Prop :=
  ∀ p, Option.Rel Node.Reordered (files p) (files' p)

namespace Files

variable {files files' : Files} {mask : Text}

theorem reordered_lookFrom {above above' : List Node} {here here' : Node}
    (h : List.Forall₂ Node.Reordered (here :: above) (here' :: above'))
    (htrees : ∀ n ∈ here :: above, n.IsTree) :
    Files.Reordered (here.lookFrom above) (here'.lookFrom above') := by
  intro p
  unfold Node.lookFrom
  split
  · exact Node.Reordered.walk h htrees
  · exact .none

theorem Reordered.symm (h : files.Reordered files') : files'.Reordered files := by
  intro p
  have hp := h p
  generalize files p = x, files' p = y at hp ⊢
  cases hp with
  | none => exact .none
  | some hnm => exact .some hnm.symm

theorem Reordered.isNone_eq (h : files.Reordered files') (p : Path) :
    (files p).isNone = (files' p).isNone := by
  have hp := h p
  generalize files p = x, files' p = y at hp ⊢
  cases hp <;> rfl

theorem Reordered.file (h : files.Reordered files') {p : Path} {bytes : List UInt8}
    (hp : files p = some (.file bytes)) : files' p = some (.file bytes) := by
  have hrel := h p
  rw [hp] at hrel
  generalize files' p = y at hrel ⊢
  cases hrel with
  | some hnm => rw [(hnm.file_iff bytes).1 rfl]

theorem Reordered.folder (h : files.Reordered files') {p : Path} {es : List (Text × Node)}
    (hp : files p = some (.folder es)) : ∃ fs, files' p = some (.folder fs) := by
  have hrel := h p
  rw [hp] at hrel
  generalize files' p = y at hrel ⊢
  cases hrel with
  | some hnm =>
    rename_i m
    cases m with
    | file bytes => exact absurd ((hnm.file_iff bytes).2 rfl) (by simp)
    | folder fs => exact ⟨fs, rfl⟩

theorem Reordered.file_iff (h : files.Reordered files') {p : Path} {bytes : List UInt8} :
    files p = some (.file bytes) ↔ files' p = some (.file bytes) := ⟨h.file, h.symm.file⟩

end Files

namespace Discovery

variable {files files' : Files} {mask : Text}

/-- What a source contributes does not depend on the order of entries. -/
theorem Lists.reordered {source : Path} {part : List Found} (hlists : Lists files mask source part)
    (h : files.Reordered files') : Lists files' mask source part := by
  cases hlists with
  | file leads => exact .file (h.file leads)
  | folder leads increasing members =>
    obtain ⟨fs, hfs⟩ := h.folder leads
    exact .folder hfs increasing fun f => by simp only [members, h.file_iff]

theorem find_reordered (hfiles : files.Linkless) (hfiles' : files'.Linkless)
    (h : files.Reordered files') (sources : List Path) :
    find files' mask sources = find files mask sources := by
  cases hfind : find files mask sources with
  | error fault =>
    rw [find_eq_error_iff] at hfind ⊢
    simpa only [h.isNone_eq] using hfind
  | ok found =>
    obtain ⟨parts, hparts, rfl⟩ := (find_eq_ok_iff hfiles).1 hfind
    exact (find_eq_ok_iff hfiles').2 ⟨parts, hparts.imp fun _ _ hlists => hlists.reordered h, rfl⟩

/-- Discovery fails just at the first source that does not exist, and otherwise lists for each
source what belongs to it, in order and without repetitions, however the folders list their
entries. -/
theorem find_listings (hfiles : files.Linkless) (mask : Text) (sources : List Path) :
    ((∃ fault, find files mask sources = .error fault) ↔ ∃ source ∈ sources, files source = none) ∧
    (∀ fault, find files mask sources = .error fault → sources.find? (fun s => (files s).isNone) = some fault.source ∧
      fault.message = "Source directory not found: ".toList ++ fault.source.text) ∧
    (∀ found, find files mask sources = .ok found ↔
      ∃ parts, List.Forall₂ (Lists files mask) sources parts ∧ parts.flatten = found) ∧
    ∀ files' : Files, files'.Linkless → files.Reordered files' →
      find files' mask sources = find files mask sources := by
  refine ⟨?_, fun fault hfault => ⟨find_eq_error_iff.1 hfault, rfl⟩, fun found => find_eq_ok_iff hfiles,
    fun files' hfiles' h => find_reordered hfiles hfiles' h sources⟩
  simp only [find_eq_error_iff]
  constructor
  · rintro ⟨fault, hfault⟩
    exact ⟨fault.source, List.mem_of_find?_eq_some hfault, by simpa using List.find?_some hfault⟩
  · rintro ⟨source, hsource, hnone⟩
    have hsome : (sources.find? fun s => (files s).isNone).isSome = true :=
      List.find?_isSome.2 ⟨source, hsource, by simp [hnone]⟩
    obtain ⟨first, hfirst⟩ := Option.isSome_iff_exists.1 hsome
    exact ⟨⟨first⟩, hfirst⟩

/-- Name by name the file in the folder stands first; the texts of the two paths are in the other
order. -/
theorem find_listings_hidden :
    let inner : Node := .folder [(".x.css".toList, .file [])]
    let here : Node := .folder [("a".toList, inner), ("a b.css".toList, .file [])]
    let here' : Node := .folder [("a b.css".toList, .file []), ("a".toList, inner)]
    Files.Linkless here.look ∧
      find here.look "*.css".toList [.ofText ".".toList] =
        .ok [⟨.ofText "a/.x.css".toList, []⟩, ⟨.ofText "a b.css".toList, []⟩] ∧
      find here'.look "*.css".toList [.ofText ".".toList] =
          find here.look "*.css".toList [.ofText ".".toList] := by
  intro inner here here'
  have hparts : ∀ name ∈ [".x.css".toList, "a".toList, "a b.css".toList],
      Path.IsPart name ∧ name ≠ ['.', '.'] := by
    intro name hname
    simp only [List.mem_cons, List.not_mem_nil, or_false] at hname
    rcases hname with rfl | rfl | rfl <;> exact ⟨⟨by decide, by decide, by decide⟩, by decide⟩
  have hinner : inner.IsTree := by
    refine .folder (by simp) (fun e he => ?_) fun e he => ?_
    all_goals rw [List.mem_singleton.1 he]
    · exact hparts _ (by simp)
    · exact .file _
  have hhere : here.IsTree := by
    refine .folder (by decide) (fun e he => ?_) fun e he => ?_
    all_goals
      simp only [List.mem_cons, List.not_mem_nil, or_false] at he
      rcases he with rfl | rfl
    · exact hparts _ (by simp)
    · exact hparts _ (by simp)
    · exact hinner
    · exact .file _
  have hswap : Node.Reordered here here' := .listed (List.Perm.swap _ _ _)
  have hfiles : Files.Linkless here.look := (Files.lawful_lookFrom hhere (by simp)).linkless
  have hfiles' : Files.Linkless here'.look :=
    (Files.lawful_lookFrom (hswap.isTree hhere) (by simp)).linkless
  have hsame : Files.Reordered here.look here'.look :=
    Files.reordered_lookFrom (.cons hswap .nil) (by simpa using hhere)
  have hbelow : filesBelow "*.css".toList (.ofText ".".toList) here =
      [⟨.ofText "a/.x.css".toList, []⟩, ⟨.ofText "a b.css".toList, []⟩] :=
        List.mergeSort_of_pairwise (by decide)
  refine ⟨hfiles, ?_, (find_listings hfiles _ _).2.2.2 _ hfiles' hsame⟩
  exact find_cons_eq_ok_iff.2 ⟨filesBelow "*.css".toList (.ofText ".".toList) here, [], rfl, rfl, by
    rw [List.append_nil, hbelow]⟩

end Discovery

end Stylebook
