import Stylebook.Files.Discovery
import Stylebook.Proofs.Files.Tree

/-!
# Files that are found

* `Files.Lawful` : files as folders without links show them; `Files.lawful_lookFrom` : a folder
  inside others is such;
* `Discovery.mem_filesBelow`, `Discovery.mem_find` : the files found below a folder, and in several
  sources;
* `Discovery.path_of_mem_findIn` : the path of a file that was found leads to it, so it decides its
  bytes;
* `Discovery.findIn_below` : a source below a folder adds no file that the folder does not give.
-/

namespace Stylebook

open Text

/-- Only relative paths lead anywhere, and a path that goes on from a node is a walk from there. -/
structure Files.Lawful (files : Files) : Prop where
  root : ∀ {p : Path} {n : Node}, files p = some n → p.root = []
  isTree : ∀ {p : Path} {n : Node}, files p = some n → n.IsTree
  append : ∀ {p : Path} {n : Node}, files p = some n →
    ∃ above, ∀ names, files (p.append names) = n.walk above names

theorem Files.lawful_lookFrom {above : List Node} {here : Node} (hhere : here.IsTree)
    (habove : ∀ a ∈ above, a.IsTree) : Files.Lawful (here.lookFrom above) := by
  have hwalk : ∀ {p : Path} {n : Node}, here.lookFrom above p = some n → p.root = [] ∧
      here.walk above p.names = some n := by
    intro p n h
    unfold Node.lookFrom at h
    split at h
    · rename_i hroot
      exact ⟨List.isEmpty_iff.1 hroot, h⟩
    · exact absurd h (by simp)
  refine ⟨fun h => (hwalk h).1, fun h => Node.isTree_of_walk hhere habove (hwalk h).2, fun {p n} h => ?_⟩
  obtain ⟨hroot, h⟩ := hwalk h
  obtain ⟨above', hrest⟩ := Node.walk_append h
  refine ⟨above', fun names => ?_⟩
  rw [← hrest, Node.lookFrom, Path.append, if_pos (List.isEmpty_iff.2 hroot)]

namespace Discovery

variable {files : Files} {mask : Text} {found here : List Found} {f : Found}

theorem mem_filesBelow {folder : Path} {node : Node} :
    f ∈ filesBelow mask folder node ↔ (∃ names, (names, f.bytes) ∈ node.files ∧
      folder.append names = f.path) ∧ Mask.accepts mask f.path.name = true := by
  unfold filesBelow
  rw [List.mem_mergeSort, List.mem_filter, List.mem_map]
  refine and_congr_left fun _ => ?_
  constructor
  · rintro ⟨⟨names, bytes⟩, hmem, rfl⟩
    exact ⟨names, hmem, rfl⟩
  · rintro ⟨names, hmem, hpath⟩
    exact ⟨(names, f.bytes), hmem, by rw [hpath]⟩

/-- The files of several sources are those of the first and then those of the others. -/
theorem find_cons_eq_ok_iff {source : Path} {rest : List Path} :
    find files mask (source :: rest) = .ok found ↔
      ∃ here more, findIn files mask source = .ok here ∧ find files mask rest = .ok more ∧
      here ++ more = found := by
  rw [find]
  cases findIn files mask source with
  | error fault =>
    constructor
    · intro h
      cases h
    · rintro ⟨here, more, h, -⟩
      cases h
  | ok here =>
    cases find files mask rest with
    | error fault =>
      constructor
      · intro h
        cases h
      · rintro ⟨here, more, -, h, -⟩
        cases h
    | ok more =>
      constructor
      · intro h
        cases h
        exact ⟨here, more, rfl, rfl, rfl⟩
      · rintro ⟨_, _, ⟨⟩, ⟨⟩, rfl⟩
        rfl

theorem find_append {xs ys : List Path} {more : List Found} (hx : find files mask xs = .ok found)
    (hy : find files mask ys = .ok more) : find files mask (xs ++ ys) = .ok (found ++ more) := by
  induction xs generalizing found with
  | nil =>
    cases hx
    exact hy
  | cons x xs ih =>
    obtain ⟨here, rest, hhere, hrest, rfl⟩ := find_cons_eq_ok_iff.1 hx
    exact find_cons_eq_ok_iff.2 ⟨here, rest ++ more, hhere, ih hrest,
      (List.append_assoc _ _ _).symm⟩

/-- The files found in several sources are those found in one of them. -/
theorem mem_find {sources : List Path} (h : find files mask sources = .ok found) :
    f ∈ found ↔ ∃ source ∈ sources, ∃ here, findIn files mask source = .ok here ∧ f ∈ here := by
  induction sources generalizing found with
  | nil =>
    cases h
    simp
  | cons x xs ih =>
    obtain ⟨here, rest, hhere, hrest, rfl⟩ := find_cons_eq_ok_iff.1 h
    rw [List.mem_append, List.exists_mem_cons_iff, ih hrest, hhere]
    simp

/-- A file that was found is at its path, which goes on from the source with names that stand for
themselves. -/
theorem path_of_mem_findIn (hfiles : Files.Lawful files) {source : Path}
    (h : findIn files mask source = .ok here) (hf : f ∈ here) :
    files f.path = some (.file f.bytes) ∧ ∃ names, f.path = source.append names ∧
      ∀ name ∈ names, Path.IsPart name := by
  unfold findIn at h
  split at h
  · exact absurd h (by simp)
  · rename_i bytes hfile
    cases h
    rw [List.mem_singleton.1 hf]
    exact ⟨hfile, [], by simp, by simp⟩
  · rename_i es hfolder
    cases h
    obtain ⟨⟨names, hmem, hpath⟩, -⟩ := mem_filesBelow.1 hf
    have htree := hfiles.isTree hfolder
    obtain ⟨above, hwalk⟩ := hfiles.append hfolder
    refine ⟨?_, names, hpath.symm, Node.isPart_of_mem_files htree hmem⟩
    rw [← hpath, hwalk]
    exact ((Node.mem_files_iff htree above).1 hmem).2

/-- A folder below another one, or a file below it whose name fits the mask, gives files that the
other gives. -/
theorem findIn_below (hfiles : Files.Lawful files) {folder : Path} {es : List (Text × Node)}
    (hfolder : files folder = some (.folder es)) {names : List Text} (hup : ['.', '.'] ∉ names)
    (hsource : (∃ es', files (folder.append names) = some (.folder es')) ∨
      (∃ bytes, files (folder.append names) = some (.file bytes)) ∧
      Mask.accepts mask (folder.append names).name = true) :
    ∃ here, findIn files mask (folder.append names) = .ok here ∧
      here ⊆ filesBelow mask folder (.folder es) := by
  have htree := hfiles.isTree hfolder
  obtain ⟨above, hwalk⟩ := hfiles.append hfolder
  rcases hsource with ⟨es', hes'⟩ | ⟨⟨bytes, hbytes⟩, haccepts⟩
  · refine ⟨filesBelow mask (folder.append names) (.folder es'), by rw [findIn, hes'], fun f hf => ?_⟩
    obtain ⟨⟨more, hmem, hpath⟩, haccepts⟩ := mem_filesBelow.1 hf
    have hbelow := Node.append_mem_files htree (hfiles.isTree hes') hup (hwalk names ▸ hes') hmem
    exact mem_filesBelow.2 ⟨⟨names ++ more, hbelow, by rw [← hpath, Path.append_append]⟩, haccepts⟩
  · refine ⟨[⟨folder.append names, bytes⟩], by rw [findIn, hbytes], fun f hf => ?_⟩
    rw [List.mem_singleton.1 hf]
    have hbelow := (Node.mem_files_iff htree above).2 ⟨hup, hwalk names ▸ hbytes⟩
    exact mem_filesBelow.2 ⟨⟨names, hbelow, rfl⟩, haccepts⟩

end Discovery

end Stylebook
