import Stylebook.Proofs.Files.Discovery
import Stylebook.Proofs.Guide.Source
import Stylebook.Proofs.OrderedMap

/-!
# Sources that overlap

A file can be found several times, but a guide takes it once: its path has one text however it was
reached, and the texts are kept by path.

* `Discovery.textNames` : the texts of the paths of files, in the order in which they were found;
* `Discovery.Named` : these texts lead to the files; `Discovery.named_of_find` : so do those of
  files that were found;
* `Discovery.Named.entries_contents` : the contents have each of these names once, in the order of
  first discovery, with the text there; `Discovery.Named.contents_append` : files that were found
  before change nothing in it;
* `Discovery.find_concat_below` : a source below a folder that is a source gives only such files.
-/

namespace Stylebook

open Text

namespace Discovery

variable {files : Files} {mask : Text} {found more : List Found}

/-- The texts of the paths of files that are text, in the order in which these were found. -/
def textNames (found : List Found) : List Text :=
  (found.filter fun f => (contentOf? f.bytes).isSome).map (·.path.text)

def namedText? (f : Found) : Option (Text × Text) :=
  (contentOf? f.bytes).map fun t => (f.path.text, t)

def textAt (files : Files) (name : Text) : Text :=
  match files (Path.ofText name) with
  | some (.file bytes) => (contentOf? bytes).getD []
  | _ => []

/-! ## Contents -/

theorem contents_eq_ofList (found : List Found) :
    (contents found).1 = OrderedMap.ofList (found.filterMap namedText?) := by
  unfold contents
  induction found using List.reverseRecOn with
  | nil => rfl
  | append_singleton found f ih =>
    rw [List.foldl_append, List.filterMap_append, OrderedMap.ofList, List.foldl_append,
      ← OrderedMap.ofList, ← ih, List.filterMap_cons, List.filterMap_nil, namedText?]
    dsimp only [List.foldl_cons, List.foldl_nil]
    cases contentOf? f.bytes <;> rfl

theorem map_fst_namedText? (found : List Found) :
    (found.filterMap namedText?).map (·.1) = textNames found := by
  unfold textNames
  induction found with
  | nil => rfl
  | cons f found ih =>
    rw [List.filterMap_cons, List.filter_cons, namedText?]
    cases contentOf? f.bytes with
    | none => exact ih
    | some t => exact congrArg (f.path.text :: ·) ih

/-- The texts of the paths of files lead to these files. -/
def Named (files : Files) (found : List Found) : Prop :=
  ∀ f ∈ found, files (Path.ofText f.path.text) = some (.file f.bytes)

theorem Named.text_eq (h : Named files found) :
    ∀ p ∈ found.filterMap namedText?, p.2 = textAt files p.1 := by
  intro p hp
  obtain ⟨f, hf, hp⟩ := List.mem_filterMap.1 hp
  obtain ⟨t, ht, rfl⟩ := Option.map_eq_some_iff.1 hp
  rw [textAt, h f hf]
  exact (congrArg (Option.getD · []) ht).symm

theorem Named.entries_contents (h : Named files found) :
    (contents found).1.entries = (textNames found).eraseDups.map fun name =>
      (name, textAt files name) := by
  rw [contents_eq_ofList, OrderedMap.entries_ofList h.text_eq, map_fst_namedText?]

theorem Named.mem_entries_contents (h : Named files found) {name text : Text} :
    (name, text) ∈ (contents found).1.entries ↔ ∃ f ∈ found, f.path.text = name ∧
      contentOf? f.bytes = some text := by
  have hpairs : (name, text) ∈ (contents found).1.entries ↔
      (name, text) ∈ found.filterMap namedText? := by
    rw [h.entries_contents, ← map_fst_namedText?, List.mem_map]
    constructor
    · rintro ⟨_, hname, ⟨⟩⟩
      obtain ⟨p, hp, rfl⟩ := List.mem_map.1 (List.mem_eraseDups.1 hname)
      rw [← h.text_eq p hp]
      exact hp
    · intro hp
      exact ⟨name, List.mem_eraseDups.2 (List.mem_map_of_mem hp), by rw [← h.text_eq _ hp]⟩
  rw [hpairs, List.mem_filterMap]
  simp only [namedText?, Option.map_eq_some_iff, Prod.mk.injEq]
  constructor
  · rintro ⟨f, hf, t, ht, hname, rfl⟩
    exact ⟨f, hf, hname, ht⟩
  · rintro ⟨f, hf, hname, ht⟩
    exact ⟨f, hf, text, ht, hname, rfl⟩

/-- Files that were found before change nothing. -/
theorem Named.contents_append (h : Named files found) (hmore : more ⊆ found) :
    (contents (found ++ more)).1 = (contents found).1 := by
  have hboth : Named files (found ++ more) := fun f hf => by
    rcases List.mem_append.1 hf with hf | hf
    · exact h f hf
    · exact h f (hmore hf)
  have hnames : textNames more ⊆ textNames found := List.map_subset _ (List.filter_subset _ hmore)
  have htextNames : textNames (found ++ more) = textNames found ++ textNames more := by
    rw [textNames, List.filter_append, List.map_append, textNames, textNames]
  have hentries : (contents (found ++ more)).1.entries = (contents found).1.entries := by
    rw [h.entries_contents, hboth.entries_contents, htextNames, eraseDups_append_of_subset hnames]
  exact congrArg OrderedMap.mk hentries

/-! ## Discovery -/

/-- The path of a file that was found reads back from its text, so the text leads to the file. -/
theorem named_of_find (hfiles : Files.Lawful files) {ds : List Text}
    (h : find files mask (ds.map Path.ofText) = .ok found) : Named files found := by
  intro f hf
  obtain ⟨source, hsource, here, hhere, hf⟩ := (mem_find h).1 hf
  obtain ⟨d, -, rfl⟩ := List.mem_map.1 hsource
  obtain ⟨hfile, names, hpath, hnames⟩ := path_of_mem_findIn hfiles hhere hf
  have hplain : f.path.IsPlain := by
    have hroot : (Path.ofText d).root = [] := by
      have hroot := hfiles.root hfile
      rw [hpath] at hroot
      exact hroot
    rw [hpath]
    exact Path.IsPlain.append ⟨hroot, fun _ => Path.isPart_of_mem_ofText⟩ hnames
  rw [Path.ofText_text hplain, hfile]

/-- One more source below a folder that is a source finds nothing new. -/
theorem find_concat_below (hfiles : Files.Lawful files) {sources : List Path}
    (h : find files mask sources = .ok found) {folder : Path} (hmem : folder ∈ sources)
    {es : List (Text × Node)} (hfolder : files folder = some (.folder es)) {names : List Text}
    (hup : ['.', '.'] ∉ names)
    (hsource : (∃ es', files (folder.append names) = some (.folder es')) ∨
      (∃ bytes, files (folder.append names) = some (.file bytes)) ∧
      Mask.accepts mask (folder.append names).name = true) :
    ∃ more, find files mask (sources ++ [folder.append names]) = .ok (found ++ more) ∧
      more ⊆ found := by
  obtain ⟨more, hmore, hbelow⟩ := findIn_below hfiles hfolder hup hsource
  have hlast : find files mask [folder.append names] = .ok more :=
    find_cons_eq_ok_iff.2 ⟨more, [], hmore, rfl, List.append_nil more⟩
  refine ⟨more, find_append h hlast, fun f hf => ?_⟩
  exact (mem_find h).2 ⟨folder, hmem, _, by rw [findIn, hfolder], hbelow hf⟩

end Discovery

namespace Guide

open Discovery

theorem ofTree_of_find {r : Reader} {files : Files} {mask : Text} {sources : List Path} {found : List Found}
    (h : find files mask sources = .ok found) :
    let a := read r ((contents found).1.entries.map fun e => ⟨some e.1, e.2⟩)
    ofTree r files mask sources = .ok (a.1, (contents found).2 ++ a.2) := by
  rw [ofTree, h]
  rfl

theorem exists_find_of_ofTree {r : Reader} {files : Files} {mask : Text} {sources : List Path}
    {a : Guide × List Warning} (h : ofTree r files mask sources = .ok a) :
    ∃ found, find files mask sources = .ok found ∧
      a.1 = (read r ((contents found).1.entries.map fun e => ⟨some e.1, e.2⟩)).1 := by
  cases hfound : find files mask sources with
  | error fault =>
    rw [ofTree, hfound] at h
    cases h
  | ok found =>
    rw [ofTree_of_find hfound] at h
    cases h
    exact ⟨found, rfl, rfl⟩

/-- The texts that were found are read once each, in the order of first discovery, so that one more
source below a folder that is a source already leaves the guide as it is. -/
theorem ofTree_overlapping (r : Reader) (mask : Text) (ds : List Text) {above : List Node}
    {here : Node} (htrees : ∀ n ∈ here :: above, n.IsTree) {g : Guide} {ws : List Warning}
    (h : ofTree r (here.lookFrom above) mask (ds.map Path.ofText) = .ok (g, ws)) :
    (∃ found, find (here.lookFrom above) mask (ds.map Path.ofText) = .ok found ∧
      (contents found).1.keys = (textNames found).eraseDups ∧ (contents found).1.keys.Nodup ∧
      (∀ name text, (name, text) ∈ (contents found).1.entries ↔
        ∃ f ∈ found, f.path.text = name ∧ contentOf? f.bytes = some text) ∧
      g.sections = (contents found).1.entries.flatMap (fun e => r.sheet e.2) ∧
      g.files = sortTexts (contents found).1.keys) ∧
    ∀ d e extension, e ∈ ds → (∃ es, here.lookFrom above (.ofText e) = some (.folder es)) →
      (Path.ofText d).names = (Path.ofText e).names ++ extension → ['.', '.'] ∉ extension →
      ((∃ es, here.lookFrom above (.ofText d) = some (.folder es)) ∨
        (∃ bytes, here.lookFrom above (.ofText d) = some (.file bytes)) ∧
          Mask.accepts mask (Path.ofText d).name = true) →
      ∃ ws', ofTree r (here.lookFrom above) mask ((ds ++ [d]).map Path.ofText) = .ok (g, ws') := by
  have hfiles : Files.Lawful (here.lookFrom above) :=
    Files.lawful_lookFrom (htrees here List.mem_cons_self) fun a ha =>
      htrees a (List.mem_cons_of_mem _ ha)
  obtain ⟨found, hfind, rfl⟩ := exists_find_of_ofTree h
  have hnamed := named_of_find hfiles hfind
  have hkeys : (contents found).1.keys = (textNames found).eraseDups := by
    rw [OrderedMap.keys, hnamed.entries_contents, List.map_map]
    exact List.map_id _
  have hread : (read r ((contents found).1.entries.map fun e => ⟨some e.1, e.2⟩)).1.files =
      sortTexts (contents found).1.keys := by
    rw [read_files, List.filterMap_map, OrderedMap.keys, ← List.filterMap_eq_map]
    rfl
  refine ⟨⟨found, hfind, hkeys, hkeys ▸ nodup_eraseDups _, fun _ _ => hnamed.mem_entries_contents,
    by rw [read_sections, List.flatMap_map], hread⟩, ?_⟩
  rintro d e extension he ⟨es, hes⟩ hnames hup hd
  have hroot : (Path.ofText d).root = [] := by
    rcases hd with ⟨_, hd⟩ | ⟨⟨_, hd⟩, -⟩
    · exact hfiles.root hd
    · exact hfiles.root hd
  have happend : Path.ofText d = (Path.ofText e).append extension := by
    rw [Path.append, hfiles.root hes, ← hnames, ← hroot]
  rw [happend] at hd
  obtain ⟨more, hmore, hold⟩ := find_concat_below hfiles hfind (List.mem_map_of_mem he) hes hup hd
  rw [List.map_append, List.map_singleton, happend, ofTree_of_find hmore,
    hnamed.contents_append hold]
  exact ⟨_, rfl⟩

/-- A folder in the folder that is read, as a second source. -/
theorem ofTree_overlapping_nested :
    let sheet (t : String) : Node := .file (t.toList.map (·.toNat.toUInt8))
    let here : Node := .folder [("b".toList, .folder [("c.css".toList, sheet "// Styleguide 2")]),
      ("a.css".toList, sheet "// Styleguide 1")]
    let r := Reader.ofOptions {} none none
    (∀ n ∈ [here], n.IsTree) ∧ ∃ g ws ws',
      ofTree r here.look "*.css".toList [.ofText ".".toList] = .ok (g, ws) ∧
      ofTree r here.look "*.css".toList [.ofText ".".toList, .ofText "./b/".toList] =
      .ok (g, ws') := by
  intro sheet here r
  have hnames : ∀ name ∈ ["a.css".toList, "b".toList, "c.css".toList],
      Path.IsPart name ∧ name ≠ ['.', '.'] := by
    intro name hname
    simp only [List.mem_cons, List.not_mem_nil, or_false] at hname
    rcases hname with rfl | rfl | rfl <;> exact ⟨⟨by decide, by decide, by decide⟩, by decide⟩
  have hinner : (Node.folder [("c.css".toList, sheet "// Styleguide 2")]).IsTree := by
    refine .folder (by simp) (fun e he => ?_) fun e he => ?_
    all_goals rw [List.mem_singleton.1 he]
    · exact hnames _ (by simp)
    · exact .file _
  have hhere : here.IsTree := by
    refine .folder (by decide) (fun e he => ?_) fun e he => ?_
    all_goals
      simp only [List.mem_cons, List.not_mem_nil, or_false] at he
      rcases he with rfl | rfl
    · exact hnames _ (by simp)
    · exact hnames _ (by simp)
    · exact hinner
    · exact .file _
  have htrees : ∀ n ∈ [here], n.IsTree := fun n hn => List.mem_singleton.1 hn ▸ hhere
  have hfind : find (here.lookFrom []) "*.css".toList [.ofText ".".toList] = .ok _ := rfl
  have hbelow := (ofTree_overlapping r "*.css".toList [".".toList] htrees (ofTree_of_find hfind)).2 "./b/".toList
    ".".toList ["b".toList] (by simp) ⟨_, rfl⟩ (by decide) (by decide) (.inl ⟨_, rfl⟩)
  obtain ⟨ws', hbelow⟩ := hbelow
  rw [Node.look_eq_lookFrom]
  exact ⟨htrees, _, _, ws', ofTree_of_find hfind, hbelow⟩

end Guide

end Stylebook
