import Stylebook.Files.Discovery
import Stylebook.Proofs.Comment.Writing
import Stylebook.Proofs.Text.Split

/-!
# Line endings and trailing blanks

* `Ending` : the ways to end a line; `Stored` : a line as it is stored, with blanks after it and an
  ending;
* `store` : the text of stored lines; `Storable` : no two endings in it run together;
* `unifyNewlines_eq_replace` : unified line endings are the work of two replacements;
* `unifyNewlines_store`, by induction on the lines : with its endings unified, the text is made of
  the lines and their blanks;
* `Lexer.feed_congr` : trailing blanks do not matter to a lexer; `blocksOfLines_concat_nil` : nor
  does an empty line at the end.
-/

namespace Stylebook

open Text

namespace Comment

/-! ## Stored lines -/

inductive Ending where
  | lf
  | crlf
  | cr
  deriving DecidableEq

def Ending.text : Ending → Text
  | lf => ['\n']
  | crlf => ['\r', '\n']
  | cr => ['\r']

/-- A line with blanks after it and an ending. -/
structure Stored where
  line : Text
  blanks : Text := []
  ending : Ending := .lf
  deriving DecidableEq

def Stored.padded (s : Stored) : Text := s.line ++ s.blanks

/-- The text of stored lines. The last of them may go without its ending. -/
def store (ended : Bool) : List Stored → Text
  | [] => []
  | s :: ss => s.padded ++ ((if ended || !ss.isEmpty then s.ending.text else []) ++ store ended ss)

/-- The endings of two lines that follow each other stay apart: a CR is not followed at once by the
LF of an empty line. -/
def Unmerged (s t : Stored) : Prop := s.ending = .cr → t.ending = .lf → t.padded ≠ []

structure Storable (ss : List Stored) : Prop where
  isLine : ∀ s ∈ ss, IsLine s.line
  blanks : ∀ s ∈ ss, IsLine s.blanks ∧ ∀ c ∈ s.blanks, isBlank c = true
  unmerged : ss.IsChain Unmerged

instance (s t : Stored) : Decidable (Unmerged s t) := inferInstanceAs (Decidable (_ → _ → _))

instance (ss : List Stored) : Decidable (Storable ss) :=
  decidable_of_iff ((∀ s ∈ ss, IsLine s.line) ∧ (∀ s ∈ ss, IsLine s.blanks ∧ s.blanks.all isBlank = true) ∧
      ss.IsChain Unmerged)
    ⟨fun h => ⟨h.1, fun s hs => ⟨(h.2.1 s hs).1, List.all_eq_true.1 (h.2.1 s hs).2⟩, h.2.2⟩,
      fun h => ⟨h.1, fun s hs => ⟨(h.2 s hs).1, List.all_eq_true.2 (h.2 s hs).2⟩, h.3⟩⟩

theorem Storable.tail {s : Stored} {ss : List Stored} (h : Storable (s :: ss)) : Storable ss :=
  ⟨fun t ht => h.isLine t (List.mem_cons_of_mem _ ht), fun t ht => h.blanks t (List.mem_cons_of_mem _ ht),
    h.unmerged.of_cons⟩

theorem Storable.padded {ss : List Stored} (h : Storable ss) {s : Stored} (hs : s ∈ ss) :
    IsLine s.padded :=
  (h.isLine s hs).append (h.blanks s hs).1

/-! ## Unified endings -/

/-- Line endings are unified by replacing every CR LF, and then every CR that is left. -/
theorem unifyNewlines_eq_replace (t : Text) :
    unifyNewlines t = replaceChar '\r' ['\n'] (replaceText ['\r', '\n'] ['\n'] t) := by
  fun_induction unifyNewlines t with
  | case1 rest ih =>
    have hcut : replaceText ['\r', '\n'] ['\n'] ('\r' :: '\n' :: rest) =
      '\n' :: replaceText ['\r', '\n'] ['\n'] rest := replaceText_append (by simp) ['\n'] rest
    rw [hcut, ih]
    rfl
  | case2 rest hrest ih =>
    have hpre : ['\r', '\n'].isPrefixOf ('\r' :: rest) = false := by
      cases rest with
      | nil => rfl
      | cons c rest =>
        have hc : '\n' ≠ c := by
          rintro rfl
          exact hrest rest rfl
        simp [List.isPrefixOf, hc]
    rw [replaceText_cons hpre, ih]
    rfl
  | case3 c rest _ hc ih =>
    have hcr : '\r' ≠ c := fun h => hc h.symm
    have hpre : ['\r', '\n'].isPrefixOf (c :: rest) = false := by simp [List.isPrefixOf, hcr]
    rw [replaceText_cons hpre, ih]
    simp [replaceChar, hcr.symm]
  | case4 => rfl

theorem unifyNewlines_ending {e : Ending} {t : Text} (h : e = .cr → t.head? ≠ some '\n') :
    unifyNewlines (e.text ++ t) = '\n' :: unifyNewlines t := by
  cases e with
  | lf => rfl
  | crlf => rfl
  | cr =>
    cases t with
    | nil => rfl
    | cons c t =>
      have hc : c ≠ '\n' := by
        rintro rfl
        exact h rfl rfl
      rw [Ending.text, List.singleton_append, unifyNewlines]
      rintro rest ⟨⟩
      exact hc rfl

/-- Stored lines begin with a line feed only if the first of them is empty and ends in one. -/
theorem head?_store {ended : Bool} {s : Stored} {ss : List Stored} (hs : IsLine s.padded)
    (h : (store ended (s :: ss)).head? = some '\n') : s.padded = [] ∧ s.ending = .lf := by
  rw [store] at h
  cases hpadded : s.padded with
  | cons c u =>
    rw [hpadded, List.cons_append, List.head?_cons, Option.some.injEq] at h
    exact absurd (hpadded ▸ h ▸ List.mem_cons_self) hs.no_lf
  | nil =>
    refine ⟨rfl, ?_⟩
    rw [hpadded, List.nil_append] at h
    split at h
    · cases hending : s.ending with
      | lf => rfl
      | crlf => exact absurd h (by simp [hending, Ending.text])
      | cr => exact absurd h (by simp [hending, Ending.text])
    · rename_i hlast
      have hss : ss = [] := by
        rw [Bool.or_eq_true, not_or] at hlast
        simpa using hlast.2
      subst hss
      exact absurd h (by simp [store])

theorem head?_store_of_unmerged {s : Stored} {ss : List Stored} (h : Storable (s :: ss))
    (ended : Bool) (hcr : s.ending = .cr) : (store ended ss).head? ≠ some '\n' := by
  cases ss with
  | nil => simp [store]
  | cons t ss =>
    intro hhead
    obtain ⟨hpadded, hlf⟩ := head?_store (h.tail.padded List.mem_cons_self) hhead
    exact (List.isChain_cons_cons.1 h.unmerged).1 hcr hlf hpadded

theorem unifyNewlines_store {ss : List Stored} (h : Storable ss) (ended : Bool) :
    unifyNewlines (store ended ss) = unlines (ss.map Stored.padded ++ if ended then [[]] else []) := by
  induction ss with
  | nil => cases ended <;> rfl
  | cons s ss ih =>
    rw [store, unifyNewlines_append (h.padded List.mem_cons_self).no_cr,
      List.map_cons, List.cons_append]
    split
    · rename_i hended
      have hrest : ss.map Stored.padded ++ (if ended then [[]] else []) ≠ [] := by
        rcases Bool.or_eq_true_iff.1 hended with hended | hss
        · simp [hended]
        · intro hnil
          simp [List.map_eq_nil_iff.1 (List.append_eq_nil_iff.1 hnil).1] at hss
      rw [unifyNewlines_ending (head?_store_of_unmerged h ended), ih h.tail, unlines_cons hrest]
    · rename_i hlast
      obtain ⟨hended, hss⟩ : ended = false ∧ ss = [] := by simpa using hlast
      subst hended hss
      simp [store, unifyNewlines, unlines]

/-! ## What a lexer does not see -/

namespace Lexer

theorem feed_congr {l m : Text} (h : trimEnd l = trimEnd m) (x : Lexer) : x.feed l = x.feed m := by
  unfold feed
  rw [h]

theorem feedAll_padded {ss : List Stored} (h : Storable ss) (x : Lexer) :
    x.feedAll (ss.map Stored.padded) = x.feedAll (ss.map (·.line)) := by
  induction ss generalizing x with
  | nil => rfl
  | cons s ss ih =>
    have hs : trimEnd s.padded = trimEnd s.line :=
      trimEnd_append_of_blank _ (h.blanks s List.mem_cons_self).2
    rw [List.map_cons, List.map_cons, feedAll_cons, feedAll_cons, feed_congr hs, ih h.tail]

/-- An empty line at the end of a comment is dropped with the comment's last line feeds. -/
theorem flush_blocks_concat_nil {x y : Lexer} (hblocks : y.blocks = x.blocks)
    (hlines : y.scan.lines = x.scan.lines ++ [[]]) : y.flush.blocks = x.flush.blocks := by
  have htrim : trimLines (unlines y.scan.lines) = trimLines (unlines x.scan.lines) := by
    rw [hlines]
    by_cases hnil : x.scan.lines = []
    · rw [hnil]
      rfl
    · rw [unlines_concat hnil, trimLines_concat_newline]
  rw [flush_blocks, flush_blocks, htrim, hblocks]

theorem close_feed_nil (x : Lexer) : (x.feed []).close.blocks = x.close.blocks := by
  have hinert : IsInert [] := by decide
  obtain ⟨bs, scan⟩ := x
  cases scan with
  | idle =>
    rw [feed_inert (Or.inl rfl) hinert]
    rfl
  | run ls =>
    rw [feed_inert (Or.inr ⟨ls, rfl⟩) hinert]
    rfl
  | plain base ls =>
    cases base with
    | none => rfl
    | some base =>
      have hempty : dropBaseline base [] = [] := List.suffix_nil.1 (dropBaseline_suffix base [])
      exact flush_blocks_concat_nil rfl (congrArg (ls ++ [·]) hempty)
  | doc ls => exact flush_blocks_concat_nil rfl rfl

end Lexer

theorem blocksOfLines_concat_nil (ls : List Text) :
    blocksOfLines (ls ++ [[]]) = blocksOfLines ls := by
  rw [blocksOfLines, Lexer.feedAll_append, Lexer.feedAll_cons, Lexer.feedAll_nil,
    Lexer.close_feed_nil, blocksOfLines]

theorem blocks_unifyNewlines (t : Text) : blocks (unifyNewlines t) = blocks t := by
  rw [blocks, unifyNewlines_unifyNewlines, blocks]

theorem blocks_store {ss : List Stored} (h : Storable ss) (ended : Bool) :
    blocks (store ended ss) = blocks (unlines (ss.map (·.line))) := by
  have hlines : ∀ l ∈ ss.map (·.line), IsLine l := by simpa using h.isLine
  have hpadded : ∀ l ∈ ss.map Stored.padded ++ (if ended then [[]] else []), IsLine l := by
    intro l hl
    rcases List.mem_append.1 hl with hl | hl
    · obtain ⟨s, hs, rfl⟩ := List.mem_map.1 hl
      exact h.padded hs
    · split at hl
      · exact List.mem_singleton.1 hl ▸ ⟨by decide, by decide⟩
      · exact absurd hl List.not_mem_nil
  rw [← blocks_unifyNewlines, unifyNewlines_store h, blocks_unlines hpadded, blocks_unlines hlines]
  calc blocksOfLines (ss.map Stored.padded ++ if ended then [[]] else [])
      = blocksOfLines (ss.map Stored.padded) := by
        split
        · exact blocksOfLines_concat_nil _
        · rw [List.append_nil]
    _ = blocksOfLines (ss.map (·.line)) := by rw [blocksOfLines, Lexer.feedAll_padded h, blocksOfLines]

/-- Line endings and trailing blanks change nothing in the blocks of a stylesheet: they are those of
the bare lines, whether endings are unified on the way into the lexer, by two replacements, or
before, as in the text of a file. -/
theorem blocks_any_endings {ss : List Stored} (h : Storable ss) (ended : Bool) :
    blocks (store ended ss) = blocks (unlines (ss.map (·.line))) ∧
    blocksOfLines (lines (replaceChar '\r' ['\n'] (replaceText ['\r', '\n'] ['\n'] (store ended ss)))) =
      blocks (unlines (ss.map (·.line))) ∧
    blocks (unifyNewlines (store ended ss)) = blocks (unlines (ss.map (·.line))) ∧
    ∀ bytes, decodeUtf8? bytes = some (store ended ss) →
      ∃ t, Discovery.contentOf? bytes = some t ∧ blocks t = blocks (unlines (ss.map (·.line))) := by
  have hstore := blocks_store h ended
  have hunified := (blocks_unifyNewlines (store ended ss)).trans hstore
  refine ⟨hstore, ?_, hunified, fun bytes hbytes => ⟨unifyNewlines (store ended ss), ?_, hunified⟩⟩
  · rw [← unifyNewlines_eq_replace, ← blocks, hstore]
  · rw [Discovery.contentOf?, hbytes, Option.map_some]

/-- All three endings, a CR before an empty line that ends in CR LF and one before a line of one
blank, and a comment that is still open when the last line ends. -/
theorem blocks_any_endings_mixed :
    let ss : List Stored := [
      { line := "// a".toList, blanks := " \t".toList, ending := .cr },
      { line := [], blanks := " ".toList, ending := .lf },
      { line := "/*".toList, ending := .cr },
      { line := [], ending := .crlf },
      { line := "  b".toList, blanks := "\x0b".toList, ending := .crlf },
      { line := "   c".toList, blanks := "\t".toList, ending := .cr }]
    let t : Text := "// a \t\r \n/*\r\r\n  b\x0b\r\n   c\t\r".toList
    let bytes : List UInt8 := t.map fun c => UInt8.ofNat c.toNat
    Storable ss ∧ store true ss = t ∧ blocks t = blocks (unlines (ss.map (·.line))) ∧
      blocks t = ["a".toList, "b\n c".toList] ∧
      blocks (store false ss) = blocks (unlines (ss.map (·.line))) ∧ decodeUtf8? bytes = some t ∧
      ∃ u, Discovery.contentOf? bytes = some u ∧ blocks u = blocks (unlines (ss.map (·.line))) := by
  intro ss t bytes
  have h : Storable ss := by decide
  have ht : store true ss = t := by decide
  have hbytes : decodeUtf8? bytes = some t := by decide +kernel
  refine ⟨h, ht, ?_, by decide, (blocks_any_endings h false).1, hbytes, ?_⟩
  · rw [← ht]
    exact (blocks_any_endings h true).1
  · exact (blocks_any_endings h true).2.2.2 bytes (hbytes.trans (congrArg some ht.symm))

end Comment

end Stylebook
