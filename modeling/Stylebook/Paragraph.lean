import Stylebook.Text.Basic

/-!
# Paragraphs

* `collapse` : in every maximal run of blanks with several line feeds, the part from the first line feed to the
  last shrinks to two;
* `paragraphs` : the parts of a text between lines that hold only blanks. A text of nothing but blanks has one
  paragraph, the empty one.
-/

namespace Stylebook

namespace Text

/-- A run of blanks with the part from its first line feed to its last as two line feeds, if it has several. -/
def shrinkRun (run : Text) : Text :=
  match lines run with
  | first :: _ :: third :: rest => first ++ ['\n', '\n'] ++ (third :: rest).getLast (List.cons_ne_nil _ _)
  | _ => run

/-- Shrinks the runs of blanks of a text; `run` is the run being read, the last blank first. -/
def collapseFrom (run : Text) : Text → Text
  | [] => shrinkRun run.reverse
  | c :: rest =>
    if isBlank c then collapseFrom (c :: run) rest
    else shrinkRun run.reverse ++ c :: collapseFrom [] rest

def collapse (t : Text) : Text := collapseFrom [] t

def paragraphs (t : Text) : List Text :=
  splitOnText ['\n', '\n'] (trim (collapse (unifyNewlines t)))

/-- The paragraphs joined by empty lines. -/
def unparagraphs (ps : List Text) : Text := ['\n', '\n'].intercalate ps

end Text

end Stylebook
