import Stylebook.Text.Basic

/-!
# Inline Markdown

* `Inline` : plain text, code, line breaks, emphasis and strong emphasis;
* `Piece` : a character that may still be markup, or inline content that has been read;
* `Piece.ofText` : the pieces of a text once code spans, escapes and line breaks have been read. Nothing inside code is
  markup;
* `Piece.content` : a piece as inline content, when it is no markup.
-/

namespace Stylebook.Markdown

open Text

inductive Inline where
  | text (t : Text)
  | code (t : Text)
  | lineBreak
  | em (content : List Inline)
  | strong (content : List Inline)

/-- A character that may still be markup, or inline content that has been read. -/
inductive Piece where
  | char (c : Char)
  | done (content : Inline)

namespace Piece

def isStar : Piece → Bool
  | .char c => c == '*'
  | .done _ => false

def isBlank : Piece → Bool
  | .char c => Text.isBlank c
  | .done _ => false

/-- A character that is no markup. -/
def literal (c : Char) : Piece := .done (.text [c])

/-! ## Code spans and escapes -/

def tick : Char := Char.ofNat 0x60

/-- The text before a run of exactly `ticks` backticks; `run` backticks have just been read. -/
def upToTicks (ticks run : Nat) : Text → Option Text
  | [] => if run == ticks then some [] else none
  | c :: rest =>
    if c == tick then upToTicks ticks (run + 1) rest
    else if run == ticks then some []
    else (upToTicks ticks 0 rest).map (List.replicate run tick ++ c :: ·)

/-- The content of a code span in front of a text that begins with `run` backticks, and the length of the span.
At most `ticks` of them open it, as many as close it, and the others belong to the content. -/
def codeSpan? (run : Nat) (t : Text) : (ticks : Nat) → Option (Text × Nat)
  | 0 => none
  | ticks + 1 =>
    match upToTicks (ticks + 1) 0 (t.drop run) with
    | some content =>
      some (List.replicate (run - (ticks + 1)) tick ++ content, run + content.length + (ticks + 1))
    | none => codeSpan? run t ticks

/-- The characters that a backslash in front makes literal. -/
def escapable : List Char :=
  ['\\', tick, '*', '_', '\x7b', '\x7d', '[', ']', '(', ')', '>', '#', '+', '-', '.', '!']

/-- The pieces of a text, of which `used` characters in front belong to the piece before. -/
def codeFrom (used : Nat) : Text → List Piece
  | [] => []
  | c :: rest =>
    match used with
    | n + 1 => codeFrom n rest
    | 0 =>
      if c == tick then
        let run := ((c :: rest).takeWhile (· == tick)).length
        match codeSpan? run (c :: rest) run with
        | some (content, length) => .done (.code (trim content)) :: codeFrom (length - 1) rest
        | none => .char c :: codeFrom 0 rest
      else match rest with
        | d :: _ =>
          if c == '\\' && escapable.contains d then literal d :: codeFrom 1 rest
          else .char c :: codeFrom 0 rest
        | [] => [.char c]

/-! ## Line breaks -/

/-- Two spaces at the end of a line break it. -/
def breakLines : List Piece → List Piece
  | .char ' ' :: .char ' ' :: .char '\n' :: rest => .done .lineBreak :: breakLines rest
  | p :: rest => p :: breakLines rest
  | [] => []

/-- The pieces of a text, in which only stars can still be markup. -/
def ofText (t : Text) : List Piece := breakLines (codeFrom 0 t)

/-! ## Inline content -/

/-- Inline content with more in front; adjacent plain texts are one text. -/
def consInline : Inline → List Inline → List Inline
  | .text s, .text t :: rest => .text (s ++ t) :: rest
  | i, content => i :: content

/-- A piece as inline content, when it is no markup. -/
def content : Piece → Inline
  | .char c => .text [c]
  | .done i => i

end Piece

end Stylebook.Markdown
