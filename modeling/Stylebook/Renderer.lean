import Stylebook.Markdown.Document

/-!
# Renderers

A renderer turns the descriptions of sections and entries into HTML.

* `Renderer` : how a text of several paragraphs is rendered, and how one that stands inside a line;
* `Renderer.markdown` : as a part of Markdown, without links, images and HTML. Inside a line a text of a single
  paragraph has no paragraph element.
-/

namespace Stylebook

open Text

structure Renderer where
  block : Text → Text
  inline : Text → Text

namespace Renderer

/-- The content of a paragraph element that is all of `html`; other HTML stays. -/
def unwrap (html : Text) : Text :=
  match afterText? "<p>".toList html with
  | some rest =>
    if endsWith "</p>".toList rest then
      let content := rest.take (rest.length - 4)
      if hasText "<p>".toList content then html else content
    else html
  | none => html

/-- Renders descriptions as the part of Markdown that has headings, lists, quotations, code, rules, line breaks and
emphasis by stars. Links, images, addresses between angle brackets, HTML in the text, emphasis by underscores and
definitions of references are not read: their characters are plain text. Only for a text without them is the
result what Markdown in full makes of it. -/
def markdown : Renderer where
  block := Markdown.html
  inline t := unwrap (Markdown.html t)

end Renderer

end Stylebook
