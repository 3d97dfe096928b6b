import Stylebook.Comment.Lexer
import Stylebook.Text.Quoted
import Stylebook.Text.Digit
import Stylebook.Text.Case.Fold
import Stylebook.Text.Case.Title
import Stylebook.Number.Binary64
import Stylebook.Weight
import Stylebook.Paragraph
import Stylebook.Phonetic.Metaphone
import Stylebook.Label
import Stylebook.Entry
import Stylebook.Reference.Basic
import Stylebook.Reference.Marker
import Stylebook.Renderer
import Stylebook.Section.Record
import Stylebook.Section.Reader
import Stylebook.Guide.Record
import Stylebook.Guide.Source
import Stylebook.Files.Discovery
import Stylebook.Command.Run
import Stylebook.Main
import Stylebook.Proofs.Comment.Lexer
import Stylebook.Proofs.Comment.Writing
import Stylebook.Proofs.Paragraph
import Stylebook.Proofs.Label
import Stylebook.Proofs.Reference.Marker
import Stylebook.Proofs.Entry
import Stylebook.Proofs.Section.Checked
import Stylebook.Proofs.Section.Writing
import Stylebook.Proofs.Guide.Order
import Stylebook.Proofs.Guide.Query
import Stylebook.Proofs.Comment.Registers
import Stylebook.Proofs.Comment.Run
import Stylebook.Proofs.Section.Roles
import Stylebook.Proofs.Guide.Sortable
import Stylebook.Proofs.Guide.Canonical
import Stylebook.Proofs.Guide.Source
import Stylebook.Proofs.Guide.Index
import Stylebook.Proofs.Guide.Presentation
import Stylebook.Proofs.Files.Discovery
import Stylebook.Proofs.Files.Overlap
import Stylebook.Proofs.Settings
import Stylebook.Proofs.Label.Extraction
import Stylebook.Proofs.Section.Properties
import Stylebook.Proofs.Paragraph.ByLines
import Stylebook.Proofs.Entry.Words
import Stylebook.Proofs.Guide.Subtree
import Stylebook.Proofs.Guide.Insertion
import Stylebook.Proofs.Guide.Wildcard
import Stylebook.Proofs.Comment.Code
import Stylebook.Proofs.Comment.Indentation
import Stylebook.Proofs.Comment.Endings
import Stylebook.Proofs.Reference.Spelling
import Stylebook.Proofs.Files.Listing
import Stylebook.Proofs.Files.Mask
import Stylebook.Proofs.Reference.Uri
import Stylebook.Proofs.Number.Decimal
import Stylebook.Proofs.Weight
import Stylebook.Proofs.Guide.Record
import Stylebook.Proofs.Text.Case
import Stylebook.Proofs.Label.Reading
import Stylebook.Proofs.Sorting.Stability
