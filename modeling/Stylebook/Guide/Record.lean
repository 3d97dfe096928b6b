import Stylebook.Guide.Order
import Stylebook.Section.Record

/-!
# Exported guides

* `Guide.records` : one record per section, as read or in hierarchical order;
* `Guide.json` : the whole guide as a JSON document.
-/

namespace Stylebook.Guide

/-- The records of the sections, in hierarchical order if `inOrder`, and as they were read otherwise. -/
def records (g : Guide) (inOrder : Bool) : Except Rank.Fault (List Record) := do
  let sections ← if inOrder then g.sorted else pure g.sections
  return sections.map Section.fullRecord

def json (g : Guide) (inOrder : Bool) : Except Rank.Fault Json := do
  let rs ← g.records inOrder
  return .object [("files".toList, .array (g.files.map .text)),
    ("sections".toList, .array (rs.map fun r => .object r.entries))]

end Stylebook.Guide
