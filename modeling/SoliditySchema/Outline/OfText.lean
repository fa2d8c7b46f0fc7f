/-
  SoliditySchema.Outline.OfText — the outline of a source text.

  In strict mode any error makes the whole text fail. In tolerant mode a text that fails is cut into its
  top-level items, each is parsed alone, and those that fail are skipped, with a warning for each of
  their errors; only if no item parses does the text fail.
-/

import SoliditySchema.Event
import SoliditySchema.Item
import SoliditySchema.Grammar.Reading
import SoliditySchema.Outline.OfTree

namespace SoliditySchema

/-- What comes of a source text: the outline, or the errors for which there is none, and the events on
the way. -/
structure Parsed where
  events : List Event
  result : Except (List Diagnostic) Outline

namespace Outline

/-- The outline of a text without any error. -/
def ofCleanText (text : List Char) : Except (List SyntaxError) Outline := (SourceTree.ofText text).map ofTree

/-- The outline of an item, or the errors in it, placed in the whole text. -/
def ofItem (text : List Char) (item : Item) : Except (List Diagnostic) Outline :=
  (ofCleanText item.text).mapError fun es => es.map (Diagnostic.ofError text item.start)

/-- The errors for which there is no outline. -/
def errorsOf : Except (List Diagnostic) Outline → List Diagnostic
  | .ok _ => []
  | .error ds => ds

/-- The outline of those items of a text that parse; `whole` are the errors of the text as a whole. -/
def recover (text : List Char) (whole : List Diagnostic) : Parsed :=
  let results := (Item.ofText text).map (ofItem text)
  let skipped := results.flatMap errorsOf
  let result :=
    match results.filterMap Except.toOption with
    | [] => .error (if skipped = [] then whole else skipped)
    | outlines => .ok ⟨outlines.flatMap Outline.nodes⟩
  ⟨skipped.map .skipped, result⟩

/-- The outline of a text, in tolerant or in strict mode. -/
def parse (tolerant : Bool) (text : List Char) : Parsed :=
  match ofCleanText text with
  | .ok outline => ⟨[], .ok outline⟩
  | .error es =>
    let whole := es.map (Diagnostic.ofError text 0)
    if tolerant then
      let recovered := recover text whole
      ⟨.recovering es.length :: recovered.events, recovered.result⟩
    else ⟨[], .error whole⟩

end Outline

end SoliditySchema
