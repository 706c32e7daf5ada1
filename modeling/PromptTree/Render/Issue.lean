import PromptTree.Pattern.Fault
import PromptTree.Text.Cut

/-!
# Issues

What went wrong in a rendering that went on nevertheless.  Every issue leaves a text in
place of what could not be rendered, and a warning.

## Main Definitions

* `Issue` — the causes.
* `Issue.code`, `Issue.message` — a cause by name and in words.
-/

namespace PromptTree

/-- A cause of a warning. -/
inductive Issue where
  | sectionNotFound (id : String)
  /-- A section refers to one that is being expanded. -/
  | cycle (stack : List String) (key : String)
  | tooDeep (limit : Int) (id : String)
  | separatorSetNotFound (id : String)
  | dataTypeNotFound (id : String)
  | unknownNode (tag : String)
  /-- A condition with a pattern that is none: as it was given, as text, and its fault. -/
  | badPattern (shown pattern : String) (fault : Pattern.Fault)
  deriving Repr, DecidableEq

namespace Issue

/-- The name of an issue. -/
def code : Issue → String
  | .sectionNotFound _ => "SECTION_NOT_FOUND"
  | .cycle _ _ => "CYCLE_DETECTED"
  | .tooDeep _ _ => "MAX_DEPTH_EXCEEDED"
  | .separatorSetNotFound _ => "SEPARATOR_NOT_FOUND"
  | .dataTypeNotFound _ => "DATA_TYPE_NOT_FOUND"
  | .unknownNode _ => "UNKNOWN_CONTENT_TYPE"
  | .badPattern _ _ _ => "INVALID_PATTERN"

/-- The issue in words. -/
def message : Issue → String
  | .sectionNotFound id => "Section not found: " ++ id
  | .cycle stack key => "Circular section reference: " ++ Text.join " -> " (stack ++ [key])
  | .tooDeep limit id => "Section nesting deeper than " ++ toString limit ++ " at: " ++ id
  | .separatorSetNotFound id => "Separator set not found: " ++ id
  | .dataTypeNotFound id => "Data type not found: " ++ id
  | .unknownNode tag => "Unknown content type: " ++ tag
  | .badPattern shown pattern fault =>
    "Invalid pattern in condition: " ++ shown ++ " (" ++ fault.message pattern ++ ")"

/-- How grave issues are. -/
def severity : String := "warning"

end Issue

end PromptTree
