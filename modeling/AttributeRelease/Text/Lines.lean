/-!
Putting texts together.
-/

namespace AttributeRelease.Text

/-- Lines of text, each with its end. -/
def unlines (lines : List String) : String := .join (lines.map (· ++ "\n"))

def commaList (items : List String) : String := ", ".intercalate items

end AttributeRelease.Text
