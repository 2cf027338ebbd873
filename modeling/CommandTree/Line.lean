import CommandTree.Text.Blank

/-! Quotes stay in place when a line is cut: they are joined when a context is read. -/

namespace CommandTree

def dropLead (lead cs : List Char) : List Char :=
  if lead.isPrefixOf cs then cs.drop lead.length else cs

/-- The tokens of a line, less one `lead` in front of it. -/
def splitLine (line lead : String) : List String :=
  (Text.words (dropLead lead.toList (Text.trim line.toList))).map String.ofList

end CommandTree
