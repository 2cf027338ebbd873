import CommandTree.Yaml.Building

namespace CommandTree.Yaml

/-- Line breaks of all systems become line feeds. -/
def unifyBreaks : List Char → List Char
  | '\r' :: '\n' :: rest => '\n' :: unifyBreaks rest
  | '\r' :: rest => '\n' :: unifyBreaks rest
  | c :: rest => c :: unifyBreaks rest
  | [] => []

/-- The value of the only document of a text; a text without one is null. -/
def readText (text : String) : Except Fault Value := do
  let (root?, graph) ← Graph.ofLexer (← Lexer.ofText (unifyBreaks text.toList))
  match root? with
  | none => return .null
  | some root => Builder.value graph root

def readBytes (bytes : ByteArray) : Except Fault Value :=
  match String.fromUTF8? bytes with
  | none => .error .encoding
  | some text => readText text

end CommandTree.Yaml
