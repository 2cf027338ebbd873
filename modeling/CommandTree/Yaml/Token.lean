/-!
Tokens are the marks and scalars of the text; the starts and ends of block collections, which only
indentation shows, are tokens too.
-/

namespace CommandTree.Yaml

inductive Fault where
  | encoding
  | malformed
  | tooDeep
  | badValue (reason : String)
  | beyondRange
  /-- A number is to be read from no character. -/
  | emptyNumber
  | unknownTruth
  | noStamp
  | stampOfMapping
  deriving DecidableEq, Repr

/-- A character with its place. The end of the text is a spot with the character zero. -/
structure Spot where
  char : Char
  index : Nat
  line : Nat
  column : Nat
  deriving DecidableEq, Repr

def endMark : Char := Char.ofNat 0

def byteOrderMark : Char := Char.ofNat 0xFEFF

def isBreak (c : Char) : Bool :=
  c = '\n' || c.toNat = 0x85 || c.toNat = 0x2028 || c.toNat = 0x2029

def isBreakOrEnd (c : Char) : Bool := isBreak c || c = endMark

def isSpaceOrEnd (c : Char) : Bool := isBreakOrEnd c || c = ' '

def isGap (c : Char) : Bool := isSpaceOrEnd c || c = '\t'

/-- What a line break counts as inside a scalar. -/
def breakText (c : Char) : Char := if c.toNat = 0x85 then '\n' else c

def spotsFrom (index line column : Nat) : List Char → List Spot
  | [] => [⟨endMark, index, line, column⟩]
  | c :: rest =>
    ⟨c, index, line, column⟩ ::
      if isBreak c then spotsFrom (index + 1) (line + 1) 0 rest
      else spotsFrom (index + 1) line (if c = byteOrderMark then column else column + 1) rest

def charAt (spots : List Spot) (n : Nat) : Char := (spots[n]?.map (·.char)).getD endMark

def head (spots : List Spot) : Char := charAt spots 0

inductive Directive where
  | version (major : Nat)
  | tagHandle (handle lead : String)
  | reserved
  deriving DecidableEq, Repr

inductive Token where
  | streamEnd
  | directive (directive : Directive)
  | documentStart
  | documentEnd
  | blockSequenceStart
  | blockMappingStart
  | blockEnd
  | flowSequenceStart
  | flowSequenceEnd
  | flowMappingStart
  | flowMappingEnd
  | flowEntry
  | blockEntry
  | key
  | value
  | alias (name : String)
  | anchor (name : String)
  | tag (handle : Option String) (suffix : String)
  | scalar (text : String) (plain : Bool)
  deriving DecidableEq, Repr

end CommandTree.Yaml
