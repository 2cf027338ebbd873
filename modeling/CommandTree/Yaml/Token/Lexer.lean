import CommandTree.Numeral.Integer
import CommandTree.Yaml.Token.Scalar

/-!
A token that may turn out to be a mapping key is remembered until its colon comes, and the key mark
is put in front of it then; so a token leaves the queue only when it can no longer be a key.
-/

namespace CommandTree.Yaml

/-- A token that may be a key: its number and its place. A needed key has to get its colon. -/
structure PendingKey where
  token : Nat
  needed : Bool
  spot : Spot
  deriving DecidableEq, Repr

/-- `queue` holds the tokens that were cut off and not taken; `taken` counts those that were. -/
structure Lexer where
  rest : List Spot
  size : Nat
  queue : List Token := []
  taken : Nat := 0
  ended : Bool := false
  indent : Int := -1
  outerIndents : List Int := []
  flowDepth : Nat := 0
  keyAllowed : Bool := true
  pending : List (Nat × PendingKey) := []

namespace Lexer
variable (lexer : Lexer)

def here : Spot := lexer.rest.headD ⟨endMark, 0, 0, 0⟩

def inFlow : Bool := lexer.flowDepth != 0

def push (token : Token) : Lexer := { lexer with queue := lexer.queue ++ [token] }

/-- Puts a token in front of the one with a number. -/
def insertAt (number : Nat) (token : Token) : Lexer :=
  let place := number - lexer.taken
  { lexer with queue := lexer.queue.take place ++ token :: lexer.queue.drop place }

def advance (n : Nat) : Lexer := { lexer with rest := lexer.rest.drop n }

def allowKey (allowed : Bool) : Lexer := { lexer with keyAllowed := allowed }

/-! ## Indentation -/

/-- Leaves the indentations that are wider than a column and counts them. -/
def leave (column indent : Int) : List Int → Nat × Int × List Int
  | [] => (0, indent, [])
  | outer :: rest =>
    if column < indent then
      let (count, final) := leave column outer rest
      (count + 1, final)
    else (0, indent, outer :: rest)

def unwind (column : Int) : Lexer :=
  if lexer.inFlow then lexer
  else
    let (count, indent, outer) := leave column lexer.indent lexer.outerIndents
    { lexer with
      indent := indent
      outerIndents := outer
      queue := lexer.queue ++ List.replicate count .blockEnd }

def opensAt (column : Nat) : Bool := !lexer.inFlow && lexer.indent < column

def indentTo (column : Nat) : Lexer :=
  { lexer with indent := column, outerIndents := lexer.indent :: lexer.outerIndents }

def openBlock (token : Token) : Lexer :=
  let column := lexer.here.column
  if lexer.opensAt column then (lexer.indentTo column).push token else lexer

/-! ## Pending keys -/

/-- How far a key may be from its colon. -/
def keyReach : Nat := 1024

def isStale (key : PendingKey) : Bool :=
  key.spot.line != lexer.here.line || keyReach < lexer.here.index - key.spot.index

def dropStale : Except Fault Lexer :=
  let (stale, kept) := lexer.pending.partition fun (_, key) => lexer.isStale key
  if stale.any (·.2.needed) then .error .malformed else .ok { lexer with pending := kept }

def dropPending : Except Fault Lexer :=
  match lexer.pending.lookup lexer.flowDepth with
  | none => .ok lexer
  | some key =>
    if key.needed then .error .malformed
    else .ok { lexer with pending := lexer.pending.filter (·.1 != lexer.flowDepth) }

def savePending : Except Fault Lexer :=
  if !lexer.keyAllowed then .ok lexer
  else do
    let cleared ← lexer.dropPending
    let here := lexer.here
    let key : PendingKey :=
      ⟨lexer.taken + lexer.queue.length, !lexer.inFlow && lexer.indent == here.column, here⟩
    return { cleared with pending := (lexer.flowDepth, key) :: cleared.pending }

/-! ## White space -/

/-- Spaces, comments and line breaks; the flag says whether a line break was met. -/
def skipGaps (inComment crossed : Bool) : List Spot → Bool × List Spot
  | [] => (crossed, [])
  | spot :: rest =>
    if isBreak spot.char then skipGaps false true rest
    else if inComment && spot.char != endMark then skipGaps true crossed rest
    else if spot.char = ' ' then skipGaps false crossed rest
    else if spot.char = '#' then skipGaps true crossed rest
    else (crossed, spot :: rest)

def skipToToken : Lexer :=
  let (crossed, rest) := skipGaps false false lexer.rest
  { lexer with rest, keyAllowed := lexer.keyAllowed || (crossed && !lexer.inFlow) }

/-! ## Names, tags and directives -/

def isNameChar (c : Char) : Bool := c.isAlphanum || c = '-' || c = '_'

def isTagChar (c : Char) : Bool := c.isAlphanum || "-;/?:@&=+$,_.!~*'()[]%".toList.contains c

def endsName (c : Char) : Bool := isGap c || "?:,]\x7d%@`".toList.contains c

def readName (spots : List Spot) : Except Fault (String × List Spot) :=
  let (name, rest) := takeSpots isNameChar spots
  if name.isEmpty || !endsName (head rest) then .error .malformed
  else .ok (String.ofList name, rest)

/-- A tag handle: an exclamation mark before a space, or a name between two marks. -/
def readHandle (spots : List Spot) : Except Fault (String × List Spot) :=
  if head spots != '!' then .error .malformed
  else
    let (name, rest) := takeSpots isNameChar (spots.drop 1)
    if head rest = '!' then .ok (String.ofList ('!' :: name ++ ['!']), rest.drop 1)
    else if name.isEmpty && head rest = ' ' then .ok ("!", rest)
    else .error .malformed

/-- The bytes of escaped characters, two hexadecimal digits each after a percent sign. -/
def readEscapes : List Spot → Except Fault (List UInt8 × List Spot)
  | percent :: high :: low :: rest =>
    if percent.char != '%' then .ok ([], percent :: high :: low :: rest)
    else
      match hexValue? high.char, hexValue? low.char with
      | some h, some l => do
        let (bytes, final) ← readEscapes rest
        return ((16 * h + l).toUInt8 :: bytes, final)
      | _, _ => .error .malformed
  | spots => if head spots = '%' then .error .malformed else .ok ([], spots)

def readSuffixFrom : Nat → List Spot → Except Fault (String × List Spot)
  | 0, spots => .ok ("", spots)
  | fuel + 1, spots => do
    let (plain, rest) := takeSpots (fun c => isTagChar c && c != '%') spots
    if head rest != '%' then return (String.ofList plain, rest)
    let (bytes, after) ← readEscapes rest
    match String.fromUTF8? ⟨bytes.toArray⟩ with
    | none => throw .malformed
    | some escaped =>
      let (more, final) ← readSuffixFrom fuel after
      return (String.ofList plain ++ escaped ++ more, final)

def readSuffix (spots : List Spot) : Except Fault (String × List Spot) :=
  if isTagChar (head spots) then readSuffixFrom (spots.length + 1) spots else .error .malformed

def readTag (spots : List Spot) : Except Fault (Token × List Spot) := do
  let (token, rest) ←
    if head (spots.drop 1) = '<' then do
      let (suffix, rest) ← readSuffix (spots.drop 2)
      if head rest != '>' then throw .malformed
      pure (Token.tag none suffix, rest.drop 1)
    else if isGap (head (spots.drop 1)) then pure (Token.tag none "!", spots.drop 1)
    else do
      let (body, _) := takeSpots (!isSpaceOrEnd ·) (spots.drop 1)
      let (handle, rest) ←
        if body.contains '!' then readHandle spots else pure ("!", spots.drop 1)
      let (suffix, rest) ← readSuffix rest
      pure (Token.tag (some handle) suffix, rest)
  if isSpaceOrEnd (head rest) then return (token, rest) else throw .malformed

def readNumber (spots : List Spot) : Except Fault (Nat × List Spot) :=
  let (digits, rest) := takeSpots Char.isDigit spots
  if digits.isEmpty then .error .malformed
  else
    let text := String.ofList digits
    match Numeral.readInteger text with
    | .ok n => .ok (n.toNat, rest)
    | .error fault => .error (.badValue (fault.message 10 text))

def skipSpaces (spots : List Spot) : List Spot := (takeSpots (· == ' ') spots).2

def readDirective (spots : List Spot) : Except Fault (Directive × List Spot) := do
  let (name, rest) := takeSpots isNameChar (spots.drop 1)
  if name.isEmpty || !isSpaceOrEnd (head rest) then throw .malformed
  match String.ofList name with
  | "YAML" =>
    let (major, rest) ← readNumber (skipSpaces rest)
    if head rest != '.' then throw .malformed
    let (_, rest) ← readNumber (rest.drop 1)
    if !isSpaceOrEnd (head rest) then throw .malformed
    return (.version major, ← restOfLine rest)
  | "TAG" =>
    let (handle, rest) ← readHandle (skipSpaces rest)
    if head rest != ' ' then throw .malformed
    let (lead, rest) ← readSuffix (skipSpaces rest)
    if !isSpaceOrEnd (head rest) then throw .malformed
    return (.tagHandle handle lead, ← restOfLine rest)
  | _ => return (.reserved, ← restOfLine (takeSpots (!isBreakOrEnd ·) rest).2)

/-! ## Tokens -/

def streamEnd : Except Fault Lexer := do
  let closed ← (lexer.unwind (-1)).dropPending
  return ({ closed with pending := [], ended := true }.allowKey false).push .streamEnd

def directive : Except Fault Lexer := do
  let closed ← (lexer.unwind (-1)).dropPending
  let (directive, rest) ← readDirective closed.rest
  return ({ closed with rest }.allowKey false).push (.directive directive)

def documentMark (token : Token) : Except Fault Lexer := do
  let closed ← (lexer.unwind (-1)).dropPending
  return ((closed.allowKey false).advance 3).push token

def flowStart (token : Token) : Except Fault Lexer := do
  let saved ← lexer.savePending
  return (({ saved with flowDepth := saved.flowDepth + 1 }.allowKey true).advance 1).push token

def flowEnd (token : Token) : Except Fault Lexer := do
  let dropped ← lexer.dropPending
  return (({ dropped with flowDepth := dropped.flowDepth - 1 }.allowKey false).advance 1).push token

def flowEntry : Except Fault Lexer := do
  let dropped ← lexer.dropPending
  return ((dropped.allowKey true).advance 1).push .flowEntry

def blockEntry : Except Fault Lexer := do
  if !lexer.inFlow && !lexer.keyAllowed then throw .malformed
  let dropped ← (lexer.openBlock .blockSequenceStart).dropPending
  return ((dropped.allowKey true).advance 1).push .blockEntry

def key : Except Fault Lexer := do
  if !lexer.inFlow && !lexer.keyAllowed then throw .malformed
  let dropped ← (lexer.openBlock .blockMappingStart).dropPending
  return ((dropped.allowKey (!lexer.inFlow)).advance 1).push .key

/-- Puts the key mark, and the start of a mapping that the key opens, in front of a pending key. -/
def keyInFront (key : PendingKey) : Lexer :=
  let marked := lexer.insertAt key.token .key
  if lexer.opensAt key.spot.column then
    (marked.indentTo key.spot.column).insertAt key.token .blockMappingStart
  else marked

def value : Except Fault Lexer :=
  match lexer.pending.lookup lexer.flowDepth with
  | some key =>
    let taken := { lexer with pending := lexer.pending.filter (·.1 != lexer.flowDepth) }
    .ok ((((taken.keyInFront key).allowKey false).advance 1).push .value)
  | none =>
    if !lexer.inFlow && !lexer.keyAllowed then .error .malformed
    else
      .ok ((((lexer.openBlock .blockMappingStart).allowKey (!lexer.inFlow)).advance 1).push .value)

def keyLike (read : List Spot → Except Fault (Token × List Spot)) : Except Fault Lexer := do
  let saved ← lexer.savePending
  let (token, rest) ← read lexer.rest
  return ({ saved with rest }.allowKey false).push token

def named (token : String → Token) : Except Fault Lexer :=
  lexer.keyLike fun spots => do
    let (name, rest) ← readName (spots.drop 1)
    return (token name, rest)

def tag : Except Fault Lexer := lexer.keyLike readTag

def quoted (quote : Char) : Except Fault Lexer :=
  lexer.keyLike fun spots => do
    let (text, rest) ← quotedScalar quote (lexer.size + 1) (spots.drop 1)
    return (.scalar (String.ofList text) false, rest)

def plain : Except Fault Lexer := do
  let saved ← lexer.savePending
  let (text, crossed, rest) :=
    plainScalar lexer.inFlow (lexer.indent + 1) (lexer.size + 1) [] false lexer.rest
  return ({ saved with rest }.allowKey crossed).push (.scalar (String.ofList text) true)

def block (folded : Bool) : Except Fault Lexer := do
  let dropped ← lexer.dropPending
  let (text, rest) ← blockScalar folded lexer.indent (lexer.rest.drop 1)
  return ({ dropped with rest }.allowKey true).push (.scalar (String.ofList text) false)

/-- Whether a character followed by `next` can start a plain scalar. -/
def startsPlain (c next : Char) : Bool :=
  !(isGap c || "-?:,[]\x7b\x7d#&*!|>'\"%@`".toList.contains c) ||
    (!isGap next && (c = '-' || (!lexer.inFlow && (c = '?' || c = ':'))))

def next : Except Fault Lexer := do
  let lexer ← lexer.skipToToken.dropStale
  let lexer := lexer.unwind lexer.here.column
  let c := lexer.here.char
  let following := charAt lexer.rest 1
  let atMark := lexer.here.column = 0 && isDocumentMark lexer.rest
  if c = endMark then lexer.streamEnd
  else if c = '%' && lexer.here.column = 0 then lexer.directive
  else if c = '-' && atMark then lexer.documentMark .documentStart
  else if c = '.' && atMark then lexer.documentMark .documentEnd
  else if c = '[' then lexer.flowStart .flowSequenceStart
  else if c = '{' then lexer.flowStart .flowMappingStart
  else if c = ']' then lexer.flowEnd .flowSequenceEnd
  else if c = '}' then lexer.flowEnd .flowMappingEnd
  else if c = ',' then lexer.flowEntry
  else if c = '-' && isGap following then lexer.blockEntry
  else if c = '?' && (lexer.inFlow || isGap following) then lexer.key
  else if c = ':' && (lexer.inFlow || isGap following) then lexer.value
  else if c = '*' then lexer.named .alias
  else if c = '&' then lexer.named .anchor
  else if c = '!' then lexer.tag
  else if c = '|' && !lexer.inFlow then lexer.block false
  else if c = '>' && !lexer.inFlow then lexer.block true
  else if c = '\'' || c = '"' then lexer.quoted c
  else if lexer.startsPlain c following then lexer.plain
  else throw .malformed

/-- Whether the first token of the queue may still be a key, or there is none. -/
def needsMore : Except Fault (Bool × Lexer) :=
  if lexer.ended then .ok (false, lexer)
  else if lexer.queue.isEmpty then .ok (true, lexer)
  else do
    let kept ← lexer.dropStale
    return ((kept.pending.map (·.2.token)).min? == some kept.taken, kept)

def settle (lexer : Lexer) : Nat → Except Fault Lexer
  | 0 => .ok lexer
  | fuel + 1 => do
    let (more, kept) ← lexer.needsMore
    if more then settle (← kept.next) fuel else return kept

def peek : Except Fault (Token × Lexer) := do
  let settled ← lexer.settle (lexer.size + 2)
  return (settled.queue.headD .streamEnd, settled)

def take : Lexer := { lexer with queue := lexer.queue.drop 1, taken := lexer.taken + 1 }

end Lexer

def isAllowed (c : Char) : Bool :=
  let n := c.toNat
  n == 0x9 || n == 0xA || n == 0xD || (0x20 ≤ n && n ≤ 0x7E) || n == 0x85 ||
    (0xA0 ≤ n && n ≤ 0xD7FF) || (0xE000 ≤ n && n ≤ 0xFFFD) || 0x10000 ≤ n

/-- A text of which no token is cut off yet. A byte order mark in front does not count. -/
def Lexer.ofText (cs : List Char) : Except Fault Lexer :=
  if !cs.all isAllowed then .error .malformed
  else
    let body := if cs.head? = some byteOrderMark then cs.drop 1 else cs
    .ok { rest := spotsFrom 0 0 0 body, size := body.length }

end CommandTree.Yaml
