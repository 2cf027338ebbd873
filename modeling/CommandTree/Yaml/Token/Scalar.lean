import CommandTree.Text.Half
import CommandTree.Yaml.Token

/-!
Plain, quoted and block scalars are folded: a line break inside them becomes a space or stays, by
the rules of each style.
-/

namespace CommandTree.Yaml

abbrev LexedText := Except Fault (List Char × List Spot)

/-- Three dashes or dots that stand alone; inside a scalar they count at the start of a line. -/
def isDocumentMark (spots : List Spot) : Bool :=
  let marks := [charAt spots 0, charAt spots 1, charAt spots 2]
  (marks == ['-', '-', '-'] || marks == ['.', '.', '.']) && isGap (charAt spots 3)

def takeSpots (p : Char → Bool) (spots : List Spot) : List Char × List Spot :=
  ((spots.takeWhile (p ·.char)).map (·.char), spots.dropWhile (p ·.char))

/-- A single line break counts as a space, and a row of them as all but the first. -/
def foldBreaks (first : Char) (others : List Char) : List Char :=
  if breakText first ≠ '\n' then breakText first :: others
  else if others.isEmpty then [' ']
  else others

/-! ## Plain scalars -/

def isFlowMark (c : Char) : Bool := [',', '[', ']', '{', '}'].contains c

/-- Whether a plain scalar stops before a character that is followed by `next`. -/
def stopsPlain (inFlow : Bool) (c next : Char) : Bool :=
  isGap c || (c = ':' && (isGap next || (inFlow && isFlowMark next))) ||
    (inFlow && (isFlowMark c || c = '?'))

def takePlain (inFlow : Bool) : List Spot → List Char × List Spot
  | [] => ([], [])
  | spot :: rest =>
    if stopsPlain inFlow spot.char (head rest) then ([], spot :: rest)
    else
      let (cs, after) := takePlain inFlow rest
      (spot.char :: cs, after)

/-- The line breaks after a first one, and whether a document mark follows them. -/
def plainBreaks : List Spot → List Char × Bool × List Spot
  | [] => ([], false, [])
  | spot :: rest =>
    if spot.char = ' ' then plainBreaks rest
    else if isBreak spot.char then
      if isDocumentMark rest then ([breakText spot.char], true, rest)
      else
        let (breaks, marked, after) := plainBreaks rest
        (breakText spot.char :: breaks, marked, after)
    else ([], false, spot :: rest)

structure PlainGap where
  text : List Char
  crossesLine : Bool
  rest : List Spot

def plainGap (spots : List Spot) : PlainGap :=
  let (spaces, after) := takeSpots (· == ' ') spots
  match after with
  | spot :: rest =>
    if isBreak spot.char then
      if isDocumentMark rest then ⟨[], true, rest⟩
      else
        match plainBreaks rest with
        | (_, true, final) => ⟨[], true, final⟩
        | (breaks, false, final) => ⟨foldBreaks spot.char breaks, true, final⟩
    else ⟨spaces, false, after⟩
  | [] => ⟨spaces, false, []⟩

def columnOf (spots : List Spot) : Nat := (spots.head?.map (·.column)).getD 0

/-- A plain scalar: its text, whether a line break follows its last word, and the rest. -/
def plainScalar (inFlow : Bool) (indent : Int) :
    Nat → (gap : List Char) → Bool → List Spot → List Char × Bool × List Spot
  | 0, _, crossed, spots => ([], crossed, spots)
  | fuel + 1, gap, crossed, spots =>
    let (word, after) := takePlain inFlow spots
    if head spots = '#' || word.isEmpty then ([], crossed, spots)
    else
      let next := plainGap after
      if next.text.isEmpty || head next.rest = '#' ||
          (!inFlow && columnOf next.rest < indent) then
        (gap ++ word, next.crossesLine, next.rest)
      else
        let (more, crossed, final) :=
          plainScalar inFlow indent fuel next.text next.crossesLine next.rest
        (gap ++ word ++ more, crossed, final)

/-! ## Quoted scalars -/

def escapes : List (Char × Nat) :=
  [('0', 0x0), ('a', 0x7), ('b', 0x8), ('t', 0x9), ('\t', 0x9), ('n', 0xA), ('v', 0xB), ('f', 0xC),
    ('r', 0xD), ('e', 0x1B), (' ', 0x20), ('"', 0x22), ('\\', 0x5C), ('/', 0x2F), ('N', 0x85),
    ('_', 0xA0), ('L', 0x2028), ('P', 0x2029)]

def codeLengths : List (Char × Nat) := [('x', 2), ('u', 4), ('U', 8)]

def hexValue? (c : Char) : Option Nat :=
  if c.isDigit then some (c.toNat - 0x30)
  else if 'a' ≤ c ∧ c ≤ 'f' then some (c.toNat - 0x57)
  else if 'A' ≤ c ∧ c ≤ 'F' then some (c.toNat - 0x37)
  else none

/-- A character, or half of a pair, given by hexadecimal digits. -/
def codePoint (digits : List Char) : Except Fault Char :=
  match digits.mapM hexValue? with
  | none => .error .malformed
  | some values =>
    let n := values.foldl (16 * · + ·) 0
    if 0x80000000 ≤ n then .error .beyondRange
    else if 0x10FFFF < n then .error (.badValue "chr() arg not in range(0x110000)")
    else .ok (Text.ofCode n)

/-- The line breaks inside a quoted scalar; a document mark must not follow one. -/
def quotedBreaks : Nat → List Spot → LexedText
  | 0, spots => .ok ([], spots)
  | fuel + 1, spots =>
    if isDocumentMark spots then .error .malformed
    else
      match (takeSpots (fun c => c == ' ' || c == '\t') spots).2 with
      | [] => .ok ([], [])
      | spot :: rest =>
        if isBreak spot.char then
          (quotedBreaks fuel rest).map fun (breaks, final) =>
            (breakText spot.char :: breaks, final)
        else .ok ([], spot :: rest)

def escapeText (spots : List Spot) : LexedText :=
  match spots with
  | [] => .error .malformed
  | spot :: rest =>
    match escapes.lookup spot.char, codeLengths.lookup spot.char with
    | some n, _ => .ok ([Char.ofNat n], rest)
    | none, some length => do
      let digits := (rest.take length).map (·.char)
      if digits.length < length then throw .malformed
      return ([← codePoint digits], rest.drop length)
    | none, none =>
      if isBreak spot.char then quotedBreaks (rest.length + 1) rest else .error .malformed

def quotedGap (spots : List Spot) : LexedText :=
  let (spaces, after) := takeSpots (fun c => c == ' ' || c == '\t') spots
  match after with
  | [] => .error .malformed
  | spot :: rest =>
    if spot.char = endMark then .error .malformed
    else if isBreak spot.char then
      (quotedBreaks (rest.length + 1) rest).map fun (breaks, final) =>
        (foldBreaks spot.char breaks, final)
    else .ok (spaces, after)

def quotedScalar (quote : Char) : Nat → List Spot → LexedText
  | 0, _ => .error .malformed
  | _, [] => .error .malformed
  | fuel + 1, spot :: rest =>
    let after (text : List Char) (spots : List Spot) : LexedText :=
      (quotedScalar quote fuel spots).map fun (more, final) => (text ++ more, final)
    let c := spot.char
    if c = quote then
      if quote = '\'' ∧ head rest = '\'' then after ['\''] (rest.drop 1) else .ok ([], rest)
    else if c = '\\' ∧ quote = '"' then do
      let (text, final) ← escapeText rest
      after text final
    else if isGap c then do
      let (text, final) ← quotedGap (spot :: rest)
      after text final
    else after [c] rest

/-! ## Block scalars -/

inductive Chomp where
  | strip
  | clip
  | keep
  deriving DecidableEq

def chomp? (c : Char) : Option Chomp :=
  if c = '+' then some .keep else if c = '-' then some .strip else none

/-- The marks after the start of a block scalar: how its end is treated, and its indentation. -/
def blockMarks (spots : List Spot) : Except Fault (Chomp × Option Nat × List Spot) :=
  let digit? (spots : List Spot) : Except Fault (Option Nat × List Spot) :=
    let c := head spots
    if c.isDigit then
      if c = '0' then .error .malformed else .ok (some (c.toNat - 0x30), spots.drop 1)
    else .ok (none, spots)
  match chomp? (head spots) with
  | some chomp => do
    let (increment, rest) ← digit? (spots.drop 1)
    return (chomp, increment, rest)
  | none => do
    let (increment, rest) ← digit? spots
    match increment, chomp? (head rest) with
    | some _, some chomp => return (chomp, increment, rest.drop 1)
    | _, _ => return (.clip, increment, rest)

/-- Spaces, a comment and a line break: nothing else may end a line. -/
def restOfLine (spots : List Spot) : Except Fault (List Spot) :=
  let (_, after) := takeSpots (· == ' ') spots
  let final := if head after = '#' then (takeSpots (!isBreakOrEnd ·) after).2 else after
  if isBreak (head final) then .ok (final.drop 1)
  else if head final = endMark then .ok final
  else .error .malformed

/-- The line breaks before the first line of a block scalar, and the widest indentation. -/
def leadingBreaks (widest : Nat) : List Spot → List Char × Nat × List Spot
  | [] => ([], widest, [])
  | spot :: rest =>
    if spot.char = ' ' then leadingBreaks (max widest (spot.column + 1)) rest
    else if isBreak spot.char then
      let (breaks, widest, after) := leadingBreaks widest rest
      (breakText spot.char :: breaks, widest, after)
    else ([], widest, spot :: rest)

/-- The empty lines of a block scalar, and the indentation of the line after them. -/
def indentedBreaks (indent : Nat) : List Spot → List Char × List Spot
  | [] => ([], [])
  | spot :: rest =>
    if spot.char = ' ' ∧ spot.column < indent then indentedBreaks indent rest
    else if isBreak spot.char then
      let (breaks, after) := indentedBreaks indent rest
      (breakText spot.char :: breaks, after)
    else ([], spot :: rest)

def isIndented (indent : Nat) (spots : List Spot) : Bool :=
  columnOf spots == indent && head spots != endMark

/-- The lines of a block scalar: their text, the last line break, the breaks after it, the rest. -/
def blockLines (folded : Bool) (indent : Nat) :
    Nat → List Char → List Spot → List Char × List Char × List Char × List Spot
  | 0, breaks, spots => ([], [], breaks, spots)
  | fuel + 1, breaks, spots =>
    if !isIndented indent spots then ([], [], breaks, spots)
    else
      let startsText := !(head spots == ' ' || head spots == '\t')
      let (line, after) := takeSpots (!isBreakOrEnd ·) spots
      let lineBreak := if isBreak (head after) then [breakText (head after)] else []
      let (next, rest) := indentedBreaks indent (if lineBreak.isEmpty then after else after.drop 1)
      if isIndented indent rest then
        let joint :=
          if folded && lineBreak == ['\n'] && startsText &&
              !(head rest == ' ' || head rest == '\t') then
            if next.isEmpty then [' '] else []
          else lineBreak
        let (text, last, final) := blockLines folded indent fuel next rest
        (breaks ++ line ++ joint ++ text, last, final)
      else (breaks ++ line, lineBreak, next, rest)

def blockScalar (folded : Bool) (parentIndent : Int) (spots : List Spot) : LexedText := do
  let (chomp, increment, marked) ← blockMarks spots
  if !isSpaceOrEnd (head marked) then throw .malformed
  let start ← restOfLine marked
  let least := (max 1 (parentIndent + 1)).toNat
  let (breaks, indent, rest) :=
    match increment with
    | some n =>
      let indent := least + n - 1
      let (breaks, rest) := indentedBreaks indent start
      (breaks, indent, rest)
    | none =>
      let (breaks, widest, rest) := leadingBreaks 0 start
      (breaks, max least widest, rest)
  let (text, last, tail, final) := blockLines folded indent (rest.length + 1) breaks rest
  let chomped :=
    match chomp with
    | .strip => text
    | .clip => text ++ last
    | .keep => text ++ last ++ tail
  return (chomped, final)

end CommandTree.Yaml
