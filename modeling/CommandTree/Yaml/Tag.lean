import CommandTree.Yaml.Stamp

namespace CommandTree.Yaml

/-- The tags that there are values for, the two marks for keys, and all other tags. -/
inductive Tag where
  | null
  | truth
  | whole
  | fraction
  | binary
  | stamp
  | text
  | sequence
  | mapping
  | set
  | orderedMap
  | pairs
  /-- A key that takes the entries of other mappings in. -/
  | merge
  /-- A key for the value that stands for its whole mapping. -/
  | default
  | other
  deriving DecidableEq, Repr, Inhabited

namespace Tag

def standardLead : String := "tag:yaml.org,2002:"

def standardNames : List (String × Tag) :=
  [("null", null), ("bool", truth), ("int", whole), ("float", fraction), ("binary", binary),
    ("timestamp", stamp), ("str", text), ("seq", sequence), ("map", mapping), ("set", set),
    ("omap", orderedMap), ("pairs", pairs), ("merge", merge), ("value", default)]

def standard : List (String × Tag) :=
  standardNames.map fun (name, tag) => (standardLead ++ name, tag)

def ofName (name : String) : Tag := (standard.lookup name).getD other

/-! ## Untyped texts -/

def truthWords : List (String × Bool) :=
  [("yes", true), ("no", false), ("true", true), ("false", false), ("on", true), ("off", false)]

/-- A word in lower case, in upper case, and with a capital in front. -/
def casings (word : String) : List String :=
  let cs := word.toList
  let capital := (cs.take 1).map Char.toUpper ++ cs.drop 1
  [word, String.ofList capital, String.ofList (cs.map Char.toUpper)]

def isTruth (text : String) : Bool := truthWords.any fun word => (casings word.1).contains text

def isNull (text : String) : Bool := text = "~" || text = "" || (casings "null").contains text

def dropSign : List Char → List Char
  | '-' :: cs => cs
  | '+' :: cs => cs
  | cs => cs

def digitsOrGaps (p : Char → Bool) (cs : List Char) : Bool :=
  !cs.isEmpty && cs.all fun c => p c || c = '_'

def isOctal (c : Char) : Bool := '0' ≤ c && c ≤ '7'

def isHex (c : Char) : Bool := c.isDigit || ('a' ≤ c && c ≤ 'f') || ('A' ≤ c && c ≤ 'F')

def isNumber : List Char → Bool
  | [] => false
  | c :: cs => c.isDigit && cs.all fun d => d.isDigit || d = '_'

def sexagesimalParts (cs : List Char) : List (List Char) :=
  cs.foldr (fun c parts =>
    match parts with
    | [] => [[c]]
    | part :: rest => if c = ':' then [] :: part :: rest else (c :: part) :: rest) [[]]

/-- One digit, or two of which the first is at most five. -/
def isSixtieth : List Char → Bool
  | [d] => d.isDigit
  | [t, d] => '0' ≤ t && t ≤ '5' && d.isDigit
  | _ => false

/-- A leading number, then one or more parts of sixtieths. -/
def isSexagesimal (startOk : List Char → Bool) (cs : List Char) : Bool :=
  match sexagesimalParts cs with
  | first :: second :: rest => startOk first && (second :: rest).all isSixtieth
  | _ => false

def startsNonzero (cs : List Char) : Bool := isNumber cs && cs.head? != some '0'

def isWhole (cs : List Char) : Bool :=
  match dropSign cs with
  | ['0'] => true
  | '0' :: 'b' :: rest => digitsOrGaps (fun c => c = '0' || c = '1') rest
  | '0' :: 'x' :: rest => digitsOrGaps isHex rest
  | '0' :: rest => digitsOrGaps isOctal rest
  | body => startsNonzero body || isSexagesimal startsNonzero body

/-- A power of ten, which is written with a sign, or nothing. -/
def isPower : List Char → Bool
  | [] => true
  | e :: sign :: digits =>
    (e = 'e' || e = 'E') && (sign = '-' || sign = '+') && !digits.isEmpty && digits.all Char.isDigit
  | _ => false

def isFractionPart (cs : List Char) : Bool :=
  isPower (cs.dropWhile fun c => c.isDigit || c = '_')

def isFraction (cs : List Char) : Bool :=
  let body := dropSign cs
  let front := body.takeWhile (· != '.')
  match body.dropWhile (· != '.') with
  | '.' :: back =>
    if front.isEmpty then
      ["inf", "Inf", "INF"].contains (String.ofList back) ||
        (body == cs && (["nan", "NaN", "NAN"].contains (String.ofList back) ||
          ((back.head?.map Char.isDigit).getD false && isFractionPart back)))
    else
      (isNumber front && isFractionPart back) ||
        (isSexagesimal isNumber front && back.all fun c => c.isDigit || c = '_')
  | _ => false

/-- The tag that a text of one line shows. The signs that start anchors, aliases and tags show one
that has no values. -/
def ofLine (text : String) : Tag :=
  let cs := text.toList
  if isTruth text then .truth
  else if isFraction cs then .fraction
  else if isWhole cs then .whole
  else if text = "<<" then .merge
  else if isNull text then .null
  else if Stamp.isPlain cs then .stamp
  else if text = "=" then .default
  else if ["!", "&", "*"].contains text then .other
  else .text

/-- A text without the line break at its end, if it has one and more. -/
def dropLastBreak (cs : List Char) : List Char :=
  if 1 < cs.length ∧ cs.getLast? = some '\n' then cs.dropLast else cs

def ofText (text : String) : Tag := ofLine (String.ofList (dropLastBreak text.toList))

end Tag
end CommandTree.Yaml
