import CommandTree.Distinct

/-!
The flags of a command are a row of letters. A colon after a letter says that the flag takes a
value: `fd:` stands for the switch `-f` and the flag `-d` with a value. A host may also give the row
as a list of texts, of which each names a flag.
-/

namespace CommandTree

def isFlagLetter (c : Char) : Bool := c.isAlpha

/-- The flags a command knows, each once in the order of first mention, and those with a value. A
flag that was named by several letters can be declared with a value but not be given one. -/
structure FlagAlphabet where
  letters : List Char := []
  valued : List Char := []
  outOfReach : List String := []
  deriving DecidableEq, Repr, Inhabited

namespace FlagAlphabet

inductive Fault where
  | misplacedMark
  | notLetter (name : String)
  deriving DecidableEq, Repr

/-- Reads on; a colon has to follow `letter?`, the letter just read. -/
def parseFrom (known : FlagAlphabet) (letter? : Option Char) :
    List Char → Except Fault FlagAlphabet
  | [] => .ok known
  | c :: rest =>
    if c = ':' then
      match letter? with
      | some letter => parseFrom { known with valued := addNew known.valued letter } none rest
      | none => .error .misplacedMark
    else if isFlagLetter c then
      parseFrom { known with letters := addNew known.letters c } (some c) rest
    else .error (.notLetter c.toString)

def parse (flags : String) : Except Fault FlagAlphabet := parseFrom {} none flags.toList

def isName (name : String) : Bool := name != "" && name.toList.all isFlagLetter

def addValued (known : FlagAlphabet) (name : String) : FlagAlphabet :=
  match name.toList with
  | [letter] => { known with valued := addNew known.valued letter }
  | _ => { known with outOfReach := addNew known.outOfReach name }

/-- Reads a list of names on, of which `named` are done; a colon has to follow `name?`. -/
def parseNamesFrom (known : FlagAlphabet) (named : List String) (name? : Option String) :
    List String → Except Fault FlagAlphabet
  | [] => .ok { known with letters := named.flatMap String.toList }
  | name :: rest =>
    if name = ":" then
      match name? with
      | some last => parseNamesFrom (known.addValued last) named none rest
      | none => .error .misplacedMark
    else if isName name then parseNamesFrom known (addNew named name) (some name) rest
    else .error (.notLetter name)

def parseNames (names : List String) : Except Fault FlagAlphabet := parseNamesFrom {} [] none names

/-- Writes each letter, with a colon when it takes a value. -/
def written (known : FlagAlphabet) : String :=
  String.ofList (known.letters.flatMap fun c => if c ∈ known.valued then [c, ':'] else [c])

end FlagAlphabet
end CommandTree
