import CommandTree.FlagAlphabet
import CommandTree.Ordered
import CommandTree.Text.Quoted

/-!
The tokens after a command's name are read from left to right as segments: an argument, or a token
that introduces flags together with the values that the flags take.
-/

namespace CommandTree

/-- One token, or the tokens of a quoted span, and the text they stand for. -/
structure Item where
  tokens : List String
  text : String
  deriving DecidableEq, Repr

inductive Segment where
  | argument (item : Item)
  | flags (token : String) (letters : List Char) (values : List (Char × Item))
  deriving DecidableEq, Repr

def Segment.tokens : Segment → List String
  | argument item => item.tokens
  | flags token _ values => token :: values.flatMap (·.2.tokens)

def isQuote (c : Char) : Bool := c = '"' || c = '\''

/-- Letters, and perhaps a line feed at the very end. -/
def isFlagWord (cs : List Char) : Bool :=
  let letters := if cs.getLast? = some '\n' then cs.dropLast else cs
  !letters.isEmpty && letters.all isFlagLetter

def flagsOf? (token : String) : Option (List Char) :=
  match token.toList with
  | '-' :: letters => if isFlagWord letters then some letters else none
  | _ => none

namespace Item

/-- The tokens up to the first that ends with the quote, and the rest. Without one the span runs to
the end. -/
def spanTo (quote : Char) : List String → List String × List String
  | [] => ([], [])
  | token :: rest =>
    if token.toList.getLast? = some quote then ([token], rest)
    else
      let (span, after) := spanTo quote rest
      (token :: span, after)

def unquoteEnd (quote : Char) (token : String) : String :=
  if token.toList.getLast? = some quote then String.ofList token.toList.dropLast else token

def read (token : String) (rest : List String) : Item × List String :=
  match token.toList with
  | [] => (⟨[token], token⟩, rest)
  | quote :: body =>
    if !isQuote quote then (⟨[token], token⟩, rest)
    else if body.getLast? = some quote then (⟨[token], String.ofList body.dropLast⟩, rest)
    else
      let (span, after) := spanTo quote rest
      (⟨token :: span, " ".intercalate (String.ofList body :: span.map (unquoteEnd quote))⟩, after)

theorem spanTo_append (quote : Char) (tokens : List String) :
    (spanTo quote tokens).1 ++ (spanTo quote tokens).2 = tokens := by
  induction tokens with
  | nil => rfl
  | cons token rest ih =>
    unfold spanTo
    split
    · rfl
    · simpa using ih

theorem read_append (token : String) (rest : List String) :
    (read token rest).1.tokens ++ (read token rest).2 = token :: rest := by
  unfold read
  split
  · rfl
  · split
    · rfl
    · split
      · rfl
      · simp [spanTo_append]

theorem length_spanTo (quote : Char) (tokens : List String) :
    (spanTo quote tokens).2.length ≤ tokens.length := by
  have same := congrArg List.length (spanTo_append quote tokens)
  rw [List.length_append] at same
  omega

theorem length_read (token : String) (rest : List String) :
    (read token rest).2.length ≤ rest.length := by
  unfold read
  split
  · exact Nat.le_refl _
  · split
    · exact Nat.le_refl _
    · split
      · exact Nat.le_refl _
      · exact length_spanTo _ _

end Item

namespace Segment

/-- Gives each letter that takes a value one item, in order, while tokens are left. -/
def takeValues (valued : List Char) : List Char → List String → List (Char × Item) × List String
  | [], tokens => ([], tokens)
  | letter :: letters, tokens =>
    if letter ∈ valued then
      match tokens with
      | [] => takeValues valued letters []
      | token :: rest =>
        let (item, after) := Item.read token rest
        let (values, final) := takeValues valued letters after
        ((letter, item) :: values, final)
    else takeValues valued letters tokens

theorem takeValues_append (valued letters : List Char) (tokens : List String) :
    (takeValues valued letters tokens).1.flatMap (·.2.tokens) ++
      (takeValues valued letters tokens).2 = tokens := by
  induction letters generalizing tokens with
  | nil => rfl
  | cons letter letters ih =>
    unfold takeValues
    split
    · split
      · exact ih []
      · simp [ih, Item.read_append]
    · exact ih tokens

theorem length_takeValues (valued letters : List Char) (tokens : List String) :
    (takeValues valued letters tokens).2.length ≤ tokens.length := by
  have same := congrArg List.length (takeValues_append valued letters tokens)
  rw [List.length_append] at same
  omega

def read (valued : List Char) (token : String) (rest : List String) : Segment × List String :=
  match flagsOf? token with
  | some letters =>
    let (values, after) := takeValues valued letters rest
    (flags token letters values, after)
  | none =>
    let (item, after) := Item.read token rest
    (argument item, after)

theorem read_append (valued : List Char) (token : String) (rest : List String) :
    (read valued token rest).1.tokens ++ (read valued token rest).2 = token :: rest := by
  unfold read
  split
  · simp [Segment.tokens, takeValues_append]
  · exact Item.read_append token rest

theorem length_read (valued : List Char) (token : String) (rest : List String) :
    (read valued token rest).2.length ≤ rest.length := by
  unfold read
  split
  · exact length_takeValues _ _ _
  · exact Item.length_read _ _

def readAll (valued : List Char) : List String → List Segment
  | [] => []
  | token :: rest => (read valued token rest).1 :: readAll valued (read valued token rest).2
termination_by tokens => tokens.length
decreasing_by
  have := length_read valued token rest
  simp only [List.length_cons]
  omega

def argumentText? : Segment → Option String
  | argument item => some item.text
  | flags _ _ _ => none

def letters : Segment → List Char
  | argument _ => []
  | flags _ letters _ => letters

def valueTexts : Segment → List (Char × String)
  | argument _ => []
  | flags _ _ values => values.map fun (letter, item) => (letter, item.text)

end Segment

/-- What one invocation of a command was given. A flag stands in `flags` once; a value flag given
twice has the later value. -/
structure Context where
  command : String
  args : List String
  flags : List Char
  values : Ordered Char String

namespace Context

def ofSegments (command : String) (segments : List Segment) : Context where
  command := command
  args := segments.filterMap (·.argumentText?)
  flags := distinct (segments.flatMap (·.letters))
  values := Ordered.putAll ∅ (segments.flatMap (·.valueTexts))

def read (valued : List Char) (command : String) (tokens : List String) : Context :=
  ofSegments command (Segment.readAll valued tokens)

def ofTokens? (valued : List Char) : List String → Option Context
  | [] => none
  | command :: tokens => some (read valued command tokens)

def sortedFlags (c : Context) : List Char := c.flags.mergeSort (· ≤ ·)

def writtenRow (texts : List String) : String :=
  "[" ++ ", ".intercalate (texts.map Text.quoted) ++ "]"

def written (c : Context) : String :=
  "CommandContext(" ++ Text.quoted c.command ++ ", args=" ++ writtenRow c.args ++ ", flags=" ++
    writtenRow (c.sortedFlags.map (·.toString)) ++ ")"

end Context
end CommandTree
