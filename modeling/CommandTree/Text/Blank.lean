namespace CommandTree.Text

/-- White space: tab to carriage return, the four separators and the space, and the wide blanks. -/
def isBlank (c : Char) : Bool :=
  let n := c.toNat
  (0x9 ≤ n && n ≤ 0xD) || (0x1C ≤ n && n ≤ 0x20) || n == 0x85 || n == 0xA0 || n == 0x1680 ||
    (0x2000 ≤ n && n ≤ 0x200A) || n == 0x2028 || n == 0x2029 || n == 0x202F || n == 0x205F ||
    n == 0x3000

/-- The white space around a written number. The four separators are no part of it. -/
def isNumberBlank (c : Char) : Bool := isBlank c && !(0x1C ≤ c.toNat && c.toNat ≤ 0x1F)

def isLineBreak (c : Char) : Bool :=
  let n := c.toNat
  (0xA ≤ n && n ≤ 0xD) || (0x1C ≤ n && n ≤ 0x1E) || n == 0x85 || n == 0x2028 || n == 0x2029

def trimBy (p : Char → Bool) (cs : List Char) : List Char :=
  ((cs.dropWhile p).reverse.dropWhile p).reverse

def trim (cs : List Char) : List Char := trimBy isBlank cs

/-- The word that starts in front, empty before a blank, and the words after it. -/
def cutWord : List Char → List Char × List (List Char)
  | [] => ([], [])
  | c :: rest =>
    let (word, others) := cutWord rest
    if isBlank c then ([], if word.isEmpty then others else word :: others)
    else (c :: word, others)

def words (cs : List Char) : List (List Char) :=
  let (word, others) := cutWord cs
  if word.isEmpty then others else word :: others

def firstLine (cs : List Char) : List Char := cs.takeWhile (!isLineBreak ·)

end CommandTree.Text
