import CommandTree.Value

namespace CommandTree.Yaml

/-- A time of day. The offset from universal time is in minutes. -/
structure Clock where
  hour : Nat
  minute : Nat
  second : Nat
  microsecond : Nat := 0
  offset : Option Int := none
  deriving DecidableEq, Repr

structure Stamp where
  year : Nat
  month : Nat
  day : Nat
  clock : Option Clock := none
  deriving DecidableEq, Repr

namespace Stamp

/-! ## Reading -/

def numberOf (digits : List Char) : Nat := digits.foldl (fun n c => 10 * n + (c.toNat - 0x30)) 0

def takeNumber? (least most : Nat) (cs : List Char) : Option (Nat × List Char) :=
  let digits := (cs.take most).takeWhile Char.isDigit
  if digits.length < least then none else some (numberOf digits, cs.drop digits.length)

def takeChar? (c : Char) : List Char → Option (List Char)
  | d :: rest => if c = d then some rest else none
  | [] => none

def dropBlanks (cs : List Char) : List Char := cs.dropWhile fun c => c = ' ' || c = '\t'

/-- The offset that a whole text is; an empty text is none. -/
def readOffset? (cs : List Char) : Option (Option Int) :=
  match dropBlanks cs with
  | [] => if cs.isEmpty then some none else none
  | ['Z'] => some (some 0)
  | sign :: rest => do
    if sign ≠ '+' ∧ sign ≠ '-' then none
    let (hours, rest) ← takeNumber? 1 2 rest
    let (minutes, rest) ←
      if rest.isEmpty then some (0, []) else (takeChar? ':' rest).bind (takeNumber? 2 2)
    if !rest.isEmpty then none
    let size : Int := 60 * hours + minutes
    return some (if sign = '-' then -size else size)

def microseconds (digits : List Char) : Nat :=
  numberOf ((digits ++ List.replicate 6 '0').take 6)

def readClock? (cs : List Char) : Option Clock := do
  let (hour, rest) ← takeNumber? 1 2 cs
  let (minute, rest) ← takeNumber? 2 2 (← takeChar? ':' rest)
  let (second, rest) ← takeNumber? 2 2 (← takeChar? ':' rest)
  let (fraction, rest) := match rest with
    | '.' :: more => (more.takeWhile Char.isDigit, more.dropWhile Char.isDigit)
    | rest => ([], rest)
  let offset ← readOffset? rest
  return { hour, minute, second, microsecond := microseconds fraction, offset }

/-- Reads a stamp. Months, days and hours may have one digit. -/
def ofChars? (cs : List Char) : Option Stamp := do
  let (year, rest) ← takeNumber? 4 4 cs
  let (month, rest) ← takeNumber? 1 2 (← takeChar? '-' rest)
  let (day, rest) ← takeNumber? 1 2 (← takeChar? '-' rest)
  match rest with
  | [] => return { year, month, day }
  | c :: more =>
    let time ←
      if c = 'T' ∨ c = 't' then some more
      else if c = ' ' ∨ c = '\t' then some (dropBlanks more)
      else none
    return { year, month, day, clock := some (← readClock? time) }

/-- Whether a text is a stamp without being told to be one: then a date alone has ten signs. -/
def isPlain (cs : List Char) : Bool :=
  match ofChars? cs with
  | some stamp => stamp.clock.isSome || cs.length = 10
  | none => false

/-! ## Dates that there are -/

def isLeapYear (year : Nat) : Bool := year % 4 == 0 && (year % 100 != 0 || year % 400 == 0)

def daysIn (year month : Nat) : Nat :=
  if month = 2 then if isLeapYear year then 29 else 28
  else if [4, 6, 9, 11].contains month then 30
  else 31

def writtenSpan (minutes : Int) : String :=
  let days := Int.fdiv minutes 1440
  let seconds := Int.fmod minutes 1440 * 60
  let parts := (if days = 0 then [] else [s!"days={days}"]) ++
    (if seconds = 0 then [] else [s!"seconds={seconds}"])
  "datetime.timedelta(" ++ (if parts.isEmpty then "0" else ", ".intercalate parts) ++ ")"

/-- An offset has to be less than a day. -/
def offsetObjection? (minutes : Int) : Option String :=
  if minutes.natAbs < 1440 then none
  else some ("offset must be a timedelta strictly between -timedelta(hours=24) and " ++
    "timedelta(hours=24), not " ++ writtenSpan minutes ++ ".")

def Clock.objection? (clock : Clock) : Option String :=
  if 23 < clock.hour then some "hour must be in 0..23"
  else if 59 < clock.minute then some "minute must be in 0..59"
  else if 59 < clock.second then some "second must be in 0..59"
  else none

def dayObjection? (s : Stamp) : Option String :=
  if s.year = 0 then some "year 0 is out of range"
  else if s.month = 0 ∨ 12 < s.month then some "month must be in 1..12"
  else if s.day = 0 ∨ daysIn s.year s.month < s.day then some "day is out of range for month"
  else none

/-- What makes a stamp no date, if anything does: its offset comes first. -/
def objection? (s : Stamp) : Option String :=
  (s.clock.bind (·.offset)).bind offsetObjection? <|>
    s.dayObjection? <|> s.clock.bind Clock.objection?

/-! ## Values -/

def dayNumber (s : Stamp) : Int :=
  let years := s.year - 1
  let months := (List.range (s.month - 1)).map fun month => daysIn s.year (month + 1)
  let before : Nat := months.foldl (· + ·) 0
  365 * years + years / 4 - years / 100 + years / 400 + before + s.day

/-- The microseconds before a stamp, by universal time if it has an offset. -/
def instant (s : Stamp) (clock : Clock) : Int :=
  let minutes := (s.dayNumber * 24 + clock.hour) * 60 + clock.minute - clock.offset.getD 0
  (minutes * 60 + clock.second) * 1000000 + clock.microsecond

def writtenOffset (minutes : Int) : String :=
  "datetime.timezone" ++
    if minutes = 0 then ".utc" else "(" ++ writtenSpan minutes ++ ")"

def value (s : Stamp) : Value :=
  match s.clock with
  | none =>
    let written := s!"datetime.date({s.year}, {s.month}, {s.day})"
    .foreign "date" written written
  | some clock =>
    let seconds :=
      if clock.microsecond ≠ 0 then [s!"{clock.second}", s!"{clock.microsecond}"]
      else if clock.second ≠ 0 then [s!"{clock.second}"]
      else []
    let parts := [s.year, s.month, s.day, clock.hour, clock.minute].map toString ++ seconds ++
      (clock.offset.map fun minutes => "tzinfo=" ++ writtenOffset minutes).toList
    .foreign "datetime" ("datetime.datetime(" ++ ", ".intercalate parts ++ ")")
      ((if clock.offset.isSome then "instant " else "local ") ++ toString (s.instant clock))

end Stamp
end CommandTree.Yaml
