import CommandTree.Proofs.Segments

namespace CommandTree

/-- A text in quotes, cut into tokens at every space. -/
def wrapped (quote : Char) (content : String) : List String :=
  ((quote :: (content.toList ++ [quote])).splitOn ' ').map String.ofList

inductive Phrase where
  | text (quote : Char) (content : String)
  | switch (letter : Char)
  | valued (letter quote : Char) (content : String)
  deriving DecidableEq, Repr

namespace Phrase

def flagToken (letter : Char) : String := String.ofList ['-', letter]

def tokens : Phrase → List String
  | text quote content => wrapped quote content
  | switch letter => [flagToken letter]
  | valued letter quote content => flagToken letter :: wrapped quote content

/-- A text does not contain its quote, and the letters of flags do or do not take values as it is
written. -/
inductive Fits (values : List Char) : Phrase → Prop where
  | text {quote : Char} {content : String} (opens : isQuote quote = true)
      (free : quote ∉ content.toList) : Fits values (.text quote content)
  | switch {letter : Char} (named : isFlagLetter letter = true) (bare : letter ∉ values) :
      Fits values (.switch letter)
  | valued {letter quote : Char} {content : String} (named : isFlagLetter letter = true)
      (takes : letter ∈ values) (opens : isQuote quote = true) (free : quote ∉ content.toList) :
      Fits values (.valued letter quote content)

def argument? : Phrase → Option String
  | text _ content => some content
  | _ => none

def letter? : Phrase → Option Char
  | text _ _ => none
  | switch letter => some letter
  | valued letter _ _ => some letter

def value? : Phrase → Option (Char × String)
  | valued letter _ content => some (letter, content)
  | _ => none

def segment : Phrase → Segment
  | text quote content => .argument ⟨wrapped quote content, content⟩
  | switch letter => .flags (flagToken letter) [letter] []
  | valued letter quote content =>
    .flags (flagToken letter) [letter] [(letter, ⟨wrapped quote content, content⟩)]

end Phrase

/-! ### Texts in quotes -/

variable {quote : Char} {content : String} {body : List Char}

theorem splitOn_concat (apart : quote ≠ ' ') (free : quote ∉ body) :
    ∃ inner last, body.splitOn ' ' = inner ++ [last] ∧
      (body ++ [quote]).splitOn ' ' = inner ++ [last ++ [quote]] ∧
      ∀ piece ∈ inner ++ [last], quote ∉ piece := by
  induction body with
  | nil => exact ⟨[], [], by simp, List.splitOn_eq_singleton (by simpa using apart.symm), by simp⟩
  | cons c body ih =>
    obtain ⟨different, free⟩ := List.ne_and_not_mem_of_not_mem_cons free
    obtain ⟨inner, last, pieces, quoted, without⟩ := ih free
    rw [List.cons_append, List.splitOn_cons_eq_if_modifyHead, List.splitOn_cons_eq_if_modifyHead,
      pieces, quoted]
    by_cases cut : c = ' '
    · exact ⟨[] :: inner, last, by simp [cut], by simp [cut],
        List.forall_mem_cons.mpr ⟨List.not_mem_nil, without⟩⟩
    · cases inner with
      | nil =>
        refine ⟨[], c :: last, by simp [cut], by simp [cut], ?_⟩
        simpa [different] using without
      | cons first inner =>
        obtain ⟨plain, without⟩ := List.forall_mem_cons.mp without
        refine ⟨(c :: first) :: inner, last, by simp [cut], by simp [cut], ?_⟩
        exact List.forall_mem_cons.mpr ⟨List.not_mem_cons_of_ne_of_not_mem different plain, without⟩

theorem ne_space_of_isQuote (opens : isQuote quote = true) : quote ≠ ' ' := by
  rintro rfl
  exact nomatch opens

theorem not_mem_getLast? (free : quote ∉ body) : body.getLast? ≠ some quote :=
  fun last => free (List.mem_of_getLast? last)

theorem spelled_wrapped (opens : isQuote quote = true) (free : quote ∉ content.toList)
    (after : List String) : (Item.mk (wrapped quote content) content).Spelled after := by
  obtain ⟨inner, last, pieces, quoted, without⟩ :=
    splitOn_concat (ne_space_of_isQuote opens) free
  have joined : [' '].intercalate (inner ++ [last]) = content.toList := by
    rw [← pieces, List.intercalate_splitOn]
  have start : (quote == ' ') = false := beq_eq_false_iff_ne.mpr (ne_space_of_isQuote opens)
  unfold wrapped
  rw [List.splitOn_cons_eq_if_modifyHead, start, if_neg Bool.false_ne_true, quoted]
  -- A text in one piece is a whole token. Of more pieces only the last ends with the quote, so the
  -- span does not stop before it.
  cases inner with
  | nil =>
    obtain rfl : content = String.ofList last := by
      rw [← String.ofList_toList (s := content), ← joined]
      simp
    exact .whole last after opens
  | cons first inner =>
    have text : content = " ".intercalate
        (String.ofList first :: (inner.map String.ofList ++ [String.ofList last])) := by
      rw [← String.toList_inj, ← joined, String.toList_intercalate]
      simp [Function.comp_def]
    have tokens : ((first :: inner ++ [last ++ [quote]]).modifyHead (quote :: ·)).map String.ofList =
        String.ofList (quote :: first) ::
          (inner.map String.ofList ++ [String.ofList (last ++ [quote])]) := by
      simp
    rw [tokens]
    conv => enter [1]; rw [text]
    refine .span last after opens (not_mem_getLast? (without first (by simp))) ?_
    intro token member
    obtain ⟨piece, there, rfl⟩ := List.mem_map.mp member
    rw [String.toList_ofList]
    exact not_mem_getLast? (without piece (by simp [there]))

theorem wrapped_eq_cons (opens : isQuote quote = true) (content : String) :
    ∃ first others, wrapped quote content = String.ofList (quote :: first) :: others := by
  have start : (quote == ' ') = false := beq_eq_false_iff_ne.mpr (ne_space_of_isQuote opens)
  obtain ⟨first, others, pieces⟩ :=
    List.exists_cons_of_ne_nil (List.splitOn_ne_nil ' ' (content.toList ++ [quote]))
  refine ⟨first, others.map String.ofList, ?_⟩
  rw [wrapped, List.splitOn_cons_eq_if_modifyHead, start, if_neg Bool.false_ne_true, pieces]
  rfl

theorem not_introduces_of_isQuote (opens : isQuote quote = true) (first letters : List Char) :
    ¬ Introduces (String.ofList (quote :: first)) letters := by
  intro introduces
  have signs := introduces.toList_eq
  rw [String.toList_ofList] at signs
  obtain ⟨rfl, -⟩ := List.cons.inj signs
  exact nomatch opens

/-! ### Phrases -/

namespace Phrase
variable {values : List Char} {phrases : List Phrase}

theorem introduces_flagToken {letter : Char} (named : isFlagLetter letter = true) :
    Introduces (flagToken letter) [letter] :=
  .plain (List.cons_ne_nil _ _) (by simpa using named)

theorem flatMap_tokens_segments (phrases : List Phrase) :
    (phrases.map segment).flatMap Segment.tokens = phrases.flatMap tokens := by
  rw [List.flatMap_map]
  congr 1
  funext phrase
  cases phrase <;> simp [segment, Segment.tokens, tokens]

theorem isReading_segments (fit : ∀ phrase ∈ phrases, Fits values phrase) :
    Segment.IsReading values (phrases.map segment) := by
  induction phrases with
  | nil => exact .nil
  | cons phrase phrases ih =>
    obtain ⟨fits, others⟩ := List.forall_mem_cons.mp fit
    cases fits with
    | @text quote content opens free =>
      obtain ⟨first, _, tokens⟩ := wrapped_eq_cons opens content
      have starts : (wrapped quote content).head? = some (String.ofList (quote :: first)) := by
        rw [tokens]
        rfl
      exact .argument starts (not_introduces_of_isQuote opens first)
        (spelled_wrapped opens free _) (ih others)
    | switch named bare =>
      exact .flags (introduces_flagToken named) (.pass bare (.done _)) (ih others)
    | valued named takes opens free =>
      exact .flags (introduces_flagToken named)
        (.take takes (spelled_wrapped opens free _) (.done _)) (ih others)

theorem filterMap_argumentText?_segments (phrases : List Phrase) :
    (phrases.map segment).filterMap Segment.argumentText? = phrases.filterMap argument? := by
  rw [List.filterMap_map]
  congr 1
  funext phrase
  cases phrase <;> rfl

theorem mem_letters_segment {phrase : Phrase} {letter : Char} :
    letter ∈ phrase.segment.letters ↔ phrase.letter? = some letter := by
  cases phrase <;> simp [segment, Segment.letters, letter?, eq_comm]

theorem flatMap_valueTexts_segments (phrases : List Phrase) :
    (phrases.map segment).flatMap Segment.valueTexts = phrases.filterMap value? := by
  induction phrases with
  | nil => rfl
  | cons phrase phrases ih =>
    rw [List.map_cons, List.flatMap_cons, ih]
    cases phrase <;> rfl

end Phrase

theorem Context.read_phrases {values : List Char} {phrases : List Phrase}
    (fit : ∀ phrase ∈ phrases, phrase.Fits values) (command : String) :
    Context.read values command (phrases.flatMap Phrase.tokens) =
      Context.ofSegments command (phrases.map Phrase.segment) := by
  rw [Context.read, ← Phrase.flatMap_tokens_segments,
    Segment.readAll_of_isReading (Phrase.isReading_segments fit)]

/-- What is written as phrases is read back: the texts are the arguments, the letters are the flags,
and a letter with a value has the text that it was last written with. -/
theorem Context.ofTokens?_phrases (values : List Char) (command : String) (phrases : List Phrase)
    (fit : ∀ phrase ∈ phrases, phrase.Fits values) :
    ∃ context, Context.ofTokens? values (command :: phrases.flatMap Phrase.tokens) = some context ∧
      context.command = command ∧
      context.args = phrases.filterMap Phrase.argument? ∧
      (context.flags.Nodup ∧
        ∀ letter, letter ∈ context.flags ↔ ∃ phrase ∈ phrases, phrase.letter? = some letter) ∧
      (context.values.keys.Nodup ∧ ∀ letter, context.values.get? letter =
        Ordered.lastOf? letter (phrases.filterMap Phrase.value?)) := by
  refine ⟨_, rfl, ?_⟩
  rw [Context.read_phrases fit]
  refine ⟨rfl, Phrase.filterMap_argumentText?_segments phrases, ⟨nodup_distinct _, ?_⟩,
    Context.nodup_keys_ofSegments command _, ?_⟩
  · intro letter
    rw [Context.mem_flags_ofSegments]
    constructor
    · rintro ⟨_, member, given⟩
      obtain ⟨phrase, there, rfl⟩ := List.mem_map.mp member
      exact ⟨phrase, there, Phrase.mem_letters_segment.mp given⟩
    · rintro ⟨phrase, there, given⟩
      exact ⟨phrase.segment, List.mem_map_of_mem there, Phrase.mem_letters_segment.mpr given⟩
  · intro letter
    rw [Context.get?_values_ofSegments, Phrase.flatMap_valueTexts_segments]

/-- Texts that are a space, look like a flag, hold the other quote or are empty. -/
def errand : List Phrase :=
  [.text '"' " ", .valued 'd' '\'' "north \"east\"", .switch 'h', .text '\'' "-d", .valued 'd' '"' ""]

theorem Context.ofTokens?_phrases_errand :
    ∃ context, Context.ofTokens? ['d'] ["walk", "\"", "\"", "-d", "'north", "\"east\"'", "-h",
        "'-d'", "-d", "\"\""] = some context ∧
      context.args = [" ", "-d"] ∧ context.values.get? 'd' = some "" ∧ 'h' ∈ context.flags := by
  have tokens : errand.flatMap Phrase.tokens =
      ["\"", "\"", "-d", "'north", "\"east\"'", "-h", "'-d'", "-d", "\"\""] := by decide +kernel
  have fit : ∀ phrase ∈ errand, phrase.Fits ['d'] := by
    have space : Phrase.Fits ['d'] (.text '"' " ") := .text rfl (by decide)
    have quoted : Phrase.Fits ['d'] (.valued 'd' '\'' "north \"east\"") :=
      .valued rfl (by decide) rfl (by decide)
    have help : Phrase.Fits ['d'] (.switch 'h') := .switch rfl (by decide)
    have flagLike : Phrase.Fits ['d'] (.text '\'' "-d") := .text rfl (by decide)
    have nothing : Phrase.Fits ['d'] (.valued 'd' '"' "") := .valued rfl (by decide) rfl (by decide)
    simpa [errand] using ⟨space, quoted, help, flagLike, nothing⟩
  obtain ⟨context, read, -, args, ⟨-, flags⟩, -, values⟩ :=
    Context.ofTokens?_phrases ['d'] "walk" errand fit
  rw [tokens] at read
  refine ⟨context, read, args, ?_, (flags 'h').mpr ⟨.switch 'h', by decide, rfl⟩⟩
  rw [values]
  decide

end CommandTree
