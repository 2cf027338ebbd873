import CommandTree.Line

namespace CommandTree

namespace Text

structure IsTight (cs : List Char) : Prop where
  first : ∃ c, cs.head? = some c ∧ isBlank c = false
  last : ∃ c, cs.getLast? = some c ∧ isBlank c = false

structure IsWord (cs : List Char) : Prop where
  given : cs ≠ []
  unbroken : ∀ c ∈ cs, isBlank c = false

/-- A text whose only blanks are spaces that do not touch. -/
structure IsSpaced (cs : List Char) : Prop where
  space : ∀ c ∈ cs, isBlank c = true → c = ' '
  alone : ¬ [' ', ' '] <:+: cs

variable {c : Char} {cs rest : List Char} {parts : List (List Char)}

/-! ### Words -/

theorem words_cons (plain : isBlank c = false) (rest : List Char) :
    words (c :: rest) = (c :: (cutWord rest).1) :: (cutWord rest).2 := by
  simp [words, cutWord, plain]

theorem cutWord_append_blank (blank : isBlank c = true) (cs rest : List Char) :
    cutWord (cs ++ c :: rest) = ((cutWord cs).1, (cutWord cs).2 ++ words rest) := by
  induction cs with
  | nil => simp [cutWord, words, blank]
  | cons first cs ih =>
    rw [List.cons_append, cutWord, ih, cutWord]
    cases isBlank first with
    | true => by_cases begun : (cutWord cs).1 = [] <;> simp [begun]
    | false => simp

theorem words_append_blank (blank : isBlank c = true) (cs rest : List Char) :
    words (cs ++ c :: rest) = words cs ++ words rest := by
  simp only [words, cutWord_append_blank blank]
  by_cases begun : (cutWord cs).1 = [] <;> simp [begun]

theorem words_intercalate (parts : List (List Char)) :
    words ([' '].intercalate parts) = parts.flatMap words := by
  induction parts with
  | nil => rfl
  | cons part parts ih =>
    cases parts with
    | nil => simp
    | cons next parts =>
      rw [List.intercalate_cons_cons, List.append_assoc, List.singleton_append,
        words_append_blank (by decide), ih]
      rfl

theorem cutWord_of_unbroken (unbroken : ∀ c ∈ cs, isBlank c = false) : cutWord cs = (cs, []) := by
  induction cs with
  | nil => rfl
  | cons c cs ih =>
    obtain ⟨plain, unbroken⟩ := List.forall_mem_cons.mp unbroken
    simp [cutWord, ih unbroken, plain]

theorem IsWord.words_eq (word : IsWord cs) : words cs = [cs] := by
  simp [words, cutWord_of_unbroken word.unbroken, word.given]

theorem cutWord_unbroken (cs : List Char) :
    (∀ c ∈ (cutWord cs).1, isBlank c = false) ∧ ∀ word ∈ (cutWord cs).2, IsWord word := by
  induction cs with
  | nil => exact ⟨by simp [cutWord], by simp [cutWord]⟩
  | cons c rest ih =>
    obtain ⟨first, others⟩ := ih
    rw [cutWord]
    cases blank : isBlank c with
    | false => exact ⟨List.forall_mem_cons.mpr ⟨blank, first⟩, others⟩
    | true =>
      refine ⟨by simp, ?_⟩
      by_cases empty : (cutWord rest).1 = []
      · simpa [empty] using others
      · simpa [empty] using And.intro (IsWord.mk empty first) others

theorem isWord_of_mem_words {cs word : List Char} (member : word ∈ words cs) : IsWord word := by
  obtain ⟨first, others⟩ := cutWord_unbroken cs
  unfold words at member
  dsimp only at member
  split at member <;> rename_i empty
  · exact others word member
  · rcases List.mem_cons.mp member with rfl | member
    · exact ⟨by simpa using empty, first⟩
    · exact others word member

/-! ### Spaces that stand alone -/

theorem IsSpaced.tail (spaced : IsSpaced (c :: cs)) : IsSpaced cs :=
  ⟨fun d member => spaced.space d (List.mem_cons_of_mem _ member),
    fun doubled => spaced.alone (doubled.trans (List.suffix_cons c cs).isInfix)⟩

theorem ne_space_of_plain (plain : isBlank c = false) : c ≠ ' ' := by
  rintro rfl
  exact nomatch plain

theorem IsSpaced.splitOn_eq (spaced : IsSpaced cs) (ends : cs.getLast? ≠ some ' ') :
    cs.splitOn ' ' = (cutWord cs).1 :: (cutWord cs).2 := by
  induction cs with
  | nil => rfl
  | cons c cs ih =>
    rw [List.splitOn_cons_eq_if_modifyHead]
    cases cs with
    | nil =>
      have different : c ≠ ' ' := by simpa using ends
      have plain : isBlank c = false :=
        Bool.eq_false_iff.mpr fun blank => different (spaced.space c List.mem_cons_self blank)
      simp [different, cutWord, plain]
    | cons next cs =>
      have split := ih spaced.tail (by simpa using ends)
      cases blank : isBlank c with
      | true =>
        obtain rfl := spaced.space c List.mem_cons_self blank
        -- No second space follows, so a word starts here and no empty piece is lost.
        have apart : next ≠ ' ' := by
          rintro rfl
          exact spaced.alone ⟨[], cs, rfl⟩
        have plain : isBlank next = false := Bool.eq_false_iff.mpr fun blank =>
          apart (spaced.space next (List.mem_cons_of_mem _ List.mem_cons_self) blank)
        rw [split]
        simp [cutWord, blank, plain]
      | false =>
        rw [split]
        simp [cutWord, blank, ne_space_of_plain blank]

theorem IsSpaced.words_quoted (spaced : IsSpaced cs) {quote : Char}
    (plain : isBlank quote = false) :
    words (quote :: (cs ++ [quote])) = (quote :: (cs ++ [quote])).splitOn ' ' := by
  have different : quote ≠ ' ' := ne_space_of_plain plain
  have closed : IsSpaced (cs ++ [quote]) := by
    refine ⟨fun d member blank => ?_, fun doubled => ?_⟩
    · rcases List.mem_append.mp member with there | last
      · exact spaced.space d there blank
      · rw [List.mem_singleton.mp last, plain] at blank
        exact nomatch blank
    · rcases List.infix_concat_iff.mp doubled with ⟨before, same⟩ | inside
      · have last : quote = ' ' := by simpa using (congrArg List.getLast? same).symm
        exact different last
      · exact spaced.alone inside
  have ends : (cs ++ [quote]).getLast? ≠ some ' ' := by
    rw [List.getLast?_concat]
    exact fun same => different (Option.some.inj same)
  rw [words_cons plain, List.splitOn_cons_eq_if_modifyHead, closed.splitOn_eq ends]
  simp [different]

/-! ### Both ends of a line -/

theorem IsWord.isTight (word : IsWord cs) : IsTight cs := by
  have first := List.head?_eq_some_head word.given
  have last := List.getLast?_eq_some_getLast word.given
  exact ⟨⟨_, first, word.unbroken _ (List.mem_of_head? first)⟩,
    ⟨_, last, word.unbroken _ (List.mem_of_getLast? last)⟩⟩

theorem isTight_quoted (plain : isBlank c = false) (cs : List Char) : IsTight (c :: (cs ++ [c])) :=
  ⟨⟨c, rfl, plain⟩, ⟨c, List.getLast?_concat (l := c :: cs), plain⟩⟩

theorem isTight_intercalate (given : parts ≠ []) (tight : ∀ part ∈ parts, IsTight part) :
    IsTight ([' '].intercalate parts) := by
  induction parts with
  | nil => exact absurd rfl given
  | cons part parts ih =>
    obtain ⟨front, tight⟩ := List.forall_mem_cons.mp tight
    cases parts with
    | nil => simpa using front
    | cons next parts =>
      have back := ih (List.cons_ne_nil _ _) tight
      obtain ⟨c, first, plain⟩ := front.first
      obtain ⟨d, last, solid⟩ := back.last
      rw [List.intercalate_cons_cons]
      refine ⟨⟨c, ?_, plain⟩, ⟨d, ?_, solid⟩⟩
      · simp [first]
      · rw [List.getLast?_append, last, Option.some_or]

theorem dropWhile_isBlank (first : ∃ c, cs.head? = some c ∧ isBlank c = false) :
    cs.dropWhile isBlank = cs := by
  obtain ⟨c, starts, plain⟩ := first
  obtain ⟨cs, rfl⟩ := List.head?_eq_some_iff.mp starts
  rw [List.dropWhile_cons_of_neg (Bool.eq_false_iff.mp plain)]

theorem IsTight.trim_eq (tight : IsTight cs) : trim cs = cs := by
  have back : cs.reverse.dropWhile isBlank = cs.reverse :=
    dropWhile_isBlank (by simpa using tight.last)
  rw [trim, trimBy, dropWhile_isBlank tight.first, back, List.reverse_reverse]

theorem IsTight.cons (tight : IsTight cs) (plain : isBlank c = false) : IsTight (c :: cs) := by
  obtain ⟨d, last, solid⟩ := tight.last
  exact ⟨⟨c, rfl, plain⟩, ⟨d, by rw [List.getLast?_cons, last]; rfl, solid⟩⟩

end Text

theorem splitLine_lead {lead line : String} (short : lead.length ≤ 1)
    (tight : Text.IsTight line.toList) :
    splitLine (lead ++ line) lead = (Text.words line.toList).map String.ofList := by
  have bare : dropLead lead.toList (Text.trim (lead.toList ++ line.toList)) = line.toList := by
    rw [← String.length_toList] at short
    cases signs : lead.toList with
    | nil => simp [dropLead, tight.trim_eq]
    | cons c others =>
      obtain rfl : others = [] := by simpa [signs] using short
      rw [List.singleton_append]
      -- A blank goes with the trimming, and then the line does not start with it.
      cases blank : Text.isBlank c with
      | true =>
        have trimmed : Text.trim (c :: line.toList) = line.toList := by
          rw [Text.trim, Text.trimBy, List.dropWhile_cons_of_pos blank]
          exact tight.trim_eq
        obtain ⟨d, first, plain⟩ := tight.first
        obtain ⟨others, signs⟩ := List.head?_eq_some_iff.mp first
        have different : c ≠ d := by
          rintro rfl
          exact nomatch blank.symm.trans plain
        rw [trimmed, signs]
        simp [dropLead, different]
      | false =>
        rw [(tight.cons blank).trim_eq]
        simp [dropLead]
  rw [splitLine, String.toList_append, bare]

end CommandTree
