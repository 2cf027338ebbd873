import CommandTree.Context
import CommandTree.Proofs.Ordered

namespace CommandTree

namespace Item

/-- An item in front of the tokens `after`: a token that no quote opens, a token that a quote opens
and closes, or a span that ends with the first token to close its quote, for want of one with the
last of all tokens. -/
inductive Spelled : Item → List String → Prop where
  | bare {token : String} (after : List String)
      (unquoted : ∀ quote ∈ token.toList.head?, isQuote quote = false) :
      Spelled ⟨[token], token⟩ after
  | whole {quote : Char} (body : List Char) (after : List String) (opens : isQuote quote = true) :
      Spelled ⟨[String.ofList (quote :: (body ++ [quote]))], String.ofList body⟩ after
  | span {quote : Char} {body : List Char} {inner : List String} (last : List Char)
      (after : List String) (opens : isQuote quote = true) (unclosed : body.getLast? ≠ some quote)
      (within : ∀ token ∈ inner, token.toList.getLast? ≠ some quote) :
      Spelled ⟨String.ofList (quote :: body) :: (inner ++ [String.ofList (last ++ [quote])]),
        " ".intercalate (String.ofList body :: (inner ++ [String.ofList last]))⟩ after
  | endless {quote : Char} {body : List Char} {inner : List String} (opens : isQuote quote = true)
      (unclosed : body.getLast? ≠ some quote)
      (within : ∀ token ∈ inner, token.toList.getLast? ≠ some quote) :
      Spelled ⟨String.ofList (quote :: body) :: inner,
        " ".intercalate (String.ofList body :: inner)⟩ []

variable {quote : Char} {body last : List Char} {inner rest after : List String} {item : Item}

theorem spanTo_of_open (within : ∀ token ∈ inner, token.toList.getLast? ≠ some quote) :
    spanTo quote inner = (inner, []) := by
  induction inner with
  | nil => rfl
  | cons token inner ih =>
    obtain ⟨unclosed, within⟩ := List.forall_mem_cons.mp within
    rw [spanTo, if_neg unclosed, ih within]

theorem spanTo_of_closed (last : List Char) (after : List String)
    (within : ∀ token ∈ inner, token.toList.getLast? ≠ some quote) :
    spanTo quote (inner ++ String.ofList (last ++ [quote]) :: after) =
      (inner ++ [String.ofList (last ++ [quote])], after) := by
  induction inner with
  | nil => simp [spanTo]
  | cons token inner ih =>
    obtain ⟨unclosed, within⟩ := List.forall_mem_cons.mp within
    rw [List.cons_append, spanTo, if_neg unclosed, ih within]
    rfl

theorem map_unquoteEnd (within : ∀ token ∈ inner, token.toList.getLast? ≠ some quote) :
    inner.map (unquoteEnd quote) = inner := by
  induction inner with
  | nil => rfl
  | cons token inner ih =>
    obtain ⟨unclosed, within⟩ := List.forall_mem_cons.mp within
    rw [List.map_cons, ih within, unquoteEnd, if_neg unclosed]

theorem unquoteEnd_closed (quote : Char) (last : List Char) :
    unquoteEnd quote (String.ofList (last ++ [quote])) = String.ofList last := by
  simp [unquoteEnd]

theorem read_bare {token : String} (unquoted : ∀ quote ∈ token.toList.head?, isQuote quote = false)
    (rest : List String) : read token rest = (⟨[token], token⟩, rest) := by
  unfold read
  cases signs : token.toList with
  | nil => rfl
  | cons quote body =>
    have plain : isQuote quote = false := unquoted quote (by rw [signs]; rfl)
    simp [plain]

theorem read_whole (opens : isQuote quote = true) (body : List Char) (rest : List String) :
    read (String.ofList (quote :: (body ++ [quote]))) rest =
      (⟨[String.ofList (quote :: (body ++ [quote]))], String.ofList body⟩, rest) := by
  simp [read, opens]

theorem read_span (opens : isQuote quote = true) (unclosed : body.getLast? ≠ some quote)
    (rest : List String) :
    read (String.ofList (quote :: body)) rest =
      (⟨String.ofList (quote :: body) :: (spanTo quote rest).1, " ".intercalate
        (String.ofList body :: (spanTo quote rest).1.map (unquoteEnd quote))⟩,
        (spanTo quote rest).2) := by
  simp [read, opens, unclosed]

theorem open_or_closed (quote : Char) (tokens : List String) :
    (∀ token ∈ tokens, token.toList.getLast? ≠ some quote) ∨
      ∃ inner last after, tokens = inner ++ String.ofList (last ++ [quote]) :: after ∧
        ∀ token ∈ inner, token.toList.getLast? ≠ some quote := by
  induction tokens with
  | nil => exact .inl fun _ member => nomatch member
  | cons token tokens ih =>
    by_cases closes : token.toList.getLast? = some quote
    · obtain ⟨last, same⟩ := List.getLast?_eq_some_iff.mp closes
      refine .inr ⟨[], last, tokens, ?_, fun _ member => nomatch member⟩
      rw [← same, String.ofList_toList]
      rfl
    · rcases ih with within | ⟨inner, last, after, rfl, within⟩
      · exact .inl (List.forall_mem_cons.mpr ⟨closes, within⟩)
      · exact .inr ⟨token :: inner, last, after, rfl, List.forall_mem_cons.mpr ⟨closes, within⟩⟩

theorem spelled_read (token : String) (rest : List String) :
    (read token rest).1.Spelled (read token rest).2 := by
  by_cases unquoted : ∀ quote ∈ token.toList.head?, isQuote quote = false
  · rw [read_bare unquoted]
    exact .bare rest unquoted
  obtain ⟨quote, body, rfl, opens⟩ : ∃ quote body, token = String.ofList (quote :: body) ∧
      isQuote quote = true := by
    cases signs : token.toList with
    | nil => exact absurd (by simp [signs]) unquoted
    | cons quote body =>
      refine ⟨quote, body, by rw [← signs, String.ofList_toList], ?_⟩
      simpa [signs] using unquoted
  by_cases closes : body.getLast? = some quote
  · obtain ⟨body, rfl⟩ := List.getLast?_eq_some_iff.mp closes
    rw [read_whole opens]
    exact .whole body rest opens
  · rw [read_span opens closes]
    rcases open_or_closed quote rest with within | ⟨inner, last, after, rfl, within⟩
    · rw [spanTo_of_open within, map_unquoteEnd within]
      exact .endless opens closes within
    · rw [spanTo_of_closed last after within, List.map_append, map_unquoteEnd within,
        List.map_singleton, unquoteEnd_closed]
      exact .span last after opens closes within

theorem read_of_spelled (spelled : item.Spelled after) {token : String}
    (row : item.tokens ++ after = token :: rest) : read token rest = (item, after) := by
  cases spelled with
  | bare _ unquoted =>
    obtain ⟨rfl, rfl⟩ := List.cons.inj row
    exact read_bare unquoted _
  | whole body _ opens =>
    obtain ⟨rfl, rfl⟩ := List.cons.inj row
    exact read_whole opens body _
  | @span quote body inner last _ opens unclosed within =>
    obtain ⟨rfl, left⟩ := List.cons.inj row
    have left : rest = inner ++ String.ofList (last ++ [quote]) :: after := by simp [← left]
    rw [read_span opens unclosed, left, spanTo_of_closed last after within, List.map_append,
      map_unquoteEnd within, List.map_singleton, unquoteEnd_closed]
  | @endless quote body inner opens unclosed within =>
    obtain ⟨rfl, left⟩ := List.cons.inj row
    have left : rest = inner := by simp [← left]
    rw [read_span opens unclosed, left, spanTo_of_open within, map_unquoteEnd within]

theorem Spelled.tokens_ne_nil (spelled : item.Spelled after) : item.tokens ≠ [] := by
  cases spelled <;> exact List.cons_ne_nil _ _

theorem head?_tokens_read (token : String) (rest : List String) :
    (read token rest).1.tokens.head? = some token := by
  have row := read_append token rest
  have given := (spelled_read token rest).tokens_ne_nil
  rw [List.append_eq_cons_iff] at row
  rcases row with ⟨none, -⟩ | ⟨more, starts, -⟩
  · exact absurd none given
  · rw [starts]
    rfl

end Item

/-! ### Introducers and the items that their letters take -/

/-- A token that introduces flags: a dash and at least one letter. What is after the dash counts as
its letters, a line feed at the very end included. -/
inductive Introduces : String → List Char → Prop where
  | plain {names : List Char} (given : names ≠ []) (letters : ∀ c ∈ names, isFlagLetter c = true) :
      Introduces (String.ofList ('-' :: names)) names
  | fed {names : List Char} (given : names ≠ []) (letters : ∀ c ∈ names, isFlagLetter c = true) :
      Introduces (String.ofList ('-' :: (names ++ ['\n']))) (names ++ ['\n'])

theorem Introduces.toList_eq {token : String} {letters : List Char}
    (introduces : Introduces token letters) : token.toList = '-' :: letters := by
  cases introduces <;> exact String.toList_ofList

theorem isFlagWord_iff {cs : List Char} : isFlagWord cs = true ↔
    ∃ names, names ≠ [] ∧ (∀ c ∈ names, isFlagLetter c = true) ∧
      (cs = names ∨ cs = names ++ ['\n']) := by
  unfold isFlagWord
  by_cases fed : cs.getLast? = some '\n'
  · obtain ⟨names, rfl⟩ := List.getLast?_eq_some_iff.mp fed
    simp only [fed, ↓reduceIte, List.dropLast_concat, Bool.and_eq_true, Bool.not_eq_true',
      List.isEmpty_eq_false_iff, List.all_eq_true]
    constructor
    · exact fun ⟨given, letters⟩ => ⟨names, given, letters, .inr rfl⟩
    · rintro ⟨others, given, letters, rfl | same⟩
      -- A line feed is no letter, so a word that ends with one is not all letters.
      · exact absurd (letters '\n' (by simp)) (by decide)
      · obtain rfl := List.append_cancel_right same
        exact ⟨given, letters⟩
  · simp only [fed, ↓reduceIte, Bool.and_eq_true, Bool.not_eq_true', List.isEmpty_eq_false_iff,
      List.all_eq_true]
    constructor
    · exact fun ⟨given, letters⟩ => ⟨cs, given, letters, .inl rfl⟩
    · rintro ⟨names, given, letters, rfl | rfl⟩
      · exact ⟨given, letters⟩
      · exact absurd (by simp) fed

theorem flagsOf?_eq_some_iff {token : String} {letters : List Char} :
    flagsOf? token = some letters ↔ Introduces token letters := by
  constructor
  · intro found
    obtain ⟨signs, rfl⟩ : ∃ signs, token = String.ofList signs := ⟨_, String.ofList_toList.symm⟩
    unfold flagsOf? at found
    rw [String.toList_ofList] at found
    split at found
    · split at found <;> rename_i isWord
      · obtain rfl := Option.some.inj found
        obtain ⟨names, given, named, rfl | rfl⟩ := isFlagWord_iff.mp isWord
        · exact .plain given named
        · exact .fed given named
      · exact nomatch found
    · exact nomatch found
  · intro introduces
    have isWord : isFlagWord letters = true := by
      cases introduces with
      | plain given named => exact isFlagWord_iff.mpr ⟨_, given, named, .inl rfl⟩
      | fed given named => exact isFlagWord_iff.mpr ⟨_, given, named, .inr rfl⟩
    simp [flagsOf?, introduces.toList_eq, isWord]

namespace Segment

/-- The items that letters take from the tokens after them, and the tokens that are left over. Each
letter with a value takes one, in order, and goes without only when no token is left. -/
inductive Takes (valued : List Char) : List Char → List (Char × Item) → List String → Prop where
  | done (after : List String) : Takes valued [] [] after
  | pass {letter : Char} {letters : List Char} {values : List (Char × Item)} {after : List String}
      (switch : letter ∉ valued) (others : Takes valued letters values after) :
      Takes valued (letter :: letters) values after
  | take {letter : Char} {letters : List Char} {item : Item} {values : List (Char × Item)}
      {after : List String} (takes : letter ∈ valued)
      (spelled : item.Spelled (values.flatMap (·.2.tokens) ++ after))
      (others : Takes valued letters values after) :
      Takes valued (letter :: letters) ((letter, item) :: values) after
  | miss {letter : Char} {letters : List Char} (takes : letter ∈ valued)
      (others : Takes valued letters [] []) : Takes valued (letter :: letters) [] []

/-- Segments that follow one another: arguments whose first token introduces nothing, and
introducers with what their letters take. -/
inductive IsReading (valued : List Char) : List Segment → Prop where
  | nil : IsReading valued []
  | argument {item : Item} {token : String} {segments : List Segment}
      (starts : item.tokens.head? = some token) (plain : ∀ letters, ¬ Introduces token letters)
      (spelled : item.Spelled (segments.flatMap Segment.tokens))
      (others : IsReading valued segments) : IsReading valued (.argument item :: segments)
  | flags {token : String} {letters : List Char} {values : List (Char × Item)}
      {segments : List Segment} (introduces : Introduces token letters)
      (takes : Takes valued letters values (segments.flatMap Segment.tokens))
      (others : IsReading valued segments) : IsReading valued (.flags token letters values :: segments)

variable {valued letters : List Char} {values : List (Char × Item)} {tokens after : List String}
  {segments : List Segment}

theorem takeValues_nil (valued letters : List Char) : takeValues valued letters [] = ([], []) := by
  induction letters with
  | nil => rfl
  | cons letter letters ih => simp [takeValues, ih]

theorem takes_takeValues (valued letters : List Char) (tokens : List String) :
    Takes valued letters (takeValues valued letters tokens).1
      (takeValues valued letters tokens).2 := by
  induction letters generalizing tokens with
  | nil => exact .done tokens
  | cons letter letters ih =>
    unfold takeValues
    by_cases takes : letter ∈ valued
    · rw [if_pos takes]
      cases tokens with
      | nil =>
        have others := ih []
        rw [takeValues_nil] at others ⊢
        exact .miss takes others
      | cons token rest =>
        refine .take takes ?_ (ih (Item.read token rest).2)
        rw [takeValues_append]
        exact Item.spelled_read token rest
    · rw [if_neg takes]
      exact .pass takes (ih tokens)

theorem takeValues_of_takes (takes : Takes valued letters values after) :
    takeValues valued letters (values.flatMap (·.2.tokens) ++ after) = (values, after) := by
  induction takes with
  | done after => rfl
  | pass switch _ ih =>
    unfold takeValues
    rw [if_neg switch, ih]
  | @take letter letters item values after takes spelled _ ih =>
    obtain ⟨token, more, starts⟩ := List.exists_cons_of_ne_nil spelled.tokens_ne_nil
    have row : item.tokens ++ (values.flatMap (·.2.tokens) ++ after) =
        token :: (more ++ (values.flatMap (·.2.tokens) ++ after)) := by
      rw [starts, List.cons_append]
    have first := Item.read_of_spelled spelled row
    rw [List.flatMap_cons, List.append_assoc, row, takeValues, if_pos takes]
    simp only [first, ih]
  -- Without tokens the other letters take nothing either.
  | miss takes _ _ =>
    rw [List.flatMap_nil, List.append_nil, takeValues_nil]

theorem Takes.mem (takes : Takes valued letters values after) {value : Char × Item}
    (member : value ∈ values) : value.1 ∈ valued ∧ value.1 ∈ letters := by
  induction takes with
  | done => exact nomatch member
  | pass _ _ ih => exact ⟨(ih member).1, List.mem_cons_of_mem _ (ih member).2⟩
  | take takes _ _ ih =>
    rcases List.mem_cons.mp member with rfl | member
    · exact ⟨takes, List.mem_cons_self⟩
    · exact ⟨(ih member).1, List.mem_cons_of_mem _ (ih member).2⟩
  | miss => exact nomatch member

/-! ### Whole rows -/

theorem flatMap_tokens_readAll (valued : List Char) (tokens : List String) :
    (readAll valued tokens).flatMap Segment.tokens = tokens := by
  fun_induction readAll valued tokens with
  | case1 => rfl
  | case2 token rest ih => rw [List.flatMap_cons, ih, read_append]

theorem isReading_readAll (valued : List Char) (tokens : List String) :
    IsReading valued (readAll valued tokens) := by
  fun_induction readAll valued tokens with
  | case1 => exact .nil
  | case2 token rest ih =>
    have left := flatMap_tokens_readAll valued (read valued token rest).2
    unfold read at ih left ⊢
    cases found : flagsOf? token with
    | some letters =>
      rw [found] at ih left
      refine .flags (flagsOf?_eq_some_iff.mp found) ?_ ih
      rw [left]
      exact takes_takeValues valued letters rest
    | none =>
      rw [found] at ih left
      refine .argument (Item.head?_tokens_read token rest) ?_ ?_ ih
      · intro letters introduces
        rw [flagsOf?_eq_some_iff.mpr introduces] at found
        exact nomatch found
      · rw [left]
        exact Item.spelled_read token rest

theorem readAll_of_isReading (reading : IsReading valued segments) :
    readAll valued (segments.flatMap Segment.tokens) = segments := by
  -- By induction on the reading: its first token decides what the reader makes of a segment, and
  -- the segments after it are what the reader is left with.
  induction reading with
  | nil => rw [List.flatMap_nil, readAll]
  | @argument item token segments starts plain spelled _ ih =>
    obtain ⟨more, tokens⟩ := List.head?_eq_some_iff.mp starts
    have row : item.tokens ++ segments.flatMap Segment.tokens =
        token :: (more ++ segments.flatMap Segment.tokens) := by
      rw [tokens, List.cons_append]
    have unflagged : flagsOf? token = none :=
      Option.eq_none_iff_forall_ne_some.mpr fun letters found =>
        plain letters (flagsOf?_eq_some_iff.mp found)
    have first : read valued token (more ++ segments.flatMap Segment.tokens) =
        (.argument item, segments.flatMap Segment.tokens) := by
      simp only [read, unflagged, Item.read_of_spelled spelled row]
    rw [List.flatMap_cons, Segment.tokens, row, readAll, first, ih]
  | @flags token letters values segments introduces takes _ ih =>
    have first : read valued token (values.flatMap (·.2.tokens) ++ segments.flatMap Segment.tokens) =
        (.flags token letters values, segments.flatMap Segment.tokens) := by
      simp only [read, flagsOf?_eq_some_iff.mpr introduces, takeValues_of_takes takes]
    rw [List.flatMap_cons, Segment.tokens, List.cons_append, readAll, first, ih]

theorem IsReading.mem_valueTexts (reading : IsReading valued segments) {letter : Char} {text : String}
    (member : (letter, text) ∈ segments.flatMap Segment.valueTexts) :
    letter ∈ valued ∧ ∃ segment ∈ segments, letter ∈ segment.letters := by
  induction reading with
  | nil => exact nomatch member
  | argument _ _ _ _ ih =>
    obtain ⟨takes, segment, there, given⟩ := ih member
    exact ⟨takes, segment, List.mem_cons_of_mem _ there, given⟩
  | flags _ takes _ ih =>
    rw [List.flatMap_cons, List.mem_append] at member
    rcases member with here | later
    · obtain ⟨value, there, same⟩ := List.mem_map.mp here
      obtain ⟨rfl, -⟩ := Prod.mk.inj same
      obtain ⟨valued, given⟩ := takes.mem there
      exact ⟨valued, _, List.mem_cons_self, given⟩
    · obtain ⟨takes, segment, there, given⟩ := ih later
      exact ⟨takes, segment, List.mem_cons_of_mem _ there, given⟩

end Segment

/-! ### Contexts -/

namespace Context
variable (valued : List Char) (command : String) (segments : List Segment)

theorem mem_flags_ofSegments {letter : Char} :
    letter ∈ (ofSegments command segments).flags ↔ ∃ segment ∈ segments, letter ∈ segment.letters :=
  mem_distinct.trans List.mem_flatMap

theorem get?_values_ofSegments (letter : Char) :
    (ofSegments command segments).values.get? letter =
      Ordered.lastOf? letter (segments.flatMap Segment.valueTexts) := by
  rw [ofSegments, Ordered.get?_putAll, Ordered.get?_empty, Option.or_none]

theorem nodup_keys_ofSegments : (ofSegments command segments).values.keys.Nodup :=
  Ordered.nodup_keys_putAll Ordered.nodup_keys_empty _

/-- Tokens can always be read. What comes after the name of the command falls into segments in one
way only, without loss, and the context holds what these stand for: the arguments in order, the
letters that are introduced, and for each letter with a value the last item that it took. -/
theorem ofTokens?_segments (tokens : List String) :
    ∃ context segments, ofTokens? valued (command :: tokens) = some context ∧
      segments.flatMap Segment.tokens = tokens ∧ Segment.IsReading valued segments ∧
      (∀ others, others.flatMap Segment.tokens = tokens → Segment.IsReading valued others →
        others = segments) ∧
      context.command = command ∧
      context.args = segments.filterMap Segment.argumentText? ∧
      (context.flags.Nodup ∧
        ∀ letter, letter ∈ context.flags ↔ ∃ segment ∈ segments, letter ∈ segment.letters) ∧
      (context.values.keys.Nodup ∧ ∀ letter, context.values.get? letter =
        Ordered.lastOf? letter (segments.flatMap Segment.valueTexts)) ∧
      ∀ letter text, context.values.get? letter = some text →
        letter ∈ valued ∧ letter ∈ context.flags := by
  have reading := Segment.isReading_readAll valued tokens
  refine ⟨_, Segment.readAll valued tokens, rfl, Segment.flatMap_tokens_readAll valued tokens,
    reading, ?_, rfl, rfl, ⟨nodup_distinct _, fun _ => mem_flags_ofSegments command _⟩,
    ⟨nodup_keys_ofSegments command _, get?_values_ofSegments command _⟩, ?_⟩
  · intro others row other
    rw [← row, Segment.readAll_of_isReading other]
  · intro letter text found
    rw [read, get?_values_ofSegments] at found
    obtain ⟨takes, given⟩ := reading.mem_valueTexts (Ordered.mem_of_lastOf? found)
    exact ⟨takes, (mem_flags_ofSegments command _).mpr given⟩

end Context
end CommandTree
