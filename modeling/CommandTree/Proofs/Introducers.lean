import CommandTree.Proofs.Segments

namespace CommandTree

/-- A letter from `a` to `z`, small or capital. -/
def IsAsciiLetter (c : Char) : Prop := ('a' ≤ c ∧ c ≤ 'z') ∨ ('A' ≤ c ∧ c ≤ 'Z')

def IsFlagToken (token : String) : Prop :=
  ∃ letters : List Char, letters ≠ [] ∧ (∀ c ∈ letters, IsAsciiLetter c) ∧
    token = String.ofList ('-' :: letters)

def IsFedFlagToken (token : String) : Prop := ∃ flag, IsFlagToken flag ∧ token = flag.push '\n'

variable {token : String} {letters : List Char} {c : Char}

theorem isFlagLetter_iff : isFlagLetter c = true ↔ IsAsciiLetter c := by
  unfold isFlagLetter IsAsciiLetter Char.isAlpha Char.isUpper Char.isLower
  simp only [Bool.or_eq_true, Bool.and_eq_true, decide_eq_true_eq]
  exact or_comm

theorem IsFlagToken.ascii (flag : IsFlagToken (String.ofList ('-' :: letters))) :
    ∀ c ∈ letters, IsAsciiLetter c := by
  obtain ⟨names, -, ascii, spelled⟩ := flag
  obtain ⟨-, rfl⟩ := List.cons.inj (String.ofList_inj.mp spelled)
  exact ascii

theorem unquoted_dash (letters : List Char) :
    ∀ quote ∈ (String.ofList ('-' :: letters)).toList.head?, isQuote quote = false := by
  intro quote starts
  rw [String.toList_ofList] at starts
  obtain rfl : '-' = quote := Option.some.inj starts
  decide

namespace Introduces

theorem flag_or_fed (introduces : Introduces token letters) :
    (IsFlagToken token ∧ ∀ c ∈ letters, IsAsciiLetter c) ∨
      (IsFedFlagToken token ∧ '\n' ∈ letters ∧ ∀ c ∈ letters, IsAsciiLetter c ∨ c = '\n') := by
  cases introduces with
  | plain given named =>
    have ascii : ∀ c ∈ letters, IsAsciiLetter c := fun c member => isFlagLetter_iff.mp (named c member)
    exact .inl ⟨⟨letters, given, ascii, rfl⟩, ascii⟩
  | @fed names given named =>
    have ascii : ∀ c ∈ names, IsAsciiLetter c := fun c member => isFlagLetter_iff.mp (named c member)
    refine .inr ⟨⟨_, ⟨names, given, ascii, rfl⟩, ?_⟩, by simp, ?_⟩
    · rw [← String.toList_inj, String.toList_push]
      simp
    · intro c member
      rcases List.mem_append.mp member with name | feed
      · exact .inl (ascii c name)
      · exact .inr (List.mem_singleton.mp feed)

theorem letter (introduces : Introduces token letters) (member : c ∈ letters) :
    IsAsciiLetter c ∨ c = '\n' ∧ IsFedFlagToken token := by
  rcases introduces.flag_or_fed with ⟨-, ascii⟩ | ⟨fed, -, ascii⟩
  · exact .inl (ascii c member)
  · exact (ascii c member).imp id fun feed => ⟨feed, fed⟩

end Introduces

namespace Segment
variable {valued : List Char} {segments : List Segment} {values : List (Char × Item)}

theorem IsReading.introduces (reading : IsReading valued segments)
    (there : .flags token letters values ∈ segments) : Introduces token letters := by
  induction reading with
  | nil => exact nomatch there
  | argument _ _ _ _ ih =>
    apply ih
    simpa using there
  | flags introduces _ _ ih =>
    rcases List.mem_cons.mp there with same | there
    · cases same
      exact introduces
    · exact ih there

theorem readAll_of_introduces (introduces : Introduces token letters) (rest : List String) :
    readAll valued (token :: rest) = .flags token letters (takeValues valued letters rest).1 ::
      readAll valued (takeValues valued letters rest).2 := by
  rw [readAll, read, flagsOf?_eq_some_iff.mpr introduces]

theorem readAll_of_plain (unquoted : ∀ quote ∈ token.toList.head?, isQuote quote = false)
    (plain : ∀ letters, ¬ Introduces token letters) (rest : List String) :
    readAll valued (token :: rest) = .argument ⟨[token], token⟩ :: readAll valued rest := by
  have unflagged : flagsOf? token = none :=
    Option.eq_none_iff_forall_ne_some.mpr fun letters found =>
      plain letters (flagsOf?_eq_some_iff.mp found)
  rw [readAll, read, unflagged, Item.read_bare unquoted]

theorem IsReading.of_append {earlier later : List Segment}
    (reading : IsReading valued (earlier ++ later)) : IsReading valued later := by
  induction earlier with
  | nil => exact reading
  | cons segment earlier ih =>
    cases reading with
    | argument _ _ _ others => exact ih others
    | flags _ _ others => exact ih others

end Segment

namespace Context

/-- Tokens can always be read. The flags of a context are letters, save for a line feed that stands
behind a flag token. A token where a segment starts, no flag token and not opened by a quote, is an
argument as it stands, after the arguments of the segments before it and before those of the tokens
after it, unless it is a flag token with a line feed behind it. -/
theorem flag_tokens_and_plain_tokens (valued : List Char) (command : String) (tokens : List String) :
    ∃ context segments, ofTokens? valued (command :: tokens) = some context ∧
      segments.flatMap Segment.tokens = tokens ∧ Segment.IsReading valued segments ∧
      (∀ c ∈ context.flags, IsAsciiLetter c ∨ c = '\n' ∧ ∃ token letters values,
        .flags token letters values ∈ segments ∧ IsFedFlagToken token) ∧
      ∀ earlier later token after, segments = earlier ++ later →
        later.flatMap Segment.tokens = token :: after →
        (∀ quote ∈ token.toList.head?, isQuote quote = false) → ¬ IsFlagToken token →
        context.args = earlier.filterMap Segment.argumentText? ++
            token :: (read valued command after).args ∨
          IsFedFlagToken token ∧ '\n' ∈ context.flags := by
  have reading := Segment.isReading_readAll valued tokens
  refine ⟨_, Segment.readAll valued tokens, rfl, Segment.flatMap_tokens_readAll valued tokens,
    reading, ?_, ?_⟩
  · intro c member
    obtain ⟨segment, there, given⟩ := (mem_flags_ofSegments command _).mp member
    cases segment with
    | argument item => exact nomatch given
    | flags token letters values =>
      rcases (reading.introduces there).letter given with ascii | ⟨feed, fed⟩
      · exact .inl ascii
      · exact .inr ⟨feed, token, letters, values, there, fed⟩
  · intro earlier later token after segments left unquoted unflagged
    -- Readings are unique, so the reader goes on from this token with the segments `later`.
    rw [segments] at reading
    have reader : later = Segment.readAll valued (token :: after) := by
      rw [← left, Segment.readAll_of_isReading reading.of_append]
    by_cases plain : ∀ letters, ¬ Introduces token letters
    · left
      rw [Segment.readAll_of_plain unquoted plain] at reader
      change (Segment.readAll valued tokens).filterMap _ = _
      rw [segments, reader, List.filterMap_append]
      rfl
    · right
      simp only [not_forall, not_not] at plain
      obtain ⟨letters, introduces⟩ := plain
      obtain ⟨flag, -⟩ | ⟨fed, feed, -⟩ := introduces.flag_or_fed
      · exact absurd flag unflagged
      · have there : .flags token letters (Segment.takeValues valued letters after).1 ∈
            Segment.readAll valued tokens := by
          rw [segments, reader, Segment.readAll_of_introduces introduces]
          exact List.mem_append_right _ List.mem_cons_self
        exact ⟨fed, (mem_flags_ofSegments command _).mpr ⟨_, there, feed⟩⟩

/-- After a value that looks the same, a negative number is an argument. -/
theorem flag_tokens_and_plain_tokens_shift : ∃ context,
    ofTokens? ['d'] ["shift", "-d", "-5", "-5"] = some context ∧ context.args = ["-5"] := by
  obtain ⟨context, segments, same, row, reading, -, arguments⟩ :=
    flag_tokens_and_plain_tokens ['d'] "shift" ["-d", "-5", "-5"]
  have read : Segment.readAll ['d'] ["-d", "-5", "-5"] =
      [.flags "-d" ['d'] [('d', ⟨["-5"], "-5"⟩)], .argument ⟨["-5"], "-5"⟩] := by decide +kernel
  have segments : segments =
      [.flags "-d" ['d'] [('d', ⟨["-5"], "-5"⟩)]] ++ [.argument ⟨["-5"], "-5"⟩] := by
    rw [← Segment.readAll_of_isReading reading, row, read]
    rfl
  have unquoted : ∀ quote ∈ "-5".toList.head?, isQuote quote = false := unquoted_dash ['5']
  have digit : ¬ IsAsciiLetter '5' := by
    unfold IsAsciiLetter
    decide
  have unflagged : ¬ IsFlagToken (String.ofList ['-', '5']) := fun flag =>
    digit (flag.ascii '5' List.mem_cons_self)
  have unfed : ¬ IsFedFlagToken "-5" := by
    rintro ⟨flag, -, spelled⟩
    have last := congrArg (·.toList.getLast?) spelled
    simp at last
  have stays := arguments _ _ "-5" [] segments rfl unquoted unflagged
  have after : (Context.read ['d'] "shift" []).args = [] := by decide +kernel
  rw [after] at stays
  exact ⟨context, same, stays.resolve_right (mt And.left unfed)⟩

/-- A line feed behind a flag token is a flag and no argument. -/
theorem line_feed_is_flag : ∃ context,
    ofTokens? [] ["grep", "-f\n"] = some context ∧
      ('\n' ∈ context.flags ∧ ¬ IsAsciiLetter '\n') ∧
      Segment.IsReading [] [.flags "-f\n" ['f', '\n'] []] ∧
      [Segment.flags "-f\n" ['f', '\n'] []].flatMap Segment.tokens = ["-f\n"] ∧
      (∀ quote ∈ "-f\n".toList.head?, isQuote quote = false) ∧ ¬ IsFlagToken "-f\n" ∧
      context.args = [] := by
  have feed : ¬ IsAsciiLetter '\n' := by
    unfold IsAsciiLetter
    decide
  have segments : Segment.readAll [] ["-f\n"] = [.flags "-f\n" ['f', '\n'] []] := by decide +kernel
  have reading := Segment.isReading_readAll [] ["-f\n"]
  rw [segments] at reading
  have unquoted : ∀ quote ∈ "-f\n".toList.head?, isQuote quote = false := unquoted_dash ['f', '\n']
  have unflagged : ¬ IsFlagToken (String.ofList ['-', 'f', '\n']) := fun flag =>
    feed (flag.ascii '\n' (by decide))
  have flags : (read [] "grep" ["-f\n"]).flags = ['f', '\n'] := by decide +kernel
  have flagged : '\n' ∈ (read [] "grep" ["-f\n"]).flags := by
    rw [flags]
    decide
  exact ⟨_, rfl, ⟨flagged, feed⟩, reading, rfl, unquoted, unflagged, by decide +kernel⟩

end Context
end CommandTree
