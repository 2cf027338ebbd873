import Mathlib.Data.List.TakeWhile
import CommandTree.Proofs.Accessors
import CommandTree.Proofs.Introducers
import CommandTree.Proofs.Quoting

namespace CommandTree

namespace Numeral
open Text
variable {c : Char} {digits cs : List Char} {n : Int}

theorem toNat_of_isDigit (digit : c.isDigit = true) : 0x30 ≤ c.toNat ∧ c.toNat ≤ 0x39 :=
  Char.isDigit_iff_toNat.mp digit

theorem digitValue?_of_isDigit (digit : c.isDigit = true) :
    digitValue? c = some (c.toNat - '0'.toNat) := by
  obtain ⟨low, high⟩ := toNat_of_isDigit digit
  unfold digitValue? zeroDigits
  rw [List.findSome?_cons, if_pos ⟨low, by omega⟩]
  rfl

theorem digitIn?_of_isDigit (digit : c.isDigit = true) :
    digitIn? 10 c = some (c.toNat - '0'.toNat) := by
  obtain ⟨low, high⟩ := toNat_of_isDigit digit
  have zero : '0'.toNat = 0x30 := rfl
  have small : ¬ ('a' ≤ c ∧ c ≤ 'z') := by
    rintro ⟨above, -⟩
    have above : 0x61 ≤ c.toNat := above
    omega
  have capital : ¬ ('A' ≤ c ∧ c ≤ 'Z') := by
    rintro ⟨above, -⟩
    have above : 0x41 ≤ c.toNat := above
    omega
  have below : c.toNat - '0'.toNat < 10 := by omega
  rw [digitIn?, if_neg small, if_neg capital, digitValue?_of_isDigit digit]
  exact Option.filter_some_pos (decide_eq_true below)

theorem ne_gap_of_isDigit (digit : c.isDigit = true) : c ≠ '_' := by
  rintro rfl
  exact absurd digit (by decide)

theorem isNumberBlank_of_isDigit (digit : c.isDigit = true) : isNumberBlank c = false := by
  obtain ⟨low, high⟩ := toNat_of_isDigit digit
  simp [isNumberBlank, isBlank]
  omega

theorem wellSpaced_of_digits (plain : ∀ c ∈ digits, c.isDigit = true) :
    wellSpaced true digits = true := by
  induction digits with
  | nil => rfl
  | cons c digits ih =>
    obtain ⟨digit, others⟩ := List.forall_mem_cons.mp plain
    rw [wellSpaced, if_neg (ne_gap_of_isDigit digit), ih others]

theorem readNatural_of_digits (given : digits ≠ []) (plain : ∀ c ∈ digits, c.isDigit = true)
    (few : digits.length ≤ digitLimit) :
    readNatural 10 digits = .ok (Nat.ofDigitChars 10 digits 0) := by
  have allRead : ∀ c ∈ digits, isDigitOrGap 10 c = true := fun c member => by
    simp [isDigitOrGap, digitIn?_of_isDigit (plain c member)]
  have spaced : wellSpaced false digits = true := by
    obtain ⟨c, others, rfl⟩ := List.exists_cons_of_ne_nil given
    obtain ⟨digit, plain⟩ := List.forall_mem_cons.mp plain
    rw [wellSpaced, if_neg (ne_gap_of_isDigit digit), wellSpaced_of_digits plain]
  have values : digits.filterMap (digitIn? 10) = digits.map fun c => c.toNat - '0'.toNat := by
    rw [← List.filterMap_eq_map]
    exact List.filterMap_congr fun c member => digitIn?_of_isDigit (plain c member)
  have none : digits.dropWhile (isDigitOrGap 10) = [] := List.dropWhile_eq_nil_iff.mpr allRead
  simp only [readNatural, List.takeWhile_eq_self_iff.mpr allRead, spaced, values, none]
  simp [few, ofDigits, Nat.ofDigitChars_eq_foldl, List.foldl_map]

/-! ### Spellings -/

/-- The signs that write an integer: digits, or a minus and digits, and no more digits than are
read. -/
inductive Spells : Int → List Char → Prop where
  | plain {digits : List Char} (given : digits ≠ []) (plain : ∀ c ∈ digits, c.isDigit = true)
      (few : digits.length ≤ digitLimit) : Spells (Nat.ofDigitChars 10 digits 0) digits
  | minus {digits : List Char} (given : digits ≠ []) (plain : ∀ c ∈ digits, c.isDigit = true)
      (few : digits.length ≤ digitLimit) : Spells (-Nat.ofDigitChars 10 digits 0) ('-' :: digits)

theorem toList_toString (n : Int) : (toString n).toList =
    if 0 ≤ n then Nat.toDigits 10 n.natAbs else '-' :: Nat.toDigits 10 n.natAbs := by
  rw [Int.toString_eq_repr, Int.repr_eq_if]
  split <;> rename_i sign
  · have same : n.toNat = n.natAbs := by omega
    rw [Nat.toList_repr, same]
  · have same : (-n).toNat = n.natAbs := by omega
    rw [String.toList_append, Nat.toList_repr, same]
    rfl

theorem spells_toString (writable : isWritable n = true) : Spells n (toString n).toList := by
  have given : Nat.toDigits 10 n.natAbs ≠ [] := Nat.toDigits_ne_nil
  have plain : ∀ c ∈ Nat.toDigits 10 n.natAbs, c.isDigit = true := fun c member =>
    Nat.isDigit_of_mem_toDigits (by decide) (by decide) member
  rw [isWritable, decide_eq_true_iff, Nat.pow_eq] at writable
  have limited : 0 < digitLimit := by decide
  have few : (Nat.toDigits 10 n.natAbs).length ≤ digitLimit := by
    generalize digitLimit = limit at limited writable ⊢
    exact (Nat.length_toDigits_le_iff (by decide) limited).mpr writable
  have same : Nat.ofDigitChars 10 (Nat.toDigits 10 n.natAbs) 0 = n.natAbs :=
    Nat.ofDigitChars_ten_toDigits
  rw [toList_toString]
  split <;> rename_i sign
  · have spelled := Spells.plain given plain few
    rwa [same, Int.natAbs_of_nonneg sign] at spelled
  · have spelled := Spells.minus given plain few
    rwa [same, Int.ofNat_natAbs_of_nonpos (by omega), Int.neg_neg] at spelled

namespace Spells

theorem head (spells : Spells n cs) :
    ∃ c rest, cs = c :: rest ∧ (c.isDigit = true ∨ c = '-' ∧ ∀ d ∈ rest, d.isDigit = true) := by
  cases spells with
  | plain given plain =>
    obtain ⟨c, rest, rfl⟩ := List.exists_cons_of_ne_nil given
    exact ⟨c, rest, rfl, .inl (plain c List.mem_cons_self)⟩
  | minus _ plain => exact ⟨_, _, rfl, .inr ⟨rfl, plain⟩⟩

theorem isNumberBlank_eq_false (spells : Spells n cs) : ∀ c ∈ cs, isNumberBlank c = false := by
  cases spells with
  | plain _ plain => exact fun c member => isNumberBlank_of_isDigit (plain c member)
  | minus _ plain =>
    exact List.forall_mem_cons.mpr
      ⟨by decide, fun c member => isNumberBlank_of_isDigit (plain c member)⟩

end Spells

theorem trimBy_of_solid {p : Char → Bool} (solid : ∀ c ∈ cs, p c = false) : trimBy p cs = cs := by
  have stays : ∀ {ds : List Char}, (∀ c ∈ ds, p c = false) → ds.dropWhile p = ds := by
    intro ds solid
    cases ds with
    | nil => rfl
    | cons c ds => rw [List.dropWhile_cons_of_neg (by simp [solid c List.mem_cons_self])]
  have back : ∀ c ∈ cs.reverse, p c = false := fun c member => solid c (List.mem_reverse.mp member)
  rw [trimBy, stays solid, stays back, List.reverse_reverse]

theorem dropBaseMark_ten (cs : List Char) : dropBaseMark 10 cs = cs := by
  unfold dropBaseMark
  split
  · exact if_neg (by simp [baseMark?])
  · rfl

theorem splitSign_of_digit (digit : c.isDigit = true) (rest : List Char) :
    splitSign (c :: rest) = (false, c :: rest) := by
  unfold splitSign
  split <;> rename_i same
  · obtain ⟨rfl, -⟩ := List.cons.inj same
    exact absurd digit (by decide)
  · obtain ⟨rfl, -⟩ := List.cons.inj same
    exact absurd digit (by decide)
  · rfl

theorem readInteger_of_spells {s : String} (spells : Spells n s.toList) :
    readInteger s = .ok n := by
  unfold readInteger readIntegerIn
  rw [trimBy_of_solid spells.isNumberBlank_eq_false]
  generalize s.toList = cs at spells
  cases spells with
  | plain given plain few =>
    obtain ⟨c, rest, rfl⟩ := List.exists_cons_of_ne_nil given
    simp only [splitSign_of_digit (plain c List.mem_cons_self), dropBaseMark_ten,
      readNatural_of_digits given plain few]
    rfl
  | minus given plain few =>
    simp only [splitSign, dropBaseMark_ten, readNatural_of_digits given plain few]
    rfl

end Numeral

/-! ### Tokens that stand for themselves -/

theorem Introduces.head {token : String} {letters : List Char}
    (introduces : Introduces token letters) :
    ∃ c rest, letters = c :: rest ∧ IsAsciiLetter c := by
  cases introduces with
  | plain given named =>
    obtain ⟨c, rest, rfl⟩ := List.exists_cons_of_ne_nil given
    exact ⟨c, rest, rfl, isFlagLetter_iff.mp (named c List.mem_cons_self)⟩
  | fed given named =>
    obtain ⟨c, rest, rfl⟩ := List.exists_cons_of_ne_nil given
    exact ⟨c, rest ++ ['\n'], rfl, isFlagLetter_iff.mp (named c List.mem_cons_self)⟩

structure IsPlain (token : String) : Prop where
  unquoted : ∀ quote ∈ token.toList.head?, isQuote quote = false
  unflagged : ∀ letters, ¬ Introduces token letters

def Segment.bare (token : String) : Segment := .argument ⟨[token], token⟩

theorem Segment.IsReading.bare {valued : List Char} {tokens : List String} {later : List Segment}
    (plain : ∀ token ∈ tokens, IsPlain token) (reading : IsReading valued later) :
    IsReading valued (tokens.map Segment.bare ++ later) := by
  induction tokens with
  | nil => exact reading
  | cons token tokens ih =>
    obtain ⟨first, others⟩ := List.forall_mem_cons.mp plain
    exact .argument rfl first.unflagged (.bare _ first.unquoted) (ih others)

theorem not_isAsciiLetter_of_isDigit {c : Char} (digit : c.isDigit = true) : ¬ IsAsciiLetter c := by
  obtain ⟨-, high⟩ := Numeral.toNat_of_isDigit digit
  rintro (⟨above, -⟩ | ⟨above, -⟩)
  · have above : 0x61 ≤ c.toNat := above
    omega
  · have above : 0x41 ≤ c.toNat := above
    omega

theorem isQuote_of_isDigit {c : Char} (digit : c.isDigit = true) : isQuote c = false := by
  rw [isQuote, Bool.or_eq_false_iff, decide_eq_false_iff_not, decide_eq_false_iff_not]
  constructor <;> rintro rfl <;> exact absurd digit (by decide)

theorem Numeral.Spells.isPlain {n : Int} {token : String} (spells : Spells n token.toList) :
    IsPlain token := by
  obtain ⟨c, rest, signs, starts⟩ := spells.head
  constructor
  · intro quote first
    rw [signs] at first
    obtain rfl : c = quote := Option.some.inj first
    rcases starts with digit | ⟨rfl, -⟩
    · exact isQuote_of_isDigit digit
    · decide
  · intro letters introduces
    obtain ⟨l, others, rfl, letter⟩ := introduces.head
    obtain ⟨rfl, rfl⟩ := List.cons.inj (signs.symm.trans introduces.toList_eq)
    rcases starts with digit | ⟨-, plain⟩
    · exact absurd digit (by decide)
    · exact not_isAsciiLetter_of_isDigit (plain l List.mem_cons_self) letter

namespace Context

variable {valued : List Char} {v : Char} {m : Int} {ns : List Int} {c : Context} {text : String}

theorem readAll_integers (writable : ∀ n ∈ m :: ns, Numeral.isWritable n = true)
    (letter : IsAsciiLetter v) (takes : v ∈ valued) :
    Segment.readAll valued (ns.map toString ++ [Phrase.flagToken v, toString m]) =
      (ns.map toString).map Segment.bare ++
        [.flags (Phrase.flagToken v) [v] [(v, ⟨[toString m], toString m⟩)]] := by
  obtain ⟨value, arguments⟩ := List.forall_mem_cons.mp writable
  have plain : ∀ token ∈ ns.map toString, IsPlain token := by
    intro token member
    obtain ⟨n, there, rfl⟩ := List.mem_map.mp member
    exact (Numeral.spells_toString (arguments n there)).isPlain
  have last : Segment.IsReading valued
      [.flags (Phrase.flagToken v) [v] [(v, ⟨[toString m], toString m⟩)]] := by
    refine .flags (Phrase.introduces_flagToken (isFlagLetter_iff.mpr letter)) ?_ .nil
    exact .take takes (.bare _ (Numeral.spells_toString value).isPlain.unquoted) (.done _)
  have tokens : ((ns.map toString).map Segment.bare).flatMap Segment.tokens = ns.map toString := by
    rw [List.flatMap_map]
    exact List.flatMap_singleton' _
  have read := Segment.readAll_of_isReading (Segment.IsReading.bare plain last)
  rw [List.flatMap_append, tokens] at read
  exact read

theorem callAccessor_flagInteger (found : c.values.get? v = some text) :
    c.callAccessor .flagInteger [.str v.toString] =
      ((integerOf text).map .int).mapError .reading := by
  have named : c.flag? v.toString = some text := by
    rw [flag?, letter?]
    simp [found]
  change c.flagAt integerValue (.str v.toString) none = _
  simp only [flagAt, flagTextAt, named]
  rfl

theorem integerOf_toString {n : Int} (writable : Numeral.isWritable n = true) :
    integerOf (toString n) = .ok n := by
  rw [integerOf, Numeral.readInteger_of_spells (Numeral.spells_toString writable)]
  rfl

/-- The decimal spellings of integers that have no more digits than are read are the arguments of
the context, one each in order, and behind a flag with a value the spelling of an integer is its
value, negative or not. The accessors give the integers back, and there is no other flag. -/
theorem integers_kept (valued : List Char) (command : String) (ns : List Int) (v : Char) (m : Int)
    (writable : ∀ n ∈ m :: ns, Numeral.isWritable n = true) (letter : IsAsciiLetter v)
    (takes : v ∈ valued) :
    ∃ context, ofTokens? valued (command :: (ns.map toString ++ [Phrase.flagToken v, toString m])) =
        some context ∧
      context.args = ns.map toString ∧
      (∀ (i : Nat) (inside : i < ns.length),
        context.callAccessor .integer [.int i] = .ok (.int ns[i])) ∧
      context.callAccessor .flagInteger [.str v.toString] = .ok (.int m) ∧
      context.flags = [v] := by
  obtain ⟨value, arguments⟩ := List.forall_mem_cons.mp writable
  let segments : List Segment := (ns.map toString).map Segment.bare ++
    [.flags (Phrase.flagToken v) [v] [(v, ⟨[toString m], toString m⟩)]]
  have args : (ofSegments command segments).args = ns.map toString := by
    simp [ofSegments, segments, Segment.bare, Segment.argumentText?, List.filterMap_map,
      Function.comp_def]
  have letters : segments.flatMap Segment.letters = [v] := by
    simp [segments, Segment.bare, Segment.letters, List.flatMap_map]
  have values : segments.flatMap Segment.valueTexts = [(v, toString m)] := by
    simp [segments, Segment.bare, Segment.valueTexts, List.flatMap_map]
  refine ⟨ofSegments command segments, ?_, args, fun i inside => ?_, ?_, ?_⟩
  · rw [ofTokens?, read, readAll_integers writable letter takes]
  · have found : (ofSegments command segments).argument? i = some (toString ns[i]) := by
      rw [argument?, if_pos (Int.natCast_nonneg i), args]
      simp [inside]
    have read : (ofSegments command segments).integer i = .ok ns[i] := by
      rw [integer, string_of_argument? found]
      exact integerOf_toString (arguments _ (List.getElem_mem inside))
    rw [callAccessor_integer, read]
    rfl
  · have found : (ofSegments command segments).values.get? v = some (toString m) := by
      rw [get?_values_ofSegments, values]
      simp [Ordered.lastOf?]
    rw [callAccessor_flagInteger found, integerOf_toString value]
    rfl
  · change distinct (segments.flatMap Segment.letters) = [v]
    rw [letters]
    rfl

/-- A number below every machine word, a zero, and a negative value. -/
theorem integers_kept_shift : ∃ context,
    ofTokens? ['d'] ["shift", "-36893488147419103232", "0", "-d", "-5"] = some context ∧
      context.callAccessor .integer [.int 0] = .ok (.int (-36893488147419103232)) ∧
      context.callAccessor .flagInteger [.str "d"] = .ok (.int (-5)) ∧ context.flags = ['d'] := by
  have writable : ∀ n ∈ [-5, -36893488147419103232, 0], Numeral.isWritable n = true := by
    decide +kernel
  have letter : IsAsciiLetter 'd' := .inl (by decide)
  obtain ⟨context, read, -, integers, value, flags⟩ :=
    integers_kept ['d'] "shift" [-36893488147419103232, 0] 'd' (-5) writable letter (by decide)
  have tokens : [-36893488147419103232, 0].map toString ++ [Phrase.flagToken 'd', toString (-5)] =
      ["-36893488147419103232", "0", "-d", "-5"] := by
    decide +kernel
  rw [tokens] at read
  exact ⟨context, read, integers 0 (by decide), value, flags⟩

end Context
end CommandTree
