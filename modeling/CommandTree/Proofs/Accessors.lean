import CommandTree.Context.Call
import CommandTree.Context.Reading
import CommandTree.Proofs.Bounds

namespace CommandTree.Context
variable {c : Context} {i : Int} {text : String}

def IsAbsent (c : Context) (i : Int) : Prop := i < 0 ∨ c.args.length ≤ i

theorem argument?_of_isAbsent (absent : c.IsAbsent i) : c.argument? i = none := by
  unfold argument?
  split
  · rw [List.getElem?_eq_none_iff]
    unfold IsAbsent at absent
    omega
  · rfl

theorem argument?_of_not_isAbsent (present : ¬ c.IsAbsent i) :
    ∃ text, c.args[i.toNat]? = some text ∧ c.argument? i = some text := by
  simp only [IsAbsent, not_or, Int.not_lt, Int.not_le] at present
  obtain ⟨low, high⟩ := present
  have inside : i.toNat < c.args.length := by omega
  have found : c.args[i.toNat]? = some c.args[i.toNat] := List.getElem?_eq_getElem inside
  exact ⟨_, found, by rw [argument?, if_pos low, found]⟩

theorem string_of_isAbsent (absent : c.IsAbsent i) :
    c.string i = .error (.absent i) := by
  rw [string, argument?_of_isAbsent absent]

theorem string_of_argument? (found : c.argument? i = some text) : c.string i = .ok text := by
  rw [string, found]

theorem not_beyond_of_argument? (found : c.argument? i = some text) : ¬ c.args.length ≤ i := by
  intro beyond
  rw [argument?_of_isAbsent (.inr beyond)] at found
  exact nomatch found

/-! ### Calls by name -/

def Answer.value {α : Type} (ofRead : α → Value) : Answer α Value → Value
  | read a => ofRead a
  | fallback given => given

theorem map_value_read {α : Type} (ofRead : α → Value) (outcome : Except Fault α) :
    (outcome.map .read).map (Answer.value ofRead) = outcome.map ofRead := by
  cases outcome <;> rfl

variable (c i)

theorem argumentAt_int : c.argumentAt (.int i) = .ok (c.argument? i) := by
  simp only [argumentAt, Value.quantity?, Value.integer?, Numeral.Quantity.le_ofInt,
    Numeral.Quantity.lt_ofInt]
  split <;> rename_i outside
  · rw [argument?_of_isAbsent]
    simpa [IsAbsent, Int.not_le] using outside
  · rfl

theorem isBeyond_int : c.isBeyond (.int i) = .ok (decide (c.args.length ≤ i)) := by
  simp only [isBeyond, Value.quantity?, Numeral.Quantity.le_ofInt]

theorem callAccessor_string :
    c.callAccessor .string [.int i] = ((c.string i).map .str).mapError .reading := by
  change c.stringAt (.int i) none = _
  rw [stringAt, argumentAt_int, string]
  cases c.argument? i <;> rfl

theorem callAccessor_stringOr (given : Value) :
    c.callAccessor .string [.int i, given] = .ok ((c.stringOr i given).value .str) := by
  change c.stringAt (.int i) (some given) = _
  rw [stringAt, argumentAt_int, stringOr]
  cases c.argument? i <;> rfl

section Numbers
variable {α : Type} (convert : String → Except Fault α) (ofRead : α → Value)

theorem numberAt_int :
    c.numberAt (fun text => (convert text).map ofRead) (.int i) none =
      ((c.string i >>= convert).map ofRead).mapError .reading := by
  unfold numberAt
  rw [argumentAt_int, string]
  cases c.argument? i <;> rfl

theorem numberAt_int_given (given : Value) :
    c.numberAt (fun text => (convert text).map ofRead) (.int i) (some given) =
      ((if c.args.length ≤ i then .ok (.fallback given)
        else (c.string i >>= convert).map .read).map (Answer.value ofRead)).mapError .reading := by
  unfold numberAt
  rw [argumentAt_int, isBeyond_int]
  by_cases beyond : c.args.length ≤ i
  · rw [if_pos beyond, decide_eq_true beyond]
    rfl
  · rw [if_neg beyond, decide_eq_false beyond, map_value_read, string]
    cases c.argument? i <;> rfl

end Numbers

theorem callAccessor_integer :
    c.callAccessor .integer [.int i] = ((c.integer i).map .int).mapError .reading :=
  numberAt_int c i integerOf .int

theorem callAccessor_integerOr (given : Value) : c.callAccessor .integer [.int i, given] =
    ((c.integerOr i given).map (·.value .int)).mapError .reading :=
  numberAt_int_given c i integerOf .int given

theorem callAccessor_double :
    c.callAccessor .double [.int i] = ((c.double i).map .float).mapError .reading :=
  numberAt_int c i decimalOf .float

theorem callAccessor_doubleOr (given : Value) : c.callAccessor .double [.int i, given] =
    ((c.doubleOr i given).map (·.value .float)).mapError .reading :=
  numberAt_int_given c i decimalOf .float given

variable {c i}

/-! ### What the accessors answer -/

theorem notInteger_of_integerOf {fault : Fault} (failed : integerOf text = .error fault) :
    ∃ why, fault = .notInteger text why := by
  unfold integerOf at failed
  cases read : Numeral.readInteger text with
  | ok n =>
    rw [read] at failed
    exact nomatch failed
  | error why =>
    rw [read] at failed
    exact ⟨why, (Except.error.inj failed).symm⟩

theorem notDecimal_of_decimalOf {fault : Fault} (failed : decimalOf text = .error fault) :
    fault = .notDecimal text := by
  unfold decimalOf at failed
  split at failed
  · exact nomatch failed
  · exact (Except.error.inj failed).symm

theorem Fault.absent_of_writable (writable : Numeral.isWritable i = true) :
    Fault.absent i = .noArgument (toString i) :=
  if_pos writable

theorem Fault.absent_of_long (long : Numeral.isWritable i = false) :
    Fault.absent i = .longPosition := by
  simp [absent, long]

theorem number_of_isAbsent {α δ : Type} (convert : String → Except Fault α) (given : δ)
    (absent : c.IsAbsent i) :
    (if c.args.length ≤ i then .ok (.fallback given)
      else (c.string i >>= convert).map .read : Except Fault (Answer α δ)) =
      if i < 0 then .error (.absent i) else .ok (.fallback given) := by
  by_cases beyond : c.args.length ≤ i
  · rw [if_pos beyond, if_neg (by omega)]
  · rw [if_neg beyond, if_pos (absent.resolve_right beyond), string_of_isAbsent absent]
    rfl

theorem number_of_argument? {α δ : Type} (convert : String → Except Fault α) (given : δ)
    (found : c.argument? i = some text) :
    (if c.args.length ≤ i then .ok (.fallback given)
      else (c.string i >>= convert).map .read : Except Fault (Answer α δ)) =
      (convert text).map .read := by
  rw [if_neg (not_beyond_of_argument? found), string_of_argument? found]
  rfl

section Before
variable (before : i < 0) (given : Value)
include before

theorem callAccessor_integer_before :
    c.callAccessor .integer [.int i, given] = .error (.reading (.absent i)) := by
  have unread : c.integerOr i given = _ := number_of_isAbsent integerOf given (.inl before)
  rw [callAccessor_integerOr, unread, if_pos before]
  rfl

theorem callAccessor_double_before :
    c.callAccessor .double [.int i, given] = .error (.reading (.absent i)) := by
  have unread : c.doubleOr i given = _ := number_of_isAbsent decimalOf given (.inl before)
  rw [callAccessor_doubleOr, unread, if_pos before]
  rfl

end Before

theorem callAccessor_string_default (absent : c.IsAbsent i) (given : Value) :
    c.callAccessor .string [.int i, given] = .ok given := by
  rw [callAccessor_stringOr, stringOr, argument?_of_isAbsent absent]
  rfl

/-- At a position before the first argument or after the last no accessor finds anything. Without a
default each fails there with the same fault, which names the position unless that has too many
digits to be written. A text has its default there. A number has it after the last argument only,
and fails before the first. At every other position all of them give the argument there, or what it
converts to, or the fault of the conversion, with a default and without, and no conversion fails
with the fault of a position. -/
theorem positions_without_argument (c : Context) (i : Int) (given : Value) :
    (c.IsAbsent i → ∃ fault,
      (Numeral.isWritable i = true → fault = .reading (.noArgument (toString i))) ∧
      (Numeral.isWritable i = false → fault = .reading .longPosition) ∧
      (c.callAccessor .string [.int i] = .error fault ∧
        c.callAccessor .integer [.int i] = .error fault ∧
        c.callAccessor .double [.int i] = .error fault) ∧
      c.callAccessor .string [.int i, given] = .ok given ∧
      (0 ≤ i → c.callAccessor .integer [.int i, given] = .ok given ∧
        c.callAccessor .double [.int i, given] = .ok given) ∧
      (i < 0 → c.callAccessor .integer [.int i, given] = .error fault ∧
        c.callAccessor .double [.int i, given] = .error fault)) ∧
    (¬ c.IsAbsent i → ∃ text, c.args[i.toNat]? = some text ∧ ∀ defaults ∈ [[], [given]],
      c.callAccessor .string (.int i :: defaults) = .ok (.str text) ∧
      c.callAccessor .integer (.int i :: defaults) =
        ((integerOf text).map .int).mapError .reading ∧
      c.callAccessor .double (.int i :: defaults) =
        ((decimalOf text).map .float).mapError .reading) ∧
    ∀ text, (∀ fault, integerOf text = .error fault → ∃ why, fault = .notInteger text why) ∧
      ∀ fault, decimalOf text = .error fault → fault = .notDecimal text := by
  refine ⟨fun absent => ?_, fun present => ?_,
    fun text => ⟨fun _ => notInteger_of_integerOf, fun _ => notDecimal_of_decimalOf⟩⟩
  · have unread := string_of_isAbsent absent
    refine ⟨.reading (.absent i), fun writable => ?_, fun long => ?_, ⟨?_, ?_, ?_⟩,
      callAccessor_string_default absent given, fun after => ⟨?_, ?_⟩,
      fun before => ⟨callAccessor_integer_before before given,
        callAccessor_double_before before given⟩⟩
    · rw [Fault.absent_of_writable writable]
    · rw [Fault.absent_of_long long]
    · rw [callAccessor_string, unread]
      rfl
    · rw [callAccessor_integer, integer, unread]
      rfl
    · rw [callAccessor_double, double, unread]
      rfl
    · have defaulted : c.integerOr i given = _ := number_of_isAbsent integerOf given absent
      rw [callAccessor_integerOr, defaulted, if_neg (by omega)]
      rfl
    · have defaulted : c.doubleOr i given = _ := number_of_isAbsent decimalOf given absent
      rw [callAccessor_doubleOr, defaulted, if_neg (by omega)]
      rfl
  · obtain ⟨text, stands, found⟩ := argument?_of_not_isAbsent present
    have read := string_of_argument? found
    have integers : c.integerOr i given = _ := number_of_argument? integerOf given found
    have doubles : c.doubleOr i given = _ := number_of_argument? decimalOf given found
    refine ⟨text, stands, List.forall_mem_cons.mpr ⟨⟨?_, ?_, ?_⟩,
      List.forall_mem_singleton.mpr ⟨?_, ?_, ?_⟩⟩⟩
    · rw [callAccessor_string, read]
      rfl
    · rw [callAccessor_integer, integer, read]
      rfl
    · rw [callAccessor_double, double, read]
      rfl
    · rw [callAccessor_stringOr, stringOr, found]
      rfl
    · rw [callAccessor_integerOr, integers, map_value_read]
    · rw [callAccessor_doubleOr, doubles, map_value_read]

def pace : Context := read [] "pace" ["7", "fast"]

theorem positions_without_argument_pace :
    ofTokens? [] ["pace", "7", "fast"] = some pace ∧
      (pace.IsAbsent 2 ∧ pace.callAccessor .double [.int 2, .null] = .ok .null) ∧
      ¬ pace.IsAbsent 1 ∧ pace.callAccessor .integer [.int 1, .null] =
        .error (.reading (.notInteger "fast" .malformed)) := by
  have args : pace.args = ["7", "fast"] := by decide +kernel
  have absent : pace.IsAbsent 2 := by simp [IsAbsent, args]
  have present : ¬ pace.IsAbsent 1 := by simp [IsAbsent, args]
  obtain ⟨text, stands, calls⟩ := (positions_without_argument pace 1 .null).2.1 present
  rw [args] at stands
  obtain rfl : "fast" = text := Option.some.inj stands
  have unread : integerOf "fast" = .error (.notInteger "fast" .malformed) := by rfl
  obtain ⟨-, integers, -⟩ := calls [.null] (by simp)
  rw [unread] at integers
  obtain ⟨fault, -, -, -, -, after, -⟩ := (positions_without_argument pace 2 .null).1 absent
  exact ⟨rfl, ⟨absent, (after (by decide)).2⟩, present, integers⟩

/-- Before the first argument a text has its default, but a number does not. -/
theorem numbers_before_the_first :
    ofTokens? [] ["pace", "7", "fast"] = some pace ∧ pace.IsAbsent (-1) ∧
      pace.callAccessor .string [.int (-1), .null] = .ok .null ∧
      pace.callAccessor .integer [.int (-1), .null] = .error (.reading (.noArgument "-1")) ∧
      pace.callAccessor .double [.int (-1), .null] = .error (.reading (.noArgument "-1")) := by
  have before : (-1 : Int) < 0 := by decide
  have named : Fault.absent (-1) = .noArgument "-1" :=
    Fault.absent_of_writable (by decide +kernel)
  refine ⟨rfl, .inl before, callAccessor_string_default (.inl before) .null, ?_, ?_⟩
  · rw [callAccessor_integer_before before, named]
  · rw [callAccessor_double_before before, named]

end CommandTree.Context
