import CommandTree.Dispatch
import CommandTree.Proofs.Host

namespace CommandTree

def Usage.ofLeaf (lead : String) (path : List String) (d : Definition) : String :=
  let flags := if d.alphabet.letters = [] then []
    else ["[-" ++ String.ofList d.alphabet.letters ++ "]"]
  let arguments := if d.usage.text = "" then [] else [d.usage.text]
  " ".intercalate ((lead ++ " ".intercalate path) :: (flags ++ arguments))

namespace Context
variable {context : Context}

theorem mem_sortedFlags {flag : Char} : flag ∈ context.sortedFlags ↔ flag ∈ context.flags :=
  List.mem_mergeSort

theorem sortedFlags_sorted (context : Context) : context.sortedFlags.Pairwise (· ≤ ·) := by
  have trans : ∀ a b c : Char, decide (a ≤ b) = true → decide (b ≤ c) = true →
      decide (a ≤ c) = true := by
    intro a b c first second
    exact decide_eq_true (Char.le_trans (of_decide_eq_true first) (of_decide_eq_true second))
  have total : ∀ a b : Char, (decide (a ≤ b) || decide (b ≤ a)) = true := by
    intro a b
    rw [Bool.or_eq_true, decide_eq_true_eq, decide_eq_true_eq]
    exact Char.le_total a b
  exact (List.pairwise_mergeSort trans total context.flags).imp of_decide_eq_true

theorem find?_sortedFlags_iff {p : Char → Bool} {flag : Char} :
    context.sortedFlags.find? p = some flag ↔
      flag ∈ context.flags ∧ p flag = true ∧
        ∀ other ∈ context.flags, p other = true → flag ≤ other := by
  have least : ∀ {flag}, context.sortedFlags.find? p = some flag →
      flag ∈ context.flags ∧ p flag = true ∧
        ∀ other ∈ context.flags, p other = true → flag ≤ other := by
    intro flag found
    obtain ⟨holds, before, after, split, failing⟩ := List.find?_eq_some_iff_append.mp found
    have sorted := sortedFlags_sorted context
    rw [split, List.pairwise_append] at sorted
    refine ⟨mem_sortedFlags.mp (List.mem_of_find?_eq_some found), holds, fun other given passes => ?_⟩
    have there : other ∈ before ++ flag :: after := split ▸ mem_sortedFlags.mpr given
    rcases List.mem_append.mp there with early | late
    · exact absurd passes (by simpa using failing other early)
    · rcases List.mem_cons.mp late with rfl | late
      · exact Char.le_refl _
      · exact List.rel_of_pairwise_cons sorted.2.1 late
  refine ⟨least, fun ⟨given, holds, first⟩ => ?_⟩
  cases found : context.sortedFlags.find? p with
  | none => exact absurd holds (List.find?_eq_none.mp found flag (mem_sortedFlags.mpr given))
  | some other =>
    obtain ⟨there, passes, below⟩ := least found
    rw [Char.le_antisymm (below flag given holds) (first other there passes)]

end Context

namespace Definition
variable {d : Definition} {context : Context} {least most : Int} {usage : String}

def Lacks (d : Definition) (context : Context) : Prop :=
  ∃ least, d.minArgs = .int least ∧ context.args.length < least

def Exceeded (d : Definition) (context : Context) : Prop :=
  ∃ most, d.maxArgs = .int most ∧ most ≠ -1 ∧ most < context.args.length

/-- A flag is the first in the order of code points that the command does not know. -/
structure Misses (d : Definition) (context : Context) (flag : Char) : Prop where
  given : flag ∈ context.flags
  unknown : flag ∉ d.alphabet.letters
  first : ∀ other ∈ context.flags, other ∉ d.alphabet.letters → flag ≤ other

structure Accepts (d : Definition) (context : Context) : Prop where
  enough : ∃ least, d.minArgs = .int least ∧ least ≤ context.args.length
  bounded : ∃ most, d.maxArgs = .int most ∧ (most = -1 ∨ context.args.length ≤ most)
  known : ∀ flag ∈ context.flags, flag ∈ d.alphabet.letters

theorem misses_iff {flag : Char} :
    d.Misses context flag ↔
      context.sortedFlags.find? (· ∉ d.alphabet.letters) = some flag := by
  simp only [Context.find?_sortedFlags_iff, decide_eq_true_eq]
  exact ⟨fun ⟨given, unknown, first⟩ => ⟨given, unknown, first⟩,
    fun ⟨given, unknown, first⟩ => ⟨given, unknown, first⟩⟩

theorem Misses.unique {flag other : Char} (first : d.Misses context flag)
    (second : d.Misses context other) : flag = other :=
  Char.le_antisymm (first.first other second.given second.unknown)
    (second.first flag first.given first.unknown)

namespace IsTyped
variable (typed : d.IsTyped least most usage)
include typed

theorem leaf_usage (lead : String) (path : List String) :
    Usage.leaf lead path d = .ok (Usage.ofLeaf lead path d) := by
  simp only [Usage.leaf, Usage.ofLeaf, typed.usage, Value.holds, Value.text, Usage.path,
    List.isEmpty_iff]
  by_cases silent : usage = "" <;> simp [silent]

theorem lacks_iff : d.Lacks context ↔ d.bounds.least.isReached context.args.length = false := by
  rw [← Bool.not_eq_true, typed.isReached_iff, Int.not_le]
  constructor
  · rintro ⟨n, declared, few⟩
    rw [typed.minArgs] at declared
    rwa [Value.int.inj declared]
  · exact fun few => ⟨least, typed.minArgs, few⟩

theorem exceeded_iff : d.Exceeded context ↔ d.bounds.most.isKept context.args.length = false := by
  rw [← Bool.not_eq_true, typed.isKept_iff, not_or, Int.not_le]
  constructor
  · rintro ⟨n, declared, finite, many⟩
    rw [typed.maxArgs] at declared
    rw [Value.int.inj declared]
    exact ⟨finite, many⟩
  · exact fun ⟨finite, many⟩ => ⟨most, typed.maxArgs, finite, many⟩

theorem accepts_iff : d.Accepts context ↔ ¬ d.Lacks context ∧ ¬ d.Exceeded context ∧
    ∀ flag ∈ context.flags, flag ∈ d.alphabet.letters := by
  rw [typed.lacks_iff, typed.exceeded_iff, Bool.not_eq_false, Bool.not_eq_false,
    typed.isReached_iff, typed.isKept_iff]
  constructor
  · rintro ⟨⟨m, minArgs, enough⟩, ⟨n, maxArgs, bounded⟩, known⟩
    rw [typed.minArgs] at minArgs
    rw [typed.maxArgs] at maxArgs
    rw [Value.int.inj minArgs, Value.int.inj maxArgs]
    exact ⟨enough, bounded, known⟩
  · exact fun ⟨enough, bounded, known⟩ =>
      ⟨⟨least, typed.minArgs, enough⟩, ⟨most, typed.maxArgs, bounded⟩, known⟩

theorem objection?_of_lacks (few : d.Lacks context) :
    Dispatcher.objection? d context = some (.tooFewArguments, "Too few arguments.") := by
  rw [Dispatcher.objection?, typed.lacks_iff.mp few]
  rfl

theorem objection?_of_exceeded (enough : ¬ d.Lacks context) (many : d.Exceeded context) :
    Dispatcher.objection? d context = some (.tooManyArguments, "Too many arguments.") := by
  rw [typed.lacks_iff, Bool.not_eq_false] at enough
  rw [Dispatcher.objection?, enough, typed.exceeded_iff.mp many]
  rfl

theorem objection?_of_bounded (enough : ¬ d.Lacks context) (bounded : ¬ d.Exceeded context) :
    Dispatcher.objection? d context =
      (context.sortedFlags.find? (· ∉ d.alphabet.letters)).map fun flag =>
        (.unknownFlag, "Unknown flag: " ++ flag.toString) := by
  rw [typed.lacks_iff, Bool.not_eq_false] at enough
  rw [typed.exceeded_iff, Bool.not_eq_false] at bounded
  rw [Dispatcher.objection?, enough, bounded]
  rfl

theorem objection?_of_misses (enough : ¬ d.Lacks context) (bounded : ¬ d.Exceeded context)
    {flag : Char} (missed : d.Misses context flag) :
    Dispatcher.objection? d context = some (.unknownFlag, "Unknown flag: " ++ flag.toString) := by
  rw [typed.objection?_of_bounded enough bounded]
  rw [misses_iff.mp missed]
  rfl

theorem objection?_of_accepts (accepts : d.Accepts context) :
    Dispatcher.objection? d context = none := by
  obtain ⟨enough, bounded, known⟩ := typed.accepts_iff.mp accepts
  rw [typed.objection?_of_bounded enough bounded, Option.map_eq_none_iff, List.find?_eq_none]
  intro flag given unknown
  exact of_decide_eq_true unknown (known flag (Context.mem_sortedFlags.mp given))

theorem judged (context : Context) :
    d.Lacks context ∨ (¬ d.Lacks context ∧ d.Exceeded context) ∨
      (¬ d.Lacks context ∧ ¬ d.Exceeded context ∧ ∃ flag, d.Misses context flag) ∨
        d.Accepts context := by
  by_cases few : d.Lacks context
  · exact .inl few
  by_cases many : d.Exceeded context
  · exact .inr (.inl ⟨few, many⟩)
  cases found : context.sortedFlags.find? (· ∉ d.alphabet.letters) with
  | none =>
    refine .inr (.inr (.inr (typed.accepts_iff.mpr ⟨few, many, fun flag given => ?_⟩)))
    simpa using List.find?_eq_none.mp found flag (Context.mem_sortedFlags.mpr given)
  | some flag => exact .inr (.inr (.inl ⟨few, many, flag, misses_iff.mpr found⟩))

end IsTyped
end Definition
end CommandTree
