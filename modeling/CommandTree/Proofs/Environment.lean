import CommandTree.Proofs.Casing
import CommandTree.Proofs.Lines
import CommandTree.Proofs.Tables
import CommandTree.Settings

namespace CommandTree

namespace Text

/-- A text with its first 26 capitals made small. -/
def small (s : String) : String := String.ofList (s.toList.map Char.toLower)

theorem toNat_lt_of_toLower {c : Char} (ascii : c.toLower.toNat < 0x80) : c.toNat < 0x80 := by
  rw [toNat_toLower] at ascii
  split at ascii <;> omega

theorem lowerChar_of_ascii {c : Char} (ascii : c.toNat < 0x80) : lowerChar c = [c.toLower] :=
  if_pos ascii

theorem lowerAfter_of_ascii {cs : List Char} (ascii : ∀ c ∈ cs, c.toNat < 0x80)
    (before : List Char) : lowerAfter before cs = cs.map Char.toLower := by
  induction cs generalizing before with
  | nil => rfl
  | cons c rest ih =>
    obtain ⟨first, others⟩ := List.forall_mem_cons.mp ascii
    have plain : c.toNat ≠ 0x3A3 := by omega
    rw [lowerAfter, if_neg plain, lowerChar_of_ascii first, ih others]
    rfl

theorem lower_trim_of_small {s word : String} (made : small s = word) (given : word ≠ "")
    (plain : ∀ c ∈ word.toList, c.toNat < 0x80 ∧ isBlank c = false) :
    lower (String.ofList (trim s.toList)) = word := by
  have letters : s.toList.map Char.toLower = word.toList := by
    rw [← made, small, String.toList_ofList]
  have ascii : ∀ c ∈ s.toList, c.toNat < 0x80 := by
    intro c member
    have lowered : c.toLower ∈ word.toList := letters ▸ List.mem_map_of_mem member
    exact toNat_lt_of_toLower (plain _ lowered).1
  have solid : IsWord s.toList := by
    constructor
    · intro empty
      rw [empty] at letters
      exact given (String.toList_inj.mp letters.symm)
    · intro c member
      have lowered : c.toLower ∈ word.toList := letters ▸ List.mem_map_of_mem member
      have among : c.toLower ∈ lowerChar c := by
        rw [lowerChar_of_ascii (ascii c member)]
        exact List.mem_singleton_self _
      rw [← isBlank_lowerChar among]
      exact (plain _ lowered).2
  rw [solid.isTight.trim_eq, lower, String.toList_ofList, lowerAfter_of_ascii ascii, letters,
    String.ofList_toList]

end Text

def Schema.Checked.SameOutcome {α : Type} (first second : Checked α) : Prop :=
  ∀ a, first = .valid a ↔ second = .valid a

namespace Settings
open Schema

/-! ### Switches -/

/-- The words that turn a switch on or off both in the environment and in settings. -/
def switchWords : List String := ["0", "off", "f", "false", "n", "no", "1", "on", "true", "yes"]

def onWords : List String := ["1", "true", "yes", "on"]

def isOn (text : String) : Bool :=
  onWords.contains (Text.lower (String.ofList (Text.trim text.toList)))

theorem environmentFlag_eq (environment : Environment) (name : String) (absent : Bool) :
    environmentFlag environment name absent =
      ((environment.lookup name).map isOn).getD absent := by
  unfold environmentFlag
  cases environment.lookup name with
  | none => rfl
  | some text => rw [Option.map_some, Option.getD_some, isOn, onWords]

theorem readTruth_str (text : String) : readTruth (.str text) =
    match truthWords.lookup (Text.small text) with
    | some b => .valid b
    | none => .fault .badTruth := rfl

theorem isOn_of_small {text word : String} (made : Text.small text = word)
    (known : word ∈ truthWords.map (·.1)) : isOn text = onWords.contains word := by
  have plain : ∀ word ∈ truthWords.map (·.1), word ≠ "" ∧
      ∀ c ∈ word.toList, c.toNat < 0x80 ∧ Text.isBlank c = false := by
    simp [truthWords, Text.isBlank]
  obtain ⟨given, letters⟩ := plain word known
  rw [isOn, Text.lower_trim_of_small made given letters]

/-- Two of the twelve words turn a switch on in settings and off in the environment. -/
theorem agree_iff_mem_switchWords : ∀ entry ∈ truthWords,
    (entry.2 = onWords.contains entry.1 ↔ entry.1 ∈ switchWords) := by
  decide +kernel

theorem mem_of_lookup_truthWords {word : String} {b : Bool}
    (found : truthWords.lookup word = some b) : (word, b) ∈ truthWords := by
  obtain ⟨before, after, shape, -⟩ := List.lookup_eq_some_iff.mp found
  simp [shape]

theorem readTruth_eq_isOn_iff (text : String) :
    readTruth (.str text) = .valid (isOn text) ↔ Text.small text ∈ switchWords := by
  rw [readTruth_str]
  cases found : truthWords.lookup (Text.small text) with
  | none =>
    have known : ∀ word ∈ switchWords, truthWords.lookup word ≠ none := by decide +kernel
    exact iff_of_false nofun fun member => known _ member found
  | some b =>
    have member := mem_of_lookup_truthWords found
    rw [isOn_of_small rfl (List.mem_map_of_mem member), ← agree_iff_mem_switchWords _ member,
      Checked.valid.injEq]

/-! ### Both ways to settings -/

def sources : List (String × String) :=
  [("command_prefix", "COMMANDS_PREFIX"), ("strict_aliases", "COMMANDS_STRICT_ALIASES"),
    ("require_frozen", "COMMANDS_REQUIRE_FROZEN"), ("log_level", "COMMANDS_LOG_LEVEL")]

def ofVariables (environment : Environment) : Checked Settings :=
  ofFields (sources.filterMap fun (field, name) =>
    (environment.lookup name).map fun text => (.str field, .str text))

/-- Puts settings together; faults of all four are kept. -/
def assemble (lead : Checked String) (strict frozen : Checked Bool) (level : Checked LogLevel) :
    Checked Settings :=
  (((lead.map Settings.mk).apply strict).apply frozen).apply level

/-- The text of a variable read as a field, or what the field is when the variable is not set. -/
def fromVariable {α : Type} (text? : Option String) (field : String) (absent : Checked α)
    (read : Value → Checked α) : Checked α :=
  match text? with
  | none => absent
  | some text => (read (.str text)).under (.key field)

variable {environment : Environment} {lead : Checked String} {strict frozen : Checked Bool}
  {level : Checked LogLevel} {settings : Settings}

theorem assemble_valid_iff : assemble lead strict frozen level = .valid settings ↔
    lead = .valid settings.lead ∧ strict = .valid settings.strictAliases ∧
      frozen = .valid settings.requireFrozen ∧ level = .valid settings.logLevel := by
  constructor
  · intro done
    obtain ⟨_, _, before, leveled, rfl⟩ := Checked.apply_valid done
    obtain ⟨_, _, begun, guarded, rfl⟩ := Checked.apply_valid before
    obtain ⟨_, _, first, ruled, rfl⟩ := Checked.apply_valid begun
    obtain ⟨_, led, rfl⟩ := Checked.map_valid first
    exact ⟨led, ruled, guarded, leveled⟩
  · rintro ⟨rfl, rfl, rfl, rfl⟩
    rfl

def leadOf (environment : Environment) : Checked String :=
  fromVariable (environment.lookup "COMMANDS_PREFIX") "command_prefix" (.valid "/") readLead

def levelOf (environment : Environment) : Checked LogLevel :=
  fromVariable (environment.lookup "COMMANDS_LOG_LEVEL") "log_level" (.valid .info) readLogLevel

theorem ofEnvironment_eq (environment : Environment) : ofEnvironment environment =
    assemble (leadOf environment)
      (.valid (environmentFlag environment "COMMANDS_STRICT_ALIASES" false))
      (.valid (environmentFlag environment "COMMANDS_REQUIRE_FROZEN" false))
      (levelOf environment) := by
  unfold ofEnvironment leadOf levelOf
  generalize environmentFlag environment "COMMANDS_STRICT_ALIASES" false = strict
  generalize environmentFlag environment "COMMANDS_REQUIRE_FROZEN" false = frozen
  cases environment.lookup "COMMANDS_PREFIX" with
  | none =>
    cases environment.lookup "COMMANDS_LOG_LEVEL" with
    | none => rfl
    | some level => rfl
  | some lead =>
    cases environment.lookup "COMMANDS_LOG_LEVEL" with
    | none => rfl
    | some level => rfl

theorem ofVariables_eq (environment : Environment) : ofVariables environment =
    assemble (leadOf environment)
      (fromVariable (environment.lookup "COMMANDS_STRICT_ALIASES") "strict_aliases" (.valid false)
        readTruth)
      (fromVariable (environment.lookup "COMMANDS_REQUIRE_FROZEN") "require_frozen" (.valid false)
        readTruth)
      (levelOf environment) := by
  unfold ofVariables leadOf levelOf
  simp only [sources, List.filterMap_cons, List.filterMap_nil]
  -- Each field is found where its variable is set, whichever of the others are.
  cases environment.lookup "COMMANDS_PREFIX" <;>
    cases environment.lookup "COMMANDS_STRICT_ALIASES" <;>
    cases environment.lookup "COMMANDS_REQUIRE_FROZEN" <;>
    cases environment.lookup "COMMANDS_LOG_LEVEL" <;> rfl

/-! ### Where they agree -/

/-- The texts for the lead and for the log level, where they are set, are such as settings take. -/
structure Environment.IsTaken (environment : Environment) : Prop where
  lead : ∀ text, environment.lookup "COMMANDS_PREFIX" = some text → text.length ≤ 1
  level : ∀ text, environment.lookup "COMMANDS_LOG_LEVEL" = some text →
    ∃ level, LogLevel.ofText? text = some level

/-- Both switches, where they are set, have one of some words for a text, in any letter case. -/
def Environment.SwitchesAmong (environment : Environment) (words : List String) : Prop :=
  ∀ name ∈ ["COMMANDS_STRICT_ALIASES", "COMMANDS_REQUIRE_FROZEN"],
    ∀ text, environment.lookup name = some text → Text.small text ∈ words

theorem fromVariable_valid_iff {α : Type} {text? : Option String} {field : String} {absent : α}
    {read : Value → Checked α} :
    (∃ a, fromVariable text? field (.valid absent) read = .valid a) ↔
      ∀ text, text? = some text → ∃ a, read (.str text) = .valid a := by
  cases text? with
  | none => exact iff_of_true ⟨absent, rfl⟩ nofun
  | some text =>
    constructor
    · rintro ⟨a, done⟩ _ ⟨⟩
      exact ⟨a, Checked.under_valid done⟩
    · intro readable
      obtain ⟨a, done⟩ := readable text rfl
      exact ⟨a, by rw [fromVariable, done]; rfl⟩

theorem readLead_valid_iff {text : String} :
    (∃ lead, readLead (.str text) = .valid lead) ↔ text.length ≤ 1 := by
  by_cases short : text.length ≤ 1
  · simp [readLead, readText, Checked.demand, Checked.bind, short]
  · simp [readLead, readText, Checked.demand, Checked.bind, Checked.fault, short]

theorem readLogLevel_valid_iff {text : String} :
    (∃ level, readLogLevel (.str text) = .valid level) ↔
      ∃ level, LogLevel.ofText? text = some level := by
  cases found : LogLevel.ofText? text with
  | none => simp [readLogLevel, readText, Checked.bind, Checked.fault, found]
  | some level => simp [readLogLevel, readText, Checked.bind, found]

theorem readTruth_valid_iff {text : String} :
    (∃ b, readTruth (.str text) = .valid b) ↔ Text.small text ∈ truthWords.map (·.1) := by
  rw [readTruth_str]
  cases found : truthWords.lookup (Text.small text) with
  | none =>
    have missing := List.lookup_eq_none_iff.mp found
    refine iff_of_false nofun fun listed => ?_
    obtain ⟨entry, member, same⟩ := List.mem_map.mp listed
    exact absurd (missing entry member) (by simp [same])
  | some b =>
    exact iff_of_true ⟨b, rfl⟩ (List.mem_map_of_mem (mem_of_lookup_truthWords found))

theorem isTaken_iff : environment.IsTaken ↔
    (∃ lead, leadOf environment = .valid lead) ∧ ∃ level, levelOf environment = .valid level := by
  simp only [leadOf, levelOf, fromVariable_valid_iff, readLead_valid_iff, readLogLevel_valid_iff]
  exact ⟨fun taken => ⟨taken.lead, taken.level⟩, fun ⟨lead, level⟩ => ⟨lead, level⟩⟩

theorem switch_agrees_iff (environment : Environment) (name field : String) (absent : Bool) :
    fromVariable (environment.lookup name) field (.valid absent) readTruth =
        .valid (environmentFlag environment name absent) ↔
      ∀ text, environment.lookup name = some text → Text.small text ∈ switchWords := by
  rw [environmentFlag_eq]
  cases environment.lookup name with
  | none => exact iff_of_true rfl nofun
  | some text =>
    have alike : fromVariable (some text) field (.valid absent) readTruth = .valid (isOn text) ↔
        readTruth (.str text) = .valid (isOn text) := by
      constructor
      · exact Checked.under_valid
      · intro done
        rw [fromVariable, done]
        rfl
    rw [Option.map_some, Option.getD_some, alike, readTruth_eq_isOn_iff]
    simp

theorem sameOutcome_iff (environment : Environment) :
    (ofEnvironment environment).SameOutcome (ofVariables environment) ↔
      ¬environment.IsTaken ∨ environment.SwitchesAmong switchWords := by
  simp only [Checked.SameOutcome, ofEnvironment_eq, ofVariables_eq, assemble_valid_iff]
  constructor
  · intro same
    by_cases taken : environment.IsTaken
    · -- What the environment makes of its switches has to be what settings make of them.
      obtain ⟨⟨lead, led⟩, level, leveled⟩ := isTaken_iff.mp taken
      obtain ⟨-, strict, frozen, -⟩ := (same ⟨lead, _, _, level⟩).mp ⟨led, rfl, rfl, leveled⟩
      exact .inr (List.forall_mem_cons.mpr ⟨(switch_agrees_iff ..).mp strict,
        List.forall_mem_singleton.mpr ((switch_agrees_iff ..).mp frozen)⟩)
    · exact .inl taken
  · rintro (refused | among) settings
    · exact iff_of_false
        (fun ⟨led, _, _, leveled⟩ => refused (isTaken_iff.mpr ⟨⟨_, led⟩, _, leveled⟩))
        (fun ⟨led, _, _, leveled⟩ => refused (isTaken_iff.mpr ⟨⟨_, led⟩, _, leveled⟩))
    · obtain ⟨strict, frozen⟩ := List.forall_mem_cons.mp among
      rw [(switch_agrees_iff ..).mpr strict,
        (switch_agrees_iff ..).mpr (List.forall_mem_singleton.mp frozen)]

theorem ofEnvironment_valid_iff (environment : Environment) :
    (∃ settings, ofEnvironment environment = .valid settings) ↔ environment.IsTaken := by
  simp only [ofEnvironment_eq, assemble_valid_iff, isTaken_iff]
  constructor
  · rintro ⟨settings, led, -, -, leveled⟩
    exact ⟨⟨_, led⟩, _, leveled⟩
  · rintro ⟨⟨lead, led⟩, level, leveled⟩
    exact ⟨⟨lead, _, _, level⟩, led, rfl, rfl, leveled⟩

theorem ofVariables_valid_iff (environment : Environment) :
    (∃ settings, ofVariables environment = .valid settings) ↔
      environment.IsTaken ∧ environment.SwitchesAmong (truthWords.map (·.1)) := by
  have switches : environment.SwitchesAmong (truthWords.map (·.1)) ↔
      (∃ b, fromVariable (environment.lookup "COMMANDS_STRICT_ALIASES") "strict_aliases"
        (.valid false) readTruth = .valid b) ∧
      ∃ b, fromVariable (environment.lookup "COMMANDS_REQUIRE_FROZEN") "require_frozen"
        (.valid false) readTruth = .valid b := by
    simp only [fromVariable_valid_iff, readTruth_valid_iff]
    exact List.forall_mem_cons.trans (and_congr_right fun _ => List.forall_mem_singleton)
  simp only [ofVariables_eq, assemble_valid_iff, isTaken_iff, switches]
  constructor
  · rintro ⟨settings, led, strict, frozen, leveled⟩
    exact ⟨⟨⟨_, led⟩, _, leveled⟩, ⟨_, strict⟩, _, frozen⟩
  · rintro ⟨⟨⟨lead, led⟩, level, leveled⟩, ⟨strict, ruled⟩, frozen, guarded⟩
    exact ⟨⟨lead, strict, frozen, level⟩, led, ruled, guarded, leveled⟩

/-- The environment gives settings if its lead and its log level are taken, whatever its switches
are, while its texts as settings are refused for a switch that is none of twelve words. The lead and
the log level are the same both ways, and all settings are if the switches are among ten words. -/
theorem environment_agrees (environment : Environment) :
    ((∃ settings, ofEnvironment environment = .valid settings) ↔ environment.IsTaken) ∧
    ((∃ settings, ofVariables environment = .valid settings) ↔
      environment.IsTaken ∧ environment.SwitchesAmong (truthWords.map (·.1))) ∧
    (∀ read given, ofEnvironment environment = .valid read →
      ofVariables environment = .valid given →
        read.lead = given.lead ∧ read.logLevel = given.logLevel) ∧
    ((ofEnvironment environment).SameOutcome (ofVariables environment) ↔
      ¬environment.IsTaken ∨ environment.SwitchesAmong switchWords) := by
  refine ⟨ofEnvironment_valid_iff _, ofVariables_valid_iff _, fun read given first second => ?_,
    sameOutcome_iff _⟩
  rw [ofEnvironment_eq, assemble_valid_iff] at first
  rw [ofVariables_eq, assemble_valid_iff] at second
  obtain ⟨led, -, -, leveled⟩ := first
  obtain ⟨ledToo, -, -, leveledToo⟩ := second
  exact ⟨Checked.valid.inj (led.symm.trans ledToo),
    Checked.valid.inj (leveled.symm.trans leveledToo)⟩

/-- A text that is no truth turns a switch of the environment off, where settings refuse it. -/
theorem switch_silently_off :
    let environment : Environment := [("COMMANDS_STRICT_ALIASES", "maybe")]
    ofEnvironment environment = .valid { strictAliases := false } ∧
      ofVariables environment = .faulty [⟨[.key "strict_aliases"], .badTruth⟩] ∧
      ¬(ofEnvironment environment).SameOutcome (ofVariables environment) := by
  have off : ofEnvironment [("COMMANDS_STRICT_ALIASES", "maybe")] =
      .valid { strictAliases := false } := rfl
  have refused : ofVariables [("COMMANDS_STRICT_ALIASES", "maybe")] =
      .faulty [⟨[.key "strict_aliases"], .badTruth⟩] := rfl
  refine ⟨off, refused, fun same => ?_⟩
  exact nomatch refused.symm.trans ((same _).mp off)

end Settings
end CommandTree
