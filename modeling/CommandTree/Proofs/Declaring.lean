import CommandTree.Proofs.Loading
import CommandTree.Proofs.Terms
import Mathlib.Data.List.TakeWhile

/-!
Here declaring is taken step by step, so that what fails on the way would leave behind what came
before.
-/

namespace CommandTree

namespace Text

theorem trim_eq_nil_iff {cs : List Char} : trim cs = [] ↔ ∀ c ∈ cs, isBlank c = true := by
  unfold trim trimBy
  rw [List.reverse_eq_nil_iff, List.dropWhile_eq_nil_iff]
  constructor
  · intro blank
    rw [← List.dropWhile_eq_nil_iff]
    -- What is left in front would start with a character that is not blank.
    cases left : cs.dropWhile isBlank with
    | nil => rfl
    | cons c rest =>
      have plain := List.head?_dropWhile_not isBlank cs
      simp only [left, List.head?_cons, List.mem_reverse, List.forall_mem_cons] at plain blank
      simp [blank.1] at plain
  · intro blank c member
    exact blank c ((List.dropWhile_sublist _).subset (List.mem_reverse.mp member))

end Text

namespace Draft

def documented : Option String → Value
  | none => .null
  | some text => .str text

/-- A description that is to be taken from documentation of white space. -/
def LacksLine (desc : String) (documentation : Option String) : Prop :=
  desc = "" ∧ ∃ text, documentation = some text ∧ text ≠ "" ∧
    ∀ c ∈ text.toList, Text.isBlank c = true

/-- A description that is given, or the first line of documentation without the white space around
it. -/
def summary (desc : String) (documentation : Option String) : String :=
  if desc = "" then
    String.ofList (Text.firstLine (Text.trim (documentation.getD "").toList))
  else desc

theorem description_blank {desc : String} {documentation : Option String}
    (lacks : LacksLine desc documentation) :
    description (.str desc) (documented documentation) = .error .blankDocumentation := by
  obtain ⟨rfl, text, rfl, given, blank⟩ := lacks
  simp [description, documented, Value.holds, given, Text.trim_eq_nil_iff.mpr blank]

theorem description_summary {desc : String} {documentation : Option String}
    (found : ¬LacksLine desc documentation) :
    description (.str desc) (documented documentation) =
      .ok (.str (summary desc documentation)) := by
  unfold summary
  split <;> rename_i empty
  · subst empty
    cases documentation with
    | none => rfl
    | some text =>
      by_cases given : text = ""
      · subst given
        rfl
      · cases trimmed : Text.trim text.toList with
        | nil => exact absurd ⟨rfl, text, rfl, given, Text.trim_eq_nil_iff.mp trimmed⟩ found
        | cons c line => simp [description, documented, Value.holds, given, trimmed]
  · simp [description, Value.holds, empty]

end Draft

/-! ### Step by step -/

/-- Declaring at work. What it has changed stays so when it fails. -/
abbrev Declaring := ExceptT DeclarationFault (StateM Catalog)

namespace Declaring
variable {α : Type}

def perform (declaring : Declaring α) (catalog : Catalog) : Declared α × Catalog :=
  (declaring.run.run catalog).run

def check : Declared α → Declaring α
  | .ok a => pure a
  | .error fault => throw fault

def build (draft : Draft) : Declaring DefId := do
  let catalog ← get
  let d ← check (draft.check catalog)
  set (catalog.define d).2
  return (catalog.define d).1

def append (group : GroupId) (d : DefId) : Declaring DefId := do
  modify fun catalog => catalog.add group d
  return d

def add (group : GroupId) (draft : Draft) : Declaring DefId := do
  let d ← build draft
  append group d

def command (group : GroupId) (draft : Draft) (documentation : Value) : Declaring DefId := do
  let desc ← check (Draft.description draft.desc documentation)
  add group { draft with desc }

def nest (group : GroupId) (draft : Draft) : Declaring DefId := do
  if draft.nested.isEmpty then check (Draft.refuse (.noProvider draft.aliases.written))
  add group draft

end Declaring

namespace Catalog

/-- A declaration that gives what it makes of the catalog, as one that keeps the catalog when it
fails. -/
def settle (catalog : Catalog) : Declared (DefId × Catalog) → Declared DefId × Catalog
  | .ok (d, grown) => (.ok d, grown)
  | .error fault => (.error fault, catalog)

def declareThenAdd (catalog : Catalog) (group : GroupId) (draft : Draft) :
    Declared (DefId × Catalog) := do
  let (d, grown) ← catalog.declareAlone draft
  return (d, grown.add group d)

theorem declareThenAdd_eq (catalog : Catalog) (group : GroupId) (draft : Draft) :
    catalog.declareThenAdd group draft = (do
      let d ← draft.check catalog
      return catalog.declare group d) := by
  unfold declareThenAdd declareAlone
  cases draft.check catalog with
  | ok d => rfl
  | error fault => rfl

end Catalog

namespace Declaring
variable {α β : Type} (group : GroupId) (draft : Draft) (catalog : Catalog)

theorem perform_bind (x : Declaring α) (f : α → Declaring β) (catalog : Catalog) :
    (x >>= f).perform catalog =
      match x.perform catalog with
      | (.ok a, next) => (f a).perform next
      | (.error fault, next) => (.error fault, next) := by
  simp only [perform, ExceptT.run_bind, StateT.run_bind, Id.run_bind]
  rcases (x.run.run catalog).run with ⟨_ | _, _⟩ <;> rfl

theorem perform_check (declared : Declared α) (catalog : Catalog) :
    (check declared).perform catalog = (declared, catalog) := by
  cases declared <;> rfl

theorem perform_build :
    (build draft).perform catalog = catalog.settle (catalog.declareAlone draft) := by
  have got : (get : Declaring Catalog).perform catalog = (.ok catalog, catalog) := rfl
  rw [build, perform_bind, got]
  dsimp only
  rw [perform_bind, perform_check, Catalog.declareAlone]
  cases draft.check catalog with
  | ok d => rfl
  | error fault => rfl

theorem perform_add :
    (add group draft).perform catalog = catalog.settle (catalog.declareThenAdd group draft) := by
  rw [add, perform_bind, perform_build, Catalog.declareThenAdd]
  cases catalog.declareAlone draft with
  | ok made => rfl
  | error fault => rfl

theorem perform_command (documentation : Value) :
    (command group draft documentation).perform catalog =
      catalog.settle (catalog.command group draft documentation) := by
  rw [command, perform_bind, perform_check, Catalog.command]
  cases Draft.description draft.desc documentation with
  | ok desc =>
    dsimp only
    rw [perform_add, Catalog.declareThenAdd_eq]
    rfl
  | error fault => rfl

theorem perform_nest :
    (nest group draft).perform catalog = catalog.settle (catalog.nest group draft) := by
  unfold nest Catalog.nest
  cases draft.nested.isEmpty with
  | true => rfl
  | false =>
    simp only [Bool.false_eq_true, if_false]
    rw [perform_add, Catalog.declareThenAdd_eq]

end Declaring

/-! ### What is added -/

namespace Catalog
variable {catalog : Catalog} {group : GroupId} {draft : Draft} {terms : Terms}

/-- A later catalog in which a group lists one definition more, at its end, while all else is as it
was. -/
structure Lists (before : Catalog) (group : GroupId) (d : DefId) (after : Catalog) : Prop where
  groups : ∀ g, after.group g = { before.group g with
    members := if g = group then before.members g ++ [d] else before.members g }
  others : ∀ e, e ≠ d → after.definition e = before.definition e

/-- How a declaration may end, and what it leaves behind. -/
inductive Settles (catalog : Catalog) (group : GroupId) (terms : Terms) :
    Declared DefId × Catalog → Prop where
  | added {d : DefId} {grown : Catalog} (sound : terms.IsSound)
      (built : terms.IsBuilt (grown.definition d)) (fresh : d.index = catalog.definitions.size)
      (lists : catalog.Lists group d grown) : Settles catalog group terms (.ok d, grown)
  | refused {fault : RegistrationFault} (unsound : ¬terms.IsSound) (short : ¬terms.HasLongBounds) :
      Settles catalog group terms (.error (.registration fault), catalog)
  | unshown (long : terms.HasLongBounds) :
      Settles catalog group terms (.error .longBound, catalog)

theorem Settles.of_ok {ended : Declared DefId × Catalog}
    (settles : catalog.Settles group terms ended) {d : DefId} (done : ended.1 = .ok d) :
    terms.IsBuilt (ended.2.definition d) ∧ catalog.Lists group d ended.2 := by
  cases settles with
  | added sound built fresh lists =>
    cases done
    exact ⟨built, lists⟩
  | refused => exact nomatch done
  | unshown => exact nomatch done

theorem lists_declare (there : group.index < catalog.groups.size) (d : Definition) :
    catalog.Lists group ⟨catalog.definitions.size⟩ (catalog.declare group d).2 := by
  constructor
  · intro g
    exact group_declare there
  · intro e different
    have kept : (catalog.define d).2.definition e = _ := definition_define d e
    rwa [if_neg fun same => different (congrArg DefId.mk same)] at kept

theorem lists_add (there : group.index < catalog.groups.size) (d : DefId) :
    catalog.Lists group d (catalog.add group d) :=
  ⟨fun _ => group_add there d, fun _ _ => rfl⟩

theorem settles_check (there : group.index < catalog.groups.size) (states : draft.States terms) :
    catalog.Settles group terms
      (catalog.settle (do
        let d ← draft.check catalog
        return catalog.declare group d)) := by
  rcases Draft.check_cases states catalog with
    ⟨sound, d, checked, built⟩ | ⟨unsound, short, fault, refused⟩ | ⟨long, refused⟩
  · have new : (catalog.declare group d).2.definition ⟨catalog.definitions.size⟩ = d :=
      definition_declare_new
    rw [← new] at built
    rw [checked]
    exact .added sound built rfl (lists_declare there d)
  · rw [refused]
    exact .refused unsound short
  · rw [refused]
    exact .unshown long

theorem settles_command (there : group.index < catalog.groups.size) (states : draft.States terms)
    {documentation : Option String} (found : ¬Draft.LacksLine terms.desc documentation) :
    catalog.Settles group { terms with desc := Draft.summary terms.desc documentation }
      (catalog.settle (catalog.command group draft (Draft.documented documentation))) := by
  unfold command
  rw [states.desc, Draft.description_summary found]
  exact settles_check there { states with desc := rfl }

theorem settles_nest (there : group.index < catalog.groups.size) (states : draft.States terms)
    (bare : terms.handler? = none) (endless : terms.maxArgs = -1) :
    catalog.Settles group terms (catalog.settle (catalog.nest group draft)) := by
  unfold nest
  rw [states.nested]
  cases provided : terms.groups with
  | nil =>
    refine .refused (fun sound => ?_) (fun long => long.crossed.1 endless)
    have either := sound.either
    rw [bare, provided] at either
    exact nomatch either.mpr rfl
  | cons first others =>
    exact settles_check there states

end Catalog

/-! ### Every declaration -/

namespace Declaring
open Draft

/-- Declaring a command adds one definition to the end of its group, or fails and changes nothing.
It fails with an error of registration, unless the documentation that is to describe the command is
nothing but white space, or the bounds are too long to be shown. -/
theorem whole_or_nothing {catalog : Catalog} {group : GroupId}
    (there : group.index < catalog.groups.size) {draft : Draft} {terms : Terms}
    (states : draft.States terms) :
    (∀ documentation : Option String,
      let ended := (command group draft (documented documentation)).perform catalog
      ended = catalog.settle (catalog.command group draft (documented documentation)) ∧
      (LacksLine terms.desc documentation → ended = (.error .blankDocumentation, catalog)) ∧
      (¬LacksLine terms.desc documentation → catalog.Settles group
        { terms with desc := summary terms.desc documentation } ended)) ∧
    ((nest group draft).perform catalog = catalog.settle (catalog.nest group draft) ∧
      (terms.handler? = none → terms.maxArgs = -1 →
        catalog.Settles group terms ((nest group draft).perform catalog))) ∧
    ((add group draft).perform catalog = catalog.settle (catalog.declareThenAdd group draft) ∧
      catalog.Settles group terms ((add group draft).perform catalog)) ∧
    ∀ d : DefId, (append group d).perform catalog = (.ok d, catalog.add group d) ∧
      catalog.Lists group d (catalog.add group d) := by
  refine ⟨fun documentation => ⟨perform_command .., fun lacks => ?_, fun found => ?_⟩,
    ⟨perform_nest .., fun bare endless => ?_⟩, ⟨perform_add .., ?_⟩, fun d => ⟨rfl, ?_⟩⟩
  · rw [perform_command, Catalog.command, states.desc, description_blank lacks]
    rfl
  · rw [perform_command]
    exact Catalog.settles_command there states found
  · rw [perform_nest]
    exact Catalog.settles_nest there states bare endless
  · rw [perform_add, Catalog.declareThenAdd_eq]
    exact Catalog.settles_check there states
  · exact Catalog.lists_add there d

def skies : Catalog := (({} : Catalog).newGroup (.str "skies")).2

def clearDraft : Draft := { aliases := .str "clear", handler := some fun _ _ => .give .null }

def clearTerms : Terms := { names := ["clear"], handler? := clearDraft.handler }

theorem states_clear : clearDraft.States clearTerms :=
  ⟨rfl, rfl, rfl, rfl, rfl, rfl, rfl, rfl, rfl⟩

def skyDraft : Draft := { aliases := .str "sky", nested := [.group ⟨0⟩] }

def skyTerms : Terms := { names := ["sky"], groups := [⟨0⟩] }

theorem states_sky : skyDraft.States skyTerms := ⟨rfl, rfl, rfl, rfl, rfl, rfl, rfl, rfl, rfl⟩

def clearLines : String := "\n  Clears the sky.\x0bAll of it.\n"

theorem whole_or_nothing_sky :
    0 < skies.groups.size ∧ clearDraft.States clearTerms ∧ skyDraft.States skyTerms ∧
    (let ended := (command ⟨0⟩ clearDraft (documented (some clearLines))).perform skies;
      ended.1 = .ok ⟨0⟩ ∧ (ended.2.definition ⟨0⟩).desc = .str "Clears the sky." ∧
        skies.Lists ⟨0⟩ ⟨0⟩ ended.2) ∧
    (command ⟨0⟩ clearDraft (documented (some " \x1f"))).perform skies =
      (.error .blankDocumentation, skies) ∧
    (let ended := (nest ⟨0⟩ skyDraft).perform skies;
      ended.1 = .ok ⟨0⟩ ∧ skies.Lists ⟨0⟩ ⟨0⟩ ended.2) := by
  have there : (⟨0⟩ : GroupId).index < skies.groups.size := Nat.zero_lt_one
  obtain ⟨commands, -⟩ := whole_or_nothing there states_clear
  obtain ⟨-, ⟨-, nests⟩, -⟩ := whole_or_nothing there states_sky
  refine ⟨there, states_clear, states_sky, ?_, ?_, ?_⟩
  · have found : ¬LacksLine "" (some clearLines) := by
      rintro ⟨-, _, ⟨⟩, -, blank⟩
      exact nomatch blank 'C' (by decide)
    obtain ⟨-, -, settles⟩ := commands (some clearLines)
    obtain ⟨built, lists⟩ := (settles found).of_ok (d := ⟨0⟩) rfl
    exact ⟨rfl, built.desc, lists⟩
  · obtain ⟨-, refused, -⟩ := commands (some " \x1f")
    exact refused ⟨rfl, _, rfl, by decide, by simp [Text.isBlank]⟩
  · obtain ⟨-, lists⟩ := (nests rfl rfl).of_ok (d := ⟨0⟩) rfl
    exact ⟨rfl, lists⟩

/-- A blank for documentation ends the declaration with neither a definition nor an error of
registration. -/
theorem blank_documentation_escapes :
    ¬((∃ made, skies.command ⟨0⟩ clearDraft (.str " ") = .ok made) ∨
      ∃ fault, skies.command ⟨0⟩ clearDraft (.str " ") = .error (.registration fault)) := by
  have failed : skies.command ⟨0⟩ clearDraft (.str " ") = .error .blankDocumentation := rfl
  rw [failed]
  rintro (⟨made, done⟩ | ⟨fault, told⟩)
  · exact nomatch done
  · exact nomatch told

end Declaring
end CommandTree
