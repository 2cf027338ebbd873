import CommandTree.Proofs.Host
import CommandTree.Proofs.Lines

namespace CommandTree

def Definition.IsNamed (d : Definition) : Prop :=
  ∀ name ∈ d.aliases, Text.IsWord name.toList

namespace Draft
variable {catalog : Catalog} {draft : Draft} {d : Definition}

theorem name?_str_iff {s name : String} :
    (Value.str s).name? = some name ↔ name = s ∧ Text.IsWord s.toList := by
  unfold Value.name?
  dsimp only
  split <;> rename_i wrong
  · refine iff_of_false nofun fun named => ?_
    rcases wrong with rfl | broken
    · exact named.2.given rfl
    · obtain ⟨c, member, blank⟩ := List.any_eq_true.mp broken
      exact absurd blank (by simp [named.2.unbroken c member])
  · obtain ⟨given, unbroken⟩ := not_or.mp wrong
    have word : Text.IsWord s.toList := ⟨by simpa using given, by simpa using unbroken⟩
    exact ⟨fun same => ⟨(Option.some.inj same).symm, word⟩, fun named => congrArg some named.1.symm⟩

theorem isWord_of_name? {v : Value} {name : String} (named : v.name? = some name) :
    Text.IsWord name.toList := by
  cases v with
  | str s =>
    obtain ⟨rfl, word⟩ := name?_str_iff.mp named
    exact word
  | _ => exact nomatch named

theorem isWord_of_checkNames {first : Value} {items : List Value} {names : List String}
    (done : checkNames first items = .ok names) : ∀ name ∈ names, Text.IsWord name.toList := by
  induction items generalizing names with
  | nil =>
    obtain rfl := Except.ok.inj done
    exact fun _ member => nomatch member
  | cons v rest ih =>
    unfold checkNames at done
    cases named : v.name? with
    | none =>
      rw [named] at done
      exact nomatch done
    | some name =>
      rw [named] at done
      cases others : checkNames first rest with
      | error fault =>
        rw [others] at done
        exact nomatch done
      | ok synonyms =>
        rw [others] at done
        obtain rfl := Except.ok.inj done
        exact List.forall_mem_cons.mpr ⟨isWord_of_name? named, ih others⟩

theorem checkNames_texts_cases (first : Value) (texts : List String) :
    ((∀ name ∈ texts, Text.IsWord name.toList) ∧ checkNames first (texts.map .str) = .ok texts) ∨
      (¬∀ name ∈ texts, Text.IsWord name.toList) ∧
        ∃ fault, checkNames first (texts.map .str) = .error (.registration fault) := by
  induction texts with
  | nil => exact .inl ⟨nofun, rfl⟩
  | cons text rest ih =>
    rw [List.forall_mem_cons, List.map_cons, checkNames]
    cases named : (Value.str text).name? with
    | none =>
      refine .inr ⟨fun ⟨word, _⟩ => ?_, _, rfl⟩
      exact nomatch named.symm.trans (name?_str_iff.mpr ⟨rfl, word⟩)
    | some name =>
      obtain ⟨rfl, word⟩ := name?_str_iff.mp named
      rcases ih with ⟨words, read⟩ | ⟨broken, fault, refused⟩
      · exact .inl ⟨⟨word, words⟩, by rw [read]; rfl⟩
      · exact .inr ⟨fun ⟨_, words⟩ => broken words, fault, by rw [refused]; rfl⟩

theorem checkNames_texts_iff {first : Value} {texts names : List String} :
    checkNames first (texts.map .str) = .ok names ↔
      names = texts ∧ ∀ name ∈ texts, Text.IsWord name.toList := by
  rcases checkNames_texts_cases first texts with ⟨words, read⟩ | ⟨broken, fault, refused⟩
  · rw [read, Except.ok.injEq]
    exact ⟨fun same => ⟨same.symm, words⟩, fun ⟨same, _⟩ => same.symm⟩
  · rw [refused]
    exact iff_of_false nofun fun ⟨_, words⟩ => broken words

theorem isNamed_of_check (done : draft.check catalog = .ok d) : d.IsNamed := by
  obtain ⟨_, _, -, read⟩ := (check_ok done).names
  exact isWord_of_checkNames read

end Draft

namespace Catalog
variable {catalog : Catalog} {g : GroupId} {d : DefId}

/-- Groups list definitions that exist, and these have words for names. -/
structure IsNamed (catalog : Catalog) : Prop where
  inside : ∀ g, ∀ d ∈ catalog.members g, d.index < catalog.definitions.size
  words : ∀ d : DefId, d.index < catalog.definitions.size → (catalog.definition d).IsNamed

theorem IsNamed.of_member (named : catalog.IsNamed) (member : d ∈ catalog.members g) :
    (catalog.definition d).IsNamed :=
  named.words d (named.inside g d member)

theorem isNamed_empty : ({} : Catalog).IsNamed :=
  ⟨fun _ _ member => (nomatch member), fun _ inside => (nomatch inside)⟩

theorem mem_members_newGroup {name : Value} (member : d ∈ (catalog.newGroup name).2.members g) :
    d ∈ catalog.members g := by
  simp only [members, group, newGroup, Array.getElem?_push] at member ⊢
  split at member
  · exact nomatch member
  · exact member

theorem mem_members_add {id : GroupId} {new : DefId} (member : d ∈ (catalog.add id new).members g) :
    d ∈ catalog.members g ∨ d = new := by
  simp only [members, group, add, Array.getElem?_modify] at member ⊢
  split at member
  · cases there : catalog.groups[g.index]? with
    | none =>
      rw [there] at member
      exact nomatch member
    | some found =>
      rw [there] at member
      simpa using member
  · exact .inl member

theorem isNamed_newGroup (named : catalog.IsNamed) (name : Value) :
    (catalog.newGroup name).2.IsNamed :=
  ⟨fun g d member => named.inside g d (mem_members_newGroup member), named.words⟩

theorem isNamed_add (named : catalog.IsNamed) (id : GroupId)
    (declared : d.index < catalog.definitions.size) : (catalog.add id d).IsNamed := by
  refine ⟨fun g e member => ?_, named.words⟩
  rcases mem_members_add member with before | rfl
  · exact named.inside g e before
  · exact declared

theorem size_define (d : Definition) :
    (catalog.define d).2.definitions.size = catalog.definitions.size + 1 := Array.size_push _

theorem isNamed_define (named : catalog.IsNamed) {new : Definition} (words : new.IsNamed) :
    (catalog.define new).2.IsNamed := by
  refine ⟨fun g d member => ?_, fun d inside => ?_⟩
  · rw [size_define]
    exact Nat.lt_succ_of_lt (named.inside g d member)
  · rw [definition_define]
    split <;> rename_i last
    · exact words
    · rw [size_define] at inside
      exact named.words d (by omega)

theorem isNamed_declare (named : catalog.IsNamed) (id : GroupId) {new : Definition}
    (words : new.IsNamed) : (catalog.declare id new).2.IsNamed :=
  isNamed_add (isNamed_define named words) id (by rw [size_define]; exact Nat.lt_succ_self _)

theorem Grows.isNamed {before after : Catalog} (named : before.IsNamed)
    (grows : Grows before after) : after.IsNamed := by
  cases grows with
  | same => exact named
  | group name => exact isNamed_newGroup named name
  | declare group _ checked => exact isNamed_declare named group (Draft.isNamed_of_check checked)
  | define _ checked => exact isNamed_define named (Draft.isNamed_of_check checked)
  | add group declared => exact isNamed_add named group declared

end Catalog

theorem Host.reachable_isNamed {h : Host} (reachable : Reachable h) : h.catalog.IsNamed :=
  reachable.catalog_induction Catalog.isNamed_empty fun _ _ => Catalog.Grows.isNamed

end CommandTree
