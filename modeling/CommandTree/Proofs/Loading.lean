import CommandTree.Proofs.Building
import CommandTree.Proofs.Growth
import Mathlib.Data.List.Forall2
import Mathlib.Data.List.Nodup

namespace CommandTree

namespace Catalog
variable {catalog : Catalog} {id g : GroupId} {d : Definition}

theorem size_declare : (catalog.declare id d).2.groups.size = catalog.groups.size :=
  Array.size_modify

theorem group_add (inside : id.index < catalog.groups.size) (new : DefId) :
    (catalog.add id new).group g = { catalog.group g with
      members := if g = id then catalog.members g ++ [new] else catalog.members g } := by
  have listed : catalog.groups[id.index]? = some catalog.groups[id.index] :=
    Array.getElem?_eq_getElem inside
  simp only [members, group, add, Array.getElem?_modify]
  by_cases same : g = id
  · subst same
    simp [listed]
  · have apart : id.index ≠ g.index := by
      intro alike
      cases g
      cases id
      exact same (congrArg GroupId.mk alike.symm)
    simp [same, apart]

theorem group_declare (inside : id.index < catalog.groups.size) :
    (catalog.declare id d).2.group g = { catalog.group g with
      members := if g = id then catalog.members g ++ [⟨catalog.definitions.size⟩]
        else catalog.members g } := by
  have defined : (catalog.define d).2.groups.size = catalog.groups.size := rfl
  exact group_add (defined ▸ inside) _

theorem members_declare (inside : id.index < catalog.groups.size) :
    (catalog.declare id d).2.members g =
      if g = id then catalog.members g ++ [⟨catalog.definitions.size⟩] else catalog.members g :=
  congrArg Group.members (group_declare inside)

theorem mem_members_declare (inside : id.index < catalog.groups.size) {e : DefId} :
    e ∈ (catalog.declare id d).2.members g ↔
      e ∈ catalog.members g ∨ g = id ∧ e = ⟨catalog.definitions.size⟩ := by
  rw [members_declare inside]
  by_cases same : g = id <;> simp [same]

theorem definition_declare_new :
    (catalog.declare id d).2.definition ⟨catalog.definitions.size⟩ = d := by
  have declared : (catalog.define d).2.definition ⟨catalog.definitions.size⟩ = _ :=
    definition_define d ⟨catalog.definitions.size⟩
  rwa [if_pos rfl] at declared

end Catalog

namespace Table

/-! ### The groups of a table -/

variable {groups : List (String × GroupId)} {name : String} {id : GroupId}

theorem emptyGroups_eq (catalog : Catalog) (names : List String) :
    emptyGroups catalog names =
      ((names.zipIdx catalog.groups.size).map fun named => (named.1, ⟨named.2⟩),
        { catalog with
          groups := catalog.groups ++ (names.map fun name => ({ name := .str name } : Group)).toArray
        }) := by
  induction names generalizing catalog with
  | nil => simp [emptyGroups]
  | cons name rest ih =>
    simp [emptyGroups, ih, Catalog.newGroup, List.zipIdx_cons]

theorem mem_of_lookup (found : groups.lookup name = some id) : (name, id) ∈ groups := by
  obtain ⟨before, after, rfl, -⟩ := List.lookup_eq_some_iff.mp found
  exact List.mem_append_right _ List.mem_cons_self

theorem exists_lookup (named : name ∈ groups.map (·.1)) : ∃ id, groups.lookup name = some id := by
  obtain ⟨entry, member, rfl⟩ := List.mem_map.mp named
  rw [← Option.isSome_iff_exists, List.lookup_isSome_iff]
  exact ⟨entry, member, beq_self_eq_true _⟩

def entriesOf (id : GroupId) (work : List (GroupId × Entry)) : List Entry :=
  (work.filter (·.1 = id)).map (·.2)

theorem entriesOf_append_singleton (work : List (GroupId × Entry)) (g : GroupId) (e : Entry) :
    entriesOf id (work ++ [(g, e)]) =
      if g = id then entriesOf id work ++ [e] else entriesOf id work := by
  unfold entriesOf
  by_cases same : g = id <;> simp [same]

theorem flatMap_of_name {named : List (String × List Entry)} {entries : List Entry}
    (once : (named.map (·.1)).Nodup) (member : (name, entries) ∈ named) :
    (named.flatMap fun group => if group.1 = name then group.2 else []) = entries := by
  induction named with
  | nil => exact nomatch member
  | cons group rest ih =>
    obtain ⟨fresh, once⟩ := List.nodup_cons.mp once
    rcases List.mem_cons.mp member with rfl | member
    · have others : (rest.flatMap fun group => if group.1 = name then group.2 else []) = [] := by
        refine List.flatMap_eq_nil_iff.mpr fun other listed => if_neg fun same => ?_
        exact fresh (List.mem_map.mpr ⟨other, listed, same⟩)
      simp [others]
    · have different : group.1 ≠ name := by
        rintro rfl
        exact fresh (List.mem_map.mpr ⟨_, member, rfl⟩)
      simp [different, ih once member]

theorem entriesOf_map (g : GroupId) (entries : List Entry) :
    entriesOf id (entries.map fun e => (g, e)) = if g = id then entries else [] := by
  by_cases same : g = id <;> simp [entriesOf, List.filter_map, Function.comp_def, same]

theorem lookup_injective {other : String} (once : (groups.map (·.2)).Nodup)
    (found : groups.lookup name = some id) (there : groups.lookup other = some id) :
    other = name :=
  congrArg Prod.fst
    (List.inj_on_of_nodup_map once (mem_of_lookup there) (mem_of_lookup found) rfl)

theorem entriesOf_placed {table : Table} {entries : List Entry} (closed : table.IsClosed)
    (names : groups.map (·.1) = table.names) (once : (groups.map (·.2)).Nodup)
    (member : (name, entries) ∈ table.groups) (found : groups.lookup name = some id) :
    entriesOf id (table.placed groups) = entries := by
  -- Ids are distinct, so the work for this one comes from its own name only.
  have parts : entriesOf id (table.placed groups) = table.groups.flatMap fun group =>
      if group.1 = name then group.2 else [] := by
    unfold placed entriesOf
    rw [List.filter_flatMap, List.map_flatMap]
    refine List.flatMap_congr fun group listed => ?_
    have named : group.1 ∈ groups.map (·.1) := names ▸ List.mem_map.mpr ⟨group, listed, rfl⟩
    obtain ⟨g, there⟩ := exists_lookup named
    dsimp only
    rw [there]
    refine (entriesOf_map g group.2).trans (if_congr ?_ rfl rfl)
    constructor
    · rintro rfl
      exact lookup_injective once found there
    · intro same
      rw [same, found] at there
      exact (Option.some.inj there).symm
  rw [parts, flatMap_of_name closed.once member]

/-! ### Building entry by entry -/

/-- How far the building has come: each group has a definition of its own for each entry that is
done. -/
structure Progress (groups : List (String × GroupId)) (resolver : Resolver)
    (done : List (GroupId × Entry)) (building : Building) : Prop where
  agrees : building.resolver.Agrees resolver
  inside : ∀ group ∈ groups, group.2.index < building.catalog.groups.size
  named : ∀ group ∈ groups, (building.catalog.group group.2).name = .str group.1
  declared : ∀ group ∈ groups, ∀ d ∈ building.catalog.members group.2,
    d.index < building.catalog.definitions.size
  built : ∀ group ∈ groups, List.Forall₂
    (fun d e => e.IsBuilt groups (e.handlerIn resolver) (building.catalog.definition d))
    (building.catalog.members group.2) (entriesOf group.2 done)
  once : ∀ group ∈ groups, (building.catalog.members group.2).Nodup
  apart : ∀ group ∈ groups, ∀ other ∈ groups, ∀ d ∈ building.catalog.members group.2,
    d ∈ building.catalog.members other.2 → group.2 = other.2

variable {resolver : Resolver} {done : List (GroupId × Entry)} {building : Building}

theorem Progress.declare (progress : Progress groups resolver done building)
    {group : String × GroupId} (listed : group ∈ groups) {e : Entry} {d : Definition}
    (built : e.IsBuilt groups (e.handlerIn resolver) d) {later : Resolver}
    (agrees : later.Agrees building.resolver) (records : List LogRecord) :
    Progress groups resolver (done ++ [(group.2, e)])
      ⟨(building.catalog.declare group.2 d).2, later, records⟩ := by
  have inside := progress.inside group listed
  have grown : building.catalog.Extends (building.catalog.declare group.2 d).2 :=
    Catalog.extends_declare group.2 d
  have last : (building.catalog.declare group.2 d).2.definitions.size =
      building.catalog.definitions.size + 1 := Catalog.size_define d
  have fresh : ∀ other ∈ groups,
      ⟨building.catalog.definitions.size⟩ ∉ building.catalog.members other.2 :=
    fun other there member => absurd (progress.declared other there _ member) (Nat.lt_irrefl _)
  constructor
  case agrees => exact fun reference => (agrees reference).trans (progress.agrees reference)
  case inside =>
    intro other there
    rw [Catalog.size_declare]
    exact progress.inside other there
  case named =>
    intro other there
    rw [Catalog.group_declare inside]
    exact progress.named other there
  case declared =>
    intro other there x member
    rcases (Catalog.mem_members_declare inside).mp member with before | ⟨-, rfl⟩
    · exact Nat.lt_of_lt_of_le (progress.declared other there x before) grown.size
    · rw [last]
      exact Nat.lt_succ_self _
  case built =>
    intro other there
    -- Earlier members keep their definitions because they were declared before the new one.
    have kept : List.Forall₂ (fun x e => e.IsBuilt groups (e.handlerIn resolver)
        ((building.catalog.declare group.2 d).2.definition x))
        (building.catalog.members other.2) (entriesOf other.2 done) := by
      have before := (List.forall₂_and_left _ _).mpr
        ⟨progress.declared other there, progress.built other there⟩
      refine before.imp fun x e ⟨declared, stands⟩ => ?_
      rw [grown.definition x declared]
      exact stands
    rw [Catalog.members_declare inside, entriesOf_append_singleton]
    by_cases same : other.2 = group.2
    · rw [if_pos same, if_pos same.symm]
      refine List.rel_append kept (.cons ?_ .nil)
      rw [Catalog.definition_declare_new]
      exact built
    · rw [if_neg same, if_neg (Ne.symm same)]
      exact kept
  case once =>
    intro other there
    rw [Catalog.members_declare inside]
    split
    · rw [List.nodup_append_comm]
      exact List.nodup_cons.mpr ⟨fresh other there, progress.once other there⟩
    · exact progress.once other there
  case apart =>
    intro first firstThere second secondThere x inFirst inSecond
    rcases (Catalog.mem_members_declare inside).mp inFirst with before | ⟨here, rfl⟩
    · rcases (Catalog.mem_members_declare inside).mp inSecond with early | ⟨-, rfl⟩
      · exact progress.apart first firstThere second secondThere x before early
      · exact absurd before (fresh first firstThere)
    · rcases (Catalog.mem_members_declare inside).mp inSecond with early | ⟨there, -⟩
      · exact absurd early (fresh second secondThere)
      · exact here.trans there.symm

theorem buildAll_cases (progress : Progress groups resolver done building)
    {work : List (GroupId × Entry)}
    (closed : ∀ item ∈ work, item.1 ∈ groups.map (·.2) ∧ item.2.IsValid ∧
      ∀ name ∈ item.2.nested, ∃ id, groups.lookup name = some id) :
    ((∀ item ∈ work, item.2.IsLoadable resolver) ∧ ∃ built,
      buildAll groups building work = (built, none) ∧
        Progress groups resolver (done ++ work) built) ∨
    (¬∀ item ∈ work, item.2.IsLoadable resolver) ∧ ∃ built fault,
      buildAll groups building work = (built, some fault) := by
  -- The work is done from the front; what is done already and the state grow with it.
  induction work generalizing done building with
  | nil => exact .inl ⟨fun _ member => (nomatch member), building, rfl, by simpa using progress⟩
  | cons item rest ih =>
    obtain ⟨⟨listed, valid, found⟩, closed⟩ := List.forall_mem_cons.mp closed
    obtain ⟨group, there, same⟩ := List.mem_map.mp listed
    have handler := Entry.handlerIn_of_agrees (e := item.2) progress.agrees
    rw [buildAll]
    rcases Entry.build_cases valid found item.1 building with
      ⟨ready, d, later, records, built, agrees, step⟩ | ⟨unready, stopped, fault, step⟩
    · rw [handler] at built
      have next := progress.declare there built agrees records
      rw [same] at next
      rw [step]
      rcases ih next closed with ⟨others, final, run, reached⟩ | ⟨broken, final, fault, run⟩
      · refine .inl ⟨List.forall_mem_cons.mpr ⟨ready.of_agrees progress.agrees, others⟩, final, run, ?_⟩
        rwa [List.append_assoc] at reached
      · exact .inr ⟨fun all => broken (List.forall_mem_cons.mp all).2, final, fault, run⟩
    · rw [step]
      refine .inr ⟨fun all => unready ?_, _, fault, rfl⟩
      exact (List.forall_mem_cons.mp all).1.of_agrees progress.agrees.symm

theorem group_emptyGroups {catalog : Catalog} {names : List String} {group : String × GroupId}
    (listed : group ∈ (emptyGroups catalog names).1) :
    (emptyGroups catalog names).2.groups[group.2.index]? = some { name := .str group.1 } := by
  rw [emptyGroups_eq] at listed ⊢
  obtain ⟨⟨name, i⟩, member, rfl⟩ := List.mem_map.mp listed
  obtain ⟨low, there⟩ := List.mk_mem_zipIdx_iff_le_and_getElem?_sub.mp member
  simp [Array.getElem?_append, Nat.not_lt.mpr low, there]

theorem map_fst_emptyGroups (catalog : Catalog) (names : List String) :
    (emptyGroups catalog names).1.map (·.1) = names := by
  simp [emptyGroups_eq, Function.comp_def]

theorem nodup_emptyGroups (catalog : Catalog) (names : List String) :
    ((emptyGroups catalog names).1.map (·.2)).Nodup := by
  have ids : (emptyGroups catalog names).1.map (·.2) =
      ((names.zipIdx catalog.groups.size).map (·.2)).map GroupId.mk := by
    rw [emptyGroups_eq, List.map_map, List.map_map]
    rfl
  rw [ids, List.zipIdx_map_snd]
  exact (List.nodup_range' 1).map fun _ _ same => congrArg GroupId.index same

theorem progress_emptyGroups (catalog : Catalog) (names : List String) (resolver : Resolver) :
    Progress (emptyGroups catalog names).1 resolver []
      ⟨(emptyGroups catalog names).2, resolver, []⟩ := by
  have empty : ∀ group ∈ (emptyGroups catalog names).1,
      (emptyGroups catalog names).2.group group.2 = { name := .str group.1 } := by
    intro group listed
    rw [Catalog.group, group_emptyGroups listed, Option.getD_some]
  have bare : ∀ group ∈ (emptyGroups catalog names).1,
      (emptyGroups catalog names).2.members group.2 = [] :=
    fun group listed => congrArg Group.members (empty group listed)
  have absent : ∀ group ∈ (emptyGroups catalog names).1, ∀ d,
      d ∉ (emptyGroups catalog names).2.members group.2 :=
    fun group listed => List.eq_nil_iff_forall_not_mem.mp (bare group listed)
  constructor
  case agrees => exact fun _ => rfl
  case inside =>
    intro group listed
    exact (Array.getElem?_eq_some_iff.mp (group_emptyGroups listed)).1
  case named => exact fun group listed => congrArg Group.name (empty group listed)
  case declared => exact fun group listed d member => absurd member (absent group listed d)
  case built =>
    intro group listed
    dsimp only
    rw [bare group listed]
    exact .nil
  case once =>
    intro group listed
    dsimp only
    rw [bare group listed]
    exact List.nodup_nil
  case apart => exact fun group listed _ _ d member => absurd member (absent group listed d)

end Table

/-! ### Loaded graphs -/

/-- The graph that a table describes: one group for each name, and in it one definition for each
entry, in the order of the table. -/
structure Loaded.IsGraphOf (table : Table) (resolver : Resolver) (loaded : Loaded) : Prop where
  names : loaded.groups.map (·.1) = table.names
  apart : (loaded.groups.map (·.2)).Nodup
  root : loaded.groups.lookup table.root = some loaded.root
  named : ∀ group ∈ loaded.groups, (loaded.catalog.group group.2).name = .str group.1
  built : ∀ name entries, (name, entries) ∈ table.groups → ∃ id,
    loaded.groups.lookup name = some id ∧ List.Forall₂
      (fun d e => e.IsBuilt loaded.groups (e.handlerIn resolver) (loaded.catalog.definition d))
      (loaded.catalog.members id) entries
  once : (loaded.groups.flatMap fun group => loaded.catalog.members group.2).Nodup

namespace Table
variable {table : Table} {groups : List (String × GroupId)} {resolver : Resolver}

theorem mem_work {item : GroupId × Entry} : item ∈ table.placed groups ↔
    ∃ group ∈ table.groups, groups.lookup group.1 = some item.1 ∧ item.2 ∈ group.2 := by
  unfold placed
  rw [List.mem_flatMap]
  refine exists_congr fun group => and_congr_right fun _ => ?_
  obtain ⟨id, e⟩ := item
  dsimp only
  cases groups.lookup group.1 with
  | none => simp
  | some g => simp [and_comm]

theorem ready_of_mem_placed (closed : table.IsClosed) (names : groups.map (·.1) = table.names) :
    ∀ item ∈ table.placed groups, item.1 ∈ groups.map (·.2) ∧ item.2.IsValid ∧
      ∀ name ∈ item.2.nested, ∃ id, groups.lookup name = some id := by
  intro item member
  obtain ⟨group, listed, there, inside⟩ := mem_work.mp member
  refine ⟨List.mem_map.mpr ⟨_, mem_of_lookup there, rfl⟩, closed.entries group listed _ inside, ?_⟩
  intro name nested
  exact exists_lookup (names ▸ closed.nested group listed _ inside name nested)

theorem Progress.isGraphOf {building : Building} (closed : table.IsClosed)
    (names : groups.map (·.1) = table.names) (apart : (groups.map (·.2)).Nodup)
    (progress : Progress groups resolver (table.placed groups) building) {root : GroupId}
    (rooted : groups.lookup table.root = some root) :
    Loaded.IsGraphOf table resolver ⟨building.catalog, groups, root⟩ where
  names := names
  apart := apart
  root := rooted
  named := progress.named
  built name entries member := by
    have known : name ∈ groups.map (·.1) := names ▸ List.mem_map.mpr ⟨_, member, rfl⟩
    obtain ⟨id, found⟩ := exists_lookup known
    have built := progress.built _ (mem_of_lookup found)
    rw [entriesOf_placed closed names apart member found] at built
    exact ⟨id, found, built⟩
  once := by
    refine List.nodup_flatMap.mpr ⟨progress.once, ?_⟩
    refine (List.pairwise_map.mp apart).imp_of_mem fun first second different d here there => ?_
    exact different (progress.apart _ first _ second d here there)

theorem build_cases (closed : table.IsClosed) (origin : String) (catalog : Catalog)
    (resolver : Resolver) :
    ((∀ group ∈ table.groups, ∀ e ∈ group.2, e.IsLoadable resolver) ∧ ∃ loaded,
      (table.build origin catalog resolver).outcome = .ok loaded ∧
        loaded.IsGraphOf table resolver) ∨
    (¬∀ group ∈ table.groups, ∀ e ∈ group.2, e.IsLoadable resolver) ∧ ∃ fault,
      (table.build origin catalog resolver).outcome = .error fault := by
  have names := map_fst_emptyGroups catalog table.names
  have apart := nodup_emptyGroups catalog table.names
  have start := progress_emptyGroups catalog table.names resolver
  unfold build
  generalize emptyGroups catalog table.names = laid at names apart start ⊢
  obtain ⟨groups, grown⟩ := laid
  dsimp only at names apart start ⊢
  have found : ∀ name ∈ table.names, ∃ id, groups.lookup name = some id :=
    fun name known => exists_lookup (names ▸ known)
  have ready := ready_of_mem_placed closed names
  have everywhere : (∀ item ∈ table.placed groups, item.2.IsLoadable resolver) ↔
      ∀ group ∈ table.groups, ∀ e ∈ group.2, e.IsLoadable resolver := by
    constructor
    · intro all group listed e inside
      obtain ⟨id, there⟩ := found group.1 (List.mem_map.mpr ⟨group, listed, rfl⟩)
      exact all (id, e) (mem_work.mpr ⟨group, listed, there, inside⟩)
    · intro all item member
      obtain ⟨group, listed, -, inside⟩ := mem_work.mp member
      exact all group listed item.2 inside
  obtain ⟨root, rooted⟩ := found table.root closed.root
  rw [← everywhere]
  rcases buildAll_cases start ready with ⟨all, built, run, reached⟩ | ⟨broken, built, fault, run⟩
  · rw [run, rooted]
    exact .inl ⟨all, _, rfl, reached.isGraphOf closed names apart rooted⟩
  · rw [run]
    exact .inr ⟨broken, fault, rfl⟩

/-- Data that a table was read from names only groups that exist; it is loaded exactly when every
entry passes the checks and every reference leads to a handler, and then as the graph that the table
describes. -/
theorem load_builds {data : Value} (accepted : read data = .valid table) (origin : String)
    (catalog : Catalog) (resolver : Resolver) :
    table.IsClosed ∧
    ((∃ loaded, (load data origin catalog resolver).outcome = .ok loaded) ↔
      ∀ group ∈ table.groups, ∀ e ∈ group.2, e.IsLoadable resolver) ∧
    ∀ loaded, (load data origin catalog resolver).outcome = .ok loaded →
      loaded.IsGraphOf table resolver := by
  have closed := isClosed_of_read accepted
  obtain ⟨fields, rfl, -⟩ := Schema.readRecord_valid accepted
  have built : load (.map fields) origin catalog resolver = table.build origin catalog resolver := by
    unfold load
    dsimp only
    rw [accepted]
  rw [built]
  refine ⟨closed, ?_⟩
  rcases build_cases closed origin catalog resolver with
    ⟨all, loaded, done, graph⟩ | ⟨broken, fault, failed⟩
  · refine ⟨iff_of_true ⟨loaded, done⟩ all, fun other ended => ?_⟩
    obtain rfl := Except.ok.inj (done.symm.trans ended)
    exact graph
  · refine ⟨iff_of_false ?_ broken, fun other ended => ?_⟩
    · rintro ⟨loaded, done⟩
      exact nomatch failed.symm.trans done
    · exact nomatch failed.symm.trans ended

/-- The hall leads to the annex and to itself, and the annex leads back to the hall. -/
def gallery : Value := .map [
  (.str "root", .str "hall"),
  (.str "groups", .map [
    (.str "hall", .list [
      .map [(.str "aliases", .list [.str "paint", .str "p"]), (.str "flags", .str "fd:"),
        (.str "min", .int 1), (.str "max", .int 2), (.str "handler", .str "studio:paint")],
      .map [(.str "aliases", .str "in"), (.str "nested", .list [.str "annex", .str "hall"])]]),
    (.str "annex", .list [.map [(.str "aliases", .str "out"), (.str "nested", .str "hall")]])])]

def galleryTable : Table where
  root := "hall"
  groups := [
    ("hall", [
      { name := "paint", synonyms := ["p"], desc := "", usage := "", flags := "fd:", minArgs := 1,
        maxArgs := 2, permissions := [], handler := some "studio:paint", nested := [] },
      { name := "in", synonyms := [], desc := "", usage := "", flags := "", minArgs := 0,
        maxArgs := -1, permissions := [], handler := none, nested := ["annex", "hall"] }]),
    ("annex", [
      { name := "out", synonyms := [], desc := "", usage := "", flags := "", minArgs := 0,
        maxArgs := -1, permissions := [], handler := none, nested := ["hall"] }])]

theorem read_gallery : read gallery = .valid galleryTable := by rfl

def galleryResolver : Resolver where
  world := [("studio", .mk "module 'studio'" "studio"
    [("paint", .mk "function" "paint" [] (some fun _ _ => .give .null))] none)]

theorem load_builds_gallery : read gallery = .valid galleryTable ∧ galleryTable.IsClosed ∧
    (∀ group ∈ galleryTable.groups, ∀ e ∈ group.2, e.IsLoadable galleryResolver) ∧
    ∃ loaded, (load gallery "gallery.yml" {} galleryResolver).outcome = .ok loaded ∧
      loaded.IsGraphOf galleryTable galleryResolver := by
  obtain ⟨closed, loads, graph⟩ := load_builds read_gallery "gallery.yml" {} galleryResolver
  have done : (load gallery "gallery.yml" {} galleryResolver).outcome.isOk = true := by
    decide +kernel
  cases ended : (load gallery "gallery.yml" {} galleryResolver).outcome with
  | error fault =>
    rw [ended] at done
    exact nomatch done
  | ok loaded =>
    exact ⟨read_gallery, closed, loads.mp ⟨loaded, ended⟩, loaded, rfl, graph loaded ended⟩

end Table
end CommandTree
