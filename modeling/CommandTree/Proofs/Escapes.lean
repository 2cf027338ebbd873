import CommandTree.Proofs.Loading
import Mathlib.Data.List.TakeWhile

namespace CommandTree

def DeclarationFault.isRegistration : DeclarationFault → Bool
  | registration _ => true
  | _ => false

def Reference.Fault.isRegistration : Reference.Fault → Bool
  | registration _ => true
  | relativeModule => false

/-- Whether what stops a loading is told as an error of registration. -/
def LoadFault.isRegistration : LoadFault → Bool
  | registration _ => true
  | schema _ => true
  | reference fault => fault.isRegistration
  | declaration fault => fault.isRegistration

/-! ### References -/

namespace Reference
variable {reference module path : String}

/-- A reference whose module begins with a dot. -/
def IsRelative (reference : String) : Prop :=
  ∃ module path : String,
    reference = "." ++ module ++ ":" ++ path ∧ ':' ∉ module.toList ∧ path ≠ ""

theorem split?_colon {front back : List Char} (free : ':' ∉ front) :
    split? (String.ofList (front ++ ':' :: back)) =
      if front.isEmpty || back.isEmpty then none
      else some (String.ofList front, String.ofList back) := by
  have letters : ∀ c ∈ front, (c != ':') = true :=
    fun c member => bne_iff_ne.mpr fun same => free (same ▸ member)
  unfold split?
  dsimp only
  rw [String.toList_ofList, List.takeWhile_append_of_pos letters,
    List.dropWhile_append_of_pos letters]
  simp

theorem split?_eq_some_iff : split? reference = some (module, path) ↔
    reference = module ++ ":" ++ path ∧ ':' ∉ module.toList ∧ module ≠ "" ∧ path ≠ "" := by
  constructor
  · intro parted
    by_cases colon : ':' ∈ reference.toList
    · obtain ⟨front, back, shape, free⟩ := List.eq_append_cons_of_mem colon
      obtain rfl : reference = String.ofList (front ++ ':' :: back) := by
        rw [← shape, String.ofList_toList]
      rw [split?_colon free] at parted
      split at parted <;> rename_i given
      · exact nomatch parted
      · cases parted
        simpa [free, String.ofList_append, String.append_assoc] using given
    · have letters : ∀ c ∈ reference.toList, (c != ':') = true :=
        fun c member => bne_iff_ne.mpr fun same => colon (same ▸ member)
      have behind : reference.toList.dropWhile (· != ':') = [] :=
        List.dropWhile_eq_nil_iff.mpr letters
      unfold split? at parted
      dsimp only at parted
      rw [behind] at parted
      simp at parted
  · rintro ⟨rfl, free, given, more⟩
    have shape : module ++ ":" ++ path = String.ofList (module.toList ++ ':' :: path.toList) := by
      simp [String.ofList_append, String.append_assoc]
    rw [shape, split?_colon free]
    simp [given, more]

theorem isRelative_iff : IsRelative reference ↔
    ∃ module path, split? reference = some (module, path) ∧ module.startsWith "." = true := by
  simp only [split?_eq_some_iff, String.startsWith_string_iff]
  constructor
  · rintro ⟨name, path, rfl, free, more⟩
    refine ⟨"." ++ name, path, ⟨rfl, by simpa using free, by simp, more⟩, by simp⟩
  · rintro ⟨module, path, ⟨rfl, free, -, more⟩, rest, dotted⟩
    obtain rfl : module = "." ++ String.ofList rest := by
      rw [← String.toList_inj, ← dotted]
      simp
    exact ⟨String.ofList rest, path, rfl, by simpa using free, more⟩

end Reference

theorem Resolver.resolve_relative_iff {resolver : Resolver} {reference : String} :
    (resolver.resolve reference).outcome = .error .relativeModule ↔
      resolver.known.lookup reference = none ∧ Reference.IsRelative reference := by
  rw [Reference.isRelative_iff]
  unfold resolve
  split <;> rename_i known
  · exact iff_of_false nofun fun ⟨fresh, _⟩ => nomatch known.symm.trans fresh
  · rw [known]
    simp only [true_and]
    unfold resolveAnew
    split <;> rename_i parted
    · exact iff_of_false nofun (by simp [parted])
    · split <;> rename_i dotted
      · exact iff_of_true rfl ⟨_, _, parted, dotted⟩
      · refine iff_of_false ?_ fun ⟨_, _, found, starts⟩ => ?_
        · split
          · exact nofun
          · split <;> exact nofun
        · cases parted.symm.trans found
          exact dotted starts

theorem Reference.Fault.eq_relativeModule {fault : Reference.Fault}
    (odd : fault.isRegistration = false) : fault = .relativeModule := by
  cases fault with
  | registration fault => exact nomatch odd
  | relativeModule => rfl

/-! ### Entries -/

namespace Table.Entry

/-- The names are words, and the bounds cross where the larger one is too long to be shown. -/
structure HasLongBounds (e : Entry) : Prop where
  names : ∀ name ∈ e.aliases, Text.IsWord name.toList
  crossed : e.maxArgs ≠ -1 ∧ e.maxArgs < e.minArgs
  long : Numeral.isWritable e.minArgs = false

/-- What an entry breaks loading off with. -/
inductive Escapes (resolver : Resolver) (e : Entry) : LoadFault → Prop where
  | relative {reference : String} (given : e.reference? = some reference)
      (fresh : resolver.known.lookup reference = none)
      (relative : Reference.IsRelative reference) :
      Escapes resolver e (.reference .relativeModule)
  | longBounds
      (resolves : ∀ reference, e.reference? = some reference →
        ∃ found, (resolver.resolve reference).outcome = .ok found)
      (bounds : e.HasLongBounds) : Escapes resolver e (.declaration .longBound)

variable {e : Entry} {groups : List (String × GroupId)} {handler? : Option Handler}
  {catalog : Catalog} {resolver : Resolver} {building : Building}

theorem hasLongBounds_terms_iff (valid : e.IsValid) (groups : List (String × GroupId))
    (handler? : Option Handler) :
    (e.terms groups handler?).HasLongBounds ↔ e.HasLongBounds := by
  constructor
  · intro long
    exact ⟨long.words, long.crossed, long.long⟩
  · intro long
    exact ⟨List.cons_ne_nil _ _, long.names, valid.most, long.crossed, long.long⟩

theorem check_error_iff (valid : e.IsValid) {fault : DeclarationFault}
    (odd : fault.isRegistration = false) :
    (e.draft groups handler?).check catalog = .error fault ↔
      fault = .longBound ∧ e.HasLongBounds := by
  rw [← hasLongBounds_terms_iff valid groups handler?]
  rcases Draft.check_cases (states_draft groups handler? e) catalog with
    ⟨sound, d, checked, -⟩ | ⟨-, short, other, refused⟩ | ⟨long, refused⟩
  · rw [checked]
    exact iff_of_false nofun fun ⟨_, long⟩ => long.not_isSound sound
  · rw [refused]
    refine iff_of_false ?_ fun ⟨_, long⟩ => short long
    intro same
    cases same
    exact nomatch odd
  · rw [refused]
    simp [long, eq_comm]

theorem escapes_iff_of_resolves {fault : LoadFault}
    (resolves : ∀ reference, e.reference? = some reference →
      ∃ found, (resolver.resolve reference).outcome = .ok found) :
    e.Escapes resolver fault ↔ fault = .declaration .longBound ∧ e.HasLongBounds := by
  constructor
  · intro escapes
    cases escapes with
    | relative given fresh relative =>
      obtain ⟨found, resolved⟩ := resolves _ given
      exact nomatch resolved.symm.trans (Resolver.resolve_relative_iff.mpr ⟨fresh, relative⟩)
    | longBounds _ bounds => exact ⟨rfl, bounds⟩
  · rintro ⟨rfl, bounds⟩
    exact .longBounds resolves bounds

theorem Escapes.of_agrees {first second : Resolver} {fault : LoadFault}
    (escapes : e.Escapes first fault) (agrees : first.Agrees second) :
    e.Escapes second fault := by
  cases escapes with
  | relative given fresh relative =>
    have refused := Resolver.resolve_relative_iff.mpr ⟨fresh, relative⟩
    rw [agrees] at refused
    exact .relative given (Resolver.resolve_relative_iff.mp refused).1 relative
  | longBounds resolves bounds =>
    exact .longBounds (fun reference given => agrees reference ▸ resolves reference given) bounds

theorem declare_escapes_iff (valid : e.IsValid) (id : GroupId) {fault : LoadFault}
    (odd : fault.isRegistration = false) :
    (e.declare groups id handler? building).2 = some fault ↔
      fault = .declaration .longBound ∧ e.HasLongBounds := by
  unfold declare
  split <;> rename_i other checked
  · constructor
    · intro same
      cases same
      obtain ⟨rfl, long⟩ := (check_error_iff valid odd).mp checked
      exact ⟨rfl, long⟩
    · rintro ⟨rfl, long⟩
      cases checked.symm.trans ((check_error_iff valid rfl).mpr ⟨rfl, long⟩)
      rfl
  · refine iff_of_false nofun fun ⟨_, long⟩ => ?_
    exact nomatch checked.symm.trans ((check_error_iff valid rfl).mpr ⟨rfl, long⟩)

theorem build_escapes_iff (valid : e.IsValid) (id : GroupId) {fault : LoadFault}
    (odd : fault.isRegistration = false) :
    (e.build groups id building).2 = some fault ↔ e.Escapes building.resolver fault := by
  unfold build
  cases given : e.reference? with
  | none =>
    have resolves : ∀ reference, e.reference? = some reference →
        ∃ found, (building.resolver.resolve reference).outcome = .ok found :=
      fun _ same => nomatch given.symm.trans same
    dsimp only
    rw [declare_escapes_iff valid id odd, escapes_iff_of_resolves resolves]
  | some reference =>
    dsimp only
    split <;> rename_i ended
    · constructor
      · intro same
        cases same
        obtain rfl := Reference.Fault.eq_relativeModule odd
        obtain ⟨fresh, relative⟩ := Resolver.resolve_relative_iff.mp ended
        exact .relative given fresh relative
      · intro escapes
        cases escapes with
        | relative same fresh relative =>
          obtain rfl := Option.some.inj (given.symm.trans same)
          cases ended.symm.trans (Resolver.resolve_relative_iff.mpr ⟨fresh, relative⟩)
          rfl
        | longBounds resolves =>
          obtain ⟨found, resolved⟩ := resolves reference given
          exact nomatch ended.symm.trans resolved
    · have resolves : ∀ other, e.reference? = some other →
          ∃ found, (building.resolver.resolve other).outcome = .ok found := by
        intro other same
        obtain rfl := Option.some.inj (given.symm.trans same)
        exact ⟨_, ended⟩
      rw [declare_escapes_iff valid id odd, escapes_iff_of_resolves resolves]

end Table.Entry

/-! ### Tables -/

namespace Table
variable {table : Table} {groups : List (String × GroupId)} {resolver : Resolver}
  {building : Building} {work : List (GroupId × Entry)} {fault : LoadFault} {data : Value}
  {origin : String} {catalog : Catalog}

/-- The first entry that cannot be loaded breaks loading off. -/
def BreaksOff (resolver : Resolver) (entries : List Entry) (fault : LoadFault) : Prop :=
  ∃ before e after, entries = before ++ e :: after ∧
    (∀ earlier ∈ before, earlier.IsLoadable resolver) ∧ e.Escapes resolver fault

theorem breaksOff_cons_iff {e : Entry} {rest : List Entry} :
    BreaksOff resolver (e :: rest) fault ↔
      e.Escapes resolver fault ∨ e.IsLoadable resolver ∧ BreaksOff resolver rest fault := by
  constructor
  · rintro ⟨before, broken, after, shape, loadable, escapes⟩
    cases before with
    | nil =>
      obtain ⟨rfl, -⟩ := List.cons.inj shape
      exact .inl escapes
    | cons first before =>
      obtain ⟨rfl, others⟩ := List.cons.inj shape
      obtain ⟨ready, loadable⟩ := List.forall_mem_cons.mp loadable
      exact .inr ⟨ready, before, broken, after, others, loadable, escapes⟩
  · rintro (escapes | ⟨ready, before, broken, after, rfl, loadable, escapes⟩)
    · exact ⟨[], e, rest, rfl, (fun _ member => nomatch member), escapes⟩
    · exact ⟨e :: before, broken, after, rfl, List.forall_mem_cons.mpr ⟨ready, loadable⟩, escapes⟩

theorem buildAll_breaksOff_iff (agrees : building.resolver.Agrees resolver)
    (closed : ∀ item ∈ work, item.2.IsValid ∧
      ∀ name ∈ item.2.nested, ∃ id, groups.lookup name = some id)
    (odd : fault.isRegistration = false) :
    (buildAll groups building work).2 = some fault ↔
      BreaksOff resolver (work.map (·.2)) fault := by
  -- Resolvers change on the way, but they agree with the first.
  induction work generalizing building with
  | nil => exact iff_of_false nofun fun ⟨before, _, _, shape, _⟩ => by simp at shape
  | cons item rest ih =>
    obtain ⟨⟨valid, found⟩, closed⟩ := List.forall_mem_cons.mp closed
    have escapes : (item.2.build groups item.1 building).2 = some fault ↔
        item.2.Escapes resolver fault := by
      rw [Entry.build_escapes_iff valid item.1 odd]
      exact ⟨fun here => here.of_agrees agrees, fun here => here.of_agrees agrees.symm⟩
    rw [buildAll, List.map_cons, breaksOff_cons_iff, ← escapes]
    rcases Entry.build_cases valid found item.1 building with
      ⟨ready, d, later, records, -, kept, step⟩ | ⟨unready, stopped, other, step⟩
    · rw [step]
      dsimp only
      rw [ih (fun reference => (kept reference).trans (agrees reference)) closed]
      simp [ready.of_agrees agrees]
    · rw [step]
      have unready : ¬item.2.IsLoadable resolver :=
        fun loadable => unready (loadable.of_agrees agrees.symm)
      simp [unready]

theorem map_snd_placed (names : groups.map (·.1) = table.names) :
    (table.placed groups).map (·.2) = table.groups.flatMap (·.2) := by
  unfold placed
  rw [List.map_flatMap]
  refine List.flatMap_congr fun group listed => ?_
  have named : group.1 ∈ groups.map (·.1) := names ▸ List.mem_map.mpr ⟨group, listed, rfl⟩
  obtain ⟨id, found⟩ := exists_lookup named
  dsimp only
  rw [found]
  simp [Function.comp_def]

theorem build_breaksOff_iff (closed : table.IsClosed) (origin : String) (catalog : Catalog)
    (resolver : Resolver) (odd : fault.isRegistration = false) :
    (table.build origin catalog resolver).outcome = .error fault ↔
      BreaksOff resolver (table.groups.flatMap (·.2)) fault := by
  have names := map_fst_emptyGroups catalog table.names
  unfold build
  generalize emptyGroups catalog table.names = laid at names ⊢
  obtain ⟨groups, grown⟩ := laid
  dsimp only at names ⊢
  obtain ⟨root, rooted⟩ := exists_lookup (names ▸ closed.root)
  have start : (⟨grown, resolver, []⟩ : Building).resolver.Agrees resolver := fun _ => rfl
  have ready := ready_of_mem_placed closed names
  rw [← map_snd_placed names, rooted,
    ← buildAll_breaksOff_iff start (fun item member => (ready item member).2) odd]
  generalize buildAll groups ⟨grown, resolver, []⟩ (table.placed groups) = run
  obtain ⟨building, stopped⟩ := run
  cases stopped with
  | none => simp
  | some other => simp

theorem load_of_read (accepted : read data = .valid table) :
    load data origin catalog resolver = table.build origin catalog resolver := by
  obtain ⟨fields, rfl, -⟩ := Schema.readRecord_valid accepted
  unfold load
  dsimp only
  rw [accepted]

theorem load_of_faulty {faults : List Schema.Located} (refused : read data = .faulty faults) :
    ∃ fault, (load data origin catalog resolver).outcome = .error fault ∧
      fault.isRegistration = true := by
  unfold load
  cases data with
  | map fields =>
    dsimp only
    rw [refused]
    exact ⟨_, rfl, rfl⟩
  | _ => exact ⟨_, rfl, rfl⟩

theorem load_breaksOff_iff (odd : fault.isRegistration = false) :
    (load data origin catalog resolver).outcome = .error fault ↔
      ∃ table, read data = .valid table ∧
        BreaksOff resolver (table.groups.flatMap (·.2)) fault := by
  cases accepted : read data with
  | valid table =>
    rw [load_of_read accepted, build_breaksOff_iff (isClosed_of_read accepted) _ _ _ odd]
    simp
  | faulty faults =>
    obtain ⟨other, failed, told⟩ := load_of_faulty accepted
    refine iff_of_false (fun broken => ?_) nofun
    cases failed.symm.trans broken
    exact nomatch told.symm.trans odd

theorem load_rooted {loaded : Loaded}
    (done : (load data origin catalog resolver).outcome = .ok loaded) :
    ∃ table, read data = .valid table ∧ loaded.groups.lookup table.root = some loaded.root := by
  cases accepted : read data with
  | valid table =>
    rw [load_of_read accepted] at done
    rcases build_cases (isClosed_of_read accepted) origin catalog resolver with
      ⟨-, other, there, graph⟩ | ⟨-, fault, failed⟩
    · obtain rfl := Except.ok.inj (there.symm.trans done)
      exact ⟨table, rfl, graph.root⟩
    · exact nomatch failed.symm.trans done
  | faulty faults =>
    obtain ⟨fault, failed, -⟩ := load_of_faulty accepted
    exact nomatch failed.symm.trans done

theorem load_ok_iff : (∃ loaded, (load data origin catalog resolver).outcome = .ok loaded) ↔
    ∃ table, read data = .valid table ∧
      ∀ group ∈ table.groups, ∀ e ∈ group.2, e.IsLoadable resolver := by
  cases accepted : read data with
  | valid table =>
    rw [load_of_read accepted]
    rcases build_cases (isClosed_of_read accepted) origin catalog resolver with
      ⟨all, loaded, done, -⟩ | ⟨broken, fault, failed⟩
    · exact iff_of_true ⟨loaded, done⟩ ⟨table, rfl, all⟩
    · refine iff_of_false (fun ⟨_, done⟩ => nomatch failed.symm.trans done) ?_
      rintro ⟨_, ⟨⟩, all⟩
      exact broken all
  | faulty faults =>
    obtain ⟨fault, failed, -⟩ := load_of_faulty accepted
    exact iff_of_false (fun ⟨_, done⟩ => nomatch failed.symm.trans done) nofun

/-- Loading gives the root of the table that the data is if every entry can be loaded. Otherwise it
ends with an error of registration, unless the first entry that cannot be loaded breaks it off. -/
theorem load_ends (data : Value) (origin : String) (catalog : Catalog) (resolver : Resolver) :
    let ended := (load data origin catalog resolver).outcome
    ((∃ loaded, ended = .ok loaded) ↔ ∃ table, read data = .valid table ∧
      ∀ group ∈ table.groups, ∀ e ∈ group.2, e.IsLoadable resolver) ∧
    (∀ loaded, ended = .ok loaded → ∃ table, read data = .valid table ∧
      loaded.groups.lookup table.root = some loaded.root) ∧
    ∀ fault : LoadFault, fault.isRegistration = false → (ended = .error fault ↔
      ∃ table, read data = .valid table ∧
        BreaksOff resolver (table.groups.flatMap (·.2)) fault) :=
  ⟨load_ok_iff, fun _ => load_rooted, fun _ => load_breaksOff_iff⟩

/-- The handler of its command is in a module that is named from nowhere. -/
def stray : Value := .map [(.str "groups", .map [(.str "root", .list [
  .map [(.str "aliases", .list [.str "x"]), (.str "handler", .str ".mod:f")]])])]

def strayTable : Table where
  root := "root"
  groups := [("root", [
    { name := "x", synonyms := [], desc := "", usage := "", flags := "", minArgs := 0,
      maxArgs := -1, permissions := [], handler := some ".mod:f", nested := [] }])]

theorem read_stray : read stray = .valid strayTable := by rfl

theorem breaksOff_stray :
    BreaksOff galleryResolver (strayTable.groups.flatMap (·.2)) (.reference .relativeModule) := by
  have relative : Reference.IsRelative ".mod:f" := ⟨"mod", "f", rfl, by decide, by decide⟩
  exact ⟨[], _, [], rfl, (fun _ member => nomatch member), .relative rfl rfl relative⟩

theorem load_ends_stray :
    (∃ loaded, (load gallery "gallery.yml" {} galleryResolver).outcome = .ok loaded ∧
      loaded.groups.lookup "hall" = some loaded.root) ∧
    (load stray "<mapping>" {} galleryResolver).outcome = .error (.reference .relativeModule) := by
  constructor
  · obtain ⟨-, rooted, -⟩ := load_ends gallery "gallery.yml" {} galleryResolver
    have done : (load gallery "gallery.yml" {} galleryResolver).outcome.isOk = true := by
      decide +kernel
    cases ended : (load gallery "gallery.yml" {} galleryResolver).outcome with
    | error fault =>
      rw [ended] at done
      exact nomatch done
    | ok loaded =>
      obtain ⟨table, accepted, there⟩ := rooted loaded ended
      cases read_gallery.symm.trans accepted
      exact ⟨loaded, rfl, there⟩
  · obtain ⟨-, -, broken⟩ := load_ends stray "<mapping>" {} galleryResolver
    exact (broken _ rfl).mpr ⟨strayTable, read_stray, breaksOff_stray⟩

/-- Its loading ends neither with a root nor with an error of registration. -/
theorem load_stray_not_told :
    ¬((∃ loaded, (load stray "<mapping>" {} galleryResolver).outcome = .ok loaded) ∨
      ∃ fault, (load stray "<mapping>" {} galleryResolver).outcome = .error fault ∧
        fault.isRegistration = true) := by
  have ended : (load stray "<mapping>" {} galleryResolver).outcome =
      .error (.reference .relativeModule) :=
    (load_breaksOff_iff rfl).mpr ⟨strayTable, read_stray, breaksOff_stray⟩
  rw [ended]
  rintro (⟨loaded, done⟩ | ⟨fault, same, told⟩)
  · exact nomatch done
  · cases same
    exact nomatch told

end Table
end CommandTree
