import CommandTree.Reference

namespace CommandTree

/-- A world as references meet it, known by its answers alone: modules by their names, attributes of
things by theirs, and what may go wrong in any way. -/
structure Surroundings (Thing Callee Mishap : Type) where
  importing : String → Except Mishap Thing
  reading : Thing → String → Except Mishap Thing
  /-- The text with which a mishap is told as an error of registration. Any other is passed on. -/
  message? : Mishap → Option String
  callee? : Thing → Option Callee

namespace Surroundings

inductive Fault (Mishap : Type) where
  | registration (fault : RegistrationFault)
  | passed (mishap : Mishap)

abbrev Memory (Thing Callee : Type) := List (String × Thing × Callee)

structure Answer (Thing Callee Mishap : Type) where
  outcome : Except (Fault Mishap) (Thing × Callee)
  records : List LogRecord := []
  memory : Memory Thing Callee

variable {Thing Callee Mishap : Type} (world : Surroundings Thing Callee Mishap)

def find (module path : String) : Except Mishap Thing := do
  (Reference.parts path).foldlM world.reading (← world.importing module)

def answerAnew (memory : Memory Thing Callee) (reference : String) :
    Answer Thing Callee Mishap :=
  match Reference.split? reference with
  | none => { outcome := .error (.registration (.badReference reference)), memory }
  | some (module, path) =>
    match world.find module path with
    | .error mishap =>
      match world.message? mishap with
      | none => { outcome := .error (.passed mishap), memory }
      | some message => {
          outcome := .error (.registration (.unresolvedReference reference message))
          records := [⟨.error, "Failed to resolve handler " ++ reference ++ ": " ++ message⟩]
          memory }
    | .ok thing =>
      match world.callee? thing with
      | none => { outcome := .error (.registration (.notCallable reference)), memory }
      | some callee =>
        { outcome := .ok (thing, callee), memory := (reference, thing, callee) :: memory }

def answer (memory : Memory Thing Callee) (reference : String) : Answer Thing Callee Mishap :=
  match memory.lookup reference with
  | some found => { outcome := .ok found, memory }
  | none => world.answerAnew memory reference

def remember (memory : Memory Thing Callee) : List String → Memory Thing Callee
  | [] => memory
  | reference :: rest => remember (world.answer memory reference).memory rest

/-! ### What is remembered -/

/-- What is remembered can be called, and is what its reference leads to. -/
def Faithful (memory : Memory Thing Callee) : Prop :=
  ∀ reference found, (reference, found) ∈ memory → world.callee? found.1 = some found.2 ∧
    world.answerAnew [] reference = ⟨.ok found, [], [(reference, found)]⟩

variable {world} {memory : Memory Thing Callee} {reference : String}

theorem answerAnew_cases (world : Surroundings Thing Callee Mishap) (reference : String) :
    (∃ fault records, ∀ memory, world.answerAnew memory reference = ⟨.error fault, records, memory⟩) ∨
    ∃ found, world.callee? found.1 = some found.2 ∧
      ∀ memory, world.answerAnew memory reference = ⟨.ok found, [], (reference, found) :: memory⟩ := by
  unfold answerAnew
  split
  · exact .inl ⟨_, _, fun _ => rfl⟩
  · split
    · split
      · exact .inl ⟨_, _, fun _ => rfl⟩
      · exact .inl ⟨_, _, fun _ => rfl⟩
    · rename_i thing _
      split <;> rename_i callable
      · exact .inl ⟨_, _, fun _ => rfl⟩
      · rename_i callee
        exact .inr ⟨(thing, callee), callable, fun _ => rfl⟩

theorem faithful_nil (world : Surroundings Thing Callee Mishap) : world.Faithful [] := by
  intro _ _ member
  exact nomatch member

theorem faithful_answer (faithful : world.Faithful memory) (reference : String) :
    world.Faithful (world.answer memory reference).memory := by
  unfold answer
  split
  · exact faithful
  · rcases world.answerAnew_cases reference with ⟨fault, records, failed⟩ | ⟨found, callable, done⟩
    · rw [failed]
      exact faithful
    · rw [done]
      intro other there member
      rcases List.mem_cons.mp member with new | old
      · obtain ⟨rfl, rfl⟩ := Prod.mk.inj new
        exact ⟨callable, done []⟩
      · exact faithful other there old

theorem faithful_remember (faithful : world.Faithful memory) (history : List String) :
    world.Faithful (world.remember memory history) := by
  induction history generalizing memory with
  | nil => exact faithful
  | cons reference rest ih => exact ih (faithful_answer faithful reference)

theorem answer_of_faithful (faithful : world.Faithful memory) (reference : String) :
    (world.answer memory reference).outcome = (world.answerAnew [] reference).outcome ∧
      (world.answer memory reference).records = (world.answerAnew [] reference).records := by
  unfold answer
  split <;> rename_i known
  · obtain ⟨before, after, rfl, -⟩ := List.lookup_eq_some_iff.mp known
    obtain ⟨-, anew⟩ := faithful reference _ (List.mem_append_right before List.mem_cons_self)
    rw [anew]
    exact ⟨rfl, rfl⟩
  · rcases world.answerAnew_cases reference with ⟨fault, records, failed⟩ | ⟨found, -, done⟩
    · rw [failed, failed]
      exact ⟨rfl, rfl⟩
    · rw [done, done]
      exact ⟨rfl, rfl⟩

theorem memory_of_failed {fault : Fault Mishap}
    (failed : (world.answer memory reference).outcome = .error fault) :
    (world.answer memory reference).memory = memory := by
  unfold answer at failed ⊢
  split at failed
  · rfl
  · rcases world.answerAnew_cases reference with ⟨_, _, same⟩ | ⟨found, -, done⟩
    · rw [same]
    · rw [done] at failed
      exact nomatch failed

end Surroundings

/-! ### The world of a resolver -/

namespace World
open Reference

/-- A world of modules. Either something is missing in it, or a module is named from nowhere. -/
def surroundings (world : World) : Surroundings Target Handler (Option Miss) where
  importing name :=
    if name.startsWith "." then .error none else (importModule world name).mapError some
  reading target name := (follow target [name]).mapError some
  message? := Option.map Miss.message
  callee? := Target.handler

theorem foldlM_reading (world : World) (target : Target) (names : List String) :
    names.foldlM world.surroundings.reading target = (follow target names).mapError some := by
  induction names generalizing target with
  | nil => rfl
  | cons name rest ih =>
    rw [List.foldlM_cons]
    simp only [surroundings, follow]
    cases target.attributes.lookup name with
    | none => rfl
    | some next => exact ih next

theorem find_surroundings (world : World) (module path : String) :
    world.surroundings.find module path =
      if module.startsWith "." then .error none else (find world module path).mapError some := by
  have importing : world.surroundings.importing module =
      if module.startsWith "." then .error none else (importModule world module).mapError some := rfl
  rw [Surroundings.find, importing]
  split
  · rfl
  · rw [find]
    cases importModule world module with
    | error miss => rfl
    | ok target => exact foldlM_reading world target _

end World

namespace Resolver

def ofFault : Surroundings.Fault (Option Reference.Miss) → Reference.Fault
  | .registration fault => .registration fault
  | .passed _ => .relativeModule

def accept (resolver : Resolver) (answer : Surroundings.Answer Target Handler (Option Reference.Miss)) :
    Resolution where
  outcome := answer.outcome.mapError ofFault
  records := answer.records
  resolver := { resolver with known := answer.memory }

theorem resolve_eq_accept (resolver : Resolver) (reference : String) :
    resolver.resolve reference =
      resolver.accept (resolver.world.surroundings.answer resolver.known reference) := by
  cases known : resolver.known.lookup reference with
  | some found =>
    simp only [resolve, Surroundings.answer, known]
    rfl
  | none =>
    simp only [resolve, Surroundings.answer, known]
    unfold resolveAnew Surroundings.answerAnew
    cases Reference.split? reference with
    | none => rfl
    | some parts =>
      obtain ⟨module, path⟩ := parts
      simp only [World.find_surroundings]
      split
      · rfl
      · cases Reference.find resolver.world module path with
        | error miss => rfl
        | ok target =>
          have callee : resolver.world.surroundings.callee? target = target.handler := rfl
          have kept : (Except.ok target : Except Reference.Miss Target).mapError some =
            .ok target := rfl
          simp only [kept, callee]
          cases target.handler with
          | none => rfl
          | some handler => rfl

/-- Whatever was resolved before, a reference comes out as with nothing remembered, with the same
records; what is remembered can be called and is what its reference leads to; and a failure leaves
no trace in the memory. This holds in every world, and resolvers resolve in this way in theirs. -/
theorem memory_unseen :
    (∀ {Thing Callee Mishap : Type} (world : Surroundings Thing Callee Mishap)
      (history : List String), let memory := world.remember [] history
      (∀ reference, (world.answer memory reference).outcome = (world.answer [] reference).outcome ∧
        (world.answer memory reference).records = (world.answer [] reference).records) ∧
      (∀ reference found, (reference, found) ∈ memory → world.callee? found.1 = some found.2 ∧
        (world.answer [] reference).outcome = .ok found) ∧
      ∀ reference fault, (world.answer memory reference).outcome = .error fault →
        (world.answer memory reference).memory = memory) ∧
    ∀ (resolver : Resolver) (reference : String), resolver.resolve reference =
      resolver.accept (resolver.world.surroundings.answer resolver.known reference) := by
  refine ⟨fun world history => ?_, resolve_eq_accept⟩
  have faithful := Surroundings.faithful_remember world.faithful_nil history
  refine ⟨fun reference => ?_, fun reference found member => ?_, fun reference fault failed => ?_⟩
  · exact Surroundings.answer_of_faithful faithful reference
  · obtain ⟨callable, anew⟩ := faithful reference found member
    have unknown : world.answer [] reference = world.answerAnew [] reference := rfl
    rw [unknown, anew]
    exact ⟨callable, rfl⟩
  · exact Surroundings.memory_of_failed failed

end Resolver
end CommandTree
