import CommandTree.Proofs.Descent

namespace CommandTree.Dispatcher

section Endings
variable {C : Type} (dispatcher : Dispatcher C) (granted : Value → Bool)

def listing (path : List String) (choices : String) : Value :=
  .str (dispatcher.settings.lead ++ " ".intercalate path ++ " <" ++ choices ++ ">")

def leafUsage (leaf : Invocation) : Value :=
  .str (Usage.ofLeaf dispatcher.settings.lead leaf.path
    (dispatcher.catalog.definition leaf.definition))

/-- The failure of an ending, or the leaf that it calls. -/
def resolution : Ending → Except Failure Invocation
  | .unknown name =>
    .error { kind := .unresolvedCommand, message := .str ("Unknown command: " ++ name) }
  | .short message path p =>
    let children := dispatcher.registry.children (some p)
    let choices := children.filter (dispatcher.isOpen granted)
    if children = [] then
      .error {
        kind := .missingSubCommand, message := .str message, usage := dispatcher.listing path "?" }
    else if choices = [] then .error .denied
    else
      .error {
        kind := .missingSubCommand
        message := .str message
        usage := dispatcher.listing path
          ("|".intercalate (choices.map fun d => (dispatcher.catalog.definition d).name)) }
  | .forbidden _ => .error .denied
  | .tooFew leaf =>
    .error {
      kind := .tooFewArguments
      message := .str "Too few arguments."
      usage := dispatcher.leafUsage leaf }
  | .tooMany leaf =>
    .error {
      kind := .tooManyArguments
      message := .str "Too many arguments."
      usage := dispatcher.leafUsage leaf }
  | .unknownFlag leaf flag =>
    .error {
      kind := .unknownFlag
      message := .str ("Unknown flag: " ++ flag.toString)
      usage := dispatcher.leafUsage leaf }
  | .call leaf => .ok leaf

def listed : Ending → List DefId
  | .short _ _ p => dispatcher.registry.children (some p)
  | _ => []

end Endings

variable {C : Type} {dispatcher : Dispatcher C} {caller : C} {granted : Value → Bool} {p q : Parent}
  {before rest tokens : List String} {name : String} {met above : List DefId} {ending : Ending}

section Answered
variable (answers : dispatcher.Answers caller granted)
include answers

theorem failBelow_eq (message : String) (path : List String) (p : DefId) :
    dispatcher.failBelow message path p caller =
      ⟨(dispatcher.resolution granted (.short message path p)).mapError .failure,
        .asking (dispatcher.questions granted (dispatcher.registry.children (some p)))⟩ := by
  simp only [failBelow, visible_eq answers, Run.bind_done, Usage.choices, resolution, listing,
    List.isEmpty_iff]
  by_cases barren : dispatcher.registry.children (some p) = []
  · rw [if_pos barren, if_pos barren]
    exact Run.after_fail _ _
  · rw [if_neg barren, if_neg barren]
    by_cases hidden : (dispatcher.registry.children (some p)).filter (dispatcher.isOpen granted) = []
    · rw [if_pos hidden, if_pos hidden]
      exact Run.after_fail _ _
    · rw [if_neg hidden, if_neg hidden]
      exact Run.after_fail _ _

theorem resolveFrom_passes {d : DefId} (passes : dispatcher.Passes granted p name d) :
    dispatcher.resolveFrom caller p before (name :: rest) =
      (if rest = [] then dispatcher.failBelow "Sub-command required." (before ++ [name]) d caller
        else dispatcher.resolveFrom caller (some d) (before ++ [name]) rest).after
          (.asking (dispatcher.questions granted [d])) := by
  obtain ⟨found, opens, nested⟩ := passes
  obtain ⟨first, others, body⟩ := body_of_isNested nested
  rw [resolveFrom.eq_def]
  simp only [found, hasPermission_eq answers, Run.bind_done, opens, body, ↓reduceIte,
    List.isEmpty_iff]

theorem resolveFrom_leaf (typed : dispatcher.catalog.IsTyped) {leaf : Invocation}
    (isLeaf : dispatcher.IsLeaf granted p before name rest leaf)
    (judged : dispatcher.Judges leaf ending) :
    dispatcher.resolveFrom caller p before (name :: rest) =
      ⟨(dispatcher.resolution granted ending).mapError .failure,
        .asking (dispatcher.questions granted [leaf.definition])⟩ := by
  obtain ⟨path, d, handler, context⟩ := leaf
  obtain ⟨found, opens, body, same, read⟩ := isLeaf
  obtain ⟨_, _, _, typed⟩ := typed d
  dsimp only at found opens body same read
  obtain rfl := same
  obtain rfl := Option.some.inj read
  unfold resolveFrom
  simp only [found, hasPermission_eq answers, Run.bind_done, opens, body, typed.leaf_usage, ↓reduceIte]
  cases judged with
  | tooFew few =>
    rw [typed.objection?_of_lacks few]
    exact Run.after_fail _ _
  | tooMany enough many =>
    rw [typed.objection?_of_exceeded enough many]
    exact Run.after_fail _ _
  | unknownFlag enough bounded missed =>
    rw [typed.objection?_of_misses enough bounded missed]
    exact Run.after_fail _ _
  | call accepts =>
    rw [typed.objection?_of_accepts accepts]
    exact Run.after_pure _ _

theorem resolveFrom_stops (typed : dispatcher.catalog.IsTyped)
    (stops : dispatcher.Stops granted p before name rest met ending) :
    dispatcher.resolveFrom caller p before (name :: rest) =
      ⟨(dispatcher.resolution granted ending).mapError .failure,
        .asking (dispatcher.questions granted (met ++ dispatcher.listed ending))⟩ := by
  cases stops with
  | unknown root missing =>
    obtain rfl := root
    unfold resolveFrom
    rw [missing]
    rfl
  | astray nested missing =>
    obtain rfl := nested
    unfold resolveFrom
    rw [missing]
    exact failBelow_eq answers _ _ _
  | forbidden found closed =>
    unfold resolveFrom
    simp only [found, hasPermission_eq answers, Run.bind_done, closed, Bool.false_eq_true, ↓reduceIte]
    exact Run.after_fail _ _
  | last passes last =>
    rw [resolveFrom_passes answers passes, if_pos last, failBelow_eq answers, Run.after,
      ← Trace.asking_append, ← questions_append]
    rfl
  | leaf isLeaf judged =>
    rw [resolveFrom_leaf answers typed isLeaf judged]
    cases judged <;> rfl

theorem resolveFrom_descent (descent : dispatcher.Descent granted p before above q) (left : rest ≠ [])
    (path : List String) :
    dispatcher.resolveFrom caller p path (before ++ rest) =
      (dispatcher.resolveFrom caller q (path ++ before) rest).after
        (.asking (dispatcher.questions granted above)) := by
  induction descent generalizing path with
  | here =>
    rw [List.append_nil]
    rfl
  | @down p q name d tokens met passes descent ih =>
    have more : tokens ++ rest ≠ [] := by simp [left]
    rw [List.cons_append, resolveFrom_passes answers passes, if_neg more, ih, Run.after_after,
      ← Trace.asking_append, ← questions_append, List.append_assoc, List.singleton_append,
      List.singleton_append]

theorem resolve_of_answers (typed : dispatcher.catalog.IsTyped)
    (ready : dispatcher.settings.requireFrozen = true → dispatcher.registry.frozen = true)
    (ends : dispatcher.EndsIn granted tokens met ending) :
    dispatcher.resolve tokens caller =
      ⟨(dispatcher.resolution granted ending).mapError .failure,
        .asking (dispatcher.questions granted (met ++ dispatcher.listed ending))⟩ := by
  obtain @⟨before, rest, name, _, _, _, _, descent, stops⟩ := ends
  have serving : (dispatcher.settings.requireFrozen && !dispatcher.registry.frozen) = false := by
    cases required : dispatcher.settings.requireFrozen with
    | false => rfl
    | true => rw [ready required]; rfl
  have given : before ++ name :: rest ≠ [] := by simp
  rw [resolve, List.isEmpty_eq_false_iff.mpr given, serving,
    resolveFrom_descent answers descent (List.cons_ne_nil _ _), List.nil_append,
    resolveFrom_stops answers typed stops, Run.after, ← Trace.asking_append, ← questions_append,
    List.append_assoc]
  rfl

end Answered

theorem resolve_eq
    (answers : ∀ permission, dispatcher.check caller permission = .ok (granted permission))
    (typed : dispatcher.catalog.IsTyped)
    (ready : dispatcher.settings.requireFrozen = true → dispatcher.registry.frozen = true)
    (ends : dispatcher.EndsIn granted tokens met ending) :
    dispatcher.resolve tokens caller =
      ⟨(dispatcher.resolution granted ending).mapError .failure,
        .asking (dispatcher.questions granted (met ++ dispatcher.listed ending))⟩ :=
  resolve_of_answers (fun _ permission _ => answers permission) typed ready ends

end CommandTree.Dispatcher
