import RowFilter.Script

/-! # Plans

A script can ask for what cannot be done: its defects are conditions whose right side does not fit, joins
with a missing part and combinations of nothing.  A plan is a script in which nothing of that kind can be
written down: tests and joins of two parts.  Every script without a defect has a plan, with tests in the
place of conditions and chains of joins in the place of combinations.  `Script.settled` follows the
construction of a script and the making of its plan step by step: either both stop at the first defect, or
the plan stands for the filter that was built. -/

set_option autoImplicit false

namespace RowFilter

/-! ## Plans -/

inductive Plan where
  | test (column : Column) (asked : Test)
  | join (connective : Connective) (left right : Plan)

namespace Plan

def filter : Plan → Filter
  | test column asked => column.asks asked
  | join connective left right => .join connective left.filter right.filter

def script : Plan → Script
  | test column asked => .test column asked
  | join connective left right => .join connective left.script right.script

theorem build_script (plan : Plan) : plan.script.build = .ok plan.filter := by
  induction plan with
  | test column asked => rfl
  | join connective left right ihLeft ihRight =>
    rw [script, Script.build, ihLeft, ihRight]
    rfl

def joinParts? (connective : Connective) : Option Plan → Option Plan → Option Plan
  | some left, some right => some (join connective left right)
  | _, _ => none

def chain? (connective : Connective) : List Plan → Option Plan
  | [] => none
  | first :: rest => some (rest.foldl (join connective) first)

theorem filter_foldl_join (connective : Connective) (first : Plan) (rest : List Plan) :
    (rest.foldl (join connective) first).filter =
      (rest.map filter).foldl (Filter.join connective) first.filter := by
  induction rest generalizing first with
  | nil => rfl
  | cons next rest ih => exact ih (join connective first next)

end Plan

/-! ## Tests in the place of conditions -/

def Test.ofParts? : Comparator → RightSide → Option Test
  | .relation kind, .literal value => some (.compare kind value)
  | .relation kind, .column value => some (.compareColumn kind value)
  | .isNull negated, .absent => some (.isNull negated)
  | .isIn negated, .list values => some (.isIn negated values)
  | _, _ => none

theorem Test.ofParts?_eq_some {comparator : Comparator} {right : RightSide} {asked : Test} :
    ofParts? comparator right = some asked ↔ asked.comparator = comparator ∧ asked.right = right := by
  constructor
  · intro found
    cases comparator <;> cases right <;> cases found <;> exact ⟨rfl, rfl⟩
  · rintro ⟨rfl, rfl⟩
    cases asked <;> rfl

theorem Test.isSome_ofParts? (comparator : Comparator) (right : RightSide) :
    (ofParts? comparator right).isSome ↔ right.Fits comparator := by
  cases right <;> cases comparator <;>
    simp [ofParts?, RightSide.Fits, Comparator.isUnary, Comparator.isCollection]

namespace Script

/-! ## Defects -/

/-- What is wrong with a script itself, whatever its parts are. -/
def defect? : Script → Option FilterError
  | condition _ comparator right =>
    if right.Fits comparator then none else some (.misfit comparator right.shape)
  | joinParts connective none _ => some (.missingPart connective)
  | joinParts connective _ none => some (.missingPart connective)
  | combine connective [] => some (.missingPart connective)
  | _ => none

mutual

/-- A script and all its parts, each behind its own parts and from left to right. -/
def postorder : Script → List Script
  | test column asked => [test column asked]
  | condition left comparator right => [condition left comparator right]
  | join connective left right => postorder left ++ (postorder right ++ [join connective left right])
  | joinParts connective left right =>
    postorderPart left ++ (postorderPart right ++ [joinParts connective left right])
  | combine connective parts => postorderAll parts ++ [combine connective parts]

def postorderPart : Option Script → List Script
  | none => []
  | some part => postorder part

def postorderAll : List Script → List Script
  | [] => []
  | first :: rest => postorder first ++ postorderAll rest

end

/-! ## Plans of scripts -/

mutual

/-- The plan that asks for the same filter, if there is one. -/
def plan? : Script → Option Plan
  | test column asked => some (.test column asked)
  | condition left comparator right => do
    let asked ← Test.ofParts? comparator right
    some (.test left asked)
  | join connective left right => do
    let left ← plan? left
    let right ← plan? right
    some (.join connective left right)
  | joinParts connective left right => do
    let left ← planPart? left
    let right ← planPart? right
    Plan.joinParts? connective left right
  | combine connective parts => do
    let parts ← planAll? parts
    Plan.chain? connective parts

def planPart? : Option Script → Option (Option Plan)
  | none => some none
  | some part => do
    let part ← plan? part
    some (some part)

def planAll? : List Script → Option (List Plan)
  | [] => some []
  | first :: rest => do
    let first ← plan? first
    let rest ← planAll? rest
    some (first :: rest)

end

/-! ## Construction and plan side by side -/

/-- An outcome, the first defect and a plan that belong together. -/
inductive Settled {α β : Type} (meaning : α → β) :
    Except FilterError β → Option FilterError → Option α → Prop
  | refused (refusal : FilterError) : Settled meaning (.error refusal) (some refusal) none
  | built (plan : α) : Settled meaning (.ok (meaning plan)) none (some plan)

theorem Settled.bind {α β γ δ : Type} {meaning : α → β} {meaning' : γ → δ}
    {outcome : Except FilterError β} {defect? rest? : Option FilterError} {plan? : Option α}
    {next : β → Except FilterError δ} {more : α → Option γ} (first : Settled meaning outcome defect? plan?)
    (second : ∀ plan, plan? = some plan →
      Settled meaning' (next (meaning plan)) rest? (more plan)) :
    Settled meaning' (outcome >>= next) (defect?.or rest?) (plan? >>= more) := by
  cases first with
  | refused refusal => exact .refused refusal
  | built plan => exact second plan rfl

theorem Settled.map {α β γ δ : Type} {meaning : α → β} {meaning' : γ → δ}
    {outcome : Except FilterError β} {defect? : Option FilterError} {plan? : Option α}
    {next : β → δ} {more : α → γ} (first : Settled meaning outcome defect? plan?)
    (same : ∀ plan, next (meaning plan) = meaning' (more plan)) :
    Settled meaning' (outcome >>= fun found => .ok (next found)) defect?
      (plan? >>= fun plan => some (more plan)) := by
  cases first with
  | refused refusal => exact .refused refusal
  | built plan =>
    have done : Settled meaning' (.ok (meaning' (more plan))) none (some (more plan)) := .built _
    rwa [← same] at done

theorem Settled.eq_error_iff {α β : Type} {meaning : α → β} {outcome : Except FilterError β}
    {defect? : Option FilterError} {plan? : Option α} (settled : Settled meaning outcome defect? plan?)
    {refusal : FilterError} : outcome = .error refusal ↔ defect? = some refusal := by
  cases settled <;> simp

theorem Settled.exists_plan {α β : Type} {meaning : α → β} {outcome : Except FilterError β}
    {plan? : Option α} (settled : Settled meaning outcome none plan?) :
    ∃ plan, plan? = some plan ∧ outcome = .ok (meaning plan) := by
  cases settled with
  | built plan => exact ⟨plan, rfl, rfl⟩

def firstDefect? (scripts : List Script) : Option FilterError := scripts.findSome? defect?

theorem firstDefect?_append (first rest : List Script) :
    firstDefect? (first ++ rest) = (firstDefect? first).or (firstDefect? rest) :=
  List.findSome?_append

theorem settled_condition (left : Column) (comparator : Comparator) (right : RightSide) :
    Settled Plan.filter (condition left comparator right).build
      (firstDefect? [condition left comparator right]) (condition left comparator right).plan? := by
  rw [build, plan?, Condition.ofParts?]
  cases found : Test.ofParts? comparator right with
  | none =>
    have misfit : ¬ right.Fits comparator := by simp [← Test.isSome_ofParts?, found]
    have defect : firstDefect? [condition left comparator right] =
        some (.misfit comparator right.shape) := by simp [firstDefect?, defect?, misfit]
    rw [if_neg misfit, defect]
    exact .refused _
  | some asked =>
    have fits : right.Fits comparator := by simp [← Test.isSome_ofParts?, found]
    have sound : firstDefect? [condition left comparator right] = none := by
      simp [firstDefect?, defect?, fits]
    rw [if_pos fits, sound]
    obtain ⟨rfl, rfl⟩ := Test.ofParts?_eq_some.mp found
    have done : Settled Plan.filter (.ok (Plan.test left asked).filter) none (some (Plan.test left asked)) :=
      .built _
    rwa [Plan.filter, Column.asks_eq] at done

mutual

theorem settled : (script : Script) →
    Settled Plan.filter script.build (firstDefect? script.postorder) script.plan?
  | test column asked => .built (Plan.test column asked)
  | condition left comparator right => settled_condition left comparator right
  | join connective left right => by
    -- Here as below the parts are settled in the order in which they are built, and then the whole.
    rw [build, postorder, plan?, firstDefect?_append, firstDefect?_append]
    apply Settled.bind (settled left)
    intro first _
    apply Settled.bind (settled right)
    intro second _
    exact .built (Plan.join connective first second)
  | joinParts connective left right => by
    rw [build, postorder, plan?, firstDefect?_append, firstDefect?_append]
    apply Settled.bind (settledPart left)
    intro first call
    apply Settled.bind (settledPart right)
    intro second call'
    -- The plan has the parts that the script has.
    cases left with
    | none =>
      cases call
      exact .refused _
    | some left =>
      obtain ⟨first, _, same⟩ := Option.bind_eq_some_iff.mp call
      cases same
      cases right with
      | none =>
        cases call'
        exact .refused _
      | some right =>
        obtain ⟨second, _, same⟩ := Option.bind_eq_some_iff.mp call'
        cases same
        exact .built (Plan.join connective first second)
  | combine connective parts => by
    rw [build, postorder, plan?, firstDefect?_append]
    apply Settled.bind (settledAll parts)
    intro plans call
    cases parts with
    | nil =>
      cases call
      exact .refused _
    | cons first rest =>
      obtain ⟨plan, _, call⟩ := Option.bind_eq_some_iff.mp call
      obtain ⟨plans, _, same⟩ := Option.bind_eq_some_iff.mp call
      cases same
      rw [List.map_cons, Filter.combine, ← Plan.filter_foldl_join]
      exact .built (plans.foldl (Plan.join connective) plan)

theorem settledPart : (part : Option Script) →
    Settled (Option.map Plan.filter) (buildPart part) (firstDefect? (postorderPart part)) (planPart? part)
  | none => .built none
  | some part => by
    rw [buildPart, postorderPart, planPart?]
    exact (settled part).map fun _ => rfl

theorem settledAll : (parts : List Script) →
    Settled (List.map Plan.filter) (buildAll parts) (firstDefect? (postorderAll parts)) (planAll? parts)
  | [] => .built []
  | first :: rest => by
    rw [buildAll, postorderAll, planAll?, firstDefect?_append]
    apply Settled.bind (settled first)
    intro plan _
    exact (settledAll rest).map fun _ => rfl

end

/-- A script is refused exactly when it or a part of it is defective, and it is refused for the defect that
comes first, parts before the whole and from left to right.  Otherwise it has a plan, and the plan builds
the same filter. -/
theorem build_stops_at_first_defect (script : Script) :
    ((∃ refusal, script.build = .error refusal) ↔
      ∃ part ∈ script.postorder, part.defect?.isSome) ∧
    (∀ refusal, script.build = .error refusal ↔
      ∃ earlier part later, script.postorder = earlier ++ part :: later ∧
        part.defect? = some refusal ∧ ∀ before ∈ earlier, before.defect? = none) ∧
    ((∀ part ∈ script.postorder, part.defect? = none) →
      ∃ plan, script.plan? = some plan ∧ script.build = .ok plan.filter ∧
        plan.script.build = .ok plan.filter) := by
  have both := script.settled
  have first (refusal : FilterError) :
      script.build = .error refusal ↔ firstDefect? script.postorder = some refusal := both.eq_error_iff
  refine ⟨?_, ?_, ?_⟩
  · simp only [first, ← Option.isSome_iff_exists, firstDefect?, List.findSome?_isSome_iff]
  · intro refusal
    rw [first, firstDefect?, List.findSome?_eq_some_iff]
  · intro sound
    have none : firstDefect? script.postorder = none := List.findSome?_eq_none_iff.mpr sound
    rw [none] at both
    obtain ⟨plan, found, built⟩ := both.exists_plan
    exact ⟨plan, found, built, plan.build_script⟩

/-- A missing part is met before the list that does not fit, and before the whole.  With parts that fit, the
combination is a chain. -/
theorem build_stops_at_first_defect_chain :
    (combine .and [joinParts .or (some (test ⟨"E", "a", []⟩ (.isNull false))) none,
        condition ⟨"E", "b", []⟩ (.isNull true) (.list [])]).build = .error (.missingPart .or) ∧
      (combine .and [test ⟨"E", "a", []⟩ (.isNull false),
        condition ⟨"E", "b", []⟩ (.isIn true) (.list []),
        test ⟨"E", "c", []⟩ (.isNull true)]).build =
        .ok (.join .and (.join .and (.leaf ⟨⟨"E", "a", []⟩, .isNull false, .absent⟩)
          (.leaf ⟨⟨"E", "b", []⟩, .isIn true, .list []⟩))
          (.leaf ⟨⟨"E", "c", []⟩, .isNull true, .absent⟩)) := by
  constructor
  · obtain ⟨_, first, _⟩ := build_stops_at_first_defect
      (combine .and [joinParts .or (some (test ⟨"E", "a", []⟩ (.isNull false))) none,
        condition ⟨"E", "b", []⟩ (.isNull true) (.list [])])
    exact (first _).mpr ⟨[test ⟨"E", "a", []⟩ (.isNull false)], _, _, rfl, rfl, by simp [defect?]⟩
  · obtain ⟨_, _, plans⟩ := build_stops_at_first_defect
      (combine .and [test ⟨"E", "a", []⟩ (.isNull false),
        condition ⟨"E", "b", []⟩ (.isIn true) (.list []), test ⟨"E", "c", []⟩ (.isNull true)])
    obtain ⟨plan, found, built, _⟩ := plans (by decide)
    cases found
    exact built

end Script

end RowFilter
