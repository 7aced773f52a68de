import RowFilter.Workspace

/-! # Legality of all that can be built

A workspace whose filters are legal stays so whatever is done next (`Workspace.legal_act`), so every filter
that any sequence of actions can make is legal (`Workspace.legal_run`).  `Condition.Paired` spells out what
that says of a condition: its right side is of the kind that its comparator asks for. -/

set_option autoImplicit false

namespace RowFilter

/-! ## Comparators and right sides -/

/-- Nothing stands on the right of a test for null, a list on the right of a test for membership, and a
literal or a column on the right of everything else. -/
structure Condition.Paired (condition : Condition) : Prop where
  absent : condition.right = .absent ↔
    condition.comparator = .isNull false ∨ condition.comparator = .isNull true
  list : (∃ values, condition.right = .list values) ↔
    condition.comparator = .isIn false ∨ condition.comparator = .isIn true
  single : ((∃ value, condition.right = .literal value) ∨ ∃ value, condition.right = .column value) ↔
    ∃ relation, condition.comparator = .relation relation

theorem Condition.paired_of_legal {condition : Condition} (legal : condition.Legal) :
    condition.Paired := by
  obtain ⟨left, comparator, right⟩ := condition
  match right, comparator, legal with
  | .absent, .isNull negated, _ => exact ⟨by cases negated <;> simp, by simp, by simp⟩
  | .literal value, .relation kind, _ => exact ⟨by simp, by simp, by simp⟩
  | .column value, .relation kind, _ => exact ⟨by simp, by simp, by simp⟩
  | .list values, .isIn negated, _ => exact ⟨by simp, by cases negated <;> simp, by simp⟩

theorem Condition.ofParts?_eq_ok {left : Column} {comparator : Comparator} {right : RightSide}
    {condition : Condition} :
    ofParts? left comparator right = .ok condition ↔
      right.Fits comparator ∧ condition = ⟨left, comparator, right⟩ := by
  rw [ofParts?]
  by_cases fits : right.Fits comparator
  · rw [if_pos fits]
    simp [fits, eq_comm]
  · rw [if_neg fits]
    simp [fits]

/-! ## Building from legal parts -/

theorem Filter.legal_joinParts {connective : Connective} {left right : Option Filter} {made : Filter}
    (built : joinParts connective left right = .ok made) (first : ∀ part ∈ left, part.Legal)
    (second : ∀ part ∈ right, part.Legal) : made.Legal := by
  match left, right, built with
  | some left, some right, built =>
    cases built
    exact legal_join.mpr ⟨first left rfl, second right rfl⟩

theorem Filter.legal_foldl_join (connective : Connective) {first : Filter} {rest : List Filter}
    (legal : first.Legal) (others : ∀ part ∈ rest, part.Legal) :
    (rest.foldl (join connective) first).Legal := by
  induction rest generalizing first with
  | nil => exact legal
  | cons next rest ih =>
    rw [List.forall_mem_cons] at others
    exact ih (legal_join.mpr ⟨legal, others.1⟩) others.2

theorem Filter.legal_combine {connective : Connective} {parts : List Filter} {made : Filter}
    (built : combine connective parts = .ok made) (legal : ∀ part ∈ parts, part.Legal) :
    made.Legal := by
  cases parts with
  | nil => cases built
  | cons first rest =>
    cases built
    rw [List.forall_mem_cons] at legal
    exact legal_foldl_join connective legal.1 legal.2

/-! ## Actions -/

namespace Workspace

def Legal (workspace : Workspace) : Prop := ∀ bound ∈ workspace.filters, bound.2.Legal

variable {workspace : Workspace}

theorem Legal.filter? (legal : workspace.Legal) {name : String} {filter : Filter}
    (found : workspace.filter? name = some filter) : filter.Legal := by
  obtain ⟨earlier, later, parted, _⟩ := List.lookup_eq_some_iff.mp found
  apply legal (name, filter)
  rw [parted]
  exact List.mem_append_right _ (List.mem_cons_self ..)

theorem Legal.part? (legal : workspace.Legal) {name : Option String} {part : Option Filter}
    (found : workspace.part? name = some part) : ∀ filter ∈ part, filter.Legal := by
  rintro filter rfl
  cases name with
  | none => cases found
  | some name =>
    obtain ⟨bound, call, same⟩ := Option.map_eq_some_iff.mp found
    cases same
    exact legal.filter? call

theorem Legal.mapM_filter? (legal : workspace.Legal) {names : List String} {parts : List Filter}
    (found : names.mapM workspace.filter? = some parts) : ∀ part ∈ parts, part.Legal := by
  induction names generalizing parts with
  | nil =>
    cases found
    simp
  | cons name names ih =>
    rw [List.mapM_cons] at found
    obtain ⟨first, call, found⟩ := Option.bind_eq_some_iff.mp found
    obtain ⟨rest, calls, same⟩ := Option.bind_eq_some_iff.mp found
    cases same
    exact List.forall_mem_cons.mpr ⟨legal.filter? call, ih calls⟩

theorem Legal.bindFilter (legal : workspace.Legal) (target : String) {made : Filter}
    (new : made.Legal) : (workspace.bindFilter target made).1.Legal :=
  List.forall_mem_cons.mpr ⟨new, legal⟩

theorem Legal.bindOutcome (legal : workspace.Legal) {target : String}
    {outcome : Except FilterError Filter} {next : Workspace} {reply : Reply}
    (bound : workspace.bindOutcome target outcome = (next, reply))
    (new : ∀ made, outcome = .ok made → made.Legal) : next.Legal := by
  cases outcome with
  | error refusal =>
    cases bound
    exact legal
  | ok made =>
    cases bound
    exact legal.bindFilter target (new made rfl)

theorem legal_leaf_of_ofParts? {left : Column} {comparator : Comparator} {right : RightSide}
    {made : Filter} (built : (Condition.ofParts? left comparator right).map Filter.leaf = .ok made) :
    made.Legal := by
  cases call : Condition.ofParts? left comparator right with
  | error refusal =>
    rw [call] at built
    cases built
  | ok condition =>
    rw [call] at built
    cases built
    exact Filter.legal_leaf.mpr (Condition.legal_of_ofParts? call)

/-- No action makes a filter that is not legal. -/
theorem legal_act (legal : workspace.Legal) {action : Action} {next : Workspace} {reply : Reply}
    (done : workspace.act action = some (next, reply)) : next.Legal := by
  cases action with
  | property target made =>
    cases done
    exact legal
  | transform source function target =>
    obtain ⟨column, _, same⟩ := Option.bind_eq_some_iff.mp done
    cases same
    exact legal
  | test left asked target =>
    obtain ⟨column, _, same⟩ := Option.bind_eq_some_iff.mp done
    cases same
    exact legal.bindFilter target (column.legal_asks asked)
  | testAgainst left relation other target =>
    obtain ⟨column, _, done⟩ := Option.bind_eq_some_iff.mp done
    obtain ⟨against, _, same⟩ := Option.bind_eq_some_iff.mp done
    cases same
    exact legal.bindFilter target (column.legal_asks _)
  | condition left comparator right target =>
    obtain ⟨column, _, same⟩ := Option.bind_eq_some_iff.mp done
    exact legal.bindOutcome (Option.some.inj same) fun made built => legal_leaf_of_ofParts? built
  | conditionAgainst left comparator other target =>
    obtain ⟨column, _, done⟩ := Option.bind_eq_some_iff.mp done
    obtain ⟨against, _, same⟩ := Option.bind_eq_some_iff.mp done
    exact legal.bindOutcome (Option.some.inj same) fun made built => legal_leaf_of_ofParts? built
  | join connective left right target =>
    obtain ⟨first, call, done⟩ := Option.bind_eq_some_iff.mp done
    obtain ⟨second, call', same⟩ := Option.bind_eq_some_iff.mp done
    cases same
    exact legal.bindFilter target (Filter.legal_join.mpr ⟨legal.filter? call, legal.filter? call'⟩)
  | joinParts connective left right target =>
    obtain ⟨first, call, done⟩ := Option.bind_eq_some_iff.mp done
    obtain ⟨second, call', same⟩ := Option.bind_eq_some_iff.mp done
    exact legal.bindOutcome (Option.some.inj same) fun made built =>
      Filter.legal_joinParts built (legal.part? call) (legal.part? call')
  | combine connective parts target =>
    obtain ⟨filters, calls, same⟩ := Option.bind_eq_some_iff.mp done
    exact legal.bindOutcome (Option.some.inj same) fun made built =>
      Filter.legal_combine built (legal.mapM_filter? calls)
  | side side source target =>
    obtain ⟨filter, call, same⟩ := Option.bind_eq_some_iff.mp done
    cases filter with
    | leaf condition =>
      cases same
      exact legal
    | join connective left right =>
      obtain ⟨first, second⟩ := Filter.legal_join.mp (legal.filter? call)
      cases side with
      | left =>
        cases same
        exact legal.bindFilter target first
      | right =>
        cases same
        exact legal.bindFilter target second

def run : Workspace → List Action → Option Workspace
  | workspace, [] => some workspace
  | workspace, action :: rest => do
    let (next, _) ← workspace.act action
    run next rest

theorem legal_run {actions : List Action} (legal : workspace.Legal) {last : Workspace}
    (done : workspace.run actions = some last) : last.Legal := by
  induction actions generalizing workspace with
  | nil =>
    cases done
    exact legal
  | cons action rest ih =>
    obtain ⟨⟨next, reply⟩, step, done⟩ := Option.bind_eq_some_iff.mp done
    exact ih (legal_act legal step) done

theorem legal_of_run {actions : List Action} {last : Workspace} (done : run {} actions = some last) :
    last.Legal := by
  have nothing : Legal {} := by
    intro bound member
    cases member
  exact legal_run nothing done

/-- Whatever is done, starting with nothing, the conditions of every filter are paired: in particular a list
only ever stands behind a test for membership.  Where conditions are put together, by a test or from parts
that were let through, the right side fits. -/
theorem paired_of_run {actions : List Action} {last : Workspace} (done : run {} actions = some last) :
    (∀ name filter, last.filter? name = some filter →
      ∀ condition ∈ filter.conditions, condition.Paired) ∧
    (∀ asked : Test, asked.right.Fits asked.comparator) ∧
    ∀ left comparator right condition,
      Condition.ofParts? left comparator right = .ok condition → right.Fits comparator := by
  have legal := legal_of_run done
  refine ⟨?_, ?_, ?_⟩
  · intro name filter found condition member
    exact Condition.paired_of_legal (legal.filter? found condition member)
  · intro asked
    exact Condition.legal_test ⟨"", "", []⟩ asked
  · intro left comparator right condition built
    exact (Condition.ofParts?_eq_ok.mp built).1

/-- A refused condition leaves the filter that had its name, and a side of a join can be taken out. -/
theorem paired_of_run_refused :
    ∃ actions last, run {} actions = some last ∧
      Action.condition "a" (.isIn false) .absent "x" ∈ actions ∧
      last.filter? "x" = last.filter? "w" ∧
      last.filter? "w" = some (.leaf ⟨⟨"E", "a", [.upper]⟩, .isIn true, .list []⟩) ∧
      Condition.Paired ⟨⟨"E", "a", [.upper]⟩, .isIn true, .list []⟩ := by
  let membership : Filter := .leaf ⟨⟨"E", "a", [.upper]⟩, .isIn true, .list []⟩
  let pattern : Filter := .leaf ⟨⟨"E", "a", []⟩, .relation .like, .column ⟨"E", "a", [.upper]⟩⟩
  have done : run {} [.property "a" ⟨"E", "a", []⟩, .transform "a" .upper "b",
      .test "b" (.isIn true []) "x", .condition "a" (.isIn false) .absent "x",
      .conditionAgainst "a" (.relation .like) "b" "y", .combine .or ["x", "y"] "z",
      .side .left "z" "w"] = some ⟨[("b", ⟨"E", "a", [.upper]⟩), ("a", ⟨"E", "a", []⟩)],
        [("w", membership), ("z", .join .or membership pattern), ("y", pattern), ("x", membership)]⟩ := rfl
  refine ⟨_, _, done, by simp, rfl, rfl, ?_⟩
  exact (paired_of_run done).1 "w" membership rfl _ (List.mem_singleton_self _)

end Workspace

end RowFilter
