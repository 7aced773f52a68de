import RowFilter.Proofs.Legality

/-! # Filters that can be made

The filters that some sequence of actions makes are exactly the legal ones (`Filter.constructible_iff_legal`).
To make a filter, its parts are made from the left to the right and from the leaves up.  The parts that wait for
the others are kept under names of different lengths: what is being made never touches a shorter name. -/

set_option autoImplicit false

namespace RowFilter

namespace Workspace

variable {workspace : Workspace}

theorem run_append (workspace : Workspace) (first rest : List Action) :
    workspace.run (first ++ rest) = (workspace.run first).bind fun next => next.run rest := by
  induction first generalizing workspace with
  | nil => rfl
  | cons action first ih =>
    rw [List.cons_append, run, run]
    cases workspace.act action with
    | none => rfl
    | some done => exact ih done.1

def slot (depth : Nat) : String := String.ofList (List.replicate depth 'x')

theorem slot_ne {first second : Nat} (less : first < second) : slot first ≠ slot second := by
  intro same
  have lengths := congrArg String.length same
  simp only [slot, String.length_ofList, List.length_replicate] at lengths
  omega

theorem filter?_bindFilter_self (target : String) (made : Filter) :
    (workspace.bindFilter target made).1.filter? target = some made :=
  List.lookup_cons_self

theorem filter?_bindFilter_of_ne {name target : String} (apart : name ≠ target) (made : Filter) :
    (workspace.bindFilter target made).1.filter? name = workspace.filter? name := by
  have differ : (name == target) = false := by simp [apart]
  rw [filter?, bindFilter, List.lookup_cons, differ]
  rfl

end Workspace

namespace Filter

open Workspace

def actions (depth : Nat) : Filter → List Action
  | leaf condition =>
    [.property "" condition.left, .condition "" condition.comparator condition.right (slot depth)]
  | join connective left right =>
    left.actions depth ++ right.actions (depth + 1) ++
      [.join connective (slot depth) (slot (depth + 1)) (slot depth)]

/-- After its actions a legal filter has the name for its depth, and shorter names stand for what they stood
for. -/
theorem run_actions {filter : Filter} (legal : filter.Legal) (workspace : Workspace) (depth : Nat) :
    ∃ next, workspace.run (filter.actions depth) = some next ∧
      next.filter? (slot depth) = some filter ∧
      ∀ earlier < depth, next.filter? (slot earlier) = workspace.filter? (slot earlier) := by
  induction filter generalizing workspace depth with
  | leaf condition =>
    have made : Condition.ofParts? condition.left condition.comparator condition.right = .ok condition :=
      Condition.ofParts?_eq_ok.mpr ⟨legal_leaf.mp legal, rfl⟩
    let known := (workspace.bindColumn "" condition.left).1
    have done : workspace.run ((leaf condition).actions depth) =
        some (known.bindFilter (slot depth) (leaf condition)).1 := by
      simp [actions, run, act, column?, bindColumn, made, Except.map, bindOutcome, known]
    refine ⟨_, done, filter?_bindFilter_self _ _, ?_⟩
    intro earlier before
    exact filter?_bindFilter_of_ne (slot_ne before) _
  | join connective left right ihLeft ihRight =>
    obtain ⟨legalLeft, legalRight⟩ := legal_join.mp legal
    obtain ⟨first, doneFirst, foundLeft, keptFirst⟩ := ihLeft legalLeft workspace depth
    obtain ⟨second, doneSecond, foundRight, keptSecond⟩ := ihRight legalRight first (depth + 1)
    have stillLeft : second.filter? (slot depth) = some left := by
      rw [keptSecond depth (Nat.lt_succ_self depth), foundLeft]
    have done : workspace.run ((join connective left right).actions depth) =
        some (second.bindFilter (slot depth) (join connective left right)).1 := by
      simp [actions, run_append, doneFirst, doneSecond, run, act, stillLeft, foundRight]
    refine ⟨_, done, filter?_bindFilter_self _ _, ?_⟩
    intro earlier before
    rw [filter?_bindFilter_of_ne (slot_ne before), keptSecond earlier (by omega), keptFirst earlier before]

def Constructible (filter : Filter) : Prop :=
  ∃ actions last name, Workspace.run {} actions = some last ∧ last.filter? name = some filter

theorem constructible_iff_legal {filter : Filter} : filter.Constructible ↔ filter.Legal := by
  constructor
  · rintro ⟨actions, last, name, done, found⟩
    exact (Workspace.legal_of_run done).filter? found
  · intro legal
    obtain ⟨last, done, found, _⟩ := run_actions legal {} 0
    exact ⟨filter.actions 0, last, slot 0, done, found⟩

end Filter

end RowFilter
