import RowFilter.Proofs.Legality
import RowFilter.Proofs.Plans

/-! # Filters made anew

A filter can be read down to its names, functions, comparators and literals, and be made anew from these by
the operations that check what they are given.  The checks let through exactly the legal filters, and what comes
out is the filter that was read (`Filter.remade_eq_ok`). -/

set_option autoImplicit false

namespace RowFilter

/-! ## Columns and right sides -/

/-- A new column with the names of the old one, on which its functions are asked for again.  The one that was
asked for first stands last in the record. -/
def Column.replayed (column : Column) : Column :=
  applyAll ⟨column.entity, column.property, []⟩ column.functions.reverse

def RightSide.replayed : RightSide → RightSide
  | column value => column value.replayed
  | other => other

theorem Column.replayed_eq (column : Column) : column.replayed = column := by
  rw [replayed, applyAll_eq, List.reverse_reverse, List.append_nil]

theorem RightSide.replayed_eq (right : RightSide) : right.replayed = right := by
  cases right with
  | column value => rw [replayed, Column.replayed_eq]
  | _ => rfl

/-! ## Conditions and filters -/

def Condition.remade (condition : Condition) : Except FilterError Condition :=
  ofParts? condition.left.replayed condition.comparator condition.right.replayed

/-- Makes the sides anew, the left one first, and joins them as parts that could be missing. -/
def Visitor.remaker : Visitor (Except FilterError Filter) where
  and left right := do
    let first ← left.accepted
    let second ← right.accepted
    Filter.joinParts .and (some first) (some second)
  or left right := do
    let first ← left.accepted
    let second ← right.accepted
    Filter.joinParts .or (some first) (some second)
  leaf condition := do
    let made ← condition.remade
    .ok (.leaf made)

namespace Filter

def remade (filter : Filter) : Except FilterError Filter := filter.accept Visitor.remaker

theorem remade_leaf (condition : Condition) :
    (leaf condition).remade = (condition.remade >>= fun made => .ok (leaf made)) := rfl

theorem remade_join (connective : Connective) (left right : Filter) :
    (join connective left right).remade =
      (left.remade >>= fun first => right.remade >>= fun second => .ok (join connective first second)) := by
  cases connective <;> rfl

end Filter

theorem Condition.remade_eq_ok {condition made : Condition} :
    condition.remade = .ok made ↔ condition.Legal ∧ made = condition := by
  rw [remade, Column.replayed_eq, RightSide.replayed_eq]
  exact ofParts?_eq_ok

theorem Filter.remade_eq_ok {filter made : Filter} :
    filter.remade = .ok made ↔ filter.Legal ∧ made = filter := by
  induction filter generalizing made with
  | leaf condition =>
    rw [remade_leaf, FilterError.bind_eq_ok, legal_leaf]
    constructor
    · rintro ⟨found, call, same⟩
      obtain ⟨legal, rfl⟩ := Condition.remade_eq_ok.mp call
      exact ⟨legal, (Except.ok.inj same).symm⟩
    · rintro ⟨legal, rfl⟩
      exact ⟨condition, Condition.remade_eq_ok.mpr ⟨legal, rfl⟩, rfl⟩
  | join connective left right ihLeft ihRight =>
    rw [remade_join, FilterError.bind_eq_ok, legal_join]
    constructor
    · rintro ⟨first, call, rest⟩
      obtain ⟨second, call', same⟩ := FilterError.bind_eq_ok.mp rest
      obtain ⟨legal, rfl⟩ := ihLeft.mp call
      obtain ⟨legal', rfl⟩ := ihRight.mp call'
      exact ⟨⟨legal, legal'⟩, (Except.ok.inj same).symm⟩
    · rintro ⟨⟨legal, legal'⟩, rfl⟩
      exact ⟨left, ihLeft.mpr ⟨legal, rfl⟩,
        FilterError.bind_eq_ok.mpr ⟨right, ihRight.mpr ⟨legal', rfl⟩, rfl⟩⟩

/-! ## Whatever can be built -/

theorem Plan.legal_filter (plan : Plan) : plan.filter.Legal := by
  induction plan with
  | test column asked => exact column.legal_asks asked
  | join connective left right ihLeft ihRight => exact Filter.legal_join.mpr ⟨ihLeft, ihRight⟩

/-- Every filter that can be built is made anew as it was, in particular one that was built by tests and joins
alone: the checks refuse nothing of it. -/
theorem Filter.remade_of_built :
    (∀ actions last name filter, Workspace.run {} actions = some last →
      last.filter? name = some filter → filter.remade = .ok filter) ∧
    ∀ plan : Plan, plan.filter.remade = .ok plan.filter := by
  constructor
  · intro actions last name filter done found
    exact remade_eq_ok.mpr ⟨(Workspace.legal_of_run done).filter? found, rfl⟩
  · intro plan
    exact remade_eq_ok.mpr ⟨plan.legal_filter, rfl⟩

/-- Functions on both sides, and a filter that does not even agree with itself: a NaN stays the NaN it was. -/
theorem Filter.remade_of_built_nan :
    ∃ actions last filter, Workspace.run {} actions = some last ∧ last.filter? "z" = some filter ∧
      filter = .join .or
        (.leaf ⟨⟨"E", "a", [.lower, .year]⟩, .relation .lessThan, .column ⟨"E", "a", [.year]⟩⟩)
        (.leaf ⟨⟨"E", "a", [.year]⟩, .isIn true, .list [.float ⟨0x7ff8000000000001⟩]⟩) ∧
      filter.agrees filter = false ∧ filter.remade = .ok filter := by
  let filter : Filter := .join .or
    (.leaf ⟨⟨"E", "a", [.lower, .year]⟩, .relation .lessThan, .column ⟨"E", "a", [.year]⟩⟩)
    (.leaf ⟨⟨"E", "a", [.year]⟩, .isIn true, .list [.float ⟨0x7ff8000000000001⟩]⟩)
  obtain ⟨last, done, found⟩ : ∃ last, Workspace.run {} [.property "a" ⟨"E", "a", []⟩,
      .transform "a" .year "b", .transform "b" .lower "c",
      .conditionAgainst "c" (.relation .lessThan) "b" "x",
      .test "b" (.isIn true [.float ⟨0x7ff8000000000001⟩]) "y", .join .or "x" "y" "z"] = some last ∧
        last.filter? "z" = some filter := ⟨_, rfl, rfl⟩
  obtain ⟨anew, _⟩ := remade_of_built
  exact ⟨_, last, filter, done, found, rfl, rfl, anew _ last "z" filter done found⟩

end RowFilter
