import RowFilter.Condition

/-! # Filters

A filter is a binary tree: conditions at the leaves, connectives at the joints.  It is kept exactly as it
was built; nothing is flattened or reordered.  `joinParts` and `combine` build from parts that may be
missing, and refuse when one is.  A visitor interprets a filter: `Filter.accept` leads it to the handler for
the node at hand, and the handler leads it on. -/

set_option autoImplicit false

namespace RowFilter

inductive Filter where
  | leaf (condition : Condition)
  | join (connective : Connective) (left right : Filter)
  deriving DecidableEq

namespace Filter

def and (left right : Filter) : Filter := join .and left right

def or (left right : Filter) : Filter := join .or left right

def joinParts (connective : Connective) : Option Filter → Option Filter → Except FilterError Filter
  | some left, some right => .ok (join connective left right)
  | _, _ => .error (.missingPart connective)

/-- Joins all parts, nested to the left; there must be at least one. -/
def combine (connective : Connective) : List Filter → Except FilterError Filter
  | [] => .error (.missingPart connective)
  | first :: rest => .ok (rest.foldl (join connective) first)

def allOf (parts : List Filter) : Except FilterError Filter := combine .and parts

def anyOf (parts : List Filter) : Except FilterError Filter := combine .or parts

def conditions : Filter → List Condition
  | leaf condition => [condition]
  | join _ left right => left.conditions ++ right.conditions

def Legal (filter : Filter) : Prop := ∀ condition ∈ filter.conditions, condition.Legal

instance (filter : Filter) : Decidable filter.Legal :=
  inferInstanceAs (Decidable (∀ condition ∈ filter.conditions, condition.Legal))

def written : Filter → List Char
  | leaf condition => condition.written
  | join connective left right =>
    '(' :: left.written ++ ' ' :: connective.name.toList ++ ' ' :: right.written ++ [')']

def describe (filter : Filter) : String := String.ofList filter.written

def agrees : Filter → Filter → Bool
  | leaf x, leaf y => x.agrees y
  | join connective left right, join connective' left' right' =>
    connective = connective' && left.agrees left' && right.agrees right'
  | _, _ => false

theorem legal_leaf {condition : Condition} : (leaf condition).Legal ↔ condition.Legal := by
  simp [Legal, conditions]

theorem legal_join {connective : Connective} {left right : Filter} :
    (join connective left right).Legal ↔ left.Legal ∧ right.Legal := by
  simp only [Legal, conditions, List.mem_append]
  constructor
  · intro all
    exact ⟨fun condition member => all condition (.inl member),
      fun condition member => all condition (.inr member)⟩
  · rintro ⟨first, second⟩ condition (member | member)
    · exact first condition member
    · exact second condition member

end Filter

/-! ## Comparing columns

Each way to compare a column has a comparator of its own and takes a right side of one kind. -/

namespace Column

/-- The caller sees to it that the right side fits. -/
def compare (column : Column) (comparator : Comparator) (right : RightSide) : Filter :=
  .leaf ⟨column, comparator, right⟩

def compareLiteral (column : Column) (relation : Relation) (value : Literal) : Filter :=
  column.compare (.relation relation) (.literal value)

def compareColumn (column : Column) (relation : Relation) (other : Column) : Filter :=
  column.compare (.relation relation) (.column other)

def is (column : Column) (value : Literal) : Filter := column.compareLiteral .equals value

def isColumn (column other : Column) : Filter := column.compareColumn .equals other

def isNot (column : Column) (value : Literal) : Filter := column.compareLiteral .notEquals value

def isNotColumn (column other : Column) : Filter := column.compareColumn .notEquals other

def greaterThan (column : Column) (value : Literal) : Filter := column.compareLiteral .greaterThan value

def greaterThanColumn (column other : Column) : Filter := column.compareColumn .greaterThan other

def greaterOrEqualTo (column : Column) (value : Literal) : Filter :=
  column.compareLiteral .greaterThanOrEqual value

def greaterOrEqualToColumn (column other : Column) : Filter :=
  column.compareColumn .greaterThanOrEqual other

def lessThan (column : Column) (value : Literal) : Filter := column.compareLiteral .lessThan value

def lessThanColumn (column other : Column) : Filter := column.compareColumn .lessThan other

def lessOrEqualTo (column : Column) (value : Literal) : Filter :=
  column.compareLiteral .lessThanOrEqual value

def lessOrEqualToColumn (column other : Column) : Filter := column.compareColumn .lessThanOrEqual other

def like (column : Column) (pattern : Literal) : Filter := column.compareLiteral .like pattern

def likeColumn (column other : Column) : Filter := column.compareColumn .like other

def notLike (column : Column) (pattern : Literal) : Filter := column.compareLiteral .notLike pattern

def notLikeColumn (column other : Column) : Filter := column.compareColumn .notLike other

def isNull (column : Column) : Filter := column.compare (.isNull false) .absent

def isNotNull (column : Column) : Filter := column.compare (.isNull true) .absent

def isIn (column : Column) (values : List Literal) : Filter := column.compare (.isIn false) (.list values)

def notIn (column : Column) (values : List Literal) : Filter := column.compare (.isIn true) (.list values)

def asks (column : Column) : Test → Filter
  | .compare .equals value => column.is value
  | .compare .notEquals value => column.isNot value
  | .compare .greaterThan value => column.greaterThan value
  | .compare .greaterThanOrEqual value => column.greaterOrEqualTo value
  | .compare .lessThan value => column.lessThan value
  | .compare .lessThanOrEqual value => column.lessOrEqualTo value
  | .compare .like pattern => column.like pattern
  | .compare .notLike pattern => column.notLike pattern
  | .compareColumn .equals other => column.isColumn other
  | .compareColumn .notEquals other => column.isNotColumn other
  | .compareColumn .greaterThan other => column.greaterThanColumn other
  | .compareColumn .greaterThanOrEqual other => column.greaterOrEqualToColumn other
  | .compareColumn .lessThan other => column.lessThanColumn other
  | .compareColumn .lessThanOrEqual other => column.lessOrEqualToColumn other
  | .compareColumn .like other => column.likeColumn other
  | .compareColumn .notLike other => column.notLikeColumn other
  | .isNull false => column.isNull
  | .isNull true => column.isNotNull
  | .isIn false values => column.isIn values
  | .isIn true values => column.notIn values

theorem asks_eq (column : Column) (test : Test) : column.asks test = .leaf (column.test test) := by
  cases test with
  | compare relation value => cases relation <;> rfl
  | compareColumn relation other => cases relation <;> rfl
  | isNull negated => cases negated <;> rfl
  | isIn negated values => cases negated <;> rfl

theorem legal_asks (column : Column) (test : Test) : (column.asks test).Legal := by
  rw [asks_eq]
  exact Filter.legal_leaf.mpr (Condition.legal_test column test)

end Column

/-! ## Visitors -/

/-- A side of a joint, and what a visitor does that is led there. -/
structure Branch (α : Type) where
  filter : Filter
  accepted : α

/-- A handler for each kind of node.  The handler of a joint decides whether, and in which order, the visitor goes
on to the sides. -/
structure Visitor (α : Type) where
  and : Branch α → Branch α → α
  or : Branch α → Branch α → α
  leaf : Condition → α

def Visitor.join {α : Type} (visitor : Visitor α) : Connective → Branch α → Branch α → α
  | .and => visitor.and
  | .or => visitor.or

def Filter.accept {α : Type} (visitor : Visitor α) : Filter → α
  | leaf condition => visitor.leaf condition
  | join connective left right =>
    visitor.join connective ⟨left, left.accept visitor⟩ ⟨right, right.accept visitor⟩

/-! ## Walks -/

inductive Node where
  | leaf (condition : Condition)
  | join (connective : Connective)
  deriving DecidableEq

/-- Records every node, a joint before its sides and the left side before the right. -/
def Visitor.recorder : Visitor (StateM (List Node) Unit) where
  and left right := do
    record (.join .and)
    left.accepted
    right.accepted
  or left right := do
    record (.join .or)
    left.accepted
    right.accepted
  leaf condition := record (.leaf condition)
where
  record (node : Node) : StateM (List Node) Unit := modify (· ++ [node])

namespace Filter

def preorder (filter : Filter) : List Node := ((filter.accept Visitor.recorder).run []).2

theorem run_recorder_join (connective : Connective) (left right : Filter) (seen : List Node) :
    ((join connective left right).accept Visitor.recorder).run seen =
      (right.accept Visitor.recorder).run
        ((left.accept Visitor.recorder).run (seen ++ [.join connective])).2 := by
  cases connective <;> rfl

theorem run_recorder (filter : Filter) (seen : List Node) :
    (filter.accept Visitor.recorder).run seen = ((), seen ++ filter.preorder) := by
  induction filter generalizing seen with
  | leaf condition => rfl
  | join connective left right ihLeft ihRight =>
    have alone : (join connective left right).preorder =
        [.join connective] ++ left.preorder ++ right.preorder := by
      rw [preorder, run_recorder_join, ihLeft, ihRight, List.nil_append]
    rw [run_recorder_join, ihLeft, ihRight, alone]
    simp only [List.append_assoc]

theorem preorder_leaf (condition : Condition) : (leaf condition).preorder = [.leaf condition] := rfl

theorem preorder_join (connective : Connective) (left right : Filter) :
    (join connective left right).preorder = .join connective :: (left.preorder ++ right.preorder) := by
  rw [preorder, run_recorder_join, run_recorder, run_recorder]
  rfl

end Filter

end RowFilter
