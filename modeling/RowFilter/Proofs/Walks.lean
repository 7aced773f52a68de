import Mathlib.Data.List.Induction
import Mathlib.Data.List.Infix
import RowFilter.Proofs.Making

/-! # Walks

The walk through a filter names a joint before its sides, so a joint asks for two walks behind it and a leaf for
none.  Nothing else is needed to find the filter in the walk, and the end of the walk in a longer list
(`Filter.append_preorder_inj`).  A list is a walk exactly when it has one leaf more than it has joints, and no
shorter front of it has. -/

set_option autoImplicit false

namespace RowFilter

/-! ## Leaves and joints of a list -/

namespace Node

def isLeaf : Node → Bool
  | leaf _ => true
  | join _ => false

def leaves (nodes : List Node) : Nat := nodes.countP isLeaf

def joints (nodes : List Node) : Nat := nodes.countP fun node => !node.isLeaf

def OneLeafMore (nodes : List Node) : Prop := leaves nodes = joints nodes + 1

instance (nodes : List Node) : Decidable (OneLeafMore nodes) :=
  inferInstanceAs (Decidable (leaves nodes = joints nodes + 1))

theorem leaves_leaf (condition : Condition) (rest : List Node) :
    leaves (leaf condition :: rest) = leaves rest + 1 := List.countP_cons_of_pos rfl

theorem leaves_join (connective : Connective) (rest : List Node) :
    leaves (join connective :: rest) = leaves rest := List.countP_cons_of_neg Bool.false_ne_true

theorem joints_leaf (condition : Condition) (rest : List Node) :
    joints (leaf condition :: rest) = joints rest := List.countP_cons_of_neg Bool.false_ne_true

theorem joints_join (connective : Connective) (rest : List Node) :
    joints (join connective :: rest) = joints rest + 1 := List.countP_cons_of_pos rfl

theorem leaves_append (first rest : List Node) : leaves (first ++ rest) = leaves first + leaves rest :=
  List.countP_append

theorem joints_append (first rest : List Node) : joints (first ++ rest) = joints first + joints rest :=
  List.countP_append

theorem leaves_le_joints {nodes front : List Node}
    (never : ∀ front, front <+: nodes → front ≠ nodes → ¬ OneLeafMore front) (short : front <+: nodes)
    (proper : front ≠ nodes) : leaves front ≤ joints front := by
  induction front using List.reverseRecOn with
  | nil => exact Nat.zero_le _
  | append_singleton front last ih =>
    have unequal : leaves (front ++ [last]) ≠ joints (front ++ [last]) + 1 := never _ short proper
    have fewer : leaves front ≤ joints front := by
      apply ih ((List.prefix_append front [last]).trans short)
      intro whole
      have longer := short.length_le
      rw [← whole, List.length_append, List.length_singleton] at longer
      omega
    have noLeaves : leaves [] = 0 := rfl
    have noJoints : joints [] = 0 := rfl
    rw [leaves_append, joints_append] at unequal ⊢
    cases last with
    | leaf condition =>
      rw [leaves_leaf, joints_leaf] at unequal ⊢
      omega
    | join connective =>
      rw [leaves_join, joints_join]
      omega

end Node

namespace Filter

open Node

theorem oneLeafMore_preorder (filter : Filter) : OneLeafMore filter.preorder := by
  induction filter with
  | leaf condition => rfl
  | join connective left right ihLeft ihRight =>
    rw [OneLeafMore] at ihLeft ihRight ⊢
    rw [preorder_join, leaves_join, joints_join, leaves_append, joints_append]
    omega

theorem leaves_le_joints_of_prefix {filter : Filter} {front : List Node} (short : front <+: filter.preorder)
    (proper : front ≠ filter.preorder) : leaves front ≤ joints front := by
  induction filter generalizing front with
  | leaf condition =>
    rcases List.prefix_cons_iff.mp short with rfl | ⟨rest, rfl, nothing⟩
    · exact Nat.zero_le _
    · rw [List.prefix_nil.mp nothing] at proper
      exact absurd rfl proper
  | join connective left right ihLeft ihRight =>
    rw [preorder_join] at short proper
    rcases List.prefix_cons_iff.mp short with rfl | ⟨rest, rfl, inside⟩
    · exact Nat.zero_le _
    · rw [leaves_join, joints_join]
      have whole : leaves left.preorder = joints left.preorder + 1 := left.oneLeafMore_preorder
      rcases List.prefix_or_prefix_of_prefix inside (List.prefix_append left.preorder right.preorder) with
        early | ⟨more, rfl⟩
      · by_cases complete : rest = left.preorder
        · rw [complete]
          omega
        · have fewer := ihLeft early complete
          omega
      · have fewer : leaves more ≤ joints more := by
          apply ihRight ((List.prefix_append_right_inj left.preorder).mp inside)
          rintro rfl
          exact proper rfl
        rw [leaves_append, joints_append]
        omega

/-! ## Reading walks -/

/-- A walk determines its filter and where it ends. -/
theorem append_preorder_inj {a b : Filter} {r s : List Node} (same : a.preorder ++ r = b.preorder ++ s) :
    a = b ∧ r = s := by
  induction a generalizing b r s with
  | leaf condition =>
    cases b with
    | leaf condition' =>
      obtain ⟨equal, rests⟩ := List.cons.inj same
      exact ⟨congrArg Filter.leaf (Node.leaf.inj equal), rests⟩
    | join connective left right =>
      rw [preorder_leaf, preorder_join] at same
      cases same
  | join connective left right ihLeft ihRight =>
    cases b with
    | leaf condition =>
      rw [preorder_leaf, preorder_join] at same
      cases same
    | join connective' left' right' =>
      rw [preorder_join, preorder_join, List.cons_append, List.cons_append, List.append_assoc, List.append_assoc] at same
      obtain ⟨equal, inside⟩ := List.cons.inj same
      -- The left walk ends where the right one starts.
      obtain ⟨rfl, behind⟩ := ihLeft inside
      obtain ⟨rfl, rests⟩ := ihRight behind
      exact ⟨congrArg (Filter.join · left right) (Node.join.inj equal), rests⟩

theorem leaves_flatMap_preorder (filters : List Filter) :
    leaves (filters.flatMap preorder) = joints (filters.flatMap preorder) + filters.length := by
  induction filters with
  | nil => rfl
  | cons first rest ih =>
    have whole : leaves first.preorder = joints first.preorder + 1 := first.oneLeafMore_preorder
    rw [List.flatMap_cons, leaves_append, joints_append, List.length_cons]
    omega

/-- Read from its end, a list is a row of walks as long as no end of it runs short of leaves. -/
theorem exists_walks {nodes : List Node}
    (enough : ∀ back, back <:+ nodes → back ≠ [] → joints back < leaves back) :
    ∃ filters : List Filter, filters.flatMap preorder = nodes := by
  induction nodes with
  | nil => exact ⟨[], rfl⟩
  | cons node rest ih =>
    obtain ⟨filters, walks⟩ := ih fun back later some =>
      enough back (later.trans (List.suffix_cons node rest)) some
    cases node with
    | leaf condition => exact ⟨leaf condition :: filters, congrArg (Node.leaf condition :: ·) walks⟩
    | join connective =>
      have total := enough _ List.suffix_rfl (List.cons_ne_nil _ _)
      have count := leaves_flatMap_preorder filters
      rw [walks] at count
      rw [leaves_join, joints_join] at total
      -- At least two walks are there for the joint to take.
      obtain ⟨left, right, others, rfl⟩ : ∃ left right others, filters = left :: right :: others := by
        cases filters with
        | nil => rw [List.length_nil] at count; omega
        | cons left filters =>
          cases filters with
          | nil => rw [List.length_singleton] at count; omega
          | cons right others => exact ⟨left, right, others, rfl⟩
      refine ⟨join connective left right :: others, ?_⟩
      rw [← walks]
      simp only [preorder_join, List.flatMap_cons, List.cons_append, List.append_assoc]

/-- A list is one walk when it has one leaf more than it has joints, and had no such front before. -/
theorem exists_walk {nodes : List Node} (whole : OneLeafMore nodes)
    (never : ∀ front, front <+: nodes → front ≠ nodes → ¬ OneLeafMore front) :
    ∃ filter : Filter, filter.preorder = nodes := by
  have total : leaves nodes = joints nodes + 1 := whole
  have enough (back : List Node) (later : back <:+ nodes) (some : back ≠ []) : joints back < leaves back := by
    obtain ⟨front, rfl⟩ := later
    have fewer := leaves_le_joints never (List.prefix_append front back) (by simp [some])
    rw [leaves_append, joints_append] at total
    omega
  obtain ⟨filters, walks⟩ := exists_walks enough
  have count := leaves_flatMap_preorder filters
  rw [walks] at count
  obtain ⟨filter, rfl⟩ := List.length_eq_one_iff.mp (show filters.length = 1 by omega)
  rw [List.flatMap_singleton] at walks
  exact ⟨filter, walks⟩

theorem mem_preorder {filter : Filter} {condition : Condition} :
    Node.leaf condition ∈ filter.preorder ↔ condition ∈ filter.conditions := by
  induction filter with
  | leaf other => simp [preorder_leaf, conditions]
  | join connective left right ihLeft ihRight => simp [preorder_join, conditions, ihLeft, ihRight]

end Filter

end RowFilter
