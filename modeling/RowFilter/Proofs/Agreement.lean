import RowFilter.Proofs.Alike
import RowFilter.Proofs.Amounts

/-! # Agreement

Filters agree when they are alike and their literals are the same one by one (`Filter.agrees_iff`), floats being
the same when they are numbers of one amount.  Being alike takes over from the relation on literals whether it
goes both ways, can be chained, and relates a filter to itself; so agreement fails to be an equivalence only
where there is a NaN. -/

set_option autoImplicit false

namespace RowFilter

/-! ## Literals -/

/-- Floats are the same when they are numbers and amount to the same, everything else when it is identical. -/
inductive Literal.Same : Literal → Literal → Prop
  | float {x y : Binary64} (numberX : x.isNaN = false) (numberY : y.isNaN = false)
      (amounts : x.amount = y.amount) : Same (.float x) (.float y)
  | identical {literal : Literal} (other : ∀ x, literal ≠ .float x) : Same literal literal

theorem Literal.same_of_agrees {x y : Literal} (agreed : x.agrees y = true) : x.Same y := by
  cases x with
  | float value =>
    cases y with
    | float other =>
      obtain ⟨numberX, numberY, amounts⟩ := Binary64.agrees_iff.mp agreed
      exact .float numberX numberY amounts
    | _ => simp [agrees] at agreed
  | _ =>
    obtain rfl := of_decide_eq_true agreed
    exact .identical (by simp)

theorem Literal.agrees_iff {x y : Literal} : x.agrees y = true ↔ x.Same y := by
  constructor
  · exact same_of_agrees
  · intro same
    cases same with
    | float numberX numberY amounts => exact Binary64.agrees_iff.mpr ⟨numberX, numberY, amounts⟩
    | identical other =>
      rw [agrees_self]
      cases x with
      | float value => exact absurd rfl (other value)
      | _ => rfl

namespace Literal.Same

variable {x y z : Literal}

theorem symm (same : x.Same y) : y.Same x := by
  rw [← agrees_iff, agrees_comm, agrees_iff]
  exact same

theorem trans (first : x.Same y) (second : y.Same z) : x.Same z :=
  agrees_iff.mp (agrees_trans (agrees_iff.mpr first) (agrees_iff.mpr second))

theorem self_iff : x.Same x ↔ x.isNaN = false := by
  rw [← agrees_iff, agrees_self, Bool.not_eq_true']

end Literal.Same

/-! ## Laws of being alike -/

variable {related : Literal → Literal → Prop}

theorem RightSide.Alike.symm (commutes : ∀ x y, related x y → related y x) {right other : RightSide}
    (alike : right.Alike related other) : other.Alike related right := by
  cases alike with
  | absent => exact .absent
  | literal pair => exact .literal (commutes _ _ pair)
  | column value => exact .column value
  | list pairs => exact .list (pairs.imp commutes).flip

theorem Condition.Alike.symm (commutes : ∀ x y, related x y → related y x) {condition other : Condition}
    (alike : condition.Alike related other) : other.Alike related condition :=
  ⟨alike.left.symm, alike.comparator.symm, alike.right.symm commutes⟩

theorem Filter.Alike.symm (commutes : ∀ x y, related x y → related y x) {filter other : Filter}
    (alike : filter.Alike related other) : other.Alike related filter := by
  induction alike with
  | leaf alike => exact .leaf (alike.symm commutes)
  | join connective _ _ ihFirst ihSecond => exact .join connective ihFirst ihSecond

theorem Literal.forall₂_trans (chains : ∀ x y z, related x y → related y z → related x z)
    {xs ys zs : List Literal} (first : List.Forall₂ related xs ys) (second : List.Forall₂ related ys zs) :
    List.Forall₂ related xs zs := by
  induction first generalizing zs with
  | nil => exact second
  | cons pair _ ih =>
    cases second with
    | cons pair' rest => exact .cons (chains _ _ _ pair pair') (ih rest)

theorem RightSide.Alike.trans (chains : ∀ x y z, related x y → related y z → related x z)
    {right middle other : RightSide} (first : right.Alike related middle)
    (second : middle.Alike related other) : right.Alike related other := by
  cases first with
  | absent => exact second
  | literal pair =>
    cases second with
    | literal pair' => exact .literal (chains _ _ _ pair pair')
  | column value => exact second
  | list pairs =>
    cases second with
    | list pairs' => exact .list (Literal.forall₂_trans chains pairs pairs')

theorem Condition.Alike.trans (chains : ∀ x y z, related x y → related y z → related x z)
    {condition middle other : Condition} (first : condition.Alike related middle)
    (second : middle.Alike related other) : condition.Alike related other :=
  ⟨first.left.trans second.left, first.comparator.trans second.comparator,
    first.right.trans chains second.right⟩

theorem Filter.Alike.trans (chains : ∀ x y z, related x y → related y z → related x z)
    {filter middle other : Filter} (first : filter.Alike related middle)
    (second : middle.Alike related other) : filter.Alike related other := by
  induction first generalizing other with
  | leaf alike =>
    cases second with
    | leaf alike' => exact .leaf (alike.trans chains alike')
  | join connective _ _ ihFirst ihSecond =>
    cases second with
    | join _ left right => exact .join connective (ihFirst left) (ihSecond right)

theorem RightSide.alike_self_iff {right : RightSide} :
    right.Alike related right ↔ ∀ literal ∈ right.literals, related literal literal := by
  constructor
  · intro alike
    exact List.forall₂_same.mp alike.literals
  · intro same
    cases right with
    | absent => exact .absent
    | literal value => exact .literal (same value (List.mem_singleton_self value))
    | column value => exact .column value
    | list values => exact .list (List.forall₂_same.mpr same)

/-- A filter is alike itself when each of its literals is related to itself. -/
theorem Filter.alike_self_iff {filter : Filter} :
    filter.Alike related filter ↔ ∀ literal ∈ filter.literals, related literal literal := by
  constructor
  · intro alike
    exact List.forall₂_same.mp alike.literals
  · intro same
    induction filter with
    | leaf condition =>
      rw [literals_leaf] at same
      exact .leaf ⟨rfl, rfl, RightSide.alike_self_iff.mpr same⟩
    | join connective left right ihLeft ihRight =>
      rw [literals_join, List.forall_mem_append] at same
      exact .join connective (ihLeft same.1) (ihRight same.2)

/-! ## Agreement is being alike -/

theorem RightSide.agreeAll_iff {xs ys : List Literal} :
    agreeAll xs ys = true ↔ List.Forall₂ Literal.Same xs ys := by
  induction xs generalizing ys with
  | nil => cases ys <;> simp [agreeAll]
  | cons x xs ih => cases ys <;> simp [agreeAll, Literal.agrees_iff, ih]

theorem RightSide.agrees_iff {right other : RightSide} :
    right.agrees other = true ↔ right.Alike Literal.Same other := by
  constructor
  · intro agreed
    cases right with
    | absent =>
      cases other with
      | absent => exact .absent
      | _ => cases agreed
    | literal x =>
      cases other with
      | literal y => exact .literal (Literal.agrees_iff.mp agreed)
      | _ => cases agreed
    | column x =>
      cases other with
      | column y =>
        obtain rfl := of_decide_eq_true agreed
        exact .column x
      | _ => cases agreed
    | list xs =>
      cases other with
      | list ys => exact .list (agreeAll_iff.mp agreed)
      | _ => cases agreed
  · intro alike
    cases alike with
    | absent => rfl
    | literal pair => exact Literal.agrees_iff.mpr pair
    | column value => exact decide_eq_true rfl
    | list pairs => exact agreeAll_iff.mpr pairs

theorem Condition.agrees_iff {condition other : Condition} :
    condition.agrees other = true ↔ condition.Alike Literal.Same other := by
  rw [agrees, Bool.and_eq_true, Bool.and_eq_true, decide_eq_true_iff, decide_eq_true_iff,
    RightSide.agrees_iff]
  constructor
  · rintro ⟨⟨left, comparator⟩, right⟩
    exact ⟨left, comparator, right⟩
  · rintro ⟨left, comparator, right⟩
    exact ⟨⟨left, comparator⟩, right⟩

/-- Filters agree when they have one tree and, condition by condition, the same columns, the same comparator and
the same right sides up to the floats that amount to the same. -/
theorem Filter.agrees_iff {filter other : Filter} :
    filter.agrees other = true ↔ filter.Alike Literal.Same other := by
  induction filter generalizing other with
  | leaf condition =>
    cases other with
    | leaf condition' =>
      rw [agrees, Condition.agrees_iff]
      exact ⟨.leaf, fun | .leaf alike => alike⟩
    | join connective left right => exact ⟨nofun, nofun⟩
  | join connective left right ihLeft ihRight =>
    cases other with
    | leaf condition => exact ⟨nofun, nofun⟩
    | join connective' left' right' =>
      rw [agrees, Bool.and_eq_true, Bool.and_eq_true, decide_eq_true_iff, ihLeft, ihRight]
      constructor
      · rintro ⟨⟨rfl, first⟩, second⟩
        exact .join connective first second
      · intro alike
        cases alike with
        | join _ first second => exact ⟨⟨rfl, first⟩, second⟩

namespace Filter

theorem agrees_symm {a b : Filter} (agreed : a.agrees b = true) : b.agrees a = true := by
  rw [agrees_iff] at agreed ⊢
  exact agreed.symm fun _ _ => Literal.Same.symm

/-- Sides that change places have to agree with each other. -/
theorem agrees_swapped_iff (connective : Connective) {a b : Filter} :
    (join connective a b).agrees (join connective b a) = true ↔ a.agrees b = true := by
  rw [agrees, Bool.and_eq_true, Bool.and_eq_true, decide_eq_true_iff]
  constructor
  · rintro ⟨⟨_, first⟩, _⟩
    exact first
  · intro agreed
    exact ⟨⟨rfl, agreed⟩, agrees_symm agreed⟩

/-- Agreement goes both ways and can be chained, and a filter agrees with itself unless there is a NaN in it.
The sides of a join can change places only when they agree, and a conjunction never agrees with a disjunction.
What agrees is identical up to the floats, and these count by what they amount to. -/
theorem agreement_partial_equivalence :
    (∀ a b : Filter, a.agrees b = true → b.agrees a = true) ∧
    (∀ a b c : Filter, a.agrees b = true → b.agrees c = true → a.agrees c = true) ∧
    (∀ a : Filter, a.agrees a = true ↔ ∀ literal ∈ a.literals, literal.isNaN = false) ∧
    (∀ a b : Filter, ((a.and b).agrees (b.and a) = true ↔ a.agrees b = true) ∧
      ((a.or b).agrees (b.or a) = true ↔ a.agrees b = true)) ∧
    (∀ a b c d : Filter, (a.and b).agrees (c.or d) = false ∧ (c.or d).agrees (a.and b) = false) ∧
    ∀ a b : Filter, a.agrees b = true ↔ a.Alike Literal.Same b := by
  refine ⟨fun _ _ => agrees_symm, ?_, ?_, ?_, ?_, fun _ _ => agrees_iff⟩
  · intro a b c first second
    rw [agrees_iff] at first second ⊢
    exact first.trans (fun _ _ _ one next => one.trans next) second
  · intro a
    simp only [agrees_iff, alike_self_iff, Literal.Same.self_iff]
  · intro a b
    exact ⟨agrees_swapped_iff .and, agrees_swapped_iff .or⟩
  · intro a b c d
    exact ⟨rfl, rfl⟩

/-- Three filters that differ in the signs of their zeros, and one with a NaN. -/
theorem agreement_partial_equivalence_zeros :
    ∃ a b c nan : Filter, a ≠ b ∧ b ≠ c ∧ a ≠ c ∧ a.agrees b = true ∧ b.agrees c = true ∧
      b.agrees a = true ∧ a.agrees c = true ∧ (a.and c).agrees (c.and a) = true ∧
      ¬ (a.or nan).agrees (a.or nan) = true := by
  let zeros (first second : UInt64) : Filter :=
    leaf ⟨⟨"E", "a", []⟩, .isIn false, .list [.float ⟨first⟩, .text "0", .float ⟨second⟩]⟩
  let a := zeros 0 0x8000000000000000
  let b := zeros 0x8000000000000000 0x8000000000000000
  let c := zeros 0x8000000000000000 0
  let nan : Filter := leaf ⟨⟨"E", "a", []⟩, .relation .equals, .literal (.float ⟨0x7ff8000000000000⟩)⟩
  obtain ⟨symm, trans, self, swapped, _, _⟩ := agreement_partial_equivalence
  have first : a.agrees b = true := rfl
  have second : b.agrees c = true := rfl
  have chained : a.agrees c = true := trans a b c first second
  have number : ¬ (a.or nan).agrees (a.or nan) = true := by
    rw [self]
    intro numbers
    have last : Literal.float ⟨0x7ff8000000000000⟩ ∈ (a.or nan).literals :=
      List.mem_append_right _ (List.mem_singleton_self _)
    cases numbers _ last
  exact ⟨a, b, c, nan, by decide, by decide, by decide, first, second, symm a b first, chained,
    (swapped a c).1.mpr chained, number⟩

end Filter

end RowFilter
