import RowFilter.Proofs.Agreement

/-! # Rendering what agrees

Filters that agree need not be identical, because the two zeros agree.  They are rendered as one text all the
same, with literals that differ at most in the signs of zeros, and they can replace each other inside a larger
filter (`Filter.render_respects_agreement`). -/

set_option autoImplicit false

namespace RowFilter

open Sql

/-! ## Literals that are the same -/

def Literal.OppositeZeros (x y : Literal) : Prop :=
  (x = .float ⟨0⟩ ∧ y = .float ⟨0x8000000000000000⟩) ∨ (x = .float ⟨0x8000000000000000⟩ ∧ y = .float ⟨0⟩)

theorem Literal.Same.eq_or_oppositeZeros {x y : Literal} (same : x.Same y) : x = y ∨ x.OppositeZeros y := by
  cases same with
  | identical other => exact .inl rfl
  | float numberX numberY amounts =>
    have agreed := Binary64.agrees_iff.mpr ⟨numberX, numberY, amounts⟩
    rcases Binary64.eq_or_isZero_of_agrees agreed with equal | ⟨zeroX, zeroY⟩
    · exact .inl (congrArg Literal.float equal)
    · rcases Binary64.eq_zero_of_isZero zeroX with rfl | rfl
      · rcases Binary64.eq_zero_of_isZero zeroY with rfl | rfl
        · exact .inl rfl
        · exact .inr (.inl ⟨rfl, rfl⟩)
      · rcases Binary64.eq_zero_of_isZero zeroY with rfl | rfl
        · exact .inr (.inr ⟨rfl, rfl⟩)
        · exact .inl rfl

/-! ## Larger filters -/

inductive Surrounding where
  | nothing
  | left (connective : Connective) (inner : Surrounding) (other : Filter)
  | right (connective : Connective) (other : Filter) (inner : Surrounding)

namespace Surrounding

def around (filter : Filter) : Surrounding → Filter
  | nothing => filter
  | left connective inner other => .join connective (inner.around filter) other
  | right connective other inner => .join connective other (inner.around filter)

def literals : Surrounding → List Literal
  | nothing => []
  | left _ inner other => inner.literals ++ other.literals
  | right _ other inner => other.literals ++ inner.literals

theorem alike_around {related : Literal → Literal → Prop} (surrounding : Surrounding)
    (same : ∀ literal ∈ surrounding.literals, related literal literal) {a b : Filter}
    (alike : a.Alike related b) : (surrounding.around a).Alike related (surrounding.around b) := by
  induction surrounding with
  | nothing => exact alike
  | left connective inner other ih =>
    rw [literals, List.forall_mem_append] at same
    exact .join connective (ih same.1) (Filter.alike_self_iff.mpr same.2)
  | right connective other inner ih =>
    rw [literals, List.forall_mem_append] at same
    exact .join connective (Filter.alike_self_iff.mpr same.1) (ih same.2)

end Surrounding

/-! ## Outcomes -/

/-- Outcomes with one refusal, or with one text and literals that agree one by one and differ at most in the
signs of zeros. -/
inductive Sql.OutcomesAgree : Except FilterError Rendered → Except FilterError Rendered → Prop
  | refused (refusal : FilterError) : OutcomesAgree (.error refusal) (.error refusal)
  | rendered (sql : String) {params others : List Literal} (length : params.length = others.length)
      (pairs : List.Forall₂ (fun x y => x.agrees y = true ∧ (x = y ∨ x.OppositeZeros y)) params others) :
      OutcomesAgree (.ok ⟨sql, params⟩) (.ok ⟨sql, others⟩)

theorem Filter.Alike.outcomesAgree {a b : Filter} (alike : a.Alike Literal.Same b) (dialect : Dialect)
    (aliases : Aliases) (settings : Settings) :
    OutcomesAgree (a.render dialect aliases settings) (b.render dialect aliases settings) := by
  rcases alike.render_related dialect aliases settings with ⟨refusal, first, second⟩ | ⟨sql, first, second⟩
  · rw [first, second]
    exact .refused refusal
  · rw [first, second]
    refine .rendered sql alike.literals.length_eq (alike.literals.imp ?_)
    intro x y same
    exact ⟨Literal.agrees_iff.mpr same, same.eq_or_oppositeZeros⟩

/-- Filters that agree are rendered with outcomes that agree, by themselves and in the same place of any filter
that has no NaN outside that place. -/
theorem Filter.render_respects_agreement (dialect : Dialect) (aliases : Aliases) (settings : Settings)
    {a b : Filter} (agreed : a.agrees b = true) :
    OutcomesAgree (a.render dialect aliases settings) (b.render dialect aliases settings) ∧
    ∀ surrounding : Surrounding, (∀ literal ∈ surrounding.literals, literal.isNaN = false) →
      (surrounding.around a).agrees (surrounding.around b) = true ∧
      OutcomesAgree ((surrounding.around a).render dialect aliases settings)
        ((surrounding.around b).render dialect aliases settings) := by
  have alike := agrees_iff.mp agreed
  refine ⟨alike.outcomesAgree dialect aliases settings, ?_⟩
  intro surrounding numbers
  have same : ∀ literal ∈ surrounding.literals, literal.Same literal := fun literal member =>
    Literal.Same.self_iff.mpr (numbers literal member)
  have whole := surrounding.alike_around same alike
  exact ⟨agrees_iff.mpr whole, whole.outcomesAgree dialect aliases settings⟩

/-- A zero and a minus zero in a list, between a text on one side and an empty list on the other. -/
theorem Filter.render_respects_agreement_zeros :
    ∃ (a b : Filter) (surrounding : Surrounding), a ≠ b ∧ a.agrees b = true ∧
      (∀ literal ∈ surrounding.literals, literal.isNaN = false) ∧
      (surrounding.around a).render .postgres [] { offset := 4 } =
        .ok ⟨"(\"E\".\"t\" LIKE $5 OR (\"E\".\"a\" IN ($6, $7) AND TRUE))",
          [.text "x", .float ⟨0⟩, .int 1]⟩ ∧
      (surrounding.around b).render .postgres [] { offset := 4 } =
        .ok ⟨"(\"E\".\"t\" LIKE $5 OR (\"E\".\"a\" IN ($6, $7) AND TRUE))",
          [.text "x", .float ⟨0x8000000000000000⟩, .int 1]⟩ ∧
      OutcomesAgree ((surrounding.around a).render .postgres [] { offset := 4 })
        ((surrounding.around b).render .postgres [] { offset := 4 }) := by
  let zero (bits : UInt64) : Filter := leaf ⟨⟨"E", "a", []⟩, .isIn false, .list [.float ⟨bits⟩, .int 1]⟩
  let surrounding : Surrounding := .right .or
    (leaf ⟨⟨"E", "t", []⟩, .relation .like, .literal (.text "x")⟩)
    (.left .and .nothing (leaf ⟨⟨"E", "b", []⟩, .isIn true, .list []⟩))
  have agreed : (zero 0).agrees (zero 0x8000000000000000) = true := rfl
  have numbers : ∀ literal ∈ surrounding.literals, literal.isNaN = false := by
    intro literal member
    rw [List.mem_singleton.mp member]
    rfl
  have outcomes := (render_respects_agreement .postgres [] { offset := 4 } agreed).2 surrounding numbers
  exact ⟨zero 0, zero 0x8000000000000000, surrounding, by decide, agreed, numbers, rfl, rfl, outcomes.2⟩

end RowFilter
