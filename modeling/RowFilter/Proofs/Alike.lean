import Mathlib.Data.List.Forall2
import RowFilter.Proofs.Outcome

/-! # Filters alike up to their literals

Two filters are alike when they have the same tree and, condition by condition, the same columns, the same
comparator and the same kind of right side, while their literals are only related one by one, lists being
of the same length.  What is carried out for a filter and what its layout is does not depend on the
literals, so alike filters are refused alike or get one text, and their lists of literals are related. -/

set_option autoImplicit false

namespace RowFilter

open Sql Event

variable {related : Literal → Literal → Prop}

/-! ## Right sides -/

inductive RightSide.Alike (related : Literal → Literal → Prop) : RightSide → RightSide → Prop
  | absent : Alike related .absent .absent
  | literal {value other : Literal} (pair : related value other) :
      Alike related (.literal value) (.literal other)
  | column (value : Column) : Alike related (.column value) (.column value)
  | list {values others : List Literal} (pairs : List.Forall₂ related values others) :
      Alike related (.list values) (.list others)

namespace RightSide.Alike

variable {right other : RightSide}

theorem literals (alike : right.Alike related other) :
    List.Forall₂ related right.literals other.literals := by
  cases alike with
  | absent => exact .nil
  | literal pair => exact .cons pair .nil
  | column value => exact .nil
  | list pairs => exact pairs

theorem eq_emptyList_iff (alike : right.Alike related other) :
    right = .list [] ↔ other = .list [] := by
  cases alike with
  | absent => simp
  | literal pair => simp
  | column value => rfl
  | list pairs =>
    cases pairs with
    | nil => rfl
    | cons pair rest => simp

theorem events_eq (alike : right.Alike related other) : right.events = other.events := by
  cases alike with
  | absent => rfl
  | literal pair => rfl
  | column value => rfl
  | list pairs => rw [events, events, List.map_const', List.map_const', pairs.length_eq]

theorem layout_eq (alike : right.Alike related other) (onColumn : Column → Column) (before : Nat) :
    (right.map onColumn id).layout before = (other.map onColumn id).layout before := by
  cases alike with
  | absent => rfl
  | literal pair => rfl
  | column value => rfl
  | list pairs => rw [map, map, layout, layout, List.length_map, List.length_map, pairs.length_eq]

end RightSide.Alike

/-! ## Conditions -/

structure Condition.Alike (related : Literal → Literal → Prop) (condition other : Condition) : Prop where
  left : condition.left = other.left
  comparator : condition.comparator = other.comparator
  right : condition.right.Alike related other.right

namespace Condition.Alike

variable {condition other : Condition}

theorem events_eq (alike : condition.Alike related other) : condition.events = other.events := by
  rw [events, events, alike.left, alike.right.events_eq]
  simp only [alike.right.eq_emptyList_iff]

theorem layout_normal (alike : condition.Alike related other) (aliases : Aliases) (wrapLeaves : Bool)
    (before : Nat) :
    (condition.normal aliases).layout wrapLeaves before =
      (other.normal aliases).layout wrapLeaves before := by
  rw [normal, normal]
  by_cases empty : other.right = .list []
  · rw [if_pos empty, if_pos (alike.right.eq_emptyList_iff.mpr empty), alike.comparator]
  · rw [if_neg empty, if_neg (mt alike.right.eq_emptyList_iff.mp empty), Normal.layout, Normal.layout,
      layout, layout, map, map, alike.left, alike.comparator, alike.right.layout_eq]

end Condition.Alike

/-! ## Filters -/

inductive Filter.Alike (related : Literal → Literal → Prop) : Filter → Filter → Prop
  | leaf {condition other : Condition} (alike : condition.Alike related other) :
      Alike related (.leaf condition) (.leaf other)
  | join (connective : Connective) {left right left' right' : Filter} (first : Alike related left left')
      (second : Alike related right right') :
      Alike related (.join connective left right) (.join connective left' right')

namespace Filter.Alike

variable {filter other : Filter}

theorem literals (alike : filter.Alike related other) :
    List.Forall₂ related filter.literals other.literals := by
  induction alike with
  | leaf alike =>
    rw [literals_leaf, literals_leaf]
    exact alike.right.literals
  | join connective first second ihFirst ihSecond =>
    rw [literals_join, literals_join]
    exact List.rel_append ihFirst ihSecond

theorem events_eq (alike : filter.Alike related other) : filter.events = other.events := by
  induction alike with
  | leaf alike => rw [events_leaf, events_leaf, alike.events_eq]
  | join connective first second ihFirst ihSecond =>
    rw [events_join, events_join, ihFirst, ihSecond]

theorem layout_normal (alike : filter.Alike related other) (aliases : Aliases) (wrapLeaves : Bool)
    (before : Nat) :
    (filter.normal aliases).layout wrapLeaves before =
      (other.normal aliases).layout wrapLeaves before := by
  induction alike generalizing before with
  | leaf alike => exact alike.layout_normal aliases wrapLeaves before
  | join connective first second ihFirst ihSecond =>
    -- Equally many literals on the left, so the right sides count on from one number.
    rw [normal, normal, Normal.layout, Normal.layout, literals_normal, literals_normal,
      first.literals.length_eq, ihFirst, ihSecond]

/-- Alike filters meet with one refusal, or are rendered as one text with related literals. -/
theorem render_related (alike : filter.Alike related other) (dialect : Dialect) (aliases : Aliases)
    (settings : Settings) :
    (∃ refusal, filter.render dialect aliases settings = .error refusal ∧
      other.render dialect aliases settings = .error refusal) ∨
    ∃ sql, filter.render dialect aliases settings = .ok ⟨sql, filter.literals⟩ ∧
      other.render dialect aliases settings = .ok ⟨sql, other.literals⟩ := by
  rw [render_eq, render_eq, alike.events_eq, alike.layout_normal]
  cases firstRefusal? aliases settings 0 other.events with
  | some refusal => exact .inl ⟨refusal, rfl, rfl⟩
  | none => exact .inr ⟨_, rfl, rfl⟩

end Filter.Alike

/-- Whatever the literals are: filters that differ in nothing else meet with one refusal, or are rendered as
one text, each with its own literals in order and equally many of them. -/
theorem Filter.render_blind_to_literals (dialect : Dialect) (aliases : Aliases) (settings : Settings)
    {filter other : Filter} (alike : filter.Alike (fun _ _ => True) other) :
    (∃ refusal, filter.render dialect aliases settings = .error refusal ∧
      other.render dialect aliases settings = .error refusal) ∨
    ∃ sql, filter.render dialect aliases settings = .ok ⟨sql, filter.literals⟩ ∧
      other.render dialect aliases settings = .ok ⟨sql, other.literals⟩ ∧
      filter.literals.length = other.literals.length := by
  rcases alike.render_related dialect aliases settings with refused | ⟨sql, success, success'⟩
  · exact .inl refused
  · exact .inr ⟨sql, success, success', alike.literals.length_eq⟩

/-- Integers on one side; a text that tries to leave its place, a NaN and an empty text on the other. -/
theorem Filter.render_blind_to_literals_hostile :
    ∃ filter other : Filter, filter.Alike (fun _ _ => True) other ∧
      other.literals = [.text "' OR 1 = 1 --", .float ⟨0x7ff8000000000000⟩, .text ""] ∧
      filter.render .postgres [] {} =
        .ok ⟨"(\"E\".\"a\" = $1 AND \"E\".\"b\" NOT IN ($2, $3))", [.int 1, .int 2, .int 3]⟩ ∧
      other.render .postgres [] {} =
        .ok ⟨"(\"E\".\"a\" = $1 AND \"E\".\"b\" NOT IN ($2, $3))", other.literals⟩ := by
  let filter : Filter := join .and (leaf ⟨⟨"E", "a", []⟩, .relation .equals, .literal (.int 1)⟩)
    (leaf ⟨⟨"E", "b", []⟩, .isIn true, .list [.int 2, .int 3]⟩)
  let other : Filter := join .and
    (leaf ⟨⟨"E", "a", []⟩, .relation .equals, .literal (.text "' OR 1 = 1 --")⟩)
    (leaf ⟨⟨"E", "b", []⟩, .isIn true, .list [.float ⟨0x7ff8000000000000⟩, .text ""]⟩)
  have pairs : List.Forall₂ (fun _ _ : Literal => True) [.int 2, .int 3]
      [.float ⟨0x7ff8000000000000⟩, .text ""] := .cons trivial (.cons trivial .nil)
  have alike : filter.Alike (fun _ _ => True) other :=
    .join .and (.leaf ⟨rfl, rfl, .literal trivial⟩) (.leaf ⟨rfl, rfl, .list pairs⟩)
  have success : filter.render .postgres [] {} =
      .ok ⟨"(\"E\".\"a\" = $1 AND \"E\".\"b\" NOT IN ($2, $3))", [.int 1, .int 2, .int 3]⟩ := rfl
  rcases render_blind_to_literals .postgres [] {} alike with ⟨_, refused, _⟩ | ⟨_, found, found', _⟩
  · rw [success] at refused
    cases refused
  · rw [success] at found
    cases found
    exact ⟨filter, other, alike, rfl, success, found'⟩

end RowFilter
