import RowFilter.Proofs.InTurn

/-! # Conditions in parentheses

A rendered filter is made of the texts of its conditions and of what the tree puts around them.
`Frame.filled` puts texts into the places of the conditions; nothing in a frame depends on the conditions.
Parentheses around the conditions change the texts that are filled in and nothing else. -/

set_option autoImplicit false

namespace RowFilter

open Sql

/-! ## Frames -/

inductive Frame where
  | leaf
  | join (connective : Connective) (left right : Frame)
  deriving DecidableEq

def Filter.frame : Filter → Frame
  | leaf _ => .leaf
  | join connective left right => .join connective left.frame right.frame

/-- Texts with a gap behind each of them but the last. -/
def Sql.threaded : List String → List String → String
  | gap :: gaps, text :: texts => text ++ gap ++ threaded gaps texts
  | _, texts => String.join texts

namespace Frame

def front : Frame → String
  | leaf => ""
  | join _ left _ => "(" ++ left.front

def back : Frame → String
  | leaf => ""
  | join _ _ right => right.back ++ ")"

def gaps : Frame → List String
  | leaf => []
  | join connective left right =>
    left.gaps ++ (left.back ++ connective.word ++ right.front) :: right.gaps

def filled (frame : Frame) (texts : List String) : String :=
  frame.front ++ threaded frame.gaps texts ++ frame.back

end Frame

theorem Filter.length_gaps (filter : Filter) :
    filter.frame.gaps.length + 1 = filter.conditions.length := by
  induction filter with
  | leaf condition => rfl
  | join connective left right ihLeft ihRight =>
    rw [frame, Frame.gaps, conditions, List.length_append, List.length_append, List.length_cons, ← ihLeft,
      ← ihRight]
    omega

theorem Sql.threaded_append {gaps texts : List String} (enough : texts.length = gaps.length + 1)
    (gap : String) (more others : List String) :
    threaded (gaps ++ gap :: more) (texts ++ others) =
      threaded gaps texts ++ gap ++ threaded more others := by
  induction gaps generalizing texts with
  | nil =>
    obtain ⟨text, rfl⟩ := List.length_eq_one_iff.mp enough
    simp [threaded, String.join_cons]
  | cons first gaps ih =>
    cases texts with
    | nil => cases enough
    | cons text texts =>
      have rest := ih (Nat.succ.inj enough)
      rw [List.cons_append, List.cons_append, threaded, threaded, rest]
      simp only [String.append_assoc]

theorem Frame.filled_join (connective : Connective) {left right : Frame} {texts : List String}
    (enough : texts.length = left.gaps.length + 1) (others : List String) :
    (join connective left right).filled (texts ++ others) =
      "(" ++ left.filled texts ++ connective.word ++ right.filled others ++ ")" := by
  rw [filled, gaps, threaded_append enough, front, back, filled, filled]
  simp only [String.append_assoc]

/-! ## Conditions in their frame -/

section Renderings

variable (dialect : Dialect) (aliases : Aliases) (settings : Settings)

/-- Each condition of a filter as it is rendered alone behind the literals of those before it. -/
def Filter.renderConditions (filter : Filter) : Except FilterError (List Rendered) :=
  renderInTurn dialect aliases settings (filter.conditions.map leaf)

def Frame.rendered (frame : Frame) (parts : List Rendered) : Rendered :=
  ⟨frame.filled (parts.map Rendered.sql), parts.flatMap Rendered.params⟩

/-- A filter is rendered by rendering its conditions in turn, and putting them in its frame. -/
theorem Filter.render_eq_rendered_frame (filter : Filter) :
    filter.render dialect aliases settings =
      ((filter.renderConditions dialect aliases settings).mapError
        (FilterError.atOffset settings.offset)).map filter.frame.rendered := by
  induction filter generalizing settings with
  | leaf condition =>
    rw [renderConditions, conditions, List.map_singleton, renderInTurn]
    cases call : (leaf condition).render dialect aliases settings with
    | error refusal => exact congrArg Except.error (atOffset_of_render call).symm
    | ok alone =>
      have whole : frame (leaf condition) = .leaf := rfl
      simp [Bind.bind, Except.bind, Except.map, FilterError.mapError_ok, renderInTurn, whole,
        Frame.rendered, Frame.filled, Frame.front, Frame.gaps, Frame.back, threaded, String.join_cons]
  | join connective left right ihLeft ihRight =>
    rw [render_join, ihLeft]
    simp only [renderConditions] at ihRight ⊢
    rw [conditions, List.map_append, renderInTurn_append]
    cases before : renderInTurn dialect aliases settings (left.conditions.map leaf) with
    | error refusal => rfl
    | ok first =>
      simp only [Bind.bind, Except.bind, Except.map, FilterError.mapError_ok, ihRight, Frame.rendered]
      cases renderInTurn dialect aliases
          (settings.after (first.flatMap Rendered.params).length) (right.conditions.map leaf) with
      | error refusal => simp [FilterError.mapError_error]
      | ok second =>
        have enough : (first.map Rendered.sql).length = left.frame.gaps.length + 1 := by
          rw [List.length_map, length_of_renderInTurn before, List.length_map, length_gaps]
        simp only [frame, FilterError.mapError_ok, List.map_append, List.flatMap_append,
          Frame.filled_join connective enough]
        rfl

end Renderings

/-! ## Parentheses -/

def Sql.Rendered.enclosed (rendered : Rendered) : Rendered := ⟨"(" ++ rendered.sql ++ ")", rendered.params⟩

def Sql.Settings.wrapping (settings : Settings) (wrapLeaves : Bool) : Settings :=
  { settings with wrapLeaves }

theorem Sql.Settings.wrapping_after (settings : Settings) (wrapLeaves : Bool) (bound : Nat) :
    (settings.wrapping wrapLeaves).after bound = (settings.after bound).wrapping wrapLeaves := rfl

section Both

variable (dialect : Dialect) (aliases : Aliases) (settings : Settings)

theorem Event.firstRefusal?_wrapping (wrapLeaves : Bool) (bound : Nat) (events : List Event) :
    firstRefusal? aliases (settings.wrapping wrapLeaves) bound events =
      firstRefusal? aliases settings bound events := by
  have found : firstRefusal? aliases (settings.wrapping wrapLeaves) bound events =
      (firstRefusal? aliases settings bound events).map id := by
    apply firstRefusal?_map
    · intro event _ more
      cases event <;> exact Iff.rfl
    · intro event
      cases event <;> rfl
  rwa [Option.map_id, id] at found

theorem Condition.layout_normal_wrapping (before : Nat) (condition : Condition) :
    (condition.normal aliases).layout true before =
      .leftParen :: (condition.normal aliases).layout false before ++ [.rightParen] := by
  rw [normal]
  split <;> rfl

theorem Filter.render_leaf_wrapping (condition : Condition) :
    (leaf condition).render dialect aliases (settings.wrapping true) =
      ((leaf condition).render dialect aliases (settings.wrapping false)).map Rendered.enclosed := by
  rw [render_eq, render_eq, Event.firstRefusal?_wrapping, Event.firstRefusal?_wrapping]
  cases Event.firstRefusal? aliases settings 0 (leaf condition).events with
  | some refusal => rfl
  | none =>
    have text (before : Nat) :
        String.ofList (spell dialect (((leaf condition).normal aliases).layout true before)) =
          "(" ++ String.ofList (spell dialect (((leaf condition).normal aliases).layout false before)) ++
            ")" := by
      apply String.toList_inj.mp
      rw [normal, Condition.layout_normal_wrapping]
      simp [spell, Piece.spelled]
    exact congrArg (fun sql => Except.ok (Rendered.mk sql _)) (text settings.offset)

/-- The conditions of a filter are refused alike, or each of them gets its parentheses. -/
theorem Filter.renderConditions_wrapping (filter : Filter) :
    filter.renderConditions dialect aliases (settings.wrapping true) =
      (filter.renderConditions dialect aliases (settings.wrapping false)).map
        (List.map Rendered.enclosed) := by
  rw [renderConditions, renderConditions]
  induction filter.conditions generalizing settings with
  | nil => rfl
  | cons condition rest ih =>
    rw [List.map_cons, renderInTurn, renderInTurn, render_leaf_wrapping]
    cases (leaf condition).render dialect aliases (settings.wrapping false) with
    | error refusal => rfl
    | ok first =>
      have later := ih (settings.after first.params.length)
      have bound : first.enclosed.params.length = first.params.length := rfl
      simp only [Bind.bind, Except.bind, Except.map, bound, Settings.wrapping_after, later]
      cases renderInTurn dialect aliases ((settings.after first.params.length).wrapping false)
        (rest.map leaf) <;> rfl

/-! ## Sizes -/

section Sizes

variable {size : String → Nat} (additive : ∀ x y, size (x ++ y) = size x + size y)

include additive

theorem Sql.size_threaded_enclosed (gaps : List String) (parts : List Rendered) :
    size (threaded gaps (parts.map fun part => part.enclosed.sql)) =
      size (threaded gaps (parts.map Rendered.sql)) + (size "(" + size ")") * parts.length := by
  induction parts generalizing gaps with
  | nil => cases gaps <;> rfl
  | cons part rest ih =>
    have enclosed : size part.enclosed.sql = size "(" + size part.sql + size ")" := by
      rw [Rendered.enclosed, additive, additive]
    cases gaps with
    | nil =>
      have later := ih []
      simp only [threaded, List.map_cons, String.join_cons, additive, List.length_cons, Nat.mul_succ,
        enclosed] at later ⊢
      omega
    | cons gap gaps =>
      have later := ih gaps
      simp only [threaded, List.map_cons, additive, List.length_cons, Nat.mul_succ, enclosed]
      omega

theorem Frame.size_filled_enclosed (frame : Frame) (parts : List Rendered) :
    size (frame.filled (parts.map fun part => part.enclosed.sql)) =
      size (frame.filled (parts.map Rendered.sql)) + (size "(" + size ")") * parts.length := by
  have inside := size_threaded_enclosed additive frame.gaps parts
  simp only [filled, additive]
  omega

end Sizes

/-- With parentheses around the conditions or without them, a filter is refused alike or binds the same
literals.  Its text is its frame with the texts of its conditions in it, and the frame stays while each of these
texts gets its parentheses: two more characters for each condition, and as many bytes. -/
theorem Filter.render_adds_parentheses (filter : Filter) :
    (∃ refusal, filter.render dialect aliases (settings.wrapping false) = .error refusal ∧
      filter.render dialect aliases (settings.wrapping true) = .error refusal) ∨
    ∃ parts bare wrapped,
      filter.renderConditions dialect aliases (settings.wrapping false) = .ok parts ∧
      filter.render dialect aliases (settings.wrapping false) = .ok bare ∧
      filter.render dialect aliases (settings.wrapping true) = .ok wrapped ∧
      parts.length = filter.conditions.length ∧
      filter.frame.gaps.length + 1 = filter.conditions.length ∧
      bare.sql = filter.frame.filled (parts.map fun part => part.sql) ∧
      wrapped.sql = filter.frame.filled (parts.map fun part => "(" ++ part.sql ++ ")") ∧
      wrapped.params = bare.params ∧
      wrapped.sql.length = bare.sql.length + 2 * filter.conditions.length ∧
      wrapped.sql.utf8ByteSize = bare.sql.utf8ByteSize + 2 * filter.conditions.length := by
  rw [render_eq_rendered_frame, render_eq_rendered_frame, renderConditions_wrapping]
  cases call : filter.renderConditions dialect aliases (settings.wrapping false) with
  | error refusal => exact .inl ⟨_, rfl, rfl⟩
  | ok parts =>
    have count : parts.length = filter.conditions.length := by
      rw [length_of_renderInTurn call, List.length_map]
    have texts : (parts.map Rendered.enclosed).map Rendered.sql =
        parts.map fun part => part.enclosed.sql := List.map_map
    have literals : (parts.map Rendered.enclosed).flatMap Rendered.params =
        parts.flatMap Rendered.params := List.flatMap_map ..
    refine .inr ⟨parts, _, _, rfl, rfl, rfl, count, filter.length_gaps, rfl, ?_, literals, ?_, ?_⟩
    · exact congrArg filter.frame.filled texts
    · have longer := Frame.size_filled_enclosed String.length_append filter.frame parts
      have paren : "(".length + ")".length = 2 := by decide
      rw [paren, count] at longer
      rw [Frame.rendered, texts]
      exact longer
    · have longer :=
        Frame.size_filled_enclosed (fun _ _ => String.utf8ByteSize_append) filter.frame parts
      have paren : "(".utf8ByteSize + ")".utf8ByteSize = 2 := by decide
      rw [paren, count] at longer
      rw [Frame.rendered, texts]
      exact longer

end Both

/-- Three conditions, the first of which is a constant: each gets its parentheses, and the frame of two joins
stays. -/
theorem Filter.render_adds_parentheses_constant :
    ∃ filter : Filter, filter.conditions.length = 3 ∧ filter.frame.gaps = [" OR (", " AND "] ∧
      filter.render .postgres [] {} =
        .ok ⟨"(FALSE OR (\"E\".\"b\" = $1 AND \"E\".\"c\" IS NULL))", [.int 1]⟩ ∧
      filter.render .postgres [] { wrapLeaves := true } =
        .ok ⟨"((FALSE) OR ((\"E\".\"b\" = $1) AND (\"E\".\"c\" IS NULL)))", [.int 1]⟩ ∧
      "((FALSE) OR ((\"E\".\"b\" = $1) AND (\"E\".\"c\" IS NULL)))".length =
        "(FALSE OR (\"E\".\"b\" = $1 AND \"E\".\"c\" IS NULL))".length + 2 * 3 := by
  let filter : Filter := .join .or (.leaf ⟨⟨"E", "a", []⟩, .isIn false, .list []⟩)
    (.join .and (.leaf ⟨⟨"E", "b", []⟩, .relation .equals, .literal (.int 1)⟩)
      (.leaf ⟨⟨"E", "c", []⟩, .isNull false, .absent⟩))
  have plain : filter.render .postgres [] (Settings.wrapping {} false) =
      .ok ⟨"(FALSE OR (\"E\".\"b\" = $1 AND \"E\".\"c\" IS NULL))", [.int 1]⟩ := rfl
  have wrapped : filter.render .postgres [] (Settings.wrapping {} true) =
      .ok ⟨"((FALSE) OR ((\"E\".\"b\" = $1) AND (\"E\".\"c\" IS NULL)))", [.int 1]⟩ := rfl
  rcases render_adds_parentheses .postgres [] {} filter with
    ⟨_, refused, _⟩ | ⟨_, _, _, _, found, found', _, _, _, _, _, longer, _⟩
  · rw [plain] at refused
    cases refused
  · rw [plain] at found
    rw [wrapped] at found'
    cases found
    cases found'
    exact ⟨filter, rfl, rfl, plain, wrapped, longer⟩

end RowFilter
