import RowFilter.Proofs.InTurn

/-! # Combinations

A combination is a chain of joins that nests to the left, so its first part lies deepest: in the text all
opening parentheses come first, and each further part closes one of them.  `Filter.ChainsLeft` collects what a
maker of such chains has to do; the two makers do it. -/

set_option autoImplicit false

namespace RowFilter

open Sql

/-! ## Texts of chains -/

/-- Rendered parts, each but the first behind the word and closed by a parenthesis that was opened in front. -/
def Sql.Rendered.chained (word : String) : List Rendered → Rendered
  | [] => ⟨"", []⟩
  | first :: rest =>
    ⟨String.ofList (List.replicate rest.length '(') ++ first.sql ++
        String.join (rest.map fun next => word ++ next.sql ++ ")"),
      first.params ++ rest.flatMap Rendered.params⟩

theorem Sql.Rendered.chained_singleton (word : String) (rendered : Rendered) :
    chained word [rendered] = rendered := by
  simp [chained]

theorem Sql.Rendered.chained_joined (word : String) (first second : Rendered) (rest : List Rendered) :
    chained word (first.joined word second :: rest) = chained word (first :: second :: rest) := by
  have opened : String.ofList (List.replicate (rest.length + 1) '(') =
      String.ofList (List.replicate rest.length '(') ++ "(" := by
    apply String.toList_inj.mp
    rw [List.replicate_succ', String.toList_append, String.toList_ofList, String.toList_ofList]
    rfl
  simp only [chained, joined, List.length_cons, opened, List.map_cons, String.join_cons, List.flatMap_cons,
    String.append_assoc, List.append_assoc]

namespace Filter

/-! ## Trees of chains -/

section Chains

variable {connective : Connective}

theorem combine_append {parts : List Filter} {made : Filter}
    (built : combine connective parts = .ok made) (rest : List Filter) :
    combine connective (parts ++ rest) = combine connective (made :: rest) := by
  cases parts with
  | nil => cases built
  | cons first others =>
    cases built
    rw [List.cons_append, combine, List.foldl_append, combine]

theorem combine_eq_error {parts : List Filter} {refusal : FilterError} :
    combine connective parts = .error refusal ↔ parts = [] ∧ refusal = .missingPart connective := by
  cases parts with
  | nil => simp [combine, eq_comm]
  | cons first rest => simp [combine]

theorem preorder_foldl_join (first : Filter) (rest : List Filter) :
    (rest.foldl (join connective) first).preorder =
      List.replicate rest.length (.join connective) ++ first.preorder ++ rest.flatMap preorder := by
  -- The first part sinks deeper with each join, so it varies in the induction.
  induction rest generalizing first with
  | nil => simp
  | cons next rest ih =>
    rw [List.foldl_cons, ih, List.length_cons, List.replicate_succ', preorder_join]
    simp

/-! ## Renderings of chains -/

theorem render_foldl_join (dialect : Dialect) (aliases : Aliases) (settings : Settings) (first : Filter)
    (rest : List Filter) :
    (rest.foldl (join connective) first).render dialect aliases settings =
      ((renderInTurn dialect aliases settings (first :: rest)).mapError
        (FilterError.atOffset settings.offset)).map (Rendered.chained connective.word) := by
  induction rest generalizing first with
  | nil =>
    rw [renderInTurn, List.foldl_nil]
    cases call : first.render dialect aliases settings with
    | error refusal => exact congrArg Except.error (atOffset_of_render call).symm
    | ok alone => exact congrArg Except.ok (Rendered.chained_singleton connective.word alone).symm
  | cons next rest ih =>
    rw [List.foldl_cons, ih, renderInTurn, render_join, renderInTurn]
    cases first.render dialect aliases settings with
    | error refusal => simp [Bind.bind, Except.bind, FilterError.mapError_error, Except.map]
    | ok head =>
      simp only [Bind.bind, Except.bind, renderInTurn]
      cases next.render dialect aliases (settings.after head.params.length) with
      | error refusal => simp [FilterError.mapError_error, Except.map]
      | ok second =>
        have bound : (head.joined connective.word second).params.length =
            head.params.length + second.params.length := List.length_append ..
        simp only [FilterError.mapError_ok, Settings.after_after, bound]
        cases renderInTurn dialect aliases
            (settings.after (head.params.length + second.params.length)) rest with
        | error refusal => rfl
        | ok others =>
          exact congrArg Except.ok (Rendered.chained_joined connective.word head second others)

end Chains

/-! ## Makers of chains -/

structure ChainsLeft (connective : Connective) (combined : List Filter → Except FilterError Filter) :
    Prop where
  /-- There is a chain of every list that is not empty, and of no other. -/
  built : ∀ parts, parts ≠ [] → ∃ made, combined parts = .ok made
  refused : ∀ parts refusal,
    combined parts = .error refusal ↔ parts = [] ∧ refusal = .missingPart connective
  single : ∀ part, combined [part] = .ok part
  nested : ∀ parts made last, combined parts = .ok made →
    combined (parts ++ [last]) = .ok (join connective made last)
  /-- Parts in front can be combined beforehand. -/
  regrouped : ∀ parts made rest, combined parts = .ok made →
    combined (parts ++ rest) = combined (made :: rest)
  preorder : ∀ parts made, combined parts = .ok made →
    made.preorder =
      List.replicate (parts.length - 1) (.join connective) ++ parts.flatMap Filter.preorder
  /-- The parts stand in the text as they are rendered in turn. -/
  rendered : ∀ dialect aliases settings parts made texts, combined parts = .ok made →
    renderInTurn dialect aliases settings parts = .ok texts →
    made.render dialect aliases settings = .ok (Rendered.chained connective.word texts)
  /-- The first part that is refused is what the chain is refused for. -/
  unrendered : ∀ dialect aliases settings parts made refusal, combined parts = .ok made →
    renderInTurn dialect aliases settings parts = .error refusal →
    made.render dialect aliases settings = .error (refusal.atOffset settings.offset)

theorem chainsLeft_combine (connective : Connective) : ChainsLeft connective (combine connective) where
  built parts some := by
    cases parts with
    | nil => exact absurd rfl some
    | cons first rest => exact ⟨_, rfl⟩
  refused _ _ := combine_eq_error
  single _ := rfl
  nested _ _ last built := combine_append built [last]
  regrouped _ _ rest built := combine_append built rest
  preorder parts made built := by
    cases parts with
    | nil => cases built
    | cons first rest =>
      cases built
      rw [preorder_foldl_join, List.length_cons, Nat.add_sub_cancel, List.flatMap_cons, List.append_assoc]
  rendered dialect aliases settings parts made texts built success := by
    cases parts with
    | nil => cases built
    | cons first rest =>
      cases built
      rw [render_foldl_join, success]
      rfl
  unrendered dialect aliases settings parts made refusal built refused := by
    cases parts with
    | nil => cases built
    | cons first rest =>
      cases built
      rw [render_foldl_join, refused]
      rfl

/-- Conjunctions and disjunctions of any number of parts are chains that nest to the left. -/
theorem chainsLeft_allOf_anyOf : ChainsLeft .and allOf ∧ ChainsLeft .or anyOf :=
  ⟨chainsLeft_combine .and, chainsLeft_combine .or⟩

/-- Three parts behind four literals, the second of them a join that binds two more. -/
theorem chainsLeft_allOf_anyOf_three :
    ∃ parts : List Filter, ∃ made, anyOf parts = .ok made ∧
      made.preorder = List.replicate 2 (.join .or) ++ parts.flatMap Filter.preorder ∧
      renderInTurn .postgres [] { offset := 4 } parts =
        .ok [⟨"\"E\".\"a\" = $5", [.int 1]⟩,
          ⟨"(\"E\".\"b\" < $6 AND \"E\".\"c\" > $7)", [.int 2, .int 3]⟩,
          ⟨"\"E\".\"d\" IN ($8)", [.int 4]⟩] ∧
      made.render .postgres [] { offset := 4 } =
        .ok ⟨"((\"E\".\"a\" = $5 OR (\"E\".\"b\" < $6 AND \"E\".\"c\" > $7)) OR \"E\".\"d\" IN ($8))",
          [.int 1, .int 2, .int 3, .int 4]⟩ := by
  let parts : List Filter :=
    [.leaf ⟨⟨"E", "a", []⟩, .relation .equals, .literal (.int 1)⟩,
      .join .and (.leaf ⟨⟨"E", "b", []⟩, .relation .lessThan, .literal (.int 2)⟩)
        (.leaf ⟨⟨"E", "c", []⟩, .relation .greaterThan, .literal (.int 3)⟩),
      .leaf ⟨⟨"E", "d", []⟩, .isIn false, .list [.int 4]⟩]
  have inTurn : renderInTurn .postgres [] { offset := 4 } parts =
      .ok [⟨"\"E\".\"a\" = $5", [.int 1]⟩,
        ⟨"(\"E\".\"b\" < $6 AND \"E\".\"c\" > $7)", [.int 2, .int 3]⟩,
        ⟨"\"E\".\"d\" IN ($8)", [.int 4]⟩] := rfl
  obtain ⟨_, disjunction⟩ := chainsLeft_allOf_anyOf
  obtain ⟨made, built⟩ := disjunction.built parts (by simp [parts])
  have text := disjunction.rendered .postgres [] { offset := 4 } parts made _ built inTurn
  exact ⟨parts, made, built, disjunction.preorder parts made built, inTurn, text.trans rfl⟩

end Filter

end RowFilter
