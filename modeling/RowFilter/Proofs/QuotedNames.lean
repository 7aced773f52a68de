import RowFilter.Proofs.Outcome
import RowFilter.Proofs.Spelling

/-! # Names stay in their quotes

Whatever the names are, a scan of a rendered filter finds exactly the names that the filter shows, and the
text around them depends on the outline of the filter alone. -/

set_option autoImplicit false

namespace RowFilter

open Sql

/-! ## No two names side by side -/

namespace Sql.NamesApart

theorem of_nameless {pieces : List Piece} (nameless : ∀ piece ∈ pieces, piece.name? = none) :
    NamesApart pieces := by
  induction pieces with
  | nil => exact List.isChain_nil
  | cons piece rest ih =>
    rw [List.forall_mem_cons] at nameless
    refine List.isChain_cons.mpr ⟨?_, ih nameless.2⟩
    intro next _
    exact .inl nameless.1

theorem cons {piece : Piece} {rest : List Piece} (nameless : piece.name? = none)
    (apart : NamesApart rest) : NamesApart (piece :: rest) := by
  refine List.isChain_cons.mpr ⟨?_, apart⟩
  intro next _
  exact .inl nameless

theorem append {first rest : List Piece} {piece : Piece} (nameless : piece.name? = none)
    (before : NamesApart first) (behind : NamesApart rest) : NamesApart (first ++ piece :: rest) := by
  refine List.isChain_append.mpr ⟨before, behind.cons nameless, ?_⟩
  intro last _ next isNext
  cases isNext
  exact .inr nameless

theorem nameless_append {first rest : List Piece} (nameless : ∀ piece ∈ first, piece.name? = none)
    (apart : NamesApart rest) : NamesApart (first ++ rest) := by
  refine List.isChain_append.mpr ⟨of_nameless nameless, apart, ?_⟩
  intro last isLast next _
  exact .inl (nameless last (List.mem_of_getLast? isLast))

theorem name_cons {text : String} {rest : List Piece}
    (nameless : ∀ piece ∈ rest, piece.name? = none) : NamesApart (.name text :: rest) := by
  refine List.isChain_cons.mpr ⟨?_, of_nameless nameless⟩
  intro next isNext
  exact .inr (nameless next (List.mem_of_head? isNext))

end Sql.NamesApart

theorem Sql.nameless_openings (functions : List ScalarFunction) :
    ∀ piece ∈ functions.map Piece.opening, piece.name? = none := by
  intro piece member
  obtain ⟨function, _, rfl⟩ := List.mem_map.mp member
  rfl

theorem Sql.nameless_closings (functions : List ScalarFunction) :
    ∀ piece ∈ functions.map Piece.closing, piece.name? = none := by
  intro piece member
  obtain ⟨function, _, rfl⟩ := List.mem_map.mp member
  rfl

theorem Sql.Piece.nameless_of_isBetween (piece : Piece) (between : piece.IsBetween) :
    piece.name? = none := by
  cases piece with
  | name text => cases between
  | _ => rfl

theorem Sql.nameless_slotLayout (before count : Nat) :
    ∀ piece ∈ slotLayout before count, piece.name? = none :=
  List.filterMap_eq_nil_iff.mp (filterMap_slotLayout Piece.nameless_of_isBetween before count)

theorem Column.namesApart_layout (column : Column) : NamesApart column.layout := by
  rw [layout_eq]
  apply NamesApart.nameless_append (nameless_openings _)
  have table : NamesApart [.name column.entity] := List.isChain_singleton _
  exact table.append rfl (NamesApart.name_cons (nameless_closings _))

theorem RightSide.namesApart_layout (before : Nat) (right : RightSide) :
    NamesApart (right.layout before) := by
  cases right with
  | absent => exact List.isChain_nil
  | literal value => exact NamesApart.of_nameless (by simp [layout, Piece.name?])
  | column value => exact value.namesApart_layout.cons rfl
  | list values =>
    apply NamesApart.of_nameless
    simp only [layout, List.mem_append, List.mem_cons, List.not_mem_nil, or_false]
    rintro piece ((rfl | rfl | slot) | rfl)
    · rfl
    · rfl
    · exact nameless_slotLayout _ _ piece slot
    · rfl

theorem Condition.namesApart_layout (before : Nat) (condition : Condition) :
    NamesApart (condition.layout before) := by
  have right := condition.right.namesApart_layout before
  exact condition.left.namesApart_layout.append rfl (right.cons rfl)

theorem Normal.namesApart_enclosed (wrapLeaves : Bool) {pieces : List Piece}
    (apart : NamesApart pieces) : NamesApart (enclosed wrapLeaves pieces) := by
  rw [enclosed]
  split
  · exact (apart.cons rfl).append rfl List.isChain_nil
  · exact apart

theorem Normal.namesApart_layout (wrapLeaves : Bool) (before : Nat) (normal : Normal) :
    NamesApart (normal.layout wrapLeaves before) := by
  induction normal generalizing before with
  | constant value => exact namesApart_enclosed wrapLeaves (List.isChain_singleton _)
  | leaf condition => exact namesApart_enclosed wrapLeaves (condition.namesApart_layout before)
  | join connective left right ihLeft ihRight =>
    have joined := ((ihLeft before).cons (rfl : Piece.leftParen.name? = none)).append
      (rfl : (Piece.junction connective).name? = none) (ihRight (before + left.literals.length))
    exact joined.append rfl List.isChain_nil

/-! ## The names of a layout -/

theorem Column.names_layout (column : Column) :
    column.layout.filterMap Piece.name? = [column.entity, column.property] := by
  have openings := List.filterMap_eq_nil_iff.mpr (nameless_openings column.functions.reverse)
  have closings := List.filterMap_eq_nil_iff.mpr (nameless_closings column.functions)
  rw [layout_eq, List.filterMap_append, openings]
  simp only [List.filterMap_cons, Piece.name?, closings, List.nil_append]

theorem Filter.names_layout (aliases : Aliases) (wrapLeaves : Bool) (before : Nat)
    (filter : Filter) :
    ((filter.normal aliases).layout wrapLeaves before).filterMap Piece.name? =
      filter.names aliases := by
  rw [filterMap_layout Piece.nameless_of_isBetween, names]
  simp only [Column.names_layout]
  rfl

/-! ## The text around the names -/

theorem Column.unnamed_layout {column other : Column} (same : other.outline = column.outline) :
    unnamed other.layout = unnamed column.layout := by
  have functions : other.functions = column.functions := (Column.mk.inj same).2.2
  rw [layout_eq, layout_eq, functions]
  simp [unnamed, Piece.name?]

section TwoFilters

variable (aliases aliases' : Aliases)

theorem RightSide.unnamed_layout (before : Nat) {right other : RightSide}
    (same : other.outline = right.outline) :
    unnamed ((other.map (Column.renamed aliases'.tableOf) id).layout before) =
      unnamed ((right.map (Column.renamed aliases.tableOf) id).layout before) := by
  cases right <;> cases other <;> simp only [outline, map, reduceCtorEq] at same
  case absent.absent => rfl
  case literal.literal => rfl
  case column.column value value' =>
    have columns : (value'.renamed aliases'.tableOf).outline = (value.renamed aliases.tableOf).outline :=
      RightSide.column.inj same
    rw [map, map, layout, layout, unnamed_cons .space rfl, unnamed_cons .space rfl,
      Column.unnamed_layout columns]
  case list.list values values' =>
    have lengths : values'.length = values.length := by
      simpa using congrArg List.length (RightSide.list.inj same)
    rw [map, map, layout, layout, List.length_map, List.length_map, lengths]

theorem Condition.unnamed_normal (wrapLeaves : Bool) (before : Nat) {condition other : Condition}
    (same : other.outline = condition.outline) :
    unnamed ((other.normal aliases').layout wrapLeaves before) =
      unnamed ((condition.normal aliases).layout wrapLeaves before) := by
  obtain ⟨left, comparator, right⟩ := Condition.mk.inj same
  have empty : other.right = .list [] ↔ condition.right = .list [] := by
    have sides : other.right.outline = condition.right.outline := right
    rw [← RightSide.outline_eq_emptyList, sides, RightSide.outline_eq_emptyList]
  rw [normal, normal]
  by_cases noItems : condition.right = .list []
  · rw [if_pos noItems, if_pos (empty.mpr noItems), comparator]
  · rw [if_neg noItems, if_neg (mt empty.mp noItems), Normal.layout, Normal.layout]
    have leaves : unnamed ((other.map (Column.renamed aliases'.tableOf) id).layout before) =
        unnamed ((condition.map (Column.renamed aliases.tableOf) id).layout before) := by
      have columns : (other.left.renamed aliases'.tableOf).outline =
          (condition.left.renamed aliases.tableOf).outline := left
      rw [layout, layout, map, map, unnamed_append, unnamed_append, unnamed_cons .space rfl,
        unnamed_cons .space rfl, unnamed_cons (.comparator _) rfl, unnamed_cons (.comparator _) rfl,
        Column.unnamed_layout columns, comparator, RightSide.unnamed_layout aliases aliases' _ right]
    rw [Normal.enclosed, Normal.enclosed]
    split
    · rw [unnamed_append, unnamed_append, unnamed_cons .leftParen rfl, unnamed_cons .leftParen rfl,
        leaves]
    · exact leaves

theorem Filter.unnamed_layout (wrapLeaves : Bool) (before : Nat) {filter other : Filter}
    (same : other.outline = filter.outline) :
    unnamed ((other.normal aliases').layout wrapLeaves before) =
      unnamed ((filter.normal aliases).layout wrapLeaves before) := by
  induction filter generalizing other before with
  | leaf condition =>
    cases other with
    | leaf other => exact Condition.unnamed_normal aliases aliases' wrapLeaves before (Filter.leaf.inj same)
    | join connective left right => cases same
  | join connective left right ihLeft ihRight =>
    cases other with
    | leaf other => cases same
    | join connective' left' right' =>
      obtain ⟨rfl, sameLeft, sameRight⟩ := Filter.join.inj same
      -- Equally many literals on the left, so the right sides count on from one number.
      have lengths := length_literals_of_outline sameLeft
      rw [normal, normal, Normal.layout, Normal.layout, literals_normal, literals_normal, lengths]
      rw [unnamed_append, unnamed_append, unnamed_append, unnamed_append, unnamed_cons .leftParen rfl,
        unnamed_cons .leftParen rfl, unnamed_cons (.junction _) rfl, unnamed_cons (.junction _) rfl,
        ihLeft before sameLeft, ihRight _ sameRight]

end TwoFilters

/-! ## Scanning a rendering -/

theorem Filter.scan_of_render {dialect : Dialect} {aliases : Aliases} {settings : Settings}
    {filter : Filter} {rendered : Rendered}
    (success : filter.render dialect aliases settings = .ok rendered) :
    scan dialect.quote rendered.sql.toList =
      some (((filter.normal aliases).layout settings.wrapLeaves settings.offset).flatMap
        (Piece.lexemes dialect)) := by
  rw [text_of_render aliases settings success]
  exact scan_spell dialect (Normal.namesApart_layout ..)

/-- A scan of a rendering closes every name and finds the names of the filter, table before property.
What it finds besides them is the same for any other names and aliases. -/
theorem Filter.names_stay_quoted {dialect : Dialect} {aliases : Aliases} {settings : Settings}
    {filter : Filter} {rendered : Rendered}
    (success : filter.render dialect aliases settings = .ok rendered) :
    ∃ found, scan dialect.quote rendered.sql.toList = some found ∧
      found.filterMap Lexeme.name? = (filter.names aliases).map String.toList ∧
      ∀ (aliases' : Aliases) (settings' : Settings) (other : Filter) (rendered' : Rendered),
        other.render dialect aliases' settings' = .ok rendered' →
        other.outline = filter.outline →
        settings'.offset = settings.offset →
        settings'.wrapLeaves = settings.wrapLeaves →
        ∃ found', scan dialect.quote rendered'.sql.toList = some found' ∧
          found'.filterMap Lexeme.symbol? = found.filterMap Lexeme.symbol? := by
  refine ⟨_, scan_of_render success, ?_, ?_⟩
  · rw [names_lexemes, names_layout]
  · intro aliases' settings' other rendered' success' outlines offsets wraps
    refine ⟨_, scan_of_render success', ?_⟩
    rw [symbols_lexemes, symbols_lexemes, offsets, wraps, unnamed_layout aliases aliases' _ _ outlines]

/-- Quotes and placeholders inside names: one filter on table `f"`, another of the same outline. -/
theorem Filter.names_stay_quoted_hostile :
    (leaf ⟨⟨"E\"", "", [.upper]⟩, .relation .equals, .column ⟨"F", "$1", []⟩⟩).render .postgres
        [("F", "f\"")] {} = .ok ⟨"UPPER(\"E\"\"\".\"\") = \"f\"\"\".\"$1\"", []⟩ ∧
      ∃ found, scan '\x22' "UPPER(\"E\"\"\".\"\") = \"f\"\"\".\"$1\"".toList = some found ∧
        found.filterMap Lexeme.name? = [['E', '\x22'], [], ['f', '\x22'], ['$', '1']] ∧
        ∃ found', scan '\x22' "UPPER(\"x\".\"y\") = \"\".\"z\"".toList = some found' ∧
          found'.filterMap Lexeme.symbol? = found.filterMap Lexeme.symbol? := by
  have success : (leaf ⟨⟨"E\"", "", [.upper]⟩, .relation .equals, .column ⟨"F", "$1", []⟩⟩).render
      .postgres [("F", "f\"")] {} = .ok ⟨"UPPER(\"E\"\"\".\"\") = \"f\"\"\".\"$1\"", []⟩ := rfl
  have success' : (leaf ⟨⟨"x", "y", [.upper]⟩, .relation .equals, .column ⟨"", "z", []⟩⟩).render
      .postgres [] {} = .ok ⟨"UPPER(\"x\".\"y\") = \"\".\"z\"", []⟩ := rfl
  obtain ⟨found, scanned, names, around⟩ := names_stay_quoted success
  exact ⟨success, found, scanned, names, around [] {} _ _ success' rfl rfl rfl⟩

end RowFilter
