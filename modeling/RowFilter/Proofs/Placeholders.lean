import RowFilter.Proofs.QuotedNames

/-! # Placeholders and literals

The literals of a rendering are those of the filter, and outside names there is one placeholder for each of
them.  Where placeholders are numbered, the numbers count on from the offset. -/

set_option autoImplicit false

namespace RowFilter

open Sql RowFilter.Text

/-! ## Reading placeholders -/

namespace Sql

def Lexeme.isDigit : Lexeme → Bool
  | name _ => false
  | symbol c => c.isDigit

/-- For each `$` outside names, the digits right after it. -/
def dollars : List Lexeme → List (List Char)
  | [] => []
  | lexeme :: rest =>
    if lexeme = .symbol '$' then (rest.takeWhile Lexeme.isDigit).filterMap Lexeme.symbol? :: dollars rest
    else dollars rest

theorem dollars_append_of_notMem (first rest : List Lexeme) (plain : .symbol '$' ∉ first) :
    dollars (first ++ rest) = dollars rest := by
  induction first with
  | nil => rfl
  | cons lexeme first ih =>
    rw [List.mem_cons, not_or] at plain
    rw [List.cons_append, dollars, if_neg (Ne.symm plain.1), ih plain.2]

theorem takeWhile_numeral (number : Nat) (rest : List Lexeme)
    (ends : ∀ lexeme ∈ rest.head?, lexeme.isDigit = false) :
    ((Decimal.numeral number).map Lexeme.symbol ++ rest).takeWhile Lexeme.isDigit =
      (Decimal.numeral number).map Lexeme.symbol := by
  have inside : ∀ lexeme ∈ (Decimal.numeral number).map Lexeme.symbol, lexeme.isDigit = true := by
    intro lexeme member
    obtain ⟨c, digit, rfl⟩ := List.mem_map.mp member
    exact Decimal.isDigit_of_mem_numeral digit
  rw [List.takeWhile_append_of_pos inside]
  cases rest with
  | nil => simp
  | cons lexeme rest => simp [ends lexeme rfl]

theorem Piece.head?_lexemes (dialect : Dialect) (piece : Piece) :
    ∃ lexeme, (piece.lexemes dialect).head? = some lexeme ∧ lexeme.isDigit = false := by
  cases named : piece.name? with
  | some text =>
    rw [lexemes, named]
    exact ⟨_, rfl, rfl⟩
  | none =>
    rw [piece.lexemes_nameless dialect named, List.head?_map]
    cases numbered : piece.number? with
    | some number =>
      cases piece with
      | placeholder number => cases dialect <;> exact ⟨_, rfl, by decide⟩
      | _ => cases numbered
    | none =>
      obtain ⟨nonempty, _, first⟩ := piece.isPlain_spelled dialect named numbered
      obtain ⟨c, rest, spelled⟩ := List.exists_cons_of_ne_nil nonempty
      rw [spelled] at first ⊢
      exact ⟨.symbol c, rfl, first c rfl⟩

theorem head?_lexemes (dialect : Dialect) (pieces : List Piece) :
    ∀ lexeme ∈ (pieces.flatMap (Piece.lexemes dialect)).head?, lexeme.isDigit = false := by
  cases pieces with
  | nil => simp
  | cons piece rest =>
    obtain ⟨lexeme, first, other⟩ := piece.head?_lexemes dialect
    rw [List.flatMap_cons, List.head?_append, first]
    intro found same
    cases same
    exact other

/-- No piece but a placeholder has a `$` or a question mark outside names. -/
theorem Piece.symbol_notMem_lexemes (dialect : Dialect) {piece : Piece}
    (unnumbered : piece.number? = none) {c : Char} (special : IsSpecial c) :
    .symbol c ∉ piece.lexemes dialect := by
  intro member
  cases named : piece.name? with
  | some text => simp [lexemes, named] at member
  | none =>
    rw [piece.lexemes_nameless dialect named] at member
    obtain ⟨found, spelled, same⟩ := List.mem_map.mp member
    cases same
    exact (piece.isPlain_spelled dialect named unnumbered).2.1 _ spelled special

theorem dollars_lexemes (pieces : List Piece) :
    dollars (pieces.flatMap (Piece.lexemes .postgres)) =
      (pieces.filterMap Piece.number?).map Decimal.numeral := by
  induction pieces with
  | nil => rfl
  | cons piece rest ih =>
    rw [List.flatMap_cons]
    cases numbered : piece.number? with
    | none =>
      have dollar := piece.symbol_notMem_lexemes .postgres numbered (by decide : IsSpecial '$')
      rw [dollars_append_of_notMem _ _ dollar, ih, List.filterMap_cons_none numbered]
    | some number =>
      cases piece with
      | placeholder number =>
        have shown : (Piece.placeholder number).lexemes .postgres =
            .symbol '$' :: (Decimal.numeral number).map .symbol := rfl
        have digits : .symbol '$' ∉ (Decimal.numeral number).map Lexeme.symbol := by
          intro member
          obtain ⟨c, digit, same⟩ := List.mem_map.mp member
          cases same
          exact absurd (Decimal.isDigit_of_mem_numeral digit) (by decide)
        rw [shown, List.cons_append, dollars, if_pos rfl, takeWhile_numeral _ _ (head?_lexemes _ rest),
          dollars_append_of_notMem _ _ digits, ih]
        simp [List.filterMap_map, Function.comp_def, Lexeme.symbol?, Piece.number?]
      | _ => cases numbered

theorem count_questionMarks (pieces : List Piece) :
    (pieces.flatMap (Piece.lexemes .mysql)).count (.symbol '?') =
      (pieces.filterMap Piece.number?).length := by
  induction pieces with
  | nil => rfl
  | cons piece rest ih =>
    rw [List.flatMap_cons, List.count_append, ih]
    cases numbered : piece.number? with
    | none =>
      have mark := piece.symbol_notMem_lexemes .mysql numbered (by decide : IsSpecial '?')
      rw [List.count_eq_zero.mpr mark, List.filterMap_cons_none numbered, Nat.zero_add]
    | some number =>
      cases piece with
      | placeholder number =>
        have one : ((Piece.placeholder number).lexemes .mysql).count (.symbol '?') = 1 := rfl
        rw [one, List.filterMap_cons_some numbered, List.length_cons, Nat.add_comm]
      | _ => cases numbered

end Sql

/-! ## The numbers of a layout -/

theorem Column.numbers_layout (column : Column) : column.layout.filterMap Piece.number? = [] := by
  have openings : (column.functions.reverse.map Piece.opening).filterMap Piece.number? = [] := by
    simp [List.filterMap_map, Function.comp_def, Piece.number?]
  have closings : (column.functions.map Piece.closing).filterMap Piece.number? = [] := by
    simp [List.filterMap_map, Function.comp_def, Piece.number?]
  rw [layout_eq, List.filterMap_append, openings]
  simp only [List.filterMap_cons, Piece.number?, closings, List.nil_append]

theorem Sql.numbers_slotLayout (before count : Nat) :
    (slotLayout before count).filterMap Piece.number? = List.range' (before + 1) count := by
  fun_induction slotLayout before count with
  | case1 => rfl
  | case2 => rfl
  | case3 before count ih =>
    simp only [List.filterMap_cons, Piece.number?, ih]
    rfl

theorem RightSide.numbers_layout (before : Nat) (right : RightSide) :
    (right.layout before).filterMap Piece.number? =
      List.range' (before + 1) right.literals.length := by
  cases right with
  | absent => rfl
  | literal value => rfl
  | column value =>
    simp only [layout, List.filterMap_cons, Piece.number?, Column.numbers_layout]
    rfl
  | list values =>
    simp only [layout, List.filterMap_append, List.filterMap_cons, Piece.number?, numbers_slotLayout,
      List.filterMap_nil, List.append_nil]
    rfl

/-- A layout has one placeholder for each literal, and their numbers count on from `before`. -/
theorem Normal.numbers_layout (wrapLeaves : Bool) (before : Nat) (normal : Normal) :
    (normal.layout wrapLeaves before).filterMap Piece.number? =
      List.range' (before + 1) normal.literals.length := by
  induction normal generalizing before with
  | constant value =>
    rw [layout, filterMap_enclosed _ _ rfl rfl]
    rfl
  | leaf condition =>
    rw [layout, filterMap_enclosed _ _ rfl rfl, Condition.layout, List.filterMap_append,
      Column.numbers_layout]
    simp only [List.filterMap_cons, Piece.number?, RightSide.numbers_layout, List.nil_append]
    rfl
  | join connective left right ihLeft ihRight =>
    simp only [layout, List.filterMap_append, List.filterMap_cons, Piece.number?, List.filterMap_nil,
      List.append_nil, ihLeft, ihRight, literals, List.length_append]
    rw [Nat.add_right_comm, List.range'_append_1]

/-- The literals of a rendering are the literals of the filter in order.  Outside names it has the
placeholders `$(n + 1)`, `$(n + 2)` and so on after the offset `n`, or as many question marks. -/
theorem Filter.placeholders_match_params {dialect : Dialect} {aliases : Aliases} {settings : Settings}
    {filter : Filter} {rendered : Rendered}
    (success : filter.render dialect aliases settings = .ok rendered) :
    rendered.params = filter.literals ∧
      ∃ found, scan dialect.quote rendered.sql.toList = some found ∧
        (dialect = .postgres → dollars found =
          (List.range' (settings.offset + 1) rendered.params.length).map Decimal.numeral) ∧
        (dialect = .mysql → found.count (.symbol '?') = rendered.params.length) := by
  have params := params_of_render aliases settings success
  refine ⟨params, _, scan_of_render success, ?_, ?_⟩
  · rintro rfl
    rw [dollars_lexemes, Normal.numbers_layout, literals_normal, params]
  · rintro rfl
    rw [count_questionMarks, Normal.numbers_layout, literals_normal, params, List.length_range']

/-- A list of two after nine placeholders, and a name that looks like one. -/
theorem Filter.placeholders_match_params_ten :
    (leaf ⟨⟨"$1", "?", []⟩, .isIn true, .list [.int 5, .text "$2"]⟩).render .postgres []
        { offset := 9 } = .ok ⟨"\"$1\".\"?\" NOT IN ($10, $11)", [.int 5, .text "$2"]⟩ ∧
      ∃ found, scan '\x22' "\"$1\".\"?\" NOT IN ($10, $11)".toList = some found ∧
        dollars found = [['1', '0'], ['1', '1']] := by
  have success : (leaf ⟨⟨"$1", "?", []⟩, .isIn true, .list [.int 5, .text "$2"]⟩).render .postgres []
      { offset := 9 } = .ok ⟨"\"$1\".\"?\" NOT IN ($10, $11)", [.int 5, .text "$2"]⟩ := rfl
  obtain ⟨_, found, scanned, numbered, _⟩ := placeholders_match_params success
  exact ⟨success, found, scanned, numbered rfl⟩

end RowFilter
