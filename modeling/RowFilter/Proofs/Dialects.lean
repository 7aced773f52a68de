import RowFilter.Proofs.Placeholders

/-! # One rendering in two dialects

The dialects agree on what is refused and on the literals, and as long as no function is applied they agree on
the text up to quotes and placeholders.  `rewritten` is the translation of a text that was scanned: it puts
names into other quotes and something else in the place of a numbered placeholder.  On the lexemes of pieces
it works piece by piece (`rewritten_lexemes`), because the digits of a number end with its piece. -/

set_option autoImplicit false

namespace RowFilter

open Sql RowFilter.Text

/-! ## Rewriting a scanned text -/

namespace Sql

section Rewriting

variable (quote : Char) (replace : List Char → List Char)

/-- The text with names between the given quotes.  For each `$` outside names and the digits right after it
there stands what `replace` makes of the digits. -/
def rewritten : List Lexeme → List Char
  | [] => []
  | lexeme :: rest =>
    if lexeme = .symbol '$' then
      replace ((rest.takeWhile Lexeme.isDigit).filterMap Lexeme.symbol?) ++
        rewritten (rest.dropWhile Lexeme.isDigit)
    else lexeme.spelled quote ++ rewritten rest
termination_by found => found.length
decreasing_by
  · have shorter := (List.dropWhile_sublist (l := rest) Lexeme.isDigit).length_le
    simp only [List.length_cons]
    omega
  · simp

def Piece.rewritten (piece : Piece) : List Char :=
  match piece.name?, piece.number? with
  | some text, _ => Quoted.written quote text.toList
  | none, some number => replace (Decimal.numeral number)
  | none, none => piece.spelled .postgres

variable {quote replace}

theorem rewritten_symbols (text : List Char) (rest : List Lexeme) (plain : '$' ∉ text) :
    rewritten quote replace (text.map .symbol ++ rest) = text ++ rewritten quote replace rest := by
  induction text with
  | nil => rfl
  | cons c text ih =>
    rw [List.mem_cons, not_or] at plain
    have other : Lexeme.symbol c ≠ .symbol '$' := by
      intro same
      cases same
      exact plain.1 rfl
    rw [List.map_cons, List.cons_append, rewritten, if_neg other, ih plain.2]
    rfl

theorem rewritten_number (number : Nat) (rest : List Lexeme)
    (ends : ∀ lexeme ∈ rest.head?, lexeme.isDigit = false) :
    rewritten quote replace (.symbol '$' :: ((Decimal.numeral number).map .symbol ++ rest)) =
      replace (Decimal.numeral number) ++ rewritten quote replace rest := by
  have digits := takeWhile_numeral number rest ends
  have behind : ((Decimal.numeral number).map Lexeme.symbol ++ rest).dropWhile Lexeme.isDigit = rest := by
    have parted := List.takeWhile_append_dropWhile (p := Lexeme.isDigit)
      (l := (Decimal.numeral number).map Lexeme.symbol ++ rest)
    rw [digits] at parted
    exact List.append_cancel_left parted
  have symbols : ((Decimal.numeral number).map Lexeme.symbol).filterMap Lexeme.symbol? =
      Decimal.numeral number := by
    simp [List.filterMap_map, Function.comp_def, Lexeme.symbol?]
  rw [rewritten, if_pos rfl, digits, behind, symbols]

theorem rewritten_lexemes (pieces : List Piece) :
    rewritten quote replace (pieces.flatMap (Piece.lexemes .postgres)) =
      pieces.flatMap (Piece.rewritten quote replace) := by
  induction pieces with
  | nil =>
    rw [List.flatMap_nil, rewritten]
    rfl
  | cons piece rest ih =>
    rw [List.flatMap_cons, List.flatMap_cons, ← ih]
    cases named : piece.name? with
    | some text =>
      have other : Lexeme.name text.toList ≠ .symbol '$' := by simp
      rw [Piece.lexemes, named, List.singleton_append, rewritten, if_neg other, Piece.rewritten, named]
      rfl
    | none =>
      cases numbered : piece.number? with
      | some number =>
        cases piece with
        | placeholder number =>
          have shown : (Piece.placeholder number).lexemes .postgres =
              .symbol '$' :: (Decimal.numeral number).map .symbol := rfl
          rw [shown, List.cons_append, rewritten_number _ _ (head?_lexemes _ rest)]
          rfl
        | _ => cases numbered
      | none =>
        have plain : '$' ∉ piece.spelled .postgres := by
          intro member
          exact (piece.isPlain_spelled .postgres named numbered).2.1 _ member (by decide)
        rw [piece.lexemes_nameless .postgres named, rewritten_symbols _ _ plain, Piece.rewritten, named,
          numbered]

end Rewriting

/-! ## Functions of a layout -/

def Piece.function? : Piece → Option ScalarFunction
  | opening function => some function
  | closing function => some function
  | _ => none

/-- Rewriting for the other dialect: its quotes, and a question mark for each placeholder. -/
theorem Piece.rewritten_eq_spelled {piece : Piece} (bare : piece.function? = none) :
    piece.rewritten Dialect.mysql.quote (fun _ => ['?']) = piece.spelled .mysql := by
  cases piece with
  | opening function => cases bare
  | closing function => cases bare
  | _ => rfl

end Sql

def Column.namedFunctions (column : Column) : List ScalarFunction :=
  column.functions.reverse ++ column.functions

theorem Column.functions_layout (column : Column) :
    column.layout.filterMap Piece.function? = column.namedFunctions := by
  have openings : (column.functions.reverse.map Piece.opening).filterMap Piece.function? =
      column.functions.reverse := by
    simp [List.filterMap_map, Function.comp_def, Piece.function?]
  have closings : (column.functions.map Piece.closing).filterMap Piece.function? =
      column.functions := by
    simp [List.filterMap_map, Function.comp_def, Piece.function?]
  rw [layout_eq, List.filterMap_append, openings]
  simp only [List.filterMap_cons, Piece.function?, closings, namedFunctions]

theorem Filter.functions_layout (aliases : Aliases) (wrapLeaves : Bool) (before : Nat)
    (filter : Filter) :
    ((filter.normal aliases).layout wrapLeaves before).filterMap Piece.function? =
      filter.columns.flatMap Column.namedFunctions := by
  have between (piece : Piece) (apart : piece.IsBetween) : piece.function? = none := by
    cases piece with
    | opening function => cases apart
    | closing function => cases apart
    | _ => rfl
  rw [filterMap_layout between]
  simp only [Column.functions_layout]
  rfl

/-! ## Both renderings -/

/-- A text with numbered placeholders as the other dialect writes it: its names decoded and quoted anew, and a
question mark for each placeholder.  There is none if a name is not closed. -/
def Sql.positional? (text : String) : Option String :=
  (scan Dialect.postgres.quote text.toList).map fun found =>
    String.ofList (rewritten Dialect.mysql.quote (fun _ => ['?']) found)

/-- Both dialects refuse a filter alike, or bind the same literals.  Where no column that is shown has a
function, the text of the one turns into that of the other by new quotes and by a question mark for each
numbered placeholder. -/
theorem Filter.render_in_lockstep (aliases : Aliases) (settings : Settings) (filter : Filter) :
    (∃ refusal, filter.render .postgres aliases settings = .error refusal ∧
      filter.render .mysql aliases settings = .error refusal) ∨
    ∃ numbered positional params,
      filter.render .postgres aliases settings = .ok ⟨numbered, params⟩ ∧
        filter.render .mysql aliases settings = .ok ⟨positional, params⟩ ∧
        ((∀ column ∈ filter.columns, column.functions = []) → positional? numbered = some positional) := by
  cases refused : Event.firstRefusal? aliases settings 0 filter.events with
  | some refusal =>
    refine .inl ⟨refusal, ?_, ?_⟩
    · rw [render_eq, refused]
      rfl
    · rw [render_eq, refused]
      rfl
  | none =>
    let pieces := (filter.normal aliases).layout settings.wrapLeaves settings.offset
    have success (dialect : Dialect) : filter.render dialect aliases settings =
        .ok ⟨String.ofList (spell dialect pieces), filter.literals⟩ := by
      rw [render_eq, refused]
      rfl
    refine .inr ⟨_, _, _, success .postgres, success .mysql, ?_⟩
    intro unapplied
    have bare : pieces.filterMap Piece.function? = [] := by
      rw [functions_layout, List.flatMap_eq_nil_iff]
      intro column member
      rw [Column.namedFunctions, unapplied column member]
      rfl
    have respelled : pieces.flatMap (Piece.rewritten Dialect.mysql.quote fun _ => ['?']) =
        spell .mysql pieces := by
      apply List.flatMap_congr
      intro piece member
      exact Piece.rewritten_eq_spelled (List.filterMap_eq_nil_iff.mp bare piece member)
    rw [positional?, scan_of_render (success .postgres), Option.map_some, rewritten_lexemes, respelled]

/-- Quotes of either kind and look-alikes of placeholders inside names. -/
theorem Filter.render_in_lockstep_hostile :
    ∃ filter : Filter, (∀ column ∈ filter.columns, column.functions = []) ∧
      filter.render .postgres [("A", "a`")] { offset := 9 } =
        .ok ⟨"(\"a`\".\"$1\" = $10 OR \"b\"\"\".\"?\" NOT IN ($11, $12))", filter.literals⟩ ∧
      filter.render .mysql [("A", "a`")] { offset := 9 } =
        .ok ⟨"(`a```.`$1` = ? OR `b\"`.`?` NOT IN (?, ?))", filter.literals⟩ ∧
      positional? "(\"a`\".\"$1\" = $10 OR \"b\"\"\".\"?\" NOT IN ($11, $12))" =
        some "(`a```.`$1` = ? OR `b\"`.`?` NOT IN (?, ?))" := by
  let filter : Filter := .join .or
    (.leaf ⟨⟨"A", "$1", []⟩, .relation .equals, .literal (.text "?")⟩)
    (.leaf ⟨⟨"b\"", "?", []⟩, .isIn true, .list [.int 1, .int 2]⟩)
  have numbered : filter.render .postgres [("A", "a`")] { offset := 9 } =
      .ok ⟨"(\"a`\".\"$1\" = $10 OR \"b\"\"\".\"?\" NOT IN ($11, $12))", filter.literals⟩ := rfl
  have positional : filter.render .mysql [("A", "a`")] { offset := 9 } =
      .ok ⟨"(`a```.`$1` = ? OR `b\"`.`?` NOT IN (?, ?))", filter.literals⟩ := rfl
  have bare : ∀ column ∈ filter.columns, column.functions = [] := by decide
  rcases render_in_lockstep [("A", "a`")] { offset := 9 } filter with
    ⟨_, refused, _⟩ | ⟨_, _, _, first, second, translated⟩
  · rw [numbered] at refused
    cases refused
  · rw [numbered] at first
    rw [positional] at second
    cases first
    cases second
    exact ⟨filter, bare, numbered, positional, translated bare⟩

end RowFilter
