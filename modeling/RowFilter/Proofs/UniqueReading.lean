import RowFilter.Proofs.Codes
import RowFilter.Proofs.Outcome

/-! # Unique reading

Text and literals of a rendering determine the normal form of the filter.  Each part of a statement is
read off the front of a text: columns, comparators and right sides, then whole filters.  Two readings of
one text agree on which form stands in front, because that shows in its first characters; then they agree
part by part.  Placeholders need no reading, since both readings have counted alike up to them. -/

set_option autoImplicit false

namespace RowFilter

open Sql RowFilter.Text

/-! ## Columns -/

theorem Sql.spell_openings_append {dialect : Dialect} {functions others : List ScalarFunction}
    {r s : List Char}
    (same : spell dialect (functions.map .opening) ++ dialect.quote :: r =
      spell dialect (others.map .opening) ++ dialect.quote :: s) : functions = others ∧ r = s := by
  have apart (function : ScalarFunction) (t rest : List Char) :
      dialect.quote :: t ≠ (dialect.opening function).toList ++ rest := by
    intro equal
    obtain ⟨nonempty, plain, _⟩ := isPlain_opening dialect function
    obtain ⟨c, tail, shown⟩ := List.exists_cons_of_ne_nil nonempty
    rw [shown, List.cons_append] at equal
    rw [shown] at plain
    have first := (List.cons.inj equal).1
    exact plain c (List.mem_cons_self ..) (first ▸ dialect.isSpecial_quote)
  induction functions generalizing others with
  | nil =>
    cases others with
    | nil => exact ⟨rfl, (List.cons.inj same).2⟩
    | cons other others =>
      rw [List.map_cons, spell_cons, Piece.spelled_opening, List.append_assoc] at same
      exact absurd same (apart other _ _)
  | cons function functions ih =>
    cases others with
    | nil =>
      rw [List.map_cons, spell_cons, Piece.spelled_opening, List.append_assoc] at same
      exact absurd same.symm (apart function _ _)
    | cons other others =>
      rw [List.map_cons, List.map_cons, spell_cons, spell_cons, Piece.spelled_opening,
        Piece.spelled_opening, List.append_assoc, List.append_assoc] at same
      obtain ⟨rfl, rest⟩ := isCode_opening dialect (fun _ _ => trivial) (fun _ _ => trivial) same
      obtain ⟨rfl, rests⟩ := ih rest
      exact ⟨rfl, rests⟩

theorem Sql.starts_closings {dialect : Dialect} (functions : List ScalarFunction) {rest : List Char}
    (start : Starts (· ≠ dialect.quote) rest) :
    Starts (· ≠ dialect.quote) (spell dialect (functions.map .closing) ++ rest) := by
  cases functions with
  | nil => exact start
  | cons function functions =>
    obtain ⟨nonempty, plain, _⟩ := isPlain_closing dialect function
    rw [List.map_cons, spell_cons, List.append_assoc, Piece.spelled_closing]
    refine starts_append nonempty ?_
    intro c first same
    exact plain c (List.mem_of_head? first) (same ▸ dialect.isSpecial_quote)

theorem Column.spell_layout (dialect : Dialect) (column : Column) :
    spell dialect column.layout = spell dialect (column.functions.reverse.map .opening) ++
      (dialect.quoted column.entity ++ '.' :: (dialect.quoted column.property ++
        spell dialect (column.functions.map .closing))) := by
  rw [layout_eq, spell_append]
  rfl

theorem Column.isCode_layout (dialect : Dialect) :
    IsCode (· ≠ dialect.quote) fun column : Column => spell dialect column.layout := by
  intro column other r s startR startS same
  simp only [spell_layout, List.append_assoc, List.cons_append] at same
  have quoted (name : String) (rest : List Char) : dialect.quoted name ++ rest =
      dialect.quote :: (Quoted.body dialect.quote name.toList ++ [dialect.quote] ++ rest) := rfl
  rw [quoted column.entity, quoted other.entity] at same
  obtain ⟨functions, rest⟩ := spell_openings_append same
  have entities : dialect.quoted column.entity ++ _ = dialect.quoted other.entity ++ _ :=
    congrArg (dialect.quote :: ·) rest
  have dot (t : List Char) : Starts (· ≠ dialect.quote) ('.' :: t) :=
    starts_cons t (by cases dialect <;> decide)
  obtain ⟨entity, rest⟩ := isCode_quoted dialect (dot _) (dot _) entities
  obtain ⟨property, rest⟩ := isCode_quoted dialect (starts_closings _ startR)
    (starts_closings _ startS) (List.cons.inj rest).2
  have reversed : column.functions = other.functions := List.reverse_injective functions
  rw [reversed] at rest
  refine ⟨?_, List.append_cancel_left rest⟩
  cases column
  cases other
  simp only at entity property reversed
  rw [entity, property, reversed]

/-! ## What a column does not start with -/

/-- The start of weekdays in one dialect, without its own parenthesis. -/
def Sql.weekday : List Char := "WEEKDAY(".toList

/-- Words that stand where a column could stand, or behind a parenthesis that is not part of one. -/
def Sql.foreign : List (List Char) :=
  ["TRUE".toList, "FALSE".toList, weekday, ['A'], ['O'], ['$'], ['?']]

theorem Sql.foreign_opening (dialect : Dialect) (function : ScalarFunction) {word : List Char}
    (member : word ∈ foreign) :
    ¬ word <+: (dialect.opening function).toList ∧ ¬ (dialect.opening function).toList <+: word := by
  have all : ∀ function ∈ ScalarFunction.all, ∀ word ∈ foreign,
      ¬ word <+: (dialect.opening function).toList ∧
        ¬ (dialect.opening function).toList <+: word := by
    cases dialect <;> decide
  exact all function (ScalarFunction.mem_all function) word member

theorem Sql.weekday_of_opening (dialect : Dialect) (function : ScalarFunction) {rest tail : List Char}
    (start : (dialect.opening function).toList ++ rest = '(' :: tail) : weekday <+: tail := by
  have all : ∀ function ∈ ScalarFunction.all, (dialect.opening function).toList.head? = some '(' →
      weekday <+: (dialect.opening function).toList.tail := by
    cases dialect <;> decide
  obtain ⟨nonempty, _⟩ := isPlain_opening dialect function
  obtain ⟨c, text, shown⟩ := List.exists_cons_of_ne_nil nonempty
  have found := all function (ScalarFunction.mem_all function)
  rw [shown] at start found
  obtain ⟨rfl, rfl⟩ := List.cons.inj start
  exact (found rfl).trans (List.prefix_append text rest)

theorem Column.spell_layout_append (dialect : Dialect) (column : Column) (rest : List Char) :
    (∃ function more, spell dialect column.layout ++ rest =
      (dialect.opening function).toList ++ more) ∨
    ∃ more, spell dialect column.layout ++ rest = dialect.quote :: more := by
  rw [spell_layout]
  cases column.functions.reverse with
  | nil => exact .inr ⟨_, rfl⟩
  | cons function functions =>
    refine .inl ⟨function, ?_⟩
    rw [List.map_cons, spell_cons, Piece.spelled_opening, List.append_assoc, List.append_assoc]
    exact ⟨_, rfl⟩

theorem Column.not_prefix_layout (dialect : Dialect) (column : Column) (rest : List Char)
    {word : List Char} (member : word ∈ foreign) : ¬ word <+: spell dialect column.layout ++ rest := by
  rcases column.spell_layout_append dialect rest with ⟨function, more, shown⟩ | ⟨more, shown⟩
  · obtain ⟨longer, shorter⟩ := foreign_opening dialect function member
    rw [shown]
    intro start
    rcases List.prefix_or_prefix_of_prefix start (List.prefix_append _ more) with before | before
    · exact longer before
    · exact shorter before
  · have unquoted : ∀ word ∈ foreign, word ≠ [] ∧ word.head? ≠ some dialect.quote := by
      cases dialect <;> decide
    obtain ⟨nonempty, other⟩ := unquoted word member
    obtain ⟨c, tail, rfl⟩ := List.exists_cons_of_ne_nil nonempty
    rw [shown, List.cons_prefix_cons]
    rintro ⟨rfl, _⟩
    exact other rfl

theorem Column.weekday_of_paren {dialect : Dialect} {column : Column} {rest : List Char}
    (start : ['('] <+: spell dialect column.layout ++ rest) :
    '(' :: weekday <+: spell dialect column.layout ++ rest := by
  rcases column.spell_layout_append dialect rest with ⟨function, more, shown⟩ | ⟨more, shown⟩
  · obtain ⟨tail, text⟩ := start
    rw [← text]
    exact (List.prefix_cons_inj '(').mpr
      (weekday_of_opening dialect function (shown.symm.trans text.symm))
  · rw [shown, List.cons_prefix_cons] at start
    have quote : '(' = dialect.quote := start.1
    cases dialect <;> exact absurd quote (by decide)

/-! ## Right sides -/

/-- What can follow a filter: nothing, a closing parenthesis or a connective. -/
inductive Ends : List Char → Prop where
  | nothing : Ends []
  | paren (more : List Char) : Ends (')' :: more)
  | connective (found : Connective) (more : List Char) :
    Ends (' ' :: found.name.toList ++ [' '] ++ more)

theorem Ends.starts {rest : List Char} (ends : Ends rest) : Starts EndsWord rest := by
  cases ends with
  | nothing =>
    intro c found
    cases found
  | paren more => exact starts_cons more (.inr rfl)
  | connective found more => exact starts_cons _ (.inl rfl)

theorem Sql.starts_ne_quote {rest : List Char} (dialect : Dialect) (ends : Starts EndsWord rest) :
    Starts (· ≠ dialect.quote) rest := by
  intro c first
  rcases ends c first with rfl | rfl
  · cases dialect <;> decide
  · cases dialect <;> decide

theorem Sql.placeholder_ne_paren (dialect : Dialect) (number : Nat) (rest more : List Char) :
    dialect.placeholder number ++ rest ≠ ')' :: more := by
  cases dialect <;> simp [Dialect.placeholder]

theorem Sql.spell_slotLayout_append {dialect : Dialect} {before count other : Nat} {r s : List Char}
    (same : spell dialect (slotLayout before count) ++ ')' :: r =
      spell dialect (slotLayout before other) ++ ')' :: s) : count = other ∧ r = s := by
  induction count generalizing before other with
  | zero =>
    cases other with
    | zero => exact ⟨rfl, (List.cons.inj same).2⟩
    | succ other =>
      rw [slotLayout_succ, spell_cons, Piece.spelled_placeholder, List.append_assoc] at same
      exact (placeholder_ne_paren dialect _ _ _ same.symm).elim
  | succ count ih =>
    rw [slotLayout_succ, spell_cons, Piece.spelled_placeholder, List.append_assoc] at same
    cases other with
    | zero => exact (placeholder_ne_paren dialect _ _ _ same).elim
    | succ other =>
      rw [slotLayout_succ, spell_cons, Piece.spelled_placeholder, List.append_assoc] at same
      -- A comma says that another item follows, a parenthesis that none does.
      have rest := List.append_cancel_left same
      by_cases last : count = 0
      · by_cases lastOther : other = 0
        · rw [if_pos last, if_pos lastOther] at rest
          exact ⟨by rw [last, lastOther], (List.cons.inj rest).2⟩
        · rw [if_pos last, if_neg lastOther] at rest
          exact absurd (List.cons.inj rest).1 (by decide)
      · by_cases lastOther : other = 0
        · rw [if_neg last, if_pos lastOther] at rest
          exact absurd (List.cons.inj rest).1 (by decide)
        · rw [if_neg last, if_neg lastOther, spell_cons, spell_cons, List.append_assoc,
            List.append_assoc] at rest
          obtain ⟨counts, rests⟩ := ih (List.append_cancel_left rest)
          exact ⟨congrArg (· + 1) counts, rests⟩

def Sql.shapeOf (text : List Char) : Shape :=
  if [' ', '$'] <+: text ∨ [' ', '?'] <+: text then .literal
  else if [' ', 'A'] <+: text ∨ [' ', 'O'] <+: text ∨ ¬ [' '] <+: text then .absent
  else if [' ', '('] <+: text ∧ ¬ ' ' :: '(' :: weekday <+: text then .list
  else .column

theorem Ends.shapeOf {rest : List Char} (ends : Ends rest) : shapeOf rest = .absent := by
  cases ends with
  | nothing => decide
  | paren more => simp [Sql.shapeOf]
  | connective found more => cases found <;> simp [Sql.shapeOf, Connective.name]

theorem RightSide.shapeOf_layout {dialect : Dialect} {before : Nat} {rest : List Char}
    (ends : Ends rest) (right : RightSide) :
    shapeOf (spell dialect (right.layout before) ++ rest) = right.shape := by
  cases right with
  | absent => exact ends.shapeOf
  | literal value => cases dialect <;> rfl
  | column value =>
    have text : spell dialect ((column value).layout before) ++ rest =
        ' ' :: (spell dialect value.layout ++ rest) := rfl
    have other {word : List Char} (member : word ∈ foreign) :=
      value.not_prefix_layout dialect rest member
    have dollar := other (by decide : ['$'] ∈ foreign)
    have mark := other (by decide : ['?'] ∈ foreign)
    have a := other (by decide : ['A'] ∈ foreign)
    have o := other (by decide : ['O'] ∈ foreign)
    have paren : ¬ (['('] <+: spell dialect value.layout ++ rest ∧
        ¬ '(' :: weekday <+: spell dialect value.layout ++ rest) := by
      rintro ⟨start, noWeekday⟩
      exact noWeekday (Column.weekday_of_paren start)
    simp only [text, Sql.shapeOf, List.prefix_cons_inj, dollar, mark, a, o, paren, List.nil_prefix]
    simp [shape]
  | list values =>
    have text : spell dialect ((list values).layout before) ++ rest =
        ' ' :: '(' :: (spell dialect (slotLayout before values.length) ++ ')' :: rest) := by
      simp [layout, spell_cons, spell_append]
    have slots : ¬ weekday <+: spell dialect (slotLayout before values.length) ++ ')' :: rest := by
      cases values.length with
      | zero => exact fun start => absurd (List.cons_prefix_cons.mp start).1 (by decide)
      | succ count =>
        rw [slotLayout_succ]
        cases dialect <;> exact fun start => absurd (List.cons_prefix_cons.mp start).1 (by decide)
    simp only [text, Sql.shapeOf, List.prefix_cons_inj, slots, List.nil_prefix]
    simp [shape]

theorem RightSide.reading {dialect : Dialect} {before : Nat} {right other : RightSide}
    {r s : List Char} {u v : List Literal} (endsR : Ends r) (endsS : Ends s)
    (same : spell dialect (right.layout before) ++ r = spell dialect (other.layout before) ++ s)
    (literals : right.literals ++ u = other.literals ++ v) : right = other ∧ r = s ∧ u = v := by
  have shapes : right.shape = other.shape := by
    rw [← shapeOf_layout endsR right, same, shapeOf_layout endsS other]
  -- Only the four pairs of one shape are left.
  cases right <;> cases other <;> simp only [shape, reduceCtorEq] at shapes
  case absent.absent => exact ⟨rfl, same, literals⟩
  case literal.literal value value' =>
    obtain ⟨rfl, rests⟩ := List.cons.inj literals
    exact ⟨rfl, List.append_cancel_left same, rests⟩
  case column.column value value' =>
    have columns : spell dialect value.layout ++ r = spell dialect value'.layout ++ s :=
      (List.cons.inj same).2
    obtain ⟨rfl, rests⟩ := Column.isCode_layout dialect (starts_ne_quote dialect endsR.starts)
      (starts_ne_quote dialect endsS.starts) columns
    exact ⟨rfl, rests, literals⟩
  case list.list values values' =>
    have slots : spell dialect (slotLayout before values.length) ++ ')' :: r =
        spell dialect (slotLayout before values'.length) ++ ')' :: s := by
      simpa [layout, spell_cons, spell_append] using same
    obtain ⟨lengths, rests⟩ := spell_slotLayout_append slots
    obtain ⟨rfl, others⟩ := List.append_inj literals lengths
    exact ⟨rfl, rests, others⟩

/-! ## Conditions -/

theorem Condition.spell_layout (dialect : Dialect) (before : Nat) (condition : Condition) :
    spell dialect (condition.layout before) = spell dialect condition.left.layout ++
      ' ' :: (condition.comparator.spelling.toList ++
        spell dialect (condition.right.layout before)) := by
  rw [layout, spell_append]
  rfl

theorem RightSide.starts_layout {dialect : Dialect} {before : Nat} {rest : List Char}
    (ends : Ends rest) (right : RightSide) :
    Starts EndsWord (spell dialect (right.layout before) ++ rest) := by
  cases right with
  | absent => exact ends.starts
  | literal value | column value | list values => exact starts_cons _ (.inl rfl)

theorem Condition.reading {dialect : Dialect} {before : Nat} {condition other : Condition}
    {r s : List Char} {u v : List Literal} (endsR : Ends r) (endsS : Ends s)
    (same : spell dialect (condition.layout before) ++ r = spell dialect (other.layout before) ++ s)
    (literals : condition.right.literals ++ u = other.right.literals ++ v) :
    condition = other ∧ r = s ∧ u = v := by
  simp only [spell_layout, List.append_assoc, List.cons_append] at same
  have blank (t : List Char) : Starts (· ≠ dialect.quote) (' ' :: t) :=
    starts_ne_quote dialect (starts_cons t (.inl rfl))
  obtain ⟨left, rest⟩ := Column.isCode_layout dialect (blank _) (blank _) same
  obtain ⟨comparator, rest⟩ := isCode_comparator (condition.right.starts_layout endsR)
    (other.right.starts_layout endsS) (List.cons.inj rest).2
  obtain ⟨right, rests⟩ := RightSide.reading endsR endsS rest literals
  refine ⟨?_, rests⟩
  cases condition
  cases other
  simp only at left comparator right
  rw [left, comparator, right]

/-! ## Whole filters -/

namespace Normal

inductive Form where
  | constant
  | leaf
  | join

def form : Normal → Form
  | constant _ => .constant
  | leaf _ => .leaf
  | join _ _ _ => .join

/-- The kind of a filter, by the first characters of its text.  Where conditions are wrapped, that is the
text after the first parenthesis. -/
def formOf (text : List Char) : Form :=
  if "TRUE".toList <+: text ∨ "FALSE".toList <+: text then .constant
  else if ['('] <+: text ∧ ¬ '(' :: weekday <+: text then .join
  else .leaf

theorem formOf_column (dialect : Dialect) (column : Column) (rest : List Char) :
    formOf (spell dialect column.layout ++ rest) = .leaf := by
  have noTrue := column.not_prefix_layout dialect rest (by decide : "TRUE".toList ∈ foreign)
  have noFalse := column.not_prefix_layout dialect rest (by decide : "FALSE".toList ∈ foreign)
  have noParen : ¬ (['('] <+: spell dialect column.layout ++ rest ∧
      ¬ '(' :: weekday <+: spell dialect column.layout ++ rest) := by
    rintro ⟨start, noWeekday⟩
    exact noWeekday (Column.weekday_of_paren start)
  rw [formOf, if_neg (not_or.mpr ⟨noTrue, noFalse⟩), if_neg noParen]

theorem formOf_paren {text : List Char} (noWeekday : ¬ weekday <+: text) :
    formOf ('(' :: text) = .join := by
  have start : ['('] <+: '(' :: text := ⟨text, rfl⟩
  have other : ¬ '(' :: weekday <+: '(' :: text := mt (List.prefix_cons_inj '(').mp noWeekday
  have noConstant : ¬ ("TRUE".toList <+: '(' :: text ∨ "FALSE".toList <+: '(' :: text) := by
    rintro (start | start)
    · exact absurd (List.cons_prefix_cons.mp start).1 (by decide)
    · exact absurd (List.cons_prefix_cons.mp start).1 (by decide)
  rw [formOf, if_neg noConstant, if_pos ⟨start, other⟩]

variable {dialect : Dialect} {wrapLeaves : Bool}

theorem spell_enclosed (pieces : List Piece) (rest : List Char) :
    spell dialect (enclosed wrapLeaves pieces) ++ rest =
      if wrapLeaves then '(' :: (spell dialect pieces ++ ')' :: rest) else spell dialect pieces ++ rest := by
  cases wrapLeaves with
  | false => rfl
  | true => simp [enclosed, spell_cons, spell_append]

theorem spell_join (before : Nat) (connective : Connective) (left right : Normal) (rest : List Char) :
    spell dialect ((join connective left right).layout wrapLeaves before) ++ rest =
      '(' :: (spell dialect (left.layout wrapLeaves before) ++
        (' ' :: connective.name.toList ++ [' '] ++
          (spell dialect (right.layout wrapLeaves (before + left.literals.length)) ++ ')' :: rest))) := by
  simp [layout, spell_cons, spell_append]

theorem not_weekday_constant (value : Bool) (rest : List Char) :
    ¬ weekday <+: spell dialect [.constant value] ++ rest := by
  intro start
  cases value <;> exact absurd (List.cons_prefix_cons.mp start).1 (by decide)

theorem not_weekday_condition (before : Nat) (condition : Condition) (rest : List Char) :
    ¬ weekday <+: spell dialect (condition.layout before) ++ rest := by
  rw [condition.spell_layout, List.append_assoc]
  exact condition.left.not_prefix_layout dialect _ (by decide)

theorem not_weekday_layout (before : Nat) (normal : Normal) (rest : List Char) :
    ¬ weekday <+: spell dialect (normal.layout wrapLeaves before) ++ rest := by
  have paren (text : List Char) : ¬ weekday <+: '(' :: text := by
    intro start
    exact absurd (List.cons_prefix_cons.mp start).1 (by decide)
  cases normal with
  | constant value =>
    rw [layout, spell_enclosed]
    split
    · exact paren _
    · exact not_weekday_constant value rest
  | leaf condition =>
    rw [layout, spell_enclosed]
    split
    · exact paren _
    · exact not_weekday_condition before condition rest
  | join connective left right =>
    rw [spell_join]
    exact paren _

theorem formOf_wrapped (before : Nat) (normal : Normal) (rest : List Char) :
    formOf (spell dialect (normal.layout true before) ++ rest) = .join := by
  cases normal with
  | constant value =>
    rw [layout, spell_enclosed, if_pos rfl]
    exact formOf_paren (not_weekday_constant value _)
  | leaf condition =>
    rw [layout, spell_enclosed, if_pos rfl]
    exact formOf_paren (not_weekday_condition before condition _)
  | join connective left right =>
    rw [spell_join]
    exact formOf_paren (not_weekday_layout before left _)

theorem formOf_constant (value : Bool) (rest : List Char) :
    formOf (spell dialect [.constant value] ++ rest) = .constant := by
  have start : "TRUE".toList <+: spell dialect [.constant value] ++ rest ∨
      "FALSE".toList <+: spell dialect [.constant value] ++ rest := by
    cases value with
    | false => exact .inr ⟨rest, rfl⟩
    | true => exact .inl ⟨rest, rfl⟩
  rw [formOf, if_pos start]

theorem formOf_condition (before : Nat) (condition : Condition) (rest : List Char) :
    formOf (spell dialect (condition.layout before) ++ rest) = .leaf := by
  rw [condition.spell_layout, List.append_assoc]
  exact formOf_column dialect condition.left _

theorem formOf_layout (before : Nat) (normal : Normal) (rest : List Char) :
    formOf ((spell dialect (normal.layout wrapLeaves before) ++ rest).drop
      (if wrapLeaves then 1 else 0)) = normal.form := by
  cases normal with
  | constant value =>
    rw [layout, spell_enclosed]
    cases wrapLeaves <;> exact formOf_constant value _
  | leaf condition =>
    rw [layout, spell_enclosed]
    cases wrapLeaves <;> exact formOf_condition before condition _
  | join connective left right =>
    rw [spell_join]
    cases wrapLeaves with
    | false => exact formOf_paren (not_weekday_layout before left _)
    | true => exact formOf_wrapped before left _

/-- Parentheses around conditions do not hide what stands behind them. -/
theorem enclosed_append {pieces others : List Piece} {r s : List Char} (endsR : Ends r)
    (endsS : Ends s)
    (same : spell dialect (enclosed wrapLeaves pieces) ++ r =
      spell dialect (enclosed wrapLeaves others) ++ s) :
    ∃ r' s', Ends r' ∧ Ends s' ∧ spell dialect pieces ++ r' = spell dialect others ++ s' ∧
      (r' = s' → r = s) := by
  rw [spell_enclosed, spell_enclosed] at same
  cases wrapLeaves with
  | false => exact ⟨r, s, endsR, endsS, same, id⟩
  | true =>
    refine ⟨')' :: r, ')' :: s, .paren r, .paren s, (List.cons.inj same).2, ?_⟩
    intro rests
    exact (List.cons.inj rests).2

theorem form_eq {before : Nat} {normal other : Normal} {r s : List Char}
    (same : spell dialect (normal.layout wrapLeaves before) ++ r =
      spell dialect (other.layout wrapLeaves before) ++ s) : normal.form = other.form := by
  rw [← formOf_layout before normal r, same, formOf_layout]

/-- The text of a filter, whatever may follow it, and its literals, whatever follows them, determine the
filter and both rests. -/
theorem reading {before : Nat} {normal other : Normal} {r s : List Char} {u v : List Literal}
    (endsR : Ends r) (endsS : Ends s)
    (same : spell dialect (normal.layout wrapLeaves before) ++ r =
      spell dialect (other.layout wrapLeaves before) ++ s)
    (literals : normal.literals ++ u = other.literals ++ v) : normal = other ∧ r = s ∧ u = v := by
  -- What follows is general, because the left side of a join is followed by its right side.
  induction normal generalizing before other r s u v with
  | constant value =>
    have forms := form_eq same
    cases other with
    | constant value' =>
      obtain ⟨r', s', _, _, texts, rests⟩ := enclosed_append endsR endsS same
      have shown (value : Bool) : spell dialect [.constant value] =
          if value then "TRUE".toList else "FALSE".toList := List.append_nil _
      rw [shown, shown] at texts
      obtain ⟨rfl, behind⟩ := isCode_constant (fun _ _ => trivial) (fun _ _ => trivial) texts
      exact ⟨rfl, rests behind, literals⟩
    | leaf condition => cases forms
    | join connective left right => cases forms
  | leaf condition =>
    have forms := form_eq same
    cases other with
    | constant value => cases forms
    | leaf condition' =>
      obtain ⟨r', s', endsR', endsS', texts, rests⟩ := enclosed_append endsR endsS same
      obtain ⟨rfl, behind, others⟩ := Condition.reading endsR' endsS' texts literals
      exact ⟨rfl, rests behind, others⟩
    | join connective left right => cases forms
  | join connective left right ihLeft ihRight =>
    have forms := form_eq same
    cases other with
    | constant value => cases forms
    | leaf condition => cases forms
    | join connective' left' right' =>
      rw [spell_join, spell_join] at same
      rw [Normal.literals, Normal.literals, List.append_assoc, List.append_assoc] at literals
      obtain ⟨rfl, rest, others⟩ := ihLeft (.connective connective _) (.connective connective' _)
        (List.cons.inj same).2 literals
      obtain ⟨rfl, behind⟩ := isCode_connective (fun _ _ => trivial) (fun _ _ => trivial) rest
      obtain ⟨rfl, closed, others⟩ := ihRight (.paren r) (.paren s) behind others
      exact ⟨rfl, (List.cons.inj closed).2, others⟩

theorem eq_of_spell_layout {before : Nat} {normal other : Normal}
    (same : spell dialect (normal.layout wrapLeaves before) =
      spell dialect (other.layout wrapLeaves before))
    (literals : normal.literals = other.literals) : normal = other := by
  have texts := congrArg (· ++ []) same
  have values := congrArg (· ++ []) literals
  exact (reading .nothing .nothing texts values).1

end Normal

/-- Two filters are rendered alike, text and literals, exactly when their normal forms are the same. -/
theorem Filter.render_eq_iff_normal_eq {dialect : Dialect} {aliases : Aliases} {settings : Settings}
    {filter other : Filter} {rendered rendered' : Rendered}
    (success : filter.render dialect aliases settings = .ok rendered)
    (success' : other.render dialect aliases settings = .ok rendered') :
    rendered = rendered' ↔ filter.normal aliases = other.normal aliases := by
  constructor
  · rintro rfl
    have texts := (text_of_render aliases settings success).symm.trans
      (text_of_render aliases settings success')
    have literals := (params_of_render aliases settings success).symm.trans
      (params_of_render aliases settings success')
    rw [← literals_normal aliases filter, ← literals_normal aliases other] at literals
    exact Normal.eq_of_spell_layout texts literals
  · intro same
    rw [eq_of_render aliases settings success, eq_of_render aliases settings success',
      ← literals_normal aliases filter, ← literals_normal aliases other, same]

/-- Two filters with one rendering: an alias hides which entity was meant, and a list without items hides
its column. -/
theorem Filter.render_eq_iff_normal_eq_alias :
    ∃ filter other : Filter, filter ≠ other ∧
      filter.render .mysql [("person", "p")] { wrapLeaves := true } =
        .ok ⟨"(((WEEKDAY(`p`.`a) OR (`) + 1) < ?) OR (TRUE))", [.int 5]⟩ ∧
      other.render .mysql [("person", "p")] { wrapLeaves := true } =
        .ok ⟨"(((WEEKDAY(`p`.`a) OR (`) + 1) < ?) OR (TRUE))", [.int 5]⟩ ∧
      filter.normal [("person", "p")] = other.normal [("person", "p")] := by
  have success :
      (join .or (leaf ⟨⟨"person", "a) OR (", [.isoDayOfWeek]⟩, .relation .lessThan, .literal (.int 5)⟩)
        (leaf ⟨⟨"person", "id", []⟩, .isIn true, .list []⟩)).render .mysql [("person", "p")]
          { wrapLeaves := true } =
        .ok ⟨"(((WEEKDAY(`p`.`a) OR (`) + 1) < ?) OR (TRUE))", [.int 5]⟩ := rfl
  have success' :
      (join .or (leaf ⟨⟨"p", "a) OR (", [.isoDayOfWeek]⟩, .relation .lessThan, .literal (.int 5)⟩)
        (leaf ⟨⟨"q", "", [.upper]⟩, .isIn true, .list []⟩)).render .mysql [("person", "p")]
          { wrapLeaves := true } =
        .ok ⟨"(((WEEKDAY(`p`.`a) OR (`) + 1) < ?) OR (TRUE))", [.int 5]⟩ := rfl
  exact ⟨_, _, by decide, success, success', (render_eq_iff_normal_eq success success').mp rfl⟩

end RowFilter
