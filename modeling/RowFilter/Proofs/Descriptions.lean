import RowFilter.Proofs.Alike
import RowFilter.Proofs.LiteralTexts

/-! # Descriptions

The text for people leaves out the functions and shows of a literal only how it is written.  Nothing else is lost
where names are identifiers and texts have no single quote: a description is read from the left, part by part, and
two readings of one text come to the same tree, the same names and comparators, and literals that are written alike
(`Filter.alike_of_written_append`).  The kind of a right side shows in its first sign or word. -/

set_option autoImplicit false

namespace RowFilter

open Sql RowFilter.Text

/-! ## Identifiers -/

namespace Text

/-- An ASCII letter or an underscore, and then letters, digits and underscores. -/
def isIdentifier : List Char → Bool
  | [] => false
  | c :: rest => (c.isAlpha || c = '_') && rest.all fun d => d.isAlphanum || d = '_'

theorem isDigit_of_isAlpha {c : Char} (letter : c.isAlpha = true) : c.isDigit = false := by
  rw [← Bool.not_eq_true]
  intro digit
  have last : c.val ≤ '9'.val := of_decide_eq_true (Bool.and_eq_true_iff.mp digit).2
  rcases Bool.or_eq_true_iff.mp letter with upper | lower
  · have first : 'A'.val ≤ c.val := (of_decide_eq_true upper).1
    exact absurd (UInt32.le_trans first last) (by decide)
  · have first : 'a'.val ≤ c.val := of_decide_eq_true (Bool.and_eq_true_iff.mp lower).1
    exact absurd (UInt32.le_trans first last) (by decide)

variable {name : List Char}

theorem isIdentifier_cons {c : Char} {rest : List Char} :
    isIdentifier (c :: rest) = true ↔
      (c.isAlpha = true ∨ c = '_') ∧ ∀ d ∈ rest, d.isAlphanum = true ∨ d = '_' := by
  simp [isIdentifier]

theorem part_of_isIdentifier (identifier : isIdentifier name = true) :
    ∀ c ∈ name, c.isAlphanum = true ∨ c = '_' := by
  cases name with
  | nil => cases identifier
  | cons c rest =>
    obtain ⟨first, others⟩ := isIdentifier_cons.mp identifier
    refine List.forall_mem_cons.mpr ⟨?_, others⟩
    exact first.imp_left fun letter => by rw [Char.isAlphanum, letter, Bool.true_or]

theorem isWord_of_isIdentifier (identifier : isIdentifier name = true) : IsWord name := by
  intro c member
  rcases part_of_isIdentifier identifier c member with plain | rfl
  · simp [isWordPart, plain]
  · rfl

theorem dot_notMem_of_isIdentifier (identifier : isIdentifier name = true) : '.' ∉ name := by
  intro dot
  rcases part_of_isIdentifier identifier '.' dot with plain | other
  · exact absurd plain (by decide)
  · exact absurd other (by decide)

theorem startsNumber_of_isIdentifier (identifier : isIdentifier name = true) (rest : List Char) :
    startsNumber (name ++ rest) = false := by
  cases name with
  | nil => cases identifier
  | cons c tail =>
    rcases (isIdentifier_cons.mp identifier).1 with letter | rfl
    · have hyphen : c ≠ '-' := by
        rintro rfl
        exact absurd letter (by decide)
      simp [startsNumber, isDigit_of_isAlpha letter, hyphen]
    · rfl

end Text

/-! ## Columns -/

namespace Column

def bare (column : Column) : Column := { column with functions := [] }

def Readable (column : Column) : Prop :=
  isIdentifier column.entity.toList = true ∧ isIdentifier column.property.toList = true

instance (column : Column) : Decidable column.Readable := inferInstanceAs (Decidable (_ ∧ _))

variable {column other : Column}

theorem dot_mem_written : '.' ∈ column.written := List.mem_append_right _ (List.mem_cons_self ..)

theorem written_ne_nil : column.written ≠ [] := List.ne_nil_of_mem dot_mem_written

theorem Readable.isWord (readable : column.Readable) : IsWord column.written :=
  (isWord_of_isIdentifier readable.1).append ((isWord_of_isIdentifier readable.2).cons rfl)

theorem Readable.startsNumber (readable : column.Readable) : startsNumber column.written = false :=
  startsNumber_of_isIdentifier readable.1 _

/-- The names are the parts in front of the dot and behind it. -/
theorem bare_eq_of_written_eq (readable : column.Readable) (readable' : other.Readable)
    (same : column.written = other.written) : column.bare = other.bare := by
  obtain ⟨entities, properties⟩ := append_inj_of_notMem (dot_notMem_of_isIdentifier readable.1)
    (dot_notMem_of_isIdentifier readable'.1) same
  rw [bare, bare, String.toList_inj.mp entities, String.toList_inj.mp properties]

theorem bare_eq_of_written_append {r s : List Char} (readable : column.Readable) (readable' : other.Readable)
    (endsR : EndsWords r) (endsS : EndsWords s) (same : column.written ++ r = other.written ++ s) :
    column.bare = other.bare ∧ r = s := by
  obtain ⟨words, rests⟩ := append_inj_of_starts readable.isWord readable'.isWord endsR endsS same
  exact ⟨bare_eq_of_written_eq readable readable' words, rests⟩

end Column

/-! ## Comparators -/

theorem Comparator.isWord_name (kind : Comparator) : IsWord kind.name.toList := by
  have all : ∀ kind ∈ Comparator.all, IsWord kind.name.toList := by decide
  exact all kind kind.mem_all

theorem Comparator.name_injective {kind other : Comparator} (same : kind.name = other.name) :
    kind = other := by
  have found := ofName?_name kind
  rw [same, ofName?_name other] at found
  exact (Option.some.inj found).symm

/-! ## Kinds of right sides -/

/-- The kind of a right side, by the first sign or word of its text. -/
def Text.describedShape (text : List Char) : Shape :=
  let word := text.takeWhile isWordPart
  if text.head? = some '[' then .list
  else if word = "null".toList then .absent
  else if '.' ∈ word ∧ startsNumber word = false then .column
  else .literal

theorem Text.describedShape_append {word rest : List Char} (isWord : IsWord word) (nonempty : word ≠ [])
    (ends : EndsWords rest) :
    describedShape (word ++ rest) =
      if word = "null".toList then .absent
      else if '.' ∈ word ∧ startsNumber word = false then .column
      else .literal := by
  have first : (word ++ rest).takeWhile isWordPart = word := takeWhile_append_of_starts isWord ends
  have noBracket : (word ++ rest).head? ≠ some '[' := by
    intro bracket
    obtain ⟨tail, same⟩ := List.head?_eq_some_iff.mp bracket
    exact isWord.append_ne_cons nonempty rfl same
  simp only [describedShape, first, if_neg noBracket]

namespace RightSide

def bare (right : RightSide) : RightSide := right.map Column.bare id

def Readable (right : RightSide) : Prop :=
  (∀ column ∈ right.columns, column.Readable) ∧ ∀ literal ∈ right.literals, literal.Readable

instance (right : RightSide) : Decidable right.Readable := inferInstanceAs (Decidable (_ ∧ _))

variable {right other : RightSide} {rest r s : List Char}

theorem Readable.literal {value : Literal} (readable : (literal value).Readable) : value.Readable :=
  readable.2 value (List.mem_singleton_self value)

theorem Readable.column {value : Column} (readable : (column value).Readable) : value.Readable :=
  readable.1 value (List.mem_singleton_self value)

theorem describedShape_written (readable : right.Readable) (ends : EndsWords rest) :
    describedShape (right.written ++ rest) = right.shape := by
  cases right with
  | absent => exact describedShape_append (by decide) (by decide) ends
  | literal value =>
    rw [written]
    rcases Literal.written_form readable.literal with atom | ⟨inside, _, shown⟩
    · rw [describedShape_append atom.isWord atom.ne_nil ends, if_neg atom.ne_null, if_neg atom.not_dotted]
      rfl
    · rw [shown]
      rfl
  | column value =>
    have dotted : '.' ∈ value.written ∧ startsNumber value.written = false :=
      ⟨value.dot_mem_written, readable.column.startsNumber⟩
    have named : value.written ≠ "null".toList := by
      intro null
      rw [null] at dotted
      exact absurd dotted.1 (by decide)
    rw [written, describedShape_append readable.column.isWord value.written_ne_nil ends, if_neg named,
      if_pos dotted]
    rfl
  | list values => rfl

/-! ## Lists -/

def laterItems : List Literal → List Char
  | [] => []
  | value :: rest => ',' :: ' ' :: value.written ++ laterItems rest

theorem writtenItems_cons (value : Literal) (rest : List Literal) :
    writtenItems (value :: rest) = value.written ++ laterItems rest := by
  induction rest generalizing value with
  | nil => simp [writtenItems, laterItems]
  | cons next rest ih => simp [writtenItems, laterItems, ih]

theorem endsWords_laterItems (values : List Literal) (rest : List Char) :
    EndsWords (laterItems values ++ ']' :: rest) := by
  cases values with
  | nil => exact starts_cons _ rfl
  | cons value values => exact starts_cons _ rfl

end RightSide

def Literal.SameText (x y : Literal) : Prop := x.describe = y.describe

theorem Literal.sameText_iff {x y : Literal} : x.SameText y ↔ x.written = y.written := String.ofList_inj

namespace RightSide

section Items

variable {values others : List Literal} {r s : List Char}

theorem sameTexts_of_laterItems (readable : ∀ value ∈ values, value.Readable)
    (readable' : ∀ value ∈ others, value.Readable)
    (same : laterItems values ++ ']' :: r = laterItems others ++ ']' :: s) :
    List.Forall₂ Literal.SameText values others ∧ r = s := by
  induction values generalizing others with
  | nil =>
    cases others with
    | nil => exact ⟨.nil, (List.cons.inj same).2⟩
    | cons other others => exact absurd (List.cons.inj same).1 (by decide)
  | cons value values ih =>
    cases others with
    | nil => exact absurd (List.cons.inj same).1 (by decide)
    | cons other others =>
      rw [List.forall_mem_cons] at readable readable'
      have items : value.written ++ (laterItems values ++ ']' :: r) =
          other.written ++ (laterItems others ++ ']' :: s) := by
        simpa [laterItems] using same
      obtain ⟨texts, behind⟩ := Literal.written_append_inj readable.1 readable'.1 (endsWords_laterItems _ r)
        (endsWords_laterItems _ s) items
      obtain ⟨pairs, rests⟩ := ih readable.2 readable'.2 behind
      exact ⟨.cons (Literal.sameText_iff.mpr texts) pairs, rests⟩

theorem sameTexts_of_writtenItems (readable : ∀ value ∈ values, value.Readable)
    (readable' : ∀ value ∈ others, value.Readable)
    (same : writtenItems values ++ ']' :: r = writtenItems others ++ ']' :: s) :
    List.Forall₂ Literal.SameText values others ∧ r = s := by
  -- An item does not start with the bracket that closes the list.
  have closed {value : Literal} (rest : List Literal) (t u : List Char) (readable : value.Readable) :
      writtenItems (value :: rest) ++ ']' :: t ≠ ']' :: u := by
    rw [writtenItems_cons, List.append_assoc]
    exact Literal.written_append_ne_cons readable rfl (by decide)
  cases values with
  | nil =>
    cases others with
    | nil => exact ⟨.nil, (List.cons.inj same).2⟩
    | cons other others => exact absurd same.symm (closed _ _ _ (readable' other (List.mem_cons_self ..)))
  | cons value values =>
    cases others with
    | nil => exact absurd same (closed _ _ _ (readable value (List.mem_cons_self ..)))
    | cons other others =>
      have later : laterItems (value :: values) ++ ']' :: r = laterItems (other :: others) ++ ']' :: s := by
        simpa [laterItems, writtenItems_cons] using same
      exact sameTexts_of_laterItems readable readable' later

end Items

variable {right other : RightSide} {r s : List Char}

theorem alike_of_written_append (readable : right.Readable) (readable' : other.Readable) (endsR : EndsWords r)
    (endsS : EndsWords s) (same : right.written ++ r = other.written ++ s) :
    right.bare.Alike Literal.SameText other.bare ∧ r = s := by
  have shapes : right.shape = other.shape := by
    rw [← describedShape_written readable endsR, same, describedShape_written readable' endsS]
  -- Only the four pairs of one shape are left.
  cases right <;> cases other <;> simp only [shape, reduceCtorEq] at shapes
  case absent.absent => exact ⟨.absent, List.append_cancel_left same⟩
  case literal.literal value value' =>
    obtain ⟨texts, rests⟩ :=
      Literal.written_append_inj readable.literal readable'.literal endsR endsS same
    exact ⟨.literal (Literal.sameText_iff.mpr texts), rests⟩
  case column.column value value' =>
    obtain ⟨columns, rests⟩ :=
      Column.bare_eq_of_written_append readable.column readable'.column endsR endsS same
    rw [bare, bare, map, map, columns]
    exact ⟨.column _, rests⟩
  case list.list values values' =>
    have items : writtenItems values ++ ']' :: r = writtenItems values' ++ ']' :: s := by
      simpa [written] using same
    obtain ⟨pairs, rests⟩ := sameTexts_of_writtenItems readable.2 readable'.2 items
    rw [bare, bare, map, map, List.map_id, List.map_id]
    exact ⟨.list pairs, rests⟩

end RightSide

/-! ## Conditions -/

namespace Condition

def bare (condition : Condition) : Condition := condition.map Column.bare id

def Readable (condition : Condition) : Prop := condition.left.Readable ∧ condition.right.Readable

instance (condition : Condition) : Decidable condition.Readable := inferInstanceAs (Decidable (_ ∧ _))

variable {condition other : Condition} {r s : List Char}

theorem written_append (condition : Condition) (rest : List Char) :
    condition.written ++ rest = condition.left.written ++
      ' ' :: (condition.comparator.name.toList ++ ' ' :: (condition.right.written ++ rest)) := by
  simp [written]

theorem alike_of_written_append (readable : condition.Readable) (readable' : other.Readable)
    (endsR : EndsWords r) (endsS : EndsWords s) (same : condition.written ++ r = other.written ++ s) :
    condition.bare.Alike Literal.SameText other.bare ∧ r = s := by
  rw [written_append, written_append] at same
  have blank (rest : List Char) : EndsWords (' ' :: rest) := starts_cons rest rfl
  obtain ⟨left, rest⟩ := Column.bare_eq_of_written_append readable.1 readable'.1 (blank _) (blank _) same
  obtain ⟨names, rest⟩ := append_inj_of_starts condition.comparator.isWord_name
    other.comparator.isWord_name (blank _) (blank _) (List.cons.inj rest).2
  obtain ⟨right, rests⟩ := RightSide.alike_of_written_append readable.2 readable'.2 endsR endsS
    (List.cons.inj rest).2
  exact ⟨⟨left, Comparator.name_injective (String.toList_inj.mp names), right⟩, rests⟩

theorem written_append_ne_paren (readable : condition.Readable) : condition.written ++ r ≠ '(' :: s := by
  rw [written_append]
  exact readable.1.isWord.append_ne_cons condition.left.written_ne_nil rfl

end Condition

/-! ## Whole filters -/

namespace Filter

def bare (filter : Filter) : Filter := filter.map Column.bare id

/-- All names are identifiers, and no text has a single quote. -/
def Readable (filter : Filter) : Prop := ∀ condition ∈ filter.conditions, condition.Readable

instance (filter : Filter) : Decidable filter.Readable :=
  inferInstanceAs (Decidable (∀ condition ∈ filter.conditions, condition.Readable))

theorem readable_leaf {condition : Condition} : (leaf condition).Readable ↔ condition.Readable := by
  simp [Readable, conditions]

theorem readable_join {connective : Connective} {left right : Filter} :
    (join connective left right).Readable ↔ left.Readable ∧ right.Readable :=
  List.forall_mem_append

theorem written_join_append (connective : Connective) (left right : Filter) (rest : List Char) :
    (join connective left right).written ++ rest =
      '(' :: (left.written ++ (' ' :: connective.name.toList ++ [' '] ++ (right.written ++ ')' :: rest))) := by
  simp [written]

/-- What a description tells about a filter, whatever follows it. -/
theorem alike_of_written_append {filter other : Filter} {r s : List Char} (readable : filter.Readable)
    (readable' : other.Readable) (endsR : EndsWords r) (endsS : EndsWords s)
    (same : filter.written ++ r = other.written ++ s) :
    filter.bare.Alike Literal.SameText other.bare ∧ r = s := by
  have blank (connective : Connective) (rest : List Char) :
      EndsWords (' ' :: connective.name.toList ++ [' '] ++ rest) := starts_cons _ rfl
  have paren (rest : List Char) : EndsWords (')' :: rest) := starts_cons rest rfl
  -- What follows is general, because the left side of a join is followed by its right side.
  induction filter generalizing other r s with
  | leaf condition =>
    rw [readable_leaf] at readable
    cases other with
    | leaf condition' =>
      obtain ⟨alike, rests⟩ :=
        Condition.alike_of_written_append readable (readable_leaf.mp readable') endsR endsS same
      exact ⟨.leaf alike, rests⟩
    | join connective left right =>
      rw [written_join_append] at same
      exact absurd same (Condition.written_append_ne_paren readable)
  | join connective left right ihLeft ihRight =>
    rw [readable_join] at readable
    rw [written_join_append] at same
    cases other with
    | leaf condition =>
      exact absurd same.symm (Condition.written_append_ne_paren (readable_leaf.mp readable'))
    | join connective' left' right' =>
      rw [readable_join] at readable'
      rw [written_join_append] at same
      obtain ⟨first, rest⟩ := ihLeft readable.1 readable'.1 (blank connective _) (blank connective' _)
        (List.cons.inj same).2
      obtain ⟨rfl, behind⟩ := isCode_connective (fun _ _ => trivial) (fun _ _ => trivial) rest
      obtain ⟨second, closed⟩ := ihRight readable.2 readable'.2 (paren r) (paren s) behind
      exact ⟨.join connective first second, (List.cons.inj closed).2⟩

end Filter

/-! ## What a description shows -/

theorem RightSide.laterItems_eq {values others : List Literal}
    (pairs : List.Forall₂ Literal.SameText values others) : laterItems values = laterItems others := by
  induction pairs with
  | nil => rfl
  | cons pair rest ih => rw [laterItems, laterItems, Literal.sameText_iff.mp pair, ih]

theorem RightSide.writtenItems_eq {values others : List Literal}
    (pairs : List.Forall₂ Literal.SameText values others) : writtenItems values = writtenItems others := by
  cases pairs with
  | nil => rfl
  | cons pair rest =>
    rw [writtenItems_cons, writtenItems_cons, Literal.sameText_iff.mp pair, laterItems_eq rest]

theorem RightSide.Alike.written_eq {right other : RightSide} (alike : right.Alike Literal.SameText other) :
    right.written = other.written := by
  cases alike with
  | absent => rfl
  | literal pair => exact Literal.sameText_iff.mp pair
  | column value => rfl
  | list pairs => rw [written, written, writtenItems_eq pairs]

theorem Condition.Alike.written_eq {condition other : Condition}
    (alike : condition.Alike Literal.SameText other) : condition.written = other.written := by
  rw [written, written, alike.left, alike.comparator, alike.right.written_eq]

theorem Filter.Alike.written_eq {filter other : Filter} (alike : filter.Alike Literal.SameText other) :
    filter.written = other.written := by
  induction alike with
  | leaf alike => exact alike.written_eq
  | join connective first second ihFirst ihSecond => rw [written, written, ihFirst, ihSecond]

theorem RightSide.written_bare (right : RightSide) : right.bare.written = right.written := by
  cases right with
  | list values => rw [bare, map, List.map_id]
  | _ => rfl

theorem Condition.written_bare (condition : Condition) : condition.bare.written = condition.written := by
  have right : condition.bare.right.written = condition.right.written := condition.right.written_bare
  rw [written, right]
  rfl

namespace Filter

theorem written_bare (filter : Filter) : filter.bare.written = filter.written := by
  induction filter with
  | leaf condition => exact condition.written_bare
  | join connective left right ihLeft ihRight =>
    have sides : (join connective left right).bare = join connective left.bare right.bare := rfl
    rw [sides, written, written, ihLeft, ihRight]

variable {filter other : Filter}

theorem describe_eq_iff : filter.describe = other.describe ↔ filter.written = other.written := String.ofList_inj

theorem alike_of_describe_eq (readable : filter.Readable) (readable' : other.Readable)
    (same : filter.describe = other.describe) : filter.bare.Alike Literal.SameText other.bare := by
  have nothing : EndsWords [] := by
    intro c first
    cases first
  have texts : filter.written ++ [] = other.written ++ [] := congrArg (· ++ []) (describe_eq_iff.mp same)
  exact (alike_of_written_append readable readable' nothing nothing texts).1

theorem describe_eq_of_alike (alike : filter.bare.Alike Literal.SameText other.bare) :
    filter.describe = other.describe := by
  rw [describe_eq_iff, ← filter.written_bare, ← other.written_bare]
  exact alike.written_eq

/-- Filters are described alike exactly when, apart from functions, they have the same tree and, condition by
condition, the same columns, the same comparator and right sides of one kind with the same texts, lists item by
item.  Functions have no say in a description, whatever the names are. -/
theorem describe_eq_iff_alike :
    (∀ a b : Filter, a.Readable → b.Readable →
      (a.describe = b.describe ↔ a.bare.Alike (fun x y => x.describe = y.describe) b.bare)) ∧
    ∀ a b : Filter, a.bare = b.bare → a.describe = b.describe := by
  refine ⟨fun a b readable readable' => ?_, fun a b same => ?_⟩
  · exact ⟨alike_of_describe_eq readable readable', describe_eq_of_alike⟩
  · rw [describe_eq_iff, ← a.written_bare, same, b.written_bare]

/-- A number and a day described like another number and a text; a comma in a text that is no comma of the list;
and functions that nobody sees, between names that are no identifiers. -/
theorem describe_eq_iff_alike_one_text :
    ∃ a b c d e : Filter, a.Readable ∧ b.Readable ∧ c.Readable ∧ a.bare ≠ b.bare ∧
      a.describe = "(E.a NOT_IN [1, 'x, y'] AND E._b LESS_THAN '2000-02-29')" ∧
      a.describe = b.describe ∧ a.describe ≠ c.describe ∧
      ¬ d.Readable ∧ d ≠ e ∧ d.describe = e.describe := by
  let one : Literal := .float ⟨0x3ff0000000000000⟩
  let day : Literal := .date ⟨2000, 2, 29, by decide⟩
  let filter (functions : List ScalarFunction) (values : List Literal) (last : Literal) : Filter :=
    join .and (leaf ⟨⟨"E", "a", functions⟩, .isIn true, .list values⟩)
      (leaf ⟨⟨"E", "_b", []⟩, .relation .lessThan, .literal last⟩)
  let a := filter [.upper] [.int 1, .text "x, y"] day
  let b := filter [] [one, .text "x, y"] (.text "2000-02-29")
  let c := filter [.upper] [.int 1, .text "x", .text "y"] day
  let columns (first second : List ScalarFunction) : Filter :=
    leaf ⟨⟨"E.a", "1", first⟩, .relation .like, .column ⟨"", "' AND", second⟩⟩
  let d := columns [.lower, .lower] []
  let e := columns [] [.year]
  have readableA : a.Readable := by decide
  have readableB : b.Readable := by decide
  have readableC : c.Readable := by decide
  obtain ⟨unique, functionless⟩ := describe_eq_iff_alike
  have numbers : (Literal.int 1).describe = one.describe := by decide +kernel
  have days : day.describe = (Literal.text "2000-02-29").describe := by decide +kernel
  have same : a.describe = b.describe := (unique a b readableA readableB).mpr <|
    .join .and (.leaf ⟨rfl, rfl, .list (.cons numbers (.cons rfl .nil))⟩) (.leaf ⟨rfl, rfl, .literal days⟩)
  have apart : a.describe ≠ c.describe := by
    intro equal
    cases (unique a c readableA readableC).mp equal with
    | join _ first _ =>
      cases first with
      | leaf alike =>
        cases alike.right with
        | list pairs => exact absurd pairs.length_eq (by decide)
  exact ⟨a, b, c, d, e, readableA, readableB, readableC, by decide, by decide +kernel, same, apart,
    by decide, by decide, functionless d e rfl⟩

end Filter

end RowFilter
