import RowFilter.Literal
import RowFilter.Proofs.Codes

/-! # Texts of literals

A description is made of words, of texts in quotes and of signs between them.  A literal is written as one word or
as one text in quotes (`Literal.written_form`).  Its words are a few names and the numbers, so none of them could be
a column, whose text starts like a name and has a dot.  Where texts have no quote of their own, the text of a literal
is told from what follows it (`Literal.written_append_inj`). -/

set_option autoImplicit false

namespace RowFilter

open Sql

namespace Text

/-! ## Runs of characters -/

section Runs

variable {kind : Char → Bool} {x y r s : List Char}

/-- A run of characters of one kind is taken exactly when the text behind it does not go on with that kind. -/
theorem takeWhile_append_of_starts (inside : ∀ c ∈ x, kind c = true)
    (ends : Starts (fun c => kind c = false) r) : (x ++ r).takeWhile kind = x := by
  rw [List.takeWhile_append_of_pos inside]
  cases r with
  | nil => simp
  | cons c rest => simp [ends c rfl]

theorem append_inj_of_starts (insideX : ∀ c ∈ x, kind c = true) (insideY : ∀ c ∈ y, kind c = true)
    (endsR : Starts (fun c => kind c = false) r) (endsS : Starts (fun c => kind c = false) s)
    (same : x ++ r = y ++ s) : x = y ∧ r = s := by
  have runs : x = y := by
    rw [← takeWhile_append_of_starts insideX endsR, same, takeWhile_append_of_starts insideY endsS]
  subst runs
  exact ⟨rfl, List.append_cancel_left same⟩

/-- Two texts up to one character that neither of them has. -/
theorem append_inj_of_notMem {stop : Char} (notX : stop ∉ x) (notY : stop ∉ y)
    (same : x ++ stop :: r = y ++ stop :: s) : x = y ∧ r = s := by
  have inside {text : List Char} (notMem : stop ∉ text) : ∀ c ∈ text, (c != stop) = true := by
    intro c member
    rw [bne_iff_ne]
    rintro rfl
    exact notMem member
  have ends (rest : List Char) : Starts (fun c => (c != stop) = false) (stop :: rest) :=
    starts_cons rest (bne_self_eq_false stop)
  obtain ⟨texts, rests⟩ := append_inj_of_starts (inside notX) (inside notY) (ends r) (ends s) same
  exact ⟨texts, (List.cons.inj rests).2⟩

end Runs

/-! ## Words -/

def isWordPart (c : Char) : Bool := c.isAlphanum || c = '_' || c = '-' || c = '.'

def IsWord (text : List Char) : Prop := ∀ c ∈ text, isWordPart c = true

-- The instance is named, so that the characters of the text are tested and not all there are.
instance (text : List Char) : Decidable (IsWord text) := List.decidableBAll _ text

/-- A text that does not carry on a word in front of it. -/
def EndsWords (rest : List Char) : Prop := Starts (fun c => isWordPart c = false) rest

theorem isWordPart_of_isDigit {c : Char} (digit : c.isDigit = true) : isWordPart c = true := by
  simp [isWordPart, Char.isAlphanum, digit]

namespace IsWord

variable {word other : List Char}

theorem append (isWord : IsWord word) (isWord' : IsWord other) : IsWord (word ++ other) :=
  List.forall_mem_append.mpr ⟨isWord, isWord'⟩

theorem cons {c : Char} (part : isWordPart c = true) (isWord : IsWord word) : IsWord (c :: word) :=
  List.forall_mem_cons.mpr ⟨part, isWord⟩

theorem append_ne_cons {c : Char} {rest tail : List Char} (isWord : IsWord word) (nonempty : word ≠ [])
    (sign : isWordPart c = false) : word ++ rest ≠ c :: tail := by
  obtain ⟨d, more, rfl⟩ := List.exists_cons_of_ne_nil nonempty
  intro same
  obtain rfl : d = c := (List.cons.inj same).1
  rw [isWord d (List.mem_cons_self ..)] at sign
  cases sign

end IsWord

/-! ## Numbers -/

def startsNumber : List Char → Bool
  | [] => false
  | c :: _ => c.isDigit || c = '-'

def IsNumber (text : List Char) : Prop := IsWord text ∧ startsNumber text = true

theorem IsNumber.append {text rest : List Char} (number : IsNumber text) (isWord : IsWord rest) :
    IsNumber (text ++ rest) := by
  obtain ⟨inside, start⟩ := number
  refine ⟨inside.append isWord, ?_⟩
  cases text with
  | nil => cases start
  | cons c tail => exact start

theorem IsNumber.minus {text : List Char} (isWord : IsWord text) : IsNumber ('-' :: text) :=
  ⟨isWord.cons rfl, rfl⟩

namespace Decimal

theorem isWord_padded (width n : Nat) : IsWord (padded width n) :=
  fun _ member => isWordPart_of_isDigit (isDigit_of_mem_padded member)

theorem isNumber_numeral (n : Nat) : IsNumber (numeral n) := by
  have digits : ∀ c ∈ numeral n, c.isDigit = true := fun _ member => isDigit_of_mem_numeral member
  refine ⟨fun c member => isWordPart_of_isDigit (digits c member), ?_⟩
  have nonempty : numeral n ≠ [] := Nat.toDigits_ne_nil
  obtain ⟨c, rest, shown⟩ := List.exists_cons_of_ne_nil nonempty
  rw [shown] at digits ⊢
  simp [startsNumber, digits c (List.mem_cons_self ..)]

end Decimal

end Text

open Text

theorem Binary64.Decimal.isNumber_written (decimal : Binary64.Decimal) : IsNumber decimal.written := by
  rw [written]
  split
  · rename_i zeros _
    refine (Decimal.isNumber_numeral _).append ?_
    intro c zero
    rw [List.eq_of_mem_replicate zero]
    rfl
  · exact (Decimal.isNumber_numeral _).append ((Decimal.isWord_padded _ _).cons rfl)

theorem Binary64.magnitude_form (x : Binary64) : x.magnitude = "inf".toList ∨ IsNumber x.magnitude := by
  rw [magnitude]
  split
  · exact .inl rfl
  · split
    · exact .inr ⟨by decide, rfl⟩
    · exact .inr x.shortest.isNumber_written

/-! ## Words of literals -/

namespace Literal

def constants : List (List Char) := ["true".toList, "false".toList, "NaN".toList, "inf".toList]

/-- A word that a literal may be written as. -/
def IsAtom (word : List Char) : Prop := word ∈ constants ∨ IsNumber word

namespace IsAtom

variable {word : List Char}

theorem isWord (atom : IsAtom word) : IsWord word := by
  have all : ∀ word ∈ constants, IsWord word := by decide
  exact atom.elim (all word) And.left

theorem ne_nil (atom : IsAtom word) : word ≠ [] := by
  rintro rfl
  rcases atom with known | ⟨_, start⟩
  · exact absurd known (by decide)
  · cases start

theorem ne_null (atom : IsAtom word) : word ≠ "null".toList := by
  rintro rfl
  rcases atom with known | ⟨_, start⟩
  · exact absurd known (by decide)
  · cases start

theorem not_dotted (atom : IsAtom word) : ¬ ('.' ∈ word ∧ startsNumber word = false) := by
  have all : ∀ word ∈ constants, '.' ∉ word := by decide
  rintro ⟨dot, noNumber⟩
  rcases atom with known | ⟨_, start⟩
  · exact all word known dot
  · rw [start] at noNumber
    cases noNumber

end IsAtom

theorem isAtom_float (x : Binary64) : IsAtom x.written := by
  have sizes : IsWord x.magnitude := by
    rcases x.magnitude_form with infinite | number
    · rw [infinite]
      decide
    · exact number.1
  rw [Binary64.written]
  split
  · exact .inl (by decide)
  · split
    · exact .inr (.minus sizes)
    · rcases x.magnitude_form with infinite | number
      · rw [infinite]
        exact .inl (by decide)
      · exact .inr number

theorem isNumber_writtenInt (value : Int) : IsNumber (writtenInt value) := by
  rw [writtenInt]
  split
  · exact .minus (Decimal.isNumber_numeral _).1
  · exact Decimal.isNumber_numeral _

end Literal

/-! ## Texts in quotes -/

theorem Text.Decimal.quote_notMem_padded (width n : Nat) : '\x27' ∉ padded width n := by
  intro quote
  exact absurd (isDigit_of_mem_padded quote) (by decide)

theorem Text.Hex.quote_notMem_written (width n : Nat) : '\x27' ∉ written width n :=
  fun member => absurd (isSome_digit?_of_mem_written member) (by decide)

theorem Date.quote_notMem_written (date : Date) : '\x27' ∉ date.written := by
  have year : '\x27' ∉ writtenYear date.year := by
    rw [writtenYear]
    split
    · exact Decimal.quote_notMem_padded _ _
    · split <;> simp [Decimal.quote_notMem_padded]
  simp [written, year, Decimal.quote_notMem_padded]

theorem TimeOfDay.quote_notMem_written (time : TimeOfDay) : '\x27' ∉ time.written := by
  have fraction (nanos : Nat) : '\x27' ∉ writtenFraction nanos := by
    rw [writtenFraction]
    split
    · simp
    · split
      · simp [Decimal.quote_notMem_padded]
      · split <;> simp [Decimal.quote_notMem_padded]
  simp [written, fraction, Decimal.quote_notMem_padded]

theorem Uuid.mem_grouped {digits : List Char} {c : Char} (member : c ∈ grouped digits) :
    c ∈ digits ∨ c = '-' := by
  simp only [grouped, List.mem_append, List.mem_cons] at member
  grind [List.mem_of_mem_take, List.mem_of_mem_drop]

theorem Uuid.quote_notMem_written (id : Uuid) : '\x27' ∉ id.written := by
  intro quote
  rcases mem_grouped quote with digit | hyphen
  · exact Hex.quote_notMem_written _ _ digit
  · exact absurd hyphen (by decide)

namespace Literal

def Readable : Literal → Prop
  | .text value => '\x27' ∉ value.toList
  | _ => True

instance : (literal : Literal) → Decidable literal.Readable
  | .text value => inferInstanceAs (Decidable ('\x27' ∉ value.toList))
  | .bool _ | .int _ | .float _ | .date _ | .time _ | .dateTime _ _ | .uuid _ => .isTrue trivial

theorem written_form {literal : Literal} (readable : literal.Readable) :
    IsAtom literal.written ∨ ∃ inside, '\x27' ∉ inside ∧ literal.written = quoted inside := by
  cases literal with
  | bool value => cases value <;> exact .inl (.inl (by decide))
  | int value => exact .inl (.inr (isNumber_writtenInt _))
  | float value => exact .inl (isAtom_float value)
  | text value => exact .inr ⟨_, readable, rfl⟩
  | date value => exact .inr ⟨_, value.quote_notMem_written, rfl⟩
  | time value => exact .inr ⟨_, value.quote_notMem_written, rfl⟩
  | dateTime day clock =>
    refine .inr ⟨_, ?_, rfl⟩
    simp [day.quote_notMem_written, clock.quote_notMem_written]
  | uuid value => exact .inr ⟨_, value.quote_notMem_written, rfl⟩

/-! ## Reading a literal -/

theorem quoted_append (inside rest : List Char) : quoted inside ++ rest = '\x27' :: (inside ++ '\x27' :: rest) := by
  simp [quoted]

theorem written_append_ne_cons {literal : Literal} {c : Char} {rest tail : List Char} (readable : literal.Readable)
    (sign : isWordPart c = false) (noQuote : '\x27' ≠ c) : literal.written ++ rest ≠ c :: tail := by
  rcases written_form readable with atom | ⟨inside, _, shown⟩
  · exact atom.isWord.append_ne_cons atom.ne_nil sign
  · rw [shown, quoted_append]
    exact fun same => noQuote (List.cons.inj same).1

theorem written_append_inj {x y : Literal} {r s : List Char} (readableX : x.Readable) (readableY : y.Readable)
    (endsR : EndsWords r) (endsS : EndsWords s) (same : x.written ++ r = y.written ++ s) :
    x.written = y.written ∧ r = s := by
  rcases written_form readableX with atomX | ⟨insideX, noQuoteX, shownX⟩
  · rcases written_form readableY with atomY | ⟨insideY, _, shownY⟩
    · exact append_inj_of_starts atomX.isWord atomY.isWord endsR endsS same
    · rw [shownY, quoted_append] at same
      exact absurd same (atomX.isWord.append_ne_cons atomX.ne_nil rfl)
  · rcases written_form readableY with atomY | ⟨insideY, noQuoteY, shownY⟩
    · rw [shownX, quoted_append] at same
      exact absurd same.symm (atomY.isWord.append_ne_cons atomY.ne_nil rfl)
    · rw [shownX, shownY, quoted_append, quoted_append] at same
      obtain ⟨insides, rests⟩ := append_inj_of_notMem noQuoteX noQuoteY (List.cons.inj same).2
      exact ⟨by rw [shownX, shownY, insides], rests⟩

end Literal

end RowFilter
