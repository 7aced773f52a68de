import RowFilter.Proofs.Spelling

/-! # Codes

A code spells values so that the text of one, followed by a text that may follow it, determines the value
and the text behind it.  What may follow is said by the first character.  Words of a fixed vocabulary form
a code when a word that starts another one is never followed as in the longer word; quoted names form a
code in front of anything but a quote. -/

set_option autoImplicit false

namespace RowFilter.Sql

open RowFilter.Text

def Starts (first : Char → Prop) (text : List Char) : Prop := ∀ c ∈ text.head?, first c

theorem starts_cons {first : Char → Prop} {c : Char} (text : List Char) (holds : first c) :
    Starts first (c :: text) := by
  intro found same
  cases same
  exact holds

theorem starts_append {first : Char → Prop} {text rest : List Char} (nonempty : text ≠ [])
    (start : Starts first text) : Starts first (text ++ rest) := by
  obtain ⟨c, tail, rfl⟩ := List.exists_cons_of_ne_nil nonempty
  exact start

/-- Values are told apart by their texts, also when more follows. -/
def IsCode {α : Type} (first : Char → Prop) (text : α → List Char) : Prop :=
  ∀ ⦃a b : α⦄ ⦃r s : List Char⦄, Starts first r → Starts first s → text a ++ r = text b ++ s →
    a = b ∧ r = s

section Words

variable {α : Type} {first : Char → Prop} {text : α → List Char}

theorem eq_of_shorter
    (words : ∀ a b, text a <+: text b → a = b ∨ ¬ Starts first ((text b).drop (text a).length))
    {a b : α} {r s : List Char} (start : Starts first r) (short : text a <+: text b)
    (same : text a ++ r = text b ++ s) : a = b := by
  rcases words a b short with equal | stops
  · exact equal
  · obtain ⟨more, longer⟩ := short
    rw [← longer, List.drop_left] at stops
    rw [← longer, List.append_assoc] at same
    have behind : r = more ++ s := List.append_cancel_left same
    cases more with
    | nil => exact absurd (fun c found => by cases found) stops
    | cons c more =>
      rw [behind] at start
      exact absurd start stops

theorem isCode_of_words
    (words : ∀ a b, text a <+: text b → a = b ∨ ¬ Starts first ((text b).drop (text a).length)) :
    IsCode first text := by
  intro a b r s startR startS same
  have equal : a = b := by
    have left : text a <+: text b ++ s := ⟨r, same⟩
    rcases List.prefix_or_prefix_of_prefix left (List.prefix_append (text b) s) with short | short
    · exact eq_of_shorter words startR short same
    · exact (eq_of_shorter words startS short same.symm).symm
  subst equal
  exact ⟨rfl, List.append_cancel_left same⟩

end Words

/-! ## The vocabulary -/

/-- What can follow a comparator: a blank, or the parenthesis that closes a condition. -/
def EndsWord (c : Char) : Prop := c = ' ' ∨ c = ')'

instance (c : Char) : Decidable (EndsWord c) := inferInstanceAs (Decidable (c = ' ' ∨ c = ')'))

instance (first : Char → Prop) [DecidablePred first] (text : List Char) :
    Decidable (Starts first text) :=
  (Option.decidableForallMem text.head? : Decidable (∀ c ∈ text.head?, first c))

theorem isCode_comparator : IsCode EndsWord fun kind : Comparator => kind.spelling.toList := by
  have words : ∀ a ∈ Comparator.all, ∀ b ∈ Comparator.all, a.spelling.toList <+: b.spelling.toList →
      a = b ∨ ¬ Starts EndsWord (b.spelling.toList.drop a.spelling.toList.length) := by decide
  exact isCode_of_words fun a b => words a (Comparator.mem_all a) b (Comparator.mem_all b)

theorem isCode_connective :
    IsCode (fun _ => True) fun connective : Connective => ' ' :: connective.name.toList ++ [' '] := by
  apply isCode_of_words
  intro a b
  cases a <;> cases b <;> decide

theorem isCode_constant :
    IsCode (fun _ => True) fun value : Bool => if value then "TRUE".toList else "FALSE".toList := by
  apply isCode_of_words
  decide

theorem isCode_opening (dialect : Dialect) :
    IsCode (fun _ => True) fun function : ScalarFunction => (dialect.opening function).toList := by
  have words : ∀ a ∈ ScalarFunction.all, ∀ b ∈ ScalarFunction.all,
      (dialect.opening a).toList <+: (dialect.opening b).toList → a = b := by
    cases dialect <;> decide
  exact isCode_of_words fun a b short =>
    .inl (words a (ScalarFunction.mem_all a) b (ScalarFunction.mem_all b) short)

theorem isCode_quoted (dialect : Dialect) :
    IsCode (· ≠ dialect.quote) fun name : String => dialect.quoted name := by
  intro a b r s startR startS same
  have apart {rest : List Char} (start : Starts (· ≠ dialect.quote) rest) :
      rest.head? ≠ some dialect.quote := by
    intro quoted
    exact start _ quoted rfl
  have readA := Quoted.read_written dialect.quote a.toList r (apart startR)
  have readB := Quoted.read_written dialect.quote b.toList s (apart startS)
  have texts : Quoted.written dialect.quote a.toList ++ r =
      Quoted.written dialect.quote b.toList ++ s := same
  rw [texts, readB] at readA
  obtain ⟨names, rests⟩ := Prod.mk.inj (Option.some.inj readA)
  exact ⟨(String.toList_inj.mp names).symm, rests.symm⟩

end RowFilter.Sql
