import RowFilter.Entity.Signature

/-! # Escaped texts

A written literal keeps its text.  The reader gets every character back in one step, whether it stands for itself
or behind a backslash (`StringLiteral.Spells`), and no quote of the text ends the literal.  All that is shown is
printable.  So a note says as an attribute what it said as a comment. -/

set_option autoImplicit false

namespace RowFilter

namespace Text.StringLiteral

/-! ## Fuel -/

theorem suffix_of_readEscape {text found rest : List Char} (read : readEscape text = some (found, rest)) :
    rest <:+ text := by
  fun_cases readEscape text with
  | case1 high low after =>
    simp only [readEscape, Option.bind_eq_bind, Option.bind_eq_some_iff] at read
    obtain ⟨code, _, read⟩ := read
    split at read
    · cases read
      exact ⟨['x', high, low], rfl⟩
    · cases read
  | case2 after missing =>
    simp only [readEscape, missing] at read
    cases read
  | case3 after close behind found' digits bad =>
    simp only [readEscape, found'] at read
    rw [if_pos bad] at read
    cases read
  | case4 after close behind found' digits good =>
    simp only [readEscape, found'] at read
    rw [if_neg good] at read
    obtain ⟨c, _, same⟩ := Option.bind_eq_some_iff.mp read
    cases same
    have inside : close :: rest <:+ after := by
      rw [← found']
      exact List.dropWhile_suffix _
    exact ((List.suffix_cons close rest).trans inside).trans (List.suffix_append ['u', '\x7b'] after)
  | case5 after =>
    cases read
    exact (List.dropWhile_suffix _).trans (List.suffix_cons '\n' after)
  | case6 after =>
    cases read
    exact (List.dropWhile_suffix _).trans (List.suffix_append ['\r', '\n'] after)
  | case7 c after notCode notPoint notLine notLine' =>
    rw [readEscape] at read <;> try assumption
    obtain ⟨escaped, _, same⟩ := Option.map_eq_some_iff.mp read
    cases same
    exact List.suffix_cons c rest
  | case8 => cases read

theorem readBody_succ_of_lt {fuel : Nat} {text : List Char} (enough : text.length < fuel) :
    readBody (fuel + 1) text = readBody fuel text := by
  fun_induction readBody fuel text with
  | case1 => omega
  | case2 => rfl
  | case3 => rfl
  | case4 fuel rest ih =>
    rw [readBody]
    cases escape : readEscape rest with
    | none => rfl
    | some read =>
      obtain ⟨first, after⟩ := read
      have shorter := (suffix_of_readEscape escape).length_le
      simp only [List.length_cons] at enough
      have same : readBody (fuel + 1) after = readBody fuel after := ih after (by omega)
      simp only [Option.bind_eq_bind, Option.bind_some, same]
  | case5 fuel rest ih =>
    simp only [List.length_cons] at enough
    rw [readBody, ih (by omega)]
  | case6 fuel c rest notQuote notEscape notLine ih =>
    simp only [List.length_cons] at enough
    rw [readBody, ih (by omega)] <;> assumption

/-- Fuel beyond more than there are characters changes nothing. -/
theorem readBody_add_of_lt {fuel : Nat} {text : List Char} (enough : text.length < fuel) (spare : Nat) :
    readBody (spare + fuel) text = readBody fuel text := by
  induction spare with
  | zero => rw [Nat.zero_add]
  | succ spare ih => rw [Nat.add_right_comm, readBody_succ_of_lt (by omega), ih]

/-! ## Single characters -/

/-- A part of a literal that is read as this character, in one step. -/
def Spells (part : List Char) (c : Char) : Prop :=
  ∀ fuel rest, readBody (fuel + 1) (part ++ rest) = (readBody fuel rest).map (c :: ·)

theorem spells_of_readEscape {part : List Char} {c : Char}
    (read : ∀ rest, readEscape (part ++ rest) = some ([c], rest)) : Spells ('\\' :: part) c := by
  intro fuel rest
  rw [List.cons_append, readBody, read]
  simp only [Option.bind_eq_bind, Option.bind_some]
  cases readBody fuel rest <;> rfl

theorem spells_itself {c : Char} (notEscape : c ≠ '\\') (notQuote : c ≠ '\x22') (notReturn : c ≠ '\r') :
    Spells [c] c := by
  intro fuel rest
  rw [List.singleton_append, readBody]
  · exact notQuote
  · exact notEscape
  · exact fun _ isReturn => absurd isReturn notReturn

theorem character?_toNat (c : Char) : character? c.toNat = some c := by
  have valid : c.toNat.isValidChar := c.valid
  rw [character?, if_pos valid, Char.ofNat_toNat]

theorem length_toDigits_toNat (c : Char) : (Nat.toDigits 16 c.toNat).length ≤ 6 := by
  have valid : c.toNat < 0xd800 ∨ 0xdfff < c.toNat ∧ c.toNat < 0x110000 := c.valid
  rw [Nat.length_toDigits_le_iff (by decide) (by decide)]
  omega

theorem ne_of_mem_toDigits {other d : Char} {n : Nat} (noDigit : (Hex.digit? other).isSome = false)
    (member : d ∈ Nat.toDigits 16 n) : d ≠ other := by
  rintro rfl
  have digit := Hex.isSome_digit?_of_mem_toDigits member
  rw [noDigit] at digit
  cases digit

theorem readEscape_code (c : Char) (rest : List Char) :
    readEscape ('u' :: '\x7b' :: (Nat.toDigits 16 c.toNat ++ '\x7d' :: rest)) = some ([c], rest) := by
  have apart {other : Char} (noDigit : (Hex.digit? other).isSome = false) :
      ∀ d ∈ Nat.toDigits 16 c.toNat, decide (d ≠ other) = true :=
    fun d member => decide_eq_true (ne_of_mem_toDigits noDigit member)
  have behind : (Nat.toDigits 16 c.toNat ++ '\x7d' :: rest).dropWhile (· ≠ '\x7d') = '\x7d' :: rest := by
    rw [List.dropWhile_append_of_pos (apart (by decide))]
    rfl
  have before : (Nat.toDigits 16 c.toNat ++ '\x7d' :: rest).takeWhile (· ≠ '\x7d') = Nat.toDigits 16 c.toNat := by
    rw [List.takeWhile_append_of_pos (apart (by decide))]
    simp
  have digits : (Nat.toDigits 16 c.toNat).filter (· ≠ '_') = Nat.toDigits 16 c.toNat :=
    List.filter_eq_self.mpr (apart (by decide))
  have few : ¬ (Nat.toDigits 16 c.toNat = [] ∨ 6 < (Nat.toDigits 16 c.toNat).length) := by
    rintro (empty | many)
    · exact Nat.toDigits_ne_nil empty
    · exact absurd (length_toDigits_toNat c) (by omega)
  simp only [readEscape, behind, before, digits]
  rw [if_neg few, Hex.value?_toDigits, Option.bind_some, character?_toNat]
  rfl

theorem spells_code (c : Char) : Spells ('\\' :: 'u' :: '\x7b' :: Nat.toDigits 16 c.toNat ++ ['\x7d']) c := by
  apply spells_of_readEscape
  intro rest
  simpa using readEscape_code c rest

theorem spells_escaped (c : Char) : Spells (escaped c) c := by
  fun_cases escaped c
  case case1 same | case2 same | case3 same | case4 same | case5 same | case6 same =>
    subst same
    exact spells_of_readEscape fun _ => rfl
  case case7 notReturn _ notEscape notQuote _ => exact spells_itself notEscape notQuote notReturn
  case case8 => exact spells_code c

/-! ## Whole texts -/

/-- A part of a literal that is read as this text, in as many steps as the text has characters. -/
def SpellsText (body value : List Char) : Prop :=
  ∀ fuel rest, readBody (value.length + fuel) (body ++ rest) = (readBody fuel rest).map (value ++ ·)

theorem SpellsText.nil : SpellsText [] [] := by
  intro fuel rest
  rw [List.length_nil, Nat.zero_add, List.nil_append]
  exact Option.map_id'.symm

theorem SpellsText.cons {part body : List Char} {c : Char} {value : List Char} (first : Spells part c)
    (later : SpellsText body value) : SpellsText (part ++ body) (c :: value) := by
  intro fuel rest
  have steps : (c :: value).length + fuel = value.length + fuel + 1 := by
    rw [List.length_cons]
    omega
  rw [steps, List.append_assoc, first, later, Option.map_map]
  rfl

/-- There is more fuel than the text needs, and more does not matter. -/
theorem SpellsText.value? {body value : List Char} (spells : SpellsText body value) (rest : List Char) :
    value? ('\x22' :: body ++ '\x22' :: rest) = some value := by
  rw [List.cons_append, StringLiteral.value?, ← readBody_add_of_lt (Nat.lt_succ_self _) value.length, spells]
  simp [readBody]

theorem spellsText_escaped (value : List Char) : SpellsText (value.flatMap escaped) value := by
  induction value with
  | nil => exact .nil
  | cons c rest ih => exact .cons (spells_escaped c) ih

theorem spellsText_noteBody (text : List Char) : SpellsText (noteBody text) text := by
  induction text with
  | nil => exact .nil
  | cons c rest ih =>
    rw [noteBody]
    split
    · rename_i nul
      rw [nul.1]
      exact .cons (spells_of_readEscape fun _ => rfl) ih
    · exact .cons (spells_escaped c) ih

/-- What is written is read again, whatever stands behind it. -/
theorem value?_written (value rest : List Char) : value? (written value ++ rest) = some value := by
  have read := (spellsText_escaped value).value? rest
  simpa [written] using read

theorem value?_writtenNote (text : List Char) : value? (writtenNote text) = some text :=
  (spellsText_noteBody text).value? []

/-! ## What is shown -/

theorem isPrintable_of_isSome_digit? {c : Char} (digit : (Hex.digit? c).isSome = true) : isPrintable c = true := by
  have between {first last : Char} (low : ' ' ≤ first) (high : last ≤ '~') (inside : first ≤ c ∧ c ≤ last) :
      isPrintable c = true :=
    isPrintable_of_ascii c (Char.le_trans low inside.1) (Char.le_trans inside.2 high)
  fun_cases Hex.digit? c
  case case1 inside | case2 inside | case3 inside => exact between (by decide) (by decide) inside
  case case4 first second third => simp [Hex.digit?, first, second, third] at digit

theorem isPrintable_of_mem_escaped (c : Char) : ∀ shown ∈ escaped c, isPrintable shown = true := by
  fun_cases escaped c
  case case1 same | case2 same | case3 same | case4 same | case5 same | case6 same =>
    subst same
    exact List.all_eq_true.mp (by decide)
  case case7 printable =>
    intro shown member
    rw [List.mem_singleton.mp member]
    exact printable
  case case8 =>
    intro shown member
    simp only [List.cons_append, List.mem_cons, List.mem_append, List.not_mem_nil, or_false] at member
    rcases member with rfl | rfl | rfl | digit | rfl
    · decide
    · decide
    · decide
    · exact isPrintable_of_isSome_digit? (Hex.isSome_digit?_of_mem_toDigits digit)
    · decide

/-- A literal shows printable characters and nothing else. -/
theorem isPrintable_of_mem_written {value : List Char} {c : Char} (member : c ∈ written value) :
    isPrintable c = true := by
  simp only [written, List.cons_append, List.mem_cons, List.mem_append, List.mem_flatMap, List.not_mem_nil,
    or_false] at member
  rcases member with rfl | ⟨from', _, shown⟩ | rfl
  · decide
  · exact isPrintable_of_mem_escaped from' c shown
  · decide

/-! ## The end of a literal -/

theorem afterQuote_append {part : List Char} (plain : ∀ c ∈ part, c ≠ '\\' ∧ c ≠ '\x22') (rest : List Char) :
    afterQuote (part ++ rest) = afterQuote rest := by
  induction part with
  | nil => rfl
  | cons c part ih =>
    obtain ⟨⟨notEscape, notQuote⟩, later⟩ := List.forall_mem_cons.mp plain
    rw [List.cons_append, afterQuote, if_neg notQuote, ih later]
    intro _ _ isEscape
    exact absurd isEscape notEscape

theorem afterQuote_escaped (c : Char) (rest : List Char) : afterQuote (escaped c ++ rest) = afterQuote rest := by
  fun_cases escaped c
  case case1 same | case2 same | case3 same | case4 same | case5 same | case6 same =>
    subst same
    rfl
  case case7 notReturn _ notEscape notQuote _ =>
    exact afterQuote_append (by simp [notEscape, notQuote]) rest
  case case8 =>
    have plain : ∀ d ∈ '\x7b' :: Nat.toDigits 16 c.toNat ++ ['\x7d'], d ≠ '\\' ∧ d ≠ '\x22' := by
      intro d member
      simp only [List.cons_append, List.mem_cons, List.mem_append, List.not_mem_nil, or_false] at member
      rcases member with rfl | digit | rfl
      · decide
      · exact ⟨ne_of_mem_toDigits (by decide) digit, ne_of_mem_toDigits (by decide) digit⟩
      · decide
    exact afterQuote_append plain rest

theorem afterQuote_flatMap (value rest : List Char) :
    afterQuote (value.flatMap escaped ++ '\x22' :: rest) = some rest := by
  induction value with
  | nil => rfl
  | cons c value ih => rw [List.flatMap_cons, List.append_assoc, afterQuote_escaped, ih]

theorem rest?_written (value rest : List Char) : rest? (written value ++ rest) = some (dropSuffix rest) := by
  have ends := afterQuote_flatMap value rest
  simp [written, rest?, ends]

end Text.StringLiteral

namespace Entity

open Text

theorem Token.read_of_rest? {inside rest : List Char} (ends : StringLiteral.rest? ('\x22' :: inside) = some rest) :
    read ('\x22' :: inside) = (.literal (consumed ('\x22' :: inside) rest), rest) := by
  have string : afterString? ('\x22' :: inside) = some rest := ends
  simp only [read, string]
  rfl

/-- A written literal is a token of its own, and its text can be read off it. -/
theorem Token.ofText_written (value : List Char) :
    ofText (String.ofList (StringLiteral.written value)) =
        [.literal (String.ofList (StringLiteral.written value))] ∧
      (literal (String.ofList (StringLiteral.written value))).stringValue? = some (String.ofList value) := by
  constructor
  · let inside := value.flatMap StringLiteral.escaped ++ ['\x22']
    have ends : StringLiteral.rest? ('\x22' :: inside) = some [] := by
      have behind := StringLiteral.rest?_written value []
      rwa [List.append_nil] at behind
    have gap : isGap '\x22' = false := by decide
    have noComment : Comment.read? ('\x22' :: inside) = none := rfl
    have shown : StringLiteral.written value = '\x22' :: inside := rfl
    rw [ofText, String.toList_ofList, shown, List.length_cons, readAll, if_neg (by simp [gap]), noComment]
    simp only [read_of_rest? ends, consumed, List.length_nil, Nat.sub_zero, List.take_length]
    cases inside <;> rfl
  · have back := StringLiteral.value?_written value []
    rw [List.append_nil] at back
    rw [stringValue?, String.toList_ofList, back]
    rfl

/-- The attribute that a note stands for adds the text of the note to the documentation. -/
theorem leadingAttributes_ofNote (text : List Char) :
    ∃ note, leadingAttributes (Token.ofNote false text) = [note] ∧
      ∀ found : Annotations, found.add note = .ok { found with docs := found.docs ++ [.text (String.ofList text)] } := by
  let note : Attribute := ⟨[.word "doc"], [.sign '=' false, .literal (String.ofList (StringLiteral.writtenNote text))]⟩
  have doc : note.doc = .text (String.ofList text) := by
    simp [note, Attribute.doc, Token.stringValue?, StringLiteral.value?_writtenNote]
  refine ⟨note, rfl, ?_⟩
  intro found
  rw [Annotations.add, if_pos rfl, doc]

end Entity

end RowFilter
