import RowFilter.Entity.Token

/-! # Tokens of a text

Every token and every comment takes at least one character (`Text.Left`), so as much fuel as a text has characters
is enough for all its tokens.  The spelling of a token is what stood in the text: a text is the spellings of its
tokens one after the other, with gaps and comments between them (`Token.laid_ofText`). -/

set_option autoImplicit false

namespace RowFilter

namespace Text

/-! ## What is left -/

/-- What is left of a text from which at least one character was taken. -/
def Left (text rest : List Char) : Prop := ∃ c taken, text = c :: taken ++ rest

theorem Left.cons {text rest : List Char} (c : Char) (ends : rest <:+ text) : Left (c :: text) rest := by
  obtain ⟨taken, rfl⟩ := ends
  exact ⟨c, taken, rfl⟩

theorem Left.trans_suffix {text rest more : List Char} (left : Left text rest) (ends : more <:+ rest) :
    Left text more := by
  obtain ⟨taken, rfl⟩ := ends
  obtain ⟨c, first, rfl⟩ := left
  exact ⟨c, first ++ taken, by simp⟩

theorem Left.suffix {text rest : List Char} (left : Left text rest) : rest <:+ text := by
  obtain ⟨c, taken, rfl⟩ := left
  exact List.suffix_append _ rest

theorem Left.length_lt {text rest : List Char} (left : Left text rest) : rest.length < text.length := by
  obtain ⟨c, taken, rfl⟩ := left
  simp only [List.length_append, List.length_cons]
  omega

/-! ## Comments -/

namespace Comment

theorem splitLine_suffix (text : List Char) : (splitLine text).2 <:+ text := by
  fun_induction splitLine text with
  | case1 => exact List.suffix_rfl
  | case2 rest => exact List.suffix_rfl
  | case3 rest => exact List.suffix_cons '\r' ('\n' :: rest)
  | case4 c rest _ _ line after split ih =>
    rw [split] at ih
    exact ih.trans (List.suffix_cons c rest)

theorem splitBlock_suffix {depth : Nat} {text inside after : List Char}
    (split : splitBlock depth text = some (inside, after)) : after <:+ text := by
  fun_induction splitBlock depth text generalizing inside with
  | case1 depth rest ih =>
    obtain ⟨⟨inner, behind⟩, call, same⟩ := Option.map_eq_some_iff.mp split
    cases same
    exact (ih call).trans (List.suffix_append ['/', '*'] rest)
  | case2 rest =>
    cases split
    exact List.suffix_append ['*', '/'] after
  | case3 depth rest ih =>
    obtain ⟨⟨inner, behind⟩, call, same⟩ := Option.map_eq_some_iff.mp split
    cases same
    exact (ih call).trans (List.suffix_append ['*', '/'] rest)
  | case4 depth c rest _ _ _ ih =>
    obtain ⟨⟨inner, behind⟩, call, same⟩ := Option.map_eq_some_iff.mp split
    cases same
    exact (ih call).trans (List.suffix_cons c rest)
  | case5 => cases split

theorem left_of_read? {text after : List Char} {comment : Comment}
    (found : read? text = some (comment, after)) : Left text after := by
  rw [read?.eq_def] at found
  split at found
  · rename_i rest
    cases found
    exact .cons '/' ((splitLine_suffix rest).trans (List.suffix_cons '/' rest))
  · rename_i rest
    obtain ⟨⟨inside, behind⟩, call, same⟩ := Option.map_eq_some_iff.mp found
    cases same
    exact .cons '/' ((splitBlock_suffix call).trans (List.suffix_cons '*' rest))
  · cases found

end Comment

/-! ## Literals -/

namespace StringLiteral

theorem afterQuote_suffix {text rest : List Char} (found : afterQuote text = some rest) : rest <:+ text := by
  fun_induction afterQuote text with
  | case1 => cases found
  | case2 escaped behind ih => exact (ih found).trans (List.suffix_append ['\\', escaped] behind)
  | case3 =>
    cases found
    exact List.suffix_cons _ rest
  | case4 c behind _ _ ih => exact (ih found).trans (List.suffix_cons c behind)

theorem dropSuffix_suffix (text : List Char) : dropSuffix text <:+ text := by
  fun_cases dropSuffix text with
  | case1 => exact List.suffix_rfl
  | case2 c rest => exact (List.dropWhile_suffix _).trans (List.suffix_cons c rest)
  | case3 => exact List.suffix_rfl

theorem splitRaw_suffix {hashes : Nat} {text value rest : List Char}
    (found : splitRaw hashes text = some (value, rest)) : rest <:+ text := by
  fun_induction splitRaw hashes text generalizing value with
  | case1 => cases found
  | case2 c behind =>
    cases found
    exact (List.drop_suffix _ _).trans (List.suffix_cons c behind)
  | case3 c behind _ ih =>
    obtain ⟨⟨inner, after⟩, call, same⟩ := Option.map_eq_some_iff.mp found
    cases same
    exact (ih call).trans (List.suffix_cons c behind)

theorem rawStart?_suffix {text inside : List Char} {hashes : Nat}
    (found : rawStart? text = some (hashes, inside)) : inside <:+ text := by
  rw [rawStart?] at found
  split at found
  · rename_i behind after
    cases found
    have quote : '\x22' :: inside <:+ text := by
      rw [← after]
      exact List.drop_suffix _ _
    exact (List.suffix_cons '\x22' inside).trans quote
  · cases found

theorem left_of_rest? {text rest : List Char} (found : rest? text = some rest) : Left text rest := by
  rw [rest?.eq_def] at found
  split at found
  · obtain ⟨after, call, same⟩ := Option.map_eq_some_iff.mp found
    cases same
    exact .cons '\x22' ((dropSuffix_suffix after).trans (afterQuote_suffix call))
  · simp only [Option.bind_eq_bind, Option.bind_eq_some_iff] at found
    obtain ⟨⟨hashes, body⟩, start, ⟨value, after⟩, split, same⟩ := found
    cases same
    exact .cons 'r' ((dropSuffix_suffix after).trans ((splitRaw_suffix split).trans (rawStart?_suffix start)))
  · cases found

end StringLiteral

namespace NumberLiteral

theorem splitFigures_append (text : List Char) : (splitFigures text).1 ++ (splitFigures text).2 = text :=
  List.takeWhile_append_dropWhile

theorem exponent?_append {text number rest : List Char} (found : exponent? text = some (number, rest)) :
    number ++ rest = text := by
  cases text with
  | nil => cases found
  | cons mark more =>
    have parts := splitFigures_append more
    simp only [exponent?] at found
    split at found
    · split at found
      · cases found
        rw [List.cons_append, parts]
      · split at found
        · rename_i sign behind after
          split at found
          · cases found
            rw [after] at parts
            rw [List.cons_append, List.cons_append, List.append_assoc, List.cons_append, splitFigures_append,
              parts]
          · cases found
        · cases found
    · cases found

theorem fractional?_append {text number rest : List Char} (found : fractional? text = some (number, rest)) :
    number ++ rest = text := by
  have parts := splitFigures_append text
  simp only [fractional?] at found
  split at found
  · rename_i behind after
    rw [after] at parts
    have fraction := splitFigures_append behind
    split at found
    · cases found
    · split at found
      · rename_i exponent _ call
        cases found
        simp only [List.append_assoc, List.cons_append]
        rw [exponent?_append call, fraction, parts]
      · cases found
        simp only [List.append_assoc, List.cons_append]
        rw [fraction, parts]
  · obtain ⟨⟨exponent, after⟩, call, same⟩ := Option.map_eq_some_iff.mp found
    cases same
    rw [List.append_assoc, exponent?_append call, parts]

theorem split_append (text : List Char) : (split text).1 ++ (split text).2 = text := by
  rw [split]
  cases call : fractional? text with
  | none => exact List.takeWhile_append_dropWhile
  | some found =>
    have whole := fractional?_append call
    simp only [Option.getD_some, List.append_assoc, List.takeWhile_append_dropWhile, whole]

theorem split_ne_nil {c : Char} (digit : c.isDigit = true) (rest : List Char) : (split (c :: rest)).1 ≠ [] := by
  have part : isNamePart c = true := by simp [isNamePart, digit]
  have first : (c :: rest).takeWhile isNamePart ≠ [] := by simp [part]
  rw [split]
  cases call : fractional? (c :: rest) with
  | none => exact first
  | some found =>
    obtain ⟨number, after⟩ := found
    intro nothing
    obtain ⟨rfl, suffix⟩ := List.append_eq_nil_iff.mp nothing
    have whole : after = c :: rest := fractional?_append call
    exact first (whole ▸ suffix)

end NumberLiteral

end Text

namespace Entity.Token

open Text

/-! ## Tokens -/

theorem left_of_afterString? {text rest : List Char} (found : afterString? text = some rest) : Left text rest := by
  rw [afterString?.eq_def] at found
  split at found
  · exact .cons 'b' (StringLiteral.left_of_rest? found).suffix
  · exact .cons 'c' (StringLiteral.left_of_rest? found).suffix
  · exact StringLiteral.left_of_rest? found

theorem left_of_afterApostrophes? {text rest : List Char} (found : afterApostrophes? text = some rest) :
    Left text rest := by
  rw [afterApostrophes?.eq_def] at found
  split at found
  · rename_i c behind
    cases found
    exact .cons '\x27' (((List.drop_suffix 1 _).trans (List.dropWhile_suffix _)).trans
      (List.suffix_append ['\\', c] behind))
  · cases found
    exact .cons '\x27' (List.suffix_append [_, '\x27'] rest)
  · cases found

theorem left_of_afterCharacter? {text rest : List Char} (found : afterCharacter? text = some rest) :
    Left text rest := by
  rw [afterCharacter?.eq_def] at found
  obtain ⟨after, call, same⟩ := Option.map_eq_some_iff.mp found
  have left := (left_of_afterApostrophes? call).trans_suffix (StringLiteral.dropSuffix_suffix after)
  rw [same] at left
  split at left
  · exact .cons _ left.suffix
  · exact left

theorem left_of_afterUnwritten? {text rest : List Char} (found : afterUnwritten? text = some rest) :
    Left text rest := by
  rw [afterUnwritten?] at found
  split at found
  · rename_i front
    cases found
    obtain ⟨behind, rfl⟩ := List.isPrefixOf_iff_prefix.mp front
    rw [List.drop_left]
    exact .cons '(' (List.suffix_append "/*ERROR*/)".toList behind)
  · cases found

theorem splitName_append (text : List Char) : (splitName text).1 ++ (splitName text).2 = text := by
  rw [splitName.eq_def]
  split
  · split
    · simp [List.takeWhile_append_dropWhile]
    · rfl
  · exact List.takeWhile_append_dropWhile

theorem splitName_ne_nil {c : Char} (part : isNamePart c = true) (rest : List Char) :
    (splitName (c :: rest)).1 ≠ [] := by
  rw [splitName.eq_def]
  split
  · split
    · exact List.cons_ne_nil _ _
    · exact List.cons_ne_nil _ _
  · simp [part]

theorem consumed_append {text rest : List Char} (ends : rest <:+ text) :
    (consumed text rest).toList ++ rest = text := by
  obtain ⟨taken, rfl⟩ := ends
  simp [consumed]

theorem consumed_ne_nil {text rest : List Char} (left : Left text rest) : (consumed text rest).toList ≠ [] := by
  obtain ⟨c, taken, rfl⟩ := left
  have length : (c :: taken ++ rest).length - rest.length = taken.length + 1 := by
    rw [List.length_append, Nat.add_sub_cancel, List.length_cons]
  rw [consumed, length]
  simp

theorem spelling_bracket? {c : Char} {token : Token} (bracket : bracket? c = some token) :
    token.spelling = [c] := by
  rw [bracket?.eq_def] at bracket
  split at bracket <;> cases bracket <;> rfl

/-- A token takes characters from the front of a text, and they are how it is spelled. -/
theorem spelling_read (c : Char) (rest : List Char) :
    (read (c :: rest)).1.spelling ++ (read (c :: rest)).2 = c :: rest ∧ (read (c :: rest)).1.spelling ≠ [] := by
  rw [read.eq_def]
  split
  · rename_i after found
    simp only [Option.orElse_eq_orElse, Option.orElse_eq_or, Option.or_eq_some_iff] at found
    have left : Left (c :: rest) after := by
      rcases found with string | ⟨_, character | ⟨_, error⟩⟩
      · exact left_of_afterString? string
      · exact left_of_afterCharacter? character
      · exact left_of_afterUnwritten? error
    exact ⟨consumed_append left.suffix, consumed_ne_nil left⟩
  · rename_i same
    cases same
    exact ⟨by simp [spelling, splitName_append], List.cons_ne_nil _ _⟩
  · rename_i same
    cases same
    split
    · rename_i digit
      have some := NumberLiteral.split_ne_nil digit rest
      exact ⟨by simp [spelling, NumberLiteral.split_append], by simpa [spelling] using some⟩
    · split
      · rename_i part
        have some := splitName_ne_nil part rest
        exact ⟨by simp [spelling, splitName_append], by simpa [spelling] using some⟩
      · split
        · rename_i token bracket
          have shown := spelling_bracket? bracket
          exact ⟨by rw [shown, List.singleton_append], by rw [shown]; exact List.cons_ne_nil _ _⟩
        · exact ⟨rfl, List.cons_ne_nil _ _⟩
  · rename_i same
    cases same

theorem length_read (c : Char) (rest : List Char) : (read (c :: rest)).2.length < (c :: rest).length := by
  obtain ⟨whole, some⟩ := spelling_read c rest
  have positive := List.length_pos_iff.mpr some
  have lengths := congrArg List.length whole
  rw [List.length_append] at lengths
  omega

/-! ## Texts -/

/-- A text with its tokens: their spellings in order, with gaps and ordinary comments in between, and notes for the
attributes that they stand for. -/
inductive Laid : List Char → List Token → Prop
  | nil : Laid [] []
  | gap {c : Char} {rest : List Char} {tokens : List Token} (gap : isGap c = true) (later : Laid rest tokens) :
      Laid (c :: rest) tokens
  | comment {text rest : List Char} {tokens : List Token} (comment : Comment.read? text = some (.ordinary, rest))
      (later : Laid rest tokens) : Laid text tokens
  | note {text rest inside : List Char} {enclosing : Bool} {tokens : List Token}
      (note : Comment.read? text = some (.note enclosing inside, rest)) (later : Laid rest tokens) :
      Laid text (ofNote enclosing inside ++ tokens)
  | token {token : Token} {rest : List Char} {tokens : List Token} (later : Laid rest tokens) :
      Laid (token.spelling ++ rest) (token :: tokens)

/-- Every step takes at least one character, so as much fuel as there are characters reaches the end. -/
theorem laid_readAll {fuel : Nat} {text : List Char} (enough : text.length ≤ fuel) :
    Laid text (readAll fuel text) := by
  fun_induction readAll fuel text with
  | case1 text =>
    rw [List.length_eq_zero_iff.mp (Nat.le_zero.mp enough)]
    exact .nil
  | case2 => exact .nil
  | case3 fuel c rest gap ih => exact .gap gap (ih (Nat.le_of_succ_le_succ enough))
  | case4 fuel c rest _ after comment ih =>
    have shorter := (Comment.left_of_read? comment).length_lt
    exact .comment comment (ih (by omega))
  | case5 fuel c rest _ enclosing text after note ih =>
    have shorter := (Comment.left_of_read? note).length_lt
    exact .note note (ih (by omega))
  | case6 fuel c rest _ _ token after found ih =>
    have shown := (spelling_read c rest).1
    have shorter : (read (c :: rest)).2.length < (c :: rest).length := length_read c rest
    simp only [found] at shown shorter
    rw [← shown]
    exact .token (ih (by omega))

/-- The tokens of a text account for all of it. -/
theorem laid_ofText (text : String) : Laid text.toList (ofText text) := laid_readAll (Nat.le_refl _)

end Entity.Token

end RowFilter
