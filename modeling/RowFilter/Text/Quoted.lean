/-! # Quoted names

A name is written between two quote characters, and a quote character inside it is written twice.
`read` is the reader: it stops at the first quote that no quote follows.  Reading gives back what was
written whenever the text that follows does not start with the quote. -/

set_option autoImplicit false

namespace RowFilter.Text.Quoted

def body (quote : Char) : List Char → List Char
  | [] => []
  | c :: rest => if c = quote then quote :: quote :: body quote rest else c :: body quote rest

def written (quote : Char) (name : List Char) : List Char := quote :: body quote name ++ [quote]

/-- Reads up to the closing quote and returns the name with the text after it. -/
def readBody (quote : Char) : List Char → Option (List Char × List Char)
  | [] => none
  | [c] => if c = quote then some ([], []) else none
  | c :: next :: rest =>
    if c = quote then
      if next = quote then (readBody quote rest).map fun found => (quote :: found.1, found.2)
      else some ([], next :: rest)
    else (readBody quote (next :: rest)).map fun found => (c :: found.1, found.2)

def read (quote : Char) : List Char → Option (List Char × List Char)
  | [] => none
  | c :: rest => if c = quote then readBody quote rest else none

theorem readBody_body (quote : Char) (name rest : List Char) (apart : rest.head? ≠ some quote) :
    readBody quote (body quote name ++ quote :: rest) = some (name, rest) := by
  induction name with
  | nil =>
    cases rest with
    | nil => simp [body, readBody]
    | cons next rest =>
      have differs : next ≠ quote := by simpa using apart
      simp [body, readBody, differs]
  | cons c name ih =>
    by_cases isQuote : c = quote
    · subst isQuote
      simp [body, readBody, ih]
    · cases tail : body quote name ++ quote :: rest with
      | nil => simp at tail
      | cons next more =>
        rw [tail] at ih
        simp [body, isQuote, readBody, tail, ih]

/-- What was read is written again by the same text: nothing else is accepted. -/
theorem eq_body_of_readBody {quote : Char} {text name rest : List Char}
    (found : readBody quote text = some (name, rest)) :
    text = body quote name ++ quote :: rest ∧ rest.head? ≠ some quote := by
  fun_induction readBody quote text generalizing name with
  | case1 => cases found
  | case2 =>
    simp only [Option.some.injEq, Prod.mk.injEq] at found
    obtain ⟨rfl, rfl⟩ := found
    simp [body]
  | case3 => cases found
  | case4 more ih =>
    obtain ⟨⟨inner, after⟩, call, same⟩ := Option.map_eq_some_iff.mp found
    simp only [Prod.mk.injEq] at same
    obtain ⟨rfl, rfl⟩ := same
    obtain ⟨written, apart⟩ := ih call
    exact ⟨by simp [body, ← written], apart⟩
  | case5 next more differs =>
    simp only [Option.some.injEq, Prod.mk.injEq] at found
    obtain ⟨rfl, rfl⟩ := found
    simp [body, differs]
  | case6 c next more isOther ih =>
    obtain ⟨⟨inner, after⟩, call, same⟩ := Option.map_eq_some_iff.mp found
    simp only [Prod.mk.injEq] at same
    obtain ⟨rfl, rfl⟩ := same
    obtain ⟨written, apart⟩ := ih call
    exact ⟨by simp [body, isOther, ← written], apart⟩

theorem length_of_readBody {quote : Char} {text name rest : List Char}
    (found : readBody quote text = some (name, rest)) : rest.length < text.length := by
  obtain ⟨written, _⟩ := eq_body_of_readBody found
  rw [written]
  simp only [List.length_append, List.length_cons]
  omega

theorem read_written (quote : Char) (name rest : List Char) (apart : rest.head? ≠ some quote) :
    read quote (written quote name ++ rest) = some (name, rest) := by
  simpa [read, written] using readBody_body quote name rest apart

end RowFilter.Text.Quoted
