import RowFilter.Text.Quoted

/-! # Scanning SQL text

A reader of SQL text that knows quoted names and nothing else: a quote opens a name, and every other
character stands for itself.  The scan fails when a name is not closed. -/

set_option autoImplicit false

namespace RowFilter.Sql

open RowFilter.Text

inductive Lexeme where
  | name (text : List Char)
  | symbol (c : Char)
  deriving DecidableEq

def Lexeme.spelled (quote : Char) : Lexeme → List Char
  | name text => Quoted.written quote text
  | symbol c => [c]

def scan (quote : Char) : List Char → Option (List Lexeme)
  | [] => some []
  | c :: rest =>
    if c = quote then
      match _call : Quoted.readBody quote rest with
      | none => none
      | some (name, after) => (scan quote after).map fun tail => .name name :: tail
    else (scan quote rest).map fun tail => .symbol c :: tail
termination_by text => text.length
decreasing_by
  · have shorter := Quoted.length_of_readBody _call
    simp only [List.length_cons]
    omega
  · simp

theorem scan_symbol {quote c : Char} (rest : List Char) (other : c ≠ quote) :
    scan quote (c :: rest) = (scan quote rest).map fun tail => .symbol c :: tail := by
  rw [scan, if_neg other]

theorem scan_name {quote : Char} (name rest : List Char) (apart : rest.head? ≠ some quote) :
    scan quote (Quoted.written quote name ++ rest) =
      (scan quote rest).map fun tail => .name name :: tail := by
  have body : Quoted.readBody quote (Quoted.body quote name ++ [quote] ++ rest) = some (name, rest) := by
    simpa using Quoted.readBody_body quote name rest apart
  simp only [Quoted.written, List.cons_append]
  rw [scan, if_pos rfl]
  split
  · rename_i failed
    rw [body] at failed
    cases failed
  · rename_i found after call
    rw [body] at call
    cases call
    rfl

end RowFilter.Sql
