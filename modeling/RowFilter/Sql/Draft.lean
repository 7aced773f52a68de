import RowFilter.Condition
import RowFilter.Sql.Dialect

/-! # Drafts

SQL text written step by step, together with the literals bound so far.  Placeholders count on from the
literals that are bound already, in the enclosing statement (the offset) and in the draft itself; a number
must fit in 64 bits.  What a step has written stays in the draft also when the step is refused in the end. -/

set_option autoImplicit false

namespace RowFilter.Sql

/-! ## Placeholder numbers -/

namespace Placeholder

def limit : Nat := 0xffffffffffffffff

def checkedSum? (m n : Nat) : Option Nat := if m + n ≤ limit then some (m + n) else none

def number (offset bound : Nat) : Except FilterError Nat :=
  match (checkedSum? offset bound).bind fun index => checkedSum? index 1 with
  | some found => .ok found
  | none => .error (.placeholderOverflow offset)

theorem number_of_le {offset bound : Nat} (small : offset + bound + 1 ≤ limit) :
    number offset bound = .ok (offset + bound + 1) := by
  have index : checkedSum? offset bound = some (offset + bound) := if_pos (by omega)
  have next : checkedSum? (offset + bound) 1 = some (offset + bound + 1) := if_pos small
  rw [number, index, Option.bind_some, next]

/-- Whichever of the two sums is too large, the refusal is the same. -/
theorem number_of_lt {offset bound : Nat} (large : limit < offset + bound + 1) :
    number offset bound = .error (.placeholderOverflow offset) := by
  by_cases small : offset + bound ≤ limit
  · have index : checkedSum? offset bound = some (offset + bound) := if_pos small
    have next : checkedSum? (offset + bound) 1 = none := if_neg (by omega)
    rw [number, index, Option.bind_some, next]
  · have index : checkedSum? offset bound = none := if_neg small
    rw [number, index, Option.bind_none]

end Placeholder

/-! ## Writing -/

def Dialect.appendName (dialect : Dialect) (text name : String) : String :=
  text ++ String.ofList (dialect.quoted name)

def Dialect.appendPlaceholder (dialect : Dialect) (text : String) (number : Nat) : String :=
  text ++ String.ofList (dialect.placeholder number)

structure Draft where
  text : String := ""
  params : List Literal := []
  deriving DecidableEq

/-- Something that is done to a draft and can be refused.  There is a draft in either case. -/
abbrev Writing (α : Type) := EStateM FilterError Draft α

namespace Draft

def push (added : String) : Writing Unit :=
  modify fun draft => { draft with text := draft.text ++ added }

def pushName (dialect : Dialect) (added : String) : Writing Unit :=
  modify fun draft => { draft with text := dialect.appendName draft.text added }

/-- Asks for the number before anything is written. -/
def pushParam (dialect : Dialect) (offset : Nat) (bound : Literal) : Writing Unit := do
  let draft ← get
  let number ← ofExcept (Placeholder.number offset draft.params.length)
  modify fun draft => { draft with text := dialect.appendPlaceholder draft.text number }
  modify fun draft => { draft with params := draft.params ++ [bound] }

theorem run_pushParam_of_le {dialect : Dialect} {offset : Nat} {draft : Draft} (bound : Literal)
    (small : offset + draft.params.length + 1 ≤ Placeholder.limit) :
    (pushParam dialect offset bound).run draft =
      .ok () ⟨dialect.appendPlaceholder draft.text (offset + draft.params.length + 1),
        draft.params ++ [bound]⟩ := by
  have number := Placeholder.number_of_le small
  simp only [pushParam, EStateM.run_bind, EStateM.run_get, number]
  rfl

/-- A literal that is refused leaves no trace. -/
theorem run_pushParam_of_lt {dialect : Dialect} {offset : Nat} {draft : Draft} (bound : Literal)
    (large : Placeholder.limit < offset + draft.params.length + 1) :
    (pushParam dialect offset bound).run draft = .error (.placeholderOverflow offset) draft := by
  have number := Placeholder.number_of_lt large
  simp only [pushParam, EStateM.run_bind, EStateM.run_get, number]
  rfl

/-! ## Runs of steps -/

inductive Step where
  | text (added : String)
  | name (added : String)
  | param (bound : Literal)
  deriving DecidableEq

def Step.write (dialect : Dialect) (offset : Nat) : Step → Writing Unit
  | text added => push added
  | name added => pushName dialect added
  | param bound => pushParam dialect offset bound

/-- What a step leaves, with its refusal if there was one. -/
def advance (dialect : Dialect) (offset : Nat) (draft : Draft) (step : Step) :
    Draft × Option FilterError :=
  match (step.write dialect offset).run draft with
  | .ok _ left => (left, none)
  | .error refusal left => (left, some refusal)

/-- Goes on with what each step leaves, refused or not. -/
def run (dialect : Dialect) (offset : Nat) : Draft → List Step → List (Draft × Option FilterError)
  | _, [] => []
  | draft, step :: rest =>
    let next := draft.advance dialect offset step
    next :: run dialect offset next.1 rest

end Draft

end RowFilter.Sql
