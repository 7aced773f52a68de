import RowFilter.Sql.Draft

/-! # Runs of a draft

A step of a draft is refused only when it hands in a literal that would get too large a number.  The number
depends on how many literals were handed in before, not on which steps they came with, so what a run leaves
can be said without running it: `Accounted` does, one step keeps it (`Accounted.advance`), and so a run has it
at every point (`accounted_after`).  `Outcome` lists what a single step can do. -/

set_option autoImplicit false

namespace RowFilter.Sql.Draft

/-! ## Steps -/

def Step.literals : Step → List Literal
  | .text _ => []
  | .name _ => []
  | .param bound => [bound]

/-- What a step adds to the text after `given` literals were handed in, unless it is refused. -/
def Step.fragment? (dialect : Dialect) (offset given : Nat) : Step → Option String
  | .text added => some added
  | .name added => some (String.ofList (dialect.quoted added))
  | .param _ =>
    if offset + (given + 1) ≤ Placeholder.limit then
      some (String.ofList (dialect.placeholder (offset + (given + 1))))
    else none

def literals (steps : List Step) : List Literal := steps.flatMap Step.literals

def fragments (dialect : Dialect) (offset : Nat) : Nat → List Step → List String
  | _, [] => []
  | given, step :: rest =>
    (step.fragment? dialect offset given).toList ++
      fragments dialect offset (given + step.literals.length) rest

section Runs

variable (dialect : Dialect) (offset : Nat)

def after (draft : Draft) (steps : List Step) : Draft :=
  steps.foldl (fun draft step => (draft.advance dialect offset step).1) draft

inductive Outcome (given : Nat) (before : Draft) : Step → Draft × Option FilterError → Prop
  | text (added : String) :
      Outcome given before (.text added) (⟨before.text ++ added, before.params⟩, none)
  | name (added : String) :
      Outcome given before (.name added)
        (⟨before.text ++ String.ofList (dialect.quoted added), before.params⟩, none)
  | bound (value : Literal) (small : offset + (given + 1) ≤ Placeholder.limit) :
      Outcome given before (.param value)
        (⟨before.text ++ String.ofList (dialect.placeholder (offset + (given + 1))),
          before.params ++ [value]⟩, none)
  | refused (value : Literal) (large : Placeholder.limit < offset + (given + 1)) :
      Outcome given before (.param value) (before, some (.placeholderOverflow offset))

/-- What a draft holds after some steps: the first literals, as many as there are numbers left for, and the
fragments one after the other. -/
structure Accounted (steps : List Step) (draft : Draft) : Prop where
  params : draft.params = (literals steps).take (Placeholder.limit - offset)
  text : draft.text.toList = (fragments dialect offset 0 steps).flatMap String.toList

theorem literals_append (first second : List Step) :
    literals (first ++ second) = literals first ++ literals second := List.flatMap_append

theorem literals_singleton (step : Step) : literals [step] = step.literals := by
  simp [literals]

theorem fragments_append (given : Nat) (first second : List Step) :
    fragments dialect offset given (first ++ second) =
      fragments dialect offset given first ++
        fragments dialect offset (given + (literals first).length) second := by
  induction first generalizing given with
  | nil => rfl
  | cons step rest ih =>
    have lengths : given + (literals (step :: rest)).length =
        given + step.literals.length + (literals rest).length := by
      rw [← List.singleton_append, literals_append, literals_singleton, List.length_append]
      omega
    rw [List.cons_append, fragments, fragments, ih, lengths, List.append_assoc]

theorem after_concat (draft : Draft) (steps : List Step) (step : Step) :
    after dialect offset draft (steps ++ [step]) =
      ((after dialect offset draft steps).advance dialect offset step).1 := List.foldl_append

/-- The entries of a run are the outcomes of its steps, each at the draft that the steps before it left. -/
theorem run_at (draft : Draft) (earlier : List Step) (step : Step) (later : List Step) :
    (run dialect offset draft (earlier ++ step :: later))[earlier.length]? =
      some ((after dialect offset draft earlier).advance dialect offset step) := by
  induction earlier generalizing draft with
  | nil => rfl
  | cons first earlier ih =>
    rw [List.cons_append, run, List.length_cons, List.getElem?_cons_succ]
    exact ih (draft.advance dialect offset first).1

/-! ## One step -/

variable {dialect offset} {draft : Draft} {given : Nat}

/-- A draft has bound all literals that were handed in, or it has used up the numbers. -/
theorem outcome_advance (counted : draft.params.length = min given (Placeholder.limit - offset))
    (step : Step) : Outcome dialect offset given draft step (draft.advance dialect offset step) := by
  cases step with
  | text added => exact .text added
  | name added => exact .name added
  | param value =>
    by_cases small : offset + (given + 1) ≤ Placeholder.limit
    · have all : draft.params.length = given := by omega
      have done : (pushParam dialect offset value).run draft =
          .ok () ⟨dialect.appendPlaceholder draft.text (offset + (given + 1)), draft.params ++ [value]⟩ := by
        rw [run_pushParam_of_le value (by omega), all, Nat.add_assoc]
      simp only [advance, Step.write, done]
      exact .bound value small
    · have refusal : (pushParam dialect offset value).run draft =
          .error (.placeholderOverflow offset) draft := run_pushParam_of_lt value (by omega)
      simp only [advance, Step.write, refusal]
      exact .refused value (by omega)

theorem Outcome.text_eq {step : Step} {next : Draft × Option FilterError}
    (outcome : Outcome dialect offset given draft step next) :
    next.1.text.toList =
      draft.text.toList ++ (step.fragment? dialect offset given).toList.flatMap String.toList := by
  cases outcome with
  | text added => simp [Step.fragment?]
  | name added => simp [Step.fragment?]
  | bound value small => simp [Step.fragment?, small]
  | refused value large => simp [Step.fragment?, Nat.not_le.mpr large]

theorem Outcome.succeeds_iff {step : Step} {next : Draft × Option FilterError}
    (outcome : Outcome dialect offset given draft step next) :
    next.2 = none ↔ (step.fragment? dialect offset given).isSome := by
  cases outcome with
  | text added => simp [Step.fragment?]
  | name added => simp [Step.fragment?]
  | bound value small => simp [Step.fragment?, small]
  | refused value large => simp [Step.fragment?, Nat.not_le.mpr large]

theorem Outcome.text_prefix {step : Step} {next : Draft × Option FilterError}
    (outcome : Outcome dialect offset given draft step next) :
    draft.text.toList <+: next.1.text.toList := by
  rw [outcome.text_eq]
  exact List.prefix_append _ _

theorem Outcome.eq_refused {value : Literal} {next : Draft × Option FilterError}
    (outcome : Outcome dialect offset given draft (.param value) next)
    (large : Placeholder.limit < offset + (given + 1)) :
    next = (draft, some (.placeholderOverflow offset)) := by
  cases outcome with
  | bound _ small => omega
  | refused _ _ => rfl

/-- A literal that is refused was handed in when the numbers were used up. -/
theorem Outcome.params_eq {step : Step} {next : Draft × Option FilterError} {earlier : List Literal}
    (outcome : Outcome dialect offset earlier.length draft step next)
    (params : draft.params = earlier.take (Placeholder.limit - offset)) :
    next.1.params = (earlier ++ step.literals).take (Placeholder.limit - offset) := by
  cases outcome with
  | text added => rw [Step.literals, List.append_nil, params]
  | name added => rw [Step.literals, List.append_nil, params]
  | bound value small =>
    have room : earlier.length + 1 ≤ Placeholder.limit - offset := by omega
    have whole : (earlier ++ [value]).length ≤ Placeholder.limit - offset := by simpa using room
    rw [Step.literals, List.take_of_length_le whole, params, List.take_of_length_le (by omega)]
  | refused value large =>
    have full : Placeholder.limit - offset ≤ earlier.length := by omega
    rw [List.take_append_of_le_length full, params]

/-! ## Whole runs -/

variable {steps : List Step}

theorem Accounted.length_params (accounted : Accounted dialect offset steps draft) :
    draft.params.length = min (literals steps).length (Placeholder.limit - offset) := by
  rw [accounted.params, List.length_take, Nat.min_comm]

theorem Accounted.outcome (accounted : Accounted dialect offset steps draft) (step : Step) :
    Outcome dialect offset (literals steps).length draft step (draft.advance dialect offset step) :=
  outcome_advance accounted.length_params step

theorem Accounted.advance (accounted : Accounted dialect offset steps draft) (step : Step) :
    Accounted dialect offset (steps ++ [step]) (draft.advance dialect offset step).1 := by
  have outcome := accounted.outcome step
  constructor
  · rw [literals_append, literals_singleton]
    exact outcome.params_eq accounted.params
  · have last : fragments dialect offset (0 + (literals steps).length) [step] =
        (step.fragment? dialect offset (literals steps).length).toList := by
      rw [fragments, fragments, List.append_nil, Nat.zero_add]
    rw [outcome.text_eq, accounted.text, fragments_append, last, List.flatMap_append]

theorem Accounted.after (accounted : Accounted dialect offset steps draft) (more : List Step) :
    Accounted dialect offset (steps ++ more) (draft.after dialect offset more) := by
  induction more generalizing steps draft with
  | nil =>
    rw [List.append_nil]
    exact accounted
  | cons step rest ih =>
    have whole := ih (accounted.advance step)
    rw [List.append_assoc, List.singleton_append] at whole
    exact whole

theorem accounted_after (dialect : Dialect) (offset : Nat) (steps : List Step) :
    Accounted dialect offset steps (after dialect offset {} steps) := by
  have nothing : Accounted dialect offset [] {} := ⟨by simp [literals], by simp [fragments]⟩
  exact nothing.after steps

end Runs

/-- What a run leaves, at its end and at every step.  The literals are the first of those handed in, as long
as there are numbers for them; the text is made of the fragments of the steps that were not refused, so it
only grows.  Each step has its outcome: the literal handed in as number `i` gets the placeholder `offset + i`,
or it is refused and changes nothing.  After a refusal all further literals are refused, and nothing else. -/
theorem run_bookkeeping (dialect : Dialect) (offset : Nat) :
    (∀ steps : List Step,
      (after dialect offset {} steps).params =
          (literals steps).take (min (literals steps).length (Placeholder.limit - offset)) ∧
        (after dialect offset {} steps).text.toList =
          (fragments dialect offset 0 steps).flatMap String.toList) ∧
    (∀ earlier step later, ∃ outcome,
      (run dialect offset {} (earlier ++ step :: later))[earlier.length]? = some outcome ∧
        Outcome dialect offset (literals earlier).length (after dialect offset {} earlier) step outcome ∧
        (outcome.2 = none ↔ (step.fragment? dialect offset (literals earlier).length).isSome) ∧
        outcome.1 = after dialect offset {} (earlier ++ [step]) ∧
        (after dialect offset {} earlier).text.toList <+: outcome.1.text.toList) ∧
    ∀ earlier value between value' later draft refusal,
      (run dialect offset {} (earlier ++ .param value :: (between ++ .param value' :: later)))[
        earlier.length]? = some (draft, some refusal) →
      refusal.message = "Render error: placeholder number overflows with offset " ++
          String.ofList (Text.Decimal.numeral offset) ∧
        ∃ draft',
          (run dialect offset {} (earlier ++ .param value :: (between ++ .param value' :: later)))[
            earlier.length + 1 + between.length]? = some (draft', some refusal) := by
  refine ⟨?_, ?_, ?_⟩
  · intro steps
    have accounted := accounted_after dialect offset steps
    refine ⟨?_, accounted.text⟩
    rw [accounted.params, Nat.min_comm, ← List.take_take, List.take_length]
  · intro earlier step later
    have outcome := (accounted_after dialect offset earlier).outcome step
    exact ⟨_, run_at dialect offset {} earlier step later, outcome, outcome.succeeds_iff,
      (after_concat dialect offset {} earlier step).symm, outcome.text_prefix⟩
  · intro earlier value between value' later draft refusal refused
    rw [run_at] at refused
    have first := (accounted_after dialect offset earlier).outcome (.param value)
    rw [Option.some.inj refused] at first
    cases first with
    | refused _ large =>
      refine ⟨rfl, ?_⟩
      -- The second literal is handed in behind the first one, so it would get a larger number.
      let before := earlier ++ .param value :: between
      have second := (accounted_after dialect offset before).outcome (.param value')
      have more : (literals earlier).length ≤ (literals before).length := by
        rw [literals_append, List.length_append]
        omega
      have place : earlier.length + 1 + between.length = before.length := by
        simp only [before, List.length_append, List.length_cons]
        omega
      have parted : earlier ++ .param value :: (between ++ .param value' :: later) =
          before ++ .param value' :: later := by simp [before]
      rw [parted, place, run_at, second.eq_refused (by omega)]
      exact ⟨_, rfl⟩

/-- One number is left: the first literal takes it, the others are refused, and the text goes on. -/
theorem run_bookkeeping_last_number :
    let steps : List Step :=
      [.param (.int 1), .text " < ", .param (.int 2), .name "a\"b", .param (.int 3)]
    let offset := Placeholder.limit - 1
    (after .postgres offset {} steps).params = [.int 1] ∧
      (after .postgres offset {} steps).text.toList = "$18446744073709551615 < \"a\"\"b\"".toList ∧
      (run .postgres offset {} steps)[2]? =
        some (⟨"$18446744073709551615 < ", [.int 1]⟩, some (.placeholderOverflow offset)) ∧
      ∃ draft', (run .postgres offset {} steps)[4]? =
        some (draft', some (.placeholderOverflow offset)) := by
  intro steps offset
  obtain ⟨whole, _, further⟩ := run_bookkeeping .postgres offset
  have refused : (run .postgres offset {} steps)[2]? =
      some (⟨"$18446744073709551615 < ", [.int 1]⟩, some (.placeholderOverflow offset)) := by
    decide +kernel
  obtain ⟨_, last⟩ := further [.param (.int 1), .text " < "] (.int 2) [.name "a\"b"] (.int 3) [] _ _ refused
  exact ⟨(whole steps).1.trans (by decide +kernel), (whole steps).2.trans (by decide +kernel),
    refused, last⟩

end RowFilter.Sql.Draft
