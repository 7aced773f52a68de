import RowFilter.Proofs.Outcome

/-! # Composition

What stands before a filter in a statement matters to it through the number of literals bound there and
through nothing else.  `Filter.render_after` says so: literals bound before the filter can be counted as a part of
the offset, and only the wording of an overflow tells the two apart.  From it comes
`Filter.render_join`: a join is rendered by rendering its sides one after the other, each as if it stood
alone. -/

set_option autoImplicit false

namespace RowFilter

open Sql Event

/-! ## Counting literals as a part of the offset -/

def FilterError.atOffset (offset : Nat) : FilterError → FilterError
  | placeholderOverflow _ => placeholderOverflow offset
  | refusal => refusal

def Sql.Settings.after (settings : Settings) (bound : Nat) : Settings :=
  { settings with offset := settings.offset + bound }

namespace Event

variable {aliases : Aliases} {settings : Settings}

theorem bad_after {bound more : Nat} {event : Event} :
    event.Bad aliases (settings.after bound) more ↔ event.Bad aliases settings (bound + more) := by
  cases event with
  | lookUp entity => exact Iff.rfl
  | bind =>
    have same : settings.offset + bound + (more + 1) = settings.offset + (bound + more + 1) := by omega
    simp only [Bad, Settings.after, same]

theorem atOffset_refusal_after (bound : Nat) (event : Event) :
    (event.refusal (settings.after bound)).atOffset settings.offset = event.refusal settings := by
  cases event <;> rfl

theorem firstRefusal?_after (bound more : Nat) (events : List Event) :
    firstRefusal? aliases settings (bound + more) events =
      (firstRefusal? aliases (settings.after bound) more events).map
        (FilterError.atOffset settings.offset) := by
  apply firstRefusal?_map
  · intro event _ further
    rw [bad_after, Nat.add_assoc]
  · exact atOffset_refusal_after bound

/-- Where nothing is refused, the last number that was given out is small enough. -/
theorem add_count_le_limit {bound : Nat} {events : List Event}
    (good : firstRefusal? aliases settings bound events = none)
    (small : settings.offset + bound ≤ Placeholder.limit) :
    settings.offset + bound + events.count .bind ≤ Placeholder.limit := by
  induction events generalizing bound with
  | nil => exact small
  | cons event later ih =>
    by_cases bad : event.Bad aliases settings bound
    · rw [firstRefusal?_of_bad later bad] at good
      cases good
    · rw [firstRefusal?_of_good later bad] at good
      have next : settings.offset + (bound + [event].count .bind) ≤ Placeholder.limit := by
        cases event with
        | lookUp entity => exact small
        | bind => exact Nat.le_of_not_lt bad
      have rest := ih good next
      rwa [Nat.add_assoc, add_count_cons, ← Nat.add_assoc]

end Event

theorem verdict_mapError {α : Type} (refusal? : Option FilterError) (done : α)
    (change : FilterError → FilterError) :
    (verdict refusal? done).mapError change = verdict (refusal?.map change) done := by
  cases refusal? <;> rfl

section Parts

variable (aliases : Aliases) (settings : Settings)

/-- A rendering behind `bound` literals is the one of a statement that counts them as a part of its offset. -/
theorem Filter.render_after (dialect : Dialect) (bound : Nat) (filter : Filter) :
    (filter.render dialect aliases (settings.after bound)).mapError (FilterError.atOffset settings.offset) =
      verdict (firstRefusal? aliases settings bound filter.events)
        ⟨String.ofList (spell dialect
          ((filter.normal aliases).layout settings.wrapLeaves (settings.offset + bound))),
          filter.literals⟩ := by
  have shifted : firstRefusal? aliases settings bound filter.events = _ := firstRefusal?_after bound 0 _
  rw [render_eq, verdict_mapError, shifted]
  rfl

theorem Filter.offset_add_params_le {dialect : Dialect} {filter : Filter} {rendered : Rendered}
    (success : filter.render dialect aliases settings = .ok rendered)
    (small : settings.offset ≤ Placeholder.limit) :
    settings.offset + rendered.params.length ≤ Placeholder.limit := by
  have params := params_of_render aliases settings success
  rw [render_eq, verdict_eq_ok] at success
  rw [params, ← count_events]
  exact add_count_le_limit success.1 small

/-! ## Joins -/

def Sql.Rendered.joined (word : String) (first second : Rendered) : Rendered :=
  ⟨"(" ++ first.sql ++ word ++ second.sql ++ ")", first.params ++ second.params⟩

def Connective.word (connective : Connective) : String := " " ++ connective.name ++ " "

theorem Sql.spell_joint (dialect : Dialect) (connective : Connective) (first second : List Piece) :
    String.ofList (spell dialect
        (.leftParen :: first ++ .junction connective :: second ++ [.rightParen])) =
      "(" ++ String.ofList (spell dialect first) ++ connective.word ++
        String.ofList (spell dialect second) ++ ")" := by
  apply String.toList_inj.mp
  simp [spell_cons, spell_append, Connective.word]

/-- A join is refused for its left side, or else for its right side behind the literals of the left
one, or else both stand in it as they are rendered alone. -/
theorem Filter.render_join (dialect : Dialect) (connective : Connective) (left right : Filter) :
    (join connective left right).render dialect aliases settings =
      (left.render dialect aliases settings >>= fun first =>
        (right.render dialect aliases (settings.after first.params.length)).mapError
            (FilterError.atOffset settings.offset) >>= fun second =>
          .ok (first.joined connective.word second)) := by
  rw [render_eq, render_eq, events_join, firstRefusal?_append, count_events, Nat.zero_add]
  symm
  apply verdict_bind
  rw [render_after, verdict_map, normal, Normal.layout, spell_joint, literals_normal, literals_join]
  rfl

/-- A conjunction and a disjunction are rendered as their sides are rendered alone, the right side with the
literals of the left one added to the offset.  An overflow on the right names the offset of the whole. -/
theorem Filter.render_join_of_sides (dialect : Dialect) (left right : Filter) :
    (∀ refusal, left.render dialect aliases settings = .error refusal →
      (left.and right).render dialect aliases settings = .error refusal ∧
        (left.or right).render dialect aliases settings = .error refusal) ∧
    ∀ first, left.render dialect aliases settings = .ok first →
      (settings.offset ≤ Placeholder.limit →
        settings.offset + first.params.length ≤ Placeholder.limit) ∧
      (∀ second, right.render dialect aliases (settings.after first.params.length) = .ok second →
        (left.and right).render dialect aliases settings = .ok (first.joined " AND " second) ∧
          (left.or right).render dialect aliases settings = .ok (first.joined " OR " second)) ∧
      ∀ refusal,
        right.render dialect aliases (settings.after first.params.length) = .error refusal →
        (left.and right).render dialect aliases settings =
            .error (refusal.atOffset settings.offset) ∧
          (left.or right).render dialect aliases settings =
            .error (refusal.atOffset settings.offset) := by
  constructor
  · intro refusal refused
    have whole (connective : Connective) :
        (join connective left right).render dialect aliases settings = .error refusal := by
      rw [render_join, refused]
      rfl
    exact ⟨whole .and, whole .or⟩
  · intro first success
    refine ⟨offset_add_params_le aliases settings success, ?_, ?_⟩
    · intro second behind
      have whole (connective : Connective) :
          (join connective left right).render dialect aliases settings =
            .ok (first.joined connective.word second) := by
        simp only [render_join, success, Bind.bind, Except.bind, behind]
        rfl
      exact ⟨whole .and, whole .or⟩
    · intro refusal behind
      have whole (connective : Connective) :
          (join connective left right).render dialect aliases settings =
            .error (refusal.atOffset settings.offset) := by
        simp only [render_join, success, Bind.bind, Except.bind, behind]
        rfl
      exact ⟨whole .and, whole .or⟩

end Parts

/-- Two numbers are left: a list of two takes them both, so a join with a further literal overflows and
a join without one does not. -/
theorem Filter.render_join_of_sides_last_numbers :
    ∃ pair single bare : Filter,
      pair.render .mysql [] { offset := Placeholder.limit - 2 } =
        .ok ⟨"`E`.`a` IN (?, ?)", [.int 1, .int 2]⟩ ∧
      (pair.and bare).render .mysql [] { offset := Placeholder.limit - 2 } =
        .ok ⟨"(`E`.`a` IN (?, ?) AND `E`.`b` IS NULL)", [.int 1, .int 2]⟩ ∧
      (pair.or single).render .mysql [] { offset := Placeholder.limit - 2 } =
        .error (.placeholderOverflow (Placeholder.limit - 2)) ∧
      (pair.and single).render .mysql [] { offset := Placeholder.limit } =
        .error (.placeholderOverflow Placeholder.limit) ∧
      Placeholder.limit - 2 + 2 ≤ Placeholder.limit := by
  let pair : Filter := leaf ⟨⟨"E", "a", []⟩, .isIn false, .list [.int 1, .int 2]⟩
  let single : Filter := leaf ⟨⟨"E", "c", []⟩, .relation .equals, .literal (.int 3)⟩
  let bare : Filter := leaf ⟨⟨"E", "b", []⟩, .isNull false, .absent⟩
  have success : pair.render .mysql [] { offset := Placeholder.limit - 2 } =
      .ok ⟨"`E`.`a` IN (?, ?)", [.int 1, .int 2]⟩ := rfl
  have success' : bare.render .mysql [] { offset := Placeholder.limit } =
      .ok ⟨"`E`.`b` IS NULL", []⟩ := rfl
  have refused : single.render .mysql [] { offset := Placeholder.limit } =
      .error (.placeholderOverflow Placeholder.limit) := rfl
  have refused' : pair.render .mysql [] { offset := Placeholder.limit } =
      .error (.placeholderOverflow Placeholder.limit) := rfl
  obtain ⟨_, around⟩ := render_join_of_sides [] { offset := Placeholder.limit - 2 } .mysql pair bare
  obtain ⟨small, joined, _⟩ := around _ success
  obtain ⟨_, around'⟩ := render_join_of_sides [] { offset := Placeholder.limit - 2 } .mysql pair single
  obtain ⟨_, _, overflow⟩ := around' _ success
  obtain ⟨first, _⟩ := render_join_of_sides [] { offset := Placeholder.limit } .mysql pair single
  exact ⟨pair, single, bare, success, (joined _ success').1, (overflow _ refused).2,
    (first _ refused').1, small (by decide)⟩

end RowFilter
