import RowFilter.Proofs.Writing

/-! # Outcome of a rendering

Rendering is refused with the refusal of the first bad event, and otherwise gives the layout of the
normal form with the literals in order: it is the verdict on the events of the filter. -/

set_option autoImplicit false

namespace RowFilter

open Sql Event

def verdict {α : Type} (refusal? : Option FilterError) (done : α) : Except FilterError α :=
  match refusal? with
  | none => .ok done
  | some refusal => .error refusal

section Verdict

variable {α β : Type}

theorem verdict_eq_ok {refusal? : Option FilterError} {done found : α} :
    verdict refusal? done = .ok found ↔ refusal? = none ∧ found = done := by
  cases refusal? with
  | none => simp [verdict, eq_comm]
  | some refusal => simp [verdict]

theorem verdict_eq_error {refusal? : Option FilterError} {done : α} {refusal : FilterError} :
    verdict refusal? done = .error refusal ↔ refusal? = some refusal := by
  cases refusal? with
  | none => simp [verdict]
  | some refusal => simp [verdict]

theorem verdict_bind (first second : Option FilterError) (value : α) (done : β)
    (next : α → Except FilterError β) (rest : next value = verdict second done) :
    (verdict first value >>= next) = verdict (first.or second) done := by
  cases first with
  | none => exact rest
  | some refusal => rfl

theorem verdict_map (refusal? : Option FilterError) (value : α) (next : α → β) :
    (verdict refusal? value >>= fun found => .ok (next found)) = verdict refusal? (next value) := by
  rw [verdict_bind refusal? none value (next value) _ rfl, Option.or_none]

end Verdict

variable (aliases : Aliases) (settings : Settings)

/-! ## Whole filters -/

/-- A writing that starts on an empty draft is refused for its first bad event, or else it gives its text and its
literals. -/
theorem Sql.Writes.ofWriting_eq {writing : Writing Unit} {events : List Event} {text : List Char}
    {params : List Literal} (writes : Writes aliases settings writing 0 events text params) :
    Rendered.ofWriting writing =
      verdict (firstRefusal? aliases settings 0 events) ⟨String.ofList text, params⟩ := by
  have added := writes.added {} rfl
  rw [Rendered.ofWriting]
  generalize firstRefusal? aliases settings 0 events = refusal? at added ⊢
  generalize writing.run {} = result at added ⊢
  cases added with
  | refused refusal left => rfl
  | all => simp [verdict]

/-- Rendering spells the layout of the normal form, unless an event is bad. -/
theorem Filter.render_eq (dialect : Dialect) (filter : Filter) :
    filter.render dialect aliases settings =
      verdict (firstRefusal? aliases settings 0 filter.events)
        ⟨String.ofList (spell dialect ((filter.normal aliases).layout settings.wrapLeaves settings.offset)),
          filter.literals⟩ :=
  (filter.writes dialect aliases settings 0).ofWriting_eq

theorem Filter.eq_of_render {dialect : Dialect} {filter : Filter} {rendered : Rendered}
    (success : filter.render dialect aliases settings = .ok rendered) :
    rendered = ⟨String.ofList (spell dialect
      ((filter.normal aliases).layout settings.wrapLeaves settings.offset)), filter.literals⟩ := by
  rw [render_eq, verdict_eq_ok] at success
  exact success.2

theorem Filter.text_of_render {dialect : Dialect} {filter : Filter} {rendered : Rendered}
    (success : filter.render dialect aliases settings = .ok rendered) :
    rendered.sql.toList =
      spell dialect ((filter.normal aliases).layout settings.wrapLeaves settings.offset) := by
  rw [eq_of_render aliases settings success, String.toList_ofList]

theorem Filter.params_of_render {dialect : Dialect} {filter : Filter} {rendered : Rendered}
    (success : filter.render dialect aliases settings = .ok rendered) :
    rendered.params = filter.literals := by
  rw [eq_of_render aliases settings success]

/-! ## The first refusal -/

def Event.complaint : Event → String
  | lookUp entity => "no alias for entity " ++ entity
  | bind =>
    "placeholder number overflows with offset " ++
      String.ofList (Text.Decimal.numeral settings.offset)

theorem Event.message_refusal (event : Event) :
    (event.refusal settings).message = "Render error: " ++ event.complaint settings := by
  cases event with
  | lookUp entity =>
    have start : "Render error: " ++ "no alias for entity " = "Render error: no alias for entity " := by
      simp
    change "Render error: no alias for entity " ++ entity =
      "Render error: " ++ ("no alias for entity " ++ entity)
    rw [← start, String.append_assoc]
  | bind =>
    have start : "Render error: " ++ "placeholder number overflows with offset " =
        "Render error: placeholder number overflows with offset " := by simp
    change "Render error: placeholder number overflows with offset " ++ _ =
      "Render error: " ++ ("placeholder number overflows with offset " ++ _)
    rw [← start, String.append_assoc]

/-- A rendering succeeds exactly when no event is bad, and it is refused for the first event that is. -/
theorem Filter.render_refused_iff_firstBad (dialect : Dialect) (filter : Filter) :
    ((∃ rendered, filter.render dialect aliases settings = .ok rendered) ↔
      AllGood aliases settings 0 filter.events) ∧
    ∀ refusal, filter.render dialect aliases settings = .error refusal ↔
      ∃ event, FirstBad aliases settings 0 filter.events event ∧
        event.refusal settings = refusal ∧
        refusal.message = "Render error: " ++ event.complaint settings := by
  rw [render_eq]
  constructor
  · rw [← firstRefusal?_eq_none]
    constructor
    · rintro ⟨rendered, success⟩
      exact (verdict_eq_ok.mp success).1
    · intro none
      exact ⟨_, verdict_eq_ok.mpr ⟨none, rfl⟩⟩
  · intro refusal
    rw [verdict_eq_error, firstRefusal?_eq_some]
    constructor
    · rintro ⟨event, first, rfl⟩
      exact ⟨event, first, rfl, message_refusal settings event⟩
    · rintro ⟨event, first, same, _⟩
      exact ⟨event, first, same⟩

end RowFilter
