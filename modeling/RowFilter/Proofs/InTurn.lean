import RowFilter.Proofs.Composition

/-! # Filters rendered in turn

Filters are rendered in turn when each of them counts on from the literals of those before it.  A refusal
names the offset at which its filter was rendered, so it is worded anew where the filters are parts of a larger
one. -/

set_option autoImplicit false

namespace RowFilter

open Sql

/-- Each filter as it is rendered alone behind the literals of those before it. -/
def Filter.renderInTurn (dialect : Dialect) (aliases : Aliases) :
    Settings → List Filter → Except FilterError (List Rendered)
  | _, [] => .ok []
  | settings, part :: rest => do
    let first ← part.render dialect aliases settings
    let others ← renderInTurn dialect aliases (settings.after first.params.length) rest
    .ok (first :: others)

/-! ## Offsets of refusals -/

@[simp] theorem FilterError.atOffset_atOffset (inner outer : Nat) (refusal : FilterError) :
    (refusal.atOffset inner).atOffset outer = refusal.atOffset outer := by
  cases refusal <;> rfl

section Rewording

variable {α : Type} (change : FilterError → FilterError)

theorem FilterError.mapError_ok (done : α) : (Except.ok done).mapError change = .ok done := rfl

theorem FilterError.mapError_error (refusal : FilterError) :
    (Except.error refusal : Except FilterError α).mapError change = .error (change refusal) := rfl

end Rewording

theorem Sql.Settings.after_zero (settings : Settings) : settings.after 0 = settings := rfl

theorem Sql.Settings.after_after (settings : Settings) (first second : Nat) :
    (settings.after first).after second = settings.after (first + second) := by
  simp only [after, Nat.add_assoc]

section

variable {dialect : Dialect} {aliases : Aliases} {settings : Settings}

theorem Filter.atOffset_of_render {filter : Filter} {refusal : FilterError}
    (refused : filter.render dialect aliases settings = .error refusal) :
    refusal.atOffset settings.offset = refusal := by
  rw [render_eq, verdict_eq_error, Event.firstRefusal?_eq_some] at refused
  obtain ⟨event, _, rfl⟩ := refused
  cases event <;> rfl

/-! ## Lists of filters -/

namespace Filter

theorem length_of_renderInTurn {parts : List Filter} {texts : List Rendered}
    (success : renderInTurn dialect aliases settings parts = .ok texts) :
    texts.length = parts.length := by
  induction parts generalizing settings texts with
  | nil =>
    cases success
    rfl
  | cons part rest ih =>
    obtain ⟨first, _, success⟩ := FilterError.bind_eq_ok.mp success
    obtain ⟨others, later, same⟩ := FilterError.bind_eq_ok.mp success
    cases same
    rw [List.length_cons, List.length_cons, ih later]

theorem renderInTurn_append (first rest : List Filter) :
    renderInTurn dialect aliases settings (first ++ rest) =
      (renderInTurn dialect aliases settings first >>= fun before =>
        renderInTurn dialect aliases
            (settings.after (before.flatMap Rendered.params).length) rest >>= fun behind =>
          .ok (before ++ behind)) := by
  induction first generalizing settings with
  | nil =>
    simp only [List.nil_append, renderInTurn, Bind.bind, Except.bind, List.flatMap_nil, List.length_nil,
      Settings.after_zero]
    cases renderInTurn dialect aliases settings rest <;> rfl
  | cons part more ih =>
    rw [List.cons_append, renderInTurn, renderInTurn]
    cases part.render dialect aliases settings with
    | error refusal => rfl
    | ok head =>
      simp only [Bind.bind, Except.bind, ih]
      cases renderInTurn dialect aliases (settings.after head.params.length) more with
      | error refusal => rfl
      | ok before =>
        simp only [List.flatMap_cons, List.length_append, Settings.after_after]
        cases renderInTurn dialect aliases
          (settings.after (head.params.length + (before.flatMap Rendered.params).length)) rest <;> rfl

end Filter

end

end RowFilter
