import RowFilter.Proofs.Events
import RowFilter.Proofs.Layout
import RowFilter.Sql.Rendered

/-! # What a rendering writes

A rendering is written on one draft from the first parenthesis to the last.  What a part of it adds to the
draft depends on the draft only through the number of literals that it has bound: `Writes` says so of a single
writing, with the events that the writing carries out.  Writings one after the other add what each of them adds
(`Writes.andThen`), and so a whole filter adds the layout of its normal form (`Filter.writes`).  Where an event
is bad the writing ends, and the draft keeps what was written before. -/

set_option autoImplicit false

namespace RowFilter

open Sql Event

/-- What becomes of a draft to which a text and literals are to be added. -/
inductive Sql.Added (before : Draft) (text : List Char) (params : List Literal) :
    Option FilterError → EStateM.Result FilterError Draft Unit → Prop
  | all : Added before text params none
      (.ok () ⟨before.text ++ String.ofList text, before.params ++ params⟩)
  | refused (refusal : FilterError) (left : Draft) :
      Added before text params (some refusal) (.error refusal left)

/-- On a draft with `bound` literals, the writing carries out the events and adds the text and the literals, or
it is refused for the first bad event. -/
structure Sql.Writes (aliases : Aliases) (settings : Settings) (writing : Writing Unit) (bound : Nat)
    (events : List Event) (text : List Char) (params : List Literal) : Prop where
  counted : events.count .bind = params.length
  added : ∀ before : Draft, before.params.length = bound →
    Added before text params (firstRefusal? aliases settings bound events) (writing.run before)

namespace Sql.Writes

variable {aliases : Aliases} {settings : Settings} {bound : Nat}

theorem andThen {first second : Writing Unit} {events events' : List Event} {text text' : List Char}
    {params params' : List Literal} (one : Writes aliases settings first bound events text params)
    (other : Writes aliases settings second (bound + params.length) events' text' params') :
    Writes aliases settings (do first; second) bound (events ++ events') (text ++ text')
      (params ++ params') := by
  constructor
  · rw [List.count_append, one.counted, other.counted, List.length_append]
  · intro before length
    rw [firstRefusal?_append, one.counted, EStateM.run_bind]
    have start := one.added before length
    generalize firstRefusal? aliases settings bound events = refusal? at start ⊢
    generalize first.run before = result at start ⊢
    cases start with
    | refused refusal left => exact .refused refusal left
    | all =>
      let between : Draft := ⟨before.text ++ String.ofList text, before.params ++ params⟩
      have more := other.added between (by rw [List.length_append, length])
      change Added before _ _ _ (second.run between)
      rw [Option.none_or]
      generalize firstRefusal? aliases settings (bound + params.length) events' = refusal? at more ⊢
      generalize second.run between = result at more ⊢
      cases more with
      | refused refusal left => exact .refused refusal left
      | all =>
        rw [String.append_assoc, ← String.ofList_append, List.append_assoc]
        exact .all

theorem nothing : Writes aliases settings (pure ()) bound [] [] [] := by
  refine ⟨rfl, ?_⟩
  intro before _
  have same : before = ⟨before.text ++ String.ofList [], before.params ++ []⟩ := by simp
  have done : Added before [] [] none (.ok () ⟨before.text ++ String.ofList [], before.params ++ []⟩) := .all
  rw [← same] at done
  exact done

theorem push (added : String) :
    Writes aliases settings (Draft.push added) bound [] added.toList [] := by
  refine ⟨rfl, ?_⟩
  intro before _
  have done : Added before added.toList [] none
      (.ok () ⟨before.text ++ String.ofList added.toList, before.params ++ []⟩) := .all
  rw [String.ofList_toList, List.append_nil] at done
  exact done

theorem pushParam (dialect : Dialect) (value : Literal) :
    Writes aliases settings (Draft.pushParam dialect settings.offset value) bound [.bind]
      (dialect.placeholder (settings.offset + bound + 1)) [value] := by
  refine ⟨rfl, ?_⟩
  rintro before rfl
  by_cases bad : Event.bind.Bad aliases settings before.params.length
  · have large : Placeholder.limit < settings.offset + (before.params.length + 1) := bad
    rw [firstRefusal?_of_bad [] bad, Draft.run_pushParam_of_lt value (by omega)]
    exact .refused _ before
  · have small : ¬ Placeholder.limit < settings.offset + (before.params.length + 1) := bad
    rw [firstRefusal?_of_good [] bad, Draft.run_pushParam_of_le value (by omega)]
    exact .all

theorem enclosed {dialect : Dialect} {writing : Writing Unit} {events : List Event} {pieces : List Piece}
    {params : List Literal}
    (inner : Writes aliases settings writing bound events (spell dialect pieces) params) (wrapLeaves : Bool) :
    Writes aliases settings (if wrapLeaves then do Draft.push "("; writing; Draft.push ")" else writing)
      bound events (spell dialect (Normal.enclosed wrapLeaves pieces)) params := by
  cases wrapLeaves with
  | false => exact inner
  | true =>
    have whole := (push "(").andThen (inner.andThen (push ")"))
    simpa [Normal.enclosed, spell_append, spell_cons] using whole

theorem joint {dialect : Dialect} {first second : Writing Unit} {events events' : List Event}
    {pieces pieces' : List Piece} {params params' : List Literal}
    (one : Writes aliases settings first bound events (spell dialect pieces) params)
    (other : Writes aliases settings second (bound + params.length) events' (spell dialect pieces') params')
    (connective : Connective) :
    Writes aliases settings (writeJoint connective.name first second) bound (events ++ events')
      (spell dialect (.leftParen :: pieces ++ .junction connective :: pieces' ++ [.rightParen]))
      (params ++ params') := by
  have whole := (push "(").andThen (one.andThen ((push " ").andThen
    ((push connective.name).andThen ((push " ").andThen (other.andThen (push ")"))))))
  simpa [writeJoint, spell_append, spell_cons] using whole

end Sql.Writes

section Parts

variable (dialect : Dialect) (aliases : Aliases) (settings : Settings) (bound : Nat)

theorem Column.sql_of_bad {column : Column}
    (bad : (lookUp column.entity).Bad aliases settings bound) :
    column.sql dialect aliases settings = .error (.noAlias column.entity) := by
  have required : settings.requireAliases = true := bad.1
  have missing : aliases.last? column.entity = none := bad.2
  simp only [sql, table, missing, required, if_true]
  rfl

theorem Column.sql_of_good {column : Column}
    (good : ¬ (lookUp column.entity).Bad aliases settings bound) :
    column.sql dialect aliases settings =
      .ok (String.ofList (spell dialect (column.renamed aliases.tableOf).layout)) := by
  have found : table aliases settings column.entity = .ok (aliases.tableOf column.entity) := by
    rw [table, Aliases.tableOf]
    cases given : aliases.last? column.entity with
    | some table => rfl
    | none =>
      have optional : ¬ settings.requireAliases = true := fun required => good ⟨required, given⟩
      rw [if_neg optional]
      rfl
  have bare : dialect.appendName (dialect.appendName "" (aliases.tableOf column.entity) ++ ".")
      column.property =
      String.ofList (spell dialect [.name (aliases.tableOf column.entity), .dot, .name column.property]) := by
    apply String.toList_inj.mp
    simp [Dialect.appendName, spell_cons]
  rw [sql, found, layout, spell_wrapped, renamed, ← bare]
  rfl

theorem Column.writes (column : Column) :
    Writes aliases settings (column.write dialect aliases settings) bound [.lookUp column.entity]
      (spell dialect (column.renamed aliases.tableOf).layout) [] := by
  refine ⟨rfl, ?_⟩
  intro before length
  by_cases bad : (lookUp column.entity).Bad aliases settings bound
  · rw [firstRefusal?_of_bad [] bad, write, sql_of_bad dialect aliases settings bound bad]
    exact .refused _ before
  · have done : Writes aliases settings
        (Draft.push (String.ofList (spell dialect (column.renamed aliases.tableOf).layout))) bound [] _ [] :=
      .push _
    rw [String.toList_ofList] at done
    rw [firstRefusal?_of_good [] bad, write, sql_of_good dialect aliases settings bound bad]
    exact done.added before length

namespace RightSide

theorem writes_laterItems (values : List Literal) :
    Writes aliases settings (writeItems dialect settings false values) bound (values.map fun _ => .bind)
      (spell dialect
        (if values.length = 0 then [] else .comma :: slotLayout (settings.offset + bound) values.length))
      values := by
  induction values generalizing bound with
  | nil => exact .nothing
  | cons value rest ih =>
    rw [List.length_cons, if_neg (Nat.succ_ne_zero _), slotLayout_succ]
    exact (Writes.push ", ").andThen ((Writes.pushParam dialect value).andThen (ih (bound + 1)))

theorem writes_items (values : List Literal) :
    Writes aliases settings (writeItems dialect settings true values) bound (values.map fun _ => .bind)
      (spell dialect (slotLayout (settings.offset + bound) values.length)) values := by
  cases values with
  | nil => exact .nothing
  | cons value rest =>
    rw [List.length_cons, slotLayout_succ]
    exact (Writes.pushParam dialect value).andThen (writes_laterItems dialect aliases settings (bound + 1) rest)

theorem writes (right : RightSide) :
    Writes aliases settings (right.write dialect aliases settings) bound right.events
      (spell dialect ((right.map (Column.renamed aliases.tableOf) id).layout (settings.offset + bound)))
      right.literals := by
  cases right with
  | absent => exact .nothing
  | literal value =>
    have text : spell dialect ((literal value).layout (settings.offset + bound)) =
        " ".toList ++ dialect.placeholder (settings.offset + bound + 1) := by simp [layout, spell_cons]
    rw [map, id, text]
    exact (Writes.push " ").andThen (Writes.pushParam dialect value)
  | column value => exact (Writes.push " ").andThen (value.writes dialect aliases settings bound)
  | list values =>
    have items := writes_items dialect aliases settings bound values
    have whole := (Writes.push " ").andThen ((Writes.push "(").andThen (items.andThen (Writes.push ")")))
    simpa [write, map, layout, events, literals, spell_cons, spell_append] using whole

end RightSide

namespace Condition

theorem writes_of_empty {condition : Condition} (empty : condition.right = .list []) :
    Writes aliases settings (condition.write dialect aliases settings) bound []
      (spell dialect [.constant (condition.comparator = .isIn true)]) [] := by
  rw [write, if_pos empty]
  by_cases negated : condition.comparator = .isIn true
  · rw [if_pos negated, decide_eq_true negated]
    exact .push "TRUE"
  · rw [if_neg negated, decide_eq_false negated]
    exact .push "FALSE"

theorem writes_of_nonempty {condition : Condition} (items : condition.right ≠ .list []) :
    Writes aliases settings (condition.write dialect aliases settings) bound
      (.lookUp condition.left.entity :: condition.right.events)
      (spell dialect
        ((condition.map (Column.renamed aliases.tableOf) id).layout (settings.offset + bound)))
      condition.right.literals := by
  have left := condition.left.writes dialect aliases settings bound
  have right := condition.right.writes dialect aliases settings bound
  have whole := left.andThen ((Writes.push " ").andThen
    ((Writes.push condition.comparator.spelling).andThen right))
  rw [write, if_neg items, layout, spell_append, spell_cons, spell_cons]
  exact whole

end Condition

theorem Filter.accept_renderer_join (connective : Connective) (left right : Filter) :
    (join connective left right).accept (Visitor.renderer dialect aliases settings) =
      writeJoint connective.name (left.accept (Visitor.renderer dialect aliases settings))
        (right.accept (Visitor.renderer dialect aliases settings)) := by
  cases connective <;> rfl

/-- The right side of a joint counts on from the literals of the left one, in the draft as in the layout. -/
theorem Filter.writes (filter : Filter) :
    Writes aliases settings (filter.accept (Visitor.renderer dialect aliases settings)) bound filter.events
      (spell dialect ((filter.normal aliases).layout settings.wrapLeaves (settings.offset + bound)))
      filter.literals := by
  induction filter generalizing bound with
  | leaf condition =>
    rw [events_leaf, literals_leaf, Condition.events, normal, Condition.normal]
    by_cases empty : condition.right = .list []
    · rw [if_pos empty, if_pos empty, empty]
      exact (condition.writes_of_empty dialect aliases settings bound empty).enclosed settings.wrapLeaves
    · rw [if_neg empty, if_neg empty]
      exact (condition.writes_of_nonempty dialect aliases settings bound empty).enclosed settings.wrapLeaves
  | join connective left right ihLeft ihRight =>
    have whole := (ihLeft bound).joint (ihRight (bound + left.literals.length)) connective
    rw [← Nat.add_assoc] at whole
    rw [accept_renderer_join, events_join, literals_join, normal, Normal.layout, literals_normal]
    exact whole

end Parts

end RowFilter
