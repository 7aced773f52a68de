import RowFilter.Proofs.Outcome

/-! # Chains of functions

A chain of functions is recorded from its end, and a column is wrapped from the front of that record.  The two
turns cancel: in a statement the function asked for first is outermost and the one asked for last is innermost
(`Column.sql_applyAll`).  `Filter.render_leaf` says where the text of a column stands in a condition. -/

set_option autoImplicit false

namespace RowFilter

open Sql Event

/-! ## Texts of columns -/

def Sql.Dialect.bareColumn (dialect : Dialect) (table property : String) : String :=
  String.ofList (dialect.quoted table) ++ "." ++ String.ofList (dialect.quoted property)

section Texts

variable (dialect : Dialect) (aliases : Aliases) (settings : Settings)

/-- The text of a right side with the blank before it. -/
def RightSide.sql (right : RightSide) : Except FilterError String :=
  (Rendered.ofWriting (right.write dialect aliases settings)).map Rendered.sql

theorem Column.sql_eq (column : Column) :
    column.sql dialect aliases settings = (table aliases settings column.entity).map fun table =>
      column.functions.reverse.foldr dialect.applied (dialect.bareColumn table column.property) := by
  rw [sql]
  cases table aliases settings column.entity with
  | error refusal => rfl
  | ok table =>
    have bare : dialect.appendName (dialect.appendName "" table ++ ".") column.property =
        dialect.bareColumn table column.property := by
      rw [Dialect.appendName, Dialect.appendName, String.empty_append, Dialect.bareColumn]
    have text : column.functions.foldl (fun inner function => dialect.applied function inner)
        (dialect.appendName (dialect.appendName "" table ++ ".") column.property) =
        column.functions.reverse.foldr dialect.applied (dialect.bareColumn table column.property) := by
      rw [bare, List.foldr_reverse]
    exact congrArg Except.ok text

/-- Functions that are asked for later go inside those that were asked for before. -/
theorem Column.sql_applyAll (column : Column) (calls : List ScalarFunction) :
    (column.applyAll calls).sql dialect aliases settings =
      (table aliases settings column.entity).map fun table =>
        column.functions.reverse.foldr dialect.applied
          (calls.foldr dialect.applied (dialect.bareColumn table column.property)) := by
  rw [sql_eq, applyAll_eq, List.reverse_append, List.reverse_reverse]
  simp only [List.foldr_append]

theorem RightSide.sql_column (value : Column) :
    (column value).sql dialect aliases settings =
      (value.sql dialect aliases settings).map (" " ++ ·) := by
  rw [sql]
  cases text : value.sql dialect aliases settings with
  | error refusal =>
    simp only [write, Column.write, text]
    rfl
  | ok expression =>
    simp only [write, Column.write, text]
    exact congrArg (fun start => Except.ok (start ++ expression)) String.empty_append

theorem Column.sql_verdict (column : Column) :
    column.sql dialect aliases settings =
      verdict (firstRefusal? aliases settings 0 [.lookUp column.entity])
        (String.ofList (spell dialect (column.renamed aliases.tableOf).layout)) := by
  by_cases bad : (Event.lookUp column.entity).Bad aliases settings 0
  · rw [firstRefusal?_of_bad [] bad, sql_of_bad dialect aliases settings 0 bad]
    rfl
  · rw [firstRefusal?_of_good [] bad, sql_of_good dialect aliases settings 0 bad]
    rfl

theorem RightSide.sql_verdict (right : RightSide) :
    right.sql dialect aliases settings =
      verdict (firstRefusal? aliases settings 0 right.events)
        (String.ofList (spell dialect
          ((right.map (Column.renamed aliases.tableOf) id).layout settings.offset))) := by
  have writes := right.writes dialect aliases settings 0
  rw [sql, writes.ofWriting_eq]
  cases firstRefusal? aliases settings 0 right.events with
  | none => rfl
  | some refusal => rfl

/-! ## Texts of conditions -/

def Sql.enclosedText (wrapLeaves : Bool) (text : String) : String :=
  if wrapLeaves then "(" ++ text ++ ")" else text

theorem Sql.spell_enclosed_comparison (wrapLeaves : Bool) (comparator : Comparator)
    (left right : List Piece) :
    String.ofList (spell dialect
        (Normal.enclosed wrapLeaves (left ++ .space :: .comparator comparator :: right))) =
      enclosedText wrapLeaves (String.ofList (spell dialect left) ++ " " ++ comparator.spelling ++
        String.ofList (spell dialect right)) := by
  apply String.toList_inj.mp
  cases wrapLeaves with
  | false => simp [Normal.enclosed, enclosedText, spell_cons, spell_append]
  | true => simp [Normal.enclosed, enclosedText, spell_cons, spell_append]

theorem Filter.render_leaf {condition : Condition} (items : condition.right ≠ .list []) :
    (leaf condition).render dialect aliases settings =
      (condition.left.sql dialect aliases settings >>= fun left =>
        condition.right.sql dialect aliases settings >>= fun right =>
          .ok ⟨enclosedText settings.wrapLeaves (left ++ " " ++ condition.comparator.spelling ++ right),
            condition.right.literals⟩) := by
  rw [render_eq, events_leaf, literals_leaf, Condition.events, normal, Condition.normal, if_neg items,
    if_neg items, Column.sql_verdict, firstRefusal?_cons]
  symm
  apply verdict_bind
  rw [RightSide.sql_verdict, verdict_map, Normal.layout, Condition.layout, ← spell_enclosed_comparison]
  rfl

end Texts

/-- A chain `c₁, …, cₖ` on a new column is recorded as `cₖ, …, c₁`.  Its text is `c₁` of `c₂` and so on of `cₖ`
of the bare column, on the left of a condition and on the right of one; and going on with more functions
puts the text of those alone in the place of the bare column. -/
theorem Column.chain_nests (dialect : Dialect) (aliases : Aliases) (settings : Settings)
    (entity property : String) (calls : List ScalarFunction) :
    let column := applyAll ⟨entity, property, []⟩ calls
    column = ⟨entity, property, calls.reverse⟩ ∧
      column.sql dialect aliases settings = ((table aliases settings entity).map fun table =>
        calls.foldr dialect.applied (dialect.bareColumn table property)) ∧
      (∀ comparator right, right ≠ .list [] →
        (Filter.leaf ⟨column, comparator, right⟩).render dialect aliases settings =
          (column.sql dialect aliases settings >>= fun text =>
            right.sql dialect aliases settings >>= fun behind =>
              .ok ⟨enclosedText settings.wrapLeaves (text ++ " " ++ comparator.spelling ++ behind),
                right.literals⟩)) ∧
      (∀ left comparator,
        (Filter.leaf ⟨left, comparator, .column column⟩).render dialect aliases settings =
          (left.sql dialect aliases settings >>= fun before =>
            column.sql dialect aliases settings >>= fun text =>
              .ok ⟨enclosedText settings.wrapLeaves
                (before ++ " " ++ comparator.spelling ++ (" " ++ text)), []⟩)) ∧
      ∀ more, (column.applyAll more).sql dialect aliases settings =
        ((applyAll ⟨entity, property, []⟩ more).sql dialect aliases settings).map fun text =>
          calls.foldr dialect.applied text := by
  intro column
  have recorded : column = ⟨entity, property, calls.reverse⟩ := by
    simp only [column, applyAll_eq, List.append_nil]
  refine ⟨recorded, sql_applyAll dialect aliases settings ⟨entity, property, []⟩ calls, ?_, ?_, ?_⟩
  · intro comparator right items
    exact Filter.render_leaf dialect aliases settings items
  · intro left comparator
    rw [Filter.render_leaf dialect aliases settings (by simp)]
    simp only [RightSide.sql_column]
    cases left.sql dialect aliases settings with
    | error refusal => rfl
    | ok before =>
      cases column.sql dialect aliases settings with
      | error refusal => rfl
      | ok text => rfl
  · intro more
    rw [recorded, sql_applyAll, sql_applyAll, List.reverse_reverse]
    cases table aliases settings entity with
    | error refusal => rfl
    | ok table => rfl

/-- Three functions on the left, two of the other kind on the right, and one more that goes innermost. -/
theorem Column.chain_nests_both_sides :
    ∃ left right : Column,
      left = applyAll ⟨"E", "at", []⟩ [.upper, .isoDayOfWeek, .upper] ∧
      left.functions = [.upper, .isoDayOfWeek, .upper] ∧
      right = applyAll ⟨"F", "on", []⟩ [.second, .lower] ∧
      right.functions = [.lower, .second] ∧
      (Filter.leaf ⟨left, .relation .equals, .column right⟩).render .mysql [("E", "e")] {} =
        .ok ⟨"UPPER((WEEKDAY(UPPER(`e`.`at`)) + 1)) = SECOND(LOWER(`F`.`on`))", []⟩ ∧
      (right.applyAll [.year]).sql .postgres [] {} =
        .ok "FLOOR(EXTRACT(SECOND FROM LOWER(EXTRACT(YEAR FROM \"F\".\"on\"))))" := by
  obtain ⟨recorded, _, onLeft, _, _⟩ :=
    chain_nests .mysql [("E", "e")] {} "E" "at" [.upper, .isoDayOfWeek, .upper]
  obtain ⟨recorded', _, _, _, further⟩ := chain_nests .postgres [] {} "F" "on" [.second, .lower]
  have rendered := onLeft (.relation .equals) (.column (applyAll ⟨"F", "on", []⟩ [.second, .lower]))
    (by simp)
  refine ⟨_, _, rfl, ?_, rfl, ?_, rendered.trans rfl, (further [.year]).trans rfl⟩
  · exact congrArg Column.functions recorded
  · exact congrArg Column.functions recorded'

end RowFilter
