import RowFilter.Proofs.Outcome

/-! # Aliases as names of tables

Aliases rename the entities of a filter all at once: each column gets its table from its own entity, never
from another alias.  Where an alias may be missing, a rendering looks at entities through these tables only,
so renaming the filter beforehand comes to the same (`Filter.normal_renamed`, `Event.firstRefusal?_lenient`).
Aliases of entities that no column of the statement has are not looked at (`Filter.normal_congr`,
`Event.firstRefusal?_congr`). -/

set_option autoImplicit false

namespace RowFilter

open Sql Event

/-! ## Renaming a filter -/

theorem RightSide.map_map (first second : Column → Column) (right : RightSide) :
    (right.map first id).map second id = right.map (second ∘ first) id := by
  cases right with
  | absent => rfl
  | literal value => rfl
  | column value => rfl
  | list values => simp [map]

theorem Column.renamed_nil (column : Column) :
    column.renamed (Aliases.tableOf []) = column := rfl

theorem Condition.normal_renamed (aliases : Aliases) (condition : Condition) :
    (condition.map (Column.renamed aliases.tableOf) id).normal [] = condition.normal aliases := by
  have once : Column.renamed (Aliases.tableOf []) ∘ Column.renamed aliases.tableOf =
      Column.renamed aliases.tableOf := by
    funext column
    exact Column.renamed_nil _
  rw [normal, normal]
  by_cases empty : condition.right = .list []
  · have mapped : (condition.map (Column.renamed aliases.tableOf) id).right = .list [] := by
      rw [map_right, empty]
      rfl
    rw [if_pos empty, if_pos mapped]
    rfl
  · have mapped : (condition.map (Column.renamed aliases.tableOf) id).right ≠ .list [] := by
      intro same
      exact empty ((RightSide.map_eq_emptyList _ _).mp same)
    rw [if_neg empty, if_neg mapped]
    simp only [map, RightSide.map_map, once]
    rfl

theorem Filter.normal_renamed (aliases : Aliases) (filter : Filter) :
    (filter.map (Column.renamed aliases.tableOf) id).normal [] = filter.normal aliases := by
  induction filter with
  | leaf condition => exact condition.normal_renamed aliases
  | join connective left right ihLeft ihRight => rw [map, normal, normal, ihLeft, ihRight]

/-! ## Aliases that are looked at -/

section Congruence

variable {aliases aliases' : Aliases}

theorem Sql.Aliases.tableOf_congr {entity : String} (same : aliases'.last? entity = aliases.last? entity) :
    aliases'.tableOf entity = aliases.tableOf entity := by
  rw [tableOf, tableOf, same]

theorem Column.renamed_congr {column : Column}
    (same : aliases'.last? column.entity = aliases.last? column.entity) :
    column.renamed aliases'.tableOf = column.renamed aliases.tableOf := by
  rw [renamed, renamed, Aliases.tableOf_congr same]

theorem RightSide.map_congr {right : RightSide}
    (same : ∀ column ∈ right.columns, aliases'.last? column.entity = aliases.last? column.entity) :
    right.map (Column.renamed aliases'.tableOf) id = right.map (Column.renamed aliases.tableOf) id := by
  cases right with
  | absent => rfl
  | literal value => rfl
  | list values => rfl
  | column value =>
    have only := same value (List.mem_singleton_self value)
    rw [map, map, Column.renamed_congr only]

theorem Condition.normal_congr {condition : Condition}
    (same : ∀ column ∈ condition.columns, aliases'.last? column.entity = aliases.last? column.entity) :
    condition.normal aliases' = condition.normal aliases := by
  rw [normal, normal]
  by_cases empty : condition.right = .list []
  · rw [if_pos empty, if_pos empty]
  · rw [columns, if_neg empty, List.forall_mem_cons] at same
    rw [if_neg empty, if_neg empty, map, map, Column.renamed_congr same.1, RightSide.map_congr same.2]

theorem Filter.normal_congr {filter : Filter}
    (same : ∀ column ∈ filter.columns, aliases'.last? column.entity = aliases.last? column.entity) :
    filter.normal aliases' = filter.normal aliases := by
  induction filter with
  | leaf condition =>
    rw [columns_leaf] at same
    exact Condition.normal_congr same
  | join connective left right ihLeft ihRight =>
    rw [columns_join, List.forall_mem_append] at same
    rw [normal, normal, ihLeft same.1, ihRight same.2]

theorem RightSide.mem_events {right : RightSide} {event : Event} (member : event ∈ right.events) :
    event = .bind ∨ ∃ column ∈ right.columns, event = .lookUp column.entity := by
  cases right with
  | absent => cases member
  | literal value => exact .inl (List.mem_singleton.mp member)
  | column value => exact .inr ⟨value, List.mem_singleton_self value, List.mem_singleton.mp member⟩
  | list values =>
    obtain ⟨value, _, same⟩ := List.mem_map.mp member
    exact .inl same.symm

/-- Tables are looked up for the columns that are shown, and for nothing else. -/
theorem Filter.mem_events {filter : Filter} {event : Event} (member : event ∈ filter.events) :
    event = .bind ∨ ∃ column ∈ filter.columns, event = .lookUp column.entity := by
  obtain ⟨condition, leaf, member⟩ := List.mem_flatMap.mp member
  have shown (column : Column) (inside : column ∈ condition.columns) : column ∈ filter.columns :=
    List.mem_flatMap.mpr ⟨condition, leaf, inside⟩
  rw [Condition.events] at member
  by_cases empty : condition.right = .list []
  · rw [if_pos empty] at member
    cases member
  · rw [if_neg empty] at member
    rw [Condition.columns, if_neg empty] at shown
    rcases List.mem_cons.mp member with left | right
    · exact .inr ⟨condition.left, shown _ (List.mem_cons_self ..), left⟩
    · rcases RightSide.mem_events right with bind | ⟨column, inside, same⟩
      · exact .inl bind
      · exact .inr ⟨column, shown _ (List.mem_cons_of_mem _ inside), same⟩

end Congruence

/-! ## Refusals -/

namespace Event

variable {aliases aliases' : Aliases} {settings : Settings}

theorem firstRefusal?_congr {events : List Event}
    (same : ∀ event ∈ events, ∀ bound,
      event.Bad aliases' settings bound ↔ event.Bad aliases settings bound) (bound : Nat) :
    firstRefusal? aliases' settings bound events = firstRefusal? aliases settings bound events := by
  have found : firstRefusal? aliases' settings bound events =
      (firstRefusal? aliases settings bound events).map id :=
    firstRefusal?_map (fun event member more => same event member (bound + more)) fun _ => rfl
  rwa [Option.map_id, id] at found

/-- Where an alias may be missing, nothing but the number of literals decides what is refused. -/
theorem firstRefusal?_lenient (lenient : settings.requireAliases = false) (bound : Nat)
    (events : List Event) :
    firstRefusal? aliases settings bound events =
      firstRefusal? [] settings bound (List.replicate (events.count .bind) .bind) := by
  induction events generalizing bound with
  | nil => rfl
  | cons event later ih =>
    cases event with
    | lookUp entity =>
      have good : ¬ (lookUp entity).Bad aliases settings bound := by
        rintro ⟨required, _⟩
        rw [lenient] at required
        cases required
      rw [firstRefusal?_of_good later good, ih, List.count_cons_of_ne (by simp)]
      rfl
    | bind =>
      rw [List.count_cons_self, List.replicate_succ]
      by_cases bad : Event.bind.Bad aliases settings bound
      · have bad' : Event.bind.Bad [] settings bound := bad
        rw [firstRefusal?_of_bad later bad, firstRefusal?_of_bad _ bad']
      · have good' : ¬ Event.bind.Bad [] settings bound := bad
        rw [firstRefusal?_of_good later bad, firstRefusal?_of_good _ good', ih]

/-- What is not refused where every entity needs an alias is not refused where none does. -/
theorem allGood_lenient {bound : Nat} {events : List Event}
    (good : AllGood aliases { settings with requireAliases := true } bound events) :
    AllGood aliases { settings with requireAliases := false } bound events := by
  intro earlier event later parted bad
  have strict := good earlier event later parted
  cases event with
  | lookUp entity =>
    have required : false = true := bad.1
    cases required
  | bind => exact strict bad

end Event

/-! ## Renderings -/

/-- Where an alias may be missing, aliases amount to renaming each entity once in the filter.  A rendering
that succeeds although every entity needs an alias is the same where none does.  In either case aliases
matter only for the entities of the columns that are shown. -/
theorem Filter.render_renamed (dialect : Dialect) (aliases : Aliases) (settings : Settings)
    (filter : Filter) :
    filter.render dialect aliases { settings with requireAliases := false } =
        (filter.map (Column.renamed aliases.tableOf) id).render dialect []
          { settings with requireAliases := false } ∧
      (∀ rendered,
        filter.render dialect aliases { settings with requireAliases := true } = .ok rendered →
        filter.render dialect aliases { settings with requireAliases := false } = .ok rendered) ∧
      ∀ aliases' : Aliases,
        (∀ column ∈ filter.columns, aliases'.last? column.entity = aliases.last? column.entity) →
        filter.render dialect aliases' settings = filter.render dialect aliases settings := by
  refine ⟨?_, ?_, ?_⟩
  · let renamed := filter.map (Column.renamed aliases.tableOf) id
    have literals : renamed.literals = filter.literals := by
      rw [literals_map, List.map_id]
    have counts : renamed.events.count .bind = filter.events.count .bind := by
      rw [count_events, count_events, literals]
    rw [render_eq, render_eq, firstRefusal?_lenient rfl 0 filter.events,
      firstRefusal?_lenient rfl 0 renamed.events, counts, normal_renamed, literals]
  · intro rendered success
    rw [render_eq, verdict_eq_ok, firstRefusal?_eq_none] at success
    rw [render_eq, verdict_eq_ok, firstRefusal?_eq_none]
    exact ⟨allGood_lenient success.1, success.2⟩
  · intro aliases' same
    have bad : ∀ event ∈ filter.events, ∀ bound,
        event.Bad aliases' settings bound ↔ event.Bad aliases settings bound := by
      intro event member bound
      rcases mem_events member with rfl | ⟨column, shown, rfl⟩
      · exact Iff.rfl
      · rw [Bad, Bad, same column shown]
    rw [render_eq, render_eq, firstRefusal?_congr bad, normal_congr same]

/-- Two entities that swap their names, with aliases that are overwritten and aliases of no column. -/
theorem Filter.render_renamed_swapped :
    ∃ filter renamed : Filter,
      filter = .leaf ⟨⟨"A", "x", []⟩, .relation .lessThan, .column ⟨"B", "y", []⟩⟩ ∧
      renamed = .leaf ⟨⟨"B", "x", []⟩, .relation .lessThan, .column ⟨"A", "y", []⟩⟩ ∧
      filter.render .mysql [("A", "C"), ("A", "B"), ("B", "A")] { requireAliases := true } =
        .ok ⟨"`B`.`x` < `A`.`y`", []⟩ ∧
      filter.render .mysql [("A", "C"), ("A", "B"), ("B", "A")] {} = renamed.render .mysql [] {} ∧
      filter.render .mysql [("A", "C"), ("A", "B"), ("B", "A")] {} = .ok ⟨"`B`.`x` < `A`.`y`", []⟩ ∧
      filter.render .mysql [("B", "A"), ("C", "A"), ("A", "B")] {} = .ok ⟨"`B`.`x` < `A`.`y`", []⟩ := by
  let filter : Filter := .leaf ⟨⟨"A", "x", []⟩, .relation .lessThan, .column ⟨"B", "y", []⟩⟩
  let renamed : Filter := .leaf ⟨⟨"B", "x", []⟩, .relation .lessThan, .column ⟨"A", "y", []⟩⟩
  have strict : filter.render .mysql [("A", "C"), ("A", "B"), ("B", "A")] { requireAliases := true } =
      .ok ⟨"`B`.`x` < `A`.`y`", []⟩ := rfl
  obtain ⟨beforehand, weaker, others⟩ :=
    render_renamed .mysql [("A", "C"), ("A", "B"), ("B", "A")] {} filter
  have same := others [("B", "A"), ("C", "A"), ("A", "B")] (by decide)
  have lenient := weaker _ strict
  exact ⟨filter, renamed, rfl, rfl, strict, beforehand, lenient, same.trans lenient⟩

end RowFilter
