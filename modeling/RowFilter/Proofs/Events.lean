import RowFilter.Proofs.Parts

/-! # What a rendering has to carry out

The events of a filter, from left to right: each column that is shown needs a table, and each literal
needs a number for its placeholder.  An event is bad when its table or its number is refused.  Whether a
number is refused depends on the literals bound before, so badness is relative to their count.
`firstRefusal?` looks for the first bad event; `firstRefusal?_eq_none` and `firstRefusal?_eq_some` say in
terms of positions in the list what it finds. -/

set_option autoImplicit false

namespace RowFilter

open Sql

inductive Event where
  /-- The table of an entity is looked up. -/
  | lookUp (entity : String)
  /-- A literal gets its placeholder. -/
  | bind
  deriving DecidableEq

def RightSide.events : RightSide → List Event
  | absent => []
  | literal _ => [.bind]
  | column value => [.lookUp value.entity]
  | list values => values.map fun _ => .bind

/-- The left column comes before the right side.  A list without items leaves nothing to carry out. -/
def Condition.events (condition : Condition) : List Event :=
  if condition.right = .list [] then []
  else .lookUp condition.left.entity :: condition.right.events

def Filter.events (filter : Filter) : List Event := filter.conditions.flatMap Condition.events

theorem Filter.events_leaf (condition : Condition) : (leaf condition).events = condition.events := by
  simp [events, conditions]

theorem Filter.events_join (connective : Connective) (left right : Filter) :
    (join connective left right).events = left.events ++ right.events := by
  simp [events, conditions]

theorem RightSide.count_events (right : RightSide) :
    right.events.count .bind = right.literals.length := by
  cases right with
  | absent => rfl
  | literal value => rfl
  | column value => rfl
  | list values =>
    rw [events, literals, List.count_eq_length.mpr, List.length_map]
    intro event member
    obtain ⟨value, _, same⟩ := List.mem_map.mp member
    exact same

theorem Condition.count_events (condition : Condition) :
    condition.events.count .bind = condition.right.literals.length := by
  rw [events]
  split
  · rename_i empty
    rw [empty]
    rfl
  · rw [List.count_cons_of_ne (by simp), RightSide.count_events]

theorem Filter.count_events (filter : Filter) :
    filter.events.count .bind = filter.literals.length := by
  induction filter with
  | leaf condition => rw [events_leaf, literals_leaf, Condition.count_events]
  | join connective left right ihLeft ihRight =>
    rw [events_join, literals_join, List.count_append, List.length_append, ihLeft, ihRight]

namespace Event

section Refusals

variable (aliases : Aliases) (settings : Settings)

/-- An event that is refused when `bound` literals have been bound before it. -/
def Bad (bound : Nat) : Event → Prop
  | lookUp entity => settings.requireAliases = true ∧ aliases.last? entity = none
  | bind => Placeholder.limit < settings.offset + (bound + 1)

instance (bound : Nat) : (event : Event) → Decidable (event.Bad aliases settings bound)
  | lookUp _ => inferInstanceAs (Decidable (_ ∧ _))
  | bind => inferInstanceAs (Decidable (_ < _))

def refusal : Event → FilterError
  | lookUp entity => .noAlias entity
  | bind => .placeholderOverflow settings.offset

def AllGood (bound : Nat) (events : List Event) : Prop :=
  ∀ earlier event later, events = earlier ++ event :: later →
    ¬ event.Bad aliases settings (bound + earlier.count .bind)

def FirstBad (bound : Nat) (events : List Event) (event : Event) : Prop :=
  ∃ earlier later, events = earlier ++ event :: later ∧
    event.Bad aliases settings (bound + earlier.count .bind) ∧ AllGood aliases settings bound earlier

def firstRefusal? : Nat → List Event → Option FilterError
  | _, [] => none
  | bound, event :: later =>
    if event.Bad aliases settings bound then some (event.refusal settings)
    else firstRefusal? (bound + [event].count .bind) later

end Refusals

theorem add_count_cons (bound : Nat) (event : Event) (earlier : List Event) :
    bound + (event :: earlier).count .bind = bound + [event].count .bind + earlier.count .bind := by
  rw [← List.singleton_append, List.count_append, Nat.add_assoc]

variable {aliases : Aliases} {settings : Settings}

theorem firstRefusal?_of_bad {bound : Nat} {event : Event} (later : List Event)
    (bad : event.Bad aliases settings bound) :
    firstRefusal? aliases settings bound (event :: later) = some (event.refusal settings) := by
  rw [firstRefusal?, if_pos bad]

theorem firstRefusal?_of_good {bound : Nat} {event : Event} (later : List Event)
    (good : ¬ event.Bad aliases settings bound) :
    firstRefusal? aliases settings bound (event :: later) =
      firstRefusal? aliases settings (bound + [event].count .bind) later := by
  rw [firstRefusal?, if_neg good]

theorem firstRefusal?_append (bound : Nat) (first second : List Event) :
    firstRefusal? aliases settings bound (first ++ second) =
      (firstRefusal? aliases settings bound first).or
        (firstRefusal? aliases settings (bound + first.count .bind) second) := by
  induction first generalizing bound with
  | nil => rfl
  | cons event rest ih =>
    rw [List.cons_append]
    by_cases bad : event.Bad aliases settings bound
    · rw [firstRefusal?_of_bad _ bad, firstRefusal?_of_bad _ bad, Option.some_or]
    · rw [firstRefusal?_of_good _ bad, firstRefusal?_of_good _ bad, ih, Nat.add_assoc,
        ← List.count_append, List.singleton_append]

theorem firstRefusal?_cons (bound : Nat) (event : Event) (later : List Event) :
    firstRefusal? aliases settings bound (event :: later) =
      (firstRefusal? aliases settings bound [event]).or
        (firstRefusal? aliases settings (bound + [event].count .bind) later) :=
  firstRefusal?_append bound [event] later

/-- Where the same events are bad, the same one is found; only the wording of its refusal can change. -/
theorem firstRefusal?_map {aliases' : Aliases} {settings' : Settings} {bound bound' : Nat}
    {events : List Event} {change : FilterError → FilterError}
    (same : ∀ event ∈ events, ∀ more,
      event.Bad aliases' settings' (bound' + more) ↔ event.Bad aliases settings (bound + more))
    (worded : ∀ event : Event, change (event.refusal settings) = event.refusal settings') :
    firstRefusal? aliases' settings' bound' events =
      (firstRefusal? aliases settings bound events).map change := by
  induction events generalizing bound bound' with
  | nil => rfl
  | cons event later ih =>
    rw [List.forall_mem_cons] at same
    have first : event.Bad aliases' settings' bound' ↔ event.Bad aliases settings bound := same.1 0
    by_cases bad : event.Bad aliases settings bound
    · rw [firstRefusal?_of_bad later bad, firstRefusal?_of_bad later (first.mpr bad), Option.map_some,
        worded]
    · rw [firstRefusal?_of_good later bad, firstRefusal?_of_good later (mt first.mp bad)]
      apply ih
      intro other member more
      have shifted := same.2 other member ([event].count .bind + more)
      rwa [← Nat.add_assoc, ← Nat.add_assoc] at shifted

theorem allGood_nil (bound : Nat) : AllGood aliases settings bound [] := by
  intro earlier event later parted
  simp at parted

theorem allGood_cons {bound : Nat} {event : Event} {rest : List Event} :
    AllGood aliases settings bound (event :: rest) ↔
      ¬ event.Bad aliases settings bound ∧
        AllGood aliases settings (bound + [event].count .bind) rest := by
  constructor
  · intro good
    refine ⟨good [] event rest rfl, ?_⟩
    intro earlier next later parted
    have shifted := good (event :: earlier) next later (by rw [parted, List.cons_append])
    rwa [add_count_cons] at shifted
  · rintro ⟨head, tail⟩ earlier next later parted
    cases earlier with
    | nil =>
      obtain ⟨rfl, _⟩ := List.cons.inj parted
      exact head
    | cons first earlier =>
      obtain ⟨rfl, rests⟩ := List.cons.inj parted
      rw [add_count_cons]
      exact tail earlier next later rests

theorem firstBad_cons {bound : Nat} {event found : Event} {rest : List Event} :
    FirstBad aliases settings bound (event :: rest) found ↔
      event.Bad aliases settings bound ∧ found = event ∨
        ¬ event.Bad aliases settings bound ∧
          FirstBad aliases settings (bound + [event].count .bind) rest found := by
  constructor
  · rintro ⟨earlier, later, parted, bad, good⟩
    cases earlier with
    | nil =>
      obtain ⟨rfl, _⟩ := List.cons.inj parted
      exact .inl ⟨bad, rfl⟩
    | cons first earlier =>
      obtain ⟨rfl, rests⟩ := List.cons.inj parted
      obtain ⟨head, tail⟩ := allGood_cons.mp good
      rw [add_count_cons] at bad
      exact .inr ⟨head, earlier, later, rests, bad, tail⟩
  · rintro (⟨bad, rfl⟩ | ⟨head, earlier, later, rfl, bad, tail⟩)
    · exact ⟨[], rest, rfl, bad, allGood_nil bound⟩
    · refine ⟨event :: earlier, later, rfl, ?_, allGood_cons.mpr ⟨head, tail⟩⟩
      rwa [add_count_cons]

theorem firstRefusal?_eq_none {bound : Nat} {events : List Event} :
    firstRefusal? aliases settings bound events = none ↔ AllGood aliases settings bound events := by
  induction events generalizing bound with
  | nil => exact iff_of_true rfl (allGood_nil bound)
  | cons event rest ih =>
    rw [allGood_cons]
    by_cases bad : event.Bad aliases settings bound
    · simp [firstRefusal?_of_bad rest bad, bad]
    · rw [firstRefusal?_of_good rest bad, ih]
      simp [bad]

theorem firstRefusal?_eq_some {bound : Nat} {events : List Event} {refusal : FilterError} :
    firstRefusal? aliases settings bound events = some refusal ↔
      ∃ event, FirstBad aliases settings bound events event ∧ event.refusal settings = refusal := by
  induction events generalizing bound with
  | nil =>
    constructor
    · intro none
      cases none
    · rintro ⟨event, ⟨earlier, later, parted, _⟩, _⟩
      simp at parted
  | cons event rest ih =>
    by_cases bad : event.Bad aliases settings bound
    · simp [firstRefusal?_of_bad rest bad, bad, firstBad_cons]
    · rw [firstRefusal?_of_good rest bad, ih]
      simp [bad, firstBad_cons]

end Event

end RowFilter
