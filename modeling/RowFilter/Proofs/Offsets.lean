import RowFilter.Proofs.Dialects

/-! # Renderings at two offsets

A larger offset moves all placeholder numbers by the same amount and changes nothing else, so a rendering at
the one offset is that at the other with new numbers (`Normal.layout_shifted`).  What is refused at some offset
is refused at every larger one. -/

set_option autoImplicit false

namespace RowFilter

open Sql RowFilter.Text

/-! ## New numbers -/

namespace Sql

/-- The piece with a new number, if it is a placeholder. -/
def Piece.renumbered (renumber : Nat → Nat) : Piece → Piece
  | placeholder number => placeholder (renumber number)
  | piece => piece

/-- A text with new numbers on its placeholders: outside names, every `$` is followed by what `renumber` makes
of the number behind it.  There is none if a name is not closed. -/
def renumbered? (renumber : Nat → Nat) (text : String) : Option String :=
  (scan Dialect.postgres.quote text.toList).map fun found =>
    String.ofList (rewritten Dialect.postgres.quote
      (fun digits => '$' :: Decimal.numeral (renumber (Decimal.value digits))) found)

variable {renumber : Nat → Nat}

theorem Piece.rewritten_eq_renumbered (piece : Piece) :
    piece.rewritten Dialect.postgres.quote
        (fun digits => '$' :: Decimal.numeral (renumber (Decimal.value digits))) =
      (piece.renumbered renumber).spelled .postgres := by
  cases piece with
  | placeholder number =>
    simp only [rewritten, name?, number?, renumbered, spelled_placeholder, Decimal.value_numeral]
    rfl
  | _ => rfl

theorem spell_renumbered_mysql (pieces : List Piece) :
    spell .mysql (pieces.map (Piece.renumbered renumber)) = spell .mysql pieces := by
  rw [spell, List.flatMap_map]
  apply List.flatMap_congr
  intro piece _
  cases piece <;> rfl

theorem Piece.renumbered_of_unnumbered {piece : Piece} (unnumbered : piece.number? = none) :
    piece.renumbered renumber = piece := by
  cases piece with
  | placeholder number => cases unnumbered
  | _ => rfl

theorem map_renumbered_of_unnumbered {pieces : List Piece}
    (unnumbered : pieces.filterMap Piece.number? = []) :
    pieces.map (Piece.renumbered renumber) = pieces := by
  have same : ∀ piece ∈ pieces, piece.renumbered renumber = id piece := fun piece member =>
    piece.renumbered_of_unnumbered (List.filterMap_eq_nil_iff.mp unnumbered piece member)
  rw [List.map_congr_left same, List.map_id]

end Sql

/-! ## Layouts -/

section Layouts

/-- Numbers behind `before` are turned into the numbers behind `before'`, in the same order. -/
def Shifts (renumber : Nat → Nat) (before before' : Nat) : Prop :=
  ∀ more, renumber (before + more) = before' + more

variable {renumber : Nat → Nat} {before before' : Nat}

theorem Shifts.after (shift : Shifts renumber before before') (count : Nat) :
    Shifts renumber (before + count) (before' + count) := by
  intro more
  rw [Nat.add_assoc, shift, Nat.add_assoc]

theorem Sql.slotLayout_shifted (shift : Shifts renumber before before') (count : Nat) :
    slotLayout before' count = (slotLayout before count).map (Piece.renumbered renumber) := by
  fun_induction slotLayout before count generalizing before' with
  | case1 => rfl
  | case2 before => rw [slotLayout, List.map_singleton, Piece.renumbered, shift]
  | case3 before count ih =>
    rw [slotLayout, ih (shift.after 1)]
    simp only [List.map_cons, Piece.renumbered, shift 1]

theorem RightSide.layout_shifted (shift : Shifts renumber before before') (right : RightSide) :
    right.layout before' = (right.layout before).map (Piece.renumbered renumber) := by
  cases right with
  | absent => rfl
  | literal value => simp only [layout, List.map_cons, List.map_nil, Piece.renumbered, shift 1]
  | column value =>
    simp only [layout, List.map_cons, Piece.renumbered, map_renumbered_of_unnumbered value.numbers_layout]
  | list values =>
    simp only [layout, List.map_append, List.map_cons, List.map_nil, Piece.renumbered,
      slotLayout_shifted shift]

theorem Condition.layout_shifted (shift : Shifts renumber before before') (condition : Condition) :
    condition.layout before' = (condition.layout before).map (Piece.renumbered renumber) := by
  simp only [layout, List.map_append, List.map_cons, Piece.renumbered,
    map_renumbered_of_unnumbered condition.left.numbers_layout, condition.right.layout_shifted shift]

theorem Normal.enclosed_renumbered (wrapLeaves : Bool) (pieces : List Piece) :
    (enclosed wrapLeaves pieces).map (Piece.renumbered renumber) =
      enclosed wrapLeaves (pieces.map (Piece.renumbered renumber)) := by
  cases wrapLeaves with
  | false => rfl
  | true => simp [enclosed, Piece.renumbered]

/-- The layout behind other literals is the same one with other numbers. -/
theorem Normal.layout_shifted (shift : Shifts renumber before before') (wrapLeaves : Bool)
    (normal : Normal) :
    normal.layout wrapLeaves before' =
      (normal.layout wrapLeaves before).map (Piece.renumbered renumber) := by
  induction normal generalizing before before' with
  | constant value =>
    rw [layout, layout, enclosed_renumbered]
    rfl
  | leaf condition => rw [layout, layout, enclosed_renumbered, condition.layout_shifted shift]
  | join connective left right ihLeft ihRight =>
    simp only [layout, List.map_append, List.map_cons, List.map_nil, Piece.renumbered, ihLeft shift,
      ihRight (shift.after left.literals.length)]

end Layouts

/-! ## Refusals -/

namespace Event

variable {aliases : Aliases} {settings : Settings} {m n : Nat}

theorem bad_mono (smaller : m ≤ n) {bound : Nat} {event : Event}
    (bad : event.Bad aliases { settings with offset := m } bound) :
    event.Bad aliases { settings with offset := n } bound := by
  cases event with
  | lookUp entity => exact bad
  | bind =>
    have large : Placeholder.limit < m + (bound + 1) := bad
    exact Nat.lt_of_lt_of_le large (Nat.add_le_add_right smaller _)

theorem allGood_anti (smaller : m ≤ n) {bound : Nat} {events : List Event}
    (good : AllGood aliases { settings with offset := n } bound events) :
    AllGood aliases { settings with offset := m } bound events := by
  intro earlier event later parted bad
  exact good earlier event later parted (bad_mono smaller bad)

end Event

/-! ## Both renderings -/

theorem Filter.renumbered?_of_render {aliases : Aliases} {settings : Settings} {filter : Filter}
    {earlier : Rendered} {renumber : Nat → Nat} {n : Nat} (shift : Shifts renumber settings.offset n)
    (success : filter.render .postgres aliases settings = .ok earlier) :
    renumbered? renumber earlier.sql =
      some (String.ofList (spell .postgres ((filter.normal aliases).layout settings.wrapLeaves n))) := by
  have texts : ((filter.normal aliases).layout settings.wrapLeaves settings.offset).flatMap
      (Piece.rewritten Dialect.postgres.quote
        fun digits => '$' :: Decimal.numeral (renumber (Decimal.value digits))) =
      spell .postgres ((filter.normal aliases).layout settings.wrapLeaves n) := by
    rw [Normal.layout_shifted shift, spell, List.flatMap_map]
    apply List.flatMap_congr
    intro piece _
    exact piece.rewritten_eq_renumbered
  rw [renumbered?, scan_of_render success, Option.map_some, rewritten_lexemes, texts]

/-- What can be rendered at an offset can be rendered at every smaller one, with the same literals.  Without
numbers the texts are the same; with numbers, the text at the larger offset is the one at the smaller offset in
which each placeholder `$(m + i)` outside names has become `$(n + i)`.  So a filter that is refused at the
smaller offset is refused at the larger. -/
theorem Filter.render_shifted (aliases : Aliases) (settings : Settings) (filter : Filter) {m n : Nat}
    (smaller : m ≤ n) :
    (∀ dialect later, filter.render dialect aliases { settings with offset := n } = .ok later →
      ∃ earlier, filter.render dialect aliases { settings with offset := m } = .ok earlier ∧
        earlier.params = later.params ∧
        (dialect = .mysql → earlier.sql = later.sql) ∧
        (dialect = .postgres → ∀ renumber : Nat → Nat, (∀ i, renumber (m + i) = n + i) →
          renumbered? renumber earlier.sql = some later.sql)) ∧
    ∀ dialect refusal, filter.render dialect aliases { settings with offset := m } = .error refusal →
      ∃ refusal', filter.render dialect aliases { settings with offset := n } = .error refusal' := by
  have downwards (dialect : Dialect) (later : Rendered)
      (success : filter.render dialect aliases { settings with offset := n } = .ok later) :
      ∃ earlier, filter.render dialect aliases { settings with offset := m } = .ok earlier := by
    rw [render_eq, verdict_eq_ok, Event.firstRefusal?_eq_none] at success
    have good := Event.allGood_anti smaller success.1
    rw [← Event.firstRefusal?_eq_none] at good
    rw [render_eq, good]
    exact ⟨_, rfl⟩
  constructor
  · intro dialect later success
    obtain ⟨earlier, success'⟩ := downwards dialect later success
    refine ⟨earlier, success', ?_, ?_, ?_⟩
    · rw [params_of_render _ _ success, params_of_render _ _ success']
    · rintro rfl
      have shift : Shifts (fun number => number - m + n) m n := by
        intro more
        change m + more - m + n = n + more
        omega
      rw [eq_of_render _ _ success, eq_of_render _ _ success', Normal.layout_shifted shift,
        spell_renumbered_mysql]
    · rintro rfl renumber shift
      have numbers : Shifts renumber ({ settings with offset := m } : Settings).offset n := shift
      rw [renumbered?_of_render numbers success', eq_of_render _ _ success]
  · intro dialect refusal refused
    cases call : filter.render dialect aliases { settings with offset := n } with
    | error refusal' => exact ⟨refusal', rfl⟩
    | ok later =>
      obtain ⟨earlier, success⟩ := downwards dialect later call
      rw [refused] at success
      cases success

/-- Numbers that get a digit more, next to a name that looks like one of them; and one number too many. -/
theorem Filter.render_shifted_more_digits :
    ∃ filter : Filter, 0 ≤ 8 ∧
      filter.render .postgres [] { offset := 8 } =
        .ok ⟨"(\"E\".\"$1\" = $9 AND \"E\".\"b\" IN ($10, $11))", [.int 1, .int 2, .int 3]⟩ ∧
      filter.render .postgres [] { offset := 0 } =
        .ok ⟨"(\"E\".\"$1\" = $1 AND \"E\".\"b\" IN ($2, $3))", [.int 1, .int 2, .int 3]⟩ ∧
      renumbered? (· + 8) "(\"E\".\"$1\" = $1 AND \"E\".\"b\" IN ($2, $3))" =
        some "(\"E\".\"$1\" = $9 AND \"E\".\"b\" IN ($10, $11))" ∧
      Placeholder.limit - 2 ≤ Placeholder.limit ∧
      filter.render .mysql [] { offset := Placeholder.limit - 2 } =
        .error (.placeholderOverflow (Placeholder.limit - 2)) ∧
      ∃ refusal, filter.render .mysql [] { offset := Placeholder.limit } = .error refusal := by
  let filter : Filter := .join .and (.leaf ⟨⟨"E", "$1", []⟩, .relation .equals, .literal (.int 1)⟩)
    (.leaf ⟨⟨"E", "b", []⟩, .isIn false, .list [.int 2, .int 3]⟩)
  have later : filter.render .postgres [] { offset := 8 } =
      .ok ⟨"(\"E\".\"$1\" = $9 AND \"E\".\"b\" IN ($10, $11))", [.int 1, .int 2, .int 3]⟩ := rfl
  have earlier : filter.render .postgres [] { offset := 0 } =
      .ok ⟨"(\"E\".\"$1\" = $1 AND \"E\".\"b\" IN ($2, $3))", [.int 1, .int 2, .int 3]⟩ := rfl
  have refused : filter.render .mysql [] { offset := Placeholder.limit - 2 } =
      .error (.placeholderOverflow (Placeholder.limit - 2)) := rfl
  obtain ⟨downwards, _⟩ := render_shifted [] {} filter (by decide : 0 ≤ 8)
  obtain ⟨_, found, _, _, renumbered⟩ := downwards .postgres _ later
  rw [earlier] at found
  cases found
  have last : Placeholder.limit - 2 ≤ Placeholder.limit := by decide
  obtain ⟨_, upwards⟩ := render_shifted [] {} filter last
  have numbers (i : Nat) : 0 + i + 8 = 8 + i := by omega
  exact ⟨filter, by decide, later, earlier, renumbered rfl (· + 8) numbers, last, refused,
    upwards .mysql _ refused⟩

end RowFilter
