import RowFilter.Sql.Draft

/-! # Names in context

A quoted name is read back wherever it stands: the reader takes what was appended, and stops there unless the text
goes on with a quote (`Quoted.read_eq_some`).  Two names side by side are the
text of a single one, so the condition on what follows cannot be dropped. -/

set_option autoImplicit false

namespace RowFilter

open Sql RowFilter.Text

namespace Text.Quoted

variable {quote : Char} {text name rest : List Char}

/-- Reading finds a name exactly where it was written and nothing carries it on. -/
theorem read_eq_some :
    read quote text = some (name, rest) ↔ text = written quote name ++ rest ∧ rest.head? ≠ some quote := by
  constructor
  · intro found
    cases text with
    | nil => cases found
    | cons c inner =>
      rw [read] at found
      split at found
      · rename_i opened
        obtain ⟨shown, apart⟩ := eq_body_of_readBody found
        exact ⟨by rw [shown, opened]; simp [written], apart⟩
      · cases found
  · rintro ⟨rfl, apart⟩
    exact read_written quote name rest apart

end Text.Quoted

namespace Sql.Dialect

variable (dialect : Dialect)

theorem toList_appendName (buffer name following : String) :
    (dialect.appendName buffer name ++ following).toList =
      buffer.toList ++ (dialect.quoted name ++ following.toList) := by
  simp [appendName, String.toList_append]

theorem drop_appendName (buffer name following : String) :
    (dialect.appendName buffer name ++ following).toList.drop buffer.length =
      dialect.quoted name ++ following.toList := by
  rw [toList_appendName, ← String.length_toList, List.drop_left]

/-- Behind the old text stands the name, unless what follows carries it on. -/
theorem read_drop_appendName (buffer name following : String) :
    Quoted.read dialect.quote ((dialect.appendName buffer name ++ following).toList.drop buffer.length) =
      some (name.toList, following.toList) ↔ following.toList.head? ≠ some dialect.quote := by
  rw [drop_appendName, Quoted.read_eq_some]
  exact ⟨And.right, fun apart => ⟨rfl, apart⟩⟩

theorem appendName_append_inj {buffer name other following following' : String}
    (apart : following.toList.head? ≠ some dialect.quote) (apart' : following'.toList.head? ≠ some dialect.quote)
    (same : dialect.appendName buffer name ++ following = dialect.appendName buffer other ++ following') :
    name = other ∧ following = following' := by
  have read := (dialect.read_drop_appendName buffer name following).mpr apart
  have read' := (dialect.read_drop_appendName buffer other following').mpr apart'
  rw [same, read'] at read
  obtain ⟨names, rests⟩ := Prod.mk.inj (Option.some.inj read)
  exact ⟨(String.toList_inj.mp names).symm, (String.toList_inj.mp rests).symm⟩

/-- Appending a name keeps the text before it.  A reader that starts behind that text finds the name, and takes
exactly what was appended, if and only if no quote follows.  So names in front of such texts are told apart, and the
texts too. -/
theorem appendName_read_back :
    (∀ buffer name : String, ∃ pushed : String, dialect.appendName buffer name = buffer ++ pushed ∧
      ∀ following : String, following.toList.head? ≠ some dialect.quote ↔
        Quoted.read dialect.quote ((dialect.appendName buffer name ++ following).toList.drop buffer.length) =
          some (name.toList, following.toList)) ∧
    ∀ buffer name other following following' : String, following.toList.head? ≠ some dialect.quote →
      following'.toList.head? ≠ some dialect.quote →
      dialect.appendName buffer name ++ following = dialect.appendName buffer other ++ following' →
      name = other ∧ following = following' := by
  constructor
  · intro buffer name
    refine ⟨String.ofList (dialect.quoted name), rfl, ?_⟩
    intro following
    exact (dialect.read_drop_appendName buffer name following).symm
  · intro buffer name other following following' apart apart' same
    exact dialect.appendName_append_inj apart apart' same

/-- A name of two quotes in front of a dot.  A shorter name has the same text only where a quote follows. -/
theorem appendName_read_back_quotes_only :
    mysql.appendName "x = " "``" = "x = ``````" ∧
      Quoted.read mysql.quote (("x = ``````" ++ ".y").toList.drop "x = ".length) =
        some ("``".toList, ".y".toList) ∧
      mysql.appendName "x = " "``" ++ ".y" ≠ mysql.appendName "x = " "`" ++ ".``y" ∧
      mysql.appendName "x = " "``" ++ ".y" = mysql.appendName "x = " "`" ++ "``.y" := by
  obtain ⟨reads, apart⟩ := mysql.appendName_read_back
  obtain ⟨_, _, found⟩ := reads "x = " "``"
  refine ⟨rfl, (found ".y").mp (by decide), ?_, rfl⟩
  intro same
  obtain ⟨names, _⟩ := apart "x = " "``" "`" ".y" ".``y" (by decide) (by decide) same
  exact absurd names (by decide)

end Sql.Dialect

end RowFilter
