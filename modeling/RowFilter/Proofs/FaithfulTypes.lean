import RowFilter.Proofs.Forms

/-! # Faithful rules for types

The rules for paths, types and generic parameters are faithful if the reader for the forms inside is.  A rule
that only puts steps together is faithful because they are; a rule that looks at what it read is followed from
step to step. -/

set_option autoImplicit false

namespace RowFilter.Entity.Rule

open Reading
open HasTokens (tokensOf)

variable (again : Reader) [∀ form, Faithful (again form)]

instance : Faithful again.type := inferInstanceAs (Faithful (again _))

instance : Faithful again.tightType := inferInstanceAs (Faithful (again _))

instance : Faithful again.expression := inferInstanceAs (Faithful (again _))

instance : Faithful again.bound := inferInstanceAs (Faithful (again _))

instance : Faithful again.block := inferInstanceAs (Faithful (braces (tokens _)))

/-! ## Paths -/

theorem within_separated : ∀ (apart : Bool) (elements : List Element),
    Within (separated apart elements) (tokensOf elements)
  | _, [] => .refl _
  | apart, element :: rest => by
    have comma : Within (if apart then [] else Token.signs ",") [] := by
      cases apart
      · exact .of_passing (fun _ mem => not_lasts_of_mem_signsOf mem) _
      · exact .refl _
    exact (comma.append (.refl _)).append (within_separated _ rest)

theorem within_lifetimesFirst (elements : List Element) :
    Within (lifetimesFirst elements) (tokensOf elements) := by
  have perm := List.filter_append_perm (fun element => decide (element.written.kind = .lifetime)) elements
  intro token lasts
  have split := (perm.flatMap_right tokensOf).count_eq token
  rw [List.flatMap_append, List.count_append] at split
  have others := within_separated ((elements.filter fun element =>
    decide (element.written.kind = .lifetime)).getLast?.all fun last => decide (last.mark ≠ []))
    (elements.filter fun element => !decide (element.written.kind = .lifetime)) token lasts
  rw [lifetimesFirst, List.count_append]
  exact split ▸ Nat.add_le_add_left others _

instance : Faithful lifetimeParameter := by
  refine faithful_of_keeps fun before => keeps_bind fun first => keeps_bind fun colon => keeps_ite ?_ ?_
  · exact keeps_pure (.of_sublist (by simp))
  · refine keeps_bind fun bounds => keeps_pure ?_
    split
    · exact .of_sublist (by simp)
    · exact .refl _

instance : Faithful binder := inferInstanceAs (Faithful (inOrder [_, _, _, _]))

instance : Faithful optionalBinder := inferInstanceAs (Faithful (whenAhead _ binder))

instance (plus : Bool) : Faithful (output again plus) :=
  faithful_of_keeps fun _ => keeps_get fun _ => keeps_ite
    (keeps_bind fun _ => keeps_bind fun _ => keeps_pure (.refl _)) (keeps_pure (.refl _))

instance : Faithful (inParentheses again) :=
  faithful_of_keeps fun _ => keeps_bind fun _ => keeps_bind fun _ => keeps_pure (.refl _)

instance : Faithful (constant again) := by
  unfold constant
  infer_instance

instance : Faithful (argument again) := by
  refine faithful_of_keeps fun before => keeps_firstOf_cons keeps_of_faithful <|
    keeps_firstOf_cons keeps_of_faithful <| keeps_firstOf_cons keeps_of_faithful <|
    keeps_firstOf_cons keeps_of_faithful <| keeps_firstOf_cons (Faithful.keeps ?other) keeps_failure
  case other =>
    refine faithful_of_get fun start => keeps_bind fun type => ?_
    split
    all_goals
      refine keeps_bind fun more => keeps_ite (keeps_pure (.of_sublist ?_)) keeps_asWritten
      simp

instance : Faithful (inAngles again) := by
  refine faithful_of_keeps fun before => keeps_bind fun first => keeps_bind fun found => keeps_bind fun last => ?_
  exact keeps_pure (((Within.refl _).append (within_lifetimesFirst found)).append (.refl _))

instance (place : Place) : Faithful (segment again place) := by
  refine faithful_of_keeps fun before => keeps_get fun ahead => keeps_ite ?out ?name
  case out => exact keeps_bind fun word => keeps_pure (.of_sublist (by simp))
  case name =>
    dsimp only
    split
    all_goals
      refine keeps_bind fun name => keeps_get fun behind => keeps_ite ?_ ?_
      · exact keeps_bind fun supplied => keeps_pure (.of_sublist (by simp))
      · exact keeps_pure (.of_sublist (by simp))

theorem keeps_furtherNames {before read : List Token} (place : Place) :
    ∀ (fuel : Nat) (path : Path), Within path.tokens read →
      Keeps before read (furtherNames again place fuel path)
  | 0, path, within => keeps_pure within
  | fuel + 1, path, within => by
    refine keeps_get fun ahead => keeps_ite ?_ (keeps_pure within)
    refine keeps_bind fun colons => keeps_bind fun next => keeps_furtherNames place fuel _ ?_
    simpa [Path.extend] using (within.append (.refl colons)).append (.refl next.tokens)

instance (place : Place) : Faithful (unqualified again place) := by
  refine faithful_of_keeps fun before => keeps_bind fun leading => keeps_bind fun first => ?_
  refine keeps_get fun now => keeps_furtherNames again place _ _ (.of_sublist ?_)
  simp

instance (place : Place) : Faithful (qualified again place) := by
  have trait : Faithful (do return (← unqualified again .type).tokens) :=
    faithful_of_keeps fun _ => keeps_bind fun _ => keeps_pure (.refl _)
  refine faithful_of_keeps fun before => keeps_bind fun first => keeps_bind fun type => ?_
  refine keeps_bind fun trait => keeps_bind fun last => keeps_bind fun next => keeps_get fun now => ?_
  refine keeps_furtherNames again place _ _ (.of_sublist ?_)
  simp

instance (place : Place) : Faithful (path again place) :=
  faithful_of_keeps fun _ => keeps_get fun _ => keeps_ite keeps_of_faithful keeps_of_faithful

/-- The arguments that a path has give way to those in parentheses, so only its names go on. -/
theorem keeps_suppliedInParentheses {β : Type} [HasTokens β] {before read : List Token} {found : Path}
    {next : Path × Kind → Reading β}
    (more : ∀ (path : Path) (kind : Kind), path.names = found.names →
      Keeps before (read ++ path.arguments) (next (path, kind))) :
    Keeps before read (suppliedInParentheses again found >>= next) := by
  simp only [suppliedInParentheses, bind_assoc, pure_bind]
  refine keeps_bind fun colons => keeps_bind fun inputs => keeps_mono (.of_sublist ?_) (more _ _ rfl)
  simp

theorem keeps_typePathFrom {before read : List Token} :
    ∀ (fuel : Nat) (path : Path), Within path.tokens read →
      Keeps before read (typePathFrom again fuel path)
  | 0, path, within => keeps_pure within
  | fuel + 1, path, within => by
    refine keeps_get fun now => keeps_ite (keeps_suppliedInParentheses again fun next kind same => ?_)
      (keeps_pure within)
    have supplied : Within next.tokens (read ++ next.arguments) := by
      rw [Path.tokens_eq, same]
      exact (Within.trans (.of_sublist (by simp)) within).append (.refl _)
    refine keeps_ite (keeps_get fun now => ?_) (keeps_pure supplied)
    exact keeps_then (keeps_furtherNames again .type _ next supplied) fun longer =>
      keeps_typePathFrom fuel longer (.refl _)

instance : Faithful (typePath again) :=
  faithful_of_keeps fun _ => keeps_get fun _ => keeps_bind fun found =>
    keeps_typePathFrom again _ found (.refl _)

instance : Faithful (traitBound again) := by
  refine faithful_of_keeps fun before => keeps_bind fun first => keeps_bind fun found => keeps_get fun now => ?_
  refine keeps_ite (keeps_suppliedInParentheses again fun next kind same => keeps_pure (.of_sublist ?_))
    (keeps_pure (.refl _))
  simp [same]

instance : Faithful (bound again) := by
  unfold bound
  infer_instance

/-! ## Types -/

instance boundsUpTo_faithful (start : Ahead.Test) : ∀ fuel, Faithful (boundsUpTo again start fuel)
  | 0 => inferInstanceAs (Faithful nothing)
  | fuel + 1 => by
    have := boundsUpTo_faithful start fuel
    refine faithful_of_keeps fun before => keeps_bind fun plus => keeps_ite keeps_of_faithful ?_
    refine keeps_get fun now => keeps_ite ?_ (keeps_pure (.refl _))
    exact keeps_bind fun next => keeps_bind fun more => keeps_pure (.refl _)

instance (start : Ahead.Test) : Faithful (furtherBounds again start) :=
  faithful_of_keeps fun _ => keeps_get fun _ => keeps_of_faithful

instance (plus : Bool) : Faithful (bounds again plus) :=
  faithful_of_keeps fun _ => keeps_bind fun _ => keeps_ite
    (keeps_bind fun _ => keeps_pure (.refl _)) (keeps_pure (.refl _))

instance : Faithful (enclosed again) := by
  refine faithful_of_keeps fun before => keeps_bind fun first => keeps_get fun ahead => ?_
  have closed (inside : List Token) (kind : Enclosed) : Keeps before ([] ++ first ++ inside) (do
      let last ← expect Ahead.finished
      return (first ++ inside ++ last, kind)) := keeps_bind fun last => keeps_pure (.refl _)
  refine keeps_ite (keeps_pure_bind ?tuple) (keeps_ite ?single (keeps_ite ?relaxed ?type))
  case tuple => simpa using closed [] .tuple
  case single => exact keeps_bind fun inside => keeps_pure_bind (closed inside .single)
  case relaxed => exact keeps_bind fun inside => keeps_pure_bind (closed inside .relaxedBound)
  case type =>
    refine keeps_bind fun type => keeps_bind fun comma => keeps_ite (keeps_pure_bind ?_) ?_
    · exact keeps_mono (.of_sublist (by simp)) (closed type .single)
    · refine keeps_bind fun more => keeps_pure_bind (keeps_mono (.of_sublist ?_) (closed _ .tuple))
      simp

instance (plus : Bool) : Faithful (inBrackets again plus) := by
  refine faithful_of_keeps fun before => keeps_bind fun (first, kind) => ?_
  cases kind with
  | tuple => exact keeps_pure (.refl _)
  | single =>
    exact keeps_ite (keeps_bind fun more => keeps_pure (.refl _)) (keeps_bind fun more => keeps_pure (.refl _))
  | relaxedBound => exact keeps_bind fun more => keeps_pure (.refl _)

instance : Faithful (sequence again) := by
  unfold sequence
  infer_instance

instance : Faithful convention := by
  unfold convention
  infer_instance

instance : Faithful (dotsOrType again) := by
  unfold dotsOrType
  infer_instance

instance : Faithful (input again) := by
  refine faithful_of_keeps fun before => keeps_bind fun attributes => keeps_get fun ahead => ?_
  refine keeps_ite ?_ (keeps_ite ?_ ?_)
  all_goals exact keeps_bind fun name => keeps_bind fun type => keeps_pure (.refl _)

instance : Faithful (function again) := by
  refine faithful_of_get fun before => keeps_bind fun first => keeps_bind fun opening => ?_
  refine keeps_bind fun inputs => keeps_bind fun closing => keeps_bind fun result => ?_
  exact keeps_ite keeps_asWritten (keeps_pure (.refl _))

instance (plus : Bool) : Faithful (named again plus) := by
  refine faithful_of_keeps fun before => keeps_bind fun binder => keeps_bind fun path => ?_
  refine keeps_ite (keeps_pure (.of_sublist (by simp))) (keeps_get fun ahead => keeps_ite ?call ?sum)
  case call => exact keeps_bind fun call => keeps_pure (.of_sublist (by simp))
  case sum =>
    exact keeps_ite (keeps_bind fun more => keeps_pure (.refl _)) (keeps_bind fun more => keeps_pure (.refl _))

instance (plus : Bool) : Faithful (marked again plus) := by
  refine faithful_of_keeps fun before => keeps_get fun ahead => keeps_ite (Faithful.keeps ?_) keeps_of_faithful
  have : Faithful (do
      let _ ← take 2
      bounds again plus) := faithful_of_keeps fun _ => keeps_bind fun _ => keeps_of_faithful
  infer_instance

instance (plus : Bool) : Faithful (type again plus) := by
  unfold type
  infer_instance

/-! ## Generic parameters -/

instance parameterBoundsUpTo_faithful : ∀ fuel, Faithful (parameterBoundsUpTo again fuel)
  | 0 => faithful_of_keeps fun _ => keeps_pure (.refl _)
  | fuel + 1 => by
    have := parameterBoundsUpTo_faithful fuel
    refine faithful_of_keeps fun before => keeps_get fun ahead => keeps_ite (keeps_pure (.refl _)) ?_
    refine keeps_bind fun next => keeps_bind fun plus => keeps_ite ?last ?more
    case last => exact keeps_pure (.of_sublist (by simp))
    case more => exact keeps_bind fun more => keeps_pure (.refl _)

instance : Faithful (typeParameter again) where
  since {before last rest} run := by
    obtain ⟨first, behind, named, run⟩ := run_bind_eq_some run
    obtain ⟨colon, middle, marked, run⟩ := run_bind_eq_some run
    have front := (Faithful.since named).trans (Faithful.since marked)
    -- What comes behind the colon may be given back as it was, from here on.
    suffices tail : ∀ found : List Token × Bool, ∀ now, Since middle found.1 now → (do
        let default ← whenAhead (Ahead.sign "=") (inOrder [sign "=", again.type.tokens])
        if found.2 then
          return first ++ colon ++ middle.take (middle.length - (← get).length)
        return first ++ (if found.1 = [] then [] else colon ++ found.1) ++ default :
          Reading (List Token)).run now = some (last, rest) → Since before (tokensOf last) rest by
      obtain ⟨_, _, looked, run⟩ := run_bind_eq_some run
      cases looked
      split at run
      · exact tail ([], false) middle (.refl _) run
      · obtain ⟨found, now, bounded, run⟩ := run_bind_eq_some run
        exact tail found now (Faithful.since bounded) run
    intro (found, conditional) now since run
    obtain ⟨default, after, defaulted, run⟩ := run_bind_eq_some run
    have whole := since.trans (Faithful.since defaulted)
    cases conditional with
    | true =>
      cases run
      exact front.trans (.asWritten whole.suffix)
    | false =>
      cases run
      refine (front.trans whole).mono ?_
      dsimp
      split
      · exact .of_sublist (by simp)
      · simp [Within.refl]

instance : Faithful (constantParameter again) := by
  unfold constantParameter
  infer_instance

instance : Faithful (parameter again) :=
  faithful_of_keeps fun _ => keeps_bind fun _ => keeps_bind fun _ => keeps_pure (.refl _)

instance : Faithful (parameters again) := by
  refine faithful_of_keeps fun before => keeps_get fun ahead => keeps_ite ?_ keeps_of_faithful
  refine keeps_bind fun first => keeps_bind fun found => keeps_bind fun last => keeps_pure ?_
  split
  · exact .of_sublist (by simp)
  · exact ((Within.refl _).append (within_lifetimesFirst found)).append (.refl _)

instance : Faithful (condition again) :=
  faithful_of_keeps fun _ => keeps_get fun _ => keeps_ite keeps_of_faithful keeps_of_faithful

instance : Faithful (conditions again) := by
  refine faithful_of_keeps fun before => keeps_get fun ahead => keeps_ite ?_ keeps_of_faithful
  refine keeps_bind fun first => keeps_bind fun found => keeps_pure ?_
  split
  · exact .of_sublist (by simp)
  · exact .refl _

end RowFilter.Entity.Rule
