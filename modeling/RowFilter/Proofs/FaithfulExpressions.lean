import RowFilter.Proofs.FaithfulTypes

/-! # Faithful rules for patterns and expressions

A numbered field is written in another way and three dots of a range become others; neither are tokens that
last. -/

set_option autoImplicit false

namespace RowFilter.Entity.Rule

open Reading
open HasTokens (tokensOf)

variable (again : Reader) [∀ form, Faithful (again form)]

/-! ## Patterns -/

instance : Faithful rangeMark := by
  have dots : Faithful (do
      let _ ← sign "..."
      return Token.signs "..=") :=
    faithful_of_keeps fun _ => keeps_bind fun _ =>
      keeps_pure (.of_passing (fun _ mem => not_lasts_of_mem_signsOf mem) _)
  unfold rangeMark
  infer_instance

theorem not_lasts_of_fieldNumber? {text : List Char} {written : Token}
    (found : fieldNumber? text = some written) : ¬ written.Lasts := by
  obtain ⟨value, -, rfl⟩ := Option.map_eq_some_iff.mp found
  exact id

instance : Faithful field := by
  refine faithful_of_get fun before => ?_
  split
  case h_1 text rest =>
    split
    case h_1 written found =>
      refine keeps_set (.one _ _) (keeps_pure (.of_passing ?_ _))
      simpa using not_lasts_of_fieldNumber? found
    case h_2 => exact keeps_failure
  case h_2 => exact keeps_of_faithful

instance : Faithful (alternatives again) := by
  refine faithful_of_keeps fun before => keeps_bind fun leading => keeps_bind fun first => ?_
  refine keeps_bind fun more => keeps_ite (keeps_pure (.of_sublist ?_)) (keeps_pure (.refl _))
  simp

instance : Faithful (patterns again) := inferInstanceAs (Faithful (listed _ _ _))

instance : Faithful constantBlock := inferInstanceAs (Faithful (inOrder [_, _]))

instance : Faithful (rangeEnd again) := by
  have name : Faithful (do return ⟨(← path again .expression).tokens, .plain⟩ : Reading Written) :=
    faithful_of_keeps fun _ => keeps_bind fun _ => keeps_pure (.refl _)
  exact faithful_of_keeps fun _ => keeps_bind fun _ => keeps_bind fun _ => keeps_pure (.refl _)

theorem keeps_rangeFrom {before first : List Token} :
    Keeps before first (rangeFrom again before first) := by
  refine keeps_bind fun mark => keeps_get fun now => keeps_ite keeps_asWritten ?_
  exact keeps_bind fun last => keeps_pure (.refl _)

instance : Faithful (literalPattern again) :=
  faithful_of_get fun _ => keeps_bind fun _ => keeps_get fun _ => keeps_ite
    (keeps_rangeFrom again) (keeps_pure (.refl _))

instance : Faithful (fieldPattern again) := by
  refine faithful_of_keeps fun before => keeps_bind fun first => keeps_bind fun found => ?_
  exact keeps_get fun ahead => keeps_ite (keeps_bind fun pattern => keeps_pure (.refl _)) (keeps_pure (.refl _))

instance fieldPatternsUpTo_faithful : ∀ fuel, Faithful (fieldPatternsUpTo again fuel)
  | 0 => faithful_of_keeps fun _ => keeps_pure (.refl _)
  | fuel + 1 => by
    have := fieldPatternsUpTo_faithful fuel
    refine faithful_of_keeps fun before => keeps_get fun ahead => keeps_ite (keeps_pure (.refl _)) ?_
    refine keeps_get fun ahead => keeps_ite ?_ ?_
    all_goals
      refine keeps_bind fun next => keeps_bind fun comma => keeps_ite (keeps_pure (.refl _)) ?_
      exact keeps_bind fun more => keeps_pure (.refl _)

instance : Faithful (inBraces again) := by
  refine faithful_of_keeps fun before => keeps_bind fun first => keeps_get fun now => ?_
  exact keeps_bind fun found => keeps_bind fun last => keeps_pure (.refl _)

instance : Faithful (pathPattern again) := by
  refine faithful_of_get fun before => keeps_bind fun found => keeps_get fun ahead => keeps_ite ?call ?_
  case call => exact keeps_bind fun call => keeps_pure (.refl _)
  refine keeps_ite (keeps_rangeFrom again) ?_
  exact keeps_bind fun more => keeps_ite keeps_asWritten (keeps_pure (.refl _))

instance : Faithful (namePattern again) := by
  unfold namePattern
  infer_instance

instance : Faithful (openRange again) := by
  refine faithful_of_get fun before => keeps_bind fun mark => keeps_get fun now => ?_
  exact keeps_ite (keeps_pure (.refl _)) (keeps_bind fun last => keeps_asWritten)

instance : Faithful (pattern again) := by
  unfold pattern
  infer_instance

/-! ## Expressions -/

instance : Faithful (expressions again) := inferInstanceAs (Faithful (listed _ _ _))

instance {step : Reading (List Token)} [Faithful step] : Faithful (labelled step) :=
  inferInstanceAs (Faithful (inOrder [_, _, _]))

theorem not_lasts_of_mem_nestedFields {token : Token} :
    ∀ {parts : List String} {written : List Token}, nestedFields parts = some written →
      token ∈ written → ¬ token.Lasts
  | [], _, found, mem => by
    cases found
    nomatch mem
  | [part], _, found, mem => by
    obtain ⟨number, read, rfl⟩ := Option.map_eq_some_iff.mp found
    rw [List.mem_singleton.mp mem]
    exact not_lasts_of_fieldNumber? read
  | part :: other :: rest, written, found, mem => by
    obtain ⟨number, read, found⟩ := Option.bind_eq_some_iff.mp found
    obtain ⟨more, others, found⟩ := Option.bind_eq_some_iff.mp found
    cases found
    rcases List.mem_cons.mp mem with rfl | mem
    · exact not_lasts_of_fieldNumber? read
    rcases List.mem_cons.mp mem with rfl | mem
    · exact id
    · exact not_lasts_of_mem_nestedFields others mem

instance : Faithful pointedFields := by
  refine faithful_of_get fun before => ?_
  split
  case h_1 text rest =>
    dsimp only
    split
    case h_1 written found =>
      refine keeps_set (.one _ _) (keeps_pure (.of_passing (fun token mem => ?_) _))
      have point : token ∈ written ++ Token.signs "." := by
        dsimp at mem
        split at mem
        · exact mem
        · exact List.mem_append_left _ mem
      rcases List.mem_append.mp point with mem | mem
      · exact not_lasts_of_mem_nestedFields found mem
      · exact not_lasts_of_mem_signsOf mem
    case h_2 => exact keeps_failure
  case h_2 => exact keeps_pure (.refl _)

instance : Faithful (methodArgument again) := by
  unfold methodArgument
  infer_instance

instance : Faithful (member again) := by
  have rest (before first : List Token) (unfinished : Bool) : Keeps before first (do
      if !unfinished then return first
      if Ahead.word "await" (← get) then return first ++ (← one)
      let found ← field
      let supplied ← whenAhead (Ahead.sign "::") (inOrder [sign "::", sign "<",
        listed "," (Ahead.sign ">") (methodArgument again), sign ">"])
      return first ++ found ++ supplied) := by
    refine keeps_ite (keeps_pure (.refl _)) (keeps_get fun ahead => keeps_ite ?_ ?_)
    · exact keeps_bind fun word => keeps_pure (.refl _)
    · exact keeps_bind fun found => keeps_bind fun supplied => keeps_pure (.refl _)
  refine faithful_of_keeps fun before => keeps_get fun ahead => keeps_ite ?_ (keeps_pure_bind ?_)
  · exact keeps_bind fun (first, unfinished) => rest before first unfinished
  · exact rest before [] true

instance : Faithful (trailers again) := by
  unfold trailers
  infer_instance

theorem keeps_withTrailers {before read : List Token} {found : Written} {next : Written → Reading Written}
    (more : ∀ (whole : Written) (behind : List Token), Within whole.tokens (found.tokens ++ behind) →
      Keeps before (read ++ behind) (next whole)) :
    Keeps before read (withTrailers again found >>= next) := by
  simp only [withTrailers, bind_assoc, pure_bind]
  refine keeps_bind fun behind => more _ behind ?_
  split
  · exact (Within.refl _).widen _
  · exact .refl _

theorem keeps_chainFrom {before : List Token} (braced tight : Bool) :
    ∀ (fuel : Nat) (stage : Stage) {read : List Token} (left : Written), Within left.tokens read →
      Keeps before read (chainFrom again braced tight fuel stage left)
  | 0, _, _, left, within => keeps_pure within
  | fuel + 1, stage, read, left, within => by
    refine keeps_get fun ahead => ?_
    split
    case h_1 mark operator =>
      refine keeps_ite (keeps_pure within) ?_
      refine keeps_bind fun found => keeps_bind fun right => keeps_chainFrom braced tight fuel _ _ ?_
      exact (within.append (.refl _)).append (.refl _)
    case h_2 =>
      refine keeps_ite ?range (keeps_ite ?type (keeps_pure within))
      case range =>
        refine keeps_bind fun found => keeps_get fun ahead => keeps_ite ?_ ?_
        all_goals
          refine keeps_bind fun right => keeps_chainFrom braced tight fuel _ _ ?_
          exact (within.append (.refl _)).append (.refl _)
      case type =>
        refine keeps_bind fun found => keeps_bind fun type => keeps_chainFrom braced tight fuel _ _ ?_
        exact (within.append (.refl _)).append (.refl _)

theorem keeps_chain {before read : List Token} (braced tight : Bool) (first : Written)
    (within : Within first.tokens read) : Keeps before read (chain again braced tight first) :=
  keeps_get fun _ => keeps_chainFrom again braced tight _ _ first within

instance (braced : Bool) : Faithful (expression again braced) :=
  faithful_of_keeps fun _ => keeps_bind fun first => keeps_chain again braced false first (.refl _)

instance : Faithful (block again) := inferInstanceAs (Faithful again.block)

instance : Faithful (head again) := inferInstanceAs (Faithful (tokens _))

instance : Faithful (conditional again) := by
  unfold conditional
  infer_instance

instance : Faithful (whileLoop again) := inferInstanceAs (Faithful (inOrder [_, _, _]))

instance : Faithful (forLoop again) := inferInstanceAs (Faithful (inOrder [_, _, _, _, _]))

instance : Faithful (endlessLoop again) := inferInstanceAs (Faithful (inOrder [_, _]))

instance : Faithful (labelledBlock again) := by
  unfold labelledBlock
  infer_instance

instance : Faithful (closureInput again) := by
  refine faithful_of_keeps fun before => keeps_bind fun first => keeps_bind fun found => keeps_get fun ahead => ?_
  refine keeps_ite ?typed (keeps_pure ?_)
  case typed =>
    refine keeps_then (keeps_bind fun type => keeps_pure ?_) fun _ => keeps_pure (.refl _)
    exact .refl _
  split
  · exact .of_sublist (by simp)
  · exact .refl _

instance (braced : Bool) : Faithful (closure again braced) := by
  unfold closure
  infer_instance

instance : Faithful (fieldValue again) :=
  faithful_of_keeps fun _ => keeps_bind fun _ => keeps_bind fun _ => keeps_pure (.refl _)

instance fieldValuesUpTo_faithful : ∀ fuel, Faithful (fieldValuesUpTo again fuel)
  | 0 => inferInstanceAs (Faithful nothing)
  | fuel + 1 => by
    have := fieldValuesUpTo_faithful fuel
    refine faithful_of_keeps fun before => keeps_get fun ahead => keeps_ite keeps_of_faithful ?_
    refine keeps_get fun ahead => keeps_ite ?rest ?value
    case rest => exact keeps_bind fun rest => keeps_bind fun more => keeps_pure (.refl _)
    case value =>
      refine keeps_bind fun next => keeps_bind fun comma => keeps_ite ?_ ?_
      · exact keeps_pure (.of_sublist (by simp))
      · exact keeps_bind fun more => keeps_pure (.refl _)

instance : Faithful (fieldValues again) :=
  faithful_of_keeps fun _ => keeps_get fun _ => keeps_of_faithful

instance (braced : Bool) : Faithful (namedValue again braced) := by
  refine faithful_of_get fun before => keeps_bind fun found => keeps_get fun ahead => keeps_ite ?call ?_
  case call => exact keeps_bind fun call => keeps_pure (.refl _)
  refine keeps_ite (keeps_bind fun fields => keeps_ite keeps_asWritten ?_) (keeps_pure (.refl _))
  exact keeps_pure (.refl _)

instance : Faithful (arm again) := by
  unfold arm
  infer_instance

instance : Faithful (choice again) := by
  unfold choice
  infer_instance

instance : Faithful (matching again) := by
  have chained : Faithful (again (.operand false) >>= chain again false true) :=
    faithful_of_keeps fun _ => keeps_bind fun operand => keeps_chain again false true operand (.refl _)
  refine faithful_of_keeps fun before => keeps_bind fun first => ?_
  rw [← bind_assoc]
  exact keeps_bind fun found => keeps_pure (.refl _)

instance : Faithful (inSquareBrackets again) := by
  unfold inSquareBrackets
  infer_instance

instance (braced : Bool) : Faithful (atom again braced) := by
  unfold atom
  dsimp only
  set_option synthInstance.maxSize 512 in infer_instance

instance (braced : Bool) : Faithful (operand again braced) := by
  refine faithful_of_get fun before => keeps_bind fun first => keeps_get fun ahead => ?_
  refine keeps_ite ?reference (keeps_ite ?mark ?plain)
  case reference =>
    refine keeps_bind fun mark => keeps_get fun ahead => keeps_ite ?raw ?other
    case raw => exact keeps_bind fun words => keeps_bind fun operand => keeps_asWritten
    case other => exact keeps_bind fun mutable => keeps_bind fun operand => keeps_pure (.refl _)
  case mark => exact keeps_bind fun mark => keeps_bind fun operand => keeps_pure (.refl _)
  case plain =>
    refine keeps_bind fun operand => keeps_withTrailers again fun whole behind within => keeps_pure ?_
    simpa using (Within.refl first).append within

instance : Faithful (leading again) := by
  refine faithful_of_keeps fun before => keeps_bind fun attributes => keeps_get fun ahead => ?_
  have attached (found : Written) : Within
      (if found.kind = .kept then found else { found with tokens := attributes ++ found.tokens }).tokens
      (attributes ++ found.tokens) := by
    split
    · exact .of_sublist (by simp)
    · exact .refl _
  refine keeps_ite ?block (keeps_bind fun found => keeps_chain again true false _ (attached found))
  case block =>
    refine keeps_bind fun found => keeps_get fun ahead => keeps_ite ?_ (keeps_pure (attached found))
    refine keeps_withTrailers again fun whole behind within => keeps_chain again true false _ ?_
    simpa using (attached whole).trans ((Within.refl attributes).append within)

end RowFilter.Entity.Rule
