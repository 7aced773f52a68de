import RowFilter.Proofs.FaithfulExpressions

/-! # Normalised types

With the rules for items and statements the reader of all forms is faithful.  A normalised type therefore
holds every name, lifetime, literal and bracket at most as often as the type it stands for. -/

set_option autoImplicit false

namespace RowFilter.Entity.Rule

open Reading
open HasTokens (tokensOf)

variable (again : Reader) [∀ form, Faithful (again form)]

/-! ## Items -/

instance : Faithful visibility := by
  unfold visibility
  infer_instance

instance : Faithful functionWords := inferInstanceAs (Faithful (inOrder [_, _, _, _]))

instance : Faithful receiver := by
  unfold receiver
  infer_instance

instance : Faithful (typedInput again) := by
  refine faithful_of_keeps fun before => keeps_get fun ahead => keeps_ite ?_ keeps_of_faithful
  have underscore : Within ([Token.word "_"] ++ Token.signs ":") [] :=
    (Within.of_passing (by simp [Token.Lasts]) []).signs ":"
  exact keeps_bind fun type => keeps_pure (underscore.append (.refl type))

instance : Faithful (signatureInput again) := by
  unfold signatureInput
  infer_instance

instance : Faithful (signature again) := by
  unfold signature
  infer_instance

instance : Faithful (bracedFields again) := by
  unfold bracedFields
  infer_instance

instance : Faithful (listedFields again) := by
  unfold listedFields
  infer_instance

instance : Faithful (variant again) := by
  refine faithful_of_keeps fun before => keeps_bind fun first => keeps_bind fun seen => ?_
  exact keeps_bind fun rest => keeps_pure (.of_sublist (by simp))

instance : Faithful modulePath := by
  unfold modulePath
  dsimp only
  infer_instance

instance : Faithful macroCall := by
  unfold macroCall
  infer_instance

/-! ### Associated types -/

instance : HasTokens Associated where
  tokensOf found :=
    found.words ++ found.parameters ++ found.colon ++ found.bounds ++ found.conditions ++ found.value

theorem tokensOf_associated (found : Associated) :
    tokensOf found =
      found.words ++ found.parameters ++ found.colon ++ found.bounds ++ found.conditions ++ found.value := rfl

instance (late : Bool) : Faithful (associated again late) := by
  refine faithful_of_keeps fun before => keeps_bind fun words => keeps_get fun ahead => ?_
  refine keeps_bind fun parameters => keeps_bind fun colon => ?_
  dsimp only
  split
  all_goals
    refine keeps_bind fun bounds => keeps_get fun ahead => keeps_bind fun early => ?_
    refine keeps_bind fun value => keeps_get fun ahead => keeps_ite ?_ ?_
    all_goals
      refine keeps_bind fun belated => keeps_bind fun last => keeps_pure fun token _ => ?_
      simp only [tokensOf_associated, tokensOf_list, List.count_append]
      omega

theorem faithful_keptIf {α : Type} [HasTokens α] {step : Reading α} [Faithful step] {test : α → Bool}
    {written : α → List Token} (within : ∀ found, Within (written found) (tokensOf found)) :
    Faithful (keptIf step test written) :=
  faithful_of_get fun _ => keeps_bind fun found => keeps_ite keeps_asWritten (keeps_pure (within found))

instance : Faithful (namedType again) := faithful_keptIf fun found => .signs (fun token _ => by
  simp only [tokensOf, List.count_append]
  omega) ";"

theorem within_boundWritten (found : Associated) :
    Within found.boundWritten (found.colon ++ found.bounds) := by
  unfold Associated.boundWritten
  split
  · exact .of_sublist (List.nil_sublist _)
  · exact .refl _

instance : Faithful (traitType again) := by
  refine faithful_of_keeps fun before => keeps_bind fun found => keeps_pure (.signs (fun token lasts => ?_) ";")
  have bounds := within_boundWritten found token lasts
  simp only [tokensOf, List.count_append] at bounds ⊢
  omega

instance : Faithful (implementedType again) := faithful_keptIf fun found => .signs (fun token _ => by
  simp only [tokensOf, List.count_append]
  omega) ";"

instance : Faithful (foreignType again) := faithful_keptIf fun found => .signs (fun token _ => by
  simp only [tokensOf, List.count_append]
  omega) ";"

/-! ### Constants and functions -/

instance : Faithful (typed again) := inferInstanceAs (Faithful (inOrder [_, _]))

instance : Faithful (valued again) := inferInstanceAs (Faithful (inOrder [_, _]))

instance : Faithful (constantItem again) := by
  refine faithful_of_get fun before => keeps_bind fun first => keeps_bind fun type => ?_
  refine keeps_bind fun value => keeps_bind fun last => keeps_ite keeps_asWritten (keeps_pure (.refl _))

instance : Faithful (functionItem again) := by
  refine faithful_of_get fun before => keeps_bind fun first => keeps_get fun ahead => keeps_ite ?_ ?_
  · exact keeps_bind fun last => keeps_asWritten
  · exact keeps_bind fun body => keeps_pure (.refl _)

instance : Faithful (method again) := by
  unfold method
  infer_instance

instance : Faithful (foreignVariable again) := by
  refine faithful_of_get fun before => keeps_bind fun first => keeps_get fun ahead => keeps_ite ?_ ?_
  · exact keeps_bind fun value => keeps_asWritten
  · exact keeps_bind fun last => keeps_pure (.refl _)

instance : Faithful (foreignFunction again) := by
  refine faithful_of_get fun before => keeps_bind fun first => keeps_get fun ahead => keeps_ite ?_ ?_
  · exact keeps_bind fun body => keeps_asWritten
  · exact keeps_bind fun last => keeps_pure (.refl _)

instance : Faithful (foreignItem again) := by
  unfold foreignItem
  infer_instance

instance {step : Reading (List Token)} [Faithful step] : Faithful (itemsOf step) :=
  inferInstanceAs (Faithful (braces (inOrder [_, _])))

instance : Faithful (foreignItems again) := inferInstanceAs (Faithful (inOrder [_, _]))

/-! ### Traits and implementations -/

instance : Faithful (traitConstant again) := by
  unfold traitConstant
  infer_instance

instance : Faithful (traitMember again) := by
  refine faithful_of_get fun before => keeps_bind fun first => keeps_bind fun marks => ?_
  refine keeps_bind fun found => keeps_ite (keeps_pure (.of_sublist (by simp))) ?_
  exact keeps_get_taken fun now => keeps_pure (.refl _)

instance : Faithful (traitItem again) := by
  refine faithful_of_keeps fun before => keeps_bind fun first => keeps_get fun ahead => keeps_ite ?_ ?_
  · exact keeps_bind fun bounds => keeps_pure (.refl _)
  · refine keeps_bind fun colon => keeps_ite ?_ ?_
    all_goals
      refine keeps_bind fun bounds => keeps_bind fun rest => keeps_pure (.append ?_ (.refl _))
      split
      · exact .of_sublist (by simp)
      · exact .refl _

instance : Faithful (implementedConstant again) := by
  refine faithful_of_get fun before => keeps_bind fun first => keeps_get fun ahead => keeps_ite ?_ ?_
  · exact keeps_bind fun value => keeps_pure (.refl _)
  · exact keeps_bind fun last => keeps_asWritten

instance : Faithful (implementedMember again) := by
  unfold implementedMember
  dsimp only
  infer_instance

instance : Faithful (implementedFor again) := by
  refine faithful_of_get fun before => keeps_bind fun refused => keeps_bind fun first => ?_
  refine keeps_get fun ahead => keeps_ite ?_ (keeps_ite ?_ keeps_asWritten)
  · exact keeps_bind fun rest => keeps_pure (.refl _)
  · exact keeps_pure (.of_sublist (by simp))

instance : Faithful (implementation again) := by
  refine faithful_of_get fun before => keeps_bind fun visible => keeps_bind fun words => ?_
  refine keeps_bind fun found => keeps_bind fun constantly => keeps_bind fun subject => ?_
  refine keeps_bind fun rest => keeps_ite keeps_asWritten (keeps_pure (.of_sublist ?_))
  simp

instance : Faithful (structItem again) := by
  unfold structItem
  infer_instance

instance : Faithful (enumItem again) := by
  unfold enumItem
  infer_instance

instance : Faithful (unionItem again) := by
  unfold unionItem
  infer_instance

instance : Faithful (moduleItem again) := by
  unfold moduleItem
  infer_instance

instance : Faithful upToSemicolon := by
  unfold upToSemicolon
  infer_instance

instance : Faithful (itemBody again) := by
  unfold itemBody
  dsimp only
  set_option synthInstance.maxSize 512 in infer_instance

instance : Faithful (item again) :=
  faithful_of_keeps fun _ => keeps_bind fun _ => keeps_bind fun _ => keeps_pure (.refl _)

/-! ## Statements -/

theorem keeps_binding (before : List Token) : Keeps before [] (binding again before) := by
  refine keeps_bind fun first => keeps_bind fun value => keeps_get fun ahead => keeps_ite ?_ ?_
  · refine keeps_bind fun other => keeps_get_taken fun now => ?_
    exact keeps_bind fun last => keeps_pure (.refl _)
  · exact keeps_bind fun last => keeps_pure (.refl _)

instance : Faithful (statement again) := by
  refine faithful_of_get fun before => keeps_ite keeps_of_faithful ?_
  refine keeps_ite (keeps_binding again before) (keeps_bind fun first => ?_)
  have attached (found : Written) :
      Within (if found.kind = .kept then found.tokens else first ++ found.tokens) (first ++ found.tokens) := by
    split
    · exact .of_sublist (by simp)
    · exact .refl _
  refine keeps_firstOf_cons ?call (keeps_firstOf_cons ?item (keeps_firstOf_cons ?leading keeps_failure))
  case call => exact keeps_bind fun call => keeps_pure (.refl _)
  case item => exact keeps_bind fun item => keeps_pure (attached item)
  case leading =>
    exact keeps_bind fun found => keeps_bind fun last => keeps_pure ((attached found).append (.refl _))

instance : Faithful (body again) := inferInstanceAs (Faithful (inOrder [_, many _ (statement again)]))

end RowFilter.Entity.Rule

namespace RowFilter.Entity.TypeText

instance read_faithful : ∀ (fuel : Nat) (form : Form), Faithful (read fuel form)
  | 0, _ => faithful_of_keeps fun _ => keeps_failure
  | fuel + 1, form => by
    have := read_faithful fuel
    unfold read
    cases form <;> dsimp only <;> infer_instance

/-- A normalised type holds every lasting token at most as often as the type it stands for. -/
theorem within_normal (tokens : List Token) : Within (normal tokens) tokens := by
  unfold normal
  split
  case h_1 found run =>
    intro token lasts
    simpa using (Faithful.since run).count_le token lasts
  case h_2 => exact .refl _

/-- Whatever is named, quoted or bracketed in a normalised type is so in the type. -/
theorem mem_of_mem_normal {tokens : List Token} {token : Token} (lasts : token.Lasts)
    (mem : token ∈ normal tokens) : token ∈ tokens := by
  rw [← List.count_pos_iff] at mem ⊢
  exact Nat.lt_of_lt_of_le mem (within_normal tokens token lasts)

end RowFilter.Entity.TypeText
