import Mathlib.Data.List.Induction
import RowFilter.Entity.Signature

/-! # Declarations

The attributes of a method are taken one after the other: documentation is collected, a name replaces the one
before it, and the first attribute that is not sound ends it all (`Annotations.ofAttributes_eq_error`).
What was gathered is told by the list alone (`Annotations.Gathered`): each attribute adds its own to it, so
documentation has no say in the name, wherever it stands. -/

set_option autoImplicit false

namespace RowFilter.Entity

/-! ## Attributes -/

theorem Token.eq_of_splitGroup {depth : Nat} {tokens inside after : List Token}
    (split : splitGroup depth tokens = some (inside, after)) :
    ∃ right, tokens = inside ++ closing right :: after := by
  fun_induction splitGroup depth tokens generalizing inside after with
  | case1 depth => cases split
  | case2 right rest =>
    cases split
    exact ⟨right, rfl⟩
  | case3 _ _ _ ih | case4 _ _ _ ih | case5 _ _ _ _ _ _ ih =>
    -- Any other token joins the inside of the group that the rest closes.
    obtain ⟨⟨inner, behind⟩, call, same⟩ := Option.map_eq_some_iff.mp split
    cases same
    obtain ⟨right, rfl⟩ := ih call
    exact ⟨right, rfl⟩

namespace Attribute

def IsDoc (found : Attribute) : Prop := found.path = [.word "doc"]

instance (found : Attribute) : Decidable found.IsDoc := inferInstanceAs (Decidable (_ = _))

def NamesProperty (found : Attribute) : Prop := found.path = [.word "property"]

instance (found : Attribute) : Decidable found.NamesProperty := inferInstanceAs (Decidable (_ = _))

/-- The arguments are one pair of brackets, of any kind, around one string literal. -/
def Holds (found : Attribute) (value : String) : Prop :=
  ∃ left token right, found.arguments = [.opening left, token, .closing right] ∧
    token.stringValue? = some value

/-- Documentation of any form, or a property with its name. -/
def Sound (found : Attribute) : Prop := found.IsDoc ∨ found.NamesProperty ∧ ∃ value, found.Holds value

/-- The refusal that an attribute meets with, whatever stands around it. -/
def fault? (found : Attribute) : Option DeclarationError :=
  if found.IsDoc then none
  else if found.NamesProperty then
    match found.propertyName with
    | .ok _ => none
    | .error refusal => some refusal
  else some .unknownAttribute

variable {found : Attribute}

theorem not_isDoc_of_namesProperty (names : found.NamesProperty) : ¬ found.IsDoc := by
  intro doc
  have same : [Token.word "property"] = [Token.word "doc"] := names.symm.trans doc
  simp at same

theorem onlyString_eq_ok {inside : List Token} {value : String} :
    onlyString inside = .ok value ↔ ∃ token, inside = [token] ∧ token.stringValue? = some value := by
  cases inside with
  | nil => simp [onlyString]
  | cons token more =>
    cases call : token.stringValue? with
    | none => simp [onlyString, call]
    | some literal => by_cases alone : more = [] <;> simp [onlyString, call, alone]

theorem propertyName_eq_ok {value : String} : found.propertyName = .ok value ↔ found.Holds value := by
  constructor
  · intro success
    rw [propertyName] at success
    split at success
    · cases success
    · cases success
    · rename_i left rest arguments
      split at success
      · rename_i inside split
        obtain ⟨token, rfl, literal⟩ := onlyString_eq_ok.mp success
        obtain ⟨right, rfl⟩ := Token.eq_of_splitGroup split
        exact ⟨left, token, right, arguments, literal⟩
      · cases success
    · cases success
  · rintro ⟨left, token, right, arguments, literal⟩
    have split : Token.splitGroup 0 [token, .closing right] = some ([token], []) := by
      cases token with
      | literal text => rfl
      | _ => cases literal
    rw [propertyName, arguments]
    simp only [split]
    exact onlyString_eq_ok.mpr ⟨token, rfl, literal⟩

theorem Holds.unique {value other : String} (holds : found.Holds value) (holds' : found.Holds other) :
    other = value := by
  have same := (propertyName_eq_ok.mpr holds').symm.trans (propertyName_eq_ok.mpr holds)
  cases same
  rfl

theorem fault?_eq_none : found.fault? = none ↔ found.Sound := by
  rw [fault?, Sound]
  by_cases doc : found.IsDoc
  · simp [doc]
  · by_cases names : found.NamesProperty
    · simp only [doc, names, if_true, if_false, false_or, true_and, ← propertyName_eq_ok]
      cases found.propertyName <;> simp
    · simp [doc, names]

instance (found : Attribute) : Decidable found.Sound := decidable_of_iff _ fault?_eq_none

theorem filter_namesProperty (attributes : List Attribute) :
    (attributes.filter fun each => each.NamesProperty) =
      (attributes.filter fun each => ¬ each.IsDoc).filter fun each => each.NamesProperty := by
  rw [List.filter_filter]
  apply List.filter_congr
  intro each _
  by_cases names : each.NamesProperty
  · simp [names, not_isDoc_of_namesProperty names]
  · simp [names]

end Attribute

/-! ## Annotations -/

namespace Annotations

open Attribute

/-- What annotations say that were gathered from some attributes. -/
structure Gathered (attributes : List Attribute) (found : Annotations) : Prop where
  sound : ∀ each ∈ attributes, each.Sound
  docs : found.docs = (attributes.filter fun each => each.IsDoc).map Attribute.doc
  /-- The last name is the one that holds. -/
  named : ∀ last, (attributes.filter fun each => each.NamesProperty).getLast? = some last →
    ∃ value, found.name = some value ∧ last.Holds value
  unnamed : (∀ each ∈ attributes, ¬ each.NamesProperty) → found.name = none

variable {found : Annotations} {next : Attribute} {attributes : List Attribute}

theorem add_of_isDoc (doc : next.IsDoc) :
    found.add next = .ok { found with docs := found.docs ++ [next.doc] } :=
  if_pos doc

theorem add_of_namesProperty (names : next.NamesProperty) :
    found.add next = (next.propertyName >>= fun name => .ok { found with name := some name }) :=
  (if_neg (not_isDoc_of_namesProperty names)).trans (if_pos names)

theorem add_of_unknown (doc : ¬ next.IsDoc) (names : ¬ next.NamesProperty) :
    found.add next = .error .unknownAttribute :=
  (if_neg doc).trans (if_neg names)

theorem add_eq_error {refusal : DeclarationError} :
    found.add next = .error refusal ↔ next.fault? = some refusal := by
  rw [fault?]
  by_cases doc : next.IsDoc
  · simp [add_of_isDoc doc, doc]
  · by_cases names : next.NamesProperty
    · rw [add_of_namesProperty names, if_neg doc, if_pos names]
      cases next.propertyName <;> simp [Bind.bind, Except.bind]
    · simp [add_of_unknown doc names, doc, names]

theorem gathered_nil : Gathered [] {} where
  sound := by simp
  docs := rfl
  named := by simp
  unnamed _ := rfl

theorem Gathered.add {found' : Annotations} (gathered : Gathered attributes found)
    (done : found.add next = .ok found') : Gathered (attributes ++ [next]) found' := by
  have faultless : next.Sound := by
    rw [← fault?_eq_none, Option.eq_none_iff_forall_ne_some]
    intro refusal fault
    rw [add_eq_error.mpr fault] at done
    cases done
  have sound : ∀ each ∈ attributes ++ [next], each.Sound :=
    List.forall_mem_append.mpr ⟨gathered.sound, List.forall_mem_singleton.mpr faultless⟩
  by_cases doc : next.IsDoc
  · have names : ¬ next.NamesProperty := fun names => not_isDoc_of_namesProperty names doc
    rw [add_of_isDoc doc] at done
    cases done
    refine ⟨sound, ?_, ?_, ?_⟩
    · simp [gathered.docs, doc]
    · simpa [names] using gathered.named
    · intro others
      exact gathered.unnamed (List.forall_mem_append.mp others).1
  · obtain ⟨names, value, holds⟩ := faultless.resolve_left doc
    rw [add_of_namesProperty names, propertyName_eq_ok.mpr holds] at done
    cases done
    refine ⟨sound, ?_, ?_, ?_⟩
    · simp [gathered.docs, doc]
    · intro last found
      simp [names] at found
      subst found
      exact ⟨value, rfl, holds⟩
    · intro others
      exact absurd names (others next (List.mem_append_right _ (List.mem_singleton_self next)))

theorem ofAttributes_concat (attributes : List Attribute) (next : Attribute) :
    ofAttributes (attributes ++ [next]) = (ofAttributes attributes >>= fun found => found.add next) := by
  simp only [ofAttributes, List.foldlM_append, List.foldlM_cons, List.foldlM_nil, bind_pure]

theorem gathered_ofAttributes (done : ofAttributes attributes = .ok found) : Gathered attributes found := by
  induction attributes using List.reverseRecOn generalizing found with
  | nil =>
    cases done
    exact gathered_nil
  | append_singleton attributes next ih =>
    rw [ofAttributes_concat] at done
    cases call : ofAttributes attributes with
    | error refusal =>
      rw [call] at done
      cases done
    | ok before =>
      rw [call] at done
      exact (ih call).add done

theorem ofAttributes_eq_error {refusal : DeclarationError} :
    ofAttributes attributes = .error refusal ↔ attributes.findSome? fault? = some refusal := by
  induction attributes using List.reverseRecOn generalizing refusal with
  | nil => simp [ofAttributes, pure, Except.pure]
  | append_singleton attributes next ih =>
    rw [ofAttributes_concat, List.findSome?_append]
    cases call : ofAttributes attributes with
    | error earlier =>
      rw [ih.mp call]
      simp [Bind.bind, Except.bind]
    | ok before =>
      have none : attributes.findSome? fault? = none := by
        rw [Option.eq_none_iff_forall_ne_some]
        intro refusal fault
        rw [ih.mpr fault] at call
        cases call
      rw [none, Option.none_or, List.findSome?_singleton]
      exact add_eq_error

theorem Gathered.name_eq {others : List Attribute} {found' : Annotations}
    (gathered : Gathered attributes found) (gathered' : Gathered others found')
    (same : (attributes.filter fun each => each.NamesProperty) = others.filter fun each => each.NamesProperty) :
    found'.name = found.name := by
  cases call : (attributes.filter fun each => each.NamesProperty).getLast? with
  | none =>
    have unnamed := List.getLast?_eq_none_iff.mp call
    have unnamed' := same.symm.trans unnamed
    rw [gathered.unnamed (by simpa using unnamed), gathered'.unnamed (by simpa using unnamed')]
  | some last =>
    obtain ⟨value, name, holds⟩ := gathered.named last call
    obtain ⟨value', name', holds'⟩ := gathered'.named last (same ▸ call)
    rw [name, name', holds.unique holds']

end Annotations

/-! ## Names without the mark -/

theorem bareIdent_marked (rest : String) : bareIdent ("r#" ++ rest) = rest := by
  simp [bareIdent, String.toList_append]

theorem bareIdent_unmarked {ident : String} (unmarked : ∀ rest, ident ≠ "r#" ++ rest) :
    bareIdent ident = ident := by
  rw [bareIdent]
  split
  · rename_i rest split
    refine absurd ?_ (unmarked (String.ofList rest))
    apply String.toList_inj.mp
    simp [split, String.toList_append]
  · rfl

/-! ## Signatures -/

namespace Signature

def Bare (signature : Signature) : Prop :=
  signature.hasInputs = false ∧ signature.output = none ∧ signature.hasBody = false

instance (signature : Signature) : Decidable signature.Bare := inferInstanceAs (Decidable (_ ∧ _))

/-- How a method is judged.  Inputs, output and body are looked at first, in this order, and then its
attributes from the first to the last. -/
structure Judged (signature : Signature) (outcome : Except DeclarationError Property) : Prop where
  inputs : signature.hasInputs → outcome = .error .inputs
  output : signature.hasInputs = false → signature.output.isSome → outcome = .error .output
  body : signature.hasInputs = false → signature.output = none → signature.hasBody →
    outcome = .error .body
  accepted : signature.Bare → ((∃ made, outcome = .ok made) ↔ ∀ each ∈ signature.allAttributes, each.Sound)
  /-- The earliest attribute that is not sound tells the refusal, whatever follows it. -/
  refused : signature.Bare → ∀ refusal, outcome = .error refusal ↔
    ∃ earlier bad later, signature.allAttributes = earlier ++ bad :: later ∧
      (∀ each ∈ earlier, each.Sound) ∧ bad.fault? = some refusal
  ident : ∀ made, outcome = .ok made → made.ident = signature.ident
  docs : ∀ made, outcome = .ok made →
    made.docs = (signature.allAttributes.filter fun each => each.IsDoc).map Attribute.doc
  named : ∀ made, outcome = .ok made → ∀ last,
    (signature.allAttributes.filter fun each => each.NamesProperty).getLast? = some last →
      last.Holds made.name
  marked : ∀ made, outcome = .ok made → (∀ each ∈ signature.allAttributes, ¬ each.NamesProperty) →
    ∀ rest, signature.ident = "r#" ++ rest → made.name = rest
  unmarked : ∀ made, outcome = .ok made → (∀ each ∈ signature.allAttributes, ¬ each.NamesProperty) →
    (∀ rest, signature.ident ≠ "r#" ++ rest) → made.name = signature.ident

variable {signature other : Signature} {made : Property}

theorem property_of_bare (bare : signature.Bare) :
    signature.property = (Annotations.ofAttributes signature.allAttributes >>= fun found =>
      .ok ⟨signature.ident, found.name.getD (bareIdent signature.ident), found.docs⟩) := by
  obtain ⟨inputs, output, body⟩ := bare
  simp [property, inputs, output, body]

theorem bare_of_property (success : signature.property = .ok made) : signature.Bare := by
  rw [property] at success
  split at success
  · cases success
  · split at success
    · cases success
    · split at success
      · cases success
      · rename_i inputs output body
        exact ⟨by simpa using inputs, by simpa using output, by simpa using body⟩

theorem property_eq_ok :
    signature.property = .ok made ↔ signature.Bare ∧
      ∃ found, Annotations.ofAttributes signature.allAttributes = .ok found ∧
        ⟨signature.ident, found.name.getD (bareIdent signature.ident), found.docs⟩ = made := by
  constructor
  · intro success
    have bare := bare_of_property success
    rw [property_of_bare bare] at success
    cases call : Annotations.ofAttributes signature.allAttributes with
    | error refusal =>
      rw [call] at success
      cases success
    | ok found =>
      rw [call] at success
      cases success
      exact ⟨bare, found, rfl, rfl⟩
  · rintro ⟨bare, found, call, rfl⟩
    rw [property_of_bare bare, call]
    rfl

theorem property_eq_error (bare : signature.Bare) {refusal : DeclarationError} :
    signature.property = .error refusal ↔
      signature.allAttributes.findSome? Attribute.fault? = some refusal := by
  rw [property_of_bare bare, ← Annotations.ofAttributes_eq_error]
  cases Annotations.ofAttributes signature.allAttributes <;> simp [Bind.bind, Except.bind]

theorem property_accepted (bare : signature.Bare) :
    (∃ made, signature.property = .ok made) ↔ ∀ each ∈ signature.allAttributes, each.Sound := by
  calc (∃ made, signature.property = .ok made)
    _ ↔ ∀ refusal, signature.property ≠ .error refusal := by cases signature.property <;> simp
    _ ↔ signature.allAttributes.findSome? Attribute.fault? = none := by
      simp only [ne_eq, property_eq_error bare, Option.eq_none_iff_forall_ne_some]
    _ ↔ ∀ each ∈ signature.allAttributes, each.Sound := by
      simp only [List.findSome?_eq_none_iff, Attribute.fault?_eq_none]

theorem judged (signature : Signature) : signature.Judged signature.property where
  inputs given := by simp [property, given]
  output inputs given := by simp [property, inputs, given]
  body inputs output given := by simp [property, inputs, output, given]
  accepted := property_accepted
  refused bare refusal := by
    simp only [property_eq_error bare, List.findSome?_eq_some_iff, Attribute.fault?_eq_none]
    constructor
    · rintro ⟨earlier, bad, later, whole, fault, sound⟩
      exact ⟨earlier, bad, later, whole, sound, fault⟩
    · rintro ⟨earlier, bad, later, whole, sound, fault⟩
      exact ⟨earlier, bad, later, whole, fault, sound⟩
  ident made success := by
    obtain ⟨_, found, _, rfl⟩ := property_eq_ok.mp success
    rfl
  docs made success := by
    obtain ⟨_, found, call, rfl⟩ := property_eq_ok.mp success
    exact (Annotations.gathered_ofAttributes call).docs
  named made success last final := by
    obtain ⟨_, found, call, rfl⟩ := property_eq_ok.mp success
    obtain ⟨value, name, holds⟩ := (Annotations.gathered_ofAttributes call).named last final
    simpa [name] using holds
  marked made success unnamed rest mark := by
    obtain ⟨_, found, call, rfl⟩ := property_eq_ok.mp success
    have noName := (Annotations.gathered_ofAttributes call).unnamed unnamed
    simp only [noName, Option.getD_none, mark, bareIdent_marked]
  unmarked made success unnamed mark := by
    obtain ⟨_, found, call, rfl⟩ := property_eq_ok.mp success
    have noName := (Annotations.gathered_ofAttributes call).unnamed unnamed
    simp only [noName, Option.getD_none, bareIdent_unmarked mark]

/-- Documentation has no say in the name. -/
theorem property_name_eq (ident : other.ident = signature.ident) (bare : other.Bare)
    (same : (signature.allAttributes.filter fun each => ¬ each.IsDoc) =
      other.allAttributes.filter fun each => ¬ each.IsDoc)
    (success : signature.property = .ok made) :
    ∃ made', other.property = .ok made' ∧ made'.name = made.name := by
  obtain ⟨_, found, call, rfl⟩ := property_eq_ok.mp success
  have gathered := Annotations.gathered_ofAttributes call
  have sound : ∀ each ∈ other.allAttributes, each.Sound := by
    intro each member
    by_cases doc : each.IsDoc
    · exact .inl doc
    · have kept : each ∈ other.allAttributes.filter fun each => ¬ each.IsDoc := by simp [member, doc]
      rw [← same] at kept
      exact gathered.sound each (List.mem_filter.mp kept).1
  obtain ⟨made', success'⟩ := (property_accepted bare).mpr sound
  refine ⟨made', success', ?_⟩
  obtain ⟨_, found', call', rfl⟩ := property_eq_ok.mp success'
  have names := gathered.name_eq (Annotations.gathered_ofAttributes call') <| by
    rw [Attribute.filter_namesProperty, same, ← Attribute.filter_namesProperty]
  simp only [names, ident]

end Signature

/-! ## Declarations -/

/-- Each method is judged, and by itself alone. -/
theorem declare_judgement :
    (∀ signature : Signature, signature.Judged signature.property) ∧
    (∀ signature other : Signature, other.ident = signature.ident → other.Bare →
      (signature.allAttributes.filter fun each => ¬ each.IsDoc) =
        (other.allAttributes.filter fun each => ¬ each.IsDoc) →
      ∀ made, signature.property = .ok made →
        ∃ made', other.property = .ok made' ∧ made'.name = made.name) ∧
    ∀ (name selfType : String) (methods : List Signature),
      (declare name selfType methods).methods.length = methods.length ∧
      ∀ (i : Nat) (method : Signature), methods[i]? = some method →
        (declare name selfType methods).methods[i]? = some method.property ∧
        ∀ name' selfType', (declare name' selfType' [method]).methods = [method.property] := by
  refine ⟨Signature.judged, ?_, fun name selfType methods => ⟨?_, ?_⟩⟩
  · intro signature other ident bare same made success
    exact Signature.property_name_eq ident bare same success
  · simp [declare]
  · intro i method member
    simp [declare, member]

/-- Documentation between two names, and a method whose first name is at fault though its second is not. -/
theorem declare_judgement_interleaved :
    let name := Attribute.ofText "property" "(\"price\")"
    let last := Attribute.ofText "property" "(\"cost\")"
    let note := Attribute.ofText "doc" "= \"in cents\""
    let fault := Attribute.ofText "property" "()"
    let noted : Signature := { ident := "r#type", attributes := [note, name, note, last] }
    let faulty : Signature := { ident := "size", attributes := [note, fault, last] }
    (∃ made, noted.property = .ok made ∧ made.name = "cost") ∧
      (declare "Item" "Item" [noted, faulty]).methods[1]? = some (.error .emptyArguments) ∧
      (declare "Other" "Other" [faulty]).methods = [.error .emptyArguments] := by
  intro name last note fault noted faulty
  obtain ⟨judged, moved, apart⟩ := declare_judgement
  have refusal : faulty.property = .error .emptyArguments :=
    ((judged faulty).refused (by decide +kernel) _).mpr
      ⟨[note], fault, [last], by decide +kernel, by decide +kernel, by decide +kernel⟩
  refine ⟨?_, ?_, ?_⟩
  · let plain : Signature := { ident := "r#type", attributes := [name, last] }
    have success : plain.property = .ok ⟨"r#type", "cost", []⟩ := by decide +kernel
    exact moved plain noted rfl (by decide +kernel) (by decide +kernel) _ success
  · rw [((apart "Item" "Item" [noted, faulty]).2 1 faulty rfl).1, refusal]
  · rw [((apart "Item" "Item" [noted, faulty]).2 1 faulty rfl).2, refusal]

def Attribute.HoldsInParentheses (found : Attribute) (value : String) : Prop :=
  ∃ token, found.arguments = [.opening '(', token, .closing ')'] ∧ token.stringValue? = some value

/-- Square brackets do as well as parentheses. -/
theorem not_only_parentheses :
    ¬ ∀ signature : Signature, signature.Bare →
      ((∃ made, signature.property = .ok made) ↔
        ∀ each ∈ signature.allAttributes,
          each.IsDoc ∨ each.NamesProperty ∧ ∃ value, each.HoldsInParentheses value) := by
  intro claim
  let square := Attribute.ofText "property" "[\"q\"]"
  let signature : Signature := { ident := "x", qualifiers := Token.ofText "#[property[\"q\"]]" }
  have success : signature.property = .ok ⟨"x", "q", []⟩ := by decide +kernel
  have all := (claim signature (by decide +kernel)).mp ⟨_, success⟩
  obtain doc | ⟨_, value, token, arguments, _⟩ := all square (by decide +kernel)
  · revert doc
    decide +kernel
  · have opened : square.arguments.head? = some (.opening '[') := by decide +kernel
    rw [arguments] at opened
    cases opened

end RowFilter.Entity
