import RowFilter.Entity.TypeText

/-! # What reading steps write

A step takes tokens off the front and says how they are written.  It is faithful when, of the tokens that
are never added or changed, it writes none more often than it took it.  What a rule has read so far is
followed from the moment the rule started, since a rule may give back everything as it was. -/

set_option autoImplicit false

namespace RowFilter.Entity

/-! ## Tokens that last -/

/-- Punctuation may be added, numbers may be written in another way, and an underscore may stand for a
pattern that was left out. -/
def Token.Lasts : Token → Prop
  | .word text => text ≠ "_"
  | .number _ => False
  | .sign _ _ => False
  | _ => True

/-- No lasting token stands in the first list more often than in the second. -/
def Within (written taken : List Token) : Prop :=
  ∀ token : Token, token.Lasts → written.count token ≤ taken.count token

theorem Within.refl (tokens : List Token) : Within tokens tokens := fun _ _ => Nat.le_refl _

theorem Within.of_sublist {written taken : List Token} (sub : written.Sublist taken) :
    Within written taken := fun _ _ => sub.count_le _

theorem Within.append {a b c d : List Token} (left : Within a c) (right : Within b d) :
    Within (a ++ b) (c ++ d) := fun token lasts => by
  rw [List.count_append, List.count_append]
  exact Nat.add_le_add (left token lasts) (right token lasts)

theorem Within.trans {a b c : List Token} (first : Within a b) (second : Within b c) : Within a c :=
  fun token lasts => Nat.le_trans (first token lasts) (second token lasts)

theorem Within.widen {a b : List Token} (within : Within a b) (more : List Token) : Within a (b ++ more) :=
  within.trans (.of_sublist (List.sublist_append_left _ _))

theorem Within.of_passing {written : List Token} (passing : ∀ token ∈ written, ¬ token.Lasts)
    (taken : List Token) : Within written taken := fun token lasts => by
  rw [List.count_eq_zero_of_not_mem fun mem => passing token mem lasts]
  exact Nat.zero_le _

theorem not_lasts_of_mem_signsOf {token : Token} :
    ∀ {mark : List Char}, token ∈ Token.signsOf mark → ¬ token.Lasts
  | [], mem => nomatch mem
  | [c], mem => by
    rw [List.mem_singleton.mp mem]
    exact id
  | c :: d :: rest, mem => by
    rcases List.mem_cons.mp mem with rfl | mem
    · exact id
    · exact not_lasts_of_mem_signsOf mem

theorem Within.signs {written taken : List Token} (within : Within written taken) (mark : String) :
    Within (written ++ Token.signs mark) taken := by
  have punctuation : Within (Token.signs mark) [] :=
    .of_passing (fun _ mem => not_lasts_of_mem_signsOf mem) _
  simpa using within.append punctuation

/-- Things that say how they are written. -/
class HasTokens (α : Type) where
  tokensOf : α → List Token

open HasTokens (tokensOf)

instance : HasTokens (List Token) := ⟨id⟩

instance : HasTokens Written := ⟨Written.tokens⟩

instance : HasTokens Path := ⟨Path.tokens⟩

instance : HasTokens Reading.Element := ⟨Reading.Element.tokens⟩

instance {α : Type} [HasTokens α] : HasTokens (List α) := ⟨List.flatMap tokensOf⟩

instance {α β : Type} [HasTokens α] : HasTokens (α × β) := ⟨fun pair => tokensOf pair.1⟩

@[simp] theorem tokensOf_list (tokens : List Token) : tokensOf tokens = tokens := rfl

@[simp] theorem tokensOf_written (written : Written) : tokensOf written = written.tokens := rfl

@[simp] theorem Path.tokens_eq (path : Path) : path.tokens = path.names ++ path.arguments := rfl

@[simp] theorem tokensOf_path (path : Path) : tokensOf path = path.tokens := rfl

@[simp] theorem tokensOf_pair {α β : Type} [HasTokens α] (found : α) (more : β) :
    tokensOf (found, more) = tokensOf found := rfl

/-! ## What was read since some moment -/

/-- From `before` on some tokens were taken and `now` is left; what was read is within those taken. -/
structure Since (before read now : List Token) : Prop where
  suffix : now <:+ before
  count_le : ∀ token : Token, token.Lasts → read.count token + now.count token ≤ before.count token

namespace Since

variable {before now rest read more : List Token}

theorem refl (now : List Token) : Since now [] now :=
  ⟨List.suffix_refl _, fun _ _ => by simp⟩

theorem one (token : Token) (now : List Token) : Since (token :: now) [token] now :=
  ⟨List.suffix_cons _ _, fun found _ => by
    rw [← List.count_append]
    exact Nat.le_refl _⟩

theorem trans (first : Since before read now) (second : Since now more rest) :
    Since before (read ++ more) rest :=
  ⟨second.suffix.trans first.suffix, fun token lasts => by
    have a := first.count_le token lasts
    have b := second.count_le token lasts
    rw [List.count_append]
    omega⟩

theorem mono (within : Within more read) (since : Since before read now) : Since before more now :=
  ⟨since.suffix, fun token lasts => by
    have a := since.count_le token lasts
    have b := within token lasts
    omega⟩

theorem skip (first : Since before read now) (second : Since now more rest) :
    Since before more rest :=
  (first.trans second).mono (Within.of_sublist (List.sublist_append_right _ _))

theorem asWritten (suffix : now <:+ before) :
    Since before (before.take (before.length - now.length)) now := by
  obtain ⟨taken, rfl⟩ := suffix
  refine ⟨List.suffix_append _ _, fun token _ => Nat.le_of_eq ?_⟩
  rw [List.length_append, Nat.add_sub_cancel_right, List.take_left, List.count_append]

end Since

/-! ## Faithful steps -/

section

variable {α β : Type} [HasTokens α] [HasTokens β]

/-- What a step writes is within what it takes. -/
class Faithful (step : Reading α) : Prop where
  since : ∀ {now found rest}, step.run now = some (found, rest) → Since now (tokensOf found) rest

/-- Once something was read since a moment, what a step writes is within what was taken since then. -/
def Keeps (before read : List Token) (step : Reading α) : Prop :=
  ∀ now found rest, Since before read now → step.run now = some (found, rest) →
    Since before (tokensOf found) rest

variable {before read : List Token} {step : Reading α} {next : α → Reading β}

omit [HasTokens α] [HasTokens β] in
theorem Reading.run_bind_eq_some {now rest : List Token} {last : β} (run : (step >>= next).run now = some (last, rest)) :
    ∃ found middle, step.run now = some (found, middle) ∧ (next found).run middle = some (last, rest) := by
  obtain ⟨⟨found, middle⟩, stepped, run⟩ := Option.bind_eq_some_iff.mp run
  exact ⟨found, middle, stepped, run⟩

theorem faithful_of_keeps (keeps : ∀ before, Keeps before [] step) : Faithful step :=
  ⟨fun {now _ _} run => keeps now _ _ _ (.refl now) run⟩

/-- A rule that gives back what it took looks at all tokens first. -/
theorem faithful_of_get {look : List Token → Reading α} (keeps : ∀ before, Keeps before [] (look before)) :
    Faithful (get >>= look) :=
  ⟨fun {now _ _} run => keeps now now _ _ (.refl now) run⟩

theorem Faithful.keeps (faithful : Faithful step) : Keeps before read step :=
  fun _ _ _ since run => since.skip (faithful.since run)

theorem keeps_of_faithful [Faithful step] : Keeps before read step := Faithful.keeps inferInstance

theorem keeps_pure {found : α} (within : Within (tokensOf found) read) :
    Keeps before read (pure found : Reading α) := by
  intro now _ _ since run
  cases run
  exact since.mono within

omit [HasTokens α] in
theorem keeps_pure_bind {found : α} (more : Keeps before read (next found)) :
    Keeps before read ((pure found : Reading α) >>= next) := more

theorem keeps_failure : Keeps before read (failure : Reading α) := fun _ _ _ _ run => nomatch run

theorem keeps_bind [Faithful step]
    (more : ∀ found, Keeps before (read ++ tokensOf found) (next found)) :
    Keeps before read (step >>= next) := by
  intro now last rest since run
  obtain ⟨found, middle, stepped, run⟩ := Reading.run_bind_eq_some run
  exact more found middle last rest (since.trans (Faithful.since stepped)) run

/-- The same if what a step writes takes up all that was read before. -/
theorem keeps_then (first : Keeps before read step)
    (more : ∀ found, Keeps before (tokensOf found) (next found)) :
    Keeps before read (step >>= next) := by
  intro now last rest since run
  obtain ⟨found, middle, stepped, run⟩ := Reading.run_bind_eq_some run
  exact more found middle last rest (first now found middle since stepped) run

theorem keeps_mono {more : List Token} (within : Within read more) (keeps : Keeps before read step) :
    Keeps before more step :=
  fun now found rest since run => keeps now found rest (since.mono within) run

theorem keeps_get {look : List Token → Reading β} (more : ∀ now, Keeps before read (look now)) :
    Keeps before read (get >>= look) :=
  fun now last rest since run => more now now last rest since run

theorem keeps_set {rest more : List Token} {following : PUnit → Reading α} (since : Since before more rest)
    (keeps : Keeps before more (following ⟨⟩)) : Keeps before read (set rest >>= following) :=
  fun _ _ _ _ run => keeps rest _ _ since run

theorem keeps_ite {condition : Prop} [Decidable condition] {left right : Reading α}
    (yes : Keeps before read left) (no : Keeps before read right) :
    Keeps before read (if condition then left else right) := by
  split
  · exact yes
  · exact no

theorem keeps_get_taken {look : List Token → Reading α}
    (more : ∀ now, Keeps before (before.take (before.length - now.length)) (look now)) :
    Keeps before read (get >>= look) :=
  fun now last rest since run => more now now last rest (.asWritten since.suffix) run

/-- Everything that was taken is given back as it was. -/
theorem keeps_asWritten {kind : Kind} :
    Keeps before read (do return ⟨before.take (before.length - (← get).length), kind⟩ : Reading Written) :=
  keeps_get_taken fun _ => keeps_pure (.refl _)

end

/-! ## Steps of the forms -/

namespace Reading

variable {test : Ahead.Test} {step : Reading (List Token)} [Faithful step]

instance : Faithful nothing := faithful_of_keeps fun _ => keeps_pure (.refl _)

instance (count : Nat) : Faithful (take count) := by
  refine faithful_of_get fun now => ?_
  split
  · exact fun _ _ _ _ run => nomatch run
  · have whole := Since.asWritten (List.drop_suffix count now)
    rw [List.length_drop, Nat.sub_sub_self (by omega)] at whole
    exact keeps_set whole (keeps_pure (.refl _))

instance : Faithful one := inferInstanceAs (Faithful (take 1))

instance : Faithful (expect test) :=
  faithful_of_keeps fun _ => keeps_get fun _ => keeps_ite keeps_of_faithful keeps_failure

instance : Faithful name := inferInstanceAs (Faithful (expect _))

instance : Faithful lifetime := inferInstanceAs (Faithful (expect _))

instance (text : String) : Faithful (word text) := inferInstanceAs (Faithful (expect _))

instance (mark : String) : Faithful (sign mark) :=
  faithful_of_keeps fun _ => keeps_get fun _ => keeps_ite keeps_of_faithful keeps_failure

instance : Faithful (whenAhead test step) :=
  faithful_of_keeps fun _ => keeps_get fun _ => keeps_ite keeps_of_faithful keeps_of_faithful

instance (text : String) : Faithful (optionalWord text) := inferInstanceAs (Faithful (whenAhead _ _))

instance (mark : String) : Faithful (optionalSign mark) := inferInstanceAs (Faithful (whenAhead _ _))

instance : Faithful (inOrder []) := inferInstanceAs (Faithful nothing)

instance {rest : List (Reading (List Token))} [Faithful (inOrder rest)] :
    Faithful (inOrder (step :: rest)) :=
  faithful_of_keeps fun _ => keeps_bind fun _ => keeps_bind fun _ => keeps_pure (.refl _)

section

variable {α : Type} [HasTokens α] {before read : List Token} {choice : Reading α}
  {others : List (Ahead.Test × Reading α)}

theorem keeps_firstOf_cons (first : Keeps before read choice)
    (more : Keeps before read (firstOf others)) :
    Keeps before read (firstOf ((test, choice) :: others)) :=
  keeps_get fun _ => keeps_ite first more

instance : Faithful (firstOf [] : Reading α) := faithful_of_keeps fun _ => keeps_failure

instance [Faithful choice] [Faithful (firstOf others)] :
    Faithful (firstOf ((test, choice) :: others)) :=
  faithful_of_keeps fun _ => keeps_firstOf_cons keeps_of_faithful keeps_of_faithful

end

/-! ## Repeated steps -/

instance repeatWhile_faithful : ∀ fuel, Faithful (repeatWhile test step fuel)
  | 0 => inferInstanceAs (Faithful nothing)
  | fuel + 1 =>
    have := repeatWhile_faithful fuel
    faithful_of_keeps fun _ => keeps_get fun _ => keeps_ite
      (keeps_bind fun _ => keeps_bind fun _ => keeps_pure (.refl _)) keeps_of_faithful

instance : Faithful (many test step) :=
  faithful_of_keeps fun _ => keeps_get fun _ => keeps_of_faithful

variable {mark : String} {written : Reading Written} [Faithful written]

instance elementsUpTo_faithful : ∀ fuel, Faithful (elementsUpTo mark test written fuel)
  | 0 => faithful_of_keeps fun _ => keeps_pure (.refl _)
  | fuel + 1 => by
    have := elementsUpTo_faithful fuel
    refine faithful_of_keeps fun before => keeps_get fun now => keeps_ite (keeps_pure (.refl _)) ?_
    refine keeps_bind fun found => keeps_bind fun comma => keeps_ite (keeps_pure ?_) ?_
    · simp [tokensOf, Element.tokens, Within.refl]
    · exact keeps_bind fun more => keeps_pure (.refl _)

instance : Faithful (elements mark test written) :=
  faithful_of_keeps fun _ => keeps_get fun _ => keeps_of_faithful

instance : Faithful (listed mark test written) :=
  faithful_of_keeps fun _ => keeps_bind fun _ => keeps_pure (.refl _)

instance (c : Char) : Faithful (group c step) := by
  refine faithful_of_keeps fun before => keeps_bind fun first => keeps_bind fun found => ?_
  intro now last rest since run
  rcases now with _ | ⟨token, after⟩
  · cases run
  · cases token with
    | closing d =>
      cases run
      exact since.trans (.one _ _)
    | _ => cases run

instance : Faithful (parentheses step) := inferInstanceAs (Faithful (group _ step))

instance : Faithful (brackets step) := inferInstanceAs (Faithful (group _ step))

instance : Faithful (braces step) := inferInstanceAs (Faithful (group _ step))

instance {α : Type} [HasTokens α] {step : Reading α} [Faithful step] : Faithful (asWritten step) where
  since run := by
    obtain ⟨⟨found, middle⟩, stepped, run⟩ := Option.bind_eq_some_iff.mp run
    cases run
    exact .asWritten (Faithful.since stepped).suffix

instance (kind : Kind) : Faithful (do return ⟨← step, kind⟩ : Reading Written) :=
  faithful_of_keeps fun _ => keeps_bind fun _ => keeps_pure (.refl _)

instance : Faithful (plain step) :=
  faithful_of_keeps fun _ => keeps_bind fun _ => keeps_pure (.refl _)

instance : Faithful (tokens written) :=
  faithful_of_keeps fun _ => keeps_bind fun _ => keeps_pure (.refl _)

instance {α : Type} [HasTokens α] {step : Reading α} [Faithful step] : Faithful (kept step) :=
  faithful_of_keeps fun _ => keeps_bind fun _ => keeps_pure (.refl _)

instance : Faithful wholeGroup := by
  refine faithful_of_keeps fun before => keeps_get fun now => ?_
  split
  · split
    · exact keeps_of_faithful
    · exact keeps_failure
  · exact keeps_failure

instance : Faithful attributes := inferInstanceAs (Faithful (many _ (inOrder [_, _])))

instance : Faithful innerAttributes := by
  unfold innerAttributes
  infer_instance

end Reading

end RowFilter.Entity
