import CallContract.Proofs.Matching
import CallContract.Validation.Match
import Mathlib.Data.List.Forall2

/-!
# Aliases

Some kinds go by several names: `float` and `number` are one kind, and `optional`, `undefined` and
`void` all stand for an absent value. Here the names are exchanged anywhere in a schema
(`Descriptor.Renames`, `Schema.Renames`), inside unions too, and matching and validation are shown
not to notice (`Descriptor.Renames.matchValue`, `Schema.Renames.validate`).

That they do not notice means the same values, the same predicate runs and the same errors, up to
one text: a mismatch shows what was expected as the schema has it, so that text follows the names
(`Mismatch.SameButExpected`).

The names are told apart in one place. A result that is just `void` has to be absent, and one that
is just `optional` or `undefined` is not looked at, so a result may be renamed only if it is not
just `void` and does not become so (`Descriptor.RenamesResult`).
-/

namespace CallContract

/-! ## Renaming -/

/-- Two kinds that are one kind by two names. -/
inductive Kind.AliasOf : Kind → Kind → Prop
  | same (k : Kind) : AliasOf k k
  | numberFloat : AliasOf .number .float
  | floatNumber : AliasOf .float .number
  | absent {k k' : Kind} (h : k.isAbsenceMarker) (h' : k'.isAbsenceMarker) : AliasOf k k'

/-- A descriptor becomes another one when kinds in it are called by their other names. -/
inductive Descriptor.Renames : Descriptor → Descriptor → Prop
  | same (d : Descriptor) : Renames d d
  | kind {k k' : Kind} (h : k.AliasOf k') : Renames (.kind k) (.kind k')
  | union {members members' : List Descriptor} (h : List.Forall₂ Renames members members') :
      Renames (.union members) (.union members')

/-- The same for the descriptor of a result, which is just `void` before if it is so after. -/
structure Descriptor.RenamesResult (d d' : Descriptor) : Prop where
  renames : d.Renames d'
  void_iff : d = .kind .void ↔ d' = .kind .void

/-- The same for the descriptor of a field, which keeps its name. -/
structure Field.Renames (f f' : Field) : Prop where
  name : f.name = f'.name
  descriptor : f.descriptor.Renames f'.descriptor

/-- The same for a schema. -/
inductive Schema.Renames : Schema → Schema → Prop
  | object {fields fields' : List Field} (h : List.Forall₂ Field.Renames fields fields') :
      Renames (.object fields) (.object fields')
  | positional {ds ds' : List Descriptor} (h : List.Forall₂ Descriptor.Renames ds ds') :
      Renames (.positional ds) (.positional ds')
  | single {f f' : Field} (h : f.Renames f') : Renames (.single f) (.single f')
  | zeroArg : Renames .zeroArg .zeroArg

/-! ## Answers that correspond -/

/-- The same mismatch, but for what was expected. -/
structure Mismatch.SameButExpected (m m' : Mismatch) : Prop where
  actual : m.actual = m'.actual
  reason : m.reason = m'.reason

theorem Mismatch.SameButExpected.of (d d' : Descriptor) (v : Value) (reason : Option String) :
    (Mismatch.of d v reason).SameButExpected (.of d' v reason) := ⟨rfl, rfl⟩

/-- The same error of the matcher, but for what was expected. -/
inductive MatchError.SameButExpected : MatchError → MatchError → Prop
  | mismatch {m m' : Mismatch} (h : m.SameButExpected m') :
      SameButExpected (.mismatch m) (.mismatch m')
  | raised (predicate : String) (fault : Fault) :
      SameButExpected (.raised predicate fault) (.raised predicate fault)

/-- The same error of a call, but for what was expected: the same variant, the same place and, in a
mismatch, the same actual text and the same reason. -/
inductive CallError.SameButExpected : CallError → CallError → Prop
  | same (e : CallError) : SameButExpected e e
  | typeMismatch (slot : Slot) {m m' : Mismatch} (h : m.SameButExpected m') :
      SameButExpected (.typeMismatch slot m) (.typeMismatch slot m')
  | returnTypeMismatch {m m' : Mismatch} (h : m.SameButExpected m') :
      SameButExpected (.returnTypeMismatch m) (.returnTypeMismatch m')

/-- Two answers correspond: they are errors that do, or values that do. -/
inductive Corresponds {ε α : Type} (errors : ε → ε → Prop) (values : α → α → Prop) :
    Except ε α → Except ε α → Prop
  | error {e e' : ε} (h : errors e e') : Corresponds errors values (.error e) (.error e')
  | ok {a a' : α} (h : values a a') : Corresponds errors values (.ok a) (.ok a')

theorem Corresponds.map {ε α β : Type} {errors : ε → ε → Prop} {values : α → α → Prop}
    {values' : β → β → Prop} {f f' : α → β} {r r' : Except ε α} (h : Corresponds errors values r r')
    (hf : ∀ a a', values a a' → values' (f a) (f' a')) :
    Corresponds errors values' (r.map f) (r'.map f') := by
  cases h with
  | error he => exact .error he
  | ok ha => exact .ok (hf _ _ ha)

/-- The same answer of the matcher, but for what was expected. -/
abbrev MatchResult.SameButExpected : MatchResult → MatchResult → Prop :=
  Corresponds MatchError.SameButExpected Eq

/-- The same answer to a call, but for what was expected. -/
abbrev SameAnswer {α : Type} : Except CallError α → Except CallError α → Prop :=
  Corresponds CallError.SameButExpected Eq

/-- The answers correspond, and the same predicates were run for both, on the same values and in
the same order. -/
structure Traced.Corresponds {α : Type} (answers : α → α → Prop) (t t' : Traced α) : Prop where
  result : answers t.result t'.result
  runs : t.runs = t'.runs

/-- The same bag is left, and the same violation but for what was expected. -/
structure Validated.Corresponds {α : Type} (r r' : Validated α) : Prop where
  bag : r.bag = r'.bag
  outcome : SameAnswer r.outcome r'.outcome

namespace Traced.Corresponds

variable {α β : Type} {answers : α → α → Prop} {answers' : β → β → Prop} {t t' : Traced α}

theorem pure {a a' : α} (h : answers a a') : Traced.Corresponds answers (.pure a) (.pure a') :=
  ⟨h, rfl⟩

theorem bind {f f' : α → Traced β} (h : t.Corresponds answers t')
    (hf : ∀ a a', answers a a' → (f a).Corresponds answers' (f' a')) :
    (t.bind f).Corresponds answers' (t'.bind f') where
  result := (hf _ _ h.result).result
  runs := by rw [runs_bind, runs_bind, h.runs, (hf _ _ h.result).runs]

theorem map {f f' : α → β} (h : t.Corresponds answers t')
    (hf : ∀ a a', answers a a' → answers' (f a) (f' a')) :
    (t.map f).Corresponds answers' (t'.map f') := ⟨hf _ _ h.result, h.runs⟩

/-- What is left may be put into another form. -/
theorem mapBag {t t' : Traced (Validated α)} (h : t.Corresponds Validated.Corresponds t')
    (f : α → β) :
    (t.map fun r => ({ bag := f r.bag, outcome := r.outcome } : Validated β)).Corresponds
      Validated.Corresponds (t'.map fun r => { bag := f r.bag, outcome := r.outcome }) :=
  h.map fun _ _ hr => ⟨congrArg f hr.bag, hr.outcome⟩

end Traced.Corresponds

theorem MatchResult.SameButExpected.refl (r : MatchResult) : r.SameButExpected r := by
  cases r with
  | ok => exact .ok rfl
  | error e =>
    cases e with
    | mismatch => exact .error (.mismatch ⟨rfl, rfl⟩)
    | raised predicate fault => exact .error (.raised predicate fault)

theorem SameAnswer.refl {α : Type} (r : Except CallError α) : SameAnswer r r := by
  cases r with
  | ok => exact .ok rfl
  | error e => exact .error (.same e)

theorem MatchResult.SameButExpected.acceptIf (condition : Bool) {m m' : Mismatch}
    (h : m.SameButExpected m') :
    SameButExpected (.acceptIf condition m) (.acceptIf condition m') := by
  cases condition with
  | true => exact .ok rfl
  | false => exact .error (.mismatch h)

theorem MatchError.SameButExpected.at {e e' : MatchError} (h : e.SameButExpected e')
    (slot : Slot) : (e.at slot).SameButExpected (e'.at slot) := by
  cases h with
  | mismatch h => exact .typeMismatch slot h
  | raised predicate fault => exact .same _

theorem MatchError.SameButExpected.atResult {e e' : MatchError} (h : e.SameButExpected e') :
    e.atResult.SameButExpected e'.atResult := by
  cases h with
  | mismatch h => exact .returnTypeMismatch h
  | raised predicate fault => exact .same _

theorem MatchResult.SameButExpected.checked {r r' : MatchResult} (h : r.SameButExpected r') :
    SameAnswer r.checked r'.checked := by
  cases h with
  | error h => exact .error h.atResult
  | ok h => exact .ok rfl

/-! ## Matching -/

namespace Kind

theorem sameButExpected_matchNumber (k k' : Kind) (v : Value) (rounding : Double → Double) :
    (k.matchNumber v rounding).SameButExpected (k'.matchNumber v rounding) := by
  unfold matchNumber
  cases v.asNumber? with
  | none => exact .error (.mismatch (.of _ _ v _))
  | some n => exact .ok rfl

namespace AliasOf

variable {k k' : Kind}

theorem isAbsenceMarker_eq (h : k.AliasOf k') : k.isAbsenceMarker = k'.isAbsenceMarker := by
  cases h with
  | same | numberFloat | floatNumber => rfl
  | absent h h' => rw [h, h']

theorem matchValue (h : k.AliasOf k') (v : Value) :
    (k.matchValue v).SameButExpected (k'.matchValue v) := by
  cases h with
  | same => exact .refl _
  | numberFloat => exact sameButExpected_matchNumber .number .float v id
  | floatNumber => exact sameButExpected_matchNumber .float .number v id
  | absent h h' =>
    rw [matchValue_marker h, matchValue_marker h']
    exact .acceptIf _ (.of _ _ v none)

end AliasOf

end Kind

namespace Descriptor.Renames

-- a renaming of a union has the renamings of its members inside a list, so both pairs of theorems
-- go by recursion on the descriptor and on its members and not by induction on the renaming
mutual

/-- A descriptor permits absence by any of its names. -/
theorem permitsAbsence_eq {d d' : Descriptor} (h : d.Renames d') :
    d.permitsAbsence = d'.permitsAbsence := by
  cases h with
  | same => rfl
  | kind h => exact h.isAbsenceMarker_eq
  | union h => exact anyPermitsAbsence_eq h
  termination_by structural d

theorem anyPermitsAbsence_eq {ds ds' : List Descriptor}
    (h : List.Forall₂ Descriptor.Renames ds ds') :
    anyPermitsAbsence ds = anyPermitsAbsence ds' := by
  cases h with
  | nil => rfl
  | cons h hs =>
    rw [anyPermitsAbsence, anyPermitsAbsence, permitsAbsence_eq h, anyPermitsAbsence_eq hs]
  termination_by structural ds

end

mutual

/-- **The matcher does not notice the names**, and neither do the predicates. -/
theorem matchValue {d d' : Descriptor} (h : d.Renames d') (v : Value) :
    (d.matchValue v).Corresponds MatchResult.SameButExpected (d'.matchValue v) := by
  cases h with
  | same => exact ⟨.refl _, rfl⟩
  | kind h => exact .pure (h.matchValue v)
  | union h =>
    cases v with
    | undefined =>
      rw [Descriptor.matchValue, Descriptor.matchValue, anyPermitsAbsence_eq h]
      exact .pure (.acceptIf _ (.of _ _ _ none))
    | null => exact .pure (.ok rfl)
    | _ => exact matchMembers h _ (.of _ _ _ _)
  termination_by structural d

theorem matchMembers {ds ds' : List Descriptor} (h : List.Forall₂ Descriptor.Renames ds ds')
    (v : Value) {m m' : Mismatch} (hm : m.SameButExpected m') :
    (Descriptor.matchMembers v m ds).Corresponds MatchResult.SameButExpected
      (Descriptor.matchMembers v m' ds') := by
  cases h with
  | nil => exact .pure (.error (.mismatch hm))
  | cons h hs =>
    rw [Descriptor.matchMembers, Descriptor.matchMembers, permitsAbsence_eq h]
    split
    · exact matchMembers hs v hm
    · refine (matchValue h v).bind fun r r' hr => ?_
      cases hr with
      | ok => exact .pure (.ok rfl)
      | error he =>
        cases he with
        | mismatch => exact matchMembers hs v hm
        | raised predicate fault => exact .pure (.refl _)
  termination_by structural ds

end

end Descriptor.Renames

/-! ## Results -/

namespace Kind

theorem checkResult_marker {k : Kind} (h : k.isAbsenceMarker) (hvoid : k ≠ void) (v : Value) :
    (Descriptor.kind k).checkResult v = .pure (.ok ()) := by
  cases k with
  | optional | undefined => rfl
  | void => exact (hvoid rfl).elim
  | _ => cases h

/-- The kinds that are checked like parameters. -/
theorem checkResult_of_not_marker {k : Kind} (h : k.isAbsenceMarker = false) (v : Value) :
    (Descriptor.kind k).checkResult v = .pure (k.matchValue v).checked := by
  cases k with
  | optional | undefined | void => cases h
  | _ => rfl

theorem AliasOf.checkResult {k k' : Kind} (h : k.AliasOf k') (hvoid : k = .void ↔ k' = .void)
    (v : Value) :
    ((Descriptor.kind k).checkResult v).Corresponds SameAnswer
      ((Descriptor.kind k').checkResult v) := by
  by_cases hmarker : k.isAbsenceMarker
  · have hmarker' : k'.isAbsenceMarker := h.isAbsenceMarker_eq ▸ hmarker
    by_cases hk : k = .void
    · rw [hk, hvoid.1 hk]
      exact ⟨.refl _, rfl⟩
    · rw [checkResult_marker hmarker hk, checkResult_marker hmarker' (mt hvoid.2 hk)]
      exact .pure (.ok rfl)
  · have hother : k.isAbsenceMarker = false := Bool.eq_false_iff.2 hmarker
    rw [checkResult_of_not_marker hother,
      checkResult_of_not_marker (h.isAbsenceMarker_eq ▸ hother)]
    exact .pure (h.matchValue v).checked

end Kind

namespace Descriptor

theorem Renames.checkResult_union {members members' : List Descriptor}
    (h : List.Forall₂ Descriptor.Renames members members') (v : Value) :
    ((Descriptor.union members).checkResult v).Corresponds SameAnswer
      ((Descriptor.union members').checkResult v) := by
  rw [Descriptor.checkResult, Descriptor.checkResult, anyPermitsAbsence_eq h]
  split
  · refine .pure ?_
    split
    · exact .ok rfl
    · exact .error (.returnTypeMismatch (.of _ _ v none))
  · exact (matchMembers h v (.of _ _ v none)).map fun _ _ hr => hr.checked

/-- **The check of a result does not notice the names**, as long as a result that is just `void`
stays so. -/
theorem RenamesResult.checkResult {d d' : Descriptor} (h : d.RenamesResult d') (v : Value) :
    (d.checkResult v).Corresponds SameAnswer (d'.checkResult v) := by
  cases h.renames with
  | same => exact ⟨.refl _, rfl⟩
  | kind hk => exact hk.checkResult (by simpa using h.void_iff) v
  | union hmembers => exact Renames.checkResult_union hmembers v

/-- A result that is just `void` is not just `optional`, which leaves it unchecked. -/
example :
    (kind .void).Renames (kind .optional) ∧
    ((kind .void).checkResult .null).result =
      .error (.returnTypeMismatch { expected := "void", actual := "null" }) ∧
    ((kind .optional).checkResult .null).result = .ok () :=
  ⟨.kind (.absent rfl rfl), rfl, rfl⟩

end Descriptor

/-! ## Validation -/

theorem checkSlot_renames {d d' : Descriptor} (h : d.Renames d') (slot : Slot) (v : Value) :
    (checkSlot slot d v).Corresponds SameAnswer (checkSlot slot d' v) := by
  rw [checkSlot, checkSlot, h.permitsAbsence_eq]
  split
  · exact .pure (.refl _)
  · refine (h.matchValue v).map fun r r' hr => ?_
    cases hr with
    | error he => exact .error (he.at slot)
    | ok hm => cases hm; exact .ok rfl

theorem validateFields_renames {fields fields' : List Field}
    (h : List.Forall₂ Field.Renames fields fields') (bag : Dict Value) :
    (validateFields fields bag).Corresponds Validated.Corresponds
      (validateFields fields' bag) := by
  induction h generalizing bag with
  | nil => exact .pure ⟨rfl, .ok rfl⟩
  | @cons f f' fields fields' hf hfields ih =>
    rw [validateFields, validateFields, ← hf.name]
    refine (checkSlot_renames hf.descriptor _ _).bind fun r r' hr => ?_
    cases hr with
    | error he => exact .pure ⟨rfl, .error he⟩
    | ok hv => cases hv; exact ih _

theorem validatePositions_renames {ds ds' : List Descriptor}
    (h : List.Forall₂ Descriptor.Renames ds ds') (index : Nat) (values : List Value) :
    (validatePositions index ds values).Corresponds Validated.Corresponds
      (validatePositions index ds' values) := by
  induction h generalizing index values with
  | nil => exact .pure ⟨rfl, .ok rfl⟩
  | @cons d d' ds ds' hd hds ih =>
    cases values with
    | nil => exact .pure ⟨rfl, .ok rfl⟩
    | cons v values =>
      rw [validatePositions, validatePositions]
      refine (checkSlot_renames hd _ v).bind fun r r' hr => ?_
      cases hr with
      | error he => exact .pure ⟨rfl, .error he⟩
      | ok hv =>
        cases hv
        exact (ih (index + 1) values).mapBag _

theorem validateOrdered_renames {ds ds' : List Descriptor}
    (h : List.Forall₂ Descriptor.Renames ds ds') (values : List Value) :
    (validateOrdered ds values).Corresponds Validated.Corresponds (validateOrdered ds' values) := by
  rw [validateOrdered, validateOrdered, h.length_eq]
  split
  · exact .pure ⟨rfl, .refl _⟩
  · exact validatePositions_renames h 0 values

theorem extraNames_renames {fields fields' : List Field}
    (h : List.Forall₂ Field.Renames fields fields') (bag : Dict Value) :
    extraNames fields bag = extraNames fields' bag := by
  have hnames : fields.map Field.name = fields'.map Field.name := by
    rw [← List.forall₂_eq_eq_eq, List.forall₂_map_left_iff, List.forall₂_map_right_iff]
    exact h.imp fun _ _ hf => hf.name
  have hany (fields : List Field) (key : String) :
      (fields.any fun f => f.name == key) = (fields.map Field.name).any (· == key) := by
    rw [List.any_map]
    rfl
  simp only [extraNames, hany, hnames]

namespace Schema.Renames

variable {s s' : Schema}

/-- **Validation does not notice the names.** -/
theorem validate (h : s.Renames s') (bag : Bag) :
    (s.validate bag).Corresponds Validated.Corresponds (s'.validate bag) := by
  cases h with
  | object h =>
    cases bag with
    | named values => exact (validateFields_renames h values).mapBag _
    | ordered values => exact .pure ⟨rfl, .refl _⟩
  | positional h =>
    cases bag with
    | named values => exact .pure ⟨rfl, .refl _⟩
    | ordered values => exact (validateOrdered_renames h values).mapBag _
  | single h =>
    cases bag with
    | named values => exact (validateFields_renames (.cons h .nil) values).mapBag _
    | ordered values => exact .pure ⟨rfl, .refl _⟩
  | zeroArg => exact ⟨⟨rfl, .refl _⟩, rfl⟩

/-! ### The form of the arguments -/

theorem ofCall_eq (h : s.Renames s') (args : List Value) :
    Bag.ofCall s args = Bag.ofCall s' args := by
  cases h with
  | object | positional | zeroArg => rfl
  | single h => rw [Bag.ofCall, Bag.ofCall, h.name]

theorem toCallArgs_eq (h : s.Renames s') (bag : Bag) : bag.toCallArgs s = bag.toCallArgs s' := by
  cases bag with
  | ordered values => cases h <;> rfl
  | named values =>
    cases h with
    | object | positional | zeroArg => rfl
    | single h => rw [Bag.toCallArgs, Bag.toCallArgs, h.name]

theorem extraFields_eq (h : s.Renames s') (bag : Bag) : s.extraFields bag = s'.extraFields bag := by
  cases bag with
  | ordered values => cases h <;> rfl
  | named values =>
    cases h with
    | object h => exact extraNames_renames h values
    | single h => exact extraNames_renames (.cons h .nil) values
    | positional | zeroArg => rfl

end Schema.Renames

end CallContract
