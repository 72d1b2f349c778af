import CallContract.Proofs.Aliases
import CallContract.Proofs.NumericKinds
import CallContract.Proofs.TextForms

/-!
# Equal values

**Theorem (`equal_treatedAlike`).** What is said of a value, what it is read as and how it is
matched are the same for equal values: they have the same kind, description, truth value and text,
they are read as equal numbers or not at all, and every descriptor whose predicates give them the
same answers either accepts both, with equal values to keep, or refuses both with the same error.

Functions, instances and symbols are compared by identity alone. Values of one program have more
than the identity in common if they are clones of one value, and that is said by a table of the
originals (`ClonedFrom`). Equal values from the same originals are seen alike
(`seenAlike_of_equals`): they are one value, two zeros, arrays of values that are seen alike, or two
objects, into which nothing looks. So it is enough to see that nothing depends on the sign of a zero
but the number that is kept of it, and that a value inside an array is looked at for its text only.
-/

namespace CallContract

/-! ## Clones -/

/-- What is behind each identity: the name of a function, the type of an instance, the description
of a symbol. -/
structure Originals where
  functionName : Nat → String
  hostType : Nat → HostType
  description : Nat → String

namespace Value

/-- The functions, instances and symbols in the value are clones of the originals of their
identities. -/
inductive ClonedFrom (o : Originals) : Value → Prop
  | undefined : ClonedFrom o .undefined
  | null : ClonedFrom o .null
  | bool (b : Bool) : ClonedFrom o (.bool b)
  | number (n : Double) : ClonedFrom o (.number n)
  | string (s : String) : ClonedFrom o (.string s)
  | array {items : List Value} (h : ∀ v ∈ items, ClonedFrom o v) : ClonedFrom o (.array items)
  | object {fields : List (String × Value)} (h : ∀ field ∈ fields, ClonedFrom o field.2) :
      ClonedFrom o (.object fields)
  | function (identity : Nat) : ClonedFrom o (.function (o.functionName identity) identity)
  | instance (identity : Nat) : ClonedFrom o (.instance (o.hostType identity) identity)
  | symbol (identity : Nat) : ClonedFrom o (.symbol (o.description identity) identity)

/-! ## Equality -/

/-- Two values that are one value for whoever does not tell zeros apart and does not look into
objects. -/
inductive SeenAlike : Value → Value → Prop
  | same (v : Value) : SeenAlike v v
  | zeros (negative negative' : Bool) :
      SeenAlike (.number (.zeroOf negative)) (.number (.zeroOf negative'))
  | array {as bs : List Value} (h : List.Forall₂ SeenAlike as bs) :
      SeenAlike (.array as) (.array bs)
  | object (as bs : List (String × Value)) : SeenAlike (.object as) (.object bs)

end Value

/-- Equal numbers are one number, or zeros. -/
theorem Double.eq_or_zeros_of_equals {x y : Double} (h : x.equals y) :
    x = y ∨ ∃ negative negative', x = zeroOf negative ∧ y = zeroOf negative' := by
  cases x with
  | nan => cases y <;> cases h
  | infinite s =>
    cases y with
    | infinite t => exact .inl (congrArg infinite (beq_iff_eq.1 h))
    | _ => cases h
  | finite s m hm =>
    cases y with
    | finite t n hn =>
      simp only [equals, Bool.and_eq_true, Bool.or_eq_true, beq_iff_eq] at h
      obtain ⟨rfl, rfl | rfl⟩ := h
      · exact .inl rfl
      · exact .inr ⟨s, t, rfl, rfl⟩
    | _ => cases h

theorem Double.zeroOf_equals (negative negative' : Bool) :
    (zeroOf negative).equals (zeroOf negative') := by
  simp [zeroOf, equals]

namespace Value

variable {o : Originals}

mutual

/-- **Equal values from the same originals are one value but for the signs of zeros.** -/
theorem seenAlike_of_equals {a b : Value} (ha : a.ClonedFrom o) (hb : b.ClonedFrom o)
    (h : a.equals b) : SeenAlike a b := by
  cases a with
  | array as =>
    cases b with
    | array bs =>
      cases ha with
      | array has =>
        cases hb with
        | array hbs => exact .array (forall₂_of_equalItems has hbs h)
    | _ => cases h
  | number x =>
    cases b with
    | number y =>
      rcases Double.eq_or_zeros_of_equals h with rfl | ⟨s, t, rfl, rfl⟩
      · exact .same _
      · exact .zeros s t
    | _ => cases h
  | object as =>
    cases b with
    | object bs => exact .object as bs
    | _ => cases h
  | _ =>
    -- behind one identity there is one original, so what is equal is the same value
    cases ha
    cases hb <;> grind [equals, SeenAlike.same]
  termination_by structural a

theorem forall₂_of_equalItems {as bs : List Value} (has : ∀ v ∈ as, ClonedFrom o v)
    (hbs : ∀ v ∈ bs, ClonedFrom o v) (h : equalItems as bs) :
    List.Forall₂ SeenAlike as bs := by
  cases as with
  | nil =>
    cases bs with
    | nil => exact .nil
    | cons => cases h
  | cons a as =>
    cases bs with
    | nil => cases h
    | cons b bs =>
      rw [List.forall_mem_cons] at has hbs
      rw [equalItems, Bool.and_eq_true] at h
      exact .cons (seenAlike_of_equals has.1 hbs.1 h.1)
        (forall₂_of_equalItems has.2 hbs.2 h.2)
  termination_by structural as

end

/-! ## What is seen of a value -/

namespace SeenAlike

variable {a b : Value}

theorem kindName_eq (h : SeenAlike a b) : a.kindName = b.kindName := by
  cases h <;> rfl

theorem describe_eq (h : SeenAlike a b) : a.describe = b.describe := by
  cases h <;> rfl

theorem isTruthy_eq (h : SeenAlike a b) : a.isTruthy = b.isTruthy := by
  cases h <;> rfl

theorem mismatch_eq (h : SeenAlike a b) (d : Descriptor) (reason : Option String) :
    Mismatch.of d a reason = .of d b reason := by
  rw [Mismatch.of, Mismatch.of, h.describe_eq]

theorem itemText?_eq (h : SeenAlike a b) (htext : a.asText? = b.asText?) :
    a.itemText? = b.itemText? := by
  cases h with
  | same | zeros | object => rfl
  | array => exact htext

mutual

/-- **The text is the same**, inside arrays too. -/
theorem asText?_eq {a b : Value} (h : SeenAlike a b) : a.asText? = b.asText? := by
  cases h with
  | same | zeros | object => rfl
  | array h => rw [asText?, asText?, itemTexts?_eq h]
  termination_by structural a

theorem itemTexts?_eq {as bs : List Value} (h : List.Forall₂ SeenAlike as bs) :
    itemTexts? as = itemTexts? bs := by
  cases h with
  | nil => rfl
  | cons h hs =>
    rw [itemTexts?_cons, itemTexts?_cons, h.itemText?_eq (asText?_eq h), itemTexts?_eq hs]
  termination_by structural as

end

/-- The numbers that are read are equal. -/
theorem asNumber?_rel (h : SeenAlike a b) :
    Option.Rel (fun x y : Double => x.equals y) a.asNumber? b.asNumber? := by
  cases h with
  | same =>
    cases hread : a.asNumber? with
    | none => exact .none
    | some n => exact .some (Double.equals_self (isFinite_of_asNumber? hread))
  | zeros s t => exact .some (Double.zeroOf_equals s t)
  | array | object => exact .none

end SeenAlike

end Value

/-! ## Matching -/

/-- Both answers accept, with equal values to keep, or both are the same error. -/
abbrev MatchResult.Alike (a b : Value) : MatchResult → MatchResult → Prop :=
  Corresponds Eq fun m m' => (m.keep a).equals (m'.keep b)

section Alike

variable {a b : Value}

/-- What matches as it is is kept as it is, so only a canonical form has to be looked at. -/
theorem MatchResult.alike_self {r : MatchResult} (h : a.equals b)
    (hcoerced : ∀ w, r = .ok (.coerced w) → w.equals w) : MatchResult.Alike a b r r := by
  cases r with
  | error e => exact .error rfl
  | ok m =>
    cases m with
    | accepted => exact .ok h
    | coerced w => exact .ok (hcoerced w rfl)

namespace Kind

theorem isFinite_rounding {k : Kind} (hk : k ∈ lenientNumbers) {n : Double} (hn : n.isFinite) :
    (k.rounding n).isFinite := by
  simp only [lenientNumbers, List.mem_cons, List.not_mem_nil, or_false] at hk
  rcases hk with rfl | rfl | rfl | rfl
  · exact Double.isFinite_of_isWhole (isWhole_rounding (by decide) hn)
  · exact Double.isFinite_of_isWhole (isWhole_rounding (by decide) hn)
  · exact hn
  · exact hn

/-- No canonical form of a kind is NaN. -/
theorem coerced_equals_self {k : Kind} {v w : Value} (h : k.matchValue v = .ok (.coerced w)) :
    w.equals w := by
  by_cases hk : k ∈ lenientNumbers
  · obtain ⟨n, hn, heq⟩ := (lenient_ok_iff hk).1 h
    cases heq
    exact Double.equals_self (isFinite_rounding hk (Value.isFinite_of_asNumber? hn))
  · cases k with
    | boolean =>
      cases h
      simp [Value.equals]
    | int | roundInt | float | number => exact absurd (by decide) hk
    | strictInt =>
      obtain ⟨-, -, -, ⟨⟩⟩ := strictInt_ok_iff.1 h
    | strictFloat =>
      obtain ⟨-, -, -, ⟨⟩⟩ := strictFloat_ok_iff.1 h
    | _ =>
      obtain ⟨-, ⟨⟩⟩ := MatchResult.acceptIf_ok.1 h

theorem rounding_zeros_equals {k : Kind} (hk : k ∈ lenientNumbers) (negative negative' : Bool) :
    (k.rounding (.zeroOf negative)).equals (k.rounding (.zeroOf negative')) := by
  have hzero (s : Bool) : ∃ s', k.rounding (.zeroOf s) = .zeroOf s' :=
    (rounding_zeroOf hk s).elim (⟨false, ·⟩) (⟨s, ·⟩)
  obtain ⟨s, hs⟩ := hzero negative
  obtain ⟨s', hs'⟩ := hzero negative'
  rw [hs, hs']
  exact Double.zeroOf_equals s s'

theorem matchValue_eq {k : Kind} (hk : k ∉ lenientNumbers) (hseen : a.SeenAlike b) :
    k.matchValue a = k.matchValue b := by
  cases k with
  | int | roundInt | float | number => exact absurd (by decide) hk
  | _ => cases hseen <;> rfl

/-- **Kinds take values alike that are seen alike.** -/
theorem matchValue_alike (k : Kind) (hseen : a.SeenAlike b) (h : a.equals b) :
    MatchResult.Alike a b (k.matchValue a) (k.matchValue b) := by
  by_cases hk : k ∈ lenientNumbers
  · cases hseen with
    | same => exact MatchResult.alike_self h fun w => coerced_equals_self
    | zeros s t =>
      rw [matchValue_lenient hk, matchValue_lenient hk]
      exact .ok (rounding_zeros_equals hk s t)
    | array | object =>
      rw [matchValue_lenient hk, matchValue_lenient hk]
      exact .error rfl
  · rw [matchValue_eq hk hseen]
    exact MatchResult.alike_self h fun w => coerced_equals_self

end Kind

theorem NominalType.matchValue_eq (n : NominalType) (hseen : a.SeenAlike b) :
    n.matchValue a = n.matchValue b := by
  cases hseen <;> rfl

theorem Pattern.matchValue_eq (p : Pattern) (hseen : a.SeenAlike b) :
    p.matchValue a = p.matchValue b := by
  simp only [matchValue, hseen.asText?_eq, hseen.mismatch_eq]

/-- What a pattern makes of a value is a text. -/
theorem Pattern.coerced_equals_self {p : Pattern} {v w : Value}
    (h : p.matchValue v = .ok (.coerced w)) : w.equals w := by
  obtain ⟨s, heq, -⟩ := Pattern.matchValue_ok h
  cases heq
  simp [Value.equals]

/-! ### Predicates -/

/-- What a match takes from the answer of a predicate. -/
inductive Verdict where
  | failed (fault : Fault)
  | pending
  | answered (truthy : Bool)

namespace Predicate

/-- The predicate's verdict on a value. -/
def verdict (p : Predicate) (v : Value) : Verdict :=
  match p.check v with
  | .error fault => .failed fault
  | .ok (.pending _) => .pending
  | .ok (.ready answer) => .answered answer.isTruthy

theorem result_matchValue (p : Predicate) (v : Value) :
    (p.matchValue v).result =
      match p.verdict v with
      | .failed fault => .error (.raised p.name fault)
      | .pending =>
        .error (.mismatch (.of (.predicate p) v (some "validators must be synchronous")))
      | .answered truthy =>
        .acceptIf truthy
          (.of (.predicate p) v (some ("rejected by validator '" ++ p.name ++ "'"))) := by
  unfold matchValue verdict
  rcases p.check v with fault | answer
  · rfl
  · cases answer <;> rfl

theorem matchValue_eq (p : Predicate) (hseen : a.SeenAlike b)
    (hverdict : p.verdict a = p.verdict b) :
    (p.matchValue a).result = (p.matchValue b).result := by
  simp only [result_matchValue, hverdict, hseen.mismatch_eq]

/-- Predicates make nothing of a value. -/
theorem not_coerced {p : Predicate} {v w : Value} : (p.matchValue v).result ≠ .ok (.coerced w) := by
  intro h
  obtain ⟨⟨⟩, -⟩ := Predicate.matchValue_ok h

end Predicate

namespace Descriptor

/-- The predicate is the descriptor, or in one of the members of a union. -/
inductive Uses (p : Predicate) : Descriptor → Prop
  | self : Uses p (.predicate p)
  | member {d : Descriptor} {members : List Descriptor} (hd : d ∈ members) (h : Uses p d) :
      Uses p (.union members)

/-! ### Descriptors -/

mutual

/-- **Descriptors take values alike that are seen alike**, if their predicates do. -/
theorem matchValue_alike (d : Descriptor) (hseen : a.SeenAlike b) (h : a.equals b)
    (hverdicts : ∀ p, d.Uses p → p.verdict a = p.verdict b) :
    MatchResult.Alike a b (d.matchValue a).result (d.matchValue b).result := by
  cases d with
  | kind k => exact k.matchValue_alike hseen h
  | nominal n =>
    show MatchResult.Alike a b (n.matchValue a) (n.matchValue b)
    rw [n.matchValue_eq hseen]
    exact MatchResult.alike_self h fun w hw => by cases (MatchResult.acceptIf_ok.1 hw).2
  | pattern p =>
    show MatchResult.Alike a b (p.matchValue a) (p.matchValue b)
    rw [p.matchValue_eq hseen]
    exact MatchResult.alike_self h fun w => Pattern.coerced_equals_self
  | predicate p =>
    show MatchResult.Alike a b (p.matchValue a).result (p.matchValue b).result
    rw [p.matchValue_eq hseen (hverdicts p .self)]
    exact MatchResult.alike_self h fun w hw => (Predicate.not_coerced hw).elim
  | union members =>
    have hmembers := matchMembers_alike members hseen h fun p d hd hp => hverdicts p (.member hd hp)
    cases hseen with
    | same =>
      cases a with
      | undefined =>
        exact MatchResult.alike_self h fun w hw => by cases (MatchResult.acceptIf_ok.1 hw).2
      | null => exact .ok h
      | _ => exact hmembers _
    | zeros | array | object => exact hmembers _
  termination_by structural d

theorem matchMembers_alike (members : List Descriptor) (hseen : a.SeenAlike b) (h : a.equals b)
    (hverdicts : ∀ p, ∀ d ∈ members, d.Uses p → p.verdict a = p.verdict b) (otherwise : Mismatch) :
    MatchResult.Alike a b (matchMembers a otherwise members).result
      (matchMembers b otherwise members).result := by
  cases members with
  | nil => exact .error rfl
  | cons d ds =>
    have hrest := matchMembers_alike ds hseen h
      (fun p d' hd' => hverdicts p d' (List.mem_cons_of_mem _ hd')) otherwise
    have hfirst := matchValue_alike d hseen h fun p => hverdicts p d List.mem_cons_self
    rw [matchMembers, matchMembers]
    split
    · exact hrest
    · rw [Traced.result_bind, Traced.result_bind]
      generalize (d.matchValue a).result = r at hfirst ⊢
      generalize (d.matchValue b).result = r' at hfirst ⊢
      cases hfirst with
      | ok => exact .ok h
      | error he =>
        subst he
        rename_i e
        cases e with
        | mismatch => exact hrest
        | raised => exact .error rfl
  termination_by structural members

end

end Descriptor

end Alike

/-! ## Equal values -/

/-- No difference between the two values is seen, but that a number that is read or kept may be a
zero of another sign. -/
structure Value.TreatedAlike (a b : Value) : Prop where
  kindName : a.kindName = b.kindName
  describe : a.describe = b.describe
  isTruthy : a.isTruthy = b.isTruthy
  asText : a.asText? = b.asText?
  asNumber : Option.Rel (fun x y : Double => x.equals y) a.asNumber? b.asNumber?
  /-- Of the predicates of a descriptor it matters only what they say of these two values. -/
  matchValue : ∀ d : Descriptor, (∀ p, d.Uses p → p.verdict a = p.verdict b) →
    MatchResult.Alike a b (d.matchValue a).result (d.matchValue b).result

/-- **Equal values are treated alike**, if the functions, instances and symbols in them are clones
of the same originals. -/
theorem Value.equal_treatedAlike {o : Originals} {a b : Value} (ha : a.ClonedFrom o)
    (hb : b.ClonedFrom o) (h : a.equals b) : a.TreatedAlike b :=
  have hseen := seenAlike_of_equals ha hb h
  { kindName := hseen.kindName_eq
    describe := hseen.describe_eq
    isTruthy := hseen.isTruthy_eq
    asText := hseen.asText?_eq
    asNumber := hseen.asNumber?_rel
    matchValue := fun d => d.matchValue_alike hseen h }

/-- Arrays of a zero and a function, with zeros of either sign and clones of one function. -/
theorem Value.zeros_beside_clones_treatedAlike :
    (array [.number (.zeroOf true), .function "f" 7]).TreatedAlike
      (array [.number (.zeroOf false), .function "f" 7]) := by
  let o : Originals :=
    { functionName := fun _ => "f", hostType := fun i => ⟨"", i⟩, description := fun _ => "" }
  have hcloned : ∀ negative,
      ClonedFrom o (.array [.number (.zeroOf negative), .function "f" 7]) := by
    intro negative
    refine .array fun v hv => ?_
    simp only [List.mem_cons, List.not_mem_nil, or_false] at hv
    rcases hv with rfl | rfl
    · exact .number _
    · exact ClonedFrom.function 7
  exact equal_treatedAlike (hcloned true) (hcloned false) (by decide)

end CallContract
