import CallContract.Proofs.Place
import CallContract.Proofs.Rounding

/-!
# What a match says about the value

`Descriptor.Holds` says what a value must be to conform to a descriptor, without the matcher: one
line for each kind, and one for each of the other descriptors. The one inversion lemma of the
matcher is `Descriptor.matchValue_ok`: a match either accepts the value, and the descriptor holds
of it, or gives it a canonical form, of which the descriptor holds and which matches in that same
form.

Only kinds and patterns have canonical forms. That each is its own canonical form comes down to
three facts: a boolean is its own truth value, a whole number is its own rounding, and a text is
its own text.
-/

namespace CallContract

/-! ## Conformance -/

/-- What a value that is present must be to conform to a kind. -/
def Kind.Holds : Kind → Value → Prop
  | any, v => v ≠ .undefined
  | null, v => v = .null
  | string, v => ∃ s, v = .string s
  | array, v => ∃ items, v = .array items
  | function, v => ∃ name identity, v = .function name identity
  | object, v =>
    (∃ fields, v = .object fields) ∨ ∃ type identity, v = .instance type identity
  | boolean, v => ∃ b, v = .bool b
  | strictBoolean, v => ∃ b, v = .bool b
  | int, v => ∃ n, v = .number n ∧ n.isFinite ∧ n.isWhole
  | roundInt, v => ∃ n, v = .number n ∧ n.isFinite ∧ n.isWhole
  | strictInt, v => ∃ n, v = .number n ∧ n.isFinite ∧ n.isWhole
  | float, v => ∃ n, v = .number n ∧ n.isFinite
  | number, v => ∃ n, v = .number n ∧ n.isFinite
  | strictFloat, v => ∃ n, v = .number n ∧ n.isFinite
  | optional, _ => False
  | undefined, _ => False
  | void, _ => False

namespace Descriptor

/-- The value matches the descriptor, as it is or in a canonical form. -/
def Accepts (d : Descriptor) (v : Value) : Prop := ∃ m, (d.matchValue v).result = .ok m

/-- What a value that is present must be to conform to a descriptor. -/
def Holds : Descriptor → Value → Prop
  | kind k, v => k.Holds v
  | nominal n, v => ∃ type identity, v = .instance type identity ∧ type.identity = n.type.identity
  | pattern p, v => ∃ s, v = .string s ∧ p.isMatch s
  | predicate p, v => ∃ answer, p.check v = .ok (.ready answer) ∧ answer.isTruthy
  | union members, v => v = .null ∨ ∃ d ∈ members, d.permitsAbsence = false ∧ d.Accepts v

/-- What a slot with this descriptor may hold: nothing, if absence is permitted, or a value of which
the descriptor holds. -/
def Conforms (d : Descriptor) (v : Value) : Prop :=
  (v = .undefined → d.permitsAbsence) ∧ (v ≠ .undefined → d.Holds v)

end Descriptor

/-- The value matches the kind, as it is or in another form. -/
def Kind.Accepts (k : Kind) (v : Value) : Prop := (Descriptor.kind k).Accepts v

theorem Kind.accepts_iff {k : Kind} {v : Value} : k.Accepts v ↔ ∃ m, k.matchValue v = .ok m :=
  Iff.rfl

/-! ## Kinds -/

theorem MatchResult.acceptIf_ok {condition : Bool} {otherwise : Mismatch} {m : Matched} :
    MatchResult.acceptIf condition otherwise = .ok m ↔ condition ∧ m = .accepted := by
  cases condition <;> simp [MatchResult.acceptIf, eq_comm]

theorem Value.asNumber?_number {n : Double} (hn : n.isFinite) :
    (Value.number n).asNumber? = some n := if_pos hn

theorem Double.isFinite_ofNat {n : Nat} (hn : n ≤ twoTo 53) :
    (OfNat.ofNat n : Double).isFinite := by
  have hliteral : (OfNat.ofNat n : Double) = ofNat n := rfl
  rw [hliteral, ofNat, ofUnits_of_representable false (.of_whole hn)]
  rfl

/-- The numbers that values are read as are finite. -/
theorem Value.isFinite_of_asNumber? {v : Value} {n : Double} (h : v.asNumber? = some n) :
    n.isFinite := by
  cases v with
  | number x =>
    simp only [asNumber?, Option.ite_none_right_eq_some] at h
    obtain ⟨hx, heq⟩ := h
    exact Option.some.inj heq ▸ hx
  | bool b =>
    simp only [asNumber?, Option.some.injEq] at h
    subst h
    split
    · exact Double.isFinite_ofNat (twoTo_pos 53)
    · exact Double.isFinite_ofNat (Nat.zero_le _)
  | string s =>
    simp only [asNumber?, Double.ofText?, Option.filter_eq_some_iff] at h
    exact h.2
  | _ => simp [asNumber?] at h

namespace Kind

theorem matchNumber_ok_iff {k : Kind} {v : Value} {rounding : Double → Double} {m : Matched} :
    k.matchNumber v rounding = .ok m ↔
      ∃ n, v.asNumber? = some n ∧ m = .coerced (.number (rounding n)) := by
  rw [matchNumber]
  cases v.asNumber? with
  | none => simp
  | some n => simp [eq_comm]

theorem matchNumber_ok {k : Kind} {v : Value} {rounding : Double → Double} {m : Matched}
    (h : k.matchNumber v rounding = .ok m) :
    ∃ n, n.isFinite ∧ m = .coerced (.number (rounding n)) := by
  obtain ⟨n, hn, rfl⟩ := matchNumber_ok_iff.1 h
  exact ⟨n, Value.isFinite_of_asNumber? hn, rfl⟩

theorem matchNumber_number {k : Kind} {n : Double} (hn : n.isFinite) {rounding : Double → Double}
    (hfixed : rounding n = n) :
    k.matchNumber (.number n) rounding = .ok (.coerced (.number n)) := by
  rw [matchNumber, Value.asNumber?_number hn]
  show Except.ok (Matched.coerced (.number (rounding n))) = _
  rw [hfixed]

/-- A whole number that a rounding has given is its own rounding. -/
theorem rounded_ok {k : Kind} {v : Value} {round : Double → Double} {m : Matched}
    (hwhole : ∀ n : Double, n.isFinite → (round n).isWhole)
    (hfixed : ∀ n : Double, n.isWhole → round n = n)
    (h : k.matchNumber v (fun n => (round n).unsignedZero) = .ok m) :
    ∃ n : Double, m = .coerced (.number n) ∧ n.isWhole ∧
      k.matchNumber (.number n) (fun n => (round n).unsignedZero) =
        .ok (.coerced (.number n)) := by
  obtain ⟨n, hn, rfl⟩ := matchNumber_ok h
  have hw : (round n).unsignedZero.isWhole := Double.isWhole_unsignedZero (hwhole n hn)
  refine ⟨_, rfl, hw, matchNumber_number (Double.isFinite_of_isWhole hw) ?_⟩
  rw [hfixed _ hw, Double.unsignedZero_unsignedZero]

/-- The absence markers match the same value, and differ in the text of a mismatch. -/
theorem matchValue_marker {k : Kind} (h : k.isAbsenceMarker) (v : Value) :
    k.matchValue v = .acceptIf v.isUndefined (.of (.kind k) v) := by
  cases k with
  | optional | undefined | void => rfl
  | _ => cases h

/-- **What a kind makes of a value that is present.** -/
theorem matchValue_ok {k : Kind} {v : Value} {m : Matched} (hv : v.isUndefined = false)
    (h : k.matchValue v = .ok m) :
    (m = .accepted ∧ k.Holds v) ∨
      ∃ w, m = .coerced w ∧ w.isUndefined = false ∧ k.Holds w ∧
        k.matchValue w = .ok (.coerced w) := by
  cases k with
  | any =>
    obtain ⟨-, rfl⟩ := MatchResult.acceptIf_ok.1 h
    exact .inl ⟨rfl, Value.isUndefined_eq_false.1 hv⟩
  | optional | undefined | void =>
    obtain ⟨habsent, -⟩ := MatchResult.acceptIf_ok.1 h
    rw [hv] at habsent
    cases habsent
  | null | string | object | array | function | strictBoolean =>
    obtain ⟨hform, rfl⟩ := MatchResult.acceptIf_ok.1 h
    refine .inl ⟨rfl, ?_⟩
    cases v <;> simp_all [Holds, Value.isNull]
  | boolean =>
    cases h
    exact .inr ⟨_, rfl, rfl, ⟨_, rfl⟩, rfl⟩
  | int =>
    obtain ⟨n, rfl, hn, hagain⟩ :=
      rounded_ok (fun _ => Double.isWhole_truncate) (fun _ => Double.truncate_of_isWhole) h
    exact .inr ⟨_, rfl, rfl, ⟨n, rfl, Double.isFinite_of_isWhole hn, hn⟩, hagain⟩
  | roundInt =>
    obtain ⟨n, rfl, hn, hagain⟩ := rounded_ok (fun _ => Double.isWhole_roundHalfAway)
      (fun _ => Double.roundHalfAway_of_isWhole) h
    exact .inr ⟨_, rfl, rfl, ⟨n, rfl, Double.isFinite_of_isWhole hn, hn⟩, hagain⟩
  | float | number =>
    obtain ⟨n, hn, rfl⟩ := matchNumber_ok h
    exact .inr ⟨_, rfl, rfl, ⟨n, rfl, hn⟩, matchNumber_number hn rfl⟩
  | strictInt =>
    cases v with
    | number n =>
      obtain ⟨hn, rfl⟩ := MatchResult.acceptIf_ok.1 h
      exact .inl ⟨rfl, n, rfl, Double.isFinite_of_isWhole hn, hn⟩
    | _ => cases h
  | strictFloat =>
    cases v with
    | number n =>
      obtain ⟨hn, rfl⟩ := MatchResult.acceptIf_ok.1 h
      exact .inl ⟨rfl, n, rfl, hn⟩
    | _ => cases h

end Kind

/-! ## The other descriptors -/

theorem NominalType.matchValue_ok {n : NominalType} {v : Value} {m : Matched}
    (h : n.matchValue v = .ok m) :
    m = .accepted ∧
      ∃ type identity, v = .instance type identity ∧ type.identity = n.type.identity := by
  obtain ⟨hinstance, rfl⟩ := MatchResult.acceptIf_ok.1 h
  refine ⟨rfl, ?_⟩
  cases v <;> simp_all [Value.isInstanceOf]

theorem Pattern.matchValue_ok {p : Pattern} {v : Value} {m : Matched} (h : p.matchValue v = .ok m) :
    ∃ s, m = .coerced (.string s) ∧ p.isMatch s := by
  unfold matchValue at h
  split at h
  case h_1 => cases h
  case h_2 s _ =>
    split at h
    case isTrue hs => exact ⟨s, (Except.ok.inj h).symm, hs⟩
    case isFalse => cases h

theorem Pattern.matchValue_string {p : Pattern} {s : String} (hs : p.isMatch s) :
    p.matchValue (.string s) = .ok (.coerced (.string s)) := if_pos hs

theorem Predicate.matchValue_ok {p : Predicate} {v : Value} {m : Matched}
    (h : (p.matchValue v).result = .ok m) :
    m = .accepted ∧ ∃ answer, p.check v = .ok (.ready answer) ∧ answer.isTruthy := by
  simp only [matchValue, Traced.ofRun] at h
  split at h
  case h_1 => cases h
  case h_2 => cases h
  case h_3 answer hanswer =>
    obtain ⟨htruthy, rfl⟩ := MatchResult.acceptIf_ok.1 h
    exact ⟨rfl, answer, hanswer, htruthy⟩

namespace Descriptor

/-- A union accepts a value for the sake of one of its members. -/
theorem matchMembers_ok {v : Value} {otherwise : Mismatch} {members : List Descriptor} {m : Matched}
    (h : (matchMembers v otherwise members).result = .ok m) :
    m = .accepted ∧ ∃ d ∈ members, d.permitsAbsence = false ∧ d.Accepts v := by
  induction members with
  | nil => cases h
  | cons d ds ih =>
    -- A member that accepts further down is a member of the whole list.
    have hlater (h : (matchMembers v otherwise ds).result = .ok m) :
        m = .accepted ∧ ∃ d' ∈ d :: ds, d'.permitsAbsence = false ∧ d'.Accepts v := by
      obtain ⟨hm, d', hd', haccepts⟩ := ih h
      exact ⟨hm, d', List.mem_cons_of_mem _ hd', haccepts⟩
    rw [matchMembers] at h
    split at h
    case isTrue => exact hlater h
    case isFalse habs =>
      rw [Traced.result_bind] at h
      split at h
      case h_1 m' hm' =>
        cases h
        exact ⟨rfl, d, List.mem_cons_self, Bool.eq_false_iff.2 habs, m', hm'⟩
      case h_2 => exact hlater h
      case h_3 => cases h

/-- **What a match says about a value that is present.** -/
theorem matchValue_ok {d : Descriptor} {v : Value} {m : Matched} (hv : v.isUndefined = false)
    (h : (d.matchValue v).result = .ok m) :
    (m = .accepted ∧ d.Holds v) ∨
      ∃ w, m = .coerced w ∧ w.isUndefined = false ∧ d.Holds w ∧
        (d.matchValue w).result = .ok (.coerced w) := by
  cases d with
  | kind k => exact Kind.matchValue_ok hv h
  | nominal n => exact .inl (NominalType.matchValue_ok h)
  | pattern p =>
    obtain ⟨s, rfl, hs⟩ := Pattern.matchValue_ok h
    exact .inr ⟨_, rfl, rfl, ⟨s, rfl, hs⟩, Pattern.matchValue_string hs⟩
  | predicate p => exact .inl (Predicate.matchValue_ok h)
  | union members =>
    cases v with
    | undefined => cases hv
    | null => cases h; exact .inl ⟨rfl, .inl rfl⟩
    | _ =>
      obtain ⟨hm, hmember⟩ := matchMembers_ok h
      exact .inl ⟨hm, .inr hmember⟩

/-! ## Values that are kept -/

/-- What is kept conforms. -/
theorem Admits.conforms {d : Descriptor} {v w : Value} (h : d.Admits v w) : d.Conforms w := by
  cases h with
  | absent habs => exact ⟨fun _ => habs, fun hne => (hne rfl).elim⟩
  | matched hv hm =>
    rcases matchValue_ok hv hm with ⟨rfl, hholds⟩ | ⟨w, rfl, hw, hholds, -⟩
    · exact ⟨fun heq => (Value.isUndefined_eq_false.1 hv heq).elim, fun _ => hholds⟩
    · exact ⟨fun heq => (Value.isUndefined_eq_false.1 hw heq).elim, fun _ => hholds⟩

/-- What is kept is admitted again, and kept as it is. -/
theorem Admits.again {d : Descriptor} {v w : Value} (h : d.Admits v w) : d.Admits w w := by
  cases h with
  | absent habs => exact .absent habs
  | matched hv hm =>
    rcases matchValue_ok hv hm with ⟨rfl, -⟩ | ⟨w, rfl, hw, -, hagain⟩
    · exact .matched hv hm
    · exact .matched hw hagain

/-- A value that is present is kept as one that is present. -/
theorem Admits.undefined_iff {d : Descriptor} {v w : Value} (h : d.Admits v w) :
    w = .undefined ↔ v = .undefined := by
  cases h with
  | absent => rfl
  | matched hv hm =>
    have hne := Value.isUndefined_eq_false.1 hv
    rcases matchValue_ok hv hm with ⟨rfl, -⟩ | ⟨w, rfl, hw, -, -⟩
    · rfl
    · exact ⟨fun heq => (Value.isUndefined_eq_false.1 hw heq).elim, fun heq => (hne heq).elim⟩

end Descriptor

end CallContract
