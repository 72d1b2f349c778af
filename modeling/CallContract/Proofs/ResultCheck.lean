import CallContract.Proofs.Matching
import CallContract.Validation.Match

/-!
# How results are read

**Theorem (`checkResult_reading`).** The check of a result and the matcher agree on every value and
every descriptor, with two exceptions. A descriptor that is just `optional` or `undefined` leaves
the result unchecked. Null matches every union as a parameter; as a result it is up to the members.
Where both refuse, they refuse for the same cause.

A union goes through its members in two places, once with a reason for its refusal and once without.
What the members say of a value does not depend on that reason, and is said apart from both
(`Tries`): they are tried in order, up to the first that accepts the value or of which a predicate
fails. Both places find just that (`matchMembers_of_tries`), so they cannot differ in anything but
the reason.
-/

namespace CallContract

/-! ## Trying descriptors in order -/

/-- What comes of trying some descriptors on a value. -/
inductive Trial where
  | accepted
  /-- A predicate has failed. -/
  | raised (name : String) (fault : Fault)
  | refused

namespace Trial

/-- The answer of the matcher for a trial of the members of a union. -/
def matched (otherwise : Mismatch) : Trial → MatchResult
  | accepted => .ok .accepted
  | raised name fault => .error (.raised name fault)
  | refused => .error (.mismatch otherwise)

/-- The answer of a check of a result for a trial of the members of a union. -/
def checked (otherwise : Mismatch) : Trial → Except CallError Unit
  | accepted => .ok ()
  | raised name fault => .error (.predicateRaised .result name fault)
  | refused => .error (.returnTypeMismatch otherwise)

theorem checked_matched (otherwise : Mismatch) (t : Trial) :
    MatchResult.checked (t.matched otherwise) = t.checked otherwise := by
  cases t <;> rfl

theorem checked_injective {otherwise : Mismatch} {t t' : Trial}
    (h : t.checked otherwise = t'.checked otherwise) : t = t' := by
  cases t <;> cases t' <;> simp_all [checked]

end Trial

namespace Descriptor

/-- The value does not match, though no predicate has failed. -/
def Mismatches (d : Descriptor) (v : Value) : Prop :=
  ∃ m, (d.matchValue v).result = .error (.mismatch m)

/-- A predicate fails on the value. -/
def Raises (d : Descriptor) (v : Value) (name : String) (fault : Fault) : Prop :=
  (d.matchValue v).result = .error (.raised name fault)

theorem accepts_or_mismatches_or_raises (d : Descriptor) (v : Value) :
    d.Accepts v ∨ d.Mismatches v ∨ ∃ name fault, d.Raises v name fault := by
  unfold Accepts Mismatches Raises
  cases (d.matchValue v).result with
  | ok m => exact .inl ⟨m, rfl⟩
  | error e =>
    cases e with
    | mismatch m => exact .inr (.inl ⟨m, rfl⟩)
    | raised name fault => exact .inr (.inr ⟨name, fault, rfl⟩)

/-- Descriptors are tried on a value in order. The first that does not just mismatch decides, and if
there is none the value is refused. -/
inductive Tries (v : Value) (ds : List Descriptor) : Trial → Prop
  | accepted (before : List Descriptor) (d : Descriptor) (after : List Descriptor)
      (hds : ds = before ++ d :: after) (hbefore : ∀ b ∈ before, b.Mismatches v)
      (hd : d.Accepts v) : Tries v ds .accepted
  | raised (before : List Descriptor) (d : Descriptor) (after : List Descriptor)
      {name : String} {fault : Fault} (hds : ds = before ++ d :: after)
      (hbefore : ∀ b ∈ before, b.Mismatches v) (hd : d.Raises v name fault) :
      Tries v ds (.raised name fault)
  | refused (hds : ∀ d ∈ ds, d.Mismatches v) : Tries v ds .refused

namespace Tries

variable {v : Value} {d : Descriptor} {ds : List Descriptor} {t : Trial}

/-- A descriptor that mismatches leaves the decision to those after it. -/
theorem cons (hd : d.Mismatches v) (h : Tries v ds t) : Tries v (d :: ds) t := by
  cases h with
  | accepted before d' after hds hbefore hd' =>
    refine .accepted (d :: before) d' after (by rw [hds]; rfl) ?_ hd'
    exact List.forall_mem_cons.2 ⟨hd, hbefore⟩
  | raised before d' after hds hbefore hd' =>
    refine .raised (d :: before) d' after (by rw [hds]; rfl) ?_ hd'
    exact List.forall_mem_cons.2 ⟨hd, hbefore⟩
  | refused hds => exact .refused (List.forall_mem_cons.2 ⟨hd, hds⟩)

/-- Either the first descriptor decides, or it mismatches and the others do. -/
theorem of_cons (h : Tries v (d :: ds) t) :
    (d.Accepts v ∧ t = .accepted) ∨
      (∃ name fault, d.Raises v name fault ∧ t = .raised name fault) ∨
      (d.Mismatches v ∧ Tries v ds t) := by
  cases h with
  | accepted before d' after hds hbefore hd' =>
    cases before with
    | nil =>
      cases hds
      exact .inl ⟨hd', rfl⟩
    | cons b before =>
      cases hds
      have hrest := List.forall_mem_cons.1 hbefore
      exact .inr (.inr ⟨hrest.1, .accepted before d' after rfl hrest.2 hd'⟩)
  | @raised before d' after name fault hds hbefore hd' =>
    cases before with
    | nil =>
      cases hds
      exact .inr (.inl ⟨name, fault, hd', rfl⟩)
    | cons b before =>
      cases hds
      have hrest := List.forall_mem_cons.1 hbefore
      exact .inr (.inr ⟨hrest.1, .raised before d' after rfl hrest.2 hd'⟩)
  | refused hds =>
    have hrest := List.forall_mem_cons.1 hds
    exact .inr (.inr ⟨hrest.1, .refused hrest.2⟩)

theorem nil_iff : Tries v [] t ↔ t = .refused := by
  constructor
  · intro h
    cases h with
    | accepted before d after hds => simp at hds
    | raised before d after hds => simp at hds
    | refused => rfl
  · rintro rfl
    exact .refused (by simp)

/-- Every value is tried to some end. -/
theorem exists_trial (v : Value) (ds : List Descriptor) : ∃ t, Tries v ds t := by
  induction ds with
  | nil => exact ⟨.refused, nil_iff.2 rfl⟩
  | cons d ds ih =>
    rcases d.accepts_or_mismatches_or_raises v with hd | hd | ⟨name, fault, hd⟩
    · exact ⟨.accepted, .accepted [] d ds rfl (by simp) hd⟩
    · obtain ⟨t, ht⟩ := ih
      exact ⟨t, ht.cons hd⟩
    · exact ⟨.raised name fault, .raised [] d ds rfl (by simp) hd⟩

end Tries

/-! ## The members of a union -/

/-- The members of a union that are tried. -/
def deciding (members : List Descriptor) : List Descriptor :=
  members.filter fun d => !d.permitsAbsence

/-- **The matcher tries the members that do not permit absence**, whatever the mismatch is that it
answers if all of them refuse. -/
theorem matchMembers_of_tries {v : Value} {members : List Descriptor} {t : Trial}
    (h : Tries v (deciding members) t) (otherwise : Mismatch) :
    (matchMembers v otherwise members).result = t.matched otherwise := by
  induction members with
  | nil =>
    obtain rfl := Tries.nil_iff.1 h
    rfl
  | cons d ds ih =>
    rw [matchMembers]
    by_cases habs : d.permitsAbsence
    · have hskip : deciding (d :: ds) = deciding ds := by simp [deciding, habs]
      rw [if_pos habs]
      exact ih (hskip ▸ h)
    · have htried : deciding (d :: ds) = d :: deciding ds := by simp [deciding, habs]
      rw [if_neg habs, Traced.result_bind]
      rw [htried] at h
      rcases h.of_cons with ⟨⟨m, hm⟩, rfl⟩ | ⟨name, fault, hraised, rfl⟩ | ⟨⟨m, hm⟩, hrest⟩
      · rw [hm]
        rfl
      · rw [hraised]
        rfl
      · rw [hm]
        exact ih hrest

/-- A result that is present and checked against a union is tried on the members. -/
theorem checkResult_union {v : Value} {members : List Descriptor} {t : Trial}
    (hv : v.isUndefined = false) (h : Tries v (deciding members) t) :
    ((union members).checkResult v).result = t.checked (.of (union members) v) := by
  rw [checkResult, if_neg (by simp [hv]), Traced.result_map, matchMembers_of_tries h,
    Trial.checked_matched]

/-- So is an argument, if it is not null. -/
theorem matchValue_union {v : Value} {members : List Descriptor} {t : Trial}
    (hv : v.isUndefined = false) (hnull : v ≠ .null) (h : Tries v (deciding members) t) :
    ((union members).matchValue v).result =
      t.matched (.of (union members) v (some "no member of the union matched")) := by
  cases v with
  | undefined => cases hv
  | null => exact (hnull rfl).elim
  | _ => exact matchMembers_of_tries h _

/-! ## The two readings -/

/-- The check of a result and the matcher may differ: the result is left unchecked, or it is null
and up to the members of a union. -/
def ReadsApart (d : Descriptor) (v : Value) : Prop :=
  d = .kind .optional ∨ d = .kind .undefined ∨ d.isUnion ∧ v = .null

/-- The error of a result for an error of the matcher. A union gives no reason. -/
def resultError (d : Descriptor) : MatchError → CallError
  | .mismatch m => .returnTypeMismatch { m with reason := if d.isUnion then none else m.reason }
  | .raised name fault => .predicateRaised .result name fault

/-- The answer of the matcher, as that of a check of a result. -/
def readAsResult (d : Descriptor) : MatchResult → Except CallError Unit
  | .ok _ => .ok ()
  | .error e => .error (d.resultError e)

theorem readAsResult_of_not_union {d : Descriptor} (hd : d.isUnion = false) (r : MatchResult) :
    d.readAsResult r = r.checked := by
  cases r with
  | ok m => rfl
  | error e => cases e <;> simp [readAsResult, resultError, MatchResult.checked,
      MatchError.atResult, hd]

theorem readAsResult_matched (members : List Descriptor) (v : Value) (reason : Option String)
    (t : Trial) :
    (union members).readAsResult (t.matched (.of (union members) v reason)) =
      t.checked (.of (union members) v) := by
  cases t <;> rfl

/-- A result that is absent is treated like an argument by a union. -/
theorem checkResult_union_undefined (members : List Descriptor) :
    ((union members).checkResult .undefined).result =
      (union members).readAsResult ((union members).matchValue .undefined).result := by
  simp only [checkResult, matchValue, Value.isUndefined, Traced.result_pure]
  by_cases habs : anyPermitsAbsence members
  · simp [habs, MatchResult.acceptIf, readAsResult]
  · simp [habs, MatchResult.acceptIf, readAsResult, resultError, isUnion, Mismatch.of]

/-- **A result is read like an argument**, unless the two may differ. -/
theorem checkResult_eq_readAsResult {d : Descriptor} {v : Value} (h : ¬ d.ReadsApart v) :
    (d.checkResult v).result = d.readAsResult (d.matchValue v).result := by
  cases d with
  | kind k =>
    rw [readAsResult_of_not_union rfl]
    cases k with
    | optional => exact (h (.inl rfl)).elim
    | undefined => exact (h (.inr (.inl rfl))).elim
    | void =>
      -- the one kind for which the matcher is not asked, though it would say the same
      by_cases hv : v.isUndefined <;>
        simp [checkResult, matchValue, Kind.matchValue, MatchResult.acceptIf, MatchResult.checked,
          MatchError.atResult, hv]
    | _ => rfl
  | union members =>
    by_cases hv : v.isUndefined
    · obtain rfl := Value.isUndefined_iff.1 hv
      exact checkResult_union_undefined members
    · have hpresent : v.isUndefined = false := Bool.eq_false_iff.2 hv
      have hnull : v ≠ .null := fun hnull => h (.inr (.inr ⟨rfl, hnull⟩))
      obtain ⟨t, ht⟩ := Tries.exists_trial v (deciding members)
      rw [checkResult_union hpresent ht, matchValue_union hpresent hnull ht, readAsResult_matched]
  | nominal _ | pattern _ | predicate _ => exact (readAsResult_of_not_union rfl _).symm

/-- How the check of a result against a descriptor compares with the matcher on a value. -/
structure ResultReading (d : Descriptor) (v : Value) : Prop where
  /-- Both accept the same values, unless they may differ. -/
  accepts : ¬ d.ReadsApart v → ((d.checkResult v).result = .ok () ↔ d.Accepts v)
  /-- A descriptor that is just `optional` or `undefined` accepts every result, of which only an
  absent one matches. -/
  unchecked : d = .kind .optional ∨ d = .kind .undefined →
    (d.checkResult v).result = .ok () ∧ (d.Accepts v ↔ v = .undefined)
  /-- Null matches every union. As a result it is tried on the members that do not permit
  absence. -/
  null : ∀ members, d = .union members → v = .null →
    d.Accepts v ∧
      ∀ t, (d.checkResult v).result = t.checked (.of d v) ↔ Tries v (deciding members) t
  /-- Where both refuse, they do so for the same cause, but that a union gives no reason. -/
  failure : ∀ e e', (d.matchValue v).result = .error e → (d.checkResult v).result = .error e' →
    e' = d.resultError e

theorem accepts_marker_iff {k : Kind} (hk : k.isAbsenceMarker) (v : Value) :
    (kind k).Accepts v ↔ v = .undefined := by
  have hmatch : (kind k).matchValue v = .pure (.acceptIf v.isUndefined (.of (.kind k) v)) :=
    congrArg Traced.pure (Kind.matchValue_marker hk v)
  rw [Accepts, hmatch, ← Value.isUndefined_iff]
  simp [MatchResult.acceptIf_ok]

/-- Whatever comes of trying null on the members is what comes of the check. -/
theorem checkResult_union_null_iff (members : List Descriptor) (t : Trial) :
    ((union members).checkResult .null).result = t.checked (.of (union members) .null) ↔
      Tries .null (deciding members) t := by
  constructor
  · intro h
    obtain ⟨t', ht'⟩ := Tries.exists_trial .null (deciding members)
    rw [checkResult_union rfl ht'] at h
    obtain rfl := Trial.checked_injective h
    exact ht'
  · intro h
    exact checkResult_union rfl h

/-- Where the two may differ, one of them accepts. -/
theorem ReadsApart.accepts {d : Descriptor} {v : Value} (h : d.ReadsApart v) :
    (d.checkResult v).result = .ok () ∨ d.Accepts v := by
  rcases h with rfl | rfl | ⟨hd, rfl⟩
  · exact .inl rfl
  · exact .inl rfl
  · cases d with
    | union members => exact .inr ⟨.accepted, rfl⟩
    | _ => cases hd

/-- **How every result is read** against every descriptor. -/
theorem checkResult_reading (d : Descriptor) (v : Value) : d.ResultReading v where
  accepts := by
    intro hd
    rw [checkResult_eq_readAsResult hd, Accepts]
    cases (d.matchValue v).result <;> simp [readAsResult]
  unchecked := by
    rintro (rfl | rfl)
    · exact ⟨rfl, accepts_marker_iff rfl v⟩
    · exact ⟨rfl, accepts_marker_iff rfl v⟩
  null := by
    rintro members rfl rfl
    exact ⟨⟨.accepted, rfl⟩, checkResult_union_null_iff members⟩
  failure := by
    intro e e' hmatch hcheck
    by_cases hd : d.ReadsApart v
    · rcases hd.accepts with hok | ⟨m, hm⟩
      · rw [hok] at hcheck
        cases hcheck
      · rw [hm] at hmatch
        cases hmatch
    · rw [checkResult_eq_readAsResult hd, hmatch] at hcheck
      exact (Except.error.inj hcheck).symm

/-- Null passes for the sake of a member that coerces it, and not for that of an absence marker. -/
example :
    ((union [.kind .string, .kind .boolean]).checkResult .null).result = .ok () ∧
    (union [.kind .string, .kind .optional]).Accepts .null ∧
    ((union [.kind .string, .kind .optional]).checkResult .null).result =
      .error (.returnTypeMismatch { expected := "string | optional", actual := "null" }) :=
  ⟨rfl, ⟨.accepted, rfl⟩, rfl⟩

end Descriptor

end CallContract
