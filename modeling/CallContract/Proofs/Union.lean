import CallContract.Proofs.ResultCheck

/-!
# How a union is matched

**Theorem (`matchValue_union_reading`).** A union never coerces. What it says of an absent value is
whether one of its members permits absence, and it accepts null in any case. Any other value is
tried on the members that do not permit absence, in order: it is accepted if one of them accepts it
before a predicate fails, and if a predicate fails first that failure is the answer.

So the order and the number of the members matter to nothing but which predicate fails first, and a
member that permits absence matters to nothing but the absent value.

`ResultCheck` has the loop over the members (`Tries`). What is left is to say where a trial ends in
terms of the members as they are written, those that are passed over among them
(`exists_deciding_iff`).
-/

namespace CallContract

namespace Trial

theorem matched_injective {otherwise : Mismatch} {t t' : Trial}
    (h : t.matched otherwise = t'.matched otherwise) : t = t' := by
  cases t <;> cases t' <;> simp_all [matched]

end Trial

namespace Descriptor

/-! ## Where a trial ends -/

/-- A mismatch is what is left when a value is not accepted and no predicate fails. -/
theorem mismatches_iff {d : Descriptor} {v : Value} :
    d.Mismatches v ↔ ¬ d.Accepts v ∧ ∀ name fault, ¬ d.Raises v name fault := by
  constructor
  · rintro ⟨m, hm⟩
    refine ⟨?_, fun name fault => ?_⟩
    · rintro ⟨m', hm'⟩
      rw [hm] at hm'
      cases hm'
    · rw [Raises, hm]
      simp
  · rintro ⟨haccepts, hraises⟩
    rcases d.accepts_or_mismatches_or_raises v with h | h | ⟨name, fault, h⟩
    · exact (haccepts h).elim
    · exact h
    · exact (hraises name fault h).elim

/-- A value is accepted for the sake of any descriptor before which no predicate fails. -/
theorem tries_accepted_iff {v : Value} {ds : List Descriptor} :
    Tries v ds .accepted ↔
      ∃ before d after, ds = before ++ d :: after ∧ d.Accepts v ∧
        ∀ b ∈ before, ∀ name fault, ¬ b.Raises v name fault := by
  constructor
  · rintro ⟨before, d, after, hds, hbefore, hd⟩
    exact ⟨before, d, after, hds, hd, fun b hb => (mismatches_iff.1 (hbefore b hb)).2⟩
  · rintro ⟨before, d, after, rfl, hd, hbefore⟩
    induction before with
    | nil => exact .accepted [] d after rfl (by simp) hd
    | cons b before ih =>
      have hrest := List.forall_mem_cons.1 hbefore
      rcases b.accepts_or_mismatches_or_raises v with hb | hb | ⟨name, fault, hb⟩
      · exact .accepted [] b _ rfl (by simp) hb
      · exact (ih hrest.2).cons hb
      · exact (hrest.1 name fault hb).elim

theorem tries_raised_iff {v : Value} {ds : List Descriptor} {name : String} {fault : Fault} :
    Tries v ds (.raised name fault) ↔
      ∃ before d after, ds = before ++ d :: after ∧ d.Raises v name fault ∧
        ∀ b ∈ before, b.Mismatches v := by
  constructor
  · intro h
    cases h with
    | raised before d after hds hbefore hd => exact ⟨before, d, after, hds, hd, hbefore⟩
  · rintro ⟨before, d, after, hds, hd, hbefore⟩
    exact .raised before d after hds hbefore hd

/-- A place among the members that are tried is a place among all members. -/
theorem exists_deciding_iff {members : List Descriptor} {P Q : Descriptor → Prop} :
    (∃ before d after, deciding members = before ++ d :: after ∧ P d ∧ ∀ b ∈ before, Q b) ↔
      ∃ before d after, members = before ++ d :: after ∧ d.permitsAbsence = false ∧ P d ∧
        ∀ b ∈ before, b.permitsAbsence = false → Q b := by
  constructor
  · rintro ⟨before, d, after, hds, hd, hbefore⟩
    obtain ⟨passed, rest, rfl, hpassed, hrest⟩ := List.filter_eq_append_iff.1 hds
    obtain ⟨skipped, left, rfl, hskipped, hdeciding, -⟩ := List.filter_eq_cons_iff.1 hrest
    refine ⟨passed ++ skipped, d, left, by simp, by simpa using hdeciding, hd, ?_⟩
    intro b hb hpresent
    rcases List.mem_append.1 hb with hb | hb
    · refine hbefore b ?_
      rw [← hpassed]
      exact List.mem_filter.2 ⟨hb, by simp [hpresent]⟩
    · exact (hskipped b hb (by simp [hpresent])).elim
  · rintro ⟨before, d, after, rfl, hpresent, hd, hbefore⟩
    refine ⟨deciding before, d, deciding after, by simp [deciding, hpresent], hd, fun b hb => ?_⟩
    obtain ⟨hb, hdeciding⟩ := List.mem_filter.1 hb
    exact hbefore b hb (by simpa using hdeciding)

/-! ## The three regimes -/

/-- Why a union refuses a value. -/
def unionMismatch (members : List Descriptor) (v : Value) : Mismatch :=
  .of (union members) v (if v.isUndefined then none else some "no member of the union matched")

theorem matchValue_union_undefined (members : List Descriptor) :
    ((union members).matchValue .undefined).result =
      .acceptIf (members.any permitsAbsence) (unionMismatch members .undefined) := by
  rw [← anyPermitsAbsence_eq_any]
  rfl

theorem matchValue_union_null (members : List Descriptor) :
    ((union members).matchValue .null).result = .ok .accepted := rfl

/-- A value that is neither absent nor null comes to what comes of trying it on the members. -/
theorem matchValue_union_iff {members : List Descriptor} {v : Value} (hv : v ≠ .undefined)
    (hnull : v ≠ .null) (t : Trial) :
    ((union members).matchValue v).result = t.matched (unionMismatch members v) ↔
      Tries v (deciding members) t := by
  have hpresent := Value.isUndefined_eq_false.2 hv
  have hmismatch : unionMismatch members v =
      .of (union members) v (some "no member of the union matched") := by
    simp [unionMismatch, hpresent]
  rw [hmismatch]
  constructor
  · intro h
    obtain ⟨t', ht'⟩ := Tries.exists_trial v (deciding members)
    rw [matchValue_union hpresent hnull ht'] at h
    exact Trial.matched_injective h ▸ ht'
  · exact matchValue_union hpresent hnull

/-- The answers that a union can give. -/
theorem matchValue_union_cases (members : List Descriptor) (v : Value) :
    ∃ t : Trial, ((union members).matchValue v).result = t.matched (unionMismatch members v) := by
  by_cases hv : v = .undefined
  · subst hv
    rw [matchValue_union_undefined]
    cases members.any permitsAbsence
    · exact ⟨.refused, rfl⟩
    · exact ⟨.accepted, rfl⟩
  · by_cases hnull : v = .null
    · subst hnull
      exact ⟨.accepted, rfl⟩
    · obtain ⟨t, ht⟩ := Tries.exists_trial v (deciding members)
      exact ⟨t, (matchValue_union_iff hv hnull t).2 ht⟩

theorem accepts_union_iff {members : List Descriptor} {v : Value} :
    (union members).Accepts v ↔
      ((union members).matchValue v).result = Trial.accepted.matched (unionMismatch members v) := by
  constructor
  · rintro ⟨m, hm⟩
    obtain ⟨t, ht⟩ := matchValue_union_cases members v
    cases t with
    | accepted => exact ht
    | raised => rw [ht] at hm; cases hm
    | refused => rw [ht] at hm; cases hm
  · exact fun h => ⟨.accepted, h⟩

theorem accepts_union_undefined_iff {members : List Descriptor} :
    (union members).Accepts .undefined ↔ ∃ d ∈ members, d.permitsAbsence := by
  rw [Accepts, matchValue_union_undefined]
  simp [MatchResult.acceptIf_ok]

theorem accepts_union_present_iff {members : List Descriptor} {v : Value} (hv : v ≠ .undefined)
    (hnull : v ≠ .null) :
    (union members).Accepts v ↔
      ∃ before d after, members = before ++ d :: after ∧ d.permitsAbsence = false ∧ d.Accepts v ∧
        ∀ b ∈ before, b.permitsAbsence = false → ∀ name fault, ¬ b.Raises v name fault := by
  rw [accepts_union_iff, matchValue_union_iff hv hnull, tries_accepted_iff, exists_deciding_iff]

theorem raises_union_present_iff {members : List Descriptor} {v : Value} (hv : v ≠ .undefined)
    (hnull : v ≠ .null) {name : String} {fault : Fault} :
    (union members).Raises v name fault ↔
      ∃ before d after, members = before ++ d :: after ∧ d.permitsAbsence = false ∧
        d.Raises v name fault ∧ ∀ b ∈ before, b.permitsAbsence = false → b.Mismatches v := by
  have hraised : (union members).Raises v name fault ↔ ((union members).matchValue v).result =
      (Trial.raised name fault).matched (unionMismatch members v) := Iff.rfl
  rw [hraised, matchValue_union_iff hv hnull, tries_raised_iff, exists_deciding_iff]

/-- On absent values and null no predicate of a union fails. -/
theorem not_raises_union {members : List Descriptor} {v : Value}
    (h : v = .undefined ∨ v = .null) (name : String) (fault : Fault) :
    ¬ (union members).Raises v name fault := by
  rcases h with rfl | rfl
  · rw [Raises, matchValue_union_undefined, MatchResult.acceptIf]
    split <;> simp
  · simp [Raises, matchValue_union_null]

/-! ## Which members matter -/

/-- Two descriptors answer alike, but for the wording of a mismatch. -/
structure SameVerdict (d d' : Descriptor) (v : Value) : Prop where
  accepts : d.Accepts v ↔ d'.Accepts v
  mismatches : d.Mismatches v ↔ d'.Mismatches v
  raises : ∀ name fault, d.Raises v name fault ↔ d'.Raises v name fault

theorem SameVerdict.of_trial {d d' : Descriptor} {v : Value} {t : Trial} {m m' : Mismatch}
    (h : (d.matchValue v).result = t.matched m) (h' : (d'.matchValue v).result = t.matched m') :
    d.SameVerdict d' v := by
  cases t <;> constructor <;> simp [Accepts, Mismatches, Raises, h, h', Trial.matched]

/-- **A member that permits absence matters to the absent value alone.** -/
theorem sameVerdict_of_marker {before after : List Descriptor} {marker : Descriptor}
    (hmarker : marker.permitsAbsence) {v : Value} (hv : v ≠ .undefined) :
    (union (before ++ marker :: after)).SameVerdict (union (before ++ after)) v := by
  by_cases hnull : v = .null
  · subst hnull
    have haccepted : ∀ members, ((union members).matchValue .null).result =
        Trial.accepted.matched (unionMismatch [] .null) := fun _ => rfl
    exact .of_trial (haccepted _) (haccepted _)
  · obtain ⟨t, ht⟩ := Tries.exists_trial v (deciding (before ++ after))
    have hsame : deciding (before ++ marker :: after) = deciding (before ++ after) := by
      simp [deciding, hmarker]
    exact .of_trial ((matchValue_union_iff hv hnull t).2 (hsame ▸ ht))
      ((matchValue_union_iff hv hnull t).2 ht)

/-- If no predicate fails, a union accepts what one of its members accepts. -/
theorem accepts_union_of_no_failure {members : List Descriptor} {v : Value} (hv : v ≠ .undefined)
    (hnull : v ≠ .null) (h : ∀ d ∈ members, ∀ name fault, ¬ d.Raises v name fault) :
    (union members).Accepts v ↔ ∃ d ∈ members, d.permitsAbsence = false ∧ d.Accepts v := by
  rw [accepts_union_present_iff hv hnull]
  constructor
  · rintro ⟨before, d, after, rfl, hpresent, hd, -⟩
    exact ⟨d, by simp, hpresent, hd⟩
  · rintro ⟨d, hmem, hpresent, hd⟩
    obtain ⟨before, after, rfl⟩ := List.append_of_mem hmem
    exact ⟨before, d, after, rfl, hpresent, hd, fun b hb _ => h b (List.mem_append_left _ hb)⟩

/-- **If no predicate fails, only the set of the members matters.** -/
theorem accepts_union_congr {members members' : List Descriptor} {v : Value}
    (hsame : ∀ d, d ∈ members' ↔ d ∈ members)
    (h : ∀ d ∈ members, ∀ name fault, ¬ d.Raises v name fault) :
    (union members').Accepts v ↔ (union members).Accepts v := by
  by_cases hv : v = .undefined
  · subst hv
    simp only [accepts_union_undefined_iff, hsame]
  · by_cases hnull : v = .null
    · subst hnull
      exact iff_of_true ⟨.accepted, rfl⟩ ⟨.accepted, rfl⟩
    · rw [accepts_union_of_no_failure hv hnull h, accepts_union_of_no_failure hv hnull
        fun d hd => h d ((hsame d).1 hd)]
      simp only [hsame]

/-! ## The theorem -/

/-- What a union makes of a value, in terms of its members. -/
structure UnionReading (members : List Descriptor) (v : Value) : Prop where
  uncoerced : ∀ m, ((union members).matchValue v).result = .ok m → m = .accepted
  absent : v = .undefined → ((union members).Accepts v ↔ ∃ d ∈ members, d.permitsAbsence)
  null : v = .null → (union members).Accepts v
  /-- A member accepts the value, and no predicate fails before it. -/
  present : v ≠ .undefined → v ≠ .null →
    ((union members).Accepts v ↔
      ∃ before d after, members = before ++ d :: after ∧ d.permitsAbsence = false ∧ d.Accepts v ∧
        ∀ b ∈ before, b.permitsAbsence = false → ∀ name fault, ¬ b.Raises v name fault)
  /-- The first predicate that fails, if it does so before a member accepts the value, is the one
  that the union fails with. -/
  raised : ∀ name fault, (union members).Raises v name fault ↔
    v ≠ .undefined ∧ v ≠ .null ∧
      ∃ before d after, members = before ++ d :: after ∧ d.permitsAbsence = false ∧
        d.Raises v name fault ∧
        ∀ b ∈ before, b.permitsAbsence = false → ¬ b.Accepts v ∧ ∀ n f, ¬ b.Raises v n f
  otherwise : ∀ e, ((union members).matchValue v).result = .error e →
    (∃ name fault, e = .raised name fault) ∨ e = .mismatch (unionMismatch members v)
  /-- Members may be put in another order, repeated, and dropped where they are repeated. -/
  same_members : (∀ d ∈ members, ∀ name fault, ¬ d.Raises v name fault) →
    ∀ members', (∀ d, d ∈ members' ↔ d ∈ members) →
      ((union members').Accepts v ↔ (union members).Accepts v)
  /-- An absence marker may be added anywhere. -/
  marker_added : ∀ before after, members = before ++ after →
    ∀ marker : Kind, marker.isAbsenceMarker →
      let marked := union (before ++ kind marker :: after)
      (v = .undefined → marked.Accepts v) ∧
        (v ≠ .undefined → marked.SameVerdict (union members) v)

/-- **How every union is matched** against every value. -/
theorem matchValue_union_reading (members : List Descriptor) (v : Value) :
    UnionReading members v where
  uncoerced := by
    intro m hm
    have haccepted := accepts_union_iff.1 ⟨m, hm⟩
    rw [hm] at haccepted
    exact Except.ok.inj haccepted
  absent := by
    rintro rfl
    exact accepts_union_undefined_iff
  null := by
    rintro rfl
    exact ⟨.accepted, rfl⟩
  present := accepts_union_present_iff
  raised := by
    intro name fault
    simp only [← mismatches_iff]
    constructor
    · intro h
      have hv : v ≠ .undefined := fun hv => not_raises_union (.inl hv) name fault h
      have hnull : v ≠ .null := fun hnull => not_raises_union (.inr hnull) name fault h
      exact ⟨hv, hnull, (raises_union_present_iff hv hnull).1 h⟩
    · rintro ⟨hv, hnull, h⟩
      exact (raises_union_present_iff hv hnull).2 h
  otherwise := by
    intro e he
    obtain ⟨t, ht⟩ := matchValue_union_cases members v
    rw [ht] at he
    cases t with
    | accepted => cases he
    | raised name fault => cases he; exact .inl ⟨name, fault, rfl⟩
    | refused => cases he; exact .inr rfl
  same_members := fun h _ hsame => accepts_union_congr hsame h
  marker_added := by
    rintro before after rfl marker hmarker
    have hpermits : (kind marker).permitsAbsence := hmarker
    refine ⟨?_, sameVerdict_of_marker hpermits⟩
    rintro rfl
    exact accepts_union_undefined_iff.2 ⟨kind marker, by simp, hpermits⟩

/-- The order matters once a predicate fails. -/
example :
    let lookup : Descriptor :=
      .predicate { name := "lookup", check := fun _ => .error ⟨"no table", 0⟩ }
    (union [.kind .string, lookup]).Accepts (.string "x") ∧
    (union [lookup, .kind .string]).Raises (.string "x") "lookup" ⟨"no table", 0⟩ :=
  ⟨⟨.accepted, rfl⟩, rfl⟩

end Descriptor

end CallContract
