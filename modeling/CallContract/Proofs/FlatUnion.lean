import CallContract.Guard.Builder
import CallContract.Pattern.Meaning
import CallContract.Proofs.Grammar
import CallContract.Proofs.Matching

/-!
# Flat unions

**Theorem (`normalized_wellFormed_iff`).** In what leaves normalization no name is declared twice,
and every union that was written as a list has members, none of which is a union. A union that the
caller has given as a descriptor in a position is taken as it is. So what leaves normalization, and
with it what a guard enforces, is well formed exactly if the unions that the caller has given are
(`embedded_union_kept` is one that is not).

It matters to the matcher, which passes over the members that permit absence: in a well-formed union
these are the absence markers alone, so that the union refuses no value that one of its members
accepts.

The proof goes over the grammar: a position is well formed exactly if what is embedded in it is
(`Grammar.Position.wellFormed_iff`), and the rest follows item by item (`forall_mem_iff`).
-/

namespace CallContract

/-! ## Well-formedness -/

/-- A union has members, and none of them is a union. -/
def Descriptor.WellFormed : Descriptor → Prop
  | union members => members ≠ [] ∧ ∀ d ∈ members, d.isUnion = false
  | _ => True

/-- No name is declared twice, and each descriptor is well formed. -/
def Schema.WellFormed (s : Schema) : Prop :=
  s.NamesDistinct ∧ ∀ p ∈ s.places, p.descriptor.WellFormed

/-- What is enforced on arguments and on results is well formed. -/
def Contract.WellFormed (c : Contract) : Prop :=
  c.schema.WellFormed ∧ ∀ d ∈ c.returns, d.WellFormed

namespace RawSchema

/-- A descriptor is given somewhere in a schema as it is written. -/
inductive Embeds : RawSchema → Descriptor → Prop
  | self (d : Descriptor) : Embeds (.descriptor d) d
  | item {items : List RawSchema} {raw : RawSchema} {d : Descriptor} (mem : raw ∈ items)
      (embeds : Embeds raw d) : Embeds (.list items) d
  | entry {entries : List (String × RawSchema)} {entry : String × RawSchema} {d : Descriptor}
      (mem : entry ∈ entries) (embeds : Embeds entry.2 d) : Embeds (.map entries) d

/-- The descriptors that are given are well formed. -/
def EmbedsWellFormed (raw : RawSchema) : Prop := ∀ d, raw.Embeds d → d.WellFormed

theorem embedsWellFormed_descriptor {d : Descriptor} :
    (descriptor d).EmbedsWellFormed ↔ d.WellFormed := by
  constructor
  · intro h
    exact h d (.self d)
  · rintro h _ ⟨⟩
    exact h

theorem embedsWellFormed_list {items : List RawSchema} :
    (list items).EmbedsWellFormed ↔ ∀ raw ∈ items, raw.EmbedsWellFormed := by
  constructor
  · intro h raw hraw d hd
    exact h d (.item hraw hd)
  · rintro h d ⟨⟩
    case item raw hraw hd => exact h raw hraw d hd

theorem embedsWellFormed_map {entries : List (String × RawSchema)} :
    (map entries).EmbedsWellFormed ↔ ∀ entry ∈ entries, entry.2.EmbedsWellFormed := by
  constructor
  · intro h entry hentry d hd
    exact h d (.entry hentry hd)
  · rintro h d ⟨⟩
    case entry entry hentry hd => exact h entry hentry d hd

end RawSchema

/-! ## What the grammar generates -/

theorem forall_mem_iff {α β : Type} {R : α → β → Prop} {P : α → Prop} {Q : β → Prop} {xs : List α}
    {ys : List β} (h : List.Forall₂ R xs ys) (hstep : ∀ x y, R x y → (Q y ↔ P x)) :
    (∀ y ∈ ys, Q y) ↔ ∀ x ∈ xs, P x := by
  induction h with
  | nil => simp
  | cons hxy _ ih => rw [List.forall_mem_cons, List.forall_mem_cons, hstep _ _ hxy, ih]

namespace Grammar

variable [PatternCompiler]

theorem Name.wellFormed {text : String} {d : Descriptor} (h : Name text d) : d.WellFormed := by
  cases h <;> trivial

/-- All that is given among the members of a list is well formed, because it is no union. -/
theorem Member.embedsWellFormed {raw : RawSchema} {d : Descriptor} (h : Member raw d) :
    raw.EmbedsWellFormed := by
  cases h with
  | name => rintro _ ⟨⟩
  | descriptor plain =>
    rw [RawSchema.embedsWellFormed_descriptor]
    cases d with
    | union => cases plain
    | kind _ | nominal _ | pattern _ | predicate _ => trivial

/-- **A position is well formed exactly if what is embedded in it is.** -/
theorem Position.wellFormed_iff {raw : RawSchema} {d : Descriptor} (h : Position raw d) :
    d.WellFormed ↔ raw.EmbedsWellFormed := by
  cases h with
  | name named =>
    refine iff_of_true named.wellFormed ?_
    rintro _ ⟨⟩
  | descriptor => exact RawSchema.embedsWellFormed_descriptor.symm
  | @union members ds hnonempty heach =>
    have hplain : ∀ d ∈ ds, d.isUnion = false :=
      (forall_mem_iff heach fun _ _ hmember => iff_of_true hmember.isUnion trivial).2
        fun _ _ => trivial
    have hembeds : (RawSchema.list members).EmbedsWellFormed :=
      RawSchema.embedsWellFormed_list.2 <|
        (forall_mem_iff heach fun _ _ hmember =>
          iff_of_true trivial hmember.embedsWellFormed).1 fun _ _ => trivial
    refine iff_of_true ⟨?_, hplain⟩ hembeds
    rintro rfl
    exact hnonempty (List.forall₂_nil_right_iff.1 heach)

theorem Declaration.wellFormed_iff {entry : String × RawSchema} {f : Field}
    (h : Declaration entry f) : f.descriptor.WellFormed ↔ entry.2.EmbedsWellFormed := by
  obtain ⟨hposition⟩ := h
  exact hposition.wellFormed_iff

theorem Declaration.names_eq {entries : List (String × RawSchema)} {fields : List Field}
    (h : List.Forall₂ Declaration entries fields) :
    fields.map Field.name = entries.map Prod.fst := by
  induction h with
  | nil => rfl
  | cons first _ ih =>
    cases first
    rw [List.map_cons, List.map_cons, ih]

end Grammar

theorem Schema.wellFormed_positional {ds : List Descriptor} :
    (Schema.positional ds).WellFormed ↔ ∀ d ∈ ds, d.WellFormed := by
  constructor
  · rintro ⟨-, hplaces⟩ d hd
    obtain ⟨i, hi⟩ := List.mem_iff_getElem?.1 hd
    exact hplaces ⟨.position (0 + i), d⟩ (mem_positionPlaces.2 ⟨i, d, hi, rfl⟩)
  · intro h
    refine ⟨trivial, fun p hp => ?_⟩
    obtain ⟨i, d, hi, rfl⟩ := mem_positionPlaces.1 hp
    exact h d (List.mem_of_getElem? hi)

theorem Schema.wellFormed_object {fields : List Field} :
    (Schema.object fields).WellFormed ↔
      (fields.map Field.name).Nodup ∧ ∀ f ∈ fields, f.descriptor.WellFormed :=
  and_congr_right fun _ => List.forall_mem_map

namespace Grammar

variable [PatternCompiler] {raw : RawSchema} {s : Schema}

theorem Parameters.namesDistinct (h : Parameters raw s) : s.NamesDistinct := by
  cases h with
  | fields distinct each =>
    show (List.map Field.name _).Nodup
    rwa [Declaration.names_eq each]
  | undefined | null | noArgs | empty | name | descriptor | positions => trivial

theorem Parameters.wellFormed_iff (h : Parameters raw s) :
    s.WellFormed ↔ raw.EmbedsWellFormed := by
  cases h with
  | undefined | null | noArgs =>
    refine iff_of_true ⟨trivial, by simp [Schema.places]⟩ ?_
    rintro _ ⟨⟩
  | empty =>
    refine iff_of_true ⟨trivial, by simp [Schema.places]⟩ ?_
    rw [RawSchema.embedsWellFormed_list]
    simp
  | name named =>
    rw [Schema.wellFormed_positional, List.forall_mem_singleton]
    exact (Position.name named).wellFormed_iff
  | descriptor d =>
    rw [Schema.wellFormed_positional, List.forall_mem_singleton]
    exact (Position.descriptor d).wellFormed_iff
  | positions _ each =>
    rw [Schema.wellFormed_positional, RawSchema.embedsWellFormed_list]
    exact forall_mem_iff each fun _ _ hposition => hposition.wellFormed_iff
  | fields distinct each =>
    rw [Schema.wellFormed_object, RawSchema.embedsWellFormed_map, Declaration.names_eq each]
    rw [and_iff_right distinct]
    exact forall_mem_iff each fun _ _ hdeclaration => hdeclaration.wellFormed_iff

end Grammar

/-! ## What a guard enforces -/

theorem Contract.returnsOf_wellFormed_iff [PatternCompiler] {raw : Option RawSchema}
    {d : Option Descriptor} (h : returnsOf raw = .ok d) :
    (∀ d' ∈ d, d'.WellFormed) ↔ ∀ raw' ∈ raw, raw'.EmbedsWellFormed := by
  cases raw with
  | none =>
    cases h
    simp
  | some raw =>
    obtain ⟨d, hd, rfl⟩ := map_ok_iff.1 h
    have hposition : Grammar.Position raw d := Grammar.toDescriptorOf_ok_iff.1 hd
    simpa using hposition.wellFormed_iff

namespace Builder

variable [PatternCompiler] {b : Builder}

theorem contract_of_build {callback : Callback} {l : Ledger} {g : Guard}
    (h : (b.build callback l).1 = .ok g) : b.contract = .ok g.contract := by
  unfold build at h
  split at h
  case h_1 => cases h
  case h_2 c hc =>
    cases h
    exact hc

theorem contract_of_raw {params : RawSchema} {c : Contract} (hsource : b.source = .raw params)
    (h : b.contract = .ok c) :
    params.normalize = .ok c.schema ∧ Contract.returnsOf b.returns = .ok c.returns := by
  unfold contract at h
  rw [hsource] at h
  obtain ⟨d, hreturns, h⟩ := bind_ok_iff.1 h
  obtain ⟨s, hschema, ⟨⟩⟩ := bind_ok_iff.1 h
  exact ⟨hschema, hreturns⟩

theorem wellFormed_iff {params : RawSchema} {c : Contract} (hsource : b.source = .raw params)
    (h : b.contract = .ok c) :
    c.WellFormed ↔ params.EmbedsWellFormed ∧ ∀ raw ∈ b.returns, raw.EmbedsWellFormed := by
  obtain ⟨hschema, hreturns⟩ := contract_of_raw hsource h
  have hparameters := Grammar.normalize_ok_iff.1 hschema
  rw [Contract.WellFormed, hparameters.wellFormed_iff, Contract.returnsOf_wellFormed_iff hreturns]

end Builder

/-! ## What the matcher makes of a union -/

namespace Descriptor

/-- A union that refuses a value has asked all of its members that do not permit absence. -/
theorem matchMembers_mismatch {v : Value} {otherwise m : Mismatch} {members : List Descriptor}
    (h : (matchMembers v otherwise members).result = .error (.mismatch m)) :
    ∀ d ∈ members, d.permitsAbsence = false → ¬ d.Accepts v := by
  induction members with
  | nil => simp
  | cons d ds ih =>
    rw [matchMembers] at h
    rw [List.forall_mem_cons]
    split at h
    case isTrue habs =>
      refine ⟨fun hpresent => ?_, ih h⟩
      rw [habs] at hpresent
      cases hpresent
    case isFalse =>
      rw [Traced.result_bind] at h
      split at h
      case h_1 => cases h
      case h_2 m' hm' =>
        refine ⟨fun _ haccepts => ?_, ih h⟩
        obtain ⟨_, hok⟩ := haccepts
        rw [hm'] at hok
        cases hok
      case h_3 => cases h

/-- An absence marker accepts no value that is present. -/
theorem not_accepts_of_marker {k : Kind} {v : Value} (hk : k.isAbsenceMarker)
    (hv : v.isUndefined = false) : ¬ (kind k).Accepts v := by
  rintro ⟨m, hm⟩
  rw [matchValue, Kind.matchValue_marker hk, hv] at hm
  cases hm

theorem WellFormed.marker_of_permitsAbsence {members : List Descriptor} {d : Descriptor}
    (h : (union members).WellFormed) (hd : d ∈ members) (habs : d.permitsAbsence) :
    ∃ k : Kind, d = .kind k ∧ k.isAbsenceMarker := by
  have hplain := h.2 d hd
  cases d with
  | kind k => exact ⟨k, rfl, by simpa [permitsAbsence] using habs⟩
  | union => cases hplain
  | nominal _ | pattern _ | predicate _ => simp [permitsAbsence] at habs

theorem WellFormed.not_accepts {members : List Descriptor} {v : Value} {otherwise m : Mismatch}
    (h : (union members).WellFormed) (hv : v.isUndefined = false)
    (hm : (matchMembers v otherwise members).result = .error (.mismatch m)) :
    ∀ d ∈ members, ¬ d.Accepts v := by
  intro d hd
  cases habs : d.permitsAbsence with
  | true =>
    obtain ⟨k, rfl, hk⟩ := h.marker_of_permitsAbsence hd habs
    exact not_accepts_of_marker hk hv
  | false => exact matchMembers_mismatch hm d hd habs

/-- A value that a union refuses, as an argument or as a result, is refused by its members, of which
there are some. Of a value that is absent nothing is said. -/
def RefusesByMembers : Descriptor → Prop
  | union members => ∀ v m, v.isUndefined = false →
      ((union members).matchValue v).result = .error (.mismatch m) ∨
        ((union members).checkResult v).result = .error (.returnTypeMismatch m) →
      members ≠ [] ∧ ∀ d ∈ members, ¬ d.Accepts v
  | _ => True

/-- A result that a union refuses has gone through the members. -/
theorem matchMembers_of_checkResult {members : List Descriptor} {v : Value} {m : Mismatch}
    (hv : v.isUndefined = false)
    (h : ((union members).checkResult v).result = .error (.returnTypeMismatch m)) :
    (matchMembers v (.of (union members) v) members).result = .error (.mismatch m) := by
  rw [checkResult, if_neg (by simp [hv]), Traced.result_map] at h
  cases hmatch : (matchMembers v (.of (union members) v) members).result with
  | ok _ => rw [hmatch] at h; cases h
  | error e =>
    rw [hmatch] at h
    cases e with
    | mismatch m' => cases h; rfl
    | raised => cases h

theorem WellFormed.refusesByMembers {d : Descriptor} (h : d.WellFormed) : d.RefusesByMembers := by
  cases d with
  | union members =>
    rintro v m hv (hargument | hresult)
    · refine ⟨h.1, ?_⟩
      cases v with
      | undefined => cases hv
      | null => cases hargument
      | _ => exact h.not_accepts hv hargument
    · exact ⟨h.1, h.not_accepts hv (matchMembers_of_checkResult hv hresult)⟩
  | kind _ | nominal _ | pattern _ | predicate _ => trivial

end Descriptor

/-- The descriptor is enforced on an argument or on the result. -/
def Contract.Enforces (c : Contract) (d : Descriptor) : Prop :=
  (∃ p ∈ c.schema.places, p.descriptor = d) ∨ d ∈ c.returns

theorem Contract.WellFormed.of_enforces {c : Contract} {d : Descriptor} (h : c.WellFormed)
    (hd : c.Enforces d) : d.WellFormed := by
  rcases hd with ⟨p, hp, rfl⟩ | hd
  · exact h.1.2 p hp
  · exact h.2 d hd

/-- **What leaves normalization is well formed exactly if what is given in it is**, and so is what a
guard enforces that is built from it. Then no union of the guard refuses a value that one of its
members accepts. -/
theorem normalized_wellFormed_iff [PatternCompiler] (raw : RawSchema) :
    (∀ s, raw.normalize = .ok s → s.NamesDistinct ∧ (s.WellFormed ↔ raw.EmbedsWellFormed)) ∧
    (∀ d, raw.toDescriptor = .ok d → (d.WellFormed ↔ raw.EmbedsWellFormed)) ∧
    ∀ (b : Builder) (callback : Callback) (l : Ledger) (g : Guard),
      b.source = .raw raw → (b.build callback l).1 = .ok g →
      (g.contract.WellFormed ↔
        raw.EmbedsWellFormed ∧ ∀ result ∈ b.returns, result.EmbedsWellFormed) ∧
      (g.contract.WellFormed → ∀ d, g.contract.Enforces d → d.RefusesByMembers) := by
  refine ⟨fun s h => ?_, fun d h => ?_, fun b callback l g hsource h => ⟨?_, fun hguard d hd => ?_⟩⟩
  · have hparameters := Grammar.normalize_ok_iff.1 h
    exact ⟨hparameters.namesDistinct, hparameters.wellFormed_iff⟩
  · exact (Grammar.toDescriptorOf_ok_iff.1 h).wellFormed_iff
  · exact Builder.wellFormed_iff hsource (Builder.contract_of_build h)
  · exact (hguard.of_enforces hd).refusesByMembers

open scoped Pattern.Regex

/-- One union is written as a list and one is given; both are flat. -/
theorem normalized_wellFormed_iff_two_unions :
    let size : Descriptor := .union [.kind .strictInt, .kind .undefined]
    let tag : Descriptor := .union [.kind .string, .kind .null]
    let params : RawSchema :=
      .map [("size", .list [.name "strictint", .name "undefined"]), ("tag", .descriptor tag)]
    let b : Builder := { source := .raw params, returns := some (.descriptor tag) }
    let s : Schema := .object [⟨"size", size⟩, ⟨"tag", tag⟩]
    let callback : Callback := fun _ => .ok (.ready .undefined)
    let g : Guard :=
      { contract := { schema := s, returns := some tag, config := {} }
        callback
        channel := { config := {}, sink := .log, counters := 0 } }
    params.EmbedsWellFormed ∧ params.normalize = .ok s ∧ s.WellFormed ∧
      (RawSchema.descriptor tag).toDescriptor = .ok tag ∧ tag.WellFormed ∧
      (b.build callback {}).1 = .ok g ∧ g.contract.WellFormed ∧
      size.RefusesByMembers ∧ tag.RefusesByMembers := by
  intro size tag params b s callback g
  have htag : tag.WellFormed := ⟨by simp, by simp [Descriptor.isUnion]⟩
  have hgiven : (RawSchema.descriptor tag).EmbedsWellFormed :=
    RawSchema.embedsWellFormed_descriptor.2 htag
  have hlist : (RawSchema.list [.name "strictint", .name "undefined"]).EmbedsWellFormed := by
    rintro _ ⟨⟩
    case item raw hraw hd =>
      simp only [List.mem_cons, List.not_mem_nil, or_false] at hraw
      rcases hraw with rfl | rfl <;> cases hd
  have hparams : params.EmbedsWellFormed := by
    rw [RawSchema.embedsWellFormed_map]
    simp only [List.forall_mem_cons]
    exact ⟨hlist, hgiven, by simp⟩
  have hnormalize : params.normalize = .ok s := rfl
  have hbuild : (b.build callback {}).1 = .ok g := rfl
  obtain ⟨hschema, -, hguard⟩ := normalized_wellFormed_iff params
  obtain ⟨-, hresult, -⟩ := normalized_wellFormed_iff (.descriptor tag)
  obtain ⟨hiff, hrefuses⟩ := hguard b callback {} g rfl hbuild
  have hcontract : g.contract.WellFormed := hiff.2 ⟨hparams, by simpa [b] using hgiven⟩
  refine ⟨hparams, hnormalize, (hschema s hnormalize).2.2 hparams, rfl, (hresult tag rfl).2 hgiven,
    hbuild, hcontract, hrefuses hcontract size ?_, hrefuses hcontract tag (.inr rfl)⟩
  exact .inl ⟨⟨.field "size", size⟩, List.mem_cons_self, rfl⟩

/-- A union that is given in a position is taken as it is. One in a union is passed over if it
permits absence, though it would accept the value; and one without members accepts no value but
null. -/
theorem embedded_union_kept :
    let inner : Descriptor := .union [.kind .optional, .kind .string]
    let nested : Descriptor := .union [inner]
    let empty : Descriptor := .union []
    (RawSchema.descriptor nested).normalize = .ok (.positional [nested]) ∧
      (RawSchema.descriptor nested).toDescriptor = .ok nested ∧ ¬ nested.WellFormed ∧
      inner.Accepts (.string "x") ∧ ¬ nested.Accepts (.string "x") ∧
      (RawSchema.descriptor empty).normalize = .ok (.positional [empty]) ∧
      (RawSchema.descriptor empty).toDescriptor = .ok empty ∧ ¬ empty.WellFormed ∧
      ∀ v, v ≠ .undefined → v ≠ .null → ¬ empty.Accepts v := by
  intro inner nested empty
  refine ⟨rfl, rfl, ?_, ⟨.accepted, rfl⟩, ?_, rfl, rfl, ?_, ?_⟩
  · rintro ⟨-, hplain⟩
    cases hplain inner List.mem_cons_self
  · rintro ⟨m, hm⟩
    cases hm
  · rintro ⟨hnonempty, -⟩
    exact hnonempty rfl
  · rintro v hpresent hnull ⟨m, hm⟩
    cases v with
    | undefined => exact hpresent rfl
    | null => exact hnull rfl
    | _ => cases hm

end CallContract
