import CallContract.Pattern.Meaning
import CallContract.Proofs.JsonReadBack

/-!
# Rewriting contract documents

**Theorem (`rewrites_of_read`).** A contract document that was read from a text is read again from
the text that is written for it. Settings that are not set are left out, and a setting that is null
is not set. So a document can be rewritten any number of times and still describes the same
contract.

The outermost object is read member by member. Each member that means something comes no more than
once (`Json.onlyField?_eq_some`), so a document is known from its members (`Reads`). What is written
for it was read as a member before, and so comes back (`JsonLibrary.RoundTrips`), but for numbers.
-/

namespace CallContract

namespace Json

/-! ## Members -/

/-- **A field of which there is no more than one** has the value of the member of its name. -/
theorem onlyField?_eq_some {members : List (String × Json)} {name : String} {field : Option Json}
    (h : onlyField? members name = some field) (value : Json) :
    field = some value ↔ (name, value) ∈ members := by
  have hmem : (name, value) ∈ members ↔ (name, value) ∈ members.filter (·.1 == name) := by simp
  rw [hmem]
  rw [onlyField?] at h
  split at h
  case h_1 hfilter => cases h; simp [hfilter]
  case h_2 m hfilter =>
    have hm : m ∈ members.filter (·.1 == name) := by rw [hfilter]; exact List.mem_cons_self
    obtain ⟨-, hname⟩ := List.mem_filter.1 hm
    cases h
    rw [hfilter, List.mem_singleton, Option.some.injEq, Prod.ext_iff]
    simp [eq_of_beq hname, eq_comm]
  case h_3 => cases h

theorem toTextSetting?_eq_some {field : Option Json} {setting : Option String}
    (h : toTextSetting? field = some setting) (s : String) :
    setting = some s ↔ field = some (string s) := by
  unfold toTextSetting? at h
  split at h <;> cases h <;> simp

theorem toFlagSetting?_eq_some {field : Option Json} {setting : Option Bool}
    (h : toFlagSetting? field = some setting) (b : Bool) :
    setting = some b ↔ field = some (bool b) := by
  unfold toFlagSetting? at h
  split at h <;> cases h <;> simp

theorem toSetting_eq_some {field : Option Json} {j : Json} :
    toSetting field = some j ↔ field = some j ∧ j ≠ null := by
  match field with
  | none => simp [toSetting]
  | some k => cases k <;> simp [toSetting] <;> rintro rfl <;> simp

end Json

/-! ## The members of a document -/

namespace ContractDocument

/-- A member that is written for a document: the parameters, or a setting that is set. -/
inductive Writes (d : ContractDocument) : String → Json → Prop
  | params : Writes d "params" d.params
  | returns {j : Json} : d.returns = some j → Writes d "returns" j
  | name {s : String} : d.config.name = some s → Writes d "name" (.string s)
  | quiet {b : Bool} : d.config.quiet = some b → Writes d "quiet" (.bool b)

/-- What a document says is what the members that it is read from say. -/
structure Reads (members : List (String × Json)) (d : ContractDocument) : Prop where
  params : ∀ j, ("params", j) ∈ members → d.params = j
  noParams : (∀ j, ("params", j) ∉ members) → d.params = .null
  returns : ∀ j, d.returns = some j ↔ ("returns", j) ∈ members ∧ j ≠ .null
  name : ∀ s, d.config.name = some s ↔ ("name", .string s) ∈ members
  quiet : ∀ b, d.config.quiet = some b ↔ ("quiet", .bool b) ∈ members
  /-- No member that means something comes twice. -/
  only : ∀ name ∈ ["params", "returns", "name", "quiet"], ∀ j j',
    (name, j) ∈ members → (name, j') ∈ members → j = j'

theorem reads_of_ofMembers? {members : List (String × Json)} {d : ContractDocument}
    (h : ofMembers? members = some d) : Reads members d := by
  simp only [ofMembers?, Config.ofMembers?, Option.bind_eq_bind, Option.bind_eq_some_iff,
    Option.pure_def, Option.some.injEq] at h
  obtain ⟨params, hparams, returns, hreturns, config,
    ⟨nameField, hnameField, name, hname, quietField, hquietField, quiet, hquiet, rfl⟩, rfl⟩ := h
  have hparams := Json.onlyField?_eq_some hparams
  have hreturns := Json.onlyField?_eq_some hreturns
  have hnameField := Json.onlyField?_eq_some hnameField
  have hquietField := Json.onlyField?_eq_some hquietField
  refine ⟨fun j hj => ?_, fun hnone => ?_, fun j => ?_, fun s => ?_, fun b => ?_, ?_⟩
  · rw [(hparams j).2 hj, Option.getD_some]
  · cases params with
    | none => rfl
    | some j => exact absurd ((hparams j).1 rfl) (hnone j)
  · rw [Json.toSetting_eq_some, hreturns]
  · rw [Json.toTextSetting?_eq_some hname, hnameField]
  · rw [Json.toFlagSetting?_eq_some hquiet, hquietField]
  · have honly {field : Option Json} {key : String}
        (hfield : ∀ j, field = some j ↔ (key, j) ∈ members) :
        ∀ j j', (key, j) ∈ members → (key, j') ∈ members → j = j' := fun j j' hj hj' =>
      Option.some.inj (((hfield j).2 hj).symm.trans ((hfield j').2 hj'))
    intro key hkey
    simp only [List.mem_cons, List.not_mem_nil, or_false] at hkey
    rcases hkey with rfl | rfl | rfl | rfl
    · exact honly hparams
    · exact honly hreturns
    · exact honly hnameField
    · exact honly hquietField

/-- The members that are written for a document. -/
def toMembers (d : ContractDocument) : List (String × Json) :=
  ("params", d.params) :: (d.returns.map fun j => ("returns", j)).toList ++ d.config.toMembers

theorem mem_toMembers (d : ContractDocument) (name : String) (j : Json) :
    (name, j) ∈ d.toMembers ↔ d.Writes name j := by
  constructor
  · intro h
    simp only [toMembers, Config.toMembers, List.mem_append, List.mem_cons, Option.mem_toList,
      Option.map_eq_some_iff, Prod.mk.injEq] at h
    rcases h with (⟨rfl, rfl⟩ | ⟨_, h, rfl, rfl⟩) | ⟨_, h, rfl, rfl⟩ | ⟨_, h, rfl, rfl⟩
    · exact .params
    · exact .returns h
    · exact .name h
    · exact .quiet h
  · rintro (_ | h | h | h) <;> simp [toMembers, Config.toMembers, *]

theorem nodup_toMembers (d : ContractDocument) : (d.toMembers.map Prod.fst).Nodup := by
  obtain ⟨params, returns, name, quiet⟩ := d
  cases returns <;> cases name <;> cases quiet <;> simp [toMembers, Config.toMembers]

/-- A document is read from the members that are written for it. -/
theorem ofMembers?_toMembers {d : ContractDocument} (h : d.returns ≠ some .null) :
    ofMembers? d.toMembers = some d := by
  obtain ⟨params, returns, name, quiet⟩ := d
  have hreturns : Json.toSetting returns = returns := by
    unfold Json.toSetting
    split
    case h_1 => exact absurd rfl h
    case h_2 => rfl
  have hread : ofMembers? (toMembers { params, returns, config := { name, quiet } }) =
      some { params, returns := Json.toSetting returns, config := { name, quiet } } := by
    cases returns <;> cases name <;> cases quiet <;> rfl
  rw [hread, hreturns]

/-! ## Rewriting -/

/-- The numbers in the parameters and the result. -/
def numbers (d : ContractDocument) : List JsonNumber :=
  d.params.numbers ++ d.returns.toList.flatMap Json.numbers

/-- A document that was read and has been written. -/
structure Rewrites [PatternCompiler] [JsonLibrary] (text : String) (d : ContractDocument) :
    Prop where
  /-- It is read again from what is written. -/
  readBack : read? d.write = some d
  /-- What is written is an object that has the parameters and the settings that are set. -/
  written : ∃ members,
    JsonLibrary.readMembers? (fun _ => true) d.write = some members ∧
      (members.map Prod.fst).Nodup ∧ ∀ name j, (name, j) ∈ members ↔ d.Writes name j
  /-- A setting that was null is not set. -/
  nulls : ∀ members, JsonLibrary.readMembers? (fun _ => true) text = some members →
    (("returns", .null) ∈ members → d.returns = none) ∧
      (("name", .null) ∈ members → d.config.name = none) ∧
      (("quiet", .null) ∈ members → d.config.quiet = none)
  /-- The same contract, or the same error, comes of it. -/
  compiles : (read? d.write).map compile = some d.compile
  /-- It is written in the same way from then on. -/
  stable : (read? d.write).map write = some d.write

theorem exists_members [JsonLibrary] {text : String} {d : ContractDocument}
    (h : read? text = some d) :
    ∃ members, JsonLibrary.readMembers? (fun _ => true) text = some members ∧ Reads members d := by
  obtain ⟨members, hmembers, hd⟩ := Option.bind_eq_some_iff.1 h
  exact ⟨members, hmembers, reads_of_ofMembers? hd⟩

namespace Reads

variable {members : List (String × Json)} {d : ContractDocument}

theorem returns_ne_null (h : Reads members d) : d.returns ≠ some .null := fun hnull =>
  ((h.returns .null).1 hnull).2 rfl

/-- What is written for the document can be read, for it was. -/
theorem readable [JsonLibrary] (h : Reads members d) (hnull : JsonLibrary.Readable .null)
    {text : String} (hread : JsonLibrary.readMembers? (fun _ => true) text = some members)
    {name : String} {j : Json} (hj : d.Writes name j) : JsonLibrary.Readable j := by
  cases hj with
  | params =>
    by_cases hparams : ∃ j, ("params", j) ∈ members
    · obtain ⟨j, hj⟩ := hparams
      rw [h.params j hj]
      exact ⟨text, members, _, hread, hj⟩
    · rw [h.noParams (not_exists.1 hparams)]
      exact hnull
  | returns hj => exact ⟨text, members, _, hread, ((h.returns j).1 hj).1⟩
  | name hs => exact ⟨text, members, _, hread, (h.name _).1 hs⟩
  | quiet hb => exact ⟨text, members, _, hread, (h.quiet _).1 hb⟩

end Reads

/-- Its numbers are among those of the document. -/
theorem Writes.keeps [JsonLibrary] {d : ContractDocument} {name : String} {j : Json}
    (h : d.Writes name j)
    (hdoubles : ∀ n ∈ d.numbers, (∃ i, n = .integer i) ∨ JsonLibrary.ReadsBack n) :
    JsonLibrary.Keeps j := by
  intro n hn
  cases h with
  | params => exact hdoubles n (List.mem_append_left _ hn)
  | returns hj =>
    have hmem : n ∈ d.returns.toList.flatMap Json.numbers :=
      List.mem_flatMap.2 ⟨j, Option.mem_toList.2 hj, hn⟩
    exact hdoubles n (List.mem_append_right _ hmem)
  | name _ | quiet _ => cases hn

/-- **A document that was read can be rewritten**, with a library that reads back what it writes. -/
theorem rewrites_of_read [PatternCompiler] [JsonLibrary] (hlibrary : JsonLibrary.RoundTrips)
    {text : String} {d : ContractDocument} (h : read? text = some d)
    (hdoubles : ∀ n ∈ d.numbers, (∃ i, n = .integer i) ∨ JsonLibrary.ReadsBack n) :
    Rewrites text d := by
  obtain ⟨members, hmembers, hreads⟩ := exists_members h
  have hwritten : JsonLibrary.readMembers? (fun _ => true) d.write = some d.toMembers := by
    refine hlibrary.object d.toMembers d.nodup_toMembers fun f hf => ?_
    have hf : d.Writes f.1 f.2 := (d.mem_toMembers f.1 f.2).1 hf
    exact ⟨hreads.readable hlibrary.null hmembers hf, hf.keeps hdoubles⟩
  have hback : read? d.write = some d := by
    rw [read?, hwritten]
    exact ofMembers?_toMembers hreads.returns_ne_null
  refine ⟨hback, ⟨d.toMembers, hwritten, d.nodup_toMembers, d.mem_toMembers⟩, ?_, ?_, ?_⟩
  · intro members' hmembers'
    cases hmembers.symm.trans hmembers'
    refine ⟨fun hnull => ?_, fun hnull => ?_, fun hnull => ?_⟩
    · refine Option.eq_none_iff_forall_ne_some.2 fun j hj => ?_
      obtain ⟨hj, hne⟩ := (hreads.returns j).1 hj
      exact hne (hreads.only "returns" (by decide) _ _ hj hnull)
    · refine Option.eq_none_iff_forall_ne_some.2 fun s hs => ?_
      cases hreads.only "name" (by decide) _ _ ((hreads.name s).1 hs) hnull
    · refine Option.eq_none_iff_forall_ne_some.2 fun b hb => ?_
      cases hreads.only "quiet" (by decide) _ _ ((hreads.quiet b).1 hb) hnull
  · rw [hback, Option.map_some]
  · rw [hback, Option.map_some]

open scoped Pattern.Regex Json.Plain

/-- A setting that is null, and numbers among the parameters. -/
theorem rewrites_sum :
    let text := "\x7b\"name\":\"sum\",\"quiet\":null,\"params\":\x7b\"b\":[7,0.5],\"a\":-3\x7d\x7d"
    ∃ d, read? text = some d ∧ d.config = { name := some "sum" } ∧
      d.numbers = [.integer 7, .float (.ofNat 1 / .ofNat 2), .integer (-3)] ∧
      JsonLibrary.RoundTrips ∧ Rewrites text d := by
  intro text
  have hread : (read? text).map (fun d => (d.config, d.numbers)) =
      some ({ name := some "sum" }, [.integer 7, .float (.ofNat 1 / .ofNat 2), .integer (-3)]) := by
    decide +kernel
  obtain ⟨d, hd, hparts⟩ := Option.map_eq_some_iff.1 hread
  obtain ⟨hconfig, hnumbers⟩ := Prod.mk.inj hparts
  have hback : ∀ n ∈ [JsonNumber.integer 7, .float (.ofNat 1 / .ofNat 2), .integer (-3)],
      n.ReadsBack := by
    decide +kernel
  have hkeeps : ∀ n ∈ d.numbers, (∃ i, n = .integer i) ∨ JsonLibrary.ReadsBack n := fun n hn =>
    .inr (Json.read?_render_number (hback n (hnumbers ▸ hn)))
  exact ⟨d, hd, hconfig, hnumbers, Json.Plain.roundTrips,
    rewrites_of_read Json.Plain.roundTrips hd hkeeps⟩

end ContractDocument

end CallContract
