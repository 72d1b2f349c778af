import CallContract.Proofs.CallProtocol
import CallContract.Proofs.Matching
import CallContract.Proofs.Pointwise

/-!
# What the callback gets conforms

**Theorem (`validate_conforms`).** If the arguments of a call are valid, then every slot of the bag
conforms to its descriptor, and so do the arguments that are made of the bag; the callback of a
guard runs on no others.

A validation is pointwise, so that a slot holds what its own place has admitted, whatever was
written into the others. What a place admits conforms (`Descriptor.Admits.conforms`).
-/

namespace CallContract

namespace Schema

/-- The bag fits, and each slot conforms to its descriptor. -/
structure BagConforms (s : Schema) (bag : Bag) : Prop where
  fits : s.Fits bag
  slots : ∀ p ∈ s.places, p.descriptor.Conforms (bag.valueAt p.slot)

/-- The arguments of a callback conform to the schema: by name in one object, in order, as a single
value, or as none. -/
def ArgsConform : Schema → List Value → Prop
  | object fields, args => ∃ values : Dict Value, args = [.object values.entries] ∧
      ∀ f ∈ fields, f.descriptor.Conforms (values.valueOf f.name)
  | positional ds, args => ds.length ≤ args.length ∧
      ∀ (i : Nat) (d : Descriptor), ds[i]? = some d → ∃ v, args[i]? = some v ∧ d.Conforms v
  | single field, args => ∃ v, args = [v] ∧ field.descriptor.Conforms v
  | zeroArg, args => args = []

theorem validate_bagConforms {s : Schema} (hnames : s.NamesDistinct) {bag : Bag}
    (hok : (s.validate bag).result.outcome = .ok ()) :
    s.BagConforms (s.validate bag).result.bag := by
  by_cases hfits : s.Fits bag
  · have hpointwise := validate_pointwise_of_fits hnames hfits
    exact ⟨hfits.of_sameShape hpointwise.shape, fun p hp => (hpointwise.kept hok p hp).conforms⟩
  · obtain ⟨e, he⟩ := validate_of_not_fits hfits
    rw [he] at hok
    cases hok

/-- **The arguments that are made of a bag conform if it does.** -/
theorem BagConforms.args {s : Schema} {bag : Bag} (h : s.BagConforms bag) :
    s.ArgsConform (bag.toCallArgs s) := by
  obtain ⟨hfits, hslots⟩ := h
  match s, bag with
  | object fields, .named values =>
    exact ⟨values, rfl, fun f hf => hslots f.place (List.mem_map_of_mem hf)⟩
  | single field, .named values =>
    exact ⟨values.valueOf field.name, rfl, hslots field.place List.mem_cons_self⟩
  | positional ds, .ordered values =>
    have hlen : ds.length ≤ values.length := hfits
    refine ⟨hlen, fun i d hd => ?_⟩
    obtain ⟨hi, -⟩ := List.getElem?_eq_some_iff.1 hd
    have hlt : i < values.length := Nat.lt_of_lt_of_le hi hlen
    have hvalue : values[i]? = some values[i] := List.getElem?_eq_getElem hlt
    have hslot := hslots ⟨.position i, d⟩ (mem_positionPlaces.2 ⟨i, d, hd, by rw [Nat.zero_add]⟩)
    rw [Bag.valueAt, hvalue] at hslot
    exact ⟨_, hvalue, hslot⟩
  | zeroArg, .ordered values => rfl
  | object _, .ordered _ => exact hfits.elim
  | single _, .ordered _ => exact hfits.elim
  | positional _, .named _ => exact hfits.elim
  | zeroArg, .named _ => exact hfits.elim

end Schema

/-- **What passes validation conforms**: the bag, slot by slot, and what the callback is run on. -/
theorem validate_conforms (g : Guard) (hnames : g.contract.schema.NamesDistinct)
    (args : List Value) (l : Ledger) :
    (∀ bag, (g.validate args l).1 = .ok bag →
      g.contract.schema.BagConforms bag ∧
        g.contract.schema.ArgsConform (bag.toCallArgs g.contract.schema)) ∧
    ∀ callArgs ∈ callbackRuns (l.since (g.call args l).2),
      g.contract.schema.ArgsConform callArgs := by
  have hbag (bag : Bag) (h : (g.validate args l).1 = .ok bag) :
      g.contract.schema.BagConforms bag := by
    rw [Guard.validate_fst] at h
    obtain ⟨supplied, -, hvalidate⟩ := Schema.validateArgs_eq_ok_iff.1 h
    have hok : (g.contract.schema.validate supplied).result.outcome = .ok () := by rw [hvalidate]
    have hconforms := Schema.validate_bagConforms hnames hok
    rwa [hvalidate] at hconforms
  refine ⟨fun bag h => ⟨hbag bag h, (hbag bag h).args⟩, fun callArgs hmem => ?_⟩
  rw [Guard.callbackRuns_call] at hmem
  cases hvalid : (g.validate args l).1 with
  | error e =>
    rw [hvalid] at hmem
    cases hmem
  | ok bag =>
    rw [hvalid] at hmem
    obtain rfl := List.mem_singleton.1 hmem
    exact (hbag bag hvalid).args

/-- A flag that is null reaches the callback as false, and an option that is missing stays so. -/
theorem validate_conforms_flag_and_option :
    let g : Guard :=
      { contract :=
          { schema := .object [⟨"flag", .kind .boolean⟩, ⟨"option", .kind .optional⟩]
            returns := none
            config := {} }
        callback := fun _ => .ok (.ready .undefined)
        channel := { config := {}, sink := .log, counters := 0 } }
    let bag := Bag.named (Dict.empty.insert "flag" (.bool false))
    g.contract.schema.NamesDistinct ∧
    (g.validate [.object [("flag", .null)]] {}).1 = .ok bag ∧
    g.contract.schema.BagConforms bag ∧
    g.contract.schema.ArgsConform [.object [("flag", .bool false)]] := by
  intro g bag
  have hnames : g.contract.schema.NamesDistinct := by simp [g, Schema.NamesDistinct]
  have hvalid : (g.validate [.object [("flag", .null)]] {}).1 = .ok bag := rfl
  exact ⟨hnames, hvalid, (validate_conforms g hnames _ {}).1 bag hvalid⟩

end CallContract
