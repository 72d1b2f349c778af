import CallContract.Dict
import CallContract.Validation.Validate

/-!
# Dictionaries and tables as maps

A dictionary is determined by the values under its keys (`Dict.ext_get?`), because its entries
ascend strictly. Everything about a dictionary is therefore said through `get?`: `get?_insert` is
the equation of insertion, `get?_keep` the one of putting back a value that was checked. The entries
of a dictionary make the same dictionary again (`ofList_entries`).

A table says nothing but what is under its keys, either; `Table.get?_orInsert` is the equation of
adding a value.
-/

namespace CallContract

namespace Entries

variable {α : Type}

theorem lookup_cons (k : String) (e : Entry α) (rest : List (Entry α)) :
    (e :: rest).lookup k = if k = e.1 then some e.2 else rest.lookup k := by
  rw [show e = (e.1, e.2) from rfl, List.lookup_cons]
  by_cases hk : k = e.1
  · simp [hk]
  · rw [beq_eq_false_iff_ne.2 hk, if_neg hk]

theorem lookup_insert (key k : String) (value : α) (entries : List (Entry α)) :
    (insert key value entries).lookup k = if k = key then some value else entries.lookup k := by
  induction entries with
  | nil => rw [insert, lookup_cons]
  | cons e rest ih =>
    simp only [insert]
    split
    case isTrue => rw [lookup_cons]
    case isFalse =>
      split
      case isTrue heq =>
        subst heq
        rw [lookup_cons, lookup_cons]
        by_cases hk : k = e.1 <;> simp [hk]
      case isFalse hne =>
        rw [lookup_cons, lookup_cons, ih]
        by_cases hk : k = key
        · simp [hk, hne]
        · simp [hk]

theorem mem_keys {key : String} {entries : List (Entry α)} :
    key ∈ entries.map Prod.fst ↔ (entries.lookup key).isSome := by
  rw [List.lookup_isSome_iff, List.mem_map]
  constructor
  · rintro ⟨e, he, rfl⟩
    exact ⟨e, he, beq_self_eq_true _⟩
  · rintro ⟨e, he, hkey⟩
    exact ⟨e, he, (beq_iff_eq.1 hkey).symm⟩

/-- A key below all others is not there. -/
theorem lookup_eq_none_of_lt {k : String} {entries : List (Entry α)}
    (h : ∀ e ∈ entries, k < e.1) : entries.lookup k = none := by
  rw [List.lookup_eq_none_iff]
  intro e he
  have hne : k ≠ e.1 := fun heq => String.lt_irrefl e.1 (heq ▸ h e he)
  simp [hne]

/-- Ascending entries are determined by the values under their keys. -/
theorem ext_lookup {a b : List (Entry α)} (ha : Ascending a) (hb : Ascending b)
    (h : ∀ k, a.lookup k = b.lookup k) : a = b := by
  induction a generalizing b with
  | nil =>
    cases b with
    | nil => rfl
    | cons e bs => have := h e.1; simp [lookup_cons] at this
  | cons d as ih =>
    have ⟨hd, has⟩ := List.pairwise_cons.1 ha
    cases b with
    | nil => have := h d.1; simp [lookup_cons] at this
    | cons e bs =>
      have ⟨he, hbs⟩ := List.pairwise_cons.1 hb
      -- Neither first key can be below the other: the other list would not have it.
      have hkey : d.1 = e.1 := by
        apply String.le_antisymm
        · rw [← String.not_lt]
          intro hlt
          have hnone : (d :: as).lookup e.1 = none := lookup_eq_none_of_lt fun f hf => by
            rcases List.mem_cons.1 hf with rfl | hf
            · exact hlt
            · exact String.lt_trans hlt (hd f hf)
          rw [h] at hnone
          simp [lookup_cons] at hnone
        · rw [← String.not_lt]
          intro hlt
          have hnone : (e :: bs).lookup d.1 = none := lookup_eq_none_of_lt fun f hf => by
            rcases List.mem_cons.1 hf with rfl | hf
            · exact hlt
            · exact String.lt_trans hlt (he f hf)
          rw [← h] at hnone
          simp [lookup_cons] at hnone
      have hvalue : d.2 = e.2 := by
        have := h d.1
        simpa [lookup_cons, hkey] using this
      have hrest : as = bs := ih has hbs fun k => by
        by_cases hk : k = d.1
        · rw [hk, lookup_eq_none_of_lt hd, hkey, lookup_eq_none_of_lt he]
        · have := h k
          simpa [lookup_cons, hk, hkey ▸ hk] using this
      rw [Prod.ext hkey hvalue, hrest]

end Entries

namespace Dict

variable {α : Type}

/-! ## Reading after writing -/

@[simp] theorem get?_empty (k : String) : (empty : Dict α).get? k = none := rfl

theorem get?_insert (d : Dict α) (key k : String) (value : α) :
    (d.insert key value).get? k = if k = key then some value else d.get? k :=
  Entries.lookup_insert key k value d.entries

theorem mem_keys {d : Dict α} {key : String} : key ∈ d.keys ↔ (d.get? key).isSome :=
  Entries.mem_keys

@[simp] theorem contains_eq_isSome (d : Dict α) (k : String) :
    d.contains k = (d.get? k).isSome := rfl

/-- **A dictionary is determined by the values under its keys.** -/
theorem ext_get? {d e : Dict α} (h : ∀ k, d.get? k = e.get? k) : d = e :=
  ext (Entries.ext_lookup d.ascending e.ascending h)

/-! ## The entries of a dictionary -/

theorem get?_foldl_insert {entries : List (Entry α)} (h : Entries.Ascending entries)
    (d : Dict α) (k : String) :
    (entries.foldl (fun d e => d.insert e.1 e.2) d).get? k = (entries.lookup k).or (d.get? k) := by
  induction entries generalizing d with
  | nil => rfl
  | cons e rest ih =>
    have ⟨he, hrest⟩ := List.pairwise_cons.1 h
    rw [List.foldl_cons, ih hrest, get?_insert, Entries.lookup_cons]
    by_cases hk : k = e.1
    · subst hk
      simp [Entries.lookup_eq_none_of_lt he]
    · simp [hk]

@[simp] theorem ofList_entries (d : Dict α) : ofList d.entries = d :=
  ext_get? fun k => by
    rw [ofList, get?_foldl_insert d.ascending, get?_empty, Option.or_none, get?]

/-! ## Checked values -/

theorem get?_keep (d : Dict Value) (name k : String) (v : Value) :
    (d.keep name v).get? k = if k = name then (d.get? name).map fun _ => v else d.get? k := by
  unfold keep
  cases hname : d.get? name with
  | none =>
    by_cases hk : k = name <;> simp [hname, hk]
  | some w => simp [hname, get?_insert]

theorem valueOf_keep_of_ne {d : Dict Value} {name k : String} (h : k ≠ name) (v : Value) :
    (d.keep name v).valueOf k = d.valueOf k := by
  simp [valueOf, get?_keep, h]

theorem isSome_get?_keep (d : Dict Value) (name k : String) (v : Value) :
    ((d.keep name v).get? k).isSome = (d.get? k).isSome := by
  rw [get?_keep]
  by_cases hk : k = name <;> simp [hk]

end Dict

/-! ## Tables -/

namespace Table

variable {α : Type} {t : Table α} {key : String}

theorem mem_keys : key ∈ t.keys ↔ ∃ value, t.get? key = some value := by
  rw [← Option.isSome_iff_exists]
  exact Entries.mem_keys

/-- A value is added under a key that has none. -/
theorem orInsert_of_none (h : t.get? key = none) (value : α) :
    t.orInsert key value = (value, ⟨(key, value) :: t.entries, distinct_cons h value⟩) := by
  unfold orInsert
  split
  case h_1 old hold => cases h.symm.trans hold
  case h_2 => rfl

theorem get?_orInsert (h : t.get? key = none) (value : α) (k : String) :
    (t.orInsert key value).2.get? k = if k = key then some value else t.get? k := by
  rw [orInsert_of_none h]
  exact Entries.lookup_cons k (key, value) t.entries

theorem size_orInsert (h : t.get? key = none) (value : α) :
    (t.orInsert key value).2.size = t.size + 1 := by
  rw [orInsert_of_none h]
  rfl

end Table

end CallContract
