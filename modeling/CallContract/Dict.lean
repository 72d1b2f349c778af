/-!
# Dictionaries and tables

Values under text keys. The entries of a dictionary are in ascending order of the keys; the order
and the absence of repeated keys are part of the type, so two dictionaries with the same entries are
equal. The entries of a table have no order of their own: who lists the keys has to sort them. Text
is ordered by code points.
-/

namespace CallContract

/-- A key and its value. -/
abbrev Entry (α : Type) := String × α

namespace Entries

variable {α : Type}

/-- The keys ascend strictly. -/
def Ascending (entries : List (Entry α)) : Prop := entries.Pairwise fun a b => a.1 < b.1

/-- Puts a value under a key, in place of the value that is there. -/
def insert (key : String) (value : α) : List (Entry α) → List (Entry α)
  | [] => [(key, value)]
  | e :: rest =>
    if key < e.1 then (key, value) :: e :: rest
    else if key = e.1 then (key, value) :: rest
    else e :: insert key value rest

theorem mem_insert {key : String} {value : α} {entries : List (Entry α)} {e : Entry α}
    (h : e ∈ insert key value entries) : e = (key, value) ∨ e ∈ entries := by
  induction entries with
  | nil => simpa [insert] using h
  | cons d rest ih =>
    simp only [insert] at h
    split at h
    · simpa using h
    · split at h
      · simp only [List.mem_cons] at h ⊢; exact h.imp_right .inr
      · simp only [List.mem_cons] at h ⊢
        rcases h with h | h
        · exact .inr (.inl h)
        · exact (ih h).imp_right .inr

theorem ascending_insert {key : String} {value : α} {entries : List (Entry α)}
    (h : Ascending entries) : Ascending (insert key value entries) := by
  induction entries with
  | nil => simp [insert, Ascending]
  | cons d rest ih =>
    have ⟨hd, hrest⟩ := List.pairwise_cons.1 h
    simp only [insert]
    split
    case isTrue hlt =>
      refine List.pairwise_cons.2 ⟨fun e he => ?_, h⟩
      rcases List.mem_cons.1 he with rfl | he
      · exact hlt
      · exact String.lt_trans hlt (hd e he)
    case isFalse hnlt =>
      split
      case isTrue heq => exact List.pairwise_cons.2 ⟨fun e he => heq ▸ hd e he, hrest⟩
      case isFalse hne =>
        have hlt : d.1 < key := by
          apply Decidable.byContradiction
          intro hn
          exact hne (String.le_antisymm (String.not_lt.1 hn) (String.not_lt.1 hnlt))
        refine List.pairwise_cons.2 ⟨fun e he => ?_, ih hrest⟩
        rcases mem_insert he with rfl | he
        · exact hlt
        · exact hd e he

end Entries

/-- Values under text keys. -/
structure Dict (α : Type) where
  entries : List (Entry α)
  ascending : Entries.Ascending entries

namespace Dict

variable {α : Type}

theorem ext {d e : Dict α} (h : d.entries = e.entries) : d = e := by
  cases d; cases e; cases h; rfl

/-- No entries. -/
def empty : Dict α := ⟨[], List.Pairwise.nil⟩

instance : Inhabited (Dict α) := ⟨empty⟩

/-- Puts a value under a key, in place of the value that is there. -/
def insert (d : Dict α) (key : String) (value : α) : Dict α :=
  ⟨Entries.insert key value d.entries, Entries.ascending_insert d.ascending⟩

/-- The value under a key. -/
def get? (d : Dict α) (key : String) : Option α := d.entries.lookup key

/-- There is a value under the key. -/
def contains (d : Dict α) (key : String) : Bool := (d.get? key).isSome

/-- The keys, ascending. -/
def keys (d : Dict α) : List String := d.entries.map (·.1)

/-- The number of entries. -/
def size (d : Dict α) : Nat := d.entries.length

/-- The entries of a list, of those with the same key the last. -/
def ofList (entries : List (Entry α)) : Dict α :=
  entries.foldl (fun d e => d.insert e.1 e.2) empty

end Dict

/-! ## Tables -/

/-- Values under text keys, in any order. -/
structure Table (α : Type) where
  entries : List (Entry α)
  distinct : (entries.map (·.1)).Nodup

namespace Table

variable {α : Type}

/-- No entries. -/
def empty : Table α := ⟨[], List.nodup_nil⟩

/-- The value under a key. -/
def get? (t : Table α) (key : String) : Option α := t.entries.lookup key

/-- There is a value under the key. -/
def contains (t : Table α) (key : String) : Bool := (t.get? key).isSome

/-- The keys, in the order of the entries. -/
def keys (t : Table α) : List String := t.entries.map (·.1)

/-- The number of entries. -/
def size (t : Table α) : Nat := t.entries.length

theorem distinct_cons {t : Table α} {key : String} (h : t.get? key = none) (value : α) :
    (((key, value) :: t.entries).map (·.1)).Nodup := by
  refine List.nodup_cons.2 ⟨fun hkey => ?_, t.distinct⟩
  obtain ⟨e, he, rfl⟩ := List.mem_map.1 hkey
  simpa using List.lookup_eq_none_iff.1 h e he

/-- The value under a key, which is the given one if there is none yet, and the table with it. -/
def orInsert (t : Table α) (key : String) (value : α) : α × Table α :=
  match h : t.get? key with
  | some old => (old, t)
  | none => (value, ⟨(key, value) :: t.entries, distinct_cons h value⟩)

end Table

end CallContract
