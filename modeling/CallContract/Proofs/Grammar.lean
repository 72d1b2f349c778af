import CallContract.Schema.Raw
import Mathlib.Data.List.Forall2

/-!
# The grammar of schemas

**Theorem (`normalize_grammar`).** Normalization accepts exactly what the grammar generates, and
makes of it what the grammar says, with everything in the order in which it is written. Anything
else has a first fault, in declaration order and depth first, and normalization fails with the error
of that.

The grammar is given as relations, for each place in which something is written: `Grammar.Name`,
`Grammar.Member` for the members of a union, `Grammar.Position`, `Grammar.Declaration` for an entry
of a mapping and `Grammar.Parameters` for the whole. Beside each stands the relation that says what
is wrong with what it leaves out. The same thing means different things in different places: a list
is no arguments or some positions for the whole, a union in a position, and nothing in a union.

Each relation is the graph of one function (`ofName_ok_iff` and so on), and each fault that of the
same function where it fails. Lists are gone through by `mapM`, which stops at the first fault
(`mapM_ok_iff`, `mapM_error_iff`); only the entries of a mapping also depend on the names of those
before them (`toFields_ok_iff`, `toFields_error_iff`).
-/

namespace CallContract

namespace Grammar

section Rules

variable [PatternCompiler]

/-! ## The grammar -/

/-- A text names a kind, or a pattern by its source between slashes. -/
inductive Name : String → Descriptor → Prop
  | kind (k : Kind) : Name k.name (.kind k)
  | pattern {source : String} {p : Pattern} (compiles : Pattern.ofSource? source = some p) :
      Name ("/" ++ source ++ "/") (.pattern p)

/-- A member of a union is named, or given as something that is no union. -/
inductive Member : RawSchema → Descriptor → Prop
  | name {text : String} {d : Descriptor} (named : Name text d) : Member (.name text) d
  | descriptor {d : Descriptor} (plain : d.isUnion = false) : Member (.descriptor d) d

/-- The descriptor of a position is named or given, or it is the union of some members, in their
order. -/
inductive Position : RawSchema → Descriptor → Prop
  | name {text : String} {d : Descriptor} (named : Name text d) : Position (.name text) d
  | descriptor (d : Descriptor) : Position (.descriptor d) d
  | union {members : List RawSchema} {ds : List Descriptor} (nonempty : members ≠ [])
      (each : List.Forall₂ Member members ds) : Position (.list members) (.union ds)

/-- An entry of a mapping declares a field. -/
inductive Declaration : String × RawSchema → Field → Prop
  | mk {name : String} {raw : RawSchema} {d : Descriptor} (position : Position raw d) :
      Declaration (name, raw) { name, descriptor := d }

/-- What is written for the parameters of a call. -/
inductive Parameters : RawSchema → Schema → Prop
  | undefined : Parameters .undefined .zeroArg
  | null : Parameters .null .zeroArg
  | noArgs : Parameters .noArgs .zeroArg
  | empty : Parameters (.list []) .zeroArg
  | name {text : String} {d : Descriptor} (named : Name text d) :
      Parameters (.name text) (.positional [d])
  | descriptor (d : Descriptor) : Parameters (.descriptor d) (.positional [d])
  | positions {items : List RawSchema} {ds : List Descriptor} (nonempty : items ≠ [])
      (each : List.Forall₂ Position items ds) : Parameters (.list items) (.positional ds)
  | fields {entries : List (String × RawSchema)} {fields : List Field}
      (distinct : (entries.map Prod.fst).Nodup) (each : List.Forall₂ Declaration entries fields) :
      Parameters (.map entries) (.object fields)

/-! ## Faults -/

/-- Why a text names nothing: the source does not compile, or it is neither a pattern nor
the name of a kind. -/
inductive NameFault : String → ConfigError → Prop
  | pattern {source : String} (invalid : Pattern.ofSource? source = none) :
      NameFault ("/" ++ source ++ "/") (.invalidPattern source)
  | kind {text : String} (noPattern : ∀ source, text ≠ "/" ++ source ++ "/")
      (noKind : ∀ k : Kind, text ≠ k.name) : NameFault text (.unknownKind text)

/-- What is wrong with something that describes no value, in a position or in a union. -/
inductive ItemFault (field : String) : RawSchema → ConfigError → Prop
  | name {text : String} {e : ConfigError} (fault : NameFault text e) :
      ItemFault field (.name text) e
  | mapping (entries : List (String × RawSchema)) :
      ItemFault field (.map entries) (.nestedObject field)
  | unsupported (shape : String) : ItemFault field (.unsupported shape) (.unsupported shape)
  | undefined : ItemFault field .undefined (.misplaced .undefined)
  | null : ItemFault field .null (.misplaced .null)
  | noArgs : ItemFault field .noArgs (.misplaced .noArgs)

/-- What is wrong with a member of a union. -/
inductive MemberFault (field : String) : RawSchema → ConfigError → Prop
  | item {raw : RawSchema} {e : ConfigError} (fault : ItemFault field raw e) :
      MemberFault field raw e
  | union (members : List Descriptor) :
      MemberFault field (.descriptor (.union members)) .nestedUnion
  | list (items : List RawSchema) : MemberFault field (.list items) .nestedUnion

/-- The fault of a list is that of its first item that has one. -/
def FirstFault {α β : Type} (valid : α → β → Prop) (fault : α → ConfigError → Prop)
    (items : List α) (e : ConfigError) : Prop :=
  ∃ before bad after, items = before ++ bad :: after ∧
    (∀ item ∈ before, ∃ y, valid item y) ∧ fault bad e

/-- What is wrong with a position. -/
inductive PositionFault (field : String) : RawSchema → ConfigError → Prop
  | item {raw : RawSchema} {e : ConfigError} (fault : ItemFault field raw e) :
      PositionFault field raw e
  | empty : PositionFault field (.list []) .emptyUnion
  | member {members : List RawSchema} {e : ConfigError}
      (first : FirstFault Member (MemberFault field) members e) :
      PositionFault field (.list members) e

/-- What is wrong with an entry after entries of the given names. That its name is one of them comes
before anything that is wrong with its descriptor. -/
inductive EntryFault (names : List String) : String × RawSchema → ConfigError → Prop
  | repeated {name : String} {raw : RawSchema} (taken : name ∈ names) :
      EntryFault names (name, raw) (.duplicateField name)
  | position {name : String} {raw : RawSchema} {e : ConfigError} (fresh : name ∉ names)
      (fault : PositionFault name raw e) : EntryFault names (name, raw) e

/-- The fault of some entries, which come after entries of the given names, is that of the first of
them that has one. -/
def FirstEntryFault (names : List String) (entries : List (String × RawSchema))
    (e : ConfigError) : Prop :=
  ∃ before bad after, entries = before ++ bad :: after ∧ (before.map Prod.fst).Nodup ∧
    (∀ entry ∈ before, entry.1 ∉ names ∧ ∃ f, Declaration entry f) ∧
    EntryFault (before.map Prod.fst ++ names) bad e

/-- What is wrong with what is written for the parameters of a call. -/
inductive ParametersFault : RawSchema → ConfigError → Prop
  | name {text : String} {e : ConfigError} (fault : NameFault text e) :
      ParametersFault (.name text) e
  | unsupported (shape : String) : ParametersFault (.unsupported shape) (.unsupported shape)
  | position {items : List RawSchema} {e : ConfigError}
      (first : FirstFault Position (PositionFault "") items e) : ParametersFault (.list items) e
  | entry {entries : List (String × RawSchema)} {e : ConfigError}
      (first : FirstEntryFault [] entries e) : ParametersFault (.map entries) e

end Rules

/-! ## Names -/

theorem patternSource?_eq_some_iff {text source : String} :
    Descriptor.patternSource? text = some source ↔ text = "/" ++ source ++ "/" := by
  have hchars : text = "/" ++ source ++ "/" ↔ text.toList = '/' :: (source.toList ++ ['/']) := by
    rw [← String.toList_inj]
    simp
  rw [hchars, Descriptor.patternSource?]
  split
  case h_1 rest hrest =>
    rw [hrest, List.cons.injEq]
    constructor
    · intro h
      split at h
      case isTrue hlast =>
        cases h
        refine ⟨rfl, ?_⟩
        rw [String.toList_ofList]
        exact (List.dropLast_append_getLast? '/' hlast).symm
      case isFalse => cases h
    · rintro ⟨-, rfl⟩
      simp
  case h_2 hno =>
    constructor
    · intro h
      cases h
    · intro h
      exact (hno _ h).elim

theorem ofName?_name (k : Kind) : Kind.ofName? k.name = some k := by
  cases k <;> rfl

theorem ofName?_eq_some_iff {text : String} {k : Kind} :
    Kind.ofName? text = some k ↔ text = k.name := by
  constructor
  · intro h
    have hname := List.find?_some h
    exact (beq_iff_eq.1 hname).symm
  · rintro rfl
    exact ofName?_name k

/-- No kind is named like a pattern. -/
theorem patternSource?_name (k : Kind) : Descriptor.patternSource? k.name = none := by
  cases k <;> rfl

theorem ofName_ok_iff [PatternCompiler] {text : String} {d : Descriptor} :
    Descriptor.ofName text = .ok d ↔ Name text d := by
  constructor
  · intro h
    unfold Descriptor.ofName at h
    split at h
    case h_1 source hsource =>
      obtain rfl := patternSource?_eq_some_iff.1 hsource
      split at h
      case h_1 p hp =>
        cases h
        exact .pattern hp
      case h_2 => cases h
    case h_2 =>
      split at h
      case h_1 k hk =>
        cases h
        obtain rfl := ofName?_eq_some_iff.1 hk
        exact .kind k
      case h_2 => cases h
  · intro h
    cases h with
    | kind k =>
      rw [Descriptor.ofName, patternSource?_name]
      simp only [ofName?_name]
    | pattern compiles =>
      rw [Descriptor.ofName, patternSource?_eq_some_iff.2 rfl]
      simp only [compiles]

theorem ofName_error_iff [PatternCompiler] {text : String} {e : ConfigError} :
    Descriptor.ofName text = .error e ↔ NameFault text e := by
  constructor
  · intro h
    unfold Descriptor.ofName at h
    split at h
    case h_1 source hsource =>
      obtain rfl := patternSource?_eq_some_iff.1 hsource
      split at h
      case h_1 => cases h
      case h_2 hinvalid =>
        cases h
        exact .pattern hinvalid
    case h_2 hno =>
      split at h
      case h_1 => cases h
      case h_2 hkind =>
        cases h
        refine .kind (fun source htext => ?_) (fun k htext => ?_)
        · rw [patternSource?_eq_some_iff.2 htext] at hno
          cases hno
        · rw [ofName?_eq_some_iff.2 htext] at hkind
          cases hkind
  · intro h
    cases h with
    | pattern invalid =>
      rw [Descriptor.ofName, patternSource?_eq_some_iff.2 rfl]
      simp only [invalid]
    | kind noPattern noKind =>
      have hsource : Descriptor.patternSource? text = none :=
        Option.eq_none_iff_forall_ne_some.2 fun source h =>
          noPattern source (patternSource?_eq_some_iff.1 h)
      have hname : Kind.ofName? text = none :=
        Option.eq_none_iff_forall_ne_some.2 fun k h => noKind k (ofName?_eq_some_iff.1 h)
      rw [Descriptor.ofName, hsource]
      simp only [hname]

/-! ## Lists -/

section Lists

variable {α β : Type} {valid : α → β → Prop} {fault : α → ConfigError → Prop}
  {f : α → Except ConfigError β} {x : α} {xs : List α} {e : ConfigError}

theorem firstFault_nil : ¬ FirstFault valid fault [] e := by
  rintro ⟨before, bad, after, hnil, -⟩
  cases before <;> cases hnil

/-- The first fault is that of the first item, or else of the others. -/
theorem firstFault_cons :
    FirstFault valid fault (x :: xs) e ↔
      fault x e ∨ (∃ y, valid x y) ∧ FirstFault valid fault xs e := by
  constructor
  · rintro ⟨before, bad, after, hitems, hvalid, hfault⟩
    cases before with
    | nil =>
      cases hitems
      exact .inl hfault
    | cons first before =>
      cases hitems
      rw [List.forall_mem_cons] at hvalid
      exact .inr ⟨hvalid.1, before, bad, after, rfl, hvalid.2, hfault⟩
  · rintro (hfault | ⟨hx, before, bad, after, rfl, hvalid, hfault⟩)
    · exact ⟨[], x, xs, rfl, by simp, hfault⟩
    · exact ⟨x :: before, bad, after, rfl, List.forall_mem_cons.2 ⟨hx, hvalid⟩, hfault⟩

/-- What is made of a list is made of its items, in their order. -/
theorem mapM_ok_iff (hok : ∀ x y, f x = .ok y ↔ valid x y) {ys : List β} :
    xs.mapM f = .ok ys ↔ List.Forall₂ valid xs ys := by
  induction xs generalizing ys with
  | nil =>
    rw [List.mapM_nil, List.forall₂_nil_left_iff]
    constructor
    · rintro ⟨⟩
      rfl
    · rintro rfl
      rfl
  | cons x xs ih =>
    simp only [List.mapM_cons, List.forall₂_cons_left_iff, bind_ok_iff]
    constructor
    · rintro ⟨y, hy, rest, hrest, ⟨⟩⟩
      exact ⟨y, rest, (hok x y).1 hy, ih.1 hrest, rfl⟩
    · rintro ⟨y, rest, hy, hrest, rfl⟩
      exact ⟨y, (hok x y).2 hy, rest, ih.2 hrest, rfl⟩

/-- A list fails with its first fault. -/
theorem mapM_error_iff (hok : ∀ x y, f x = .ok y ↔ valid x y)
    (herror : ∀ x e, f x = .error e ↔ fault x e) :
    xs.mapM f = .error e ↔ FirstFault valid fault xs e := by
  induction xs with
  | nil =>
    rw [List.mapM_nil]
    constructor
    · rintro ⟨⟩
    · intro h
      exact (firstFault_nil h).elim
  | cons x xs ih =>
    rw [List.mapM_cons, firstFault_cons, ← herror x e, ← ih, bind_error_iff]
    refine or_congr_right ?_
    constructor
    · rintro ⟨y, hy, hrest⟩
      rcases bind_error_iff.1 hrest with hrest | ⟨_, _, ⟨⟩⟩
      exact ⟨⟨y, (hok x y).1 hy⟩, hrest⟩
    · rintro ⟨⟨y, hy⟩, hrest⟩
      exact ⟨y, (hok x y).2 hy, bind_error_iff.2 (.inl hrest)⟩

end Lists

/-! ## Positions -/

variable [PatternCompiler] {field : String} {raw : RawSchema} {d : Descriptor} {e : ConfigError}

theorem toMember_ok_iff : raw.toMember field = .ok d ↔ Member raw d := by
  constructor
  · intro h
    cases raw with
    | name text => exact .name (ofName_ok_iff.1 h)
    | descriptor given =>
      rw [RawSchema.toMember] at h
      split at h
      case isTrue => cases h
      case isFalse hplain =>
        cases h
        exact .descriptor (Bool.not_eq_true _ ▸ hplain)
    | undefined | null | noArgs | list _ | map _ | unsupported _ => cases h
  · intro h
    cases h with
    | name named => exact ofName_ok_iff.2 named
    | descriptor plain => simp [RawSchema.toMember, plain]

theorem toMember_error_iff : raw.toMember field = .error e ↔ MemberFault field raw e := by
  constructor
  · intro h
    cases raw with
    | name text => exact .item (.name (ofName_error_iff.1 h))
    | descriptor given =>
      rw [RawSchema.toMember] at h
      split at h
      case isTrue hunion =>
        cases h
        cases given with
        | union members => exact .union members
        | kind _ | nominal _ | pattern _ | predicate _ => cases hunion
      case isFalse => cases h
    | undefined => cases h; exact .item .undefined
    | null => cases h; exact .item .null
    | noArgs => cases h; exact .item .noArgs
    | list items => cases h; exact .list items
    | map entries => cases h; exact .item (.mapping entries)
    | unsupported shape => cases h; exact .item (.unsupported shape)
  · intro h
    cases h with
    | item fault =>
      cases fault with
      | name fault => exact ofName_error_iff.2 fault
      | mapping | unsupported | undefined | null | noArgs => rfl
    | union | list => rfl

/-- The members that a list can have are no unions. -/
theorem Member.isUnion (h : Member raw d) : d.isUnion = false := by
  cases h with
  | name named => cases named <;> rfl
  | descriptor plain => exact plain

/-- Once the members of a list have been found, all that can be wrong with their union is that there
are none. -/
theorem union?_of_members {members : List RawSchema} {ds : List Descriptor}
    (h : List.Forall₂ Member members ds) :
    Descriptor.union? ds = if members = [] then .error .emptyUnion else .ok (.union ds) := by
  have hplain : ds.any Descriptor.isUnion = false := by
    induction h with
    | nil => rfl
    | cons first _ ih => rw [List.any_cons, first.isUnion, Bool.false_or, ih]
  have hempty : ds.isEmpty = true ↔ members = [] := by
    rw [List.isEmpty_iff, ← List.length_eq_zero_iff, ← h.length_eq, List.length_eq_zero_iff]
  rw [Descriptor.union?, hplain]
  by_cases hm : members = []
  · rw [if_pos hm, if_pos (hempty.2 hm)]
  · rw [if_neg hm, if_neg (mt hempty.1 hm)]
    rfl

theorem toDescriptorOf_list {members : List RawSchema} :
    (RawSchema.list members).toDescriptorOf field =
      members.mapM (RawSchema.toMember field) >>= Descriptor.union? := rfl

theorem toMembers_ok_iff {members : List RawSchema} {ds : List Descriptor} :
    members.mapM (RawSchema.toMember field) = .ok ds ↔ List.Forall₂ Member members ds :=
  mapM_ok_iff fun _ _ => toMember_ok_iff

theorem toMembers_error_iff {members : List RawSchema} :
    members.mapM (RawSchema.toMember field) = .error e ↔
      FirstFault Member (MemberFault field) members e :=
  mapM_error_iff (fun _ _ => toMember_ok_iff) fun _ _ => toMember_error_iff

theorem toDescriptorOf_ok_iff : raw.toDescriptorOf field = .ok d ↔ Position raw d := by
  cases raw with
  | name text =>
    show Descriptor.ofName text = .ok d ↔ _
    rw [ofName_ok_iff]
    constructor
    · intro named
      exact .name named
    · intro h
      cases h with
      | name named => exact named
  | descriptor given =>
    constructor
    · rintro ⟨⟩
      exact .descriptor d
    · rintro ⟨⟩
      rfl
  | list members =>
    rw [toDescriptorOf_list, bind_ok_iff]
    constructor
    · rintro ⟨ds, hds, hunion⟩
      have heach := toMembers_ok_iff.1 hds
      rw [union?_of_members heach] at hunion
      split at hunion
      case isTrue => cases hunion
      case isFalse hnonempty =>
        cases hunion
        exact .union hnonempty heach
    · intro h
      cases h with
      | union nonempty each =>
        refine ⟨_, toMembers_ok_iff.2 each, ?_⟩
        rw [union?_of_members each, if_neg nonempty]
  | undefined | null | noArgs | map _ | unsupported _ =>
    constructor
    · rintro ⟨⟩
    · rintro ⟨⟩

theorem toDescriptorOf_error_iff :
    raw.toDescriptorOf field = .error e ↔ PositionFault field raw e := by
  -- apart from lists and given descriptors, a position is read like a member
  have hitem (hmember : raw.toDescriptorOf field = raw.toMember field)
      (hlist : ∀ items, raw ≠ .list items) (hgiven : ∀ d, raw ≠ .descriptor d) :
      raw.toDescriptorOf field = .error e ↔ PositionFault field raw e := by
    rw [hmember, toMember_error_iff]
    constructor
    · intro h
      cases h with
      | item fault => exact .item fault
      | union members => exact (hgiven _ rfl).elim
      | list items => exact (hlist _ rfl).elim
    · intro h
      cases h with
      | item fault => exact .item fault
      | empty | member => exact (hlist _ rfl).elim
  cases raw with
  | list members =>
    rw [toDescriptorOf_list, bind_error_iff, toMembers_error_iff]
    constructor
    · rintro (first | ⟨ds, hds, hunion⟩)
      · exact .member first
      · rw [union?_of_members (toMembers_ok_iff.1 hds)] at hunion
        split at hunion
        case isTrue hempty =>
          cases hunion
          cases hempty
          exact .empty
        case isFalse => cases hunion
    · intro h
      cases h with
      | item fault => cases fault
      | empty => exact .inr ⟨[], rfl, rfl⟩
      | member first => exact .inl first
  | descriptor given =>
    constructor
    · rintro ⟨⟩
    · intro h
      cases h with
      | item fault => cases fault
  | name _ | undefined | null | noArgs | map _ | unsupported _ =>
    exact hitem rfl (by simp) (by simp)

/-! ## Entries -/

section Entries

variable {names : List String} {name : String} {entries : List (String × RawSchema)}

theorem toFields_of_taken (h : name ∈ names) :
    RawSchema.toFields names ((name, raw) :: entries) = .error (.duplicateField name) := by
  rw [RawSchema.toFields, if_pos (List.contains_iff_mem.2 h)]
  rfl

theorem toFields_of_fresh (h : name ∉ names) :
    RawSchema.toFields names ((name, raw) :: entries) = do
      let d ← raw.toDescriptorOf name
      return { name, descriptor := d } :: (← RawSchema.toFields (name :: names) entries) := by
  rw [RawSchema.toFields, if_neg (mt List.contains_iff_mem.1 h)]

theorem toFields_ok_iff {fields : List Field} :
    RawSchema.toFields names entries = .ok fields ↔
      (entries.map Prod.fst).Nodup ∧ (∀ entry ∈ entries, entry.1 ∉ names) ∧
        List.Forall₂ Declaration entries fields := by
  induction entries generalizing names fields with
  | nil =>
    rw [RawSchema.toFields, List.forall₂_nil_left_iff]
    constructor
    · rintro ⟨⟩
      exact ⟨List.nodup_nil, by simp, rfl⟩
    · rintro ⟨-, -, rfl⟩
      rfl
  | cons entry entries ih =>
    obtain ⟨name, raw⟩ := entry
    rw [List.map_cons, List.nodup_cons, List.forall_mem_cons, List.forall₂_cons_left_iff]
    by_cases hname : name ∈ names
    · rw [toFields_of_taken hname]
      constructor
      · rintro ⟨⟩
      · rintro ⟨-, ⟨hfresh, -⟩, -⟩
        exact (hfresh hname).elim
    · rw [toFields_of_fresh hname]
      rw [bind_ok_iff]
      constructor
      · rintro ⟨d, hd, hfields⟩
        obtain ⟨rest, hrest, ⟨⟩⟩ := bind_ok_iff.1 hfields
        obtain ⟨hnodup, hfresh, heach⟩ := ih.1 hrest
        refine ⟨⟨?_, hnodup⟩, ⟨hname, fun entry hentry hmem => ?_⟩, _, rest,
          .mk (toDescriptorOf_ok_iff.1 hd), heach, rfl⟩
        · intro hmem
          obtain ⟨entry, hentry, rfl⟩ := List.mem_map.1 hmem
          exact hfresh entry hentry List.mem_cons_self
        · exact hfresh entry hentry (List.mem_cons_of_mem _ hmem)
      · rintro ⟨⟨hrepeated, hnodup⟩, ⟨-, hfresh⟩, _, rest, ⟨hposition⟩, heach, rfl⟩
        have hrest : RawSchema.toFields (name :: names) entries = .ok rest := by
          refine ih.2 ⟨hnodup, fun entry hentry hmem => ?_, heach⟩
          rcases List.mem_cons.1 hmem with hmem | hmem
          · exact hrepeated (List.mem_map.2 ⟨entry, hentry, hmem⟩)
          · exact hfresh entry hentry hmem
        exact ⟨_, toDescriptorOf_ok_iff.2 hposition, bind_ok_iff.2 ⟨rest, hrest, rfl⟩⟩

/-- Only which names come before an entry counts. -/
theorem EntryFault.of_mem_iff {names' : List String} {entry : String × RawSchema}
    (h : EntryFault names entry e) (hnames : ∀ name, name ∈ names ↔ name ∈ names') :
    EntryFault names' entry e := by
  cases h with
  | repeated taken => exact .repeated ((hnames _).1 taken)
  | position fresh fault => exact .position (mt (hnames _).2 fresh) fault

/-- The first fault is that of the first entry, or else of the others, which come after it. -/
theorem firstEntryFault_cons {entry : String × RawSchema} :
    FirstEntryFault names (entry :: entries) e ↔
      EntryFault names entry e ∨
        entry.1 ∉ names ∧ (∃ f, Declaration entry f) ∧
          FirstEntryFault (entry.1 :: names) entries e := by
  have hmem (before : List (String × RawSchema)) (name : String) :
      name ∈ before.map Prod.fst ++ entry.1 :: names ↔
        name ∈ (entry :: before).map Prod.fst ++ names := by
    simp only [List.map_cons, List.cons_append, List.mem_append, List.mem_cons]
    exact or_left_comm
  constructor
  · rintro ⟨before, bad, after, hentries, hnodup, hvalid, hfault⟩
    cases before with
    | nil =>
      cases hentries
      exact .inl hfault
    | cons first before =>
      cases hentries
      rw [List.map_cons, List.nodup_cons] at hnodup
      rw [List.forall_mem_cons] at hvalid
      refine .inr ⟨hvalid.1.1, hvalid.1.2, before, bad, after, rfl, hnodup.2,
        fun entry hentry => ⟨fun h => ?_, (hvalid.2 entry hentry).2⟩,
        hfault.of_mem_iff fun name => (hmem before name).symm⟩
      rcases List.mem_cons.1 h with h | h
      · exact hnodup.1 (List.mem_map.2 ⟨entry, hentry, h⟩)
      · exact (hvalid.2 entry hentry).1 h
  · rintro (hfault | ⟨hfresh, hentry, before, bad, after, rfl, hnodup, hvalid, hfault⟩)
    · exact ⟨[], entry, entries, rfl, List.nodup_nil, by simp, hfault⟩
    · refine ⟨entry :: before, bad, after, rfl, ?_, ?_, hfault.of_mem_iff (hmem before)⟩
      · rw [List.map_cons, List.nodup_cons]
        refine ⟨fun h => ?_, hnodup⟩
        obtain ⟨entry', hentry', hname⟩ := List.mem_map.1 h
        exact (hvalid entry' hentry').1 (hname ▸ List.mem_cons_self)
      · rw [List.forall_mem_cons]
        exact ⟨⟨hfresh, hentry⟩, fun entry' hentry' =>
          ⟨mt (List.mem_cons_of_mem _) (hvalid entry' hentry').1, (hvalid entry' hentry').2⟩⟩

theorem toFields_error_iff :
    RawSchema.toFields names entries = .error e ↔ FirstEntryFault names entries e := by
  induction entries generalizing names with
  | nil =>
    constructor
    · rintro ⟨⟩
    · rintro ⟨before, bad, after, hnil, -⟩
      cases before <;> cases hnil
  | cons entry entries ih =>
    obtain ⟨name, raw⟩ := entry
    rw [firstEntryFault_cons, ← ih]
    by_cases hname : name ∈ names
    · rw [toFields_of_taken hname]
      constructor
      · rintro ⟨⟩
        exact .inl (.repeated hname)
      · rintro (fault | ⟨hfresh, -⟩)
        · cases fault with
          | repeated => rfl
          | position fresh => exact (fresh hname).elim
        · exact (hfresh hname).elim
    · rw [toFields_of_fresh hname]
      rw [bind_error_iff, toDescriptorOf_error_iff]
      constructor
      · rintro (fault | ⟨d, hd, hfields⟩)
        · exact .inl (.position hname fault)
        · rcases bind_error_iff.1 hfields with hrest | ⟨_, _, ⟨⟩⟩
          exact .inr ⟨hname, ⟨_, .mk (toDescriptorOf_ok_iff.1 hd)⟩, hrest⟩
      · rintro (fault | ⟨-, ⟨_, ⟨hposition⟩⟩, hrest⟩)
        · cases fault with
          | repeated taken => exact (hname taken).elim
          | position _ fault => exact .inl fault
        · exact .inr ⟨_, toDescriptorOf_ok_iff.2 hposition, bind_error_iff.2 (.inl hrest)⟩

end Entries

/-! ## The whole -/

theorem toDescriptors_ok_iff {items : List RawSchema} {ds : List Descriptor} :
    items.mapM RawSchema.toDescriptor = .ok ds ↔ List.Forall₂ Position items ds :=
  mapM_ok_iff fun _ _ => toDescriptorOf_ok_iff

theorem toDescriptors_error_iff {items : List RawSchema} :
    items.mapM RawSchema.toDescriptor = .error e ↔
      FirstFault Position (PositionFault "") items e :=
  mapM_error_iff (fun _ _ => toDescriptorOf_ok_iff) fun _ _ => toDescriptorOf_error_iff

theorem normalize_list {item : RawSchema} {items : List RawSchema} :
    (RawSchema.list (item :: items)).normalize =
      ((item :: items).mapM RawSchema.toDescriptor).map .positional := by
  show ((item :: items).mapM RawSchema.toDescriptor >>= fun ds => pure (Schema.positional ds)) = _
  cases (item :: items).mapM RawSchema.toDescriptor <;> rfl

theorem normalize_name {text : String} :
    (RawSchema.name text).normalize = (Descriptor.ofName text).map fun d => .positional [d] := by
  show (Descriptor.ofName text >>= fun d => pure (Schema.positional [d])) = _
  cases Descriptor.ofName text <;> rfl

theorem normalize_map {entries : List (String × RawSchema)} :
    (RawSchema.map entries).normalize = (RawSchema.toFields [] entries).map .object := by
  rw [RawSchema.normalize]
  cases RawSchema.toFields [] entries <;> rfl

theorem normalize_ok_iff {s : Schema} : raw.normalize = .ok s ↔ Parameters raw s := by
  cases raw with
  | undefined | null | noArgs | descriptor _ =>
    constructor
    · rintro ⟨⟩
      constructor
    · rintro ⟨⟩
      rfl
  | name text =>
    rw [normalize_name, map_ok_iff]
    constructor
    · rintro ⟨d, hd, rfl⟩
      exact .name (ofName_ok_iff.1 hd)
    · intro h
      cases h with
      | name named => exact ⟨_, ofName_ok_iff.2 named, rfl⟩
  | list items =>
    cases items with
    | nil =>
      constructor
      · rintro ⟨⟩
        exact .empty
      · intro h
        cases h with
        | empty => rfl
        | positions nonempty => exact (nonempty rfl).elim
    | cons item items =>
      rw [normalize_list, map_ok_iff]
      constructor
      · rintro ⟨ds, hds, rfl⟩
        exact .positions (List.cons_ne_nil _ _) (toDescriptors_ok_iff.1 hds)
      · intro h
        cases h with
        | positions _ each => exact ⟨_, toDescriptors_ok_iff.2 each, rfl⟩
  | map entries =>
    rw [normalize_map, map_ok_iff]
    constructor
    · rintro ⟨fields, hfields, rfl⟩
      obtain ⟨hdistinct, -, heach⟩ := toFields_ok_iff.1 hfields
      exact .fields hdistinct heach
    · intro h
      cases h with
      | fields distinct each => exact ⟨_, toFields_ok_iff.2 ⟨distinct, by simp, each⟩, rfl⟩
  | unsupported shape =>
    constructor
    · rintro ⟨⟩
    · rintro ⟨⟩

theorem normalize_error_iff : raw.normalize = .error e ↔ ParametersFault raw e := by
  cases raw with
  | undefined | null | noArgs | descriptor _ =>
    constructor
    · rintro ⟨⟩
    · rintro ⟨⟩
  | name text =>
    rw [normalize_name, map_error_iff, ofName_error_iff]
    constructor
    · intro fault
      exact .name fault
    · intro h
      cases h with
      | name fault => exact fault
  | list items =>
    have hlist : ParametersFault (.list items) e ↔
        FirstFault Position (PositionFault "") items e := by
      constructor
      · intro h
        cases h with
        | position first => exact first
      · intro first
        exact .position first
    rw [hlist]
    cases items with
    | nil =>
      constructor
      · rintro ⟨⟩
      · intro first
        exact (firstFault_nil first).elim
    | cons item items => rw [normalize_list, map_error_iff, toDescriptors_error_iff]
  | map entries =>
    rw [normalize_map, map_error_iff, toFields_error_iff]
    constructor
    · intro first
      exact .entry first
    · intro h
      cases h with
      | entry first => exact first
  | unsupported shape =>
    constructor
    · rintro ⟨⟩
      exact .unsupported shape
    · intro h
      cases h with
      | unsupported => rfl

end Grammar

/-- **Normalization accepts exactly the grammar** and keeps its order, for the whole and for a
single position in any field; and **otherwise it fails with the first fault**. -/
theorem normalize_grammar [PatternCompiler] (raw : RawSchema) :
    (∀ s, raw.normalize = .ok s ↔ Grammar.Parameters raw s) ∧
    (∀ e, raw.normalize = .error e ↔ Grammar.ParametersFault raw e) ∧
    ∀ field,
      (∀ d, raw.toDescriptorOf field = .ok d ↔ Grammar.Position raw d) ∧
      ∀ e, raw.toDescriptorOf field = .error e ↔ Grammar.PositionFault field raw e :=
  ⟨fun _ => Grammar.normalize_ok_iff, fun _ => Grammar.normalize_error_iff, fun _ =>
    ⟨fun _ => Grammar.toDescriptorOf_ok_iff, fun _ => Grammar.toDescriptorOf_error_iff⟩⟩

/-- That a name is repeated comes before what is wrong with its descriptor, and after what is wrong
with the entries before. -/
example [PatternCompiler] :
    let size : String × RawSchema := ("size", .name "int")
    let again : String × RawSchema := ("size", .list [.list []])
    let tag : String × RawSchema := ("tag", .list [.name "string", .list []])
    (RawSchema.map [size, again, tag]).normalize = .error (.duplicateField "size") ∧
      (RawSchema.map [size, tag, again]).normalize = .error .nestedUnion :=
  ⟨rfl, rfl⟩

end CallContract
