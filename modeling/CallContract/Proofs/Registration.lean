import CallContract.Proofs.Loading

/-!
# What registration keeps

**Theorem (`registry_history`).** After any steps on a new registry, whatever files they find, each
contract goes by its own name, and keeps that name for as long as more steps are made. A step about
one contract adds just that contract, under a name that was free, or fails and changes nothing.

All that a step does comes down to registering documents, one after another, whether it succeeds or
not (`Registry.Grows`, `Registry.step_grows`). So what one registration keeps is kept by every
history.
-/

namespace CallContract

/-! ## Names -/

theorem mem_sortNames {names : List String} {name : String} :
    name ∈ sortNames names ↔ name ∈ names := List.mem_mergeSort

theorem pairwise_le_sortNames (names : List String) : (sortNames names).Pairwise (· ≤ ·) := by
  have htrans (a b c : String) (hab : decide (a ≤ b)) (hbc : decide (b ≤ c)) : decide (a ≤ c) :=
    decide_eq_true (String.le_trans (of_decide_eq_true hab) (of_decide_eq_true hbc))
  have htotal (a b : String) : decide (a ≤ b) || decide (b ≤ a) := by
    simpa using String.le_total a b
  exact (List.pairwise_mergeSort htrans htotal _).imp of_decide_eq_true

theorem nodup_sortNames {names : List String} (hnames : names.Nodup) : (sortNames names).Nodup :=
  (List.mergeSort_perm _ _).nodup_iff.2 hnames

/-- Distinct names ascend strictly when they are sorted. -/
theorem ascending_sortNames {names : List String} (hnames : names.Nodup) :
    (sortNames names).Pairwise (· < ·) := by
  refine (pairwise_le_sortNames names).imp₂ (fun a b hle hne => ?_) (nodup_sortNames hnames)
  exact String.not_le.1 fun hge => hne (String.le_antisymm hle hge)

/-- Names are sorted in the same way, whatever their order. -/
theorem sortNames_perm {names names' : List String} (hperm : names'.Perm names) :
    sortNames names' = sortNames names := by
  have hsame : (sortNames names').Perm (sortNames names) :=
    (List.mergeSort_perm _ _).trans (hperm.trans (List.mergeSort_perm _ _).symm)
  exact hsame.eq_of_pairwise (fun _ _ _ _ => String.le_antisymm) (pairwise_le_sortNames names')
    (pairwise_le_sortNames names)

namespace Registry

section Names

variable {r : Registry}

theorem mem_names {name : String} : name ∈ r.names ↔ ∃ c, r.get? name = some c := by
  rw [names, mem_sortNames]
  exact Table.mem_keys

theorem not_mem_names {name : String} : name ∉ r.names ↔ r.get? name = none := by
  rw [mem_names, Option.eq_none_iff_forall_ne_some]
  exact not_exists

theorem ascending_names : r.names.Pairwise (· < ·) := ascending_sortNames r.contracts.distinct

theorem length_names : r.names.length = r.size := by
  rw [names, sortNames, List.length_mergeSort]
  exact List.length_map _

/-- One contract has been added under its own name, and nothing else has changed. -/
structure AddsJust (r : Registry) (c : Contract) (r' : Registry) : Prop where
  fresh : c.config.displayName ∉ r.names
  names : ∀ name, name ∈ r'.names ↔ name = c.config.displayName ∨ name ∈ r.names
  registered : r'.get? c.config.displayName = some c
  others : ∀ name, name ≠ c.config.displayName → r'.get? name = r.get? name

end Names

variable [PatternCompiler]

/-! ## One registration -/

/-- A document is compiled with its own configuration. -/
theorem config_of_compile {d : ContractDocument} {c : Contract} (h : d.compile = .ok c) :
    c.config = d.config := by
  rw [ContractDocument.compile, Contract.ofRaw] at h
  obtain ⟨s, -, h⟩ := bind_ok_iff.1 h
  obtain ⟨d, -, ⟨⟩⟩ := bind_ok_iff.1 h
  rfl

theorem addsJust_of_register {r r' : Registry} {d : ContractDocument} {c : Contract}
    (h : r.register d = (.ok c, r')) : r.AddsJust c r' := by
  obtain ⟨hfresh, hcompile, rfl⟩ := register_ok_iff.1 h
  rw [← config_of_compile hcompile] at hfresh ⊢
  have hget := get?_adding hfresh c
  refine ⟨not_mem_names.2 hfresh, fun name => ?_, ?_, fun name hname => ?_⟩
  · rw [mem_names, mem_names, hget]
    by_cases hname : name = c.config.displayName
    · simp [hname]
    · simp [hname]
  · rw [hget, if_pos rfl]
  · rw [hget, if_neg hname]

variable {r r' : Registry}

/-! ## Histories -/

/-- A registry comes from another by registering documents. -/
inductive Grows : Registry → Registry → Prop
  | refl (r : Registry) : Grows r r
  | add {r r₁ r₂ : Registry} {d : ContractDocument} {c : Contract}
      (first : r.register d = (.ok c, r₁)) (rest : Grows r₁ r₂) : Grows r r₂

namespace Grows

theorem trans {r'' : Registry} (h : Grows r r') (h' : Grows r' r'') : Grows r r'' := by
  induction h with
  | refl => exact h'
  | add first _ ih => exact .add first (ih h')

theorem of_register {d : ContractDocument} {c : Contract} (h : r.register d = (.ok c, r')) :
    Grows r r' := .add h (.refl r')

/-- A name that is registered keeps its contract. -/
theorem kept (h : Grows r r') {name : String} {c : Contract} (hname : r.get? name = some c) :
    r'.get? name = some c := by
  induction h with
  | refl => exact hname
  | add first _ ih => exact ih ((adds_of_register first).kept name c hname)

/-- If contracts go by their own names, they do so after more have been registered. -/
theorem ownName (h : Grows r r')
    (hr : ∀ name c, r.get? name = some c → c.config.displayName = name) :
    ∀ name c, r'.get? name = some c → c.config.displayName = name := by
  induction h with
  | refl => exact hr
  | @add r r₁ r₂ d c first _ ih =>
    refine ih fun name c' hname => ?_
    have hadds := addsJust_of_register first
    by_cases hown : name = c.config.displayName
    · rw [hown, hadds.registered] at hname
      cases hname
      exact hown.symm
    · rw [hadds.others name hown] at hname
      exact hr name c' hname

end Grows

variable [JsonLibrary]

theorem Loads.grows {files : FileTree} {names : List String} (h : Loads files r names r') :
    Grows r r' := by
  induction h with
  | nil r => exact .refl r
  | cons first _ ih =>
    obtain ⟨d, -, hregister⟩ := loadFile_ok_iff.1 first
    exact .add hregister ih

/-- A load of some files, whether it fails or not, has loaded some of them. -/
theorem loadNames_loads (r : Registry) (files : FileTree) (names : List String) :
    ∃ loaded, Loads files r loaded (r.loadNames files names).2 := by
  cases h : r.loadNames files names with
  | mk result r' =>
    cases result with
    | ok _ => exact ⟨names, loadNames_ok_iff.1 h⟩
    | error e =>
      obtain ⟨loaded, _, _, -, hloads, -⟩ := loadNames_error_iff.1 h
      exact ⟨loaded, hloads⟩

theorem loadAll_grows (r : Registry) (files : FileTree) : Grows r (r.loadAll files).2 := by
  rw [loadAll]
  split
  case h_1 => exact .refl r
  case h_2 =>
    split
    case h_1 => exact .refl r
    case h_2 names _ =>
      obtain ⟨loaded, hloads⟩ := r.loadNames_loads files (documentNames names)
      exact hloads.grows

/-- **A step about one contract** fails and leaves the registry as it was, or registers a document
and answers its contract. -/
theorem step_of_isSingle (r : Registry) {s : RegistryStep} (hs : s.isSingle) :
    (∃ e, r.step s = (.error e, r)) ∨
      ∃ d c r', r.register d = (.ok c, r') ∧ r.step s = (.ok (some c), r') := by
  cases s with
  | register d =>
    match hregister : r.register d with
    | (.error e, r') =>
      cases register_error hregister
      exact .inl ⟨e, by rw [step, hregister]; rfl⟩
    | (.ok c, r') => exact .inr ⟨d, c, r', hregister, by rw [step, hregister]; rfl⟩
  | loadFile files path =>
    match hfile : r.loadFile files path with
    | (.error e, r') =>
      cases loadFile_error hfile
      exact .inl ⟨e, by rw [step, hfile]; rfl⟩
    | (.ok c, r') =>
      obtain ⟨d, -, hregister⟩ := loadFile_ok_iff.1 hfile
      exact .inr ⟨d, c, r', hregister, by rw [step, hfile]; rfl⟩
  | loadAll => cases hs

theorem step_grows (r : Registry) (s : RegistryStep) : Grows r (r.step s).2 := by
  cases hs : s.isSingle with
  | true =>
    rcases r.step_of_isSingle hs with ⟨e, hstep⟩ | ⟨d, c, r', hregister, hstep⟩
    · rw [hstep]
      exact .refl r
    · rw [hstep]
      exact .of_register hregister
  | false =>
    cases s with
    | loadAll files => exact r.loadAll_grows files
    | register _ | loadFile _ _ => cases hs

theorem run_grows (r : Registry) (steps : List RegistryStep) : Grows r (r.run steps) := by
  induction steps generalizing r with
  | nil => exact .refl r
  | cons s steps ih => exact (r.step_grows s).trans (ih (r.step s).2)

/-- What holds of a registry at each moment of its history. -/
structure Lawful (r : Registry) : Prop where
  /-- A contract goes by its own name. -/
  ownName : ∀ name c, r.get? name = some c → c.config.displayName = name
  /-- Whatever is done from here on, a name keeps its contract. -/
  forever : ∀ steps name c, r.get? name = some c → (r.run steps).get? name = some c
  /-- A step about one contract that fails changes nothing. -/
  unchanged : ∀ s e, RegistryStep.isSingle s → (r.step s).1 = .error e → (r.step s).2 = r
  /-- One that succeeds adds the contract that it answers, and nothing else. -/
  adds : ∀ s answer, RegistryStep.isSingle s → (r.step s).1 = .ok answer →
    ∃ c, answer = some c ∧ r.AddsJust c (r.step s).2
  ascending : r.names.Pairwise (· < ·)
  length_names : r.names.length = r.size

theorem lawful_of_ownName (h : ∀ name c, r.get? name = some c → c.config.displayName = name) :
    r.Lawful where
  ownName := h
  forever steps _ _ hname := (r.run_grows steps).kept hname
  unchanged := by
    intro s e hs he
    rcases r.step_of_isSingle hs with ⟨e', hstep⟩ | ⟨d, c, r', -, hstep⟩
    · rw [hstep]
    · rw [hstep] at he
      cases he
  adds := by
    intro s answer hs hanswer
    rcases r.step_of_isSingle hs with ⟨e, hstep⟩ | ⟨d, c, r', hregister, hstep⟩
    · rw [hstep] at hanswer
      cases hanswer
    · rw [hstep] at hanswer ⊢
      cases hanswer
      exact ⟨c, rfl, addsJust_of_register hregister⟩
  ascending := ascending_names
  length_names := length_names

end Registry

/-- **Registration is lawful**: whatever is done with a new registry, and whatever files it finds,
contracts go by their own names and keep them, and each step about one contract adds that contract
or nothing. -/
theorem registry_history [PatternCompiler] [JsonLibrary] (directory : Path)
    (steps : List RegistryStep) :
    ((Registry.ofDirectory directory).run steps).Lawful := by
  have hempty (name : String) (c : Contract)
      (h : (Registry.ofDirectory directory).get? name = some c) : c.config.displayName = name := by
    cases h
  have hgrows := (Registry.ofDirectory directory).run_grows steps
  exact Registry.lawful_of_ownName (hgrows.ownName hempty)

end CallContract
