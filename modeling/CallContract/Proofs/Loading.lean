import CallContract.Pattern.Meaning
import CallContract.Proofs.Dict
import CallContract.Registry

/-!
# Loading a directory

**Theorem (`failed_load_stops`).** A load that fails leaves the files before the failing one
registered: nothing that was registered is lost or changed, but the registry is as it was only if
the first file has failed. Otherwise the load cannot be done again, for it fails on the first file,
which is registered by then, whatever is done about the file that has failed
(`failed_load_not_undone`).

Loading some files is a relation, `Registry.Loads`; `Registry.loadNames` is where it leads, up to
the first error (`Registry.loadNames_ok_iff`, `Registry.loadNames_error_iff`).
-/

namespace CallContract

namespace Registry

/-! ## One document -/

section Documents

variable {r r' : Registry} {d : ContractDocument}

/-- The registry with a contract under a name that was free. -/
def adding (r : Registry) (name : String) (c : Contract) : Registry :=
  { r with contracts := (r.contracts.orInsert name c).2 }

theorem get?_adding {name : String} (h : r.get? name = none) (c : Contract) (k : String) :
    (r.adding name c).get? k = if k = name then some c else r.get? k :=
  Table.get?_orInsert h c k

theorem size_adding {name : String} (h : r.get? name = none) (c : Contract) :
    (r.adding name c).size = r.size + 1 := Table.size_orInsert h c

variable [PatternCompiler]

/-- A name that is registered cannot be registered again. -/
theorem register_of_registered {c : Contract} (h : r.get? d.config.displayName = some c) :
    r.register d = (.error (.duplicateContract d.config.displayName), r) := by
  have hcontains : r.contracts.contains d.config.displayName := by
    rw [Table.contains, show r.contracts.get? d.config.displayName = some c from h]
    rfl
  rw [register, if_pos hcontains]

theorem register_of_fresh (h : r.get? d.config.displayName = none) :
    r.register d = match d.compile with
      | .error e => (.error e, r)
      | .ok c => (.ok c, r.adding d.config.displayName c) := by
  have hcontains : ¬ r.contracts.contains d.config.displayName := by
    rw [Table.contains, show r.contracts.get? d.config.displayName = none from h]
    decide
  rw [register, if_neg hcontains]
  cases d.compile with
  | error e => rfl
  | ok c =>
    have hfree : r.contracts.get? d.config.displayName = none := h
    simp only [adding, Table.orInsert_of_none hfree]

theorem register_ok_iff {c : Contract} :
    r.register d = (.ok c, r') ↔
      r.get? d.config.displayName = none ∧ d.compile = .ok c ∧
        r' = r.adding d.config.displayName c := by
  cases hname : r.get? d.config.displayName with
  | some old => simp [register_of_registered hname]
  | none =>
    rw [register_of_fresh hname]
    cases d.compile with
    | error e => simp
    | ok c' =>
      simp only [Prod.mk.injEq, Except.ok.injEq, true_and]
      constructor
      · rintro ⟨rfl, rfl⟩
        exact ⟨rfl, rfl⟩
      · rintro ⟨rfl, rfl⟩
        exact ⟨rfl, rfl⟩

/-- **A registration that fails changes nothing.** -/
theorem register_error {e : ConfigError} (h : r.register d = (.error e, r')) : r' = r := by
  cases hname : r.get? d.config.displayName with
  | some old =>
    rw [register_of_registered hname] at h
    cases h
    rfl
  | none =>
    rw [register_of_fresh hname] at h
    cases hcompile : d.compile with
    | error e => rw [hcompile] at h; cases h; rfl
    | ok c => rw [hcompile] at h; cases h

/-- What one document adds to a registry. -/
structure Adds (r : Registry) (d : ContractDocument) (r' : Registry) : Prop where
  directory : r'.directory = r.directory
  fresh : r.get? d.config.displayName = none
  kept : ∀ name c, r.get? name = some c → r'.get? name = some c
  registered : ∃ c, r'.get? d.config.displayName = some c
  size : r'.size = r.size + 1

theorem adds_of_register {c : Contract} (h : r.register d = (.ok c, r')) : Adds r d r' := by
  obtain ⟨hfresh, -, rfl⟩ := register_ok_iff.1 h
  exact
    { directory := rfl
      fresh := hfresh
      kept := by
        intro name c' hname
        rw [get?_adding hfresh, if_neg]
        · exact hname
        · rintro rfl
          cases hfresh.symm.trans hname
      registered := ⟨c, by rw [get?_adding hfresh, if_pos rfl]⟩
      size := size_adding hfresh c }

end Documents

variable [PatternCompiler] [JsonLibrary] {r r' : Registry} {files : FileTree}

theorem loadFile_eq {d : ContractDocument} {path : Path} (h : readDocument files path = .ok d) :
    r.loadFile files path = r.register d := by
  rw [loadFile, h]

theorem loadFile_ok_iff {path : Path} {c : Contract} :
    r.loadFile files path = (.ok c, r') ↔
      ∃ d, readDocument files path = .ok d ∧ r.register d = (.ok c, r') := by
  cases h : readDocument files path with
  | error e => simp [loadFile, h]
  | ok d => simp [loadFile_eq h]

theorem adds_of_loadFile {path : Path} {c : Contract} (h : r.loadFile files path = (.ok c, r')) :
    ∃ d, readDocument files path = .ok d ∧ Adds r d r' := by
  obtain ⟨d, hread, hregister⟩ := loadFile_ok_iff.1 h
  exact ⟨d, hread, adds_of_register hregister⟩

/-- **A file that cannot be loaded changes nothing.** -/
theorem loadFile_error {path : Path} {e : ConfigError}
    (h : r.loadFile files path = (.error e, r')) : r' = r := by
  cases hread : readDocument files path with
  | error e => rw [loadFile, hread] at h; cases h; rfl
  | ok d => rw [loadFile_eq hread] at h; exact register_error h

/-! ## Some files -/

/-- Files of the directory are loaded one after another. -/
inductive Loads (files : FileTree) : Registry → List String → Registry → Prop
  | nil (r : Registry) : Loads files r [] r
  | cons {r r₁ r₂ : Registry} {name : String} {names : List String} {c : Contract}
      (first : r.loadFile files (Path.child r.directory name) = (.ok c, r₁))
      (rest : Loads files r₁ names r₂) : Loads files r (name :: names) r₂

namespace Loads

variable {names : List String}

theorem directory (h : Loads files r names r') : r'.directory = r.directory := by
  induction h with
  | nil => rfl
  | cons first _ ih =>
    obtain ⟨d, -, hadds⟩ := adds_of_loadFile first
    rw [ih, hadds.directory]

theorem kept (h : Loads files r names r') {name : String} {c : Contract}
    (hname : r.get? name = some c) : r'.get? name = some c := by
  induction h with
  | nil => exact hname
  | cons first _ ih =>
    obtain ⟨d, -, hadds⟩ := adds_of_loadFile first
    exact ih (hadds.kept name c hname)

theorem size (h : Loads files r names r') : r'.size = r.size + names.length := by
  induction h with
  | nil => rfl
  | cons first _ ih =>
    obtain ⟨d, -, hadds⟩ := adds_of_loadFile first
    rw [ih, hadds.size, List.length_cons]
    omega

/-- A registry stays as it was only if no file is loaded. -/
theorem unchanged_iff (h : Loads files r names r') : r' = r ↔ names = [] := by
  constructor
  · rintro rfl
    exact List.length_eq_zero_iff.1 (by have := h.size; omega)
  · rintro rfl
    cases h
    rfl

/-- The first file is registered in the end. -/
theorem exists_registered {first : String} {rest : List String}
    (h : Loads files r (first :: rest) r') :
    ∃ d c, readDocument files (Path.child r.directory first) = .ok d ∧
      r'.get? d.config.displayName = some c := by
  cases h with
  | cons first rest =>
    obtain ⟨d, hread, hadds⟩ := adds_of_loadFile first
    obtain ⟨c, hname⟩ := hadds.registered
    exact ⟨d, c, hread, rest.kept hname⟩

end Loads

/-- One file is loaded, and then the others, or it fails and nothing has changed. -/
theorem loadNames_cons (r : Registry) (files : FileTree) (name : String) (names : List String) :
    (∃ c r₁, r.loadFile files (Path.child r.directory name) = (.ok c, r₁) ∧
        r.loadNames files (name :: names) = r₁.loadNames files names) ∨
      ∃ e, r.loadFile files (Path.child r.directory name) = (.error e, r) ∧
        r.loadNames files (name :: names) = (.error e, r) := by
  rw [loadNames]
  match h : r.loadFile files (Path.child r.directory name) with
  | (.ok c, r₁) => exact .inl ⟨c, r₁, rfl, rfl⟩
  | (.error e, r₁) =>
    cases loadFile_error h
    exact .inr ⟨e, rfl, rfl⟩

theorem loadNames_ok_iff {names : List String} :
    r.loadNames files names = (.ok (), r') ↔ Loads files r names r' := by
  induction names generalizing r with
  | nil =>
    constructor
    · intro h
      cases h
      exact .nil _
    · intro h
      cases h
      rfl
  | cons name names ih =>
    rcases r.loadNames_cons files name names with ⟨c, r₁, hfile, hload⟩ | ⟨e, hfile, hload⟩
    · rw [hload, ih]
      constructor
      · exact .cons hfile
      · rintro (_ | ⟨first, rest⟩)
        cases hfile.symm.trans first
        exact rest
    · rw [hload]
      constructor
      · intro h
        cases h
      · rintro (_ | ⟨first, rest⟩)
        cases hfile.symm.trans first

/-- **A load of some files fails on one of them**, when those before it have been loaded. -/
theorem loadNames_error_iff {names : List String} {e : ConfigError} :
    r.loadNames files names = (.error e, r') ↔
      ∃ loaded name rest, names = loaded ++ name :: rest ∧ Loads files r loaded r' ∧
        r'.loadFile files (Path.child r.directory name) = (.error e, r') := by
  induction names generalizing r with
  | nil => simp [loadNames]
  | cons name names ih =>
    rcases r.loadNames_cons files name names with ⟨c, r₁, hfile, hload⟩ | ⟨e', hfile, hload⟩
    · -- the registry that the first file leaves reads from the same directory
      have hdirectory : r₁.directory = r.directory := (Loads.cons hfile (.nil r₁)).directory
      rw [hload, ih, hdirectory]
      constructor
      · rintro ⟨loaded, failing, rest, rfl, hloads, herror⟩
        exact ⟨name :: loaded, failing, rest, rfl, .cons hfile hloads, herror⟩
      · rintro ⟨loaded, failing, rest, hnames, hloads, herror⟩
        cases hloads with
        | nil =>
          cases hnames
          cases hfile.symm.trans herror
        | cons first tail =>
          cases hnames
          cases hfile.symm.trans first
          exact ⟨_, failing, rest, rfl, tail, herror⟩
    · rw [hload]
      constructor
      · intro h
        cases h
        exact ⟨[], name, names, rfl, .nil _, hfile⟩
      · rintro ⟨loaded, name', rest, hnames, hloads, herror⟩
        cases hloads with
        | nil =>
          cases hnames
          cases hfile.symm.trans herror
          rfl
        | cons first _ =>
          cases hnames
          cases hfile.symm.trans first

/-! ## A directory -/

theorem loadAll_directory {entries : List (String × FileTree)}
    (h : files.find? r.directory = some (.directory entries)) :
    r.loadAll files = r.loadNames files (documentNames (entries.map (·.1))) := by
  rw [loadAll, h]
  rfl

/-- How a load fails: the directory cannot be listed, or one of its files cannot be loaded after
those before it. -/
inductive FailsAfter (files : FileTree) (r : Registry) : List String → ConfigError → Registry → Prop
  | listing {content : ByteArray} (found : files.find? r.directory = some (.file content)) :
      FailsAfter files r [] (.unreadable (Path.text r.directory)) r
  | loading {entries : List (String × FileTree)} {loaded : List String} {name : String}
      {rest : List String} {e : ConfigError} {r' : Registry}
      (found : files.find? r.directory = some (.directory entries))
      (names : documentNames (entries.map (·.1)) = loaded ++ name :: rest)
      (loads : Loads files r loaded r')
      (failing : r'.loadFile files (Path.child r.directory name) = (.error e, r')) :
      FailsAfter files r loaded e r'

theorem loadAll_error {e : ConfigError} (h : r.loadAll files = (.error e, r')) :
    ∃ loaded, FailsAfter files r loaded e r' := by
  cases hfound : files.find? r.directory with
  | none => rw [loadAll, hfound] at h; cases h
  | some found =>
    cases found with
    | file content =>
      rw [loadAll, hfound] at h
      cases h
      exact ⟨[], .listing hfound⟩
    | directory entries =>
      rw [loadAll_directory hfound, loadNames_error_iff] at h
      obtain ⟨loaded, name, rest, hnames, hloads, herror⟩ := h
      exact ⟨loaded, .loading hfound hnames hloads herror⟩

theorem FailsAfter.loads {loaded : List String} {e : ConfigError}
    (h : FailsAfter files r loaded e r') : Loads files r loaded r' := by
  cases h with
  | listing => exact .nil r
  | loading _ _ hloads _ => exact hloads

/-- A load whose first file is registered already fails on it and changes nothing. -/
theorem loadAll_of_registered {entries : List (String × FileTree)} {first : String}
    {rest : List String} {d : ContractDocument} {c : Contract}
    (hfound : files.find? r.directory = some (.directory entries))
    (hnames : documentNames (entries.map (·.1)) = first :: rest)
    (hread : readDocument files (Path.child r.directory first) = .ok d)
    (hregistered : r.get? d.config.displayName = some c) :
    r.loadAll files = (.error (.duplicateContract d.config.displayName), r) := by
  rw [loadAll_directory hfound, hnames, loadNames, loadFile_eq hread,
    register_of_registered hregistered]

/-- What is left of a load that has failed after some files. -/
structure LeftBy (files : FileTree) (r : Registry) (loaded : List String) (e : ConfigError)
    (r' : Registry) : Prop where
  failure : FailsAfter files r loaded e r'
  directory : r'.directory = r.directory
  /-- No contract is lost or changed. -/
  kept : ∀ name c, r.get? name = some c → r'.get? name = some c
  /-- Each of the files has added a contract. -/
  size : r'.size = r.size + loaded.length
  unchanged : r' = r ↔ loaded = []
  /-- If any have, the load fails from now on, on the first of them, as long as that is still there
  and the same. -/
  retry : ∀ first rest, loaded = first :: rest → ∀ files' entries rest',
    files'.find? r.directory = some (.directory entries) →
    documentNames (entries.map (·.1)) = first :: rest' →
    readDocument files' (Path.child r.directory first) =
      readDocument files (Path.child r.directory first) →
    ∃ name, r'.loadAll files' = (.error (.duplicateContract name), r')

end Registry

/-- **A load that fails leaves the files before the failing one registered.** -/
theorem failed_load_stops [PatternCompiler] [JsonLibrary] {r r' : Registry} {files : FileTree}
    {e : ConfigError} (h : r.loadAll files = (.error e, r')) :
    ∃ loaded, Registry.LeftBy files r loaded e r' := by
  obtain ⟨loaded, hfailure⟩ := Registry.loadAll_error h
  have hloads := hfailure.loads
  refine ⟨loaded, hfailure, hloads.directory, fun name c hname => hloads.kept hname, hloads.size,
    hloads.unchanged_iff, ?_⟩
  rintro first rest rfl files' entries rest' hfound hnames hread
  obtain ⟨d, c, hdocument, hregistered⟩ := hloads.exists_registered
  rw [← hloads.directory] at hfound hread hdocument
  exact ⟨_, Registry.loadAll_of_registered hfound hnames (hread.trans hdocument) hregistered⟩

/-- Two files in a directory, in the order in which they are loaded. -/
theorem loadAll_two_files [PatternCompiler] [JsonLibrary] {r : Registry}
    (hr : r.directory = ["contracts"]) (first second : String) :
    let files : FileTree := .directory [("contracts", .directory
      [("a.json", .file first.toUTF8), ("b.json", .file second.toUTF8)])]
    r.loadAll files = r.loadNames files ["a.json", "b.json"] := by
  intro files
  have hfound : files.find? r.directory = some (.directory
      [("a.json", .file first.toUTF8), ("b.json", .file second.toUTF8)]) := by
    rw [hr]
    rfl
  have hnames : Registry.documentNames ["a.json", "b.json"] = ["a.json", "b.json"] :=
    List.mergeSort_of_pairwise (by decide)
  rw [Registry.loadAll_directory hfound]
  exact congrArg _ hnames

open scoped Pattern.Regex Json.Plain

/-- The second file is not a document. -/
theorem failed_load_stops_second_file :
    let files : FileTree := .directory [("contracts", .directory
      [("a.json", .file "\x7b\x7d".toUTF8), ("b.json", .file "\x7b".toUTF8)])]
    let r := Registry.ofDirectory ["contracts"]
    let r' := (r.loadAll files).2
    r.loadAll files = (.error (.malformed "contracts/b.json"), r') ∧
      ∃ loaded, Registry.LeftBy files r loaded (.malformed "contracts/b.json") r' := by
  intro files r r'
  have herror : r.loadAll files = (.error (.malformed "contracts/b.json"), r') := by
    refine Prod.ext ?_ rfl
    rw [loadAll_two_files rfl]
    rfl
  exact ⟨herror, failed_load_stops herror⟩

/-- A load that fails is not undone: the first file stays registered, and when the second one has
been put right the load fails on the first, though a new registry takes both. -/
theorem failed_load_not_undone :
    let files (second : String) : FileTree := .directory [("contracts", .directory
      [("a.json", .file "\x7b\x7d".toUTF8), ("b.json", .file second.toUTF8)])]
    let r := Registry.ofDirectory ["contracts"]
    let r' := (r.loadAll (files "\x7b")).2
    (r.loadAll (files "\x7b")).1 = .error (.malformed "contracts/b.json") ∧
      r.names = [] ∧ r'.names = ["a"] ∧
      (r'.loadAll (files "\x7b\x7d")).1 = .error (.duplicateContract "a") ∧
      (r.loadAll (files "\x7b\x7d")).1 = .ok () := by
  intro files r r'
  have hload : r' = (r.loadNames (files "\x7b") ["a.json", "b.json"]).2 := by
    rw [← loadAll_two_files rfl]
  have hdirectory : r'.directory = ["contracts"] := by rw [hload]; rfl
  have hkeys : r'.contracts.keys = ["a"] := by rw [hload]; rfl
  refine ⟨?_, ?_, ?_, ?_, ?_⟩
  · rw [loadAll_two_files rfl]; rfl
  · exact List.mergeSort_nil
  · rw [Registry.names, hkeys]
    exact List.mergeSort_singleton _
  · rw [loadAll_two_files hdirectory, hload]; rfl
  · rw [loadAll_two_files rfl]; rfl

end CallContract
