import CallContract.Pattern.Meaning
import CallContract.Proofs.Registration
import Mathlib.Data.List.Nodup

/-!
# The listing of a directory

**Theorem (`loadAll_listing`).** What a load makes of a directory depends on its entries, and not on
the order in which they are listed. The documents among them are loaded in ascending order, up to
the first error; and the load succeeds exactly if each of them declares a contract, under names that
are distinct and free. Then just these contracts are added.

A directory is a set of entries because their names are distinct: the path of an entry leads to it
whatever the order (`find?_child`), and in ascending order there is only one list of the names
(`documentNames_perm`). What one file adds is said without a registry (`Registry.Declared`), so the
condition for a whole list to load is one on its files that does not mention their order
(`Registry.exists_loads_iff`).
-/

namespace CallContract

/-! ## Entries -/

section Entries

variable {entries entries' : List (String × FileTree)} {name : String} {t : FileTree}

/-- An entry of a directory is found by its name. -/
theorem lookup_eq_some_iff_mem (hnames : (entries.map Prod.fst).Nodup) :
    entries.lookup name = some t ↔ (name, t) ∈ entries := by
  induction entries with
  | nil => simp
  | cons e rest ih =>
    rw [List.map_cons, List.nodup_cons] at hnames
    rw [Entries.lookup_cons, List.mem_cons]
    by_cases hname : name = e.1
    · rw [if_pos hname]
      constructor
      · rintro ⟨⟩
        exact .inl (Prod.ext hname rfl)
      · rintro (rfl | hmem)
        · rfl
        · exact (hnames.1 (List.mem_map.2 ⟨_, hmem, hname⟩)).elim
    · rw [if_neg hname, ih hnames.2]
      constructor
      · exact .inr
      · rintro (rfl | hmem)
        · exact (hname rfl).elim
        · exact hmem

theorem lookup_perm (hperm : entries'.Perm entries) (hnames : (entries.map Prod.fst).Nodup) :
    entries'.lookup name = entries.lookup name := by
  have hnames' : (entries'.map Prod.fst).Nodup := (hperm.map Prod.fst).nodup_iff.2 hnames
  apply Option.ext
  intro t
  rw [lookup_eq_some_iff_mem hnames, lookup_eq_some_iff_mem hnames', hperm.mem_iff]

end Entries

/-! ## Paths -/

namespace FileTree

variable {above : List FileTree} {t found : FileTree} {path : Path}
  {entries : List (String × FileTree)} {name : String}

/-- The first step of a walk leads to one place, wherever the walk goes from there. -/
theorem walk_cons {first : String} (h : walk above t (first :: path) = some found) :
    ∃ above' t', ∀ rest, walk above t (first :: rest) = walk above' t' rest := by
  cases t with
  | file content => simp [walk] at h
  | directory children =>
    by_cases hstay : first = "" ∨ first = "."
    · exact ⟨above, directory children, fun rest => by simp [walk, hstay]⟩
    · by_cases hup : first = ".."
      · cases above with
        | nil => exact ⟨[], directory children, fun rest => by simp [walk, hup]⟩
        | cons parent above => exact ⟨above, parent, fun rest => by simp [walk, hup]⟩
      · cases hchild : children.lookup first with
        | none => simp [walk, hstay, hup, hchild] at h
        | some child =>
          exact ⟨directory children :: above, child,
            fun rest => by simp [walk, hstay, hup, hchild]⟩

/-- A step by a name that has no meaning of its own leads to the entry of that name. -/
theorem walk_append_singleton (h : walk above t path = some (directory entries))
    (hblank : name ≠ "") (hpoint : name ≠ ".") (hpoints : name ≠ "..") :
    walk above t (path ++ [name]) = entries.lookup name := by
  induction path generalizing above t with
  | nil =>
    cases h
    cases hname : entries.lookup name with
    | none => simp [walk, hblank, hpoint, hpoints, hname]
    | some child => simp [walk, hblank, hpoint, hpoints, hname]
  | cons first path ih =>
    obtain ⟨above', t', hwalk⟩ := walk_cons h
    rw [List.cons_append, hwalk]
    exact ih (by rw [← hwalk, h])

/-- A slash at the end of a path may be left out. -/
theorem walk_of_walk_append_blank (h : walk above t (path ++ [""]) = some found) :
    walk above t path = some found := by
  induction path generalizing above t with
  | nil =>
    cases t with
    | file content => simp [walk] at h
    | directory children => simpa [walk] using h
  | cons first path ih =>
    rw [List.cons_append] at h
    obtain ⟨above', t', hwalk⟩ := walk_cons h
    rw [hwalk]
    exact ih (by rw [← hwalk, h])

theorem find?_append_singleton {files : FileTree}
    (h : files.walk [] path = some (directory entries)) (hblank : name ≠ "")
    (hpoint : name ≠ ".") (hpoints : name ≠ "..") :
    files.find? (path ++ [name]) = entries.lookup name := by
  have hpath : Path.isBlank (path ++ [name]) = false := by
    cases path <;> simp [Path.isBlank, hblank]
  rw [find?, hpath]
  exact walk_append_singleton h hblank hpoint hpoints

theorem walk_of_find? {files : FileTree} (h : files.find? path = some found) :
    files.walk [] path = some found := by
  rw [find?] at h
  split at h
  case isTrue => cases h
  case isFalse => exact h

/-- **The path of a JSON file leads to the entry of its name.** -/
theorem find?_child {files : FileTree} {dir : Path}
    (hfound : files.find? dir = some (directory entries))
    (hjson : Path.extension? name = some "json") :
    files.find? (Path.child dir name) = entries.lookup name := by
  have hblank : name ≠ "" := by rintro rfl; cases hjson
  have hpoint : name ≠ "." := by rintro rfl; cases hjson
  have hpoints : name ≠ ".." := by rintro rfl; cases hjson
  rw [Path.child]
  split
  case isTrue hlast =>
    obtain ⟨front, rfl⟩ := List.getLast?_eq_some_iff.1 hlast
    rw [List.dropLast_concat]
    have hwalk := walk_of_walk_append_blank (walk_of_find? hfound)
    exact find?_append_singleton hwalk hblank hpoint hpoints
  case isFalse => exact find?_append_singleton (walk_of_find? hfound) hblank hpoint hpoints

end FileTree

namespace Registry

/-! ## The order of the files -/

theorem mem_documentNames {names : List String} {name : String} :
    name ∈ documentNames names ↔ name ∈ names ∧ Path.extension? name = some "json" := by
  rw [documentNames, mem_sortNames, List.mem_filter, beq_iff_eq]

/-- The documents come in the same order however they are listed. -/
theorem documentNames_perm {names names' : List String} (hperm : names'.Perm names) :
    documentNames names' = documentNames names := sortNames_perm (hperm.filter _)

theorem ascending_documentNames {names : List String} (hnames : names.Nodup) :
    (documentNames names).Pairwise (· < ·) := ascending_sortNames (hnames.filter _)

theorem nodup_documentNames {names : List String} (hnames : names.Nodup) :
    (documentNames names).Nodup := nodup_sortNames (hnames.filter _)

/-- The entries of a directory that are read as documents. -/
def documents (entries : List (String × FileTree)) : List (String × FileTree) :=
  entries.filter fun entry => Path.extension? entry.1 == some "json"

theorem mem_documents {entries : List (String × FileTree)} {entry : String × FileTree} :
    entry ∈ documents entries ↔ entry ∈ entries ∧ Path.extension? entry.1 = some "json" := by
  rw [documents, List.mem_filter, beq_iff_eq]

theorem mem_documentNames_iff {entries : List (String × FileTree)} {name : String} :
    name ∈ documentNames (entries.map Prod.fst) ↔ ∃ entry ∈ documents entries, entry.1 = name := by
  rw [mem_documentNames, List.mem_map]
  constructor
  · rintro ⟨⟨entry, hentry, rfl⟩, hjson⟩
    exact ⟨entry, mem_documents.2 ⟨hentry, hjson⟩, rfl⟩
  · rintro ⟨entry, hentry, rfl⟩
    obtain ⟨hmem, hjson⟩ := mem_documents.1 hentry
    exact ⟨⟨entry, hmem, rfl⟩, hjson⟩

/-! ## Reading a file -/

theorem readDocument_ok_iff [JsonLibrary] {files : FileTree} {path : Path} {d : ContractDocument} :
    readDocument files path = .ok d ↔
      ∃ text d', (files.find? path).bind FileTree.text? = some text ∧
        ContractDocument.read? text = some d' ∧ named d' (Path.stem? path) = d := by
  rw [readDocument]
  cases htext : (files.find? path).bind FileTree.text? with
  | none => simp
  | some text =>
    cases hdocument : ContractDocument.read? text with
    | none => simp [hdocument]
    | some d' => simp [hdocument]

/-- A document without a name goes by that of its file, and compiles under it. -/
theorem named_some [PatternCompiler] (d : ContractDocument) (stem : String) :
    (named d (some stem)).config.displayName = d.config.name.getD stem ∧
      (named d (some stem)).compile =
        Contract.ofRaw (.ofJson d.params) (d.returns.map .ofJson)
          { d.config with name := some (d.config.name.getD stem) } := by
  cases hname : d.config.name <;> simp [named, Config.displayName, ContractDocument.compile, hname]

variable [PatternCompiler] [JsonLibrary]

/-! ## What a file declares -/

/-- The file at a path declares a contract under a name: it can be read as a document of that name,
which compiles. -/
def Declared (files : FileTree) (path : Path) (name : String) (c : Contract) : Prop :=
  ∃ d, readDocument files path = .ok d ∧ d.compile = .ok c ∧ d.config.displayName = name

variable {files files' : FileTree} {r r' : Registry}

theorem Declared.unique {path : Path} {name name' : String} {c c' : Contract}
    (h : Declared files path name c) (h' : Declared files path name' c') :
    name' = name ∧ c' = c := by
  obtain ⟨d, hread, hcompile, rfl⟩ := h
  obtain ⟨d', hread', hcompile', rfl⟩ := h'
  rw [hread] at hread'
  cases hread'
  rw [hcompile] at hcompile'
  cases hcompile'
  exact ⟨rfl, rfl⟩

/-- A file is loaded if the name that it declares is free. -/
theorem loadFile_of_declared {path : Path} {name : String} {c : Contract}
    (h : Declared files path name c) (hfree : r.get? name = none) :
    ∃ r', r.loadFile files path = (.ok c, r') := by
  obtain ⟨d, hread, hcompile, rfl⟩ := h
  exact ⟨_, loadFile_ok_iff.2 ⟨d, hread, register_ok_iff.2 ⟨hfree, hcompile, rfl⟩⟩⟩

/-- A file that has been loaded declares a contract, which is there from then on. -/
theorem declared_of_loadFile {path : Path} {c : Contract}
    (h : r.loadFile files path = (.ok c, r')) :
    ∃ name, Declared files path name c ∧ r.get? name = none ∧ r'.directory = r.directory ∧
      ∀ name', r'.get? name' = if name' = name then some c else r.get? name' := by
  obtain ⟨d, hread, hregister⟩ := loadFile_ok_iff.1 h
  obtain ⟨hfree, hcompile, rfl⟩ := register_ok_iff.1 hregister
  exact ⟨_, ⟨d, hread, hcompile, rfl⟩, hfree, rfl, get?_adding hfree c⟩

/-! ## Loading a list of files -/

section Files

variable {dir : Path} {names : List String}

/-- What is registered when some files have been loaded: what was there, and what they declare. -/
theorem Loads.get?_iff (h : Loads files r names r') (hdir : r.directory = dir) {name : String}
    {c : Contract} :
    r'.get? name = some c ↔
      r.get? name = some c ∨ ∃ file ∈ names, Declared files (Path.child dir file) name c := by
  induction h with
  | nil => simp
  | @cons r r₁ r₂ file names c₁ first _ ih =>
    obtain ⟨name₁, hdeclared, hfree, hdir₁, hget⟩ := declared_of_loadFile first
    rw [hdir] at hdeclared hdir₁
    simp only [List.mem_cons, exists_eq_or_imp]
    rw [ih hdir₁, hget, ← or_assoc]
    refine or_congr_left ?_
    by_cases hname : name = name₁
    · subst hname
      rw [if_pos rfl, hfree]
      constructor
      · rintro ⟨⟩
        exact .inr hdeclared
      · rintro (⟨⟨⟩⟩ | h)
        rw [(hdeclared.unique h).2]
    · rw [if_neg hname]
      constructor
      · exact .inl
      · rintro (h | h)
        · exact h
        · exact (hname (hdeclared.unique h).1).elim

/-- Each of some files declares a contract, under names that are distinct and free. -/
structure AllLoadable (files : FileTree) (r : Registry) (names : List String) : Prop where
  declares : ∀ file ∈ names, ∃ name c, Declared files (Path.child r.directory file) name c
  distinct : ∀ a ∈ names, ∀ b ∈ names, ∀ name ca cb,
    Declared files (Path.child r.directory a) name ca →
    Declared files (Path.child r.directory b) name cb → a = b
  free : ∀ file ∈ names, ∀ name c, Declared files (Path.child r.directory file) name c →
    r.get? name = none

/-- When a file has been loaded, its name is taken for those after it. -/
theorem allLoadable_cons {file : String} {c : Contract} (hfile : file ∉ names)
    (first : r.loadFile files (Path.child r.directory file) = (.ok c, r')) :
    AllLoadable files r (file :: names) ↔ AllLoadable files r' names := by
  obtain ⟨name₁, hdeclared, hfree₁, hdir', hget⟩ := declared_of_loadFile first
  constructor
  · rintro ⟨hall, hdistinct, hfree⟩
    rw [← hdir'] at hdeclared hall hdistinct hfree
    refine ⟨(List.forall_mem_cons.1 hall).2, fun a ha b hb => ?_, fun file' hfile' name c' h => ?_⟩
    · exact hdistinct a (List.mem_cons_of_mem _ ha) b (List.mem_cons_of_mem _ hb)
    · have hname : name ≠ name₁ := by
        rintro rfl
        have hsame := hdistinct file List.mem_cons_self file' (List.mem_cons_of_mem _ hfile') name c
          c' hdeclared h
        exact hfile (hsame ▸ hfile')
      rw [hget, if_neg hname]
      exact hfree file' (List.mem_cons_of_mem _ hfile') name c' h
  · rintro ⟨hall, hdistinct, hfree⟩
    rw [hdir'] at hall hdistinct hfree
    -- a name that is free after the file is another than the one that the file has taken
    have hother : ∀ file' ∈ names, ∀ name c',
        Declared files (Path.child r.directory file') name c' →
        name ≠ name₁ ∧ r.get? name = none := by
      intro file' hfile' name c' h
      have hfree' := hfree file' hfile' name c' h
      rw [hget] at hfree'
      by_cases hname : name = name₁
      · rw [if_pos hname] at hfree'
        cases hfree'
      · rw [if_neg hname] at hfree'
        exact ⟨hname, hfree'⟩
    refine ⟨List.forall_mem_cons.2 ⟨⟨_, _, hdeclared⟩, hall⟩, ?_, ?_⟩
    · intro a ha b hb name ca cb hca hcb
      rcases List.mem_cons.1 ha with rfl | hna
      · rcases List.mem_cons.1 hb with rfl | hnb
        · rfl
        · exact ((hother b hnb name cb hcb).1 (hdeclared.unique hca).1).elim
      · rcases List.mem_cons.1 hb with rfl | hnb
        · exact ((hother a hna name ca hca).1 (hdeclared.unique hcb).1).elim
        · exact hdistinct a hna b hnb name ca cb hca hcb
    · intro file' hfile' name c' h
      rcases List.mem_cons.1 hfile' with rfl | hfile'
      · rw [(hdeclared.unique h).1]
        exact hfree₁
      · exact (hother file' hfile' name c' h).2

/-- **Some files can be loaded exactly if each declares a contract**, under names that are distinct
and free. -/
theorem exists_loads_iff (hnodup : names.Nodup) :
    (∃ r', Loads files r names r') ↔ AllLoadable files r names := by
  induction names generalizing r with
  | nil =>
    refine iff_of_true ⟨r, .nil r⟩ ⟨?_, ?_, ?_⟩ <;> simp
  | cons file names ih =>
    obtain ⟨hfile, hnodup⟩ := List.nodup_cons.1 hnodup
    constructor
    · rintro ⟨r', _ | ⟨first, rest⟩⟩
      exact (allLoadable_cons hfile first).2 ((ih hnodup).1 ⟨_, rest⟩)
    · intro h
      obtain ⟨name, c, hdeclared⟩ := h.declares file List.mem_cons_self
      have hfree := h.free file List.mem_cons_self name c hdeclared
      obtain ⟨r₁, first⟩ := loadFile_of_declared hdeclared hfree
      obtain ⟨r', rest⟩ := (ih hnodup).2 ((allLoadable_cons hfile first).1 h)
      exact ⟨r', .cons first rest⟩

/-- Only what is read from the files counts. -/
theorem loadNames_congr (h : ∀ file ∈ names,
      readDocument files' (Path.child dir file) = readDocument files (Path.child dir file))
    (hdir : r.directory = dir) : r.loadNames files' names = r.loadNames files names := by
  induction names generalizing r with
  | nil => rfl
  | cons file names ih =>
    obtain ⟨hfile, hnames⟩ := List.forall_mem_cons.1 h
    have hload : r.loadFile files' (Path.child r.directory file) =
        r.loadFile files (Path.child r.directory file) := by
      rw [hdir, loadFile, loadFile, hfile]
    rw [loadNames, loadNames, hload]
    cases hfirst : r.loadFile files (Path.child r.directory file) with
    | mk result r₁ =>
      cases result with
      | error e => rfl
      | ok c =>
        have hdirectory : r₁.directory = r.directory := (Loads.cons hfirst (.nil r₁)).directory
        exact ih hnames (hdirectory.trans hdir)

/-- Files are loaded one after another, up to the first error. -/
def LoadsUpToError (files : FileTree) (r : Registry) (names : List String) :
    Except ConfigError Unit × Registry → Prop
  | (.ok (), r') => Loads files r names r'
  | (.error e, r') => ∃ loaded file rest, names = loaded ++ file :: rest ∧ Loads files r loaded r' ∧
      r'.loadFile files (Path.child r.directory file) = (.error e, r')

theorem loadNames_loadsUpToError (r : Registry) (files : FileTree) (names : List String) :
    LoadsUpToError files r names (r.loadNames files names) := by
  cases h : r.loadNames files names with
  | mk result r' =>
    cases result with
    | ok _ => exact loadNames_ok_iff.1 h
    | error e => exact loadNames_error_iff.1 h

end Files

/-! ## Loading a directory -/

/-- An entry of a directory declares a contract under a name: its text is a document, the name is
that of the document, or else the stem of the file's name, and the document compiles under it. -/
def Declares (entry : String × FileTree) (name : String) (c : Contract) : Prop :=
  ∃ text d, entry.2.text? = some text ∧ ContractDocument.read? text = some d ∧
    name = d.config.name.getD (Path.splitName entry.1).1 ∧
    Contract.ofRaw (.ofJson d.params) (d.returns.map .ofJson) { d.config with name := some name } =
      .ok c

/-- Each document among the entries declares a contract, under names that are distinct and free. -/
structure Loadable (r : Registry) (entries : List (String × FileTree)) : Prop where
  declares : ∀ entry ∈ documents entries, ∃ name c, Declares entry name c
  distinct : ∀ a ∈ documents entries, ∀ b ∈ documents entries, ∀ name ca cb,
    Declares a name ca → Declares b name cb → a = b
  free : ∀ entry ∈ documents entries, ∀ name c, Declares entry name c → name ∉ r.names

/-- What a load makes of the entries of the directory. -/
structure LoadsEntries (files : FileTree) (r : Registry) (entries : List (String × FileTree))
    (result : Except ConfigError Unit × Registry) : Prop where
  /-- The documents are loaded in ascending order, up to the first error. -/
  ascending : ∃ names, names.Pairwise (· < ·) ∧
    (∀ name, name ∈ names ↔ ∃ entry ∈ documents entries, entry.1 = name) ∧
    LoadsUpToError files r names result
  succeeds_iff : result.1 = .ok () ↔ r.Loadable entries
  /-- If it succeeds, the contracts of the documents have been added, and nothing else. -/
  added : result.1 = .ok () → ∀ name c, result.2.get? name = some c ↔
    r.get? name = some c ∨ ∃ entry ∈ documents entries, Declares entry name c

theorem declared_iff {dir : Path} {file name : String} {t : FileTree} {c : Contract}
    (hfind : files.find? (Path.child dir file) = some t) :
    Declared files (Path.child dir file) name c ↔ Declares (file, t) name c := by
  have hstem : Path.stem? (Path.child dir file) = some (Path.splitName file).1 := by
    rw [Path.stem?, Path.child, List.getLast?_concat]
    rfl
  simp only [Declared, readDocument_ok_iff, hfind, hstem, Option.bind_some]
  constructor
  · rintro ⟨_, ⟨text, d, htext, hd, rfl⟩, hcompile, rfl⟩
    obtain ⟨hname, hcompiled⟩ := named_some d (Path.splitName file).1
    rw [hcompiled] at hcompile
    rw [hname]
    exact ⟨text, d, htext, hd, rfl, hcompile⟩
  · rintro ⟨text, d, htext, hd, rfl, hcompile⟩
    obtain ⟨hname, hcompiled⟩ := named_some d (Path.splitName file).1
    exact ⟨_, ⟨text, d, htext, hd, rfl⟩, hcompiled.trans hcompile, hname⟩

section Directory

variable {entries : List (String × FileTree)}

/-- A document of the directory declares what its file declares. -/
theorem declared_iff_of_mem (hfound : files.find? r.directory = some (.directory entries))
    (hnames : (entries.map Prod.fst).Nodup) {entry : String × FileTree}
    (hentry : entry ∈ documents entries) {name : String} {c : Contract} :
    Declared files (Path.child r.directory entry.1) name c ↔ Declares entry name c := by
  obtain ⟨hmem, hjson⟩ := mem_documents.1 hentry
  refine declared_iff ?_
  rw [FileTree.find?_child hfound hjson]
  exact (lookup_eq_some_iff_mem hnames).2 hmem

theorem exists_loads_iff_loadable (hfound : files.find? r.directory = some (.directory entries))
    (hnames : (entries.map Prod.fst).Nodup) :
    (∃ r', Loads files r (documentNames (entries.map Prod.fst)) r') ↔ r.Loadable entries := by
  have hdeclared {entry : String × FileTree} (hentry : entry ∈ documents entries) {name : String}
      {c : Contract} :
      Declared files (Path.child r.directory entry.1) name c ↔ Declares entry name c :=
    declared_iff_of_mem hfound hnames hentry
  have hmem {entry : String × FileTree} (hentry : entry ∈ documents entries) :=
    mem_documentNames_iff.2 ⟨entry, hentry, rfl⟩
  rw [exists_loads_iff (nodup_documentNames hnames)]
  constructor
  · rintro ⟨hall, hdistinct, hfree⟩
    refine ⟨fun entry hentry => ?_, fun a ha b hb name ca cb hca hcb => ?_,
      fun entry hentry name c hc => ?_⟩
    · obtain ⟨name, c, hc⟩ := hall entry.1 (hmem hentry)
      exact ⟨name, c, (hdeclared hentry).1 hc⟩
    · have hname := hdistinct a.1 (hmem ha) b.1 (hmem hb) name ca cb ((hdeclared ha).2 hca)
        ((hdeclared hb).2 hcb)
      exact List.inj_on_of_nodup_map hnames (mem_documents.1 ha).1 (mem_documents.1 hb).1 hname
    · exact not_mem_names.2 (hfree entry.1 (hmem hentry) name c ((hdeclared hentry).2 hc))
  · rintro ⟨hall, hdistinct, hfree⟩
    refine ⟨fun file hfile => ?_, fun a ha b hb name ca cb hca hcb => ?_,
      fun file hfile name c hc => ?_⟩
    · obtain ⟨entry, hentry, rfl⟩ := mem_documentNames_iff.1 hfile
      obtain ⟨name, c, hc⟩ := hall entry hentry
      exact ⟨name, c, (hdeclared hentry).2 hc⟩
    · obtain ⟨a, ha', rfl⟩ := mem_documentNames_iff.1 ha
      obtain ⟨b, hb', rfl⟩ := mem_documentNames_iff.1 hb
      rw [hdistinct a ha' b hb' name ca cb ((hdeclared ha').1 hca) ((hdeclared hb').1 hcb)]
    · obtain ⟨entry, hentry, rfl⟩ := mem_documentNames_iff.1 hfile
      exact not_mem_names.1 (hfree entry hentry name c ((hdeclared hentry).1 hc))

theorem loadAll_loadsEntries (hfound : files.find? r.directory = some (.directory entries))
    (hnames : (entries.map Prod.fst).Nodup) : LoadsEntries files r entries (r.loadAll files) := by
  have hload := loadAll_directory hfound
  have hupTo := r.loadNames_loadsUpToError files (documentNames (entries.map Prod.fst))
  rw [← hload] at hupTo
  have hok (r' : Registry) : r.loadAll files = (.ok (), r') ↔
      Loads files r (documentNames (entries.map Prod.fst)) r' := by
    rw [hload, loadNames_ok_iff]
  refine
    { ascending := ⟨_, ascending_documentNames hnames, fun _ => mem_documentNames_iff, hupTo⟩
      succeeds_iff := ?_
      added := ?_ }
  · rw [← exists_loads_iff_loadable hfound hnames]
    constructor
    · intro h
      exact ⟨_, (hok _).1 (Prod.ext h rfl)⟩
    · rintro ⟨r', hloads⟩
      rw [(hok r').2 hloads]
  · intro h name c
    have hloads := (hok _).1 (Prod.ext h rfl)
    rw [hloads.get?_iff rfl]
    refine or_congr_right ?_
    constructor
    · rintro ⟨file, hfile, hc⟩
      obtain ⟨entry, hentry, rfl⟩ := mem_documentNames_iff.1 hfile
      exact ⟨entry, hentry, (declared_iff_of_mem hfound hnames hentry).1 hc⟩
    · rintro ⟨entry, hentry, hc⟩
      exact ⟨entry.1, mem_documentNames_iff.2 ⟨entry, hentry, rfl⟩,
        (declared_iff_of_mem hfound hnames hentry).2 hc⟩

end Directory

end Registry

/-- **A load depends on the entries of its directory and not on their order**: it loads the
documents among them in ascending order, and succeeds exactly if all of them can be loaded. -/
theorem loadAll_listing [PatternCompiler] [JsonLibrary] {r : Registry} {files files' : FileTree}
    {entries entries' : List (String × FileTree)}
    (hfound : files.find? r.directory = some (.directory entries))
    (hfound' : files'.find? r.directory = some (.directory entries'))
    (hperm : entries'.Perm entries) (hnames : (entries.map Prod.fst).Nodup) :
    r.loadAll files' = r.loadAll files ∧
      Registry.LoadsEntries files r entries (r.loadAll files) := by
  refine ⟨?_, Registry.loadAll_loadsEntries hfound hnames⟩
  rw [Registry.loadAll_directory hfound, Registry.loadAll_directory hfound',
    Registry.documentNames_perm (hperm.map Prod.fst)]
  refine Registry.loadNames_congr (fun file hfile => ?_) rfl
  have hjson := (Registry.mem_documentNames.1 hfile).2
  rw [Registry.readDocument, Registry.readDocument, FileTree.find?_child hfound hjson,
    FileTree.find?_child hfound' hjson, lookup_perm hperm hnames]

open scoped Pattern.Regex Json.Plain

/-- Two listings of a directory whose second document is malformed: from both, only the first one is
registered. -/
theorem loadAll_listing_second_malformed :
    let entries : List (String × FileTree) :=
      [("a.json", .file "\x7b\x7d".toUTF8), ("b.json", .file "\x7b".toUTF8), ("old", .directory [])]
    let entries' : List (String × FileTree) :=
      [("old", .directory []), ("b.json", .file "\x7b".toUTF8), ("a.json", .file "\x7b\x7d".toUTF8)]
    let files : FileTree := .directory [("contracts", .directory entries)]
    let files' : FileTree := .directory [("contracts", .directory entries')]
    let r := Registry.ofDirectory ["contracts"]
    (entries'.Perm entries ∧ (entries.map Prod.fst).Nodup) ∧
      (r.loadAll files' = r.loadAll files ∧
        Registry.LoadsEntries files r entries (r.loadAll files)) ∧
      (r.loadAll files').1 = .error (.malformed "contracts/b.json") ∧
      (r.loadAll files').2.names = ["a"] := by
  intro entries entries' files files' r
  have hperm : entries'.Perm entries := List.reverse_perm entries
  have hnames : (entries.map Prod.fst).Nodup := by
    show ["a.json", "b.json", "old"].Nodup
    decide
  have hfound : files.find? r.directory = some (.directory entries) := rfl
  have hfound' : files'.find? r.directory = some (.directory entries') := rfl
  obtain ⟨hsame, hloads⟩ := loadAll_listing hfound hfound' hperm hnames
  have horder : r.loadAll files = r.loadNames files ["a.json", "b.json"] := by
    have hdocuments : Registry.documentNames ["a.json", "b.json", "old"] = ["a.json", "b.json"] :=
      List.mergeSort_of_pairwise (by decide)
    rw [Registry.loadAll_directory hfound]
    exact congrArg _ hdocuments
  refine ⟨⟨hperm, hnames⟩, ⟨hsame, hloads⟩, ?_, ?_⟩
  · rw [hsame, horder]
    rfl
  · have hkeys : (r.loadAll files).2.contracts.keys = ["a"] := by
      rw [horder]
      rfl
    rw [hsame, Registry.names, hkeys]
    exact List.mergeSort_singleton _

end CallContract
