import Mathlib.Data.List.Induction
import Winnow.Proofs.CommandLine.Loading
import Winnow.Proofs.Files.Names
import Winnow.Proofs.Registry.Registered
import Winnow.Proofs.Source.Replaced

/-!
# `Winnow.Proofs.CommandLine.Tables` — which tables are registered

Entries are loaded in order, and of each entry the files that its path means, in their order. Every
file is registered under the dashboard of its entry and the name of the entry or, without one, that
of the table. So the files of all entries form one list, each of them takes the next number, and
under every key the last file counts.

## Contents
- **`Job.Yields`**: jobs whose result is known.
- **`Opens`**: how a table file opens, by its extension.
- **`entryFiles`**, **`Produces`**, **`Serves`**: the files of entries, the keys that they produce,
  and the last file of each.
- **`lookup?_loadedFrom_iff`**: what a registry has after files.
- **`register_serves`**: which tables are registered.
-/

namespace Winnow

/-! ## Jobs whose result is known -/

namespace Job

variable {α β : Type} {files : Files}

/-- On some files, whatever else a session holds, a job gives a result and leaves the files as they
    are. -/
def Yields (job : Job α) (files : Files) (x : α) : Prop :=
  ∀ session, session.files = files →
    (job.runOn session).1 = .ok x ∧ (job.runOn session).2.files = files

theorem yields_pure (x : α) : (pure x : Job α).Yields files x := fun _ h => ⟨rfl, h⟩

theorem yields_get_bind {next : Session → Job α} {x : α}
    (h : ∀ session, session.files = files → (next session).Yields files x) :
    (get >>= next : Job α).Yields files x := by
  intro session hfiles
  rw [runOn_get_bind]
  exact h session hfiles session hfiles

theorem Yields.bind {job : Job α} {next : α → Job β} {x : α} {y : β} (h : job.Yields files x)
    (hnext : (next x).Yields files y) : (job >>= next).Yields files y := by
  intro session hfiles
  obtain ⟨hresult, hafter⟩ := h session hfiles
  rw [runOn_bind_of_ok (Prod.ext hresult rfl)]
  exact hnext _ hafter

/-- **Jobs over a list** come to what their results add up to. -/
theorem yields_foldlM {step : β → α → Job β} {add : β → α → β} {xs : List α}
    (h : ∀ held, ∀ x ∈ xs, (step held x).Yields files (add held x)) :
    ∀ held, (xs.foldlM step held).Yields files (xs.foldl add held) := by
  induction xs with
  | nil => exact yields_pure
  | cons x rest ih =>
    intro held
    rw [List.foldlM_cons]
    refine (h held x List.mem_cons_self).bind (ih (fun held y hy => ?_) (add held x))
    exact h held y (List.mem_cons_of_mem x hy)

end Job

/-! ## How a table file opens -/

/-- **How a table file opens**: by the extension behind its stem, as a document, which gives its own
    name, or as a columnar file, which is named by its stem. -/
inductive Opens (files : Files) (path : String) : String → Schema → Supply → Prop
  | document {stem : String} {table : TableDocument}
      (file : Path.fileName? path = some (stem ++ "." ++ "json")) (stem_ne : stem ≠ "")
      (read : readDocument files path = .ok table) :
      Opens files path table.name table.schema (.documentFile path table.name)
  | columns {stem : String} {columns : Columnar.ColumnFile}
      (file : Path.fileName? path = some (stem ++ "." ++ "parquet")) (stem_ne : stem ≠ "")
      (read : readColumns files path = .ok columns) :
      Opens files path stem columns.schema (.columnFile path)

theorem openTable_eq_ok_iff {id : Nat} {files : Files} {path : String} {table : LoadedTable} :
    openTable id files path = .ok table ↔ ∃ own schema supply,
      Opens files path own schema supply ∧ table = ⟨own, path, ⟨id, schema, supply⟩⟩ := by
  have hjson : '.' ∉ "json".toList := by decide
  have hparquet : '.' ∉ "parquet".toList := by decide
  constructor
  · intro h
    unfold openTable at h
    split at h
    case h_1 hextension =>
      obtain ⟨stem, hstem, -, hfile⟩ := Path.extension?_eq_some_iff.mp hextension
      obtain ⟨held, hread, rfl⟩ := bind_pure_eq_ok_iff.mp h
      exact ⟨_, _, _, .document hfile hstem hread, rfl⟩
    case h_2 hextension =>
      obtain ⟨stem, hstem, hdot, hfile⟩ := Path.extension?_eq_some_iff.mp hextension
      obtain ⟨source, hopen, rfl⟩ := bind_pure_eq_ok_iff.mp h
      obtain ⟨held, hread, rfl⟩ := Source.openColumns_eq_ok_iff.mp hopen
      rw [Path.stem?_of_fileName? hstem hdot hfile]
      exact ⟨_, _, _, .columns hfile hstem hread, rfl⟩
    case h_3 => exact nomatch h
  · rintro ⟨own, schema, supply, hopens, rfl⟩
    unfold openTable
    cases hopens with
    | document hfile hstem hread =>
      rw [Path.extension?_eq_some_iff.mpr ⟨_, hstem, hjson, hfile⟩, hread]
      rfl
    | columns hfile hstem hread =>
      rw [Path.extension?_eq_some_iff.mpr ⟨_, hstem, hparquet, hfile⟩,
        Path.stem?_of_fileName? hstem hparquet hfile,
        Source.openColumns_eq_ok_iff.mpr ⟨_, hread, rfl⟩]
      rfl

theorem Opens.openTable_eq {files : Files} {path own : String} {schema : Schema} {supply : Supply}
    (h : Opens files path own schema supply) (id : Nat) :
    openTable id files path = .ok ⟨own, path, ⟨id, schema, supply⟩⟩ :=
  openTable_eq_ok_iff.mpr ⟨own, schema, supply, h, rfl⟩

/-- A file opens in one way only. -/
theorem Opens.unique {files : Files} {path own other : String} {schema schema' : Schema}
    {supply supply' : Supply} (h : Opens files path own schema supply)
    (h' : Opens files path other schema' supply') :
    own = other ∧ schema = schema' ∧ supply = supply' := by
  have hsame := Except.ok.inj ((h.openTable_eq 0).symm.trans (h'.openTable_eq 0))
  obtain ⟨hown, -, hsource⟩ := LoadedTable.mk.inj hsame
  obtain ⟨-, hschema, hsupply⟩ := Source.mk.inj hsource
  exact ⟨hown, hschema, hsupply⟩

namespace CommandLine

open Winnow.Job

/-! ## The files of entries -/

/-- The key under which an entry registers a table that has a name of its own. -/
def keyFor (entry : TableEntry) (own : String) : TableKey :=
  ⟨entry.dashboard, entry.name.getD own⟩

/-- The files that the path of an entry means. -/
def filesOf (files : Files) (entry : TableEntry) : List String :=
  (Discovery.resolve files entry.path).toOption.getD []

/-- The files of entries, each with its entry, in the order of the entries and for each of them in
    that of its files. -/
def entryFiles (files : Files) (entries : List TableEntry) : List (TableEntry × String) :=
  entries.flatMap fun entry => (filesOf files entry).map fun path => (entry, path)

/-- A file of an entry produces a key: the key is that of the table as which the file opens. -/
def Produces (files : Files) (load : TableEntry × String) (key : TableKey) : Prop :=
  ∃ own schema supply, Opens files load.2 own schema supply ∧ keyFor load.1 own = key

/-- **The source that serves a key**: that of the last file that produces it, under the number of
    files before that one. -/
inductive Serves (files : Files) (loads : List (TableEntry × String)) (key : TableKey) :
    Source → Prop
  | last {before after : List (TableEntry × String)} {load : TableEntry × String} {own : String}
      {schema : Schema} {supply : Supply} (split : loads = before ++ load :: after)
      (opens : Opens files load.2 own schema supply) (produced : keyFor load.1 own = key)
      (later : ∀ other ∈ after, ¬ Produces files other key) :
      Serves files loads key ⟨before.length, schema, supply⟩

theorem filesOf_of_resolve {files : Files} {entry : TableEntry} {paths : List String}
    (h : Discovery.resolve files entry.path = .ok paths) : filesOf files entry = paths := by
  unfold filesOf
  rw [h]
  rfl

theorem fileLoads_iff {files : Files} {entry : TableEntry} {path : String} :
    FileLoads files entry path ↔ ∃ own schema supply,
      Opens files path own schema supply ∧ entry.name.getD own ≠ "" := by
  unfold FileLoads
  constructor
  · rintro ⟨table, hopen, hname⟩
    obtain ⟨own, schema, supply, hopens, rfl⟩ := openTable_eq_ok_iff.mp hopen
    exact ⟨own, schema, supply, hopens, hname⟩
  · rintro ⟨own, schema, supply, hopens, hname⟩
    exact ⟨_, openTable_eq_ok_iff.mpr ⟨own, schema, supply, hopens, rfl⟩, hname⟩

/-- Entries load if their paths mean files, one at most for an entry with a name, and all these
    files load. -/
theorem forall_entryLoads_iff {files : Files} {entries : List TableEntry} :
    (∀ entry ∈ entries, EntryLoads files entry) ↔
      (∀ entry ∈ entries, ∃ paths, Discovery.resolve files entry.path = .ok paths ∧
        (entry.name.isSome = true → paths.length ≤ 1)) ∧
      ∀ load ∈ entryFiles files entries, FileLoads files load.1 load.2 := by
  constructor
  · intro h
    refine ⟨fun entry hentry => ?_, fun load hload => ?_⟩
    · obtain ⟨paths, hpaths, hnamed, -⟩ := h entry hentry
      exact ⟨paths, hpaths, hnamed⟩
    · obtain ⟨entry, hentry, hload⟩ := List.mem_flatMap.mp hload
      obtain ⟨path, hpath, rfl⟩ := List.mem_map.mp hload
      obtain ⟨paths, hpaths, -, hall⟩ := h entry hentry
      rw [filesOf_of_resolve hpaths] at hpath
      exact hall path hpath
  · rintro ⟨hpaths, hloads⟩ entry hentry
    obtain ⟨paths, hpaths, hnamed⟩ := hpaths entry hentry
    refine ⟨paths, hpaths, hnamed, fun path hpath => hloads (entry, path) ?_⟩
    refine List.mem_flatMap.mpr ⟨entry, hentry, List.mem_map_of_mem ?_⟩
    rwa [filesOf_of_resolve hpaths]

/-! ## What loading comes to -/

/-- What is loaded with one more file of an entry. -/
def addFile (files : Files) (entry : TableEntry) (loaded : Loaded) (path : String) : Loaded :=
  match openTable loaded.opened files path with
  | .ok table => ⟨loaded.registry.insert (keyFor entry table.name) table.source, loaded.opened + 1⟩
  | .error _ => loaded

/-- What is loaded with files of entries, one after the other. -/
def loadedFrom (files : Files) (loads : List (TableEntry × String)) : Loaded :=
  loads.foldl (fun loaded load => addFile files load.1 loaded load.2) {}

theorem addFile_eq {files : Files} {entry : TableEntry} {path own : String} {schema : Schema}
    {supply : Supply} (h : Opens files path own schema supply) (loaded : Loaded) :
    addFile files entry loaded path =
      ⟨loaded.registry.insert (keyFor entry own) ⟨loaded.opened, schema, supply⟩,
        loaded.opened + 1⟩ := by
  unfold addFile
  rw [h.openTable_eq]

theorem yields_registerFile {files : Files} {entry : TableEntry} {path : String}
    (h : FileLoads files entry path) (loaded : Loaded) :
    (registerFile entry loaded path).Yields files (addFile files entry loaded path) := by
  obtain ⟨own, schema, supply, hopens, hname⟩ := fileLoads_iff.mp h
  have hregister : ∀ source, (Job.ofAction (loaded.registry.register (entry.name.getD own)
      entry.dashboard source)).Yields files (loaded.registry.insert (keyFor entry own) source) := by
    intro source session hfiles
    rw [runOn_ofAction]
    unfold Registry.register TableKey.make
    rw [if_neg hname]
    exact ⟨rfl, hfiles⟩
  unfold registerFile
  refine yields_get_bind fun session hfiles => ?_
  rw [hfiles, hopens.openTable_eq, addFile_eq hopens]
  simp only [pure_bind]
  exact (hregister _).bind (yields_pure _)

theorem yields_registerEntry {files : Files} {entry : TableEntry} (h : EntryLoads files entry)
    (loaded : Loaded) :
    (registerEntry loaded entry).Yields files
      ((filesOf files entry).foldl (addFile files entry) loaded) := by
  obtain ⟨paths, hpaths, hnamed, hall⟩ := h
  have hfold : (paths.foldlM (registerFile entry) loaded).Yields files
      (paths.foldl (addFile files entry) loaded) :=
    yields_foldlM (fun held path hpath => yields_registerFile (hall path hpath) held) loaded
  unfold registerEntry
  refine yields_get_bind fun session hfiles => ?_
  have hresolved : Job.ofExcept (.ok paths) = pure paths := rfl
  have hreport : (Job.ofAction (Action.report (.noTablesMatched entry.path))).Yields files () :=
    fun _ h => ⟨rfl, h⟩
  rw [hfiles, hpaths, hresolved, pure_bind, filesOf_of_resolve hpaths]
  dsimp only
  rw [if_neg (named_iff.mpr hnamed)]
  split
  · exact hreport.bind hfold
  · exact hfold

theorem yields_register {files : Files} {entries : List TableEntry}
    (h : ∀ entry ∈ entries, EntryLoads files entry) :
    (register entries).Yields files (loadedFrom files (entryFiles files entries)).registry := by
  have hfold : (entries.foldlM registerEntry {}).Yields files
      (loadedFrom files (entryFiles files entries)) := by
    have hentries := yields_foldlM
      (fun held entry hentry => yields_registerEntry (h entry hentry) held) {}
    unfold loadedFrom entryFiles
    rw [List.foldl_flatMap]
    simp only [List.foldl_map]
    exact hentries
  exact hfold.bind (yields_pure _)

theorem not_serves_nil {files : Files} {key : TableKey} {source : Source} :
    ¬ Serves files [] key source := by
  rintro ⟨split⟩
  exact absurd split (by simp)

/-- A file that does not produce a key leaves it to those before. -/
theorem Serves.concat {files : Files} {loads : List (TableEntry × String)} {key : TableKey}
    {source : Source} (h : Serves files loads key source) {load : TableEntry × String}
    (hload : ¬ Produces files load key) : Serves files (loads ++ [load]) key source := by
  obtain ⟨rfl, hopens, hproduced, hlater⟩ := h
  refine .last (List.append_assoc _ _ _) hopens hproduced fun other hother => ?_
  rcases List.mem_append.mp hother with hother | hother
  · exact hlater other hother
  · exact List.mem_singleton.mp hother ▸ hload

/-- One more file serves the key that it produces, and no other. -/
theorem serves_concat_iff {files : Files} {loads : List (TableEntry × String)}
    {load : TableEntry × String} {own : String} {schema : Schema} {supply : Supply}
    (h : Opens files load.2 own schema supply) {key : TableKey} {source : Source} :
    Serves files (loads ++ [load]) key source ↔
      key = keyFor load.1 own ∧ source = ⟨loads.length, schema, supply⟩ ∨
        Serves files loads key source ∧ key ≠ keyFor load.1 own := by
  constructor
  · intro hserves
    obtain @⟨before, after, served, _, _, _, hsplit, hopens, hproduced, hlater⟩ := hserves
    rcases List.eq_nil_or_concat' after with rfl | ⟨rest, last, rfl⟩
    · obtain ⟨rfl, rfl⟩ := List.append_singleton_inj.mp hsplit
      obtain ⟨rfl, rfl, rfl⟩ := h.unique hopens
      exact Or.inl ⟨hproduced.symm, rfl⟩
    · have hsplit : loads ++ [load] = (before ++ served :: rest) ++ [last] := by
        rw [hsplit, List.append_assoc]
        rfl
      obtain ⟨rfl, rfl⟩ := List.append_singleton_inj.mp hsplit
      refine Or.inr ⟨.last rfl hopens hproduced fun other hother => ?_, ?_⟩
      · exact hlater other (List.mem_append_left _ hother)
      · rintro rfl
        exact hlater load (List.mem_append_right _ (List.mem_singleton_self load))
          ⟨own, schema, supply, h, rfl⟩
  · rintro (⟨rfl, rfl⟩ | ⟨hserves, hkey⟩)
    · exact .last rfl h rfl fun _ hother => absurd hother List.not_mem_nil
    · refine hserves.concat ?_
      rintro ⟨own', schema', supply', hopens, hproduced⟩
      obtain ⟨rfl, -, -⟩ := h.unique hopens
      exact hkey hproduced.symm

/-- A key is served if some file produces it. -/
theorem exists_serves_iff {files : Files} {loads : List (TableEntry × String)} {key : TableKey} :
    (∃ source, Serves files loads key source) ↔ ∃ load ∈ loads, Produces files load key := by
  constructor
  · rintro ⟨_, rfl, hopens, hproduced, -⟩
    exact ⟨_, List.mem_append_right _ List.mem_cons_self, _, _, _, hopens, hproduced⟩
  · intro h
    induction loads using List.reverseRecOn with
    | nil => simp at h
    | append_singleton loads load ih =>
      by_cases hload : Produces files load key
      · obtain ⟨own, schema, supply, hopens, hproduced⟩ := hload
        exact ⟨_, .last rfl hopens hproduced fun _ hother => absurd hother List.not_mem_nil⟩
      · obtain ⟨other, hother, hproduces⟩ := h
        have hmem : other ∈ loads := by
          rcases List.mem_append.mp hother with hother | hother
          · exact hother
          · exact absurd (List.mem_singleton.mp hother ▸ hproduces) hload
        obtain ⟨source, hserves⟩ := ih ⟨other, hmem, hproduces⟩
        exact ⟨source, hserves.concat hload⟩

/-- **What a registry has after files**: each key has the source of the last file that produces
    it. -/
theorem lookup?_loadedFrom_iff {files : Files} {loads : List (TableEntry × String)}
    (h : ∀ load ∈ loads, FileLoads files load.1 load.2) :
    (loadedFrom files loads).opened = loads.length ∧ ∀ key source,
      (loadedFrom files loads).registry.lookup? key = some source ↔
        Serves files loads key source := by
  -- from the end: the last file takes its key from all files before it
  induction loads using List.reverseRecOn with
  | nil => exact ⟨rfl, fun key source => iff_of_false nofun not_serves_nil⟩
  | append_singleton loads load ih =>
    obtain ⟨hopened, hlookup⟩ := ih fun other hother => h other (List.mem_append_left _ hother)
    obtain ⟨own, schema, supply, hopens, -⟩ :=
      fileLoads_iff.mp (h load (List.mem_append_right _ (List.mem_singleton_self load)))
    have hlast : loadedFrom files (loads ++ [load]) =
        addFile files load.1 (loadedFrom files loads) load.2 := List.foldl_concat _ _ _ _
    rw [hlast, addFile_eq hopens, hopened]
    refine ⟨by simp, fun key source => ?_⟩
    dsimp only
    rw [Registry.lookup?_insert_iff, serves_concat_iff hopens, hlookup]

/-- An entry without files adds none. -/
theorem entryFiles_skip {files : Files} {before after : List TableEntry} {entry : TableEntry}
    (h : Discovery.resolve files entry.path = .ok []) :
    entryFiles files (before ++ entry :: after) = entryFiles files (before ++ after) := by
  unfold entryFiles
  rw [List.flatMap_append, List.flatMap_cons, filesOf_of_resolve h, List.flatMap_append]
  rfl

/-- **Which tables are registered.** The entries of the configuration are loaded, and then one
    without a name for each path of the command line. They load if all their paths mean files, one
    at most for an entry with a name, each of these files opens by its extension, and no table ends
    up with an empty name. Then the keys are those that files produce, which is the dashboard of the
    entry together with its name or else that of the table; each key has the source of the last file
    that produces it; and an entry without files might as well not be there. -/
theorem register_serves (config : Config) (asked : Invocation) (session : Session) :
    let given := config.tables ++ asked.load.map fun path => ⟨none, asked.loadDashboard, path⟩
    let loads := entryFiles session.files given
    ((∃ registry, ((register (entries config asked)).runOn session).1 = .ok registry) ↔
      (∀ entry ∈ given, ∃ paths, Discovery.resolve session.files entry.path = .ok paths ∧
        (entry.name.isSome = true → paths.length ≤ 1)) ∧
      ∀ load ∈ loads, ∃ own schema supply, Opens session.files load.2 own schema supply ∧
        load.1.name.getD own ≠ "") ∧
    ∀ registry, ((register (entries config asked)).runOn session).1 = .ok registry →
      (∀ key, key ∈ registry.entries.map (·.1) ↔
        ∃ load ∈ loads, Produces session.files load key) ∧
      (∀ key source, registry.lookup? key = some source ↔
        Serves session.files loads key source) ∧
      ∀ before entry after, given = before ++ entry :: after →
        Discovery.resolve session.files entry.path = .ok [] →
        ((register (before ++ after)).runOn session).1 = .ok registry := by
  intro given loads
  have hsuccess : (∃ registry, ((register given).runOn session).1 = .ok registry) ↔
      ∀ entry ∈ given, EntryLoads session.files entry := register_eq_ok_iff
  refine ⟨?_, fun registry hregistry => ?_⟩
  · show (∃ registry, ((register given).runOn session).1 = .ok registry) ↔ _
    rw [hsuccess, forall_entryLoads_iff]
    simp only [fileLoads_iff]
    rfl
  have hloads := hsuccess.mp ⟨registry, hregistry⟩
  obtain ⟨-, hfiles⟩ := forall_entryLoads_iff.mp hloads
  have hyields := (yields_register hloads session rfl).1
  obtain rfl : registry = (loadedFrom session.files loads).registry :=
    Except.ok.inj (hregistry.symm.trans hyields)
  have hlookup := (lookup?_loadedFrom_iff hfiles).2
  refine ⟨fun key => ?_, hlookup, fun before entry after hgiven hnone => ?_⟩
  · rw [← exists_serves_iff, List.mem_map]
    constructor
    · rintro ⟨⟨held, source⟩, hmem, rfl⟩
      exact ⟨source, (hlookup held source).mp (Registry.lookup?_eq_some_iff.mpr hmem)⟩
    · rintro ⟨source, hserves⟩
      exact ⟨_, Registry.lookup?_eq_some_iff.mp ((hlookup key source).mpr hserves), rfl⟩
  · have hothers : ∀ other ∈ before ++ after, EntryLoads session.files other := by
      intro other hother
      refine hloads other (hgiven ▸ ?_)
      exact List.mem_append.mpr ((List.mem_append.mp hother).imp id (List.mem_cons_of_mem _))
    rw [(yields_register hothers session rfl).1, ← entryFiles_skip hnone, ← hgiven]

/-! ## Two files under one name -/

/-- A columnar file with one column. -/
def oneColumn (name : String) : Columnar.ColumnFile := ⟨[(name, .integers [some 1])]⟩

/-- A directory with two columnar files. -/
def salesFiles : Files :=
  (Files.scratch.write "old.parquet" (.columnar (oneColumn "size"))).write "sales.parquet"
    (.columnar (oneColumn "price"))

/-- A configuration that gives one of the files the name of the other one, and names a table of
    which there is no file. -/
def salesConfig : Config :=
  { tables := [⟨some "sales", none, "old.parquet"⟩, ⟨some "costs", some "north", "missing"⟩] }

/-- The other file on the command line. -/
def salesAsked : Invocation := ⟨none, ["sales.parquet"], none, false, .tables⟩

/-- The file of the command line serves the only key. -/
theorem register_serves_sales :
    ∃ registry, ((register (entries salesConfig salesAsked)).runOn { files := salesFiles }).1 =
        .ok registry ∧
      (∀ key, key ∈ registry.entries.map (·.1) ↔ key = ⟨none, "sales"⟩) ∧
      registry.lookup? ⟨none, "sales"⟩ =
        some ⟨1, (oneColumn "price").schema, .columnFile "sales.parquet"⟩ := by
  have hfiles : entryFiles salesFiles (entries salesConfig salesAsked) =
      [(⟨some "sales", none, "old.parquet"⟩, "old.parquet"),
        (⟨none, none, "sales.parquet"⟩, "sales.parquet")] := rfl
  have hold : Opens salesFiles "old.parquet" "old" (oneColumn "size").schema
      (.columnFile "old.parquet") := .columns rfl (by decide) rfl
  have hsales : Opens salesFiles "sales.parquet" "sales" (oneColumn "price").schema
      (.columnFile "sales.parquet") := .columns rfl (by decide) rfl
  obtain ⟨hsuccess, hregistered⟩ := register_serves salesConfig salesAsked { files := salesFiles }
  have hresolves : ∀ entry ∈ entries salesConfig salesAsked, ∃ paths,
      Discovery.resolve salesFiles entry.path = .ok paths ∧
        (entry.name.isSome = true → paths.length ≤ 1) := by
    refine List.forall_mem_cons.mpr ⟨⟨["old.parquet"], rfl, by decide⟩, ?_⟩
    refine List.forall_mem_cons.mpr ⟨⟨[], rfl, by decide⟩, ?_⟩
    exact List.forall_mem_singleton.mpr ⟨["sales.parquet"], rfl, by decide⟩
  have hopen : ∀ load ∈ entryFiles salesFiles (entries salesConfig salesAsked),
      ∃ own schema supply, Opens salesFiles load.2 own schema supply ∧
        load.1.name.getD own ≠ "" := by
    rw [hfiles]
    refine List.forall_mem_cons.mpr ⟨⟨_, _, _, hold, by decide⟩, ?_⟩
    exact List.forall_mem_singleton.mpr ⟨_, _, _, hsales, by decide⟩
  obtain ⟨registry, hregistry⟩ := hsuccess.mpr ⟨hresolves, hopen⟩
  obtain ⟨hkeys, hlookup, -⟩ := hregistered registry hregistry
  have hproduced : Produces salesFiles (⟨none, none, "sales.parquet"⟩, "sales.parquet")
      ⟨none, "sales"⟩ := ⟨_, _, _, hsales, rfl⟩
  refine ⟨registry, hregistry, fun key => (hkeys key).trans ⟨?_, ?_⟩, (hlookup _ _).mpr ?_⟩
  · rintro ⟨load, hload, own, schema, supply, hopens, rfl⟩
    rcases List.mem_pair.mp (hfiles ▸ hload) with rfl | rfl
    · rfl
    · obtain ⟨rfl, -, -⟩ := hsales.unique hopens
      rfl
  · rintro rfl
    exact ⟨_, List.mem_of_getLast? (congrArg List.getLast? hfiles), hproduced⟩
  · have hsplit : entryFiles salesFiles (entries salesConfig salesAsked) =
        [(⟨some "sales", none, "old.parquet"⟩, "old.parquet")] ++
          (⟨none, none, "sales.parquet"⟩, "sales.parquet") :: [] := hfiles
    exact .last hsplit hsales rfl fun _ hother => absurd hother List.not_mem_nil

end CommandLine

end Winnow
