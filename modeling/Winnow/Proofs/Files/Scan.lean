import Mathlib.Data.List.Sort
import Mathlib.Data.String.Basic
import Winnow.Proofs.Files.Taken

/-!
# `Winnow.Proofs.Files.Scan` — table files below a directory

A scan descends into every directory and collects the places of table files as it meets them; what
it returns is in the order of components, so that it does not matter in which order directories list
their entries.

## Contents
- **`scanDirectory_found`**: the table files below a directory.
- **`scanDirectory_found_nested`**: a scan of nested directories.
- **`scanDirectory_lists_others`**: what is listed though it is no regular file.
-/

namespace Winnow.Discovery

/-! ## The order of places -/

/-- The places in ascending order. -/
def sortPlaces (places : List (List String)) : List (List String) :=
  places.mergeSort fun a b => !b.lex a fun x y => x < y

theorem not_lex_iff {a b : List String} : (!b.lex a fun x y => x < y) = true ↔ ¬ b < a := by
  rw [Bool.not_eq_true', ← Bool.not_eq_true, List.lex_eq_true_iff_lt]

theorem sortPlaces_ascending {places : List (List String)} (h : places.Nodup) :
    (sortPlaces places).Pairwise (· < ·) := by
  have hsorted : (sortPlaces places).Pairwise fun a b => ¬ b < a := by
    refine (List.pairwise_mergeSort (fun a b c hab hbc => ?_) (fun a b => ?_) places).imp
      not_lex_iff.mp
    · rw [not_lex_iff, not_lt] at hab hbc ⊢
      exact hab.trans hbc
    · rw [Bool.or_eq_true, not_lex_iff, not_lex_iff, not_lt, not_lt]
      exact le_total a b
  have hdistinct : (sortPlaces places).Nodup := (List.mergeSort_perm _ _).nodup_iff.mpr h
  exact (hsorted.and hdistinct).imp fun ⟨hle, hne⟩ => lt_of_le_of_ne (not_lt.mp hle) hne

theorem mem_sortPlaces_iff {path : String} {entries : List (String × Node)} {names : List String}
    (hproper : (Node.directory entries).Proper) (hfits : Path.fits path = true) :
    names ∈ sortPlaces (tableFilesAll path entries) ↔
      Taken path (.directory entries) names ∧ IsTablePlace names := by
  unfold sortPlaces
  rw [List.mem_mergeSort, mem_tableFilesAll hproper hfits]

theorem scanDirectory_eq {files : Files} {path : String} {entries : List (String × Node)}
    (hnode : files.node path = .ok (.directory entries)) :
    scanDirectory files path = .ok
      ((sortPlaces (tableFilesAll path entries)).map fun names => names.foldl Path.join path) := by
  unfold scanDirectory
  rw [hnode]
  rfl

theorem resolve_eq_scanDirectory {files : Files} {path : String} {entries : List (String × Node)}
    (hnode : files.node path = .ok (.directory entries)) :
    resolve files path = scanDirectory files path := by
  have hfile : files.isFile path = false := by
    unfold Files.isFile
    rw [hnode]
  have hdirectory : files.isDirectory path = true := by
    unfold Files.isDirectory
    rw [hnode]
  unfold resolve
  rw [hfile, hdirectory]
  rfl

/-- A tree listed in any other order has the same places of table files. -/
theorem sortPlaces_relisted {path : String} {entries listed : List (String × Node)}
    (hproper : (Node.directory entries).Proper) (hfits : Path.fits path = true)
    (hlisted : Node.Relisted (.directory entries) (.directory listed)) :
    sortPlaces (tableFilesAll path listed) = sortPlaces (tableFilesAll path entries) := by
  have hproper' := hlisted.proper hproper
  refine List.Pairwise.eq_of_mem_iff (sortPlaces_ascending (tableFilesAll_nodup hproper' path))
    (sortPlaces_ascending (tableFilesAll_nodup hproper path)) fun names => ?_
  rw [mem_sortPlaces_iff hproper' hfits, mem_sortPlaces_iff hproper hfits]
  exact and_congr_left fun _ => ⟨(·.relisted hlisted.symm), (·.relisted hlisted)⟩

/-- **Table files below a directory.** A scan, like the path of the directory itself, gives the path
    of everything at any depth below the directory whose name has something before its last dot and
    one of the two extensions behind it, unless it is a directory, and nothing else. Regular files
    are not told from pipes, sockets and devices, nor is a directory whose path is too long to be
    looked up; where there are none of these, it gives exactly the regular files.
    The components of such a path are those of the directory and behind them the names that lead
    there, so that different places have different paths. The paths ascend in the order of their
    components, each of them once, and they are the same in whatever order the directories of the
    tree list their entries. -/
theorem scanDirectory_found {files : Files} {path : String} {entries : List (String × Node)}
    (hnode : files.node path = .ok (.directory entries))
    (hproper : (Node.directory entries).Proper) :
    ∃ found : List String,
      scanDirectory files path = .ok found ∧ resolve files path = .ok found ∧
      (∀ file, file ∈ found ↔ ∃ names node stem extension,
        (Node.directory entries).at? names = some node ∧
        (∀ front, front <+: names → front ≠ names →
          Path.fits (front.foldl Path.join path) = true) ∧
        (∀ held, node = .directory held → Path.fits (names.foldl Path.join path) = false) ∧
        names.getLast? = some (stem ++ "." ++ extension) ∧
        stem ≠ "" ∧ (extension = "json" ∨ extension = "parquet") ∧
        file = names.foldl Path.join path) ∧
      (files.Readable path (.directory entries) →
        (∀ names reading, (Node.directory entries).at? names ≠ some (.special reading)) →
        ∀ file, file ∈ found ↔ ∃ names content stem extension,
          (Node.directory entries).at? names = some (.file content) ∧
          names.getLast? = some (stem ++ "." ++ extension) ∧
          stem ≠ "" ∧ (extension = "json" ∨ extension = "parquet") ∧
          file = names.foldl Path.join path) ∧
      (∀ names node, (Node.directory entries).at? names = some node →
        Path.components (names.foldl Path.join path) = Path.components path ++ names) ∧
      (found.map Path.components).Pairwise (· < ·) ∧
      ∀ other, files.Relisted other →
        scanDirectory other path = .ok found ∧ resolve other path = .ok found := by
  have hfits := Files.fits_of_node hnode
  have hcomponents : ∀ names node, (Node.directory entries).at? names = some node →
      Path.components (names.foldl Path.join path) = Path.components path ++ names :=
    fun names node hat => Path.components_foldl_join (hproper.isName_of_at? hat) path
  have hmem : ∀ names, names ∈ sortPlaces (tableFilesAll path entries) ↔ _ :=
    fun names => mem_sortPlaces_iff hproper hfits
  have hscan := scanDirectory_eq hnode
  refine ⟨_, hscan, (resolve_eq_scanDirectory hnode).trans hscan, fun file => ?_,
    fun hread hregular file => ?_, hcomponents, ?_, fun other hother => ?_⟩
  · rw [List.mem_map]
    constructor
    · rintro ⟨names, hnames, rfl⟩
      obtain ⟨htaken, htable⟩ := (hmem names).mp hnames
      obtain ⟨node, hat, hway, hlong⟩ := taken_iff.mp htaken
      obtain ⟨stem, extension, hlast, hstem, hextension⟩ := (isTablePlace_iff hproper hat).mp htable
      exact ⟨names, node, stem, extension, hat, hway, hlong, hlast, hstem, hextension, rfl⟩
    · rintro ⟨names, node, stem, extension, hat, hway, hlong, hlast, hstem, hextension, rfl⟩
      have htable := (isTablePlace_iff hproper hat).mpr ⟨stem, extension, hlast, hstem, hextension⟩
      exact ⟨names, (hmem names).mpr ⟨taken_iff.mpr ⟨node, hat, hway, hlong⟩, htable⟩, rfl⟩
  · rw [List.mem_map]
    constructor
    · rintro ⟨names, hnames, rfl⟩
      obtain ⟨htaken, htable⟩ := (hmem names).mp hnames
      obtain ⟨node, hat, hplain⟩ := (taken_iff_of_readable hread).mp htaken
      obtain ⟨stem, extension, hlast, hstem, hextension⟩ := (isTablePlace_iff hproper hat).mp htable
      cases node with
      | file content => exact ⟨names, content, stem, extension, hat, hlast, hstem, hextension, rfl⟩
      | directory held => exact absurd rfl (hplain held)
      | special reading => exact absurd hat (hregular names reading)
    · rintro ⟨names, content, stem, extension, hat, hlast, hstem, hextension, rfl⟩
      have htable := (isTablePlace_iff hproper hat).mpr ⟨stem, extension, hlast, hstem, hextension⟩
      have htaken := (taken_iff_of_readable hread).mpr ⟨_, hat, nofun⟩
      exact ⟨names, (hmem names).mpr ⟨htaken, htable⟩, rfl⟩
  · rw [List.map_map, List.pairwise_map]
    refine (sortPlaces_ascending (tableFilesAll_nodup hproper path)).imp_of_mem ?_
    intro names later hnames hlater hlt
    obtain ⟨_, hat, -⟩ := taken_iff.mp ((hmem names).mp hnames).1
    obtain ⟨_, hat', -⟩ := taken_iff.mp ((hmem later).mp hlater).1
    show Path.components _ < Path.components _
    rw [hcomponents names _ hat, hcomponents later _ hat']
    exact List.append_left_lt hlt
  · obtain ⟨listed, hlisted, hrelisted⟩ := hother.exists_directory hnode
    rw [resolve_eq_scanDirectory hlisted, scanDirectory_eq hlisted,
      sortPlaces_relisted hproper hfits hrelisted]
    exact ⟨rfl, rfl⟩

/-! ## A scan of nested directories -/

/-- Entries with a directory that has the name of a table file, a pipe that has one as well, a file
    with nothing before its only dot, and one with another extension. -/
def nestedEntries : List (String × Node) :=
  [("x.json", .directory [("b.parquet", .file .binary), ("a.json", .file .binary)]),
    ("x", .directory [("t.json", .file .binary), ("pipe.json", .special (.error .notConnected))]),
    (".json", .file .binary), ("notes.txt", .file .binary), ("a.json", .file .binary)]

/-- A working directory with entries in a directory of it. -/
def nestedFiles (entries : List (String × Node)) : Files :=
  ⟨.directory [("work", .directory [("data", .directory entries)])], ["work"]⟩

/-- Entries with a directory that has the name of a table file, and a file in it. -/
def regularEntries : List (String × Node) := [("x.json", .directory [("a.json", .file .binary)])]

theorem at?_regularEntries {names : List String} {node : Node}
    (h : (Node.directory regularEntries).at? names = some node) :
    names = [] ∧ node = .directory regularEntries ∨
      names = ["x.json"] ∧ node = .directory [("a.json", .file .binary)] ∨
      names = ["x.json", "a.json"] ∧ node = .file .binary := by
  rcases Node.at?_singleton h with hhere | ⟨rest, rfl, hbelow⟩
  · exact Or.inl hhere
  rcases Node.at?_singleton hbelow with ⟨rfl, hnode⟩ | ⟨last, rfl, hfile⟩
  · exact Or.inr (Or.inl ⟨rfl, hnode⟩)
  cases last with
  | nil => exact Or.inr (Or.inr ⟨rfl, (Option.some.inj hfile).symm⟩)
  | cons => exact nomatch hfile

/-- The components decide on the order: the texts of the paths compare a slash with a dot. A
    directory is not listed for its name. -/
theorem scanDirectory_found_nested :
    scanDirectory (nestedFiles nestedEntries.reverse) "data" =
        .ok ["data/a.json", "data/x/pipe.json", "data/x/t.json", "data/x.json/a.json",
          "data/x.json/b.parquet"] ∧
      ∃ found, scanDirectory (nestedFiles regularEntries) "data" = .ok found ∧
        "data/x.json/a.json" ∈ found ∧ "data/x.json" ∉ found := by
  have hproper : (Node.directory nestedEntries).Proper := by
    refine .directory (by decide) (by decide) ?_
    simp only [nestedEntries, List.forall_mem_cons]
    refine ⟨.directory (by decide) (by decide) ?_, .directory (by decide) (by decide) ?_,
      .file _, .file _, .file _, nofun⟩
    · simp only [List.forall_mem_cons]
      exact ⟨.file _, .file _, nofun⟩
    · simp only [List.forall_mem_cons]
      exact ⟨.file _, .special _, nofun⟩
  have hrelisted : (nestedFiles nestedEntries).Relisted (nestedFiles nestedEntries.reverse) := by
    refine ⟨?_, rfl⟩
    exact .singleton _ (.singleton _ (.of_perm (by decide) (List.reverse_perm _).symm))
  have hnode : (nestedFiles nestedEntries).node "data" = .ok (.directory nestedEntries) := rfl
  have hplaces : sortPlaces (tableFilesAll "data" nestedEntries) =
      [["a.json"], ["x", "pipe.json"], ["x", "t.json"], ["x.json", "a.json"],
        ["x.json", "b.parquet"]] := by
    have hfound : tableFilesAll "data" nestedEntries =
        [["x.json", "b.parquet"], ["x.json", "a.json"], ["x", "t.json"], ["x", "pipe.json"],
          ["a.json"]] := by decide
    refine List.Pairwise.eq_of_mem_iff
      (sortPlaces_ascending (tableFilesAll_nodup hproper "data")) (by decide) fun names => ?_
    unfold sortPlaces
    rw [List.mem_mergeSort, hfound]
    simp only [List.mem_cons, List.not_mem_nil]
    tauto
  obtain ⟨found, hfound, -, -, -, -, -, hother⟩ := scanDirectory_found hnode hproper
  refine ⟨?_, ?_⟩
  · rw [(hother _ hrelisted).1, ← hfound, scanDirectory_eq hnode, hplaces]
    rfl
  have hproper : (Node.directory regularEntries).Proper := by
    refine .directory (by decide) (by decide) ?_
    simp only [regularEntries, List.forall_mem_singleton]
    refine .directory (by decide) (by decide) ?_
    simp only [List.forall_mem_singleton]
    exact .file _
  have hread : (nestedFiles regularEntries).Readable "data" (.directory regularEntries) := by
    intro names entries h
    rcases at?_regularEntries h with ⟨rfl, -⟩ | ⟨rfl, -⟩ | ⟨-, h⟩
    · rfl
    · rfl
    · exact nomatch h
  have hplain : ∀ names reading,
      (Node.directory regularEntries).at? names ≠ some (.special reading) := by
    intro names reading h
    rcases at?_regularEntries h with ⟨-, h⟩ | ⟨-, h⟩ | ⟨-, h⟩ <;> exact nomatch h
  have hnode : (nestedFiles regularEntries).node "data" = .ok (.directory regularEntries) := rfl
  obtain ⟨found, hfound, -, -, hregular, hcomponents, -⟩ := scanDirectory_found hnode hproper
  refine ⟨found, hfound, (hregular hread hplain _).mpr
    ⟨["x.json", "a.json"], .binary, "a", "json", rfl, rfl, by decide, Or.inl rfl, rfl⟩, ?_⟩
  intro hmem
  obtain ⟨names, content, _, _, h, -, -, -, hpath⟩ := (hregular hread hplain _).mp hmem
  rcases at?_regularEntries h with ⟨-, h⟩ | ⟨-, h⟩ | ⟨rfl, -⟩
  · exact nomatch h
  · exact nomatch h
  · exact absurd hpath (by decide)

/-! ## What is listed though it is no regular file -/

theorem not_fits_join {path name : String} (hne : path ≠ "") (hname : Path.isAbsolute name = false)
    (hlong : Path.maxBytes < path.utf8ByteSize + name.utf8ByteSize) :
    Path.fits (Path.join path name) = false := by
  have hpath : path.isEmpty = false := by
    rw [Bool.eq_false_iff, Ne, String.isEmpty_iff]
    exact hne
  unfold Path.fits Path.join
  rw [decide_eq_false_iff_not, hname, hpath, if_neg (by decide)]
  split <;> rw [String.utf8ByteSize_append] <;> try rw [String.utf8ByteSize_append]
  all_goals omega

/-- A path behind a number of steps that lead nowhere. -/
def dotted : Nat → String → String
  | 0, path => path
  | count + 1, path => "./" ++ dotted count path

theorem utf8ByteSize_dotted (count : Nat) (path : String) :
    (dotted count path).utf8ByteSize = 2 * count + path.utf8ByteSize := by
  induction count with
  | zero => simp [dotted]
  | succ count ih =>
    have hstep : ("./" : String).utf8ByteSize = 2 := rfl
    rw [dotted, String.utf8ByteSize_append, ih, hstep]
    omega

theorem dotted_ne_empty {path : String} (hne : path ≠ "") (count : Nat) :
    dotted count path ≠ "" := by
  cases count with
  | zero => exact hne
  | succ => simp [dotted]

theorem node_dotted (files : Files) {path : String} (hne : path ≠ "")
    (hrelative : Path.isAbsolute path = false) {count : Nat}
    (hfits : Path.fits (dotted count path) = true) :
    files.node (dotted count path) = files.node path := by
  induction count with
  | zero => rfl
  | succ count ih =>
    have hrelative : Path.isAbsolute (dotted count path) = false := by
      cases count with
      | zero => exact hrelative
      | succ => simp [dotted, Path.isAbsolute]
    have hstep := Files.node_here files (dotted_ne_empty hne count) hrelative hfits
    exact hstep.trans (ih (Files.fits_of_append hfits))

theorem scanDirectory_of_single {files : Files} {path : String} {entries : List (String × Node)}
    {names : List String} (hnode : files.node path = .ok (.directory entries))
    (hfound : tableFilesAll path entries = [names]) :
    scanDirectory files path = .ok [names.foldl Path.join path] := by
  rw [scanDirectory_eq hnode, hfound]
  unfold sortPlaces
  rw [List.mergeSort_singleton]
  rfl

/-- A pipe with the name of a table file in a directory. -/
def pipeFiles : Files := nestedFiles [("x.json", .special (.error .notConnected))]

/-- A directory with the name of a table file in another one. -/
def hollowFiles : Files := nestedFiles [("x.json", .directory [])]

/-- **A scan lists more than regular files.** A pipe with the name of a table file is listed, though
    its own path means no table file. So is a directory with such a name where its path is too
    long to be looked up, though it is found by a shorter one. -/
theorem scanDirectory_lists_others :
    (scanDirectory pipeFiles "data" = .ok ["data/x.json"] ∧
      pipeFiles.isFile "data/x.json" = false ∧ resolve pipeFiles "data/x.json" = .ok []) ∧
    scanDirectory hollowFiles (dotted 2045 "data") =
        .ok [Path.join (dotted 2045 "data") "x.json"] ∧
      hollowFiles.isDirectory "data/x.json" = true ∧ scanDirectory hollowFiles "data" = .ok [] := by
  have hhollow : ∀ {path : String},
      hollowFiles.node path = .ok (.directory [("x.json", .directory [])]) →
      Path.fits (Path.join path "x.json") = false →
      scanDirectory hollowFiles path = .ok [Path.join path "x.json"] := by
    intro path hnode hlong
    refine @scanDirectory_of_single _ _ _ ["x.json"] hnode ?_
    unfold tableFilesAll tableFiles
    rw [hlong]
    rfl
  have hfits : Path.fits (dotted 2045 "data") = true := by
    unfold Path.fits
    rw [utf8ByteSize_dotted]
    rfl
  have hlong : Path.fits (Path.join (dotted 2045 "data") "x.json") = false := by
    refine not_fits_join (dotted_ne_empty (by decide) 2045) rfl ?_
    rw [utf8ByteSize_dotted]
    decide
  have hnode := node_dotted hollowFiles (by decide) rfl hfits
  have hpipe : scanDirectory pipeFiles "data" = .ok ["data/x.json"] :=
    (@scanDirectory_of_single _ _ _ ["x.json"] rfl rfl).trans rfl
  have hempty : scanDirectory hollowFiles "data" = .ok [] := by
    have hnone : tableFilesAll "data" [("x.json", .directory [])] = [] := by decide
    rw [@scanDirectory_eq _ _ [("x.json", .directory [])] rfl, hnone]
    unfold sortPlaces
    rw [List.mergeSort_nil]
    rfl
  exact ⟨⟨hpipe, rfl, rfl⟩, hhollow (hnode.trans rfl) hlong, rfl, hempty⟩

end Winnow.Discovery
