import Winnow.Proofs.Files.Places

/-!
# `Winnow.Proofs.Files.Taken` — what a scan takes for a file

A scan asks of an entry only whether it is a directory. What it collects are the places of all other
entries that have the name of a table file, and of directories with such a name whose paths are too
long to be looked up.

## Contents
- **`IsTablePlace`**: the places whose last name is that of a table file.
- **`Taken`**: what a scan takes for a file, with **`taken_iff`** and **`taken_iff_of_readable`**.
- **`mem_tableFilesAll`**: what is collected below a directory.
- **`tableFilesAll_nodup`**: no place is collected twice.
-/

namespace Winnow.Discovery

/-- The places whose last name is that of a table file. -/
def IsTablePlace (names : List String) : Prop :=
  ∃ name, names.getLast? = some name ∧ isTableName name = true

theorem isTablePlace_cons {name : String} {names : List String} (h : names ≠ []) :
    IsTablePlace (name :: names) ↔ IsTablePlace names := by
  obtain ⟨first, rest, rfl⟩ := List.exists_cons_of_ne_nil h
  unfold IsTablePlace
  rw [List.getLast?_cons_cons]

/-- The last name of such a place has something before its last dot, and one of the two extensions
    behind it. -/
theorem isTablePlace_iff {node found : Node} {names : List String} (hproper : node.Proper)
    (hat : node.at? names = some found) :
    IsTablePlace names ↔ ∃ stem extension, names.getLast? = some (stem ++ "." ++ extension) ∧
      stem ≠ "" ∧ (extension = "json" ∨ extension = "parquet") := by
  have hname : ∀ name, names.getLast? = some name → Path.IsName name :=
    fun name hlast => hproper.isName_of_at? hat name (List.mem_of_getLast? hlast)
  constructor
  · rintro ⟨name, hlast, htable⟩
    obtain ⟨stem, extension, hstem, hextension, rfl⟩ :=
      (isTableName_iff (hname name hlast)).mp htable
    exact ⟨stem, extension, hlast, hstem, hextension⟩
  · rintro ⟨stem, extension, hlast, hstem, hextension⟩
    have htable := (isTableName_iff (hname _ hlast)).mpr ⟨stem, extension, hstem, hextension, rfl⟩
    exact ⟨_, hlast, htable⟩

/-! ## What is taken for a file -/

/-- **What a scan takes for a file** at or below a node at a path, by the names that lead there:
    what is no directory, and a directory whose path is too long to be looked up. It descends into
    all other directories. -/
inductive Taken : String → Node → List String → Prop
  | file (path : String) (content : Content) : Taken path (.file content) []
  | special (path : String) (reading : Except FileFault Content) : Taken path (.special reading) []
  | outOfReach {path : String} {entries : List (String × Node)} (long : Path.fits path = false) :
      Taken path (.directory entries) []
  | inside {path name : String} {entries : List (String × Node)} {node : Node} {rest : List String}
      (fits : Path.fits path = true) (child : Node.child? name entries = some node)
      (taken : Taken (Path.join path name) node rest) :
      Taken path (.directory entries) (name :: rest)

section Taken

variable {path : String} {node : Node} {entries : List (String × Node)} {names : List String}

theorem taken_file_iff {content : Content} : Taken path (.file content) names ↔ names = [] := by
  constructor
  · rintro ⟨⟩
    rfl
  · rintro rfl
    exact .file path content

theorem taken_special_iff {reading : Except FileFault Content} :
    Taken path (.special reading) names ↔ names = [] := by
  constructor
  · rintro ⟨⟩
    rfl
  · rintro rfl
    exact .special path reading

theorem taken_directory_iff_of_long (h : Path.fits path = false) :
    Taken path (.directory entries) names ↔ names = [] := by
  constructor
  · rintro (_ | _ | _ | ⟨fits⟩)
    · rfl
    · exact nomatch fits.symm.trans h
  · rintro rfl
    exact .outOfReach h

theorem Taken.ne_nil (h : Taken path (.directory entries) names) (hfits : Path.fits path = true) :
    names ≠ [] := by
  cases h with
  | outOfReach long => exact nomatch hfits.symm.trans long
  | inside => exact List.cons_ne_nil _ _

/-- What is taken for a file stands at its place, and every directory on the way there has a path
    that is short enough. -/
theorem taken_iff : Taken path node names ↔ ∃ found, node.at? names = some found ∧
    (∀ front, front <+: names → front ≠ names → Path.fits (front.foldl Path.join path) = true) ∧
    ∀ held, found = .directory held → Path.fits (names.foldl Path.join path) = false := by
  have hnil : ∀ {front : List String}, front <+: [] → front ≠ [] → False :=
    fun hfront hne => hne (List.prefix_nil.mp hfront)
  constructor
  · intro h
    induction h with
    | file | special => exact ⟨_, rfl, fun _ hfront hne => (hnil hfront hne).elim, nofun⟩
    | outOfReach long => exact ⟨_, rfl, fun _ hfront hne => (hnil hfront hne).elim, fun _ _ => long⟩
    | inside fits child _ ih =>
      obtain ⟨found, hat, hway, hlong⟩ := ih
      refine ⟨found, Option.bind_eq_some_iff.mpr ⟨_, child, hat⟩, fun front hfront hne => ?_, hlong⟩
      rcases List.prefix_cons_iff.mp hfront with rfl | ⟨rest, rfl, hrest⟩
      · exact fits
      · exact hway rest hrest fun heq => hne (congrArg _ heq)
  · rintro ⟨found, hat, hway, hlong⟩
    induction names generalizing path node with
    | nil =>
      obtain rfl := Option.some.inj hat
      cases node with
      | file content => exact .file path content
      | special reading => exact .special path reading
      | directory entries => exact .outOfReach (hlong _ rfl)
    | cons name rest ih =>
      cases node with
      | file | special => exact nomatch hat
      | directory entries =>
        obtain ⟨next, hchild, hat⟩ := Option.bind_eq_some_iff.mp hat
        refine .inside (hway [] List.nil_prefix (List.cons_ne_nil _ _).symm) hchild
          (ih hat (fun front hfront hne => ?_) hlong)
        exact hway (name :: front) (List.cons_prefix_cons.mpr ⟨rfl, hfront⟩)
          fun heq => hne (List.cons.inj heq).2

/-- Where every directory can be looked up, all that is no directory is taken for a file. -/
theorem taken_iff_of_readable {files : Files} (hread : files.Readable path node) :
    Taken path node names ↔
      ∃ found, node.at? names = some found ∧ ∀ held, found ≠ .directory held := by
  constructor
  · intro h
    induction h with
    | file | special => exact ⟨_, rfl, nofun⟩
    | outOfReach long => exact nomatch hread.fits.symm.trans long
    | inside _ child _ ih =>
      obtain ⟨found, hat, hplain⟩ := ih (hread.entry child)
      exact ⟨found, Option.bind_eq_some_iff.mpr ⟨_, child, hat⟩, hplain⟩
  · rintro ⟨found, hat, hplain⟩
    induction names generalizing path node with
    | nil =>
      obtain rfl := Option.some.inj hat
      cases node with
      | file content => exact .file path content
      | special reading => exact .special path reading
      | directory entries => exact absurd rfl (hplain entries)
    | cons name rest ih =>
      cases node with
      | file | special => exact nomatch hat
      | directory entries =>
        obtain ⟨next, hchild, hat⟩ := Option.bind_eq_some_iff.mp hat
        exact .inside hread.fits hchild (ih (hread.entry hchild) hat)

/-- A tree listed in any other order has the same taken for files. -/
theorem Taken.relisted {listed : Node} (h : Taken path node names)
    (hlisted : Node.Relisted node listed) : Taken path listed names := by
  obtain ⟨found, hat, hway, hlong⟩ := taken_iff.mp h
  obtain ⟨held, hheld, hrelisted⟩ := hlisted.symm.at?_eq_some hat
  refine taken_iff.mpr ⟨held, hheld, hway, ?_⟩
  rintro entries rfl
  cases hrelisted
  exact hlong _ rfl

end Taken

/-! ## What is collected -/

theorem tableFilesAll_eq_flatMap (path : String) (entries : List (String × Node)) :
    tableFilesAll path entries = entries.flatMap fun entry => tableFiles path entry.1 entry.2 := by
  induction entries with
  | nil => rfl
  | cons entry rest ih =>
    rw [List.flatMap_cons, ← ih]
    rfl

theorem exists_rest_of_mem_tableFiles {path name : String} {node : Node} {names : List String}
    (h : names ∈ tableFiles path name node) : ∃ rest, names = name :: rest := by
  have hsingle : names ∈ (if isTableName name then [[name]] else []) →
      ∃ rest, names = name :: rest := by
    intro h
    split at h
    case isTrue => exact ⟨[], List.mem_singleton.mp h⟩
    case isFalse => exact absurd h List.not_mem_nil
  cases node with
  | file | special => exact hsingle h
  | directory entries =>
    unfold tableFiles at h
    by_cases hfits : Path.fits (Path.join path name) = true
    · rw [if_pos hfits] at h
      obtain ⟨rest, -, rfl⟩ := List.mem_map.mp h
      exact ⟨rest, rfl⟩
    · rw [if_neg hfits] at h
      exact hsingle h

/-- An entry that is taken for a file is collected by its name. -/
theorem mem_single_iff {name : String} {rest : List String} :
    name :: rest ∈ (if isTableName name then [[name]] else []) ↔
      rest = [] ∧ IsTablePlace (name :: rest) := by
  constructor
  · intro h
    split at h
    case isTrue htable =>
      obtain ⟨-, rfl⟩ := List.cons.inj (List.mem_singleton.mp h)
      exact ⟨rfl, name, rfl, htable⟩
    case isFalse => exact absurd h List.not_mem_nil
  · rintro ⟨rfl, last, hlast, htable⟩
    obtain rfl : name = last := Option.some.inj hlast
    rw [if_pos htable]
    exact List.mem_singleton_self _

/-- What is collected at an entry, given what is collected below it. -/
theorem mem_tableFiles {path name : String} {node : Node} {rest : List String}
    (hbelow : ∀ entries, node = .directory entries → Path.fits (Path.join path name) = true →
      (rest ∈ tableFilesAll (Path.join path name) entries ↔
        Taken (Path.join path name) node rest ∧ IsTablePlace rest)) :
    name :: rest ∈ tableFiles path name node ↔
      Taken (Path.join path name) node rest ∧ IsTablePlace (name :: rest) := by
  cases node with
  | file content =>
    rw [taken_file_iff]
    exact mem_single_iff
  | special reading =>
    rw [taken_special_iff]
    exact mem_single_iff
  | directory entries =>
    unfold tableFiles
    by_cases hfits : Path.fits (Path.join path name) = true
    · rw [if_pos hfits, List.mem_map_of_injective List.cons_injective, hbelow entries rfl hfits]
      exact and_congr_right fun htaken => (isTablePlace_cons (htaken.ne_nil hfits)).symm
    · rw [if_neg hfits, taken_directory_iff_of_long (Bool.eq_false_iff.mpr hfits)]
      exact mem_single_iff

/-- **What is collected below a directory.** The places of what is taken for a file and has the name
    of a table file, and nothing else. -/
theorem mem_tableFilesAll {path : String} {entries : List (String × Node)} {names : List String}
    (hproper : (Node.directory entries).Proper) (hfits : Path.fits path = true) :
    names ∈ tableFilesAll path entries ↔
      Taken path (.directory entries) names ∧ IsTablePlace names := by
  -- on the tree: an entry that is a directory is collected below a path of its own
  generalize hnode : Node.directory entries = node at hproper ⊢
  induction node using Node.induction generalizing path entries names with
  | file | special => exact nomatch hnode
  | directory held ih =>
    obtain rfl := Node.directory.inj hnode
    cases hproper with
    | directory distinct _ below =>
      have hentry : ∀ {name : String} {node : Node} {rest : List String},
          Node.child? name entries = some node →
          (name :: rest ∈ tableFiles path name node ↔
            Taken (Path.join path name) node rest ∧ IsTablePlace (name :: rest)) := by
        intro name node rest hchild
        have hmem := Node.mem_of_child? hchild
        refine mem_tableFiles fun entries hentries hfits => ?_
        exact ih (name, node) hmem hfits hentries.symm (below _ hmem)
      rw [tableFilesAll_eq_flatMap, List.mem_flatMap]
      constructor
      · rintro ⟨⟨name, node⟩, hmem, hnames⟩
        have hchild := (Node.child?_eq_some_iff distinct).mpr hmem
        obtain ⟨rest, rfl⟩ := exists_rest_of_mem_tableFiles hnames
        obtain ⟨htaken, htable⟩ := (hentry hchild).mp hnames
        exact ⟨.inside hfits hchild htaken, htable⟩
      · rintro ⟨htaken, htable⟩
        cases htaken with
        | outOfReach long => exact nomatch hfits.symm.trans long
        | @inside _ name _ node rest _ hchild htaken =>
          exact ⟨(name, node), Node.mem_of_child? hchild, (hentry hchild).mpr ⟨htaken, htable⟩⟩

/-- No place is collected twice. -/
theorem tableFilesAll_nodup {entries : List (String × Node)}
    (hproper : (Node.directory entries).Proper) (path : String) :
    (tableFilesAll path entries).Nodup := by
  generalize hnode : Node.directory entries = node at hproper
  induction node using Node.induction generalizing path entries with
  | file | special => exact nomatch hnode
  | directory held ih =>
    obtain rfl := Node.directory.inj hnode
    cases hproper with
    | directory distinct _ below =>
      rw [tableFilesAll_eq_flatMap, List.nodup_flatMap]
      constructor
      · rintro ⟨name, node⟩ hmem
        cases node with
        | file | special =>
          show (ite _ [[name]] []).Nodup
          split <;> simp
        | directory entries =>
          have hbelow := ih _ hmem (Path.join path name) rfl (below _ hmem)
          unfold tableFiles
          split_ifs
          · exact hbelow.map List.cons_injective
          · exact List.nodup_singleton _
          · exact List.nodup_nil
      · refine (List.pairwise_map.mp distinct).imp fun {first second} hne names hfirst hsecond => ?_
        obtain ⟨rest, rfl⟩ := exists_rest_of_mem_tableFiles hfirst
        obtain ⟨other, heq⟩ := exists_rest_of_mem_tableFiles hsecond
        exact hne (List.cons.inj heq).1

end Winnow.Discovery
