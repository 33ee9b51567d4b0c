import Mathlib.Data.List.Forall2
import Mathlib.Data.List.Nodup
import Winnow.Proofs.Files.Names

/-!
# `Winnow.Proofs.Files.Places` — places in a tree of files

A place below a directory is the list of names that leads there. The order in which directories list
their entries does not show at places: two trees that differ in it only have the same at each place,
and the same is found at each path.

## Contents
- **`Node.at?`**: the node at a place.
- **`Node.Proper`**: the trees in which every place has one node at most.
- **`Node.Relisted`**, **`Files.Relisted`**: the same tree, listed in any order.
- **`Files.Relisted.node_alike`**: what relisted trees have at a path.
- **`Files.Readable`**: the trees in which every directory can be looked up.
-/

namespace Winnow

namespace Node

/-- Induction on nodes: a property of a directory may use it for all entries. -/
theorem induction {motive : Node → Prop} (file : ∀ content, motive (.file content))
    (directory : ∀ entries : List (String × Node), (∀ entry ∈ entries, motive entry.2) →
      motive (.directory entries))
    (special : ∀ reading, motive (.special reading)) (node : Node) : motive node :=
  @Node.rec motive (fun entries => ∀ entry ∈ entries, motive entry.2) (fun entry => motive entry.2)
    file directory special
    (fun _ h => absurd h List.not_mem_nil)
    (fun _ _ first rest => List.forall_mem_cons.mpr ⟨first, rest⟩)
    (fun _ _ value => value)
    node

/-! ## The node at a place -/

/-- The node at a place below a node. -/
def at? : List String → Node → Option Node
  | [], node => some node
  | _ :: _, .file _ | _ :: _, .special _ => none
  | name :: rest, .directory entries => (child? name entries).bind (at? rest)

/-- Every directory lists its entries under names of their own. -/
inductive Proper : Node → Prop
  | file (content : Content) : Proper (.file content)
  | directory {entries : List (String × Node)} (distinct : (entries.map (·.1)).Nodup)
      (named : ∀ entry ∈ entries, Path.IsName entry.1)
      (below : ∀ entry ∈ entries, Proper entry.2) : Proper (.directory entries)
  | special (reading : Except FileFault Content) : Proper (.special reading)

theorem mem_of_child? {name : String} {node : Node} {entries : List (String × Node)}
    (h : child? name entries = some node) : (name, node) ∈ entries := by
  induction entries with
  | nil => exact nomatch h
  | cons entry rest ih =>
    unfold child? at h
    split at h
    case isTrue hname =>
      rw [← hname, ← Option.some.inj h]
      exact List.mem_cons_self
    case isFalse => exact List.mem_cons_of_mem _ (ih h)

theorem exists_child?_iff {name : String} {entries : List (String × Node)} :
    (∃ node, child? name entries = some node) ↔ name ∈ entries.map (·.1) := by
  constructor
  · rintro ⟨node, h⟩
    exact List.mem_map_of_mem (mem_of_child? h)
  · intro h
    induction entries with
    | nil => exact absurd h List.not_mem_nil
    | cons entry rest ih =>
      unfold child?
      split
      case isTrue => exact ⟨entry.2, rfl⟩
      case isFalse hname => exact ih ((List.mem_cons.mp h).resolve_left (Ne.symm hname))

/-- Under names of their own, every entry is found by its name. -/
theorem child?_eq_some_iff {name : String} {node : Node} {entries : List (String × Node)}
    (h : (entries.map (·.1)).Nodup) : child? name entries = some node ↔ (name, node) ∈ entries := by
  refine ⟨mem_of_child?, fun hmem => ?_⟩
  obtain ⟨found, hfound⟩ := exists_child?_iff.mpr (List.mem_map_of_mem hmem)
  have hsame := List.inj_on_of_nodup_map h hmem (mem_of_child? hfound) rfl
  rw [(Prod.mk.inj hsame).2]
  exact hfound

theorem at?_singleton {name : String} {node found : Node} {names : List String}
    (h : (directory [(name, node)]).at? names = some found) :
    names = [] ∧ found = .directory [(name, node)] ∨
      ∃ rest, names = name :: rest ∧ node.at? rest = some found := by
  cases names with
  | nil => exact Or.inl ⟨rfl, (Option.some.inj h).symm⟩
  | cons first rest =>
    obtain ⟨held, hheld, hat⟩ := Option.bind_eq_some_iff.mp h
    obtain ⟨rfl, rfl⟩ := Prod.mk.inj (List.mem_singleton.mp (mem_of_child? hheld))
    exact Or.inr ⟨rest, rfl, hat⟩

/-- All names on the way to a node in a proper tree are names of entries. -/
theorem Proper.isName_of_at? {node found : Node} {names : List String} (h : node.Proper)
    (hat : node.at? names = some found) : ∀ name ∈ names, Path.IsName name := by
  induction names generalizing node with
  | nil => exact fun _ hname => absurd hname List.not_mem_nil
  | cons name rest ih =>
    cases h with
    | file | special => exact nomatch hat
    | directory _ named below =>
      obtain ⟨held, hheld, hat⟩ := Option.bind_eq_some_iff.mp hat
      have hmem := mem_of_child? hheld
      exact List.forall_mem_cons.mpr ⟨named _ hmem, ih (below _ hmem) hat⟩

/-! ## Listing in another order -/

/-- The same tree, with the entries of every directory in any order. -/
inductive Relisted : Node → Node → Prop
  | file (content : Content) : Relisted (.file content) (.file content)
  | directory {entries listed : List (String × Node)}
      (names : (entries.map (·.1)).Perm (listed.map (·.1)))
      (nodes : ∀ name node held, child? name entries = some node →
        child? name listed = some held → Relisted node held) :
      Relisted (.directory entries) (.directory listed)
  | special (reading : Except FileFault Content) : Relisted (.special reading) (.special reading)

namespace Relisted

/-- What the new listing has under a name, the old one had there. -/
theorem child?_eq_some {entries listed : List (String × Node)} {name : String} {held : Node}
    (h : Relisted (.directory entries) (.directory listed))
    (hheld : child? name listed = some held) :
    ∃ node, child? name entries = some node ∧ Relisted node held := by
  cases h with
  | directory names nodes =>
    have hmem := names.mem_iff.mpr (exists_child?_iff.mp ⟨held, hheld⟩)
    obtain ⟨node, hnode⟩ := exists_child?_iff.mpr hmem
    exact ⟨node, hnode, nodes name node held hnode hheld⟩

/-- A name that the new listing has not, the old one had not. -/
theorem child?_eq_none {entries listed : List (String × Node)} {name : String}
    (h : Relisted (.directory entries) (.directory listed)) (hnone : child? name listed = none) :
    child? name entries = none := by
  cases h with
  | directory names =>
    cases hnode : child? name entries with
    | none => rfl
    | some node =>
      have hmem := names.mem_iff.mp (exists_child?_iff.mp ⟨node, hnode⟩)
      obtain ⟨held, hheld⟩ := exists_child?_iff.mpr hmem
      exact nomatch hnone.symm.trans hheld

variable {node other : Node}

/-- Relisted trees have the same at each place. -/
theorem at?_eq_some (h : Relisted node other) {names : List String} {held : Node}
    (hat : other.at? names = some held) :
    ∃ found, node.at? names = some found ∧ Relisted found held := by
  induction names generalizing node other with
  | nil =>
    obtain rfl := Option.some.inj hat
    exact ⟨node, rfl, h⟩
  | cons name rest ih =>
    cases h with
    | file | special => exact nomatch hat
    | directory names nodes =>
      obtain ⟨below, hbelow, hat⟩ := Option.bind_eq_some_iff.mp hat
      obtain ⟨start, hstart, hrelisted⟩ := (directory names nodes).child?_eq_some hbelow
      obtain ⟨found, hfound, hheld⟩ := ih hrelisted hat
      exact ⟨found, Option.bind_eq_some_iff.mpr ⟨start, hstart, hfound⟩, hheld⟩

theorem refl (node : Node) : Relisted node node := by
  induction node using Node.induction with
  | file content => exact .file content
  | special reading => exact .special reading
  | directory entries ih =>
    refine .directory (.refl _) fun name node held hnode hheld => ?_
    obtain rfl := Option.some.inj (hnode.symm.trans hheld)
    exact ih _ (mem_of_child? hnode)

/-- A directory may list its entries in any order. -/
theorem of_perm {entries listed : List (String × Node)} (distinct : (entries.map (·.1)).Nodup)
    (h : entries.Perm listed) : Relisted (.directory entries) (.directory listed) := by
  refine .directory (h.map _) fun name node held hnode hheld => ?_
  have hmem := h.mem_iff.mpr (mem_of_child? hheld)
  obtain rfl := Option.some.inj (hnode.symm.trans ((child?_eq_some_iff distinct).mpr hmem))
  exact refl node

theorem singleton (name : String) (h : Relisted node other) :
    Relisted (.directory [(name, node)]) (.directory [(name, other)]) := by
  refine .directory (.refl _) fun name' found held hfound hheld => ?_
  obtain ⟨-, rfl⟩ := Prod.mk.inj (List.mem_singleton.mp (mem_of_child? hfound))
  obtain ⟨-, rfl⟩ := Prod.mk.inj (List.mem_singleton.mp (mem_of_child? hheld))
  exact h

theorem symm (h : Relisted node other) : Relisted other node := by
  induction node using Node.induction generalizing other with
  | file content =>
    cases h
    exact .file content
  | special reading =>
    cases h
    exact .special reading
  | directory entries ih =>
    cases h with
    | directory names nodes =>
      refine .directory names.symm fun name held below hheld hbelow => ?_
      exact ih _ (mem_of_child? hbelow) (nodes name below held hbelow hheld)

/-- A proper tree is proper in any order. -/
theorem proper (h : Relisted node other) (hproper : node.Proper) : other.Proper := by
  induction node using Node.induction generalizing other with
  | file | special =>
    cases h
    exact hproper
  | directory entries ih =>
    cases h with
    | directory names nodes =>
      cases hproper with
      | directory distinct named below =>
        have hdistinct := names.nodup_iff.mp distinct
        refine .directory hdistinct (fun entry hmem => ?_) fun entry hmem => ?_ <;>
          obtain ⟨node, hnode, hrelisted⟩ := (directory names nodes).child?_eq_some
            ((child?_eq_some_iff hdistinct).mpr hmem)
        · exact named (entry.1, node) (mem_of_child? hnode)
        · have hmem : (entry.1, node) ∈ entries := mem_of_child? hnode
          exact ih _ hmem hrelisted (below _ hmem)

end Relisted

end Node

namespace Files

/-- Two trees of files that are the same but for the order in which directories list their
    entries. -/
structure Relisted (files other : Files) : Prop where
  root : Node.Relisted files.root other.root
  working : other.working = files.working

/-- Two lookups that fail alike or find the same, relisted. -/
inductive Alike {α : Type} (related : α → α → Prop) : Except FileFault α → Except FileFault α → Prop
  | error (fault : FileFault) : Alike related (.error fault) (.error fault)
  | ok {found other : α} (h : related found other) : Alike related (.ok found) (.ok other)

theorem step_alike (name : String) {here there : List Node}
    (h : List.Forall₂ Node.Relisted here there) :
    Alike (List.Forall₂ Node.Relisted) (step name here) (step name there) := by
  cases h with
  | nil => exact .error _
  | cons hnode habove =>
    cases hnode with
    | file | special => exact .error _
    | @directory entries listed names nodes =>
      have hnode := Node.Relisted.directory names nodes
      dsimp only [step]
      by_cases hhere : name = "" ∨ name = "."
      · rw [if_pos hhere, if_pos hhere]
        exact .ok (.cons hnode habove)
      rw [if_neg hhere, if_neg hhere]
      by_cases htop : name = ".."
      · rw [if_pos htop, if_pos htop]
        cases habove with
        | nil => exact .ok (.cons hnode .nil)
        | cons hfirst hrest => exact .ok (.cons hfirst hrest)
      rw [if_neg htop, if_neg htop]
      split
      case isTrue => exact .error _
      cases hheld : Node.child? name listed with
      | none =>
        rw [hnode.child?_eq_none hheld]
        exact .error _
      | some held =>
        obtain ⟨node, hfound, hrelisted⟩ := hnode.child?_eq_some hheld
        rw [hfound]
        exact .ok (.cons hrelisted (.cons hnode habove))

theorem steps_alike (names : List String) {here there : List Node}
    (h : List.Forall₂ Node.Relisted here there) :
    Alike (List.Forall₂ Node.Relisted) (steps names here) (steps names there) := by
  induction names generalizing here there with
  | nil => exact .ok h
  | cons name rest ih =>
    have hstep := step_alike name h
    dsimp only [steps]
    generalize step name here = found at hstep ⊢
    generalize step name there = other at hstep ⊢
    cases hstep with
    | error fault => exact .error fault
    | ok hnext => exact ih hnext

/-- Relisted trees have the same at each path. -/
theorem Relisted.node_alike {files other : Files} (h : files.Relisted other) (path : String) :
    Alike Node.Relisted (files.node path) (other.node path) := by
  have hstart : other.start path = files.start path := by
    unfold start
    rw [h.working]
  have hroots : List.Forall₂ Node.Relisted [files.root] [other.root] := .cons h.root .nil
  have hsteps := steps_alike (files.start path ++ Path.segments path) hroots
  unfold node
  rw [hstart]
  split_ifs
  case pos => exact .error _
  case pos => exact .error _
  case pos => exact .error _
  generalize steps _ [files.root] = found at hsteps ⊢
  generalize steps _ [other.root] = there at hsteps ⊢
  cases hsteps with
  | error fault => exact .error fault
  | ok hfound =>
    cases hfound with
    | nil => exact .error _
    | cons hnode => exact .ok hnode

/-- Where a tree has a directory, a relisted tree has the directory relisted. -/
theorem Relisted.exists_directory {files other : Files} {path : String}
    {entries : List (String × Node)} (h : files.Relisted other)
    (hnode : files.node path = .ok (.directory entries)) :
    ∃ listed, other.node path = .ok (.directory listed) ∧
      Node.Relisted (.directory entries) (.directory listed) := by
  have halike := h.node_alike path
  rw [hnode] at halike
  generalize other.node path = found at halike ⊢
  cases halike with
  | ok hfound =>
    cases hfound with
    | directory names nodes => exact ⟨_, rfl, .directory names nodes⟩

/-- What is found at a path has a path that is short enough. -/
theorem fits_of_node {files : Files} {path : String} {found : Node}
    (h : files.node path = .ok found) : Path.fits path = true := by
  by_contra hfits
  -- a path that is too long is refused before anything is looked up
  unfold node at h
  split_ifs at h
  simp_all

theorem fits_of_append {before path : String} (h : Path.fits (before ++ path) = true) :
    Path.fits path = true := by
  unfold Path.fits at h ⊢
  rw [decide_eq_true_eq] at h ⊢
  rw [String.utf8ByteSize_append] at h
  omega

theorem steps_here {names : List String} (h : names ≠ []) (before : List String)
    (here : List Node) :
    steps (before ++ "." :: names) here = steps (before ++ names) here := by
  induction before generalizing here with
  | nil =>
    obtain ⟨name, rest, rfl⟩ := List.exists_cons_of_ne_nil h
    rcases here with _ | ⟨_ | _ | _, above⟩ <;> rfl
  | cons name rest ih => simp only [List.cons_append, steps, ih]

/-- A step that leads nowhere does not change what is found at a path. -/
theorem node_here (files : Files) {path : String} (hne : path ≠ "")
    (hrelative : Path.isAbsolute path = false) (hfits : Path.fits ("./" ++ path) = true) :
    files.node ("./" ++ path) = files.node path := by
  have hdotted : Path.isAbsolute ("./" ++ path) = false := by simp [Path.isAbsolute]
  have hsegments : Path.segments ("./" ++ path) = "." :: Path.segments path := by
    have hsplit := Path.splitSlashes_append ['.'] path.toList
    unfold Path.segments
    rw [String.toList_append]
    exact congrArg (List.map String.ofList) hsplit
  have hsome : Path.segments path ≠ [] := fun h =>
    Path.splitSlashes_ne_nil path.toList (List.map_eq_nil_iff.mp h)
  have hnul : ("./" ++ path).toList.contains '\x00' = path.toList.contains '\x00' := by simp
  have hempty : ("./" ++ path).isEmpty = path.isEmpty := by
    rw [Bool.eq_iff_iff, String.isEmpty_iff, String.isEmpty_iff]
    simp [hne]
  unfold node start
  rw [hdotted, hrelative, hsegments, hfits, fits_of_append hfits, steps_here hsome, hnul, hempty]

/-- Every directory at or below a node at a path can be looked up. -/
def Readable (files : Files) (path : String) (node : Node) : Prop :=
  ∀ names entries, node.at? names = some (.directory entries) →
    files.isDirectory (names.foldl Path.join path) = true

namespace Readable

variable {files : Files} {path : String}

theorem entry {entries : List (String × Node)} {name : String} {node : Node}
    (h : files.Readable path (.directory entries)) (hnode : Node.child? name entries = some node) :
    files.Readable (Path.join path name) node :=
  fun names held hat => h (name :: names) held (Option.bind_eq_some_iff.mpr ⟨node, hnode, hat⟩)

/-- A directory that can be looked up has a path that is short enough. -/
theorem fits {entries : List (String × Node)} (h : files.Readable path (.directory entries)) :
    Path.fits path = true := by
  have hdirectory : files.isDirectory path = true := h [] entries rfl
  unfold isDirectory at hdirectory
  split at hdirectory
  case h_1 hnode => exact fits_of_node hnode
  case h_2 => exact absurd hdirectory Bool.false_ne_true

end Readable

end Files

end Winnow
