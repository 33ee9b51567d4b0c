import Winnow.Files.Discovery

/-!
# `Winnow.Proofs.Files.Names` — names along paths

The path of an entry has the components of its directory and behind them the name of the entry. A
table file is told by what stands behind the last dot of its name, if anything stands before it.

## Contents
- **`Path.IsName`**: the names that the entries of a directory can have.
- **`Path.components_foldl_join`**: the components of a path along names.
- **`Path.splitName_eq_iff`**: the two parts of a name; **`Path.extension?_eq_some_iff`**,
  **`Path.stem?_of_fileName?`**: those of the file name of a path.
- **`Discovery.isTableName_iff`**: the names of table files.
-/

namespace Winnow

namespace Path

/-- The names that the entries of a directory can have: all texts without a slash but the empty one
    and those that stand for the directory itself or the one above it. -/
structure IsName (name : String) : Prop where
  ne_empty : name ≠ ""
  ne_here : name ≠ "."
  ne_above : name ≠ ".."
  no_slash : '/' ∉ name.toList

instance (name : String) : Decidable (IsName name) :=
  decidable_of_iff (name ≠ "" ∧ name ≠ "." ∧ name ≠ ".." ∧ '/' ∉ name.toList)
    ⟨fun ⟨h, hhere, habove, hslash⟩ => ⟨h, hhere, habove, hslash⟩,
      fun ⟨h, hhere, habove, hslash⟩ => ⟨h, hhere, habove, hslash⟩⟩

/-! ## Components -/

theorem splitSlashes_ne_nil (text : List Char) : splitSlashes text ≠ [] := by
  cases text with
  | nil => exact List.cons_ne_nil _ _
  | cons c rest =>
    unfold splitSlashes
    split
    · exact List.cons_ne_nil _ _
    · split <;> exact List.cons_ne_nil _ _

/-- A slash ends a name, and the next one starts behind it. -/
theorem splitSlashes_append (before behind : List Char) :
    splitSlashes (before ++ '/' :: behind) = splitSlashes before ++ splitSlashes behind := by
  induction before with
  | nil =>
    obtain ⟨first, others, hsplit⟩ := List.exists_cons_of_ne_nil (splitSlashes_ne_nil behind)
    simp [splitSlashes, hsplit]
  | cons c rest ih =>
    obtain ⟨first, others, hsplit⟩ := List.exists_cons_of_ne_nil (splitSlashes_ne_nil rest)
    rw [List.cons_append, splitSlashes, splitSlashes, ih, hsplit]
    dsimp only [List.cons_append]
    split <;> rfl

theorem splitSlashes_of_no_slash {text : List Char} (h : '/' ∉ text) :
    splitSlashes text = [text] := by
  induction text with
  | nil => rfl
  | cons c rest ih =>
    have hc : c ≠ '/' := fun hc => h (hc ▸ List.mem_cons_self)
    rw [splitSlashes, ih fun hrest => h (List.mem_cons_of_mem c hrest)]
    exact if_neg hc

theorem components_slash (before behind : String) :
    components (before ++ "/" ++ behind) = components before ++ components behind := by
  have hsplit : splitSlashes (before ++ "/" ++ behind).toList =
      splitSlashes before.toList ++ splitSlashes behind.toList := by
    rw [← splitSlashes_append]
    simp
  unfold components segments
  rw [hsplit, List.map_append, List.filter_append]

theorem components_of_isName {name : String} (h : IsName name) : components name = [name] := by
  unfold components segments
  rw [splitSlashes_of_no_slash h.no_slash]
  simp [h.ne_empty, h.ne_here]

theorem isAbsolute_of_isName {name : String} (h : IsName name) : isAbsolute name = false := by
  refine decide_eq_false fun hhead => h.no_slash ?_
  exact List.mem_of_mem_head? hhead

/-- The path of an entry ends in its name. -/
theorem components_join {name : String} (h : IsName name) (path : String) :
    components (join path name) = components path ++ [name] := by
  rw [← components_of_isName h]
  unfold join
  rw [isAbsolute_of_isName h, Bool.false_or]
  split
  case isTrue hempty =>
    rw [String.isEmpty_iff.mp hempty]
    rfl
  split
  case isFalse => exact components_slash path name
  case isTrue hslash =>
    -- The path has its slash already, with an empty name behind it that does not count.
    obtain ⟨before, hbefore⟩ := List.getLast?_eq_some_iff.mp hslash
    have hpath : path = String.ofList before ++ "/" ++ "" := by
      rw [← String.toList_inj]
      simp [hbefore]
    rw [hpath, components_slash]
    have hrest : String.ofList before ++ "/" ++ "" ++ name =
        String.ofList before ++ "/" ++ name := by simp
    rw [hrest, components_slash]
    exact congrArg (· ++ _) (List.append_nil _).symm

/-- The components of a path along names. -/
theorem components_foldl_join {names : List String} (h : ∀ name ∈ names, IsName name)
    (path : String) : components (names.foldl join path) = components path ++ names := by
  induction names generalizing path with
  | nil => exact (List.append_nil _).symm
  | cons name rest ih =>
    obtain ⟨hname, hrest⟩ := List.forall_mem_cons.mp h
    rw [List.foldl_cons, ih hrest, components_join hname, List.append_assoc]
    rfl

/-! ## Extensions -/

/-- The last dot parts a name if there is something before it. -/
theorem splitName_of_dot {stem extension : String} (hstem : stem ≠ "")
    (hdot : '.' ∉ extension.toList) :
    splitName (stem ++ "." ++ extension) = (stem, some extension) := by
  have hreversed : (stem ++ "." ++ extension).toList.reverse =
      extension.toList.reverse ++ '.' :: stem.toList.reverse := by simp
  have hsuffix : (extension.toList.reverse ++ '.' :: stem.toList.reverse).takeWhile (· != '.') =
      extension.toList.reverse := by
    rw [List.takeWhile_append_of_pos]
    · simp
    · intro c hc
      have hc : c ∈ extension.toList := List.mem_reverse.mp hc
      exact bne_iff_ne.mpr fun h => hdot (h ▸ hc)
  obtain ⟨c, before, hbefore⟩ : ∃ c before, stem.toList.reverse = c :: before :=
    List.exists_cons_of_ne_nil (by simpa using hstem)
  unfold splitName
  dsimp only
  rw [hreversed, hsuffix, List.drop_left, hbefore]
  dsimp only
  rw [← hbefore]
  simp

/-- A name with an extension is its stem, the last dot and the extension, and the stem is not
    empty. -/
theorem splitName_eq_iff {name stem extension : String} :
    splitName name = (stem, some extension) ↔
      stem ≠ "" ∧ '.' ∉ extension.toList ∧ name = stem ++ "." ++ extension := by
  constructor
  · intro h
    unfold splitName at h
    dsimp only at h
    have hparts := List.takeWhile_append_dropWhile (p := (· != '.')) (l := name.toList.reverse)
    have hfree := List.all_takeWhile (p := (· != '.')) (l := name.toList.reverse)
    have hstop := List.head?_dropWhile_not (· != '.') name.toList.reverse
    generalize name.toList.reverse.takeWhile (· != '.') = suffix at h hparts hfree
    generalize name.toList.reverse.dropWhile (· != '.') = rest at hparts hstop
    rw [← hparts, List.drop_left] at h
    split at h
    case h_2 => exact nomatch (Prod.mk.inj h).2
    case h_1 dot c before =>
      obtain ⟨rfl, hextension⟩ := Prod.mk.inj h
      obtain rfl := Option.some.inj hextension
      have hdot : dot = '.' := by simpa using hstop
      refine ⟨by simp, ?_, ?_⟩
      · intro hmem
        have hmem : '.' ∈ suffix := by simpa using hmem
        simpa using List.all_eq_true.mp hfree '.' hmem
      · rw [← String.toList_inj, ← List.reverse_inj, ← hparts, hdot]
        simp
  · rintro ⟨hstem, hdot, rfl⟩
    exact splitName_of_dot hstem hdot

/-- The extension of a path stands behind the last dot of its file name. -/
theorem extension?_eq_some_iff {path extension : String} :
    extension? path = some extension ↔
      ∃ stem, stem ≠ "" ∧ '.' ∉ extension.toList ∧
        fileName? path = some (stem ++ "." ++ extension) := by
  unfold extension?
  rw [Option.bind_eq_some_iff]
  constructor
  · rintro ⟨name, hfile, hextension⟩
    obtain ⟨hstem, hdot, hname⟩ := splitName_eq_iff.mp (Prod.ext rfl hextension)
    exact ⟨_, hstem, hdot, hfile.trans (congrArg some hname)⟩
  · rintro ⟨stem, hstem, hdot, hfile⟩
    exact ⟨_, hfile, congrArg Prod.snd (splitName_of_dot hstem hdot)⟩

/-- What stands before that dot is the stem. -/
theorem stem?_of_fileName? {path stem extension : String} (hstem : stem ≠ "")
    (hdot : '.' ∉ extension.toList) (h : fileName? path = some (stem ++ "." ++ extension)) :
    stem? path = some stem := by
  unfold stem?
  rw [h]
  exact congrArg (fun parts => some parts.1) (splitName_of_dot hstem hdot)

theorem fileName?_of_isName {name : String} (h : IsName name) : fileName? name = some name := by
  unfold fileName?
  rw [components_of_isName h]
  split
  case h_1 heq => exact absurd (Option.some.inj heq) h.ne_above
  case h_2 => rfl

end Path

namespace Discovery

/-- **The names of table files.** What stands behind the last dot is one of the two extensions, and
    there is something before it. -/
theorem isTableName_iff {name : String} (h : Path.IsName name) :
    isTableName name = true ↔
      ∃ stem extension, stem ≠ "" ∧ (extension = "json" ∨ extension = "parquet") ∧
        name = stem ++ "." ++ extension := by
  unfold isTableName
  constructor
  · intro htable
    split at htable
    case h_2 => exact nomatch htable
    case h_1 extension hextension =>
      obtain ⟨stem, hstem, -, hname⟩ := Path.extension?_eq_some_iff.mp hextension
      rw [Path.fileName?_of_isName h] at hname
      exact ⟨stem, extension, hstem, by simpa [tableExtensions] using htable,
        Option.some.inj hname⟩
  · rintro ⟨stem, extension, hstem, hextension, hname⟩
    have hdot : '.' ∉ extension.toList := by
      rcases hextension with rfl | rfl <;> decide
    have hfile := Path.fileName?_of_isName h
    rw [hname] at hfile
    rw [hname, Path.extension?_eq_some_iff.mpr ⟨stem, hstem, hdot, hfile⟩]
    simpa [tableExtensions] using hextension

end Discovery

end Winnow
