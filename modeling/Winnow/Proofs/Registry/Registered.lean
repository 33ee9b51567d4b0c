import Mathlib.Data.List.Induction
import Mathlib.Data.List.Pairwise
import Winnow.Proofs.Session.Runs
import Winnow.Registry

/-!
# `Winnow.Proofs.Registry.Registered` — what calls leave in a registry

A registry is filled by calls, of which each names a key and gives a source for it. A call without a
table name is refused. All others write to the registry, and under every key the last of them
counts: this is what every look-up answers from, and what the registry lists in the order of its
keys.

## Contents
- **`TableKey.Before`**, **`order_eq_lt_iff`**: the order of keys in words.
- **`mem_insertEntry_iff`**, **`lookup?_eq_some_iff`**, **`lookup?_insert_iff`**: the entries as a
  map.
- **`Registration`** with **`Registration.on`**, **`afterCalls`**: calls one after the other.
- **`lastSource`**, **`mem_entries_afterCalls`**: what they leave under a key.
- **`afterCalls_lookups`**: what the registry answers then; **`afterCalls_lookups_sales`**: four
  calls.
-/

namespace Winnow

/-! ## Keys in order -/

namespace TableKey

/-- Keys without a dashboard come first, then those of the dashboards in order; keys of one
    dashboard, or without one, come by their table names. -/
def Before (a b : TableKey) : Prop :=
  match a.dashboard, b.dashboard with
  | none, none => a.table < b.table
  | none, some _ => True
  | some _, none => False
  | some d, some e => d < e ∨ d = e ∧ a.table < b.table

theorem compare_strings_eq_lt_iff {s t : String} : compare s t = .lt ↔ s < t :=
  compareOfLessAndEq_eq_lt

theorem order_eq_lt_iff {a b : TableKey} : a.order b = .lt ↔ a.Before b := by
  obtain ⟨dashboard, table⟩ := a
  obtain ⟨dashboard', table'⟩ := b
  show ((compare dashboard dashboard').then (compare table table')) = .lt ↔ _
  rw [Ordering.then_eq_lt]
  cases dashboard with
  | none =>
    cases dashboard' with
    | none =>
      -- keys without a dashboard are told apart by their tables
      show Ordering.eq = .lt ∨ Ordering.eq = .eq ∧ compare table table' = .lt ↔ table < table'
      rw [compare_strings_eq_lt_iff]
      simp
    | some e => exact iff_of_true (Or.inl rfl) trivial
  | some d =>
    cases dashboard' with
    | none => exact iff_of_false (fun h => h.elim nofun fun h => nomatch h.1) id
    | some e =>
      show compare d e = .lt ∨ compare d e = .eq ∧ compare table table' = .lt ↔
        d < e ∨ d = e ∧ table < table'
      rw [compare_strings_eq_lt_iff, compare_strings_eq_lt_iff, Std.compare_eq_iff_eq]

theorem ne_of_order_lt {a b : TableKey} (h : a.order b = .lt) : a ≠ b := by
  rintro rfl
  have hself : a.order a = .eq := Std.ReflCmp.compare_self
  rw [hself] at h
  cases h

end TableKey

namespace Registry

open Winnow.Action

/-! ## Entries as a map -/

/-- What is put in is there, with everything of another key that was there before. -/
theorem mem_insertEntry_iff {key : TableKey} {source : Source} {entry : TableKey × Source}
    {entries : List (TableKey × Source)}
    (h : entries.Pairwise fun a b => a.1.order b.1 = .lt) :
    entry ∈ insertEntry key source entries ↔
      entry = (key, source) ∨ entry ∈ entries ∧ entry.1 ≠ key := by
  induction entries with
  | nil =>
    rw [insertEntry, List.mem_singleton]
    simp
  | cons first rest ih =>
    obtain ⟨held, old⟩ := first
    obtain ⟨hfirst, hrest⟩ := List.pairwise_cons.mp h
    unfold insertEntry
    split
    · -- everything that was there has a key behind the new one
      rename_i hlt
      have hothers : ∀ other ∈ (held, old) :: rest, other.1 ≠ key := by
        refine List.forall_mem_cons.mpr ⟨(TableKey.ne_of_order_lt hlt).symm, fun other hmem => ?_⟩
        exact (TableKey.ne_of_order_lt (Std.TransCmp.lt_trans hlt (hfirst other hmem))).symm
      rw [List.mem_cons]
      exact or_congr_right (iff_self_and.mpr (hothers entry))
    · -- the entry of the same key goes, and what follows it has other keys
      rename_i heq
      obtain rfl := Std.LawfulEqCmp.eq_of_compare heq
      have hothers : ∀ other ∈ rest, other.1 ≠ key :=
        fun other hmem => (TableKey.ne_of_order_lt (hfirst other hmem)).symm
      rw [List.mem_cons]
      refine or_congr_right ⟨fun hmem => ⟨List.mem_cons_of_mem _ hmem, hothers entry hmem⟩, ?_⟩
      rintro ⟨hmem, hne⟩
      rcases List.mem_cons.mp hmem with rfl | hmem
      · exact absurd rfl hne
      · exact hmem
    · rename_i hgt
      have hheld : held ≠ key := TableKey.ne_of_order_lt (Std.OrientedCmp.gt_iff_lt.mp hgt)
      rw [List.mem_cons, ih hrest, List.mem_cons]
      constructor
      · rintro (rfl | rfl | ⟨hmem, hne⟩)
        · exact Or.inr ⟨Or.inl rfl, hheld⟩
        · exact Or.inl rfl
        · exact Or.inr ⟨Or.inr hmem, hne⟩
      · rintro (rfl | ⟨rfl | hmem, hne⟩)
        · exact Or.inr (Or.inl rfl)
        · exact Or.inl rfl
        · exact Or.inr (Or.inr ⟨hmem, hne⟩)

/-- Entries of one key are the same. -/
theorem eq_of_mem_entries {registry : Registry} {a b : TableKey × Source}
    (ha : a ∈ registry.entries) (hb : b ∈ registry.entries) (h : a.1 = b.1) : a = b := by
  have hne : registry.entries.Pairwise fun a b => a.1 ≠ b.1 :=
    registry.ascending.imp TableKey.ne_of_order_lt
  have hsymm : Std.Symm fun a b : TableKey × Source => a.1 ≠ b.1 := ⟨fun _ _ => Ne.symm⟩
  by_contra hab
  exact hne.forall ha hb hab h

/-- Looking up a key finds its entry. -/
theorem lookup?_eq_some_iff {registry : Registry} {key : TableKey} {source : Source} :
    registry.lookup? key = some source ↔ (key, source) ∈ registry.entries := by
  rw [lookup?, Option.map_eq_some_iff]
  constructor
  · rintro ⟨entry, hfind, rfl⟩
    have hkey : entry.1 = key := by simpa using List.find?_some hfind
    rw [← hkey]
    exact List.mem_of_find?_eq_some hfind
  · intro hmem
    obtain ⟨entry, hfind⟩ : ∃ entry, registry.entries.find? (fun entry => entry.1 = key) =
        some entry := by
      rw [← Option.isSome_iff_exists, List.find?_isSome]
      exact ⟨_, hmem, decide_eq_true rfl⟩
    have hkey : entry.1 = key := by simpa using List.find?_some hfind
    have hsame := eq_of_mem_entries (List.mem_of_find?_eq_some hfind) hmem hkey
    exact ⟨entry, hfind, by rw [hsame]⟩

/-- Putting in a source changes what its key finds, and nothing else. -/
theorem lookup?_insert_iff {registry : Registry} {key other : TableKey} {source found : Source} :
    (registry.insert key source).lookup? other = some found ↔
      other = key ∧ found = source ∨ registry.lookup? other = some found ∧ other ≠ key := by
  rw [lookup?_eq_some_iff, lookup?_eq_some_iff]
  show _ ∈ insertEntry key source _ ↔ _
  rw [mem_insertEntry_iff registry.ascending, Prod.mk.injEq]

/-! ## Calls one after the other -/

/-- A call that registers a source under a table name and a dashboard. -/
structure Registration where
  table : String
  dashboard : Option String
  source : Source

/-- The key that a call names. -/
def Registration.key (call : Registration) : TableKey := ⟨call.dashboard, call.table⟩

/-- A call on the registry and the session that are there: its result, and what is there after it. A
    call that fails gives no registry, and the one from before stays. -/
def Registration.on (call : Registration) (registry : Registry) (session : Session) :
    Except Error Unit × Registry × Session :=
  match (registry.register call.table call.dashboard call.source).runOn session with
  | (.ok registry, after) => (.ok (), registry, after)
  | (.error e, after) => (.error e, registry, after)

/-- The registry and the session after calls, one after the other. -/
def afterCalls (calls : List Registration) (session : Session) : Registry × Session :=
  calls.foldl (fun state call => (call.on state.1 state.2).2) (empty, session)

/-- The source of the last call with a table name that gives one for a key. -/
def lastSource (calls : List Registration) (key : TableKey) : Option Source :=
  ((calls.filter fun call => call.table ≠ "" ∧ call.key = key).getLast?).map (·.source)

/-- **One call.** Without a table name it is refused and changes nothing. Otherwise it puts its
    source in the place of its key, and is logged. -/
theorem on_eq (call : Registration) (registry : Registry) (session : Session) :
    call.on registry session =
      if call.table = "" then (.error (.badRequest .tableNameMissing), registry, session)
      else (.ok (), registry.insert call.key call.source,
        { session with
          log := .tableRegistered call.key call.source.schema.length :: session.log }) := by
  unfold Registration.on register TableKey.make
  by_cases htable : call.table = ""
  · rw [if_pos htable, if_pos htable]
    rfl
  · rw [if_neg htable, if_neg htable]
    rfl

theorem lastSource_concat (calls : List Registration) (call : Registration) (key : TableKey) :
    lastSource (calls ++ [call]) key =
      if call.table ≠ "" ∧ call.key = key then some call.source else lastSource calls key := by
  unfold lastSource
  rw [List.filter_append, List.filter_singleton]
  split
  · rename_i h
    simp [h]
  · rename_i h
    simp [h]

/-- **The entries after calls** are the last sources of all keys. -/
theorem mem_entries_afterCalls {calls : List Registration} {session : Session} {key : TableKey}
    {source : Source} :
    (key, source) ∈ (afterCalls calls session).1.entries ↔ lastSource calls key = some source := by
  induction calls using List.reverseRecOn with
  | nil => simp [afterCalls, empty, lastSource]
  | append_singleton calls call ih =>
    rw [afterCalls, List.foldl_concat, on_eq, lastSource_concat]
    by_cases htable : call.table = ""
    · rw [if_pos htable, if_neg fun h => h.1 htable]
      exact ih
    · rw [if_neg htable]
      show _ ∈ insertEntry call.key call.source _ ↔ _
      rw [mem_insertEntry_iff (Registry.ascending _)]
      by_cases hkey : call.key = key
      · rw [if_pos ⟨htable, hkey⟩, hkey]
        simp [eq_comm]
      · rw [if_neg fun h => hkey h.2, ← ih]
        simp [Ne.symm hkey, afterCalls]

/-- A key has a last source if some call with a table name gave one for it. -/
theorem exists_lastSource_iff {calls : List Registration} {key : TableKey} :
    (∃ source, lastSource calls key = some source) ↔
      ∃ call ∈ calls, call.table ≠ "" ∧ call.key = key := by
  unfold lastSource
  rw [← Option.isSome_iff_exists, Option.isSome_map, List.getLast?_isSome, Ne,
    List.filter_eq_nil_iff]
  simp

theorem lookup?_afterCalls (calls : List Registration) (session : Session) (key : TableKey) :
    (afterCalls calls session).1.lookup? key = lastSource calls key :=
  Option.ext fun _ => lookup?_eq_some_iff.trans mem_entries_afterCalls

/-! ## Answers -/

/-- The tables that are found, unless there is none. -/
def orNoTables (dashboard : Option String) (found : List (TableKey × Source)) :
    Except Error (List (TableKey × Source)) :=
  if found.isEmpty then .error (.noTables dashboard) else .ok found

theorem orNoTables_eq_ok_iff {dashboard : Option String} {found result : List (TableKey × Source)} :
    orNoTables dashboard found = .ok result ↔ found ≠ [] ∧ found = result := by
  cases found with
  | nil => exact iff_of_false (fun h => by cases h) fun h => h.1 rfl
  | cons entry rest => simp [orNoTables]

theorem orNoTables_eq_error_iff {dashboard : Option String} {found : List (TableKey × Source)}
    {e : Error} : orNoTables dashboard found = .error e ↔ found = [] ∧ .noTables dashboard = e := by
  cases found <;> simp [orNoTables]

/-- A request without a table finds the tables of its dashboard, or all of them. -/
theorem servers_none (registry : Registry) (dashboard : Option String) :
    registry.servers none dashboard = orNoTables dashboard
      (registry.entries.filter fun entry =>
        dashboard.isNone || entry.1.dashboard = dashboard) := by
  unfold servers orNoTables
  dsimp only
  split
  · rename_i hfound
    rw [hfound]
    rfl
  · rename_i hfound
    rw [if_neg (by simpa using hfound)]

/-- A table is found under its key. -/
theorem server_eq (registry : Registry) (table : String) (dashboard : Option String) :
    registry.server table dashboard =
      if table = "" then .error (.badRequest .tableNameMissing)
      else match registry.lookup? ⟨dashboard, table⟩ with
        | some source => .ok source
        | none => .error (.unknownTable ⟨dashboard, table⟩) := by
  unfold server TableKey.make
  split
  · rfl
  · rfl

/-- A request for a table finds that one alone. -/
theorem servers_some (registry : Registry) (table : String) (dashboard : Option String) :
    registry.servers (some table) dashboard =
      (registry.server table dashboard).map fun source => [(⟨dashboard, table⟩, source)] := by
  unfold servers TableKey.make
  dsimp only
  rw [server_eq]
  by_cases htable : table = ""
  · rw [if_pos htable]
    rfl
  · rw [if_neg htable, if_neg htable]
    cases registry.lookup? ⟨dashboard, table⟩ with
    | none => rfl
    | some source => rfl

/-- **A registry is a map in which the last write counts.** After any calls, one more without a
    table name is refused and changes nothing, and every other one succeeds. A table is found with
    the source of the last call for its name and dashboard, no dashboard being different from an
    empty one, and is unknown if there was none. The keys of all calls with a table name are listed
    once each, in their order, with the schemas of their last sources. A request without a table
    finds the tables of its dashboard, or all of them, and fails if there is none; one with a table
    finds it alone. -/
theorem afterCalls_lookups (calls : List Registration) (session : Session) :
    let registry := (afterCalls calls session).1
    let after := (afterCalls calls session).2
    (∀ dashboard source, (Registration.mk "" dashboard source).on registry after =
      (.error (.badRequest .tableNameMissing), registry, after)) ∧
    (∀ call : Registration, (call.on registry after).1 =
      if call.table = "" then .error (.badRequest .tableNameMissing) else .ok ()) ∧
    (∀ table dashboard, registry.server table dashboard =
      if table = "" then .error (.badRequest .tableNameMissing)
      else match lastSource calls ⟨dashboard, table⟩ with
        | some source => .ok source
        | none => .error (.unknownTable ⟨dashboard, table⟩)) ∧
    (∀ table dashboard, registry.servers (some table) dashboard =
      (registry.server table dashboard).map fun source => [(⟨dashboard, table⟩, source)]) ∧
    ∃ whole : List (TableKey × Source),
      (whole.Pairwise fun a b => a.1.Before b.1) ∧
      (∀ key source, (key, source) ∈ whole ↔ lastSource calls key = some source) ∧
      (∀ key, (∃ source, (key, source) ∈ whole) ↔
        ∃ call ∈ calls, call.table ≠ "" ∧ call.key = key) ∧
      registry.tables = whole.map (fun entry => (entry.1, entry.2.schema)) ∧
      registry.servers none none = orNoTables none whole ∧
      ∀ dashboard, registry.servers none (some dashboard) = orNoTables (some dashboard)
        (whole.filter fun entry => entry.1.dashboard = some dashboard) := by
  intro registry after
  refine ⟨fun dashboard source => on_eq _ registry after, fun call => ?_, fun table dashboard => ?_,
    servers_some registry, registry.entries, ?_, ?_, ?_, rfl, ?_, fun dashboard => ?_⟩
  · rw [on_eq]
    split
    · rfl
    · rfl
  · rw [server_eq, lookup?_afterCalls]
  · exact registry.ascending.imp TableKey.order_eq_lt_iff.mp
  · exact fun key source => mem_entries_afterCalls
  · intro key
    rw [← exists_lastSource_iff]
    exact exists_congr fun source => mem_entries_afterCalls
  · rw [servers_none]
    simp
  · rw [servers_none]
    simp

/-- A source without columns. -/
def plainSource (id : Nat) : Source := ⟨id, [], .memory []⟩

/-- Two calls for the empty dashboard, one without a dashboard and one without a table name. -/
def salesCalls : List Registration :=
  [⟨"sales", some "", plainSource 0⟩, ⟨"", none, plainSource 1⟩, ⟨"sales", none, plainSource 2⟩,
    ⟨"sales", some "", plainSource 3⟩]

/-- The empty dashboard is one of its own, where the first source was replaced, and the nameless
    call left no trace. -/
theorem afterCalls_lookups_sales :
    let registry := (afterCalls salesCalls Session.fresh).1
    registry.server "sales" (some "") = .ok (plainSource 3) ∧
    registry.server "sales" none = .ok (plainSource 2) ∧
    registry.server "costs" none = .error (.unknownTable ⟨none, "costs"⟩) ∧
    registry.servers none (some "north") = .error (.noTables (some "north")) := by
  obtain ⟨-, -, hserver, -, whole, -, hmem, -, -, -, hservers⟩ :=
    afterCalls_lookups salesCalls Session.fresh
  refine ⟨hserver "sales" (some ""), hserver "sales" none, hserver "costs" none, ?_⟩
  rw [hservers, orNoTables_eq_error_iff]
  refine ⟨List.filter_eq_nil_iff.mpr fun entry hentry hnorth => ?_, rfl⟩
  -- every key has a last source, and no call names this dashboard
  have hlast := (hmem entry.1 entry.2).mp hentry
  obtain ⟨call, hcall, _, hkey⟩ := exists_lastSource_iff.mp ⟨_, hlast⟩
  have hnone : ∀ call ∈ salesCalls, call.dashboard ≠ some "north" := by decide
  exact hnone call hcall ((congrArg TableKey.dashboard hkey).trans (of_decide_eq_true hnorth))

end Registry

end Winnow
