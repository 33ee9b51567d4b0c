import Winnow.Proofs.Registry.Pulls
import Winnow.Proofs.Session.Alike

/-!
# `Winnow.Proofs.Registry.Isolation` — dashboards do not see each other

A request on a dashboard, or on a table of it, consults the sources under the keys of this dashboard
and no others. So two registries that hold the same sources there, however they were filled and
whatever else is in them, answer it alike, and neither pulls a source that the dashboard does not
have. A request that names a table depends on the one key that it names, with a dashboard or
without.

## Contents
- **`Source.goAlike_rows`**, **`Source.goAlike_allValues`**, **`Source.goAlike_numericSpec`**,
  **`Source.goAlike_retained`**: requests on a source keep to it.
- **`goAlike_filteredRows`**, **`goAlike_allValues`**, **`goAlike_numericSpec`**: requests on
  registries that find the same sources.
- **`server_congr`**, **`servers_some_congr`**, **`servers_dashboard_congr`**: what decides the
  sources that are found.
- **`requests_isolated`**: dashboards and keys; **`requests_isolated_north`**: two histories.
-/

namespace Winnow

open Winnow.Action

/-! ## Requests on a source -/

namespace Source

variable {within : Nat → Prop} {source : Source}

theorem goAlike_rows (h : within source.id) : GoAlike within source.rows source.rows := by
  intro s t halike
  -- the batch depends on the files and on the pulls of this source, which both sessions agree on
  have hs : source.rows.Ends s
      (source.batch s.files (s.pulls.count source.id)) [source.id] := ends_rows
  rw [halike.files, halike.pulls source.id h] at hs
  refine ⟨_, [source.id], hs, ends_rows, fun id hid => ?_⟩
  rw [List.mem_singleton.mp hid]
  exact h

theorem goAlike_allValues (h : within source.id) (column : String) :
    GoAlike within (source.allValues column) (source.allValues column) := by
  rw [allValues_eq]
  split
  · exact goAlike_throw _
  · exact (goAlike_rows h).bind fun rows => goAlike_ofExcept _

theorem goAlike_numericSpec (h : within source.id) (column : String) :
    GoAlike within (source.numericSpec column) (source.numericSpec column) := by
  rw [numericSpec_eq]
  split
  · exact goAlike_throw _
  · exact ((goAlike_allValues h column).adapt _).bind fun values => goAlike_ofExcept _
  · exact goAlike_throw _

theorem goAlike_retained (h : within source.id) (filter : Filter) :
    GoAlike within (source.retained filter) (source.retained filter) :=
  (goAlike_rows h).bind fun _ => (goAlike_ofExcept _).bind fun _ =>
    (goAlike_report _).bind fun _ => goAlike_pure _

end Source

namespace Registry

/-! ## Requests on registries that find the same sources -/

section Requests

variable {within : Nat → Prop} {registry other : Registry} {dashboard : Option String}

theorem goAlike_filteredRows {table : String}
    (hserver : registry.server table dashboard = other.server table dashboard)
    (hwithin : ∀ source, registry.server table dashboard = .ok source → within source.id)
    (text : Option String) :
    GoAlike within (registry.filteredRows table dashboard text)
      (other.filteredRows table dashboard text) := by
  unfold filteredRows
  rw [← hserver]
  refine GoAlike.logged (goAlike_bind_ofExcept fun source hsource => ?_) .filteredRows
  cases text with
  | none => exact Source.goAlike_rows (hwithin source hsource)
  | some text =>
    refine goAlike_bind_ofExcept fun filter _ => ?_
    exact Source.goAlike_retained (hwithin source hsource) filter

variable {table : Option String}

theorem goAlike_allValues
    (hservers : registry.servers table dashboard = other.servers table dashboard)
    (hwithin : ∀ found, registry.servers table dashboard = .ok found →
      ∀ entry ∈ found, within entry.2.id)
    (column : String) :
    GoAlike within (registry.allValues column table dashboard)
      (other.allValues column table dashboard) := by
  rw [allValues_eq, allValues_eq, ← hservers]
  refine GoAlike.logged (goAlike_bind_ofExcept fun found hfound => ?_) .allValues
  have hall : ∀ entry ∈ found.filter fun entry => (entry.2.schema.typeOf? column).isSome,
      within entry.2.id :=
    fun entry hentry => hwithin found hfound entry (List.mem_filter.mp hentry).1
  split
  · exact goAlike_throw _
  · rw [valueLists_eq_mapM]
    refine GoAlike.bind (goAlike_mapM fun entry hentry => ?_) fun lists => goAlike_ofExcept _
    exact Source.goAlike_allValues (hall entry hentry) column

theorem goAlike_numericSpec
    (hservers : registry.servers table dashboard = other.servers table dashboard)
    (hwithin : ∀ found, registry.servers table dashboard = .ok found →
      ∀ entry ∈ found, within entry.2.id)
    (column : String) :
    GoAlike within (registry.numericSpec column table dashboard)
      (other.numericSpec column table dashboard) := by
  rw [numericSpec_eq, numericSpec_eq, ← hservers]
  refine GoAlike.logged (goAlike_bind_ofExcept fun found hfound => ?_) .numericSpec
  dsimp only
  rw [mergedSpecs_eq_mapM]
  refine GoAlike.bind (GoAlike.bind (goAlike_mapM fun entry hentry => ?_) fun _ => goAlike_pure _)
    fun merged => ?_
  · exact Source.goAlike_numericSpec
      (hwithin found hfound entry (List.mem_filter.mp hentry).1) column
  · cases merged with
    | none => exact goAlike_throw _
    | some spec => exact goAlike_pure spec

end Requests

/-! ## The sources that are found -/

section Found

variable {registry other : Registry}

theorem server_congr {table : String} {dashboard : Option String}
    (h : registry.lookup? ⟨dashboard, table⟩ = other.lookup? ⟨dashboard, table⟩) :
    registry.server table dashboard = other.server table dashboard := by
  rw [server_eq, server_eq, h]

theorem servers_some_congr {table : String} {dashboard : Option String}
    (h : registry.lookup? ⟨dashboard, table⟩ = other.lookup? ⟨dashboard, table⟩) :
    registry.servers (some table) dashboard = other.servers (some table) dashboard := by
  rw [servers_some, servers_some, server_congr h]

/-- Entries in the order of their keys are determined by their members. -/
theorem entries_eq_of_mem_iff {xs ys : List (TableKey × Source)}
    (hxs : xs.Pairwise fun a b => a.1.order b.1 = .lt)
    (hys : ys.Pairwise fun a b => a.1.order b.1 = .lt) (h : ∀ entry, entry ∈ xs ↔ entry ∈ ys) :
    xs = ys := by
  have hirrefl : Std.Irrefl fun a b : TableKey × Source => a.1.order b.1 = .lt :=
    ⟨fun a hlt => TableKey.ne_of_order_lt hlt rfl⟩
  have hantisymm : Std.Antisymm fun a b : TableKey × Source => a.1.order b.1 = .lt :=
    ⟨fun a b hlt hgt => absurd rfl (TableKey.ne_of_order_lt (Std.TransCmp.lt_trans hlt hgt))⟩
  exact hxs.eq_of_mem_iff hys h

theorem servers_dashboard_congr {dashboard : String}
    (h : ∀ table, registry.lookup? ⟨some dashboard, table⟩ = other.lookup? ⟨some dashboard, table⟩)
    (table : Option String) :
    registry.servers table (some dashboard) = other.servers table (some dashboard) := by
  cases table with
  | some table => exact servers_some_congr (h table)
  | none =>
    rw [servers_none, servers_none]
    -- the entries of the dashboard are those that are found under its keys
    refine congrArg _ (entries_eq_of_mem_iff (registry.ascending.filter _)
      (other.ascending.filter _) fun entry => ?_)
    obtain ⟨⟨held, table⟩, source⟩ := entry
    rw [List.mem_filter, List.mem_filter, ← lookup?_eq_some_iff, ← lookup?_eq_some_iff]
    refine and_congr_left fun hheld => ?_
    obtain rfl : held = some dashboard := by simpa using hheld
    rw [h table]

end Found

/-! ## Isolation -/

/-- A source is registered under a key. -/
def Under (registry : Registry) (key : TableKey) (id : Nat) : Prop :=
  ∃ source, registry.lookup? key = some source ∧ source.id = id

/-- A source is registered under some key of a dashboard. -/
def OfDashboard (registry : Registry) (dashboard : String) (id : Nat) : Prop :=
  ∃ table, registry.Under ⟨some dashboard, table⟩ id

section Within

variable {registry : Registry} {table : String} {dashboard : Option String}

theorem under_of_server {source : Source} (h : registry.server table dashboard = .ok source) :
    registry.Under ⟨dashboard, table⟩ source.id := by
  rw [server_eq] at h
  split at h
  · cases h
  · split at h
    · rename_i hfound
      cases h
      exact ⟨source, hfound, rfl⟩
    · cases h

theorem under_of_servers {found : List (TableKey × Source)}
    (h : registry.servers (some table) dashboard = .ok found) :
    ∀ entry ∈ found, registry.Under ⟨dashboard, table⟩ entry.2.id := by
  rw [servers_some] at h
  cases hserver : registry.server table dashboard with
  | error e =>
    rw [hserver] at h
    cases h
  | ok source =>
    rw [hserver] at h
    cases h
    intro entry hentry
    rw [List.mem_singleton.mp hentry]
    exact under_of_server hserver

theorem ofDashboard_of_servers {dashboard : String} {table : Option String}
    {found : List (TableKey × Source)} (h : registry.servers table (some dashboard) = .ok found) :
    ∀ entry ∈ found, registry.OfDashboard dashboard entry.2.id := by
  intro entry hentry
  cases table with
  | some table => exact ⟨table, under_of_servers h entry hentry⟩
  | none =>
    rw [servers_none, orNoTables_eq_ok_iff] at h
    obtain ⟨_, rfl⟩ := h
    obtain ⟨⟨held, table⟩, source⟩ := entry
    obtain ⟨hentry, hheld⟩ := List.mem_filter.mp hentry
    obtain rfl : held = some dashboard := by simpa using hheld
    exact ⟨table, source, lookup?_eq_some_iff.mpr hentry, rfl⟩

end Within

/-- **Dashboards are isolated.** If two registries hold the same sources under the keys of a
    dashboard, however each of them was filled, then every request on the dashboard or on a table of
    it goes alike on both: it has the same result, failures included, also when other sources were
    pulled in between, and it pulls sources of this dashboard only. A request that names a table
    depends on the source under the one key that it names, and on nothing else, whether or not the
    key has a dashboard. -/
theorem requests_isolated (registry other : Registry) :
    (∀ dashboard : String,
      (∀ table, registry.lookup? ⟨some dashboard, table⟩ =
        other.lookup? ⟨some dashboard, table⟩) →
      (∀ table text, GoAlike (registry.OfDashboard dashboard)
        (registry.filteredRows table (some dashboard) text)
        (other.filteredRows table (some dashboard) text)) ∧
      (∀ column table, GoAlike (registry.OfDashboard dashboard)
        (registry.allValues column table (some dashboard))
        (other.allValues column table (some dashboard))) ∧
      ∀ column table, GoAlike (registry.OfDashboard dashboard)
        (registry.numericSpec column table (some dashboard))
        (other.numericSpec column table (some dashboard))) ∧
    ∀ (table : String) (dashboard : Option String),
      registry.lookup? ⟨dashboard, table⟩ = other.lookup? ⟨dashboard, table⟩ →
      (∀ text, GoAlike (registry.Under ⟨dashboard, table⟩)
        (registry.filteredRows table dashboard text) (other.filteredRows table dashboard text)) ∧
      (∀ column, GoAlike (registry.Under ⟨dashboard, table⟩)
        (registry.allValues column (some table) dashboard)
        (other.allValues column (some table) dashboard)) ∧
      ∀ column, GoAlike (registry.Under ⟨dashboard, table⟩)
        (registry.numericSpec column (some table) dashboard)
        (other.numericSpec column (some table) dashboard) := by
  refine ⟨fun dashboard hsame => ⟨fun table text => ?_, fun column table => ?_,
    fun column table => ?_⟩, fun table dashboard hsame => ⟨fun text => ?_, fun column => ?_,
    fun column => ?_⟩⟩
  · exact goAlike_filteredRows (server_congr (hsame table))
      (fun source hsource => ⟨table, under_of_server hsource⟩) text
  · exact goAlike_allValues (servers_dashboard_congr hsame table)
      (fun found => ofDashboard_of_servers) column
  · exact goAlike_numericSpec (servers_dashboard_congr hsame table)
      (fun found => ofDashboard_of_servers) column
  · exact goAlike_filteredRows (server_congr hsame) (fun source => under_of_server) text
  · exact goAlike_allValues (servers_some_congr hsame) (fun found => under_of_servers) column
  · exact goAlike_numericSpec (servers_some_congr hsame) (fun found => under_of_servers) column

/-- A live source of sizes. -/
def sizesOfTheDay : Source :=
  Source.ofBatches 0 [⟨"size", .number⟩]
    (Source.lastForEver [.ok [[.integer 1]], .ok [[.integer 2]]])

/-- Calls for a table of a dashboard and one of the same name without a dashboard. -/
def plainHistory : List Registration :=
  [⟨"sales", some "north", sizesOfTheDay⟩, ⟨"sales", none, plainSource 1⟩]

/-- The same table of the dashboard, after another one in its place, beside a call that is refused
    and the table of another dashboard. -/
def longHistory : List Registration :=
  [⟨"sales", some "north", plainSource 2⟩, ⟨"", some "north", plainSource 3⟩,
    ⟨"sales", some "south", plainSource 4⟩, ⟨"sales", some "north", sizesOfTheDay⟩]

/-- What the dashboard answers does not depend on the history, nor on pulls of the other dashboard.
    A table that only has dashboards is not there for a request without one. -/
theorem requests_isolated_north :
    let registry := (afterCalls plainHistory Session.fresh).1
    let other := (afterCalls longHistory Session.fresh).1
    (∃ result pulled,
      (registry.allValues "size" none (some "north")).Ends Session.fresh result pulled ∧
      (other.allValues "size" none (some "north")).Ends { Session.fresh with pulls := [4, 4] }
        result pulled ∧
      ∀ id ∈ pulled, registry.OfDashboard "north" id) ∧
    ∀ text, GoAlike (other.Under ⟨none, "sales"⟩) (other.filteredRows "sales" none text)
      (empty.filteredRows "sales" none text) := by
  intro registry other
  have hnorth : ∀ table,
      registry.lookup? ⟨some "north", table⟩ =
        (if table = "sales" then some sizesOfTheDay else none) ∧
      other.lookup? ⟨some "north", table⟩ =
        (if table = "sales" then some sizesOfTheDay else none) := by
    intro table
    rw [lookup?_afterCalls, lookup?_afterCalls]
    by_cases htable : table = "sales"
    · rw [htable]
      exact ⟨rfl, rfl⟩
    · simp [lastSource, plainHistory, longHistory, Registration.key, htable, Ne.symm htable]
  have halike : Session.fresh.AlikeFor (registry.OfDashboard "north")
      { Session.fresh with pulls := [4, 4] } := by
    refine ⟨rfl, fun id hid => ?_⟩
    obtain ⟨table, source, hsource, rfl⟩ := hid
    rw [(hnorth table).1] at hsource
    split at hsource
    · cases hsource
      rfl
    · cases hsource
  constructor
  · exact ((requests_isolated registry other).1 "north"
      fun table => (hnorth table).1.trans (hnorth table).2.symm).2.1 "size" none _ _ halike
  · exact ((requests_isolated other empty).2 "sales" none rfl).1

end Registry

end Winnow
