import Winnow.Proofs.Registry.Registered
import Winnow.Proofs.Source.Turns

/-!
# `Winnow.Proofs.Registry.Pulls` — which rows a request pulls

A request for rows goes through stages and pulls the rows of its table once, when everything that
can be settled without them is. A request on a column asks the tables that take part one after the
other, each by one pull. So no request pulls a source that it does not need, and none that is
refused before its rows are needed uses up a batch of a live source.

## Contents
- **`RowsEnd`**, **`ends_filteredRows`**: how a request for rows ends.
- **`servers_ascending`**: the tables found are in the order of their keys.
- **`valueLists_eq_mapM`**, **`mergedSpecs_eq_mapM`**: requests on columns ask in turn.
- **`ColumnEnd`**, **`ends_allValues`**, **`ends_numericSpec`**: how a request on a column ends.
- **`requests_pull`**: what the three requests pull; **`allValues_unanswerable`**: no tables, and a
  batch that is used up.
-/

namespace Winnow.Registry

open Winnow.Action

variable {registry : Registry} {session : Session} {table dashboard : Option String}

/-! ## Requests for rows -/

/-- **How a request for rows ends**, stage by stage: the table is looked up, the text decoded, read
    and bound, the rows are pulled, and the filter runs on them. In each case all stages before the
    one that decides have succeeded. -/
inductive RowsEnd (registry : Registry) (files : Files) (pulls : List Nat) (table : String)
    (dashboard : Option String) : Option String → Except Error (List Row) → List Nat → Prop where
  | noTable {text : Option String} {e : Error}
      (server : registry.server table dashboard = .error e) :
      RowsEnd registry files pulls table dashboard text (.error e) []
  | notJson {source : Source} {text : String} {fault : Json.SyntaxError}
      (server : registry.server table dashboard = .ok source)
      (decoded : Json.parse text = .error fault) :
      RowsEnd registry files pulls table dashboard (some text)
        (.error (.badRequest (.badSpec text fault))) []
  | notSpec {source : Source} {text : String} {tree : Json} {e : Error}
      (server : registry.server table dashboard = .ok source)
      (decoded : Json.parse text = .ok tree) (read : Spec.ofJson tree = .error e) :
      RowsEnd registry files pulls table dashboard (some text) (.error e) []
  | notBound {source : Source} {text : String} {tree : Json} {spec : Spec} {e : Error}
      (server : registry.server table dashboard = .ok source)
      (decoded : Json.parse text = .ok tree) (read : Spec.ofJson tree = .ok spec)
      (bound : Filter.compile source.schema.names spec = .error e) :
      RowsEnd registry files pulls table dashboard (some text) (.error e) []
  | noRows {source : Source} {text : String} {tree : Json} {spec : Spec} {filter : Filter}
      {e : Error} (server : registry.server table dashboard = .ok source)
      (decoded : Json.parse text = .ok tree) (read : Spec.ofJson tree = .ok spec)
      (bound : Filter.compile source.schema.names spec = .ok filter)
      (rows : source.batch files (pulls.count source.id) = .error e) :
      RowsEnd registry files pulls table dashboard (some text) (.error e) [source.id]
  | run {source : Source} {text : String} {tree : Json} {spec : Spec} {filter : Filter}
      {pulled : List Row} (server : registry.server table dashboard = .ok source)
      (decoded : Json.parse text = .ok tree) (read : Spec.ofJson tree = .ok spec)
      (bound : Filter.compile source.schema.names spec = .ok filter)
      (rows : source.batch files (pulls.count source.id) = .ok pulled) :
      RowsEnd registry files pulls table dashboard (some text) (filter.retain pulled) [source.id]
  | everyRow {source : Source} (server : registry.server table dashboard = .ok source) :
      RowsEnd registry files pulls table dashboard none
        (source.batch files (pulls.count source.id)) [source.id]

/-- A text that gives no filter ends the request before anything is pulled. -/
theorem RowsEnd.of_filterOf_error {files : Files} {pulls : List Nat} {table : String}
    {source : Source} {text : String} {e : Error}
    (hserver : registry.server table dashboard = .ok source)
    (h : filterOf source text = .error e) :
    RowsEnd registry files pulls table dashboard (some text) (.error e) [] := by
  unfold filterOf at h
  cases hjson : Json.parse text with
  | error fault =>
    rw [hjson] at h
    cases h
    exact .notJson hserver hjson
  | ok tree =>
    rw [hjson] at h
    dsimp only at h
    cases hspec : Spec.ofJson tree with
    | error e' =>
      rw [hspec] at h
      cases h
      exact .notSpec hserver hjson hspec
    | ok spec =>
      rw [hspec] at h
      exact .notBound hserver hjson hspec h

/-- A text that gives a filter has it run on the rows of one pull. -/
theorem RowsEnd.of_filterOf_ok {files : Files} {pulls : List Nat} {table : String}
    {source : Source} {text : String} {filter : Filter}
    (hserver : registry.server table dashboard = .ok source)
    (h : filterOf source text = .ok filter) :
    RowsEnd registry files pulls table dashboard (some text)
      (source.batch files (pulls.count source.id) >>= filter.retain) [source.id] := by
  unfold filterOf at h
  cases hjson : Json.parse text with
  | error fault =>
    rw [hjson] at h
    cases h
  | ok tree =>
    rw [hjson] at h
    obtain ⟨spec, hspec, hbound⟩ := bind_eq_ok_iff.mp h
    cases hrows : source.batch files (pulls.count source.id) with
    | error e => exact .noRows hserver hjson hspec hbound hrows
    | ok rows => exact .run hserver hjson hspec hbound hrows

theorem ends_filteredRows (registry : Registry) (session : Session) (table : String)
    (dashboard text : Option String) :
    ∃ result pulled,
      RowsEnd registry session.files session.pulls table dashboard text result pulled ∧
        (registry.filteredRows table dashboard text).Ends session result pulled := by
  cases hserver : registry.server table dashboard with
  | error e =>
    refine ⟨.error e, [], .noTable hserver, Ends.logged ?_ _⟩
    rw [hserver]
    exact Ends.of_error
  | ok source =>
    cases text with
    | none =>
      refine ⟨_, [source.id], .everyRow hserver, Ends.logged ?_ _⟩
      rw [hserver]
      exact Source.ends_rows.of_ok
    | some text =>
      cases hfilter : filterOf source text with
      | error e =>
        refine ⟨.error e, [], .of_filterOf_error hserver hfilter, Ends.logged ?_ _⟩
        rw [hserver]
        refine Ends.of_ok ?_
        dsimp only
        rw [hfilter]
        exact Ends.of_error
      | ok filter =>
        refine ⟨_, [source.id], .of_filterOf_ok hserver hfilter, Ends.logged ?_ _⟩
        rw [hserver]
        refine Ends.of_ok ?_
        dsimp only
        rw [hfilter]
        exact (Source.ends_retained filter).of_ok

/-! ## Requests on columns -/

/-- The tables that a request consults are in the order of their keys. -/
theorem servers_ascending {found : List (TableKey × Source)}
    (h : registry.servers table dashboard = .ok found) :
    found.Pairwise fun a b => a.1.order b.1 = .lt := by
  cases table with
  | none =>
    rw [servers_none, orNoTables_eq_ok_iff] at h
    obtain ⟨_, rfl⟩ := h
    exact registry.ascending.filter _
  | some table =>
    rw [servers_some] at h
    cases hserver : registry.server table dashboard with
    | error e =>
      rw [hserver] at h
      cases h
    | ok source =>
      rw [hserver] at h
      obtain rfl := Except.ok.inj h
      exact List.pairwise_singleton _ _

theorem valueLists_eq_mapM (column : String) (entries : List (TableKey × Source)) :
    valueLists column entries = entries.mapM fun entry => entry.2.allValues column := by
  induction entries with
  | nil => rfl
  | cons entry rest ih =>
    rw [valueLists_cons, List.mapM_cons, ← ih]

/-- The spec held after one more is found. -/
def widen (held : Option NumericSpec) (spec : NumericSpec) : Option NumericSpec :=
  some ((held.map (·.merge spec)).getD spec)

/-- Merging while asking is asking first and merging from the left then. -/
theorem mergedSpecs_eq_mapM (column : String) (entries : List (TableKey × Source)) :
    ∀ held, mergedSpecs column held entries = do
      let specs ← entries.mapM fun entry => entry.2.numericSpec column
      return specs.foldl widen held := by
  induction entries with
  | nil => exact fun held => rfl
  | cons entry rest ih =>
    intro held
    rw [mergedSpecs_cons, List.mapM_cons]
    simp only [bind_assoc, pure_bind, List.foldl_cons]
    exact congrArg _ (funext fun spec => ih _)

/-- The specs of several tables merged from the left. -/
def mergeSpecs (missing : Error) : List NumericSpec → Except Error NumericSpec
  | [] => .error missing
  | first :: rest => .ok (rest.foldl NumericSpec.merge first)

theorem foldl_widen (specs : List NumericSpec) :
    ∀ held, specs.foldl widen (some held) = some (specs.foldl NumericSpec.merge held) := by
  induction specs with
  | nil => exact fun held => rfl
  | cons spec rest ih => exact fun held => ih (held.merge spec)

/-- **How a request on a column ends.** If the tables that it consults are found, those that take
    part are asked in the order of their keys, and what they answer is put together at the end. -/
inductive ColumnEnd {β γ : Type} (registry : Registry) (pulls : List Nat)
    (table dashboard : Option String) (takesPart : Source → Bool)
    (answer : Source → Nat → Except Error β) (missing : Error)
    (finish : List β → Except Error γ) : Except Error γ → List Nat → Prop where
  | noTables {e : Error} (servers : registry.servers table dashboard = .error e) :
      ColumnEnd registry pulls table dashboard takesPart answer missing finish (.error e) []
  | noneTakesPart {found : List (TableKey × Source)}
      (servers : registry.servers table dashboard = .ok found)
      (none : ∀ entry ∈ found, takesPart entry.2 = false) :
      ColumnEnd registry pulls table dashboard takesPart answer missing finish (.error missing) []
  | asked {found : List (TableKey × Source)} {answers : Except Error (List β)} {pulled : List Nat}
      (servers : registry.servers table dashboard = .ok found)
      (ascending : found.Pairwise fun a b => a.1.order b.1 = .lt)
      (some : ∃ entry ∈ found, takesPart entry.2 = true)
      (inTurn : Asked answer (turns pulls (found.filter fun entry => takesPart entry.2)) answers
        pulled) :
      ColumnEnd registry pulls table dashboard takesPart answer missing finish
        (answers >>= finish) pulled

theorem ends_allValues (registry : Registry) (session : Session) (column : String)
    (table dashboard : Option String) :
    ∃ result pulled,
      ColumnEnd registry session.pulls table dashboard
        (fun source => (source.schema.typeOf? column).isSome)
        (fun source pull => source.valuesAt column session.files pull)
        (.badRequest (.noSuchColumn column)) Summary.mergeValues result pulled ∧
      (registry.allValues column table dashboard).Ends session result pulled := by
  rw [allValues_eq]
  cases hservers : registry.servers table dashboard with
  | error e =>
    exact ⟨.error e, [], .noTables hservers, Ends.logged Ends.of_error _⟩
  | ok found =>
    cases hhaving : found.filter fun entry => (entry.2.schema.typeOf? column).isSome with
    | nil =>
      refine ⟨_, [], .noneTakesPart hservers fun entry hentry => ?_, Ends.logged ?_ _⟩
      · simpa using List.filter_eq_nil_iff.mp hhaving entry hentry
      · refine Ends.of_ok ?_
        rw [hhaving]
        exact ends_throw _
    | cons first rest =>
      have hmem : ∀ entry ∈ first :: rest, (entry.2.schema.typeOf? column).isSome = true := by
        intro entry hentry
        rw [← hhaving] at hentry
        exact (List.mem_filter.mp hentry).2
      obtain ⟨answers, pulled, hasked, hends⟩ :=
        @ends_mapM _ (fun source pull => source.valuesAt column session.files pull)
          (fun source => source.allValues column) session.files (first :: rest)
          (fun entry hentry after hfiles => hfiles ▸ Source.ends_allValues (hmem entry hentry))
          session rfl
      rw [← hhaving] at hasked
      have hfirst : first ∈ found := (List.mem_filter.mp (hhaving ▸ List.mem_cons_self)).1
      refine ⟨_, pulled, .asked hservers (servers_ascending hservers)
        ⟨first, hfirst, hmem first List.mem_cons_self⟩ hasked, Ends.logged ?_ _⟩
      refine Ends.of_ok ?_
      rw [hhaving]
      dsimp only
      rw [valueLists_eq_mapM]
      exact hends.bind_quiet fun lists _ => ends_ofExcept _

theorem ends_numericSpec (registry : Registry) (session : Session) (column : String)
    (table dashboard : Option String) :
    ∃ result pulled,
      ColumnEnd registry session.pulls table dashboard
        (fun source => source.schema.typeOf? column = some .number)
        (fun source pull => source.specAt column session.files pull)
        (.badRequest (.noNumericColumn column)) (mergeSpecs (.badRequest (.noNumericColumn column)))
        result pulled ∧
      (registry.numericSpec column table dashboard).Ends session result pulled := by
  cases hservers : registry.servers table dashboard with
  | error e =>
    refine ⟨.error e, [], .noTables hservers, ?_⟩
    rw [numericSpec_eq, hservers]
    exact Ends.logged Ends.of_error _
  | ok found =>
    obtain ⟨answers, pulled, hasked, hends⟩ :=
      @ends_mapM _ (fun source pull => source.specAt column session.files pull)
        (fun source => source.numericSpec column) session.files
        (found.filter fun entry => entry.2.schema.typeOf? column = some .number)
        (fun entry hentry after hfiles =>
          hfiles ▸ Source.ends_numericSpec (by simpa using (List.mem_filter.mp hentry).2))
        session rfl
    have hall : (registry.numericSpec column table dashboard).Ends session
        (answers >>= mergeSpecs (.badRequest (.noNumericColumn column))) pulled := by
      rw [numericSpec_eq, hservers]
      refine Ends.logged ?_ _
      refine Ends.of_ok ?_
      dsimp only
      rw [mergedSpecs_eq_mapM]
      simp only [bind_assoc, pure_bind]
      refine hends.bind_quiet fun specs after => ?_
      cases specs with
      | nil => exact ends_throw _
      | cons first rest =>
        rw [List.foldl_cons, widen, Option.map_none, Option.getD_none, foldl_widen]
        exact ends_pure _
    by_cases hsome : ∃ entry ∈ found, entry.2.schema.typeOf? column = some .number
    · obtain ⟨entry, hentry, htype⟩ := hsome
      exact ⟨_, pulled, .asked hservers (servers_ascending hservers)
        ⟨entry, hentry, decide_eq_true htype⟩ hasked, hall⟩
    · have hnone : ∀ entry ∈ found,
          decide (entry.2.schema.typeOf? column = some .number) = false :=
        fun entry hentry => decide_eq_false fun htype => hsome ⟨entry, hentry, htype⟩
      rw [List.filter_eq_nil_iff.mpr fun entry hentry => by simp [hnone entry hentry]] at hasked
      cases hasked with
      | all each =>
        cases each
        exact ⟨_, _, .noneTakesPart hservers hnone, hall⟩
      | failed split each fault =>
        exact absurd split.symm (List.append_ne_nil_of_right_ne_nil _ (List.cons_ne_nil _ _))

/-! ## What requests pull -/

/-- **Requests pull what they need.** A request for rows pulls the named table once if everything
    before its rows succeeds, and nothing otherwise. A request on a column pulls the tables that
    take part once each, in the order of their keys, up to the first one that fails to answer; if no
    table is found or none takes part, it pulls nothing. -/
theorem requests_pull (registry : Registry) (session : Session) :
    (∀ table dashboard text, ∃ result pulled,
      RowsEnd registry session.files session.pulls table dashboard text result pulled ∧
      (registry.filteredRows table dashboard text).Ends session result pulled) ∧
    (∀ column table dashboard, ∃ result pulled,
      ColumnEnd registry session.pulls table dashboard
        (fun source => (source.schema.typeOf? column).isSome)
        (fun source pull => source.valuesAt column session.files pull)
        (.badRequest (.noSuchColumn column)) Summary.mergeValues result pulled ∧
      (registry.allValues column table dashboard).Ends session result pulled) ∧
    ∀ column table dashboard, ∃ result pulled,
      ColumnEnd registry session.pulls table dashboard
        (fun source => source.schema.typeOf? column = some .number)
        (fun source pull => source.specAt column session.files pull)
        (.badRequest (.noNumericColumn column)) (mergeSpecs (.badRequest (.noNumericColumn column)))
        result pulled ∧
      (registry.numericSpec column table dashboard).Ends session result pulled :=
  ⟨ends_filteredRows registry session, ends_allValues registry session,
    ends_numericSpec registry session⟩

/-- A live source with a column of numbers, of which every batch also has a string. -/
def looseSource : Source :=
  ⟨0, [⟨"size", .number⟩], .live fun _ => .ok [[.integer 1], [.string "large"]]⟩

/-- Two keys of one such source. -/
def loose : Registry :=
  (empty.insert ⟨none, "east"⟩ looseSource).insert ⟨none, "west"⟩ looseSource

/-- Without tables no key takes part, but the answer is not that of a bad request. A request that is
    refused for the values it finds has used up a batch, and does not ask the second key. -/
theorem allValues_unanswerable :
    ((∀ entry ∈ empty.entries, (entry.2.schema.typeOf? "size").isSome = false) ∧
      ∀ fault, ((empty.allValues "size" none none).runOn Session.fresh).1 ≠
        .error (.badRequest fault)) ∧
    ∃ e, ((loose.allValues "size" none none).runOn Session.fresh).1 = .error e ∧
      e.isClientError = true ∧
      ((loose.allValues "size" none none).runOn Session.fresh).2.pulls = [looseSource.id] := by
  have hempty : ((empty.allValues "size" none none).runOn Session.fresh).1 =
      .error (.noTables none) := rfl
  refine ⟨⟨fun entry hentry => absurd hentry List.not_mem_nil, fun fault => ?_⟩, ?_⟩
  · rw [hempty]
    intro h
    cases h
  · exact ⟨.incomparable (.integer 1) (.string "large"), rfl, rfl, rfl⟩

end Winnow.Registry
