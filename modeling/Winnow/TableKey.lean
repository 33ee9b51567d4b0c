/-!
# `Winnow.TableKey` — names of registered tables

A table is registered under its name and, where it belongs to one, a dashboard. Tables without a
dashboard come first, then dashboards in order, then table names.

## Contents
- **`TableKey`**, its order and its form in messages.
-/

namespace Winnow

/-- The key of a registered table. -/
structure TableKey where
  dashboard : Option String
  table : String
  deriving DecidableEq, Repr

namespace TableKey

/-- The order of keys: by dashboard, none before any, then by table name. -/
def order : TableKey → TableKey → Ordering :=
  compareLex (compareOn (·.dashboard)) (compareOn (·.table))

instance : Std.TransCmp order := inferInstanceAs (Std.TransCmp (compareLex _ _))

instance : Std.LawfulEqCmp order where
  eq_of_compare := by
    intro a b h
    obtain ⟨hdashboard, htable⟩ := Ordering.then_eq_eq.mp h
    have hd : a.dashboard = b.dashboard := Std.compare_eq_iff_eq.mp hdashboard
    have ht : a.table = b.table := Std.compare_eq_iff_eq.mp htable
    cases a
    cases b
    subst hd ht
    rfl

/-- The form of a key in messages. -/
def text (key : TableKey) : String :=
  match key.dashboard with
  | some dashboard => "(" ++ dashboard ++ ", " ++ key.table ++ ")"
  | none => key.table

end TableKey

end Winnow
