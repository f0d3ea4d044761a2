import AttributeRelease.Policy.Filter
import Mathlib.Tactic.Common

/-!
What a filter reports about the attributes that it was given.
-/

namespace AttributeRelease.Proofs.Report

variable (f : AttributeFilter) (c : FilterContext)

/-- Nothing is left of an attribute. -/
def withheld (e : String × Attribute) : Bool := ((f.tally c).settle e.1 e.2).1.isEmpty

lemma released_eq : (f.run c).1.released =
    (c.unfiltered.entries.filter fun e => !withheld f c e).map (·.1) := by
  show List.map _ (List.filterMap _ (List.map _ _)) = _
  generalize c.unfiltered.entries = l
  induction l with
  | nil => rfl
  | cons e l ih =>
    rw [List.map_cons, List.filterMap_cons, List.filter_cons]
    by_cases h : ((f.tally c).settle e.1 e.2).1.isEmpty = true
    · simpa [withheld, h] using ih
    · simpa [withheld, h] using ih

lemma removed_eq : (f.run c).1.removed =
    (c.unfiltered.entries.filter fun e => withheld f c e).map (·.1) := by
  show List.map _ (List.filter _ (List.map _ _)) = _
  rw [List.filter_map, List.map_map]
  rfl

/-- Each attribute is either released or removed. -/
theorem released_append_removed_perm :
    ((f.run c).1.released ++ (f.run c).1.removed).Perm c.unfiltered.keys := by
  rw [released_eq, removed_eq, ← List.map_append]
  refine (List.perm_append_comm.trans ?_).map _
  exact List.filter_append_perm (withheld f c) c.unfiltered.entries

end AttributeRelease.Proofs.Report
