import AttributeRelease.Policy.Tristate
import Mathlib.Tactic.Common

/-!
What conjunctions and disjunctions come out as.

Both go through their members and keep what they have to remember of them. In the end it counts
which outcomes there were, and neither how often nor where: a conjunction asks for a failure and
then for a no, a disjunction for a yes and then for a failure.
-/

namespace AttributeRelease.Proofs.Outcomes

variable {l l' : List Tristate}

/-- The table of conjunctions. -/
def conjunction (l : List Tristate) : Tristate :=
  if .fail ∈ l then .fail else if .no ∈ l then .no else .yes

/-- The table of disjunctions. -/
def disjunction (l : List Tristate) : Tristate :=
  if .yes ∈ l then .yes else if .fail ∈ l then .fail else .no

/-- What has been come to goes on like one more member in front. -/
lemma foldl_allStep (l : List Tristate) (t : Tristate) :
    l.foldl Tristate.allStep t = conjunction (t :: l) := by
  induction l generalizing t with
  | nil => cases t <;> rfl
  | cons u l ih =>
    rw [List.foldl_cons, ih]
    cases t <;> cases u <;> simp [Tristate.allStep, conjunction]

lemma all_eq (l : List Tristate) : Tristate.all l = conjunction l := by
  rw [Tristate.all, foldl_allStep]
  simp [conjunction]

lemma foldl_step (l : List Tristate) (met : Tristate.Met) :
    l.foldl Tristate.Met.step met =
      ⟨met.yes || l.contains .yes, met.fail || l.contains .fail⟩ := by
  induction l generalizing met with
  | nil => simp
  | cons t l ih =>
    rw [List.foldl_cons, ih]
    cases t <;> simp [Tristate.Met.step]

lemma any_eq (l : List Tristate) : Tristate.any l = disjunction l := by
  rw [Tristate.any, foldl_step]
  simp [Tristate.Met.outcome, disjunction]

lemma all_eq_fail_iff : Tristate.all l = .fail ↔ .fail ∈ l := by
  rw [all_eq, conjunction]
  split_ifs <;> simp [*]

lemma all_eq_no_iff : Tristate.all l = .no ↔ .fail ∉ l ∧ .no ∈ l := by
  rw [all_eq, conjunction]
  split_ifs <;> simp [*]

lemma all_eq_yes_iff : Tristate.all l = .yes ↔ .fail ∉ l ∧ .no ∉ l := by
  rw [all_eq, conjunction]
  split_ifs <;> simp [*]

lemma any_eq_yes_iff : Tristate.any l = .yes ↔ .yes ∈ l := by
  rw [any_eq, disjunction]
  split_ifs <;> simp [*]

lemma any_eq_fail_iff : Tristate.any l = .fail ↔ .yes ∉ l ∧ .fail ∈ l := by
  rw [any_eq, disjunction]
  split_ifs <;> simp [*]

lemma any_eq_no_iff : Tristate.any l = .no ↔ .yes ∉ l ∧ .fail ∉ l := by
  rw [any_eq, disjunction]
  split_ifs <;> simp [*]

/-- The outcome of a conjunction by its table. -/
structure IsConjunction (l : List Tristate) (t : Tristate) : Prop where
  fail : t = .fail ↔ .fail ∈ l
  no : t = .no ↔ .fail ∉ l ∧ .no ∈ l
  yes : t = .yes ↔ .fail ∉ l ∧ .no ∉ l

/-- The outcome of a disjunction by its table. -/
structure IsDisjunction (l : List Tristate) (t : Tristate) : Prop where
  yes : t = .yes ↔ .yes ∈ l
  fail : t = .fail ↔ .yes ∉ l ∧ .fail ∈ l
  no : t = .no ↔ .yes ∉ l ∧ .fail ∉ l

lemma isConjunction_all (l : List Tristate) : IsConjunction l (.all l) :=
  ⟨all_eq_fail_iff, all_eq_no_iff, all_eq_yes_iff⟩

lemma isDisjunction_any (l : List Tristate) : IsDisjunction l (.any l) :=
  ⟨any_eq_yes_iff, any_eq_fail_iff, any_eq_no_iff⟩

/-- The table leaves no choice. -/
lemma isDisjunction_iff {t : Tristate} : IsDisjunction l t ↔ Tristate.any l = t := by
  refine ⟨fun h => ?_, fun h => h ▸ isDisjunction_any l⟩
  cases t with
  | yes => exact any_eq_yes_iff.2 (h.yes.1 rfl)
  | no => exact any_eq_no_iff.2 (h.no.1 rfl)
  | fail => exact any_eq_fail_iff.2 (h.fail.1 rfl)

/-! ### Laws -/

/-- A no counts only where nothing fails. -/
lemma all_congr (hfail : .fail ∈ l ↔ .fail ∈ l') (hno : .fail ∉ l → (.no ∈ l ↔ .no ∈ l')) :
    Tristate.all l = Tristate.all l' := by
  by_cases hl : .fail ∈ l
  · rw [all_eq_fail_iff.2 hl, all_eq_fail_iff.2 (hfail.1 hl)]
  · simp only [all_eq, conjunction, ← hfail, hno hl]

/-- A failure counts only where there is no yes. -/
lemma any_congr (hyes : .yes ∈ l ↔ .yes ∈ l') (hfail : .yes ∉ l → (.fail ∈ l ↔ .fail ∈ l')) :
    Tristate.any l = Tristate.any l' := by
  by_cases hl : .yes ∈ l
  · rw [any_eq_yes_iff.2 hl, any_eq_yes_iff.2 (hyes.1 hl)]
  · simp only [any_eq, disjunction, ← hyes, hfail hl]

lemma twice_not (t : Tristate) : t.not.not = t := by
  cases t <;> rfl

lemma not_ofBool (b : Bool) : (Tristate.ofBool b).not = .ofBool !b := by
  cases b <;> rfl

lemma ofBool_ne_fail (b : Bool) : Tristate.ofBool b ≠ .fail := by
  cases b <;> simp [Tristate.ofBool]

/-- Where nothing fails, outcomes are truth values. -/
lemma all_ofBool (bs : List Bool) :
    Tristate.all (bs.map .ofBool) = .ofBool (bs.all id) := by
  rw [all_eq, conjunction]
  cases h : bs.all id <;> simp_all [Tristate.ofBool]

lemma any_ofBool (bs : List Bool) :
    Tristate.any (bs.map .ofBool) = .ofBool (bs.any id) := by
  rw [any_eq, disjunction]
  cases h : bs.any id <;> simp_all [Tristate.ofBool]

end AttributeRelease.Proofs.Outcomes
