import AttributeRelease.Policy.Rule
import AttributeRelease.Proofs.Policy.Outcomes
import Mathlib.Data.List.Forall2

/-!
Definite outcomes do not hang on what could not be decided.

A failure stands for an outcome that is not known. Whatever the failures among the leaves of a tree
turn out to be, a tree that comes out as a yes or a no without them comes out so with them. If there
are none, the tree has a truth value.
-/

namespace AttributeRelease.Proofs.Definite

open AttributeRelease.Proofs.Outcomes

/-- The second outcome is what the first may turn out to be. -/
def Le (t u : Tristate) : Prop := t = .fail ∨ t = u

lemma Le.refl (t : Tristate) : Le t t := .inr rfl

lemma Le.eq {t u : Tristate} (h : Le t u) (ht : t ≠ .fail) : u = t :=
  (h.resolve_left ht).symm

lemma Le.antisymm {t u : Tristate} (h : Le t u) (h' : Le u t) : t = u := by
  rcases h with rfl | rfl
  · exact (h'.elim id id).symm
  · rfl

lemma not_le {t u : Tristate} (h : Le t u) : Le t.not u.not := by
  rcases h with rfl | rfl
  · exact .inl rfl
  · exact .refl _

lemma eq_of_fail_not_mem {ts us : List Tristate} (h : List.Forall₂ Le ts us)
    (hts : Tristate.fail ∉ ts) : us = ts := by
  induction h with
  | nil => rfl
  | cons hle _ ih =>
    rw [List.mem_cons, not_or] at hts
    obtain ⟨ht, hts⟩ := hts
    rw [hle.eq (Ne.symm ht), ih hts]

lemma yes_mem {ts us : List Tristate} (h : List.Forall₂ Le ts us) (hts : Tristate.yes ∈ ts) :
    Tristate.yes ∈ us := by
  induction h with
  | nil => exact hts
  | cons hle _ ih =>
    rcases List.mem_cons.1 hts with rfl | hts
    · exact List.mem_cons.2 (.inl (hle.eq (by simp)).symm)
    · exact List.mem_cons_of_mem _ (ih hts)

lemma all_le {ts us : List Tristate} (h : List.Forall₂ Le ts us) : Le (.all ts) (.all us) := by
  by_cases hfail : Tristate.fail ∈ ts
  · exact .inl (all_eq_fail_iff.2 hfail)
  · rw [eq_of_fail_not_mem h hfail]
    exact .refl _

lemma any_le {ts us : List Tristate} (h : List.Forall₂ Le ts us) : Le (.any ts) (.any us) := by
  by_cases hyes : Tristate.yes ∈ ts
  · exact .inr ((any_eq_yes_iff.2 hyes).trans (any_eq_yes_iff.2 (yes_mem h hyes)).symm)
  · by_cases hfail : Tristate.fail ∈ ts
    · exact .inl (any_eq_fail_iff.2 ⟨hyes, hfail⟩)
    · rw [eq_of_fail_not_mem h hfail]
      exact .refl _

mutual

/-- The matchers at the leaves of a tree. -/
def leaves : MatchRule → List Matcher
  | .leaf m => [m]
  | .all children => leavesOfAll children
  | .any children => leavesOfAll children
  | .not child => leaves child

def leavesOfAll : List MatchRule → List Matcher
  | [] => []
  | r :: rest => leaves r ++ leavesOfAll rest

end

variable {o o' : Matcher → Tristate}

mutual

/-- **What a tree comes out as** without the outcomes that are not known, it comes out as. -/
theorem evaluate_le : ∀ t : MatchRule, (∀ m ∈ leaves t, Le (o m) (o' m)) →
    Le (t.evaluate o) (t.evaluate o')
  | .leaf m, h => h m (by simp [leaves])
  | .all children, h => all_le (evaluateList_le children h)
  | .any children, h => any_le (evaluateList_le children h)
  | .not child, h => not_le (evaluate_le child h)

theorem evaluateList_le : ∀ ts : List MatchRule, (∀ m ∈ leavesOfAll ts, Le (o m) (o' m)) →
    List.Forall₂ Le (MatchRule.evaluateList o ts) (MatchRule.evaluateList o' ts)
  | [], _ => .nil
  | r :: rest, h =>
    .cons (evaluate_le r fun m hm => h m (List.mem_append_left _ hm))
      (evaluateList_le rest fun m hm => h m (List.mem_append_right _ hm))

end

/-- A tree sees nothing but its leaves. -/
lemma evaluate_congr {t : MatchRule} (h : ∀ m ∈ leaves t, o m = o' m) :
    t.evaluate o = t.evaluate o' :=
  (evaluate_le t fun m hm => .inr (h m hm)).antisymm
    (evaluate_le t fun m hm => .inr (h m hm).symm)

/-! ### Truth values -/

mutual

/-- The truth value of a tree, given those of its leaves. -/
def truth (value : Matcher → Bool) : MatchRule → Bool
  | .leaf m => value m
  | .all children => (truths value children).all id
  | .any children => (truths value children).any id
  | .not child => !truth value child

def truths (value : Matcher → Bool) : List MatchRule → List Bool
  | [] => []
  | r :: rest => truth value r :: truths value rest

end

variable {value : Matcher → Bool}

mutual

/-- With nothing unknown, the third value does not come in. -/
lemma evaluate_ofBool : ∀ t : MatchRule,
    t.evaluate (fun m => .ofBool (value m)) = .ofBool (truth value t)
  | .leaf _ => rfl
  | .all children => by
    rw [MatchRule.evaluate, evaluateList_ofBool children, all_ofBool, truth]
  | .any children => by
    rw [MatchRule.evaluate, evaluateList_ofBool children, any_ofBool, truth]
  | .not child => by
    rw [MatchRule.evaluate, evaluate_ofBool child, not_ofBool, truth]

lemma evaluateList_ofBool : ∀ ts : List MatchRule,
    MatchRule.evaluateList (fun m => .ofBool (value m)) ts = (truths value ts).map .ofBool
  | [] => rfl
  | r :: rest => by
    rw [MatchRule.evaluateList, evaluate_ofBool r, evaluateList_ofBool rest, truths, List.map_cons]

end

lemma ofBool_isYes {t : Tristate} (h : t ≠ .fail) : Tristate.ofBool t.isYes = t := by
  cases t with
  | yes => rfl
  | no => rfl
  | fail => exact absurd rfl h

/-- What the outcome of a tree owes to those of its leaves. -/
structure Settled (t : MatchRule) (o : Matcher → Tristate) : Prop where
  definite : t.evaluate o ≠ .fail →
    ∀ o', (∀ m ∈ leaves t, o m ≠ .fail → o' m = o m) → t.evaluate o' = t.evaluate o
  failing : t.evaluate o = .fail → ∃ m ∈ leaves t, o m = .fail
  boolean : (∀ m ∈ leaves t, o m ≠ .fail) →
    t.evaluate o = .ofBool (truth (fun m => (o m).isYes) t)

/-- **A yes or a no does not hang on a failure.** It stays whatever the failing leaves turn out to
be, a tree fails by a failing leaf only, and without one it has its truth value. Conjunctions and
disjunctions of nothing are no exception. -/
theorem evaluate_settled (t : MatchRule) (o : Matcher → Tristate) : Settled t o := by
  have hboolean (h : ∀ m ∈ leaves t, o m ≠ .fail) :
      t.evaluate o = .ofBool (truth (fun m => (o m).isYes) t) := by
    rw [← evaluate_ofBool]
    exact evaluate_congr fun m hm => (ofBool_isYes (h m hm)).symm
  refine ⟨fun hdefinite o' h => ?_, fun hfail => ?_, hboolean⟩
  · have hle : Le (t.evaluate o) (t.evaluate o') := by
      refine evaluate_le t fun m hm => ?_
      by_cases hm' : o m = .fail
      · exact .inl hm'
      · exact .inr (h m hm hm').symm
    exact hle.eq hdefinite
  · by_contra hnone
    push Not at hnone
    exact ofBool_ne_fail _ ((hboolean hnone).symm.trans hfail)

/-- Whoever is no crawler may ask, and whoever asks for Ada. -/
def welcome : MatchRule :=
  .any [.not (.leaf (.partyId .requester (.same "https://crawler.example"))),
    .leaf (.principal (.same "ada"))]

def ada : FilterContext := { principal := some "ada" }

def adaCrawled : FilterContext := { ada with requester := some "https://crawler.example" }

theorem welcome_settled : welcome.evaluate (Matcher.ofRequest ada) = .yes ∧
    Matcher.ofRequest ada (.partyId .requester (.same "https://crawler.example")) = .fail ∧
    Settled welcome (Matcher.ofRequest ada) ∧
    welcome.evaluate (Matcher.ofRequest adaCrawled) = .yes := by
  have hyes : welcome.evaluate (Matcher.ofRequest ada) = .yes := rfl
  have hsettled := evaluate_settled welcome (Matcher.ofRequest ada)
  refine ⟨hyes, rfl, hsettled, (hsettled.definite (by simp [hyes]) _ ?_).trans hyes⟩
  decide

end AttributeRelease.Proofs.Definite
