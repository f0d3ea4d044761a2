import AttributeRelease.Policy.Rule
import AttributeRelease.Proofs.Policy.Outcomes
import Mathlib.Logic.Relation

/-!
Trees that are written in another way.

In a conjunction or disjunction it does not matter in which order its members stand, whether one of
them stands there again, and whether some of them are put together in a node of the same sort. Two
negations undo each other. What holds of a node holds of it wherever it stands in a tree, and after
any number of such changes.
-/

namespace AttributeRelease.Proofs.Rewriting

open AttributeRelease.Proofs.Outcomes

/-- A conjunction or a disjunction of trees. -/
def join : Combinator → List MatchRule → MatchRule
  | .all => .all
  | .any => .any

def joined : Combinator → List Tristate → Tristate
  | .all => .all
  | .any => .any

lemma joined_congr {l l' : List Tristate} (j : Combinator) (h : ∀ t, t ∈ l ↔ t ∈ l') :
    joined j l = joined j l' := by
  cases j with
  | all => exact all_congr (h _) fun _ => h _
  | any => exact any_congr (h _) fun _ => h _

/-- The members of a node within a node of the same sort count as members of that one. -/
lemma joined_flatten (j : Combinator) (before l after : List Tristate) :
    joined j (before ++ joined j l :: after) = joined j (before ++ l ++ after) := by
  cases j with
  | all =>
    have hinner : .fail = Tristate.all l ↔ .fail ∈ l := eq_comm.trans all_eq_fail_iff
    refine all_congr (by simp [joined, hinner]) fun hfail => ?_
    have hl : .fail ∉ l := fun hmem => hfail (by simp [joined, hinner, hmem])
    have hinner' : .no = Tristate.all l ↔ .no ∈ l := by
      rw [eq_comm, all_eq_no_iff, and_iff_right hl]
    simp [joined, hinner']
  | any =>
    have hinner : .yes = Tristate.any l ↔ .yes ∈ l := eq_comm.trans any_eq_yes_iff
    refine any_congr (by simp [joined, hinner]) fun hyes => ?_
    have hl : .yes ∉ l := fun hmem => hyes (by simp [joined, hinner, hmem])
    have hinner' : .fail = Tristate.any l ↔ .fail ∈ l := by
      rw [eq_comm, any_eq_fail_iff, and_iff_right hl]
    simp [joined, hinner']

variable {o : Matcher → Tristate}

lemma evaluateList_eq_map (ts : List MatchRule) :
    MatchRule.evaluateList o ts = ts.map (·.evaluate o) := by
  induction ts with
  | nil => rfl
  | cons t ts ih => rw [MatchRule.evaluateList, ih, List.map_cons]

lemma evaluate_join (j : Combinator) (ts : List MatchRule) :
    (join j ts).evaluate o = joined j (ts.map (·.evaluate o)) := by
  rw [← evaluateList_eq_map]
  cases j <;> rfl

/-! ### Rewriting -/

/-- One change, somewhere in a tree. -/
inductive Step : MatchRule → MatchRule → Prop
  | permute (j : Combinator) {ts us : List MatchRule} (h : ts.Perm us) :
    Step (join j ts) (join j us)
  | repeated (j : Combinator) {ts : List MatchRule} {t : MatchRule} (h : t ∈ ts) :
    Step (join j (t :: ts)) (join j ts)
  | flatten (j : Combinator) (before ts after : List MatchRule) :
    Step (join j (before ++ join j ts :: after)) (join j (before ++ ts ++ after))
  | twiceNot (t : MatchRule) : Step (.not (.not t)) t
  | member (j : Combinator) (before after : List MatchRule) {t u : MatchRule} (h : Step t u) :
    Step (join j (before ++ t :: after)) (join j (before ++ u :: after))
  | negated {t u : MatchRule} (h : Step t u) : Step (.not t) (.not u)

/-- Any number of changes, each made or taken back. -/
def Rewritten : MatchRule → MatchRule → Prop := Relation.EqvGen Step

variable {t u : MatchRule}

lemma Step.evaluate_eq (h : Step t u) : t.evaluate o = u.evaluate o := by
  induction h with
  | permute j h =>
    rw [evaluate_join, evaluate_join]
    exact joined_congr j fun _ => (h.map _).mem_iff
  | repeated j h =>
    rw [evaluate_join, evaluate_join, List.map_cons]
    have hmem := List.mem_map_of_mem (f := (·.evaluate o)) h
    exact joined_congr j fun _ => by simp only [List.mem_cons]; grind
  | flatten j before ts after =>
    simp only [evaluate_join, List.map_append, List.map_cons]
    exact joined_flatten j _ _ _
  | twiceNot t => exact twice_not _
  | member j before after _ ih =>
    simp only [evaluate_join, List.map_append, List.map_cons, ih]
  | negated _ ih => simp only [MatchRule.evaluate, ih]

lemma Rewritten.evaluate_eq (h : Rewritten t u) : t.evaluate o = u.evaluate o := by
  induction h with
  | rel _ _ h => exact h.evaluate_eq
  | refl => rfl
  | symm _ _ _ ih => exact ih.symm
  | trans _ _ _ _ _ ih ih' => exact ih.trans ih'

/-- **Conjunctions and disjunctions** come out by their tables, so a tree comes out as before after
any rewriting, for a request and for a value. -/
theorem rewritten_alike :
    (∀ l, IsConjunction l (.all l) ∧ IsDisjunction l (.any l)) ∧
    ∀ t u, Rewritten t u → ∀ c, t.ofRequest c = u.ofRequest c ∧
      ∀ attributeId v, t.ofValue c attributeId v = u.ofValue c attributeId v :=
  ⟨fun l => ⟨isConjunction_all l, isDisjunction_any l⟩,
    fun _ _ h _ => ⟨h.evaluate_eq, fun _ _ => h.evaluate_eq⟩⟩

def fromLibrary : MatchRule := .leaf (.partyId .requester (.same "https://library.example"))

/-- A node in a node of its sort, with a member that is there already, below two negations. -/
def roundabout : MatchRule := .not (.not (.all [.leaf .any, .all [fromLibrary, .leaf .any]]))

def direct : MatchRule := .all [fromLibrary, .leaf .any]

lemma roundabout_rewritten : Rewritten roundabout direct := by
  have hflat : Step (.all [.leaf .any, .all [fromLibrary, .leaf .any]])
      (.all [.leaf .any, fromLibrary, .leaf .any]) :=
    .flatten .all [.leaf .any] [fromLibrary, .leaf .any] []
  have honce : Step (.all [.leaf .any, fromLibrary, .leaf .any]) direct :=
    .repeated .all (List.mem_cons_of_mem _ List.mem_cons_self)
  have hflatBelow : Step roundabout (.not (.not (.all [.leaf .any, fromLibrary, .leaf .any]))) :=
    .negated (.negated hflat)
  exact .trans _ _ _ (.rel _ _ hflatBelow)
    (.trans _ _ _ (.rel _ _ (.twiceNot _)) (.rel _ _ honce))

theorem roundabout_alike : Rewritten roundabout direct ∧
    (∀ c, roundabout.ofRequest c = direct.ofRequest c ∧
      ∀ attributeId v, roundabout.ofValue c attributeId v = direct.ofValue c attributeId v) ∧
    direct.ofRequest {} = .fail :=
  ⟨roundabout_rewritten, rewritten_alike.2 _ _ roundabout_rewritten, rfl⟩

end AttributeRelease.Proofs.Rewriting
