import AttributeRelease.Proofs.Attributes

/-!
What has happened to the values of an attribute.

Values are put in one by one, and from time to time some of those that are there are kept and the
others dropped. The values that are there were put in when they were absent and have been there ever
since, and they are in the order in which that happened.
-/

namespace AttributeRelease.Proofs.History

open AttributeRelease.Proofs.Attributes AttributeRelease.Proofs.Listing

/-- What changes the values of an attribute. Which values are retained is asked in turn. -/
inductive Call where
  | addValue (v : AttributeValue)
  | withValue (v : AttributeValue)
  | withValues (vs : List AttributeValue)
  | retainValues (keep : List AttributeValue → AttributeValue → Bool)

def Call.run (a : Attribute) : Call → Attribute
  | .addValue v => (a.addNew v).1
  | .withValue v => a.add v
  | .withValues vs => a.addAll vs
  | .retainValues keep => a.retainInTurn keep

def runAll (a : Attribute) (calls : List Call) : Attribute := calls.foldl Call.run a

/-- One value is put in, or some of those that are there are kept. -/
inductive Event where
  | insert (v : AttributeValue)
  | retain (keep : List AttributeValue → AttributeValue → Bool)

def Event.apply (a : Attribute) : Event → Attribute
  | .insert v => a.add v
  | .retain keep => a.retainInTurn keep

def Call.events : Call → List Event
  | .addValue v => [.insert v]
  | .withValue v => [.insert v]
  | .withValues vs => vs.map .insert
  | .retainValues keep => [.retain keep]

/-- What happens in some calls, after the values that are there at first have been put in. -/
def history (a : Attribute) (calls : List Call) : List Event :=
  a.values.map .insert ++ calls.flatMap Call.events

/-- An attribute after some events, with no values before them. -/
def replay (a : Attribute) (es : List Event) : Attribute :=
  es.foldl Event.apply { a with values := [] }

/-- A choice keeps a value if it says so when it is asked, in its turn, about an equal one. -/
def Keeps (keep : List AttributeValue → AttributeValue → Bool) (vs : List AttributeValue)
    (v : AttributeValue) : Prop :=
  ∃ i w, vs[i]? = some w ∧ (v == w) = true ∧ keep (vs.take i) w = true

/-- All choices that come after an event keep a value. -/
def KeptSince (a : Attribute) (es : List Event) (i : ℕ) (v : AttributeValue) : Prop :=
  ∀ j keep, i < j → es[j]? = some (.retain keep) → Keeps keep (replay a (es.take j)).values v

/-- At an event a value is put in that was absent, and it has been there ever since. -/
structure Stands (a : Attribute) (es : List Event) (i : ℕ) (v : AttributeValue) : Prop where
  inserted : es[i]? = some (.insert v)
  absent : (replay a (es.take i)).contains v = false
  present : ∀ j, i < j → j ≤ es.length → (replay a (es.take j)).contains v = true

section

variable {keep : List AttributeValue → AttributeValue → Bool} {asked vs : List AttributeValue}

lemma keepInTurn_sublist : (Attribute.keepInTurn keep asked vs).Sublist vs := by
  induction vs generalizing asked with
  | nil => exact .slnil
  | cons v vs ih =>
    rw [Attribute.keepInTurn]
    split
    · exact ih.cons_cons v
    · exact ih.cons v

lemma mem_keepInTurn_iff {w : AttributeValue} : w ∈ Attribute.keepInTurn keep asked vs ↔
    ∃ i, vs[i]? = some w ∧ keep (asked ++ vs.take i) w = true := by
  induction vs generalizing asked with
  | nil => simp [Attribute.keepInTurn]
  | cons v vs ih =>
    have hcons : (∃ i, (v :: vs)[i]? = some w ∧ keep (asked ++ (v :: vs).take i) w = true) ↔
        v = w ∧ keep asked w = true ∨
          ∃ i, vs[i]? = some w ∧ keep (asked ++ [v] ++ vs.take i) w = true := by
      rw [← Nat.or_exists_add_one]
      simp
    rw [hcons, ← ih, Attribute.keepInTurn]
    split <;> grind

lemma contains_retainInTurn {a : Attribute} {v : AttributeValue} :
    (a.retainInTurn keep).contains v = true ↔ Keeps keep a.values v := by
  simp only [contains_iff, Attribute.retainInTurn, mem_keepInTurn_iff, List.nil_append, Keeps]
  grind

lemma retainInTurn_distinct {a : Attribute} (h : Distinct a.values) :
    Distinct (a.retainInTurn keep).values :=
  h.sublist keepInTurn_sublist

/-- What is left of distinct values are those of them that are still there. -/
lemma filter_sublist (h : asked.Sublist vs) (hvs : Distinct vs) :
    vs.filter (fun w => asked.any (w == ·)) = asked := by
  induction h with
  | slnil => rfl
  | cons w hsub ih =>
    obtain ⟨hw, hvs⟩ := List.pairwise_cons.1 hvs
    rw [List.filter_cons_of_neg, ih hvs]
    simpa using fun u hu => hw u (hsub.subset hu)
  | @cons_cons asked vs w hsub ih =>
    obtain ⟨hw, hvs⟩ := List.pairwise_cons.1 hvs
    have hrest : vs.filter (fun u => (w :: asked).any (u == ·)) =
        vs.filter (fun u => asked.any (u == ·)) := by
      refine List.filter_congr fun u hu => ?_
      rw [List.any_cons, value_beq_comm, hw u hu, Bool.false_or]
    rw [List.filter_cons_of_pos (by simp), hrest, ih hvs]

end

/-! ### Events -/

section

variable {a : Attribute} {es : List Event} {e : Event} {i : ℕ} {v : AttributeValue}

lemma replay_snoc (a : Attribute) (es : List Event) (e : Event) :
    replay a (es ++ [e]) = e.apply (replay a es) := by
  rw [replay, List.foldl_append]
  rfl

/-- One more event makes no difference to what was before it. -/
lemma replay_take_snoc (a : Attribute) (e : Event) {j : ℕ} (hj : j ≤ es.length) :
    replay a ((es ++ [e]).take j) = replay a (es.take j) := by
  rw [List.take_append_of_le_length hj]

lemma replay_take_length (a : Attribute) (es : List Event) (e : Event) :
    replay a ((es ++ [e]).take es.length) = replay a es := by
  rw [replay_take_snoc a e le_rfl, List.take_length]

lemma replay_distinct (a : Attribute) (es : List Event) : Distinct (replay a es).values := by
  induction es using List.reverseRecOn with
  | nil => exact .nil
  | append_singleton es e ih =>
    rw [replay_snoc]
    cases e with
    | insert v => exact add_distinct ih v
    | retain keep => exact retainInTurn_distinct ih

lemma lt_length_of_insert (h : es[i]? = some (.insert v)) : i < es.length :=
  (List.getElem?_eq_some_iff.1 h).1

lemma keptSince_last (a : Attribute) (es : List Event) (e : Event) (v : AttributeValue) :
    KeptSince a (es ++ [e]) es.length v := by
  intro j keep hj hkeep
  have hlt : j < (es ++ [e]).length := (List.getElem?_eq_some_iff.1 hkeep).1
  rw [List.length_append, List.length_singleton] at hlt
  omega

lemma keptSince_snoc (hi : i < es.length) : KeptSince a (es ++ [e]) i v ↔
    KeptSince a es i v ∧ ∀ keep, e = .retain keep → Keeps keep (replay a es).values v := by
  constructor
  · refine fun h => ⟨fun j keep hij hj => ?_, fun keep he => ?_⟩
    · have hlt : j < es.length := (List.getElem?_eq_some_iff.1 hj).1
      have hkeeps := h j keep hij (getElem?_snoc_iff.2 (.inl hj))
      rwa [replay_take_snoc a e hlt.le] at hkeeps
    · have hkeeps := h es.length keep hi (getElem?_snoc_iff.2 (.inr ⟨rfl, he⟩))
      rwa [replay_take_length] at hkeeps
  · rintro ⟨h, hlast⟩ j keep hij hj
    rcases getElem?_snoc_iff.1 hj with hj | ⟨rfl, he⟩
    · rw [replay_take_snoc a e (List.getElem?_eq_some_iff.1 hj).1.le]
      exact h j keep hij hj
    · rw [replay_take_length]
      exact hlast keep he

/-- **What is there** has been put in and kept by every choice since. -/
lemma contains_replay : (replay a es).contains v = true ↔
    ∃ i w, es[i]? = some (.insert w) ∧ (v == w) = true ∧ KeptSince a es i v := by
  induction es using List.reverseRecOn with
  | nil => simp [replay, Attribute.contains]
  | append_singleton es e ih =>
    have hplaces : (∃ i w, (es ++ [e])[i]? = some (.insert w) ∧ (v == w) = true ∧
          KeptSince a (es ++ [e]) i v) ↔
        (replay a es).contains v = true ∧
            (∀ keep, e = .retain keep → Keeps keep (replay a es).values v) ∨
          ∃ w, e = .insert w ∧ (v == w) = true := by
      rw [ih]
      constructor
      · rintro ⟨i, w, hi, hvw, hkept⟩
        rcases getElem?_snoc_iff.1 hi with hi | ⟨-, he⟩
        · obtain ⟨hkept, hlast⟩ := (keptSince_snoc (lt_length_of_insert hi)).1 hkept
          exact .inl ⟨⟨i, w, hi, hvw, hkept⟩, hlast⟩
        · exact .inr ⟨w, he, hvw⟩
      · rintro (⟨⟨i, w, hi, hvw, hkept⟩, hlast⟩ | ⟨w, he, hvw⟩)
        · exact ⟨i, w, getElem?_snoc_iff.2 (.inl hi), hvw,
            (keptSince_snoc (lt_length_of_insert hi)).2 ⟨hkept, hlast⟩⟩
        · exact ⟨es.length, w, getElem?_snoc_iff.2 (.inr ⟨rfl, he⟩), hvw,
            keptSince_last a es e v⟩
    rw [hplaces, replay_snoc]
    cases e with
    | insert u => simp [Event.apply, contains_add]
    | retain keep =>
      have hkeeps (h : Keeps keep (replay a es).values v) : (replay a es).contains v = true := by
        obtain ⟨i, w, hw, hvw, -⟩ := h
        exact contains_iff.2 ⟨w, List.mem_of_getElem? hw, hvw⟩
      simpa [Event.apply, contains_retainInTurn] using hkeeps

lemma Stands.lt_length (h : Stands a es i v) : i < es.length := lt_length_of_insert h.inserted

lemma Stands.contains (h : Stands a es i v) : (replay a es).contains v = true := by
  simpa using h.present es.length h.lt_length le_rfl

lemma definite_stands (a : Attribute) (es : List Event) : Definite (Stands a es) := by
  intro i v w hv hw
  have heq := hv.inserted.symm.trans hw.inserted
  exact Event.insert.inj (Option.some.inj heq)

lemma stands_snoc : Stands a (es ++ [e]) i v ↔
    Stands a es i v ∧ (replay a (es ++ [e])).contains v = true ∨
      (i = es.length ∧ e = .insert v) ∧ (replay a es).contains v = false := by
  have hall {j : ℕ} (hj : es.length < j) : (es ++ [e]).take j = es ++ [e] :=
    List.take_of_length_le (by simpa using hj)
  constructor
  · intro h
    rcases getElem?_snoc_iff.1 h.inserted with hi | ⟨rfl, he⟩
    · have hlt := lt_length_of_insert hi
      refine .inl ⟨⟨hi, ?_, fun j hij hj => ?_⟩, ?_⟩
      · exact replay_take_snoc a e hlt.le ▸ h.absent
      · exact replay_take_snoc a e hj ▸ h.present j hij (by simp; omega)
      · have hnow := h.present _ (Nat.lt_succ_of_lt hlt) (by simp)
        rwa [hall (Nat.lt_succ_self _)] at hnow
    · have habsent := h.absent
      rw [replay_take_length] at habsent
      exact .inr ⟨⟨rfl, he⟩, habsent⟩
  · rintro (⟨h, hnow⟩ | ⟨⟨rfl, rfl⟩, habsent⟩)
    · refine ⟨getElem?_snoc_iff.2 (.inl h.inserted), ?_, fun j hij _ => ?_⟩
      · rw [replay_take_snoc a e h.lt_length.le, h.absent]
      · rcases Nat.lt_or_ge es.length j with hj | hj
        · rw [hall hj, hnow]
        · rw [replay_take_snoc a e hj, h.present j hij hj]
    · refine ⟨getElem?_snoc_iff.2 (.inr ⟨rfl, rfl⟩), ?_, fun j hij _ => ?_⟩
      · rw [replay_take_length, habsent]
      · rw [hall hij, replay_snoc]
        exact contains_add.2 (.inr (value_beq_refl v))

/-- **The order of what is there** is that in which it was put in when it was absent last. -/
lemma lists_stands (a : Attribute) (es : List Event) :
    Lists (· < ·) (Stands a es) (replay a es).values := by
  induction es using List.reverseRecOn with
  | nil => exact lists_nil fun i v h => by simpa using h.inserted
  | append_singleton es e ih =>
    cases e with
    | insert u =>
      have hkept {i : ℕ} {v : AttributeValue} (h : Stands a es i v) :
          (replay a (es ++ [.insert u])).contains v = true := by
        rw [replay_snoc]
        exact contains_add.2 (.inl h.contains)
      by_cases hu : (replay a es).contains u = true
      · have hvalues : (replay a (es ++ [.insert u])).values = (replay a es).values := by
          rw [replay_snoc, Event.apply, add_of_contains hu]
        rw [hvalues]
        refine ih.congr fun i v => ?_
        rw [stands_snoc]
        grind
      · have hvalues : (replay a (es ++ [.insert u])).values = (replay a es).values ++ [u] := by
          rw [replay_snoc, Event.apply, add_values_of_not_contains hu]
        rw [hvalues]
        refine (ih.append (lists_singleton es.length u) fun i v j w hi hj => ?_).congr
          fun i v => ?_
        · exact hj.1 ▸ hi.lt_length
        · rw [stands_snoc]
          grind
    | retain keep =>
      have hvalues : (replay a (es ++ [.retain keep])).values =
          (replay a es).values.filter (replay a (es ++ [.retain keep])).contains := by
        rw [replay_snoc]
        exact (filter_sublist keepInTurn_sublist (replay_distinct a es)).symm
      rw [hvalues, ← List.filterMap_eq_filter]
      refine (ih.filterMap (definite_stands a es) _).congr fun i v => ?_
      rw [stands_snoc]
      simp [Option.guard_eq_some_iff]

end

lemma foldl_insert (a : Attribute) (vs : List AttributeValue) :
    (vs.map .insert).foldl Event.apply a = a.addAll vs := by
  rw [List.foldl_map]
  rfl

lemma run_eq_foldl (a : Attribute) (call : Call) :
    call.run a = call.events.foldl Event.apply a := by
  cases call with
  | addValue v => rfl
  | withValue v => rfl
  | withValues vs => exact (foldl_insert a vs).symm
  | retainValues keep => rfl

lemma addAll_of_distinct {a : Attribute} {vs : List AttributeValue}
    (h : Distinct (a.values ++ vs)) : a.addAll vs = { a with values := a.values ++ vs } := by
  induction vs generalizing a with
  | nil => simp [Attribute.addAll]
  | cons v vs ih =>
    obtain ⟨-, -, hacross⟩ := List.pairwise_append.1 h
    have hnew : ¬ a.contains v = true := by
      rw [contains_iff]
      rintro ⟨w, hw, hvw⟩
      rw [value_beq_comm, hacross w hw v List.mem_cons_self] at hvw
      cases hvw
    show (a.add v).addAll vs = _
    rw [add_of_not_contains hnew, ih (by simpa using h)]
    simp

/-- Values that are distinct come out as they are when they are put in. -/
lemma runAll_eq_replay {a : Attribute} (h : Distinct a.values) (calls : List Call) :
    runAll a calls = replay a (history a calls) := by
  have hfirst : ({ a with values := [] } : Attribute).addAll a.values = a := addAll_of_distinct h
  rw [history, replay, List.foldl_append, foldl_insert, hfirst, List.foldl_flatMap, runAll]
  simp only [← run_eq_foldl]

/-- **The values of an attribute after any calls.** No value comes twice. A value is there just if
one equal to it was put in, or was there at first, and every choice since has kept it. The values
stand in the order in which they were put in when they were last absent. Whenever a call adds a
value, it says that the value is new just if it is absent. -/
theorem values_of_history {a : Attribute} (h : Distinct a.values) (calls : List Call) :
    runAll a calls = replay a (history a calls) ∧
      Distinct (runAll a calls).values ∧
      (∀ v, (runAll a calls).contains v = true ↔
        ∃ i w, (history a calls)[i]? = some (.insert w) ∧ (v == w) = true ∧
          KeptSince a (history a calls) i v) ∧
      Lists (· < ·) (Stands a (history a calls)) (runAll a calls).values ∧
      ∀ before v after, calls = before ++ .addValue v :: after →
        (((runAll a before).addNew v).2 = true ↔ (runAll a before).contains v = false) := by
  refine ⟨runAll_eq_replay h calls, ?_⟩
  rw [runAll_eq_replay h calls]
  refine ⟨replay_distinct a _, fun v => contains_replay, lists_stands a _, fun before v _ _ => ?_⟩
  rw [addNew_snd, Bool.not_eq_true']

def pair : Attribute := { id := "pair", values := [.string "x", .string "y"] }

/-- The choice drops the first value that it is asked about. -/
def turns : List Call := [
  .withValues [.string "y", .string "z"],
  .retainValues fun asked _ => !asked.isEmpty,
  .addValue (.string "x")]

/-- A value that is dropped and put in again goes to the end. -/
theorem pair_history : Distinct pair.values ∧
    (runAll pair turns).values = [.string "y", .string "z", .string "x"] ∧
    Lists (· < ·) (Stands pair (history pair turns)) (runAll pair turns).values ∧
    ((runAll pair (turns.take 2)).addNew (.string "x")).2 = true := by
  have hdistinct : Distinct pair.values := List.pairwise_pair.2 rfl
  obtain ⟨-, -, -, hlists, hnew⟩ := values_of_history hdistinct turns
  exact ⟨hdistinct, rfl, hlists, (hnew (turns.take 2) (.string "x") [] rfl).2 rfl⟩

end AttributeRelease.Proofs.History
