import AttributeRelease.Proofs.Listing
import AttributeRelease.Proofs.Maps
import AttributeRelease.Resolution.Pass

/-!
Attributes that hold no value twice, under their own ids.

Equality of values is an equivalence, so it makes no difference that a new value is compared with
those only that were added before it. Whatever maps are made of, values are added to them one by
one, and each addition keeps them in order.
-/

namespace AttributeRelease.Proofs.Attributes

open AttributeRelease.Proofs.Listing

variable {σ ι : Type}

lemma binary64_beq_comm (x y : Binary64) : Binary64.beq x y = Binary64.beq y x := by
  have hsame : decide (x = y) = decide (y = x) := decide_eq_decide.2 eq_comm
  rw [Binary64.beq, Binary64.beq, hsame, Bool.and_comm]

mutual

lemma json_beq_comm : ∀ a b : Json, Json.beq a b = Json.beq b a
  | .null, b => by cases b <;> rfl
  | .bool x, b => by cases b <;> simp [Json.beq, Bool.beq_comm]
  | .int x, b => by cases b <;> simp [Json.beq, Bool.beq_comm]
  | .float x, b => by
    cases b with
    | float y => exact binary64_beq_comm x y
    | _ => rfl
  | .str x, b => by cases b <;> simp [Json.beq, Bool.beq_comm]
  | .arr as, b => by
    cases b with
    | arr bs => exact beqItems_comm as bs
    | _ => rfl
  | .obj fs, b => by
    cases b with
    | obj gs => exact beqFields_comm fs gs
    | _ => rfl

lemma beqItems_comm : ∀ as bs : List Json, Json.beqItems as bs = Json.beqItems bs as
  | [], [] => rfl
  | [], _ :: _ => rfl
  | _ :: _, [] => rfl
  | a :: as, b :: bs => by
    rw [Json.beqItems, Json.beqItems, json_beq_comm a b, beqItems_comm as bs]

lemma beqFields_comm : ∀ fs gs : List (String × Json), Json.beqFields fs gs = Json.beqFields gs fs
  | [], [] => rfl
  | [], _ :: _ => rfl
  | _ :: _, [] => rfl
  | (k, a) :: fs, (l, b) :: gs => by
    rw [Json.beqFields, Json.beqFields, json_beq_comm a b, beqFields_comm fs gs, BEq.comm]

end

lemma value_beq_comm (v w : AttributeValue) : (v == w) = (w == v) := by
  show AttributeValue.beq v w = AttributeValue.beq w v
  cases v <;> cases w <;> simp only [AttributeValue.beq, BEq.comm]
  exact json_beq_comm _ _

lemma binary64_beq_trans {x y z : Binary64} (hxy : Binary64.beq x y = true)
    (hyz : Binary64.beq y z = true) : Binary64.beq x z = true := by
  simp only [Binary64.beq, Bool.or_eq_true, Bool.and_eq_true, decide_eq_true_eq] at *
  rcases hxy with rfl | ⟨hx, hy⟩
  · exact hyz
  · rcases hyz with rfl | ⟨-, hz⟩
    · exact .inr ⟨hx, hy⟩
    · exact .inr ⟨hx, hz⟩

mutual

lemma json_beq_refl : ∀ a : Json, Json.beq a a = true
  | .null => rfl
  | .bool x => beq_self_eq_true x
  | .int x => beq_self_eq_true x
  | .float x => by simp [Json.beq, BEq.beq, Binary64.beq]
  | .str x => beq_self_eq_true x
  | .arr as => beqItems_refl as
  | .obj fs => beqFields_refl fs

lemma beqItems_refl : ∀ as : List Json, Json.beqItems as as = true
  | [] => rfl
  | a :: as => by rw [Json.beqItems, json_beq_refl a, beqItems_refl as]; rfl

lemma beqFields_refl : ∀ fs : List (String × Json), Json.beqFields fs fs = true
  | [] => rfl
  | (k, a) :: fs => by
    rw [Json.beqFields, beq_self_eq_true, json_beq_refl a, beqFields_refl fs]; rfl

end

mutual

lemma json_beq_trans : ∀ {a b c : Json}, Json.beq a b = true → Json.beq b c = true →
    Json.beq a c = true
  | a, .null, c, hab, hbc => by
    cases a <;> cases c <;> simp_all [Json.beq]
  | a, .bool x, c, hab, hbc => by
    cases a <;> cases c <;> simp_all [Json.beq]
  | a, .int x, c, hab, hbc => by
    cases a <;> cases c <;> simp_all [Json.beq]
  | a, .float x, c, hab, hbc => by
    cases a <;> cases c <;> first | exact binary64_beq_trans hab hbc | cases hab | cases hbc
  | a, .str x, c, hab, hbc => by
    cases a <;> cases c <;> simp_all [Json.beq]
  | a, .arr bs, c, hab, hbc => by
    cases a <;> cases c <;> first | exact beqItems_trans hab hbc | cases hab | cases hbc
  | a, .obj gs, c, hab, hbc => by
    cases a <;> cases c <;> first | exact beqFields_trans hab hbc | cases hab | cases hbc

lemma beqItems_trans : ∀ {as bs cs : List Json}, Json.beqItems as bs = true →
    Json.beqItems bs cs = true → Json.beqItems as cs = true
  | [], [], _, _, h => h
  | _ :: _, _ :: _, [], _, h => by cases h
  | a :: as, b :: bs, c :: cs, hab, hbc => by
    rw [Json.beqItems, Bool.and_eq_true] at *
    exact ⟨json_beq_trans hab.1 hbc.1, beqItems_trans hab.2 hbc.2⟩

lemma beqFields_trans : ∀ {fs gs hs : List (String × Json)}, Json.beqFields fs gs = true →
    Json.beqFields gs hs = true → Json.beqFields fs hs = true
  | [], [], _, _, h => h
  | _ :: _, _ :: _, [], _, h => by cases h
  | (k, a) :: fs, (l, b) :: gs, (m, c) :: hs, hab, hbc => by
    simp only [Json.beqFields, Bool.and_eq_true, beq_iff_eq] at *
    exact ⟨⟨hab.1.1.trans hbc.1.1, json_beq_trans hab.1.2 hbc.1.2⟩,
      beqFields_trans hab.2 hbc.2⟩

end

lemma value_beq_refl (v : AttributeValue) : (v == v) = true := by
  show AttributeValue.beq v v = true
  cases v with
  | structured j => exact json_beq_refl j
  | _ => simp [AttributeValue.beq]

lemma value_beq_trans {u v w : AttributeValue} (huv : (u == v) = true) (hvw : (v == w) = true) :
    (u == w) = true := by
  have huv : AttributeValue.beq u v = true := huv
  have hvw : AttributeValue.beq v w = true := hvw
  show AttributeValue.beq u w = true
  cases v with
  | structured b =>
    cases u <;> cases w <;> first | exact json_beq_trans huv hvw | cases huv | cases hvw
  | _ => cases u <;> cases w <;> simp_all [AttributeValue.beq]

instance : EquivBEq AttributeValue where
  symm h := (value_beq_comm _ _).trans h
  trans := value_beq_trans
  rfl := value_beq_refl _

/-- A value with a textual part is equal to itself only. -/
lemma eq_of_beq_text {v w : AttributeValue} {s : String} (h : (v == w) = true)
    (hs : v.text? = some s) : w = v := by
  have h : AttributeValue.beq v w = true := h
  cases v <;> cases w <;> simp_all [AttributeValue.beq, AttributeValue.text?]

/-! ### Attributes -/

/-- No value comes twice. -/
def Distinct (vs : List AttributeValue) : Prop := vs.Pairwise fun v w => (v == w) = false

lemma addNew_snd (a : Attribute) (v : AttributeValue) : (a.addNew v).2 = !a.contains v := by
  unfold Attribute.addNew
  cases a.contains v <;> rfl

lemma add_of_contains {a : Attribute} {v : AttributeValue} (h : a.contains v = true) :
    a.add v = a := by
  rw [Attribute.add, Attribute.addNew, if_pos h]

lemma add_of_not_contains {a : Attribute} {v : AttributeValue} (h : ¬ a.contains v = true) :
    a.add v = { a with values := a.values ++ [v] } := by
  rw [Attribute.add, Attribute.addNew, if_neg h]

lemma add_values_of_not_contains {a : Attribute} {v : AttributeValue}
    (h : ¬ a.contains v = true) : (a.add v).values = a.values ++ [v] := by
  rw [add_of_not_contains h]

@[simp] lemma add_id (a : Attribute) (v : AttributeValue) : (a.add v).id = a.id := by
  by_cases h : a.contains v = true
  · rw [add_of_contains h]
  · rw [add_of_not_contains h]

lemma add_distinct {a : Attribute} (h : Distinct a.values) (v : AttributeValue) :
    Distinct (a.add v).values := by
  by_cases hv : a.contains v = true
  · rw [add_of_contains hv]
    exact h
  · rw [add_values_of_not_contains hv]
    refine List.pairwise_append.2 ⟨h, List.pairwise_singleton _ _, fun u hu w hw => ?_⟩
    obtain rfl := List.mem_singleton.1 hw
    have hall : ∀ x ∈ a.values, ¬ (w == x) = true := by simpa [Attribute.contains] using hv
    rw [value_beq_comm, ← Bool.not_eq_true]
    exact hall u hu

@[simp] lemma addAll_id (a : Attribute) (vs : List AttributeValue) : (a.addAll vs).id = a.id :=
  List.foldlRecOn (motive := fun b => b.id = a.id) vs Attribute.add rfl fun b hb v _ =>
    (add_id b v).trans hb

lemma addAll_distinct {a : Attribute} (h : Distinct a.values) (vs : List AttributeValue) :
    Distinct (a.addAll vs).values :=
  List.foldlRecOn (motive := fun b => Distinct b.values) vs Attribute.add h fun _ hb v _ =>
    add_distinct hb v

/-- Whatever is put into an attribute without values. -/
lemma addAll_distinct_of_nil {a : Attribute} (h : a.values = []) (vs : List AttributeValue) :
    Distinct (a.addAll vs).values :=
  addAll_distinct (h ▸ .nil) vs

/-- Nothing but its values changes. -/
lemma addAll_eq (a : Attribute) (vs : List AttributeValue) :
    a.addAll vs = { a with values := (a.addAll vs).values } := by
  refine List.foldlRecOn (motive := fun b => b = { a with values := b.values }) vs Attribute.add
    (b := a) rfl fun b hb v _ => ?_
  by_cases hv : b.contains v = true
  · rw [add_of_contains hv]
    exact hb
  · rw [add_of_not_contains hv, hb]

lemma eraseDupsBy_loop {a : Attribute} {vs seen : List AttributeValue}
    (h : a.values = seen.reverse) :
    List.eraseDupsBy.loop (· == ·) vs seen = (a.addAll vs).values := by
  induction vs generalizing a seen with
  | nil => exact h.symm
  | cons v vs ih =>
    have hany : seen.any (v == ·) = a.contains v := by
      rw [Attribute.contains, h, List.any_reverse]
    rw [List.eraseDupsBy.loop, hany]
    by_cases hv : a.contains v = true
    · have hadd : a.addAll (v :: vs) = a.addAll vs :=
        congrArg (fun b : Attribute => b.addAll vs) (add_of_contains hv)
      rw [hadd, ← ih h]
      simp only [hv]
    · have hvalues : (a.add v).values = (v :: seen).reverse := by
        rw [add_values_of_not_contains hv, h, List.reverse_cons]
      simp only [hv]
      exact ih hvalues

/-- Of equal values that are put into an attribute without values, the first is kept. -/
lemma addAll_of_nil (x : String) (vs : List AttributeValue) :
    Attribute.addAll { id := x } vs = { id := x, values := vs.eraseDups } := by
  have hvalues : vs.eraseDups = (Attribute.addAll { id := x } vs).values :=
    eraseDupsBy_loop List.reverse_nil.symm
  rw [addAll_eq, ← hvalues]

lemma contains_iff {a : Attribute} {v : AttributeValue} :
    a.contains v = true ↔ ∃ w ∈ a.values, (v == w) = true :=
  List.any_eq_true

lemma contains_of_mem {a : Attribute} {v : AttributeValue} (h : v ∈ a.values) :
    a.contains v = true :=
  contains_iff.2 ⟨v, h, value_beq_refl v⟩

/-- Equal values are there together. -/
lemma contains_congr {a : Attribute} {v w : AttributeValue} (h : (v == w) = true) :
    a.contains v = true ↔ a.contains w = true := by
  rw [contains_iff, contains_iff]
  exact exists_congr fun u => and_congr_right fun _ =>
    ⟨fun hv => value_beq_trans (BEq.symm h) hv, fun hw => value_beq_trans h hw⟩

lemma mem_of_mem_add {a : Attribute} {v w : AttributeValue} (h : v ∈ (a.add w).values) :
    v ∈ a.values ∨ v = w := by
  by_cases hw : a.contains w = true
  · rw [add_of_contains hw] at h
    exact .inl h
  · rw [add_values_of_not_contains hw] at h
    exact (List.mem_append.1 h).imp_right List.mem_singleton.1

lemma contains_add {a : Attribute} {v w : AttributeValue} :
    (a.add w).contains v = true ↔ a.contains v = true ∨ (v == w) = true := by
  by_cases hw : a.contains w = true
  · rw [add_of_contains hw]
    exact ⟨.inl, fun h => h.elim id fun hv => (contains_congr hv).2 hw⟩
  · rw [contains_iff, contains_iff, add_values_of_not_contains hw]
    simp [or_and_right, exists_or]

lemma contains_addAll {a : Attribute} {v : AttributeValue} {vs : List AttributeValue} :
    (a.addAll vs).contains v = true ↔ a.contains v = true ∨ ∃ w ∈ vs, (v == w) = true := by
  induction vs generalizing a with
  | nil => simp [Attribute.addAll]
  | cons w vs ih =>
    show ((a.add w).addAll vs).contains v = true ↔ _
    rw [ih, contains_add, or_assoc, List.exists_mem_cons_iff]

lemma mem_of_mem_addAll {a : Attribute} {v : AttributeValue} {vs : List AttributeValue}
    (h : v ∈ (a.addAll vs).values) : v ∈ a.values ∨ v ∈ vs := by
  induction vs generalizing a with
  | nil => exact .inl h
  | cons w vs ih =>
    rcases ih h with hadd | hvs
    · rcases mem_of_mem_add hadd with ha | rfl
      · exact .inl ha
      · exact .inr List.mem_cons_self
    · exact .inr (List.mem_cons_of_mem _ hvs)

lemma addAll_values_ne_nil {a : Attribute} {vs : List AttributeValue} (h : vs ≠ []) :
    (a.addAll vs).values ≠ [] := by
  obtain ⟨v, hv⟩ := List.exists_mem_of_ne_nil vs h
  have hcontains : (a.addAll vs).contains v = true :=
    contains_addAll.2 (.inr ⟨v, hv, value_beq_refl v⟩)
  obtain ⟨w, hw, -⟩ := contains_iff.1 hcontains
  exact List.ne_nil_of_mem hw

/-- What is there already changes nothing. -/
lemma addAll_of_contains {a : Attribute} {vs : List AttributeValue}
    (h : ∀ v ∈ vs, a.contains v = true) : a.addAll vs = a := by
  induction vs with
  | nil => rfl
  | cons v vs ih =>
    obtain ⟨hv, hvs⟩ := List.forall_mem_cons.1 h
    show (a.add v).addAll vs = a
    rw [add_of_contains hv, ih hvs]

/-- At a place there is a value that is at no place before it. -/
def First (before : ι → ι → Prop) (P : ι → AttributeValue → Prop) (i : ι) (v : AttributeValue) :
    Prop :=
  P i v ∧ ∀ j w, before j i → P j w → (w == v) = false

section

variable {before : ι → ι → Prop} {P : ι → AttributeValue → Prop} {a : Attribute}

variable [IsStrictOrder ι before]

/-- With one more place, what comes first at the places before it stays. -/
lemma first_snoc_iff {L : List (ι × AttributeValue)} {i : ι} {v : AttributeValue}
    (hlast : ∀ u ∈ L, before u.1 i) {j : ι} {w : AttributeValue} :
    First before (fun j w => (j, w) ∈ L ++ [(i, v)]) j w ↔
      First before (fun j w => (j, w) ∈ L) j w ∨
        (j = i ∧ w = v) ∧ ∀ u ∈ L, (u.2 == v) = false := by
  simp only [First, List.mem_append, List.mem_singleton, Prod.mk.injEq]
  constructor
  · rintro ⟨hj | ⟨rfl, rfl⟩, hfirst⟩
    · exact .inl ⟨hj, fun j' w' hj' hw' => hfirst j' w' hj' (.inl hw')⟩
    · exact .inr ⟨⟨rfl, rfl⟩, fun u hu => hfirst u.1 u.2 (hlast u hu) (.inl hu)⟩
  · rintro (⟨hj, hfirst⟩ | ⟨⟨rfl, rfl⟩, hnew⟩)
    · refine ⟨.inl hj, fun j' w' hj' hw' => ?_⟩
      rcases hw' with hw' | ⟨rfl, rfl⟩
      · exact hfirst j' w' hj' hw'
      · exact absurd (trans_of before hj' (hlast _ hj)) (irrefl_of before j')
    · refine ⟨.inr ⟨rfl, rfl⟩, fun j' w' hj' hw' => ?_⟩
      rcases hw' with hw' | ⟨rfl, rfl⟩
      · exact hnew (j', w') hw'
      · exact absurd hj' (irrefl_of before j')

/-- Of a list of values those are added that come first. -/
lemma addAll_lists {vs : List AttributeValue} (h : Lists before P vs) (hP : Definite P)
    (ha : a.values = []) : Lists before (First before P) (a.addAll vs).values := by
  obtain ⟨L, hsorted, rfl, rfl⟩ := h.exists_pairs hP
  clear h hP
  induction L using List.reverseRecOn with
  | nil => exact ha ▸ lists_nil (by simp [First])
  | append_singleton L u ih =>
    obtain ⟨i, v⟩ := u
    obtain ⟨hL, -, hbehind⟩ := List.pairwise_append.1 hsorted
    have hlast : ∀ u ∈ L, before u.1 i := fun u hu =>
      hbehind u hu _ (List.mem_singleton_self _)
    have hsnoc : a.addAll ((L ++ [(i, v)]).map Prod.snd) =
        (a.addAll (L.map Prod.snd)).add v := by
      rw [List.map_append, Attribute.addAll, List.foldl_append]
      rfl
    -- the value is there already if and only if it has been at a place before
    have hcontains : (a.addAll (L.map Prod.snd)).contains v = true ↔
        ∃ u ∈ L, (v == u.2) = true := by
      rw [contains_addAll, contains_iff, ha]
      simp only [List.not_mem_nil, false_and, exists_false, false_or, List.mem_map,
        exists_exists_and_eq_and]
    rw [hsnoc]
    by_cases hv : (a.addAll (L.map Prod.snd)).contains v = true
    · rw [add_of_contains hv]
      obtain ⟨u, hu, hvu⟩ := hcontains.1 hv
      refine (ih hL).congr fun j w => ?_
      rw [first_snoc_iff hlast]
      refine (or_iff_left fun hnew => ?_).symm
      exact absurd (BEq.symm hvu) (by simp [hnew.2 u hu])
    · rw [add_values_of_not_contains hv]
      have hnew : ∀ u ∈ L, (u.2 == v) = false := fun u hu => by
        rw [value_beq_comm, ← Bool.not_eq_true]
        exact fun hvu => hv (hcontains.2 ⟨u, hu, hvu⟩)
      refine ((ih hL).append (lists_singleton i v) fun j w k _ hj hk => ?_).congr fun j w => ?_
      · exact hk.1 ▸ hlast _ hj.1
      · rw [first_snoc_iff hlast, and_iff_left hnew]

end

/-- Every attribute stands under its own id and holds no value twice. -/
structure WellFormed (m : AttributeMap) : Prop where
  id : ∀ k a, m.find? k = some a → a.id = k
  distinct : ∀ k a, m.find? k = some a → Distinct a.values

lemma empty_wellFormed : WellFormed .empty :=
  ⟨fun _ _ h => absurd h (by simp [SortedMap.find?_empty]),
    fun _ _ h => absurd h (by simp [SortedMap.find?_empty])⟩

lemma WellFormed.insert {m : AttributeMap} {k : String} {a : Attribute} (h : WellFormed m)
    (hid : a.id = k) (ha : Distinct a.values) : WellFormed (m.insert k a) := by
  have hcases : ∀ k' b, (m.insert k a).find? k' = some b → b.id = k' ∧ Distinct b.values := by
    intro k' b hb
    rw [SortedMap.find?_insert] at hb
    by_cases hk : k' = k
    · rw [if_pos hk] at hb
      obtain rfl := Option.some.inj hb
      exact ⟨hid.trans hk.symm, ha⟩
    · rw [if_neg hk] at hb
      exact ⟨h.id k' b hb, h.distinct k' b hb⟩
  exact ⟨fun k' b hb => (hcases k' b hb).1, fun k' b hb => (hcases k' b hb).2⟩

/-- Some values are put to what is there under an id, or to nothing. -/
lemma WellFormed.addTo {m : AttributeMap} (h : WellFormed m) (k : String)
    (vs : List AttributeValue) :
    WellFormed (m.update k fun old => (old.getD { id := k }).addAll vs) := by
  have hold : ((m.find? k).getD { id := k }).id = k ∧
      Distinct ((m.find? k).getD { id := k }).values := by
    cases hk : m.find? k with
    | none => exact ⟨rfl, .nil⟩
    | some a => exact ⟨h.id k a hk, h.distinct k a hk⟩
  refine h.insert ?_ (addAll_distinct hold.2 vs)
  rw [addAll_id, hold.1]

lemma merge_wellFormed {m : AttributeMap} (h : WellFormed m) (a : Attribute) :
    WellFormed (Work.merge m a) := h.addTo a.id a.values

/-- What plugins see of others is in order, whatever those have put out. -/
lemma visible_wellFormed (w : Work σ) (dependencies : List Dependency) :
    WellFormed (w.visible dependencies) :=
  List.foldlRecOn _ Work.merge empty_wellFormed fun _ hm a _ => merge_wellFormed hm a

lemma ofValues_wellFormed (l : List (String × AttributeValue)) :
    WellFormed (AttributeMap.ofValues l) :=
  List.foldlRecOn l _ empty_wellFormed fun _ hm e _ => hm.addTo e.1 [e.2]

/-- Attributes that are listed under their ids. -/
lemma ofList_wellFormed {l : List Attribute} (h : ∀ a ∈ l, Distinct a.values) :
    WellFormed (SortedMap.ofList (l.map fun a => (a.id, a))) := by
  refine List.foldlRecOn _ _ empty_wellFormed fun m hm e he => ?_
  obtain ⟨a, ha, rfl⟩ := List.mem_map.1 he
  exact hm.insert rfl (h a ha)

end AttributeRelease.Proofs.Attributes
