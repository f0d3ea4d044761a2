import AttributeRelease.Proofs.Resolution.Derivation

/-!
What plugins see of those that they depend on.

The attributes that dependencies let through are merged one by one. Each merge brings in an id and
some values and takes nothing away, so the order of the dependencies shows in the order of values
only, and what would bring in nothing new makes no difference. Definitions make the same of values
in whatever order they find them.
-/

namespace AttributeRelease.Proofs.Merging

open AttributeRelease.Proofs.Attributes AttributeRelease.Proofs.Derivation
open AttributeRelease.Proofs.Maps

variable {σ : Type} {m n : AttributeMap} {a : Attribute} {x : String} {v : AttributeValue}

/-- There is a value under an id, be it another one that is equal to it. -/
def Has (m : AttributeMap) (x : String) (v : AttributeValue) : Prop :=
  ∃ a, m.find? x = some a ∧ a.contains v = true

lemma contains_merge_iff :
    (Work.merge m a).contains x = true ↔ m.contains x = true ∨ a.id = x := by
  rw [Work.merge, SortedMap.update, SortedMap.contains_insert_iff, or_comm,
    @eq_comm _ x]

lemma has_merge_iff :
    Has (Work.merge m a) x v ↔ Has m x v ∨ a.id = x ∧ ∃ u ∈ a.values, (v == u) = true := by
  have hold : ((m.find? a.id).getD { id := a.id }).contains v = true ↔ Has m a.id v := by
    unfold Has
    cases m.find? a.id <;> simp [Attribute.contains]
  rw [Has, Work.merge, SortedMap.update, SortedMap.find?_insert]
  by_cases hx : x = a.id
  · subst hx
    simp only [if_pos, Option.some.injEq, exists_eq_left', contains_addAll, hold, true_and]
  · simp [hx, Ne.symm hx, Has]

/-- All that an attribute would bring in is there. -/
def Holds (m : AttributeMap) (a : Attribute) : Prop :=
  m.contains a.id = true ∧ ∀ u ∈ a.values, Has m a.id u

lemma merge_of_holds (h : Holds m a) : Work.merge m a = m := by
  obtain ⟨b, hb⟩ := (SortedMap.contains_iff m a.id).1 h.1
  have hall : ∀ u ∈ a.values, b.contains u = true := by
    intro u hu
    obtain ⟨b', hb', hcontains⟩ := h.2 u hu
    obtain rfl := Option.some.inj (hb.symm.trans hb')
    exact hcontains
  refine eq_of_find? fun k => ?_
  rw [Work.merge, SortedMap.update, SortedMap.find?_insert, hb, Option.getD_some,
    addAll_of_contains hall]
  split
  · next hk => rw [hk, hb]
  · rfl

variable {as : List Attribute}

lemma contains_foldl_merge_iff : (as.foldl Work.merge m).contains x = true ↔
    m.contains x = true ∨ ∃ a ∈ as, a.id = x := by
  induction as generalizing m with
  | nil => simp
  | cons a as ih => rw [List.foldl_cons, ih, contains_merge_iff, or_assoc, List.exists_mem_cons_iff]

lemma has_foldl_merge_iff : Has (as.foldl Work.merge m) x v ↔
    Has m x v ∨ ∃ a ∈ as, a.id = x ∧ ∃ u ∈ a.values, (v == u) = true := by
  induction as generalizing m with
  | nil => simp
  | cons a as ih => rw [List.foldl_cons, ih, has_merge_iff, or_assoc, List.exists_mem_cons_iff]

lemma foldl_merge_holds (h : a ∈ as) : Holds (as.foldl Work.merge m) a :=
  ⟨contains_foldl_merge_iff.2 (.inr ⟨a, h, rfl⟩),
    fun u hu => has_foldl_merge_iff.2 (.inr ⟨a, h, rfl, u, hu, value_beq_refl u⟩)⟩

lemma foldl_merge_of_holds (h : ∀ a ∈ as, Holds m a) : as.foldl Work.merge m = m := by
  induction as with
  | nil => rfl
  | cons a as ih =>
    obtain ⟨ha, has⟩ := List.forall_mem_cons.1 h
    rw [List.foldl_cons, merge_of_holds ha, ih has]

variable {w : Work σ} {l l' l₁ l₂ l₃ : List Dependency} {d d' : Dependency}

/-- What comes through one dependency. -/
def through (w : Work σ) (d : Dependency) : List Attribute :=
  ((w.outputs.find? d.plugin).map (Work.exposed d)).getD []

lemma visible_eq (w : Work σ) (l : List Dependency) :
    w.visible l = (l.flatMap (through w)).foldl Work.merge .empty := rfl

lemma visible_append (w : Work σ) (l l' : List Dependency) :
    w.visible (l ++ l') = (l'.flatMap (through w)).foldl Work.merge (w.visible l) := by
  rw [visible_eq, List.flatMap_append, List.foldl_append]
  rfl

/-- Two maps have the same keys and, up to equality, the same values under each. -/
structure Agree (m n : AttributeMap) : Prop where
  contains_iff : ∀ x, m.contains x = true ↔ n.contains x = true
  has_iff : ∀ x v, Has m x v ↔ Has n x v

lemma visible_agree (h : ∀ d, d ∈ l ↔ d ∈ l') : Agree (w.visible l) (w.visible l') := by
  have hmem : ∀ a, a ∈ l.flatMap (through w) ↔ a ∈ l'.flatMap (through w) := fun a => by
    simp only [List.mem_flatMap, h]
  constructor
  · intro x
    simp only [visible_eq, contains_foldl_merge_iff, hmem]
  · intro x v
    simp only [visible_eq, has_foldl_merge_iff, hmem]

/-- A dependency on all that a plugin puts out covers those on single attributes of it. -/
def Covers (d d' : Dependency) : Prop :=
  d' = d ∨ d'.plugin = d.plugin ∧ d.sourceAttribute = none

lemma Covers.subset (h : Covers d d') : through w d' ⊆ through w d := by
  rcases h with rfl | ⟨hplugin, hall⟩
  · exact List.Subset.refl _
  · intro a ha
    unfold through at ha ⊢
    rw [hplugin] at ha
    cases hout : w.outputs.find? d.plugin with
    | none => rwa [hout] at ha
    | some out =>
      rw [hout] at ha
      cases out with
      | inactive => exact ha
      | definition value => exact ha
      | connector attributes =>
        simp only [Option.map_some, Option.getD_some, Work.exposed, hall] at ha ⊢
        rw [SortedMap.mem_values_iff]
        cases hsource : d'.sourceAttribute with
        | none =>
          rw [hsource] at ha
          exact (SortedMap.mem_values_iff _ _).1 ha
        | some name =>
          rw [hsource] at ha
          exact ⟨name, Option.mem_toList.1 ha⟩

lemma visible_of_covers (h : Covers d d') :
    w.visible (l₁ ++ d :: l₂ ++ d' :: l₃) = w.visible (l₁ ++ d :: l₂ ++ l₃) := by
  -- what comes through the later dependency has been merged in with the earlier one
  have hholds : ∀ a ∈ through w d', Holds (w.visible (l₁ ++ d :: l₂)) a := fun a ha =>
    foldl_merge_holds (List.mem_flatMap.2 ⟨d, by simp, h.subset ha⟩)
  rw [visible_append w (l₁ ++ d :: l₂), visible_append w (l₁ ++ d :: l₂), List.flatMap_cons,
    List.foldl_append, foldl_merge_of_holds hholds]

/-- A dependency on a plugin that is not active, or on a definition that came to nothing. -/
def Silent (w : Work σ) (d : Dependency) : Prop :=
  w.outputs.find? d.plugin = some .inactive ∨ w.outputs.find? d.plugin = some (.definition none)

lemma Silent.through_eq (h : Silent w d) : through w d = [] := by
  unfold through
  rcases h with h | h <;> rw [h] <;> rfl

lemma visible_of_silent (h : Silent w d) :
    w.visible (l₁ ++ d :: l₂) = w.visible (l₁ ++ l₂) := by
  rw [visible_append, visible_append, List.flatMap_cons, h.through_eq, List.nil_append]

/-! ### Definitions -/

/-- Every value on one side is equal to one on the other. -/
def Within (vs vs' : List AttributeValue) : Prop := ∀ u ∈ vs, ∃ u' ∈ vs', (u == u') = true

variable {takes : AttributeValue → Prop} {makes : AttributeValue → AttributeValue → Prop}
  {vs vs' us us' : List AttributeValue}

/-- Definitions treat equal values the same. -/
lemma Treats.congr {kind : DefinitionKind σ} (h : Treats kind takes makes) {u u' : AttributeValue}
    (hu : (u == u') = true) :
    (takes u → takes u') ∧ ∀ v, makes u v → ∃ v', makes u' v' ∧ (v == v') = true := by
  cases h with
  | simple => exact ⟨id, fun v hv => ⟨u', rfl, hv ▸ hu⟩⟩
  | withScope scope =>
    constructor
    · rintro ⟨s, rfl⟩
      exact ⟨s, eq_of_beq_text hu rfl⟩
    · rintro v ⟨s, rfl, rfl⟩
      exact ⟨_, ⟨s, eq_of_beq_text hu rfl, rfl⟩, value_beq_refl _⟩
  | regexSplit p =>
    constructor
    · rintro (⟨s, rfl⟩ | ⟨s, scope, rfl⟩)
      · exact .inl ⟨s, eq_of_beq_text hu rfl⟩
      · exact .inr ⟨s, scope, eq_of_beq_text hu rfl⟩
    · rintro v ⟨s, g, hs, hholds, hg, rfl⟩
      obtain rfl := eq_of_beq_text hu hs
      exact ⟨_, ⟨s, g, hs, hholds, hg, rfl⟩, value_beq_refl _⟩

lemma Within.taken {kind : DefinitionKind σ} (h : Treats kind takes makes) (hvs : Within vs vs')
    (htakes : ∀ u ∈ vs', takes u) : ∀ u ∈ vs, takes u := by
  intro u hu
  obtain ⟨u', hu', heq⟩ := hvs u hu
  exact (Treats.congr h (BEq.symm heq)).1 (htakes u' hu')

lemma Within.made {kind : DefinitionKind σ} (h : Treats kind takes makes) (hvs : Within vs vs')
    (hus : ∀ v, v ∈ us ↔ ∃ u ∈ vs, makes u v) (hus' : ∀ v, v ∈ us' ↔ ∃ u ∈ vs', makes u v) :
    Within us us' := by
  intro v hv
  obtain ⟨u, hu, hmakes⟩ := (hus v).1 hv
  obtain ⟨u', hu', heq⟩ := hvs u hu
  obtain ⟨v', hmakes', heq'⟩ := (Treats.congr h heq).2 v hmakes
  exact ⟨v', (hus' v').2 ⟨u', hu', hmakes'⟩, heq'⟩

lemma Within.contains (h : Within vs vs') {a b : Attribute} (ha : a.values = [])
    (hv : (a.addAll vs).contains v = true) : (b.addAll vs').contains v = true := by
  rw [contains_addAll] at hv ⊢
  rcases hv with hv | ⟨u, hu, hvu⟩
  · obtain ⟨u, hu, -⟩ := contains_iff.1 hv
    rw [ha] at hu
    cases hu
  · obtain ⟨u', hu', heq⟩ := h u hu
    exact .inr ⟨u', hu', value_beq_trans hvu heq⟩

lemma Agree.symm (h : Agree m n) : Agree n m :=
  ⟨fun x => (h.contains_iff x).symm, fun x v => (h.has_iff x v).symm⟩

lemma Agree.within (h : Agree m n) : Within m.allValues n.allValues := by
  intro u hu
  obtain ⟨i, a, ha, hget⟩ := mem_allValues_iff.1 hu
  have hhas : Has m i.1 u := ⟨a, ha, contains_of_mem (List.mem_of_getElem? hget)⟩
  obtain ⟨b, hb, hcontains⟩ := (h.has_iff _ _).1 hhas
  obtain ⟨u', hu', heq⟩ := Attributes.contains_iff.1 hcontains
  obtain ⟨j, hj⟩ := List.getElem?_of_mem hu'
  exact ⟨u', mem_allValues_iff.2 ⟨(i.1, j), b, hb, hj⟩, heq⟩

/-- Two outcomes of a definition that differ in the order of values at most, if they are no
failures. -/
structure SameOutcome (o o' : Except PluginError (Option Attribute)) : Prop where
  succeeds_iff : (∃ r, o = .ok r) ↔ ∃ r, o' = .ok r
  none_iff : o = .ok none ↔ o' = .ok none
  contains_iff : ∀ a b, o = .ok (some a) → o' = .ok (some b) →
    ∀ v, a.contains v = true ↔ b.contains v = true

section

variable {d : AttributeDefinition σ} {q : Request} {s : σ}

variable (h : Treats d.kind takes makes) (hag : Agree m n)
include h hag

lemma compute_none_of_agree (hm : (d.compute ⟨q, m⟩ s).1 = .ok none) :
    (d.compute ⟨q, n⟩ s).1 = .ok none := by
  obtain ⟨r, hr⟩ : ∃ r, (d.compute ⟨q, n⟩ s).1 = .ok r :=
    (exists_compute_ok_iff h).2 (hag.symm.within.taken h ((exists_compute_ok_iff h).1 ⟨_, hm⟩))
  obtain ⟨us, -, hus, hnone⟩ := exists_of_compute_eq_ok h hm
  obtain ⟨us', -, hus', rfl⟩ := exists_of_compute_eq_ok h hr
  obtain rfl := ofValues_eq_none_iff.1 hnone
  have hnil : us' = [] := List.eq_nil_iff_forall_not_mem.2 fun u hu => by
    obtain ⟨u', hu', -⟩ := hag.symm.within.made h hus' hus u hu
    cases hu'
  rw [hr, ofValues_eq_none_iff.2 hnil]

lemma compute_contains_of_agree {a b : Attribute} (ha : (d.compute ⟨q, m⟩ s).1 = .ok (some a))
    (hb : (d.compute ⟨q, n⟩ s).1 = .ok (some b)) (hv : a.contains v = true) :
    b.contains v = true := by
  obtain ⟨us, -, hus, hsome⟩ := exists_of_compute_eq_ok h ha
  obtain ⟨us', -, hus', hsome'⟩ := exists_of_compute_eq_ok h hb
  rw [Attribute.contains, ofValues_values hsome] at hv
  rw [Attribute.contains, ofValues_values hsome']
  exact (hag.within.made h hus hus').contains rfl hv

lemma compute_same : SameOutcome (d.compute ⟨q, m⟩ s).1 (d.compute ⟨q, n⟩ s).1 where
  succeeds_iff := by
    rw [exists_compute_ok_iff h, exists_compute_ok_iff h]
    exact ⟨hag.symm.within.taken h, hag.within.taken h⟩
  none_iff := ⟨compute_none_of_agree h hag, compute_none_of_agree h hag.symm⟩
  contains_iff a b ha hb v :=
    ⟨compute_contains_of_agree h hag ha hb, compute_contains_of_agree h hag.symm hb ha⟩

end

/-- **How dependencies are listed shows in the order of values only.** Lists of the same
dependencies lead to the same keys, with the same values under each and none of them twice, and
definitions come to the same over them. A dependency that is covered by an earlier one makes no
difference at all, nor does one on a plugin that is not active or on a definition that came to
nothing, which is what a definition without values comes to. -/
theorem visible_agrees (w : Work σ) :
    (∀ l, WellFormed (w.visible l)) ∧
    (∀ l l' : List Dependency, (∀ d, d ∈ l ↔ d ∈ l') → Agree (w.visible l) (w.visible l') ∧
      ∀ (d : AttributeDefinition σ) takes makes q s, Treats d.kind takes makes →
        SameOutcome (d.compute ⟨q, w.visible l⟩ s).1 (d.compute ⟨q, w.visible l'⟩ s).1) ∧
    (∀ l₁ l₂ l₃ d d', Covers d d' →
      w.visible (l₁ ++ d :: l₂ ++ d' :: l₃) = w.visible (l₁ ++ d :: l₂ ++ l₃)) ∧
    (∀ l₁ l₂ d, Silent w d → w.visible (l₁ ++ d :: l₂) = w.visible (l₁ ++ l₂)) ∧
    ∀ (d : AttributeDefinition σ) v s a, (d.compute v s).1 = .ok (some a) → a.values ≠ [] := by
  refine ⟨visible_wellFormed w, fun l l' h => ⟨visible_agree h, ?_⟩, ?_, ?_, ?_⟩
  · exact fun d takes makes q s htreats => compute_same htreats (visible_agree h)
  · exact fun l₁ l₂ l₃ d d' => visible_of_covers
  · exact fun l₁ l₂ d => visible_of_silent
  · exact fun d v s a => compute_values_ne_nil

/-- Two connectors know the same attribute, with one value in common, and another plugin is off. -/
def twoSources : Work Unit where
  outputs := .ofList [
    ("a", .connector (.ofList [("mail", { id := "mail", values := [.string "x", .string "y"] })])),
    ("b", .connector (.ofList [("mail", { id := "mail", values := [.string "z", .string "x"] })])),
    ("off", .inactive)]
  world := ()

def allMail : AttributeDefinition Unit where
  id := "allMail"
  kind := .simple

/-- The values of an attribute in a map, as they are shown. -/
def shownUnder (m : AttributeMap) (x : String) : Option (List String) :=
  (m.find? x).map (·.values.map (·.shown))

theorem twoSources_agree :
    Agree (twoSources.visible [⟨"a", none⟩, ⟨"b", none⟩])
      (twoSources.visible [⟨"b", none⟩, ⟨"a", none⟩]) ∧
    SameOutcome (allMail.compute ⟨{}, twoSources.visible [⟨"a", none⟩, ⟨"b", none⟩]⟩ ()).1
      (allMail.compute ⟨{}, twoSources.visible [⟨"b", none⟩, ⟨"a", none⟩]⟩ ()).1 ∧
    twoSources.visible [⟨"a", none⟩, ⟨"b", none⟩, ⟨"a", some "mail"⟩] =
      twoSources.visible [⟨"a", none⟩, ⟨"b", none⟩] ∧
    twoSources.visible [⟨"off", none⟩, ⟨"a", none⟩] = twoSources.visible [⟨"a", none⟩] ∧
    shownUnder (twoSources.visible [⟨"a", none⟩, ⟨"b", none⟩]) "mail" = some ["x", "y", "z"] ∧
    shownUnder (twoSources.visible [⟨"b", none⟩, ⟨"a", none⟩]) "mail" = some ["z", "x", "y"] := by
  obtain ⟨-, hsame, hcovers, hsilent, -⟩ := visible_agrees twoSources
  obtain ⟨hagree, hcompute⟩ := hsame [⟨"a", none⟩, ⟨"b", none⟩] [⟨"b", none⟩, ⟨"a", none⟩]
    fun d => by simp [or_comm]
  refine ⟨hagree, hcompute allMail _ _ {} () .simple, ?_, ?_, by decide +kernel,
    by decide +kernel⟩
  · exact hcovers [] [⟨"b", none⟩] [] ⟨"a", none⟩ ⟨"a", some "mail"⟩ (.inr ⟨rfl, rfl⟩)
  · exact hsilent [] [⟨"a", none⟩] ⟨"off", none⟩ (.inl rfl)

end AttributeRelease.Proofs.Merging
