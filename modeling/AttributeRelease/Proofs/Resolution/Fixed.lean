import AttributeRelease.Declaration.Build
import AttributeRelease.Proofs.Resolution.Gathering

/-!
What a connector gives whose attributes are declared with it.

Its declaration lists attributes, and may list one id several times. The last entry for an id counts
and takes the place of those before it. So everything that is declared is given if and only if no
entry has a value that the last one for its id has not.
-/

namespace AttributeRelease.Proofs.Fixed

open AttributeRelease.Proofs.Attributes AttributeRelease.Proofs.Gathering
open AttributeRelease.Proofs.Maps

variable {σ : Type}

variable (x : StaticAttributeDecl)

lemma build_id : x.build.id = x.id := addAll_id _ _

lemma build_bare : x.build = { id := x.id, values := x.build.values } := addAll_eq _ _

lemma build_distinct : Distinct x.build.values := addAll_distinct_of_nil rfl _

lemma mem_build_values {v : AttributeValue} :
    v ∈ x.build.values ↔ ∃ s ∈ x.values, v = .string s := by
  constructor
  · intro hv
    rcases mem_of_mem_addAll hv with hnone | hv
    · cases hnone
    · obtain ⟨s, hs, rfl⟩ := List.mem_map.1 hv
      exact ⟨s, hs, rfl⟩
  · rintro ⟨s, hs, rfl⟩
    have hcontains : x.build.contains (.string s) = true :=
      contains_addAll.2 (.inr ⟨_, List.mem_map.2 ⟨s, hs, rfl⟩, value_beq_refl _⟩)
    obtain ⟨w, hw, heq⟩ := contains_iff.1 hcontains
    exact eq_of_beq_text heq rfl ▸ hw

/-- What comes of a list of entries. -/
def attributesOf (l : List StaticAttributeDecl) : AttributeMap :=
  .ofList (l.map fun x => (x.id, x.build))

/-- Under each id that is listed stands what its last entry has, each value once. -/
structure KeepsLast (l : List StaticAttributeDecl) (m : AttributeMap) : Prop where
  contains_iff : ∀ id, m.contains id = true ↔ ∃ x ∈ l, x.id = id
  /-- There is nothing to an attribute but its id and its values. -/
  bare : ∀ id a, m.find? id = some a → a = { id, values := a.values }
  distinct : ∀ id a, m.find? id = some a → Distinct a.values
  values : ∀ id a, m.find? id = some a →
    ∃ x, LastBy (·.id) id l x ∧ ∀ v, v ∈ a.values ↔ ∃ s ∈ x.values, v = .string s

/-- Under each id that is listed stands what any of its entries has, each value once. -/
structure KeepsAll (l : List StaticAttributeDecl) (m : AttributeMap) : Prop where
  contains_iff : ∀ id, m.contains id = true ↔ ∃ x ∈ l, x.id = id
  distinct : ∀ id a, m.find? id = some a → Distinct a.values
  values : ∀ id a, m.find? id = some a →
    ∀ v, v ∈ a.values ↔ ∃ x ∈ l, x.id = id ∧ ∃ s ∈ x.values, v = .string s

variable {l : List StaticAttributeDecl}

lemma find?_attributesOf {id : String} {a : Attribute} :
    (attributesOf l).find? id = some a ↔ ∃ x, LastBy (·.id) id l x ∧ x.build = a :=
  find?_ofList_iff

lemma contains_attributesOf {id : String} :
    (attributesOf l).contains id = true ↔ ∃ x ∈ l, x.id = id := by
  rw [SortedMap.contains_iff]
  simp only [find?_attributesOf]
  constructor
  · rintro ⟨_, x, hx, -⟩
    exact ⟨x, hx.mem⟩
  · intro h
    obtain ⟨x, hx⟩ := exists_lastBy_iff.2 h
    exact ⟨_, x, hx, rfl⟩

lemma attributesOf_keepsLast (l : List StaticAttributeDecl) : KeepsLast l (attributesOf l) := by
  refine ⟨fun _ => contains_attributesOf, fun id a ha => ?_, fun id a ha => ?_, fun id a ha => ?_⟩
  all_goals obtain ⟨x, hx, rfl⟩ := find?_attributesOf.1 ha
  · obtain ⟨-, rfl⟩ := hx.mem
    exact build_bare x
  · exact build_distinct x
  · exact ⟨x, hx, fun v => mem_build_values x⟩

/-- What is in other entries than the last has to be in the last one as well. -/
lemma keepsAll_iff : KeepsAll l (attributesOf l) ↔
    ∀ x ∈ l, ∀ y, LastBy (·.id) x.id l y → x.values ⊆ y.values := by
  constructor
  · intro h x hx y hy s hs
    have hvalue : .string s ∈ y.build.values :=
      (h.values x.id y.build (find?_attributesOf.2 ⟨y, hy, rfl⟩) _).2 ⟨x, hx, rfl, s, hs, rfl⟩
    obtain ⟨s', hs', heq⟩ := (mem_build_values y).1 hvalue
    exact AttributeValue.string.inj heq ▸ hs'
  · intro h
    have hlast := attributesOf_keepsLast l
    refine ⟨hlast.contains_iff, hlast.distinct, fun id a ha v => ?_⟩
    obtain ⟨y, hy, rfl⟩ := find?_attributesOf.1 ha
    rw [mem_build_values]
    constructor
    · rintro ⟨s, hs, rfl⟩
      obtain ⟨hmem, hid⟩ := hy.mem
      exact ⟨y, hmem, hid, s, hs, rfl⟩
    · rintro ⟨x, hx, rfl, s, hs, rfl⟩
      exact ⟨s, h x hx y hy hs, rfl⟩

lemma isEmpty_attributesOf : (attributesOf l).isEmpty = false ↔ l ≠ [] := by
  rw [isEmpty_eq_false_iff]
  simp only [contains_attributesOf]
  constructor
  · rintro ⟨_, x, hx, -⟩
    exact List.ne_nil_of_mem hx
  · intro h
    obtain ⟨x, hx⟩ := List.exists_mem_of_ne_nil l h
    exact ⟨x.id, x, hx, rfl⟩

/-! ### Connectors -/

/-- A connector that is declared with a list of entries. -/
def declare (d : ConnectorDecl) (l : List StaticAttributeDecl) : ConnectorDecl :=
  { d with source := .fixed l }

/-- **What a connector with declared attributes gives** is what the last entry for each id has, and
nothing if there are no entries. It is what all entries have just if those that do not count have
nothing of their own. -/
theorem declared_keepsLast (b : Backends σ) (d : ConnectorDecl) (l : List StaticAttributeDecl) :
    ∃ c m, (declare d l).build b = .ok c ∧ KeepsLast l m ∧
      (∀ v s, ∃ reported, c.retrieve v s = (reported, s) ∧
        Reports c (.ok m) (l ≠ []) reported) ∧
      (KeepsAll l m ↔ ∀ x ∈ l, ∀ y, LastBy (·.id) x.id l y → x.values ⊆ y.values) := by
  have hsource : (ConnectorSource.ofAttributes (l.map (·.build)) : ConnectorSource σ) =
      .fixed (attributesOf l) := by
    rw [ConnectorSource.ofAttributes, List.map_map, attributesOf]
    congr 2
    exact List.map_congr_left fun x _ => Prod.ext (build_id x) rfl
  refine ⟨_, attributesOf l, rfl, attributesOf_keepsLast l, fun v s => ?_, keepsAll_iff⟩
  refine ⟨_, ?_, outcome_reports _ isEmpty_attributesOf⟩
  rw [DataConnector.retrieve, hsource]
  rfl

def listedTwice : List StaticAttributeDecl :=
  [⟨"mail", ["ada@a.example"]⟩, ⟨"mail", ["ada@b.example"]⟩]

/-- The connector of these entries. -/
def forgetful : DataConnector Unit :=
  ((declare { id := "staff", source := .fixed [] } listedTwice).build {}).toOption.get rfl

/-- A connector that is built and complete may give less than what is declared of it. -/
theorem listedTwice_not_kept :
    (declare { id := "staff", source := .fixed [] } listedTwice).build {} = .ok forgetful ∧
    forgetful.checkSettings = .ok () ∧
    ∃ m, forgetful.retrieve ⟨{}, .empty⟩ () = (.ok (some m), ()) ∧ ¬ KeepsAll listedTwice m := by
  refine ⟨rfl, rfl, attributesOf listedTwice, rfl, fun h => ?_⟩
  have hfind : (attributesOf listedTwice).find? "mail" =
      some { id := "mail", values := [.string "ada@b.example"] } := rfl
  have hvalue := (h.values "mail" _ hfind (.string "ada@a.example")).2
    ⟨_, List.mem_cons_self, rfl, _, List.mem_cons_self, rfl⟩
  simp at hvalue

end AttributeRelease.Proofs.Fixed
