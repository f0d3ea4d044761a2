import AttributeRelease.Proofs.Maps
import AttributeRelease.Proofs.Policy.Meaning

/-!
What matchers know of declared parties.

A party may be declared several times, and the last entry for it counts alone. In that entry the
groups are a chain from the inside out, and an attribute may be listed several times, with all of
its values counting together. A matcher fails where there is nothing to look at: no party in the
request, no entry for it, or an entry without groups; what is missing in a group or under a name is
a no. Each of the two parties is looked up by itself.
-/

namespace AttributeRelease.Proofs.Parties

open AttributeRelease.Proofs.Maps AttributeRelease.Proofs.Meaning

/-- A group that holds the one around it. -/
inductive Linked where
  | outermost (name : String)
  | inside (name : String) (parent : Linked)

namespace Linked

def group : Linked → EntityGroup
  | outermost name => ⟨name, []⟩
  | inside name parent => EntityGroup.withParent ⟨name, []⟩ parent.group

/-- The walk from a group outwards meets a name. -/
def Meets (name : String) : Linked → Prop
  | outermost own => own = name
  | inside own parent => own = name ∨ parent.Meets name

lemma isWithin_group {l : Linked} {name : String} :
    l.group.isWithin name = true ↔ l.Meets name := by
  induction l with
  | outermost own => simp [group, Meets, EntityGroup.isWithin, @eq_comm _ own]
  | inside own parent ih =>
    rw [Meets, ← ih, @eq_comm _ own]
    simp [group, EntityGroup.isWithin, EntityGroup.withParent]

lemma group_injective : Function.Injective group := by
  intro l
  induction l with
  | outermost name =>
    rintro (name' | ⟨name', parent'⟩) h <;> simp_all [group, EntityGroup.withParent]
  | inside name parent ih =>
    rintro (name' | ⟨name', parent'⟩) h
    · simp [group, EntityGroup.withParent] at h
    · simp only [group, EntityGroup.withParent, EntityGroup.mk.injEq, List.cons.injEq] at h
      obtain ⟨rfl, hname, hancestors⟩ := h
      have hparent : parent.group = parent'.group := congrArg₂ EntityGroup.mk hname hancestors
      rw [ih hparent]

lemma group_surjective : Function.Surjective group := by
  rintro ⟨name, ancestors⟩
  induction ancestors generalizing name with
  | nil => exact ⟨outermost name, rfl⟩
  | cons parent rest ih =>
    obtain ⟨l, hl⟩ := ih parent
    refine ⟨inside name l, ?_⟩
    rw [group, hl]
    rfl

/-- Groups with the names of those around them are groups that hold one another. -/
theorem group_bijective : Function.Bijective group := ⟨group_injective, group_surjective⟩

end Linked

lemma chain?_eq_none_iff {names : List String} :
    EntityGroup.chain? names = none ↔ names = [] := by
  cases names <;> simp [EntityGroup.chain?]

/-- A group lies within all groups of its chain. -/
lemma isWithin_of_chain? {names : List String} {g : EntityGroup}
    (h : EntityGroup.chain? names = some g) {name : String} :
    g.isWithin name = true ↔ name ∈ names := by
  cases names with
  | nil => cases h
  | cons first names =>
    obtain rfl := Option.some.inj h
    simp [EntityGroup.isWithin]

/-- A value is listed under a name somewhere in an entry. -/
def IsListed (e : PartyDecl) (name value : String) : Prop :=
  ∃ a ∈ e.attributes, a.name = name ∧ value ∈ a.values

/-- What is known under a name. -/
def valuesUnder (p : PartyDescriptor) (name : String) : List String :=
  (p.attributes.find? name).getD []

@[simp] lemma addValues_entityId (p : PartyDescriptor) (name : String) (values : List String) :
    (p.addValues name values).entityId = p.entityId := rfl

@[simp] lemma addValues_group (p : PartyDescriptor) (name : String) (values : List String) :
    (p.addValues name values).group = p.group := rfl

lemma mem_valuesUnder_addValues {p : PartyDescriptor} {name name' value : String}
    {values : List String} : value ∈ valuesUnder (p.addValues name values) name' ↔
      value ∈ valuesUnder p name' ∨ name = name' ∧ value ∈ values := by
  rw [valuesUnder, PartyDescriptor.addValues, SortedMap.update, SortedMap.find?_insert]
  by_cases h : name' = name
  · subst h
    simp [valuesUnder]
  · simp [h, valuesUnder, Ne.symm h]

/-- Nothing but values is added by listing them. -/
lemma foldl_addValues (l : List EntityAttributeDecl) (p : PartyDescriptor) :
    (l.foldl (fun d a => d.addValues a.name a.values) p).entityId = p.entityId ∧
      (l.foldl (fun d a => d.addValues a.name a.values) p).group = p.group ∧
      ∀ name value, value ∈ valuesUnder (l.foldl (fun d a => d.addValues a.name a.values) p) name ↔
        value ∈ valuesUnder p name ∨ ∃ a ∈ l, a.name = name ∧ value ∈ a.values := by
  induction l generalizing p with
  | nil => simp
  | cons a l ih =>
    obtain ⟨hid, hgroup, hvalues⟩ := ih (p.addValues a.name a.values)
    refine ⟨hid, hgroup, fun name value => ?_⟩
    rw [List.foldl_cons, hvalues, mem_valuesUnder_addValues, or_assoc, List.exists_mem_cons_iff]

lemma build_entityId (e : PartyDecl) : e.build.entityId = e.entityId :=
  (foldl_addValues e.attributes _).1

lemma build_group (e : PartyDecl) : e.build.group = EntityGroup.chain? e.groups :=
  (foldl_addValues e.attributes _).2.1

lemma mem_valuesUnder_build {e : PartyDecl} {name value : String} :
    value ∈ valuesUnder e.build name ↔ IsListed e name value := by
  rw [PartyDecl.build, (foldl_addValues e.attributes _).2.2]
  simp [valuesUnder, SortedMap.find?_empty, IsListed]

/-- The last entry for a party. -/
def IsLast (id : String) (parties : List PartyDecl) (e : PartyDecl) : Prop :=
  (parties.filter (·.entityId = id)).getLast? = some e

lemma exists_isLast_iff {id : String} {parties : List PartyDecl} :
    (∃ e, IsLast id parties e) ↔ ∃ e ∈ parties, e.entityId = id :=
  exists_lastBy_iff

/-- Later entries take the place of earlier ones. -/
lemma find?_build (d : MetadataDecl) (id : String) (p : PartyDescriptor) :
    d.build.find? id = some p ↔ ∃ e, IsLast id d.parties e ∧ e.build = p := by
  have hbuild : d.build = .ofList (d.parties.map fun e => (e.entityId, e.build)) := by
    rw [MetadataDecl.build, Metadata.ofParties, SortedMap.ofList, List.foldl_map, List.foldl_map]
    simp only [Metadata.add, build_entityId]
  rw [hbuild]
  exact find?_ofList_iff

/-! ### Parties of a request -/

variable {d : MetadataDecl} {c : FilterContext} {p : Party}

/-- Nothing is declared of a party: the request does not name it, or there is no entry for it. -/
def Undeclared (d : MetadataDecl) (c : FilterContext) (p : Party) : Prop :=
  c.party p = none ∨ ∃ id, c.party p = some id ∧ ∀ e ∈ d.parties, e.entityId ≠ id

/-- The entry that counts for a party of a request. -/
def Entry (d : MetadataDecl) (c : FilterContext) (p : Party) (e : PartyDecl) : Prop :=
  ∃ id, c.party p = some id ∧ IsLast id d.parties e

lemma metadata_withMetadata (m : Metadata) : (c.withMetadata m).metadata p =
    match c.party p with
    | some id => m.find? id
    | none => c.metadata p := by
  cases p <;> rfl

/-- Nothing is declared and nothing known of a party, or all that is known is in one entry. -/
lemma metadata_cases (h : c.metadata p = none) :
    (Undeclared d c p ∧ (∀ e, ¬ Entry d c p e) ∧ (c.withMetadata d.build).metadata p = none) ∨
      ∃ e, ¬ Undeclared d c p ∧ (∀ e', Entry d c p e' ↔ e' = e) ∧
        (c.withMetadata d.build).metadata p = some e.build := by
  rw [metadata_withMetadata]
  cases hid : c.party p with
  | none => exact .inl ⟨.inl hid, by simp [Entry, hid], h⟩
  | some id =>
    have hfind := find?_build d id
    have hlast := @exists_isLast_iff id d.parties
    cases hp : (d.parties.filter (·.entityId = id)).getLast? with
    | none =>
      have hno : ∀ e, ¬ IsLast id d.parties e := fun e he => by cases hp.symm.trans he
      refine .inl ⟨.inr ⟨id, hid, fun e he heq => ?_⟩, by simp [Entry, hid, hno], ?_⟩
      · obtain ⟨e', he'⟩ := hlast.2 ⟨e, he, heq⟩
        exact hno e' he'
      · exact Option.eq_none_iff_forall_ne_some.2 fun q hq => by simpa [hno] using (hfind q).1 hq
    | some e =>
      have hone : ∀ e', IsLast id d.parties e' ↔ e' = e := fun e' => by
        rw [IsLast, hp, Option.some.injEq, eq_comm]
      refine .inr ⟨e, ?_, by simp [Entry, hid, hone], (hfind _).2 ⟨e, (hone e).2 rfl, rfl⟩⟩
      rintro (hnone | ⟨id', hid', hnot⟩)
      · cases hid.symm.trans hnone
      · obtain rfl := Option.some.inj (hid.symm.trans hid')
        obtain ⟨e', he', heq⟩ := hlast.1 ⟨e, (hone e).2 rfl⟩
        exact hnot e' he' heq

/-- Outcomes that follow what is declared of a party. -/
structure Tells (d : MetadataDecl) (c : FilterContext) (p : Party) (o : Matcher → Tristate) :
    Prop where
  group_fail : ∀ g, o (.inEntityGroup p g) = .fail ↔
    Text.isBlank g = true ∨ Undeclared d c p ∨ ∃ e, Entry d c p e ∧ e.groups = []
  group_yes : ∀ g, o (.inEntityGroup p g) = .yes ↔
    Text.isBlank g = false ∧ ∃ e, Entry d c p e ∧ g ∈ e.groups
  group_no : ∀ g, o (.inEntityGroup p g) = .no ↔
    Text.isBlank g = false ∧ ∃ e, Entry d c p e ∧ e.groups ≠ [] ∧ g ∉ e.groups
  attribute_fail : ∀ name test, o (.entityAttribute p name test) = .fail ↔ Undeclared d c p
  attribute_yes : ∀ name test, o (.entityAttribute p name test) = .yes ↔
    ∃ e, Entry d c p e ∧ ∃ value, IsListed e name value ∧ test.holds value = true
  attribute_no : ∀ name test, o (.entityAttribute p name test) = .no ↔
    ∃ e, Entry d c p e ∧ ∀ value, IsListed e name value → test.holds value = false

lemma inEntityGroup_of_none (h : c.metadata p = none) (g : String) :
    Matcher.ofRequest c (.inEntityGroup p g) = .fail := by
  simp [Matcher.ofRequest, h]

lemma entityAttribute_of_none (h : c.metadata p = none) (name : String) (test : TextTest) :
    Matcher.ofRequest c (.entityAttribute p name test) = .fail := by
  simp [Matcher.ofRequest, h]

/-- A group that is asked for is looked for in the groups of the entry. -/
lemma inEntityGroup_of_entry {e : PartyDecl} (h : c.metadata p = some e.build) (g : String) :
    Matcher.ofRequest c (.inEntityGroup p g) =
      if Text.isBlank g = true ∨ e.groups = [] then .fail else .ofBool (g ∈ e.groups) := by
  rw [Matcher.ofRequest, h, Option.bind_some, build_group]
  cases hchain : EntityGroup.chain? e.groups with
  | none =>
    have hnil := chain?_eq_none_iff.1 hchain
    simp [hnil]
  | some chain =>
    have hne : e.groups ≠ [] := fun hnil => by simp [chain?_eq_none_iff.2 hnil] at hchain
    have hwithin : chain.isWithin g = decide (g ∈ e.groups) :=
      Bool.eq_iff_iff.2 (by rw [isWithin_of_chain? hchain, decide_eq_true_iff])
    simp [hne, hwithin]

lemma entityAttribute_of_entry {e : PartyDecl} (h : c.metadata p = some e.build) (name : String)
    (test : TextTest) : Matcher.ofRequest c (.entityAttribute p name test) =
      .ofBool ((valuesUnder e.build name).any test.holds) := by
  rw [Matcher.ofRequest, h, valuesUnder]
  cases hvalues : e.build.attributes.find? name <;> simp [hvalues]

/-- An outcome that fails under a condition and is a truth value otherwise. -/
lemma ite_fail_iff {C : Prop} [Decidable C] {b : Bool} {t : Tristate}
    (ht : t = if C then .fail else .ofBool b) :
    (t = .fail ↔ C) ∧ (t = .yes ↔ ¬ C ∧ b = true) ∧ (t = .no ↔ ¬ C ∧ b = false) := by
  subst ht
  by_cases hC : C <;> cases b <;> simp [hC, Tristate.ofBool]

lemma ofRequest_tells (h : c.metadata p = none) :
    Tells d c p (Matcher.ofRequest (c.withMetadata d.build)) := by
  rcases metadata_cases (d := d) h with ⟨hun, hno, hmeta⟩ | ⟨e, hun, hone, hmeta⟩
  · have hgroup := inEntityGroup_of_none hmeta
    have hattribute := entityAttribute_of_none hmeta
    constructor <;> simp [hgroup, hattribute, hun, hno]
  · have hentry : ∀ {P : PartyDecl → Prop}, (∃ e', Entry d c p e' ∧ P e') ↔ P e := by
      simp [hone]
    have hgroup := fun g => ite_fail_iff (inEntityGroup_of_entry hmeta g)
    have hattribute := fun name test =>
      ite_fail_iff ((entityAttribute_of_entry hmeta name test).trans (if_neg not_false).symm)
    have hvalues : ∀ name test, (valuesUnder e.build name).any (TextTest.holds test) = true ↔
        ∃ value, IsListed e name value ∧ test.holds value = true := fun name test => by
      simp [List.any_eq_true, mem_valuesUnder_build]
    refine ⟨fun g => ?_, fun g => ?_, fun g => ?_, fun name test => ?_, fun name test => ?_,
      fun name test => ?_⟩
    · rw [(hgroup g).1, hentry]
      simp [hun]
    · rw [(hgroup g).2.1, hentry]
      grind
    · rw [(hgroup g).2.2, hentry]
      grind
    · rw [(hattribute name test).1]
      simp [hun]
    · rw [(hattribute name test).2.1, hentry, hvalues]
      simp
    · rw [(hattribute name test).2.2, hentry, ← Bool.not_eq_true, hvalues]
      simp

/-- **Matchers tell what is declared of a party**, for requests and for values, whatever the other
party is. -/
theorem withMetadata_tells (d : MetadataDecl) {c : FilterContext} {p : Party}
    (h : c.metadata p = none) (q : Question) :
    Tells d c p (outcome (c.withMetadata d.build) q) := by
  have tells := ofRequest_tells (d := d) h
  cases q with
  | request => exact tells
  | value attributeId v =>
    exact ⟨tells.group_fail, tells.group_yes, tells.group_no, tells.attribute_fail,
      tells.attribute_yes, tells.attribute_no⟩

/-- The second entry for the service counts. Nothing but its id is declared of the university. -/
def federation : MetadataDecl where
  parties := [
    { entityId := "https://sp.example", groups := ["https://guests.example"]
      attributes := [⟨"category", ["hidden"]⟩] },
    { entityId := "https://idp.example" },
    { entityId := "https://sp.example"
      groups := ["https://lab.example", "https://campus.example"]
      attributes := [⟨"category", ["research"]⟩, ⟨"country", ["ch"]⟩, ⟨"category", ["library"]⟩] }]

def atUniversity : FilterContext where
  requester := some "https://sp.example"
  issuer := some "https://idp.example"

/-- What a matcher comes out as with the federation known. -/
def told (m : Matcher) : Tristate := outcome (atUniversity.withMetadata federation.build) .request m

theorem federation_tells : (∀ p, atUniversity.metadata p = none) ∧
    (∀ p, Tells federation atUniversity p told) ∧
    told (.inEntityGroup .requester "https://campus.example") = .yes ∧
    told (.inEntityGroup .requester "https://guests.example") = .no ∧
    told (.inEntityGroup .issuer "https://campus.example") = .fail ∧
    told (.entityAttribute .requester "category" (.same "library")) = .yes ∧
    told (.entityAttribute .requester "category" (.same "hidden")) = .no ∧
    told (.entityAttribute .issuer "category" (.same "library")) = .no := by
  have hnone : ∀ p, atUniversity.metadata p = none := fun p => by cases p <;> rfl
  exact ⟨hnone, fun p => withMetadata_tells federation (hnone p) .request, by decide +kernel,
    by decide +kernel, by decide +kernel, by decide +kernel, by decide +kernel, by decide +kernel⟩

end AttributeRelease.Proofs.Parties
