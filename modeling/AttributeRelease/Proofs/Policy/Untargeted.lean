import AttributeRelease.Proofs.Policy.Definite
import AttributeRelease.Proofs.Policy.Exact

/-!
Filters that look at each value by itself.

A matcher that names no attribute sees the request and the one value that it is asked about. If all
matchers of a filter are of that sort, what becomes of a value hangs on the value, the key that it
stands under and the request. Values that went out once then go out again.
-/

namespace AttributeRelease.Proofs.Untargeted

open AttributeRelease.Proofs.Definite AttributeRelease.Proofs.Exact AttributeRelease.Proofs.Maps
open AttributeRelease.Proofs.Release AttributeRelease.Proofs.Verdicts

/-- The attribute that a matcher names, if it names one. -/
def target? : Matcher → Option String
  | .attributeValue target _ => target
  | .attributeScope target _ => target
  | _ => none

/-- All trees of a policy. -/
def trees (p : FilterPolicy) : List MatchRule :=
  p.requirement :: p.rules.flatMap fun r => r.permit ++ r.deny

/-- No matcher names an attribute, wherever it stands. -/
def NamesNoAttribute (f : AttributeFilter) : Prop :=
  ∀ p ∈ f.policies, ∀ t ∈ trees p, ∀ m ∈ leaves t, target? m = none

/-- Contexts in which the same is known but for the attributes. -/
structure SameRequest (c c' : FilterContext) : Prop where
  principal : c.principal = c'.principal
  requester : c.requester = c'.requester
  issuer : c.issuer = c'.issuer
  requesterMetadata : c.requesterMetadata = c'.requesterMetadata
  issuerMetadata : c.issuerMetadata = c'.issuerMetadata

variable {c c' : FilterContext} {k : String} {v : AttributeValue}

lemma SameRequest.symm (h : SameRequest c c') : SameRequest c' c :=
  ⟨h.principal.symm, h.requester.symm, h.issuer.symm, h.requesterMetadata.symm,
    h.issuerMetadata.symm⟩

lemma matcher_ofRequest_eq (h : SameRequest c c') {m : Matcher} (hm : target? m = none) :
    m.ofRequest c = m.ofRequest c' := by
  -- the two contexts become one but for their attributes
  obtain ⟨_, _, _, _, _, _, _⟩ := c
  obtain ⟨rfl, rfl, rfl, rfl, rfl⟩ := h
  cases m with
  | attributeValue target test =>
    obtain rfl : target = none := hm
    rfl
  | attributeScope target test =>
    obtain rfl : target = none := hm
    rfl
  | _ => rfl

lemma matcher_ofValue_eq (h : SameRequest c c') {m : Matcher} (hm : target? m = none) :
    m.ofValue c k v = m.ofValue c' k v := by
  have hrequest := matcher_ofRequest_eq h hm
  cases m with
  | attributeValue target test =>
    obtain rfl : target = none := hm
    rfl
  | attributeScope target test =>
    obtain rfl : target = none := hm
    rfl
  | _ => simpa only [Matcher.ofValue] using hrequest

lemma anyOfValue_eq (h : SameRequest c c') {ts : List MatchRule}
    (hts : ∀ t ∈ ts, ∀ m ∈ leaves t, target? m = none) :
    Tristate.any (ts.map fun t => t.ofValue c k v) =
      Tristate.any (ts.map fun t => t.ofValue c' k v) := by
  refine congrArg Tristate.any (List.map_congr_left fun t ht => ?_)
  exact evaluate_congr fun m hm => matcher_ofValue_eq h (hts t ht m hm)

variable {f : AttributeFilter} {r : AttributeRule}

lemma applies_iff (hf : NamesNoAttribute f) (h : SameRequest c c') :
    Applies f c k r ↔ Applies f c' k r := by
  have hrequirement : ∀ p ∈ f.policies, p.requirement.ofRequest c = p.requirement.ofRequest c' := by
    intro p hp
    refine evaluate_congr fun m hm => matcher_ofRequest_eq h (hf p hp _ ?_ m hm)
    exact List.mem_cons_self
  constructor
  · rintro ⟨p, hp, hreq, hr⟩
    exact ⟨p, hp, hrequirement p hp ▸ hreq, hr⟩
  · rintro ⟨p, hp, hreq, hr⟩
    exact ⟨p, hp, (hrequirement p hp).trans hreq, hr⟩

lemma untargeted_of_applies (hf : NamesNoAttribute f) (hr : Applies f c k r) :
    ∀ t ∈ r.permit ++ r.deny, ∀ m ∈ leaves t, target? m = none := by
  obtain ⟨p, hp, -, hmem, -⟩ := hr
  intro t ht
  exact hf p hp t (List.mem_cons_of_mem _ (List.mem_flatMap.2 ⟨r, hmem, ht⟩))

lemma permits_eq (hf : NamesNoAttribute f) (h : SameRequest c c') (hr : Applies f c k r) :
    r.permits c v = r.permits c' v :=
  anyOfValue_eq h fun t ht => untargeted_of_applies hf hr t (List.mem_append_left _ ht)

lemma denies_eq (hf : NamesNoAttribute f) (h : SameRequest c c') (hr : Applies f c k r) :
    r.denies c v = r.denies c' v :=
  anyOfValue_eq h fun t ht => untargeted_of_applies hf hr t (List.mem_append_right _ ht)

lemma releases_of_sameRequest (hf : NamesNoAttribute f) (h : SameRequest c c')
    (hv : Releases f c k v) : Releases f c' k v where
  permitted := by
    obtain ⟨r, hr, hyes⟩ := hv.permitted
    rw [answers_permit_iff, permits_eq hf h hr] at hyes
    exact ⟨r, (applies_iff hf h).1 hr, answers_permit_iff.2 hyes⟩
  not_denied r hr hdeny := by
    have hr' := (applies_iff hf h).2 hr
    have hno := hv.not_denied r hr' hdeny
    rw [answers_deny_iff, answers_deny_iff] at hno ⊢
    rwa [← denies_eq hf h hr']

/-! ### The filter -/

/-- Whether a value under a key goes out in a context. -/
def keeps (f : AttributeFilter) (c : FilterContext) (k : String) (v : AttributeValue) : Bool :=
  (verdict c (rulesFor k (applicable f c)) v).survives

lemma keeps_eq (hf : NamesNoAttribute f) (h : SameRequest c c') : keeps f c k = keeps f c' k := by
  funext v
  rw [Bool.eq_iff_iff, keeps, keeps, survives_iff, survives_iff]
  exact ⟨releases_of_sameRequest hf h, releases_of_sameRequest hf h.symm⟩

/-- What goes out of an attribute: some of its values, and nothing if there are none. -/
def letOut (keep : AttributeValue → Bool) (a : Attribute) : Option Attribute :=
  if (a.retain keep).isEmpty then none else some (a.retain keep)

lemma find?_run (f : AttributeFilter) (c : FilterContext) (k : String) :
    (f.run c).2.filtered.find? k = (c.unfiltered.find? k).bind (letOut (keeps f c k)) := by
  have hkeep : ∀ a, keepAt a (Survives f c k a) = a.retain (keeps f c k) := fun a => by
    rw [keepAt_survives, Attribute.retain_eq]
    rfl
  rw [find?_filtered]
  simp only [hkeep]
  rfl

lemma letOut_again {keep : AttributeValue → Bool} {a b : Attribute}
    (h : letOut keep a = some b) : letOut keep b = some b := by
  unfold letOut at h
  split at h
  · exact absurd h (by simp)
  · next hne =>
    obtain rfl := Option.some.inj h
    have hretain : (a.retain keep).retain keep = a.retain keep := by
      simp [Attribute.retain_eq, List.filter_filter]
    rw [letOut, hretain, if_neg hne]

lemma keeps_of_letOut {keep : AttributeValue → Bool} {a b : Attribute}
    (h : letOut keep a = some b) : ∀ v ∈ b.values, keep v = true := by
  unfold letOut at h
  split at h
  · exact absurd h (by simp)
  · obtain rfl := Option.some.inj h
    rw [Attribute.retain_eq]
    exact fun v hv => (List.mem_filter.1 hv).2

lemma not_contested (hv : keeps f c k v = true) : contested f c k v = false := by
  rw [keeps, Verdict.survives, Bool.and_eq_true, Bool.not_eq_true'] at hv
  rw [contested, hv.2, Bool.and_false]

section Again

variable (hf : NamesNoAttribute f) (h : SameRequest c c')
  (hagain : c'.unfiltered = (f.run c).2.filtered)

include hf h hagain

/-- What has been let out is let out again. -/
lemma letOut_of_filtered {a : Attribute} (ha : c'.unfiltered.find? k = some a) :
    letOut (keeps f c' k) a = some a ∧ ∀ v ∈ a.values, keeps f c' k v = true := by
  rw [hagain, find?_run, Option.bind_eq_some_iff] at ha
  obtain ⟨b, -, hb⟩ := ha
  rw [← keeps_eq hf h]
  exact ⟨letOut_again hb, keeps_of_letOut hb⟩

lemma filtered_again : (f.run c').2.filtered = c'.unfiltered := by
  refine eq_of_find? fun k => ?_
  rw [find?_run]
  cases ha : c'.unfiltered.find? k with
  | none => rfl
  | some a => exact (letOut_of_filtered hf h hagain ha).1

lemma removed_again : (f.run c').1.removed = [] := by
  have hperm := (Report.released_append_removed_perm f c').length_eq
  have hreleased : (f.run c').1.released = c'.unfiltered.keys :=
    congrArg SortedMap.keys (filtered_again hf h hagain)
  rw [List.length_append, hreleased] at hperm
  exact List.eq_nil_of_length_eq_zero (by omega)

lemma deniedValues_again : (f.run c').1.deniedValues = 0 := by
  rw [deniedValues_eq, List.sum_eq_zero]
  intro n hn
  obtain ⟨e, he, rfl⟩ := List.mem_map.1 hn
  have ha := (SortedMap.find?_eq_some_iff _ _ _).2 he
  refine List.countP_eq_zero.2 fun v hv => ?_
  rw [not_contested ((letOut_of_filtered hf h hagain ha).2 v hv)]
  exact Bool.false_ne_true

end Again

/-- Two requests of which the same is known are treated alike key by key and value by value, and
what went out in the first goes out whole if it comes in again with the second. -/
structure TreatsAlike (f : AttributeFilter) (c c' : FilterContext) : Prop where
  key : ∀ k, c.unfiltered.find? k = c'.unfiltered.find? k →
    (f.run c).2.filtered.find? k = (f.run c').2.filtered.find? k
  value : ∀ k, ∃ keep : AttributeValue → Bool, ∀ d, SameRequest c d → ∀ a,
    d.unfiltered.find? k = some a → (f.run d).2.filtered.find? k = letOut keep a
  again : c'.unfiltered = (f.run c).2.filtered → (f.run c').2.filtered = c'.unfiltered ∧
    (f.run c').1.removed = [] ∧ (f.run c').1.deniedValues = 0

/-- **What becomes of a value hangs on nothing beside it**, if no matcher names an attribute. -/
theorem run_treatsAlike (f : AttributeFilter) (hf : NamesNoAttribute f) {c c' : FilterContext}
    (h : SameRequest c c') : TreatsAlike f c c' := by
  refine ⟨fun k hk => ?_, fun k => ⟨keeps f c k, fun d hd a ha => ?_⟩, fun hagain => ?_⟩
  · rw [find?_run, find?_run, hk, keeps_eq hf h]
  · rw [find?_run, ha, Option.bind_some, keeps_eq hf hd]
  · exact ⟨filtered_again hf h hagain, removed_again hf h hagain,
      deniedValues_again hf h hagain⟩

/-- Members are known to everyone, students to no one, and mail goes to the library. -/
def campus : AttributeFilter :=
  (AttributeFilter.build "campus" [
    { id := "affiliation", requirement := .leaf .any
      rules := [{
        attributeId := "affiliation", permit := [.leaf .any]
        deny := [.leaf (.attributeValue none (.same "student"))] }] },
    { id := "library", requirement := .leaf (.partyId .requester (.same "https://library.example"))
      rules := [{ attributeId := "mail", permit := [.leaf .any] }] }]).toOption.get rfl

def affiliation : Attribute where
  id := "affiliation"
  values := [.string "student", .string "member"]

def fromShop : FilterContext where
  requester := some "https://shop.example"
  unfiltered := .ofList [("affiliation", affiliation), ("mail", { id := "mail" })]

def fromShopAgain : FilterContext :=
  { fromShop with unfiltered := (campus.run fromShop).2.filtered }

theorem campus_treatsAlike : NamesNoAttribute campus ∧ SameRequest fromShop fromShopAgain ∧
    TreatsAlike campus fromShop fromShopAgain ∧
    (campus.run fromShop).1.removed = ["mail"] ∧ (campus.run fromShop).1.deniedValues = 1 ∧
    (campus.run fromShopAgain).1.released = ["affiliation"] := by
  have hnames : NamesNoAttribute campus := by
    show ∀ p ∈ campus.policies, ∀ t ∈ trees p, ∀ m ∈ leaves t, target? m = none
    decide
  have hsame : SameRequest fromShop fromShopAgain := ⟨rfl, rfl, rfl, rfl, rfl⟩
  exact ⟨hnames, hsame, run_treatsAlike campus hnames hsame, rfl, rfl, rfl⟩

end AttributeRelease.Proofs.Untargeted
