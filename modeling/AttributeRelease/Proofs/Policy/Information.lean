import AttributeRelease.Proofs.Policy.Definite
import AttributeRelease.Proofs.Policy.Release

/-!
What is not known about a request releases nothing more.

A matcher that looks for something that is missing fails, and with it known may come out as
anything. So a rule has with less known either the outcome that it has with more known, or none.
A permission that was given stays then, and a denial that was decided stays out. What has to be
asked for is that a policy with a denial in it is decided: with its requirement failing, it could
come to deny something only with more known.
-/

namespace AttributeRelease.Proofs.Information

open AttributeRelease.Proofs.Definite AttributeRelease.Proofs.Release

/-- The same attributes in a request of which nothing else is known that is not known the same way
in the second context. -/
structure KnowsLess (c c' : FilterContext) : Prop where
  unfiltered : c.unfiltered = c'.unfiltered
  principal : c.principal = none ∨ c.principal = c'.principal
  requester : c.requester = none ∨ c.requester = c'.requester
  issuer : c.issuer = none ∨ c.issuer = c'.issuer
  requesterMetadata : c.requesterMetadata = none ∨ c.requesterMetadata = c'.requesterMetadata
  issuerMetadata : c.issuerMetadata = none ∨ c.issuerMetadata = c'.issuerMetadata

variable {c c' : FilterContext} {k : String} {v : AttributeValue}

lemma KnowsLess.party (h : KnowsLess c c') (p : Party) :
    c.party p = none ∨ c.party p = c'.party p := by
  cases p with
  | requester => exact h.requester
  | issuer => exact h.issuer

lemma KnowsLess.metadata (h : KnowsLess c c') (p : Party) :
    c.metadata p = none ∨ c.metadata p = c'.metadata p := by
  cases p with
  | requester => exact h.requesterMetadata
  | issuer => exact h.issuerMetadata

lemma known_le (test : TextTest) {s s' : Option String} (h : s = none ∨ s = s') :
    Le (Matcher.known test s) (Matcher.known test s') := by
  rcases h with rfl | rfl
  · exact .inl rfl
  · exact .refl _

lemma someValue_eq (h : KnowsLess c c') (target : String) (p : AttributeValue → Bool) :
    Matcher.someValue c target p = Matcher.someValue c' target p := by
  rw [Matcher.someValue, Matcher.someValue, h.unfiltered]

lemma matcher_ofRequest_le (h : KnowsLess c c') (m : Matcher) :
    Le (m.ofRequest c) (m.ofRequest c') := by
  cases m with
  | any => exact .refl _
  | partyId p test => exact known_le test (h.party p)
  | principal test => exact known_le test h.principal
  | attributeValue target test =>
    cases target with
    | none => exact .refl _
    | some target => exact .inr (someValue_eq h target _)
  | attributeScope target test =>
    cases target with
    | none => exact .refl _
    | some target => exact .inr (someValue_eq h target _)
  | inEntityGroup p group =>
    rcases h.metadata p with hp | hp
    · exact .inl (by simp [Matcher.ofRequest, hp])
    · exact .inr (by simp only [Matcher.ofRequest, hp])
  | entityAttribute p attributeId test =>
    rcases h.metadata p with hp | hp
    · exact .inl (by simp [Matcher.ofRequest, hp])
    · exact .inr (by simp only [Matcher.ofRequest, hp])

lemma ite_le {b : Bool} {t u u' : Tristate} (h : Le u u') :
    Le (if b then t else u) (if b then t else u') := by
  cases b with
  | true => exact .refl t
  | false => exact h

/-- A test of the value itself needs nothing of the request. -/
lemma matcher_ofValue_le (h : KnowsLess c c') (k : String) (v : AttributeValue) (m : Matcher) :
    Le (m.ofValue c k v) (m.ofValue c' k v) := by
  have hrequest := matcher_ofRequest_le h m
  cases m with
  | attributeValue target test => exact ite_le hrequest
  | attributeScope target test => exact ite_le hrequest
  | _ => simpa only [Matcher.ofValue] using hrequest

lemma ofRequest_le (h : KnowsLess c c') (t : MatchRule) : Le (t.ofRequest c) (t.ofRequest c') :=
  evaluate_le t fun m _ => matcher_ofRequest_le h m

lemma anyOfValue_le (h : KnowsLess c c') (k : String) (v : AttributeValue) (ts : List MatchRule) :
    Le (.any (ts.map fun t => t.ofValue c k v)) (.any (ts.map fun t => t.ofValue c' k v)) := by
  refine any_le ?_
  rw [List.forall₂_map_left_iff, List.forall₂_map_right_iff, List.forall₂_same]
  exact fun t _ => evaluate_le t fun m _ => matcher_ofValue_le h k v m

lemma permits_le (h : KnowsLess c c') (r : AttributeRule) (v : AttributeValue) :
    Le (r.permits c v) (r.permits c' v) :=
  anyOfValue_le h r.attributeId v r.permit

lemma denies_le (h : KnowsLess c c') (r : AttributeRule) (v : AttributeValue) :
    Le (r.denies c v) (r.denies c' v) :=
  anyOfValue_le h r.attributeId v r.deny

/-! ### The filter -/

/-- Every policy that may deny something knows whether it applies. -/
def DenialsDecided (f : AttributeFilter) (c : FilterContext) : Prop :=
  ∀ p ∈ f.policies, (∃ r ∈ p.rules, r.deny ≠ []) → p.requirement.ofRequest c ≠ .fail

variable {f : AttributeFilter} {r : AttributeRule}

lemma applies_of_knowsLess (h : KnowsLess c c') (hr : Applies f c k r) : Applies f c' k r := by
  obtain ⟨p, hp, hreq, hmem, hk⟩ := hr
  refine ⟨p, hp, ?_, hmem, hk⟩
  rw [(ofRequest_le h p.requirement).eq (by simp [hreq]), hreq]

/-- A rule that comes to deny with more known was there to deny before. -/
lemma applies_of_denies (h : KnowsLess c c') (hf : DenialsDecided f c) (hdeny : r.deny ≠ [])
    (hr : Applies f c' k r) : Applies f c k r := by
  obtain ⟨p, hp, hreq, hmem, hk⟩ := hr
  refine ⟨p, hp, ?_, hmem, hk⟩
  rw [← (ofRequest_le h p.requirement).eq (hf p hp ⟨r, hmem, hdeny⟩), hreq]

lemma releases_of_knowsLess (h : KnowsLess c c') (hf : DenialsDecided f c)
    (hv : Releases f c k v) : Releases f c' k v where
  permitted := by
    obtain ⟨r, hr, hyes⟩ := hv.permitted
    rw [answers_permit_iff] at hyes
    refine ⟨r, applies_of_knowsLess h hr, ?_⟩
    rw [answers_permit_iff, (permits_le h r v).eq (by simp [hyes]), hyes]
  not_denied r hr hdeny := by
    have hno := hv.not_denied r (applies_of_denies h hf hdeny hr) hdeny
    rw [answers_deny_iff, answers_deny_iff] at hno ⊢
    rwa [(denies_le h r v).eq hno.2]

/-- What goes out under a key are the values of an attribute at some positions, and nothing if
there are none. -/
def LetsOut (f : AttributeFilter) (c : FilterContext) (k : String) (a : Attribute) (p : ℕ → Prop) :
    Prop :=
  (f.run c).2.filtered.find? k = if (keepAt a p).isEmpty then none else some (keepAt a p)

lemma letsOut_survives {a : Attribute} (ha : c.unfiltered.find? k = some a) :
    LetsOut f c k a (Survives f c k a) := by
  rw [LetsOut, find?_filtered, ha, Option.bind_some]

/-- **Knowing less releases no more.** The positions of an attribute that go out with less known
are among those that go out with more known, if no policy with a denial in it is left undecided. -/
theorem run_knowsLess (f : AttributeFilter) {c c' : FilterContext} (h : KnowsLess c c')
    (hf : DenialsDecided f c) (k : String) (a : Attribute) (ha : c.unfiltered.find? k = some a) :
    LetsOut f c k a (Survives f c k a) ∧ LetsOut f c' k a (Survives f c' k a) ∧
      ∀ i, Survives f c k a i → Survives f c' k a i := by
  refine ⟨letsOut_survives ha, letsOut_survives (h.unfiltered ▸ ha), ?_⟩
  rintro i ⟨v, hv, hout⟩
  exact ⟨v, hv, releases_of_knowsLess h hf hout⟩

/-- Names go to everyone, mail addresses to all requesters but one. -/
def guarded : AttributeFilter :=
  (AttributeFilter.build "guarded" [{
    id := "contact"
    requirement := .leaf .any
    rules := [
      { attributeId := "mail", permit := [.leaf .any]
        deny := [.leaf (.partyId .requester (.same "https://crawler.example"))] },
      { attributeId := "name", permit := [.leaf .any] }] }]).toOption.get rfl

def mail : Attribute := { id := "mail", values := [.string "ada@b.example"] }

def name : Attribute := { id := "name", values := [.string "Ada"] }

def anonymous : FilterContext := { unfiltered := .ofList [("mail", mail), ("name", name)] }

def signed : FilterContext := { anonymous with requester := some "https://sp.example" }

theorem anonymous_knowsLess :
    KnowsLess anonymous signed ∧ DenialsDecided guarded anonymous ∧
    (guarded.run anonymous).1.released = ["name"] ∧
    (guarded.run signed).1.released = ["mail", "name"] ∧
    LetsOut guarded anonymous "name" name (Survives guarded anonymous "name" name) ∧
    LetsOut guarded signed "name" name (Survives guarded signed "name" name) ∧
    ∀ i, Survives guarded anonymous "name" name i → Survives guarded signed "name" name i := by
  have hless : KnowsLess anonymous signed :=
    ⟨rfl, .inl rfl, .inl rfl, .inl rfl, .inl rfl, .inl rfl⟩
  have hdecided : DenialsDecided guarded anonymous := by
    intro p hp _
    obtain rfl := List.mem_singleton.1 hp
    simp [MatchRule.ofRequest, MatchRule.evaluate, Matcher.ofRequest]
  exact ⟨hless, hdecided, rfl, rfl, run_knowsLess guarded hless hdecided "name" name rfl⟩

end AttributeRelease.Proofs.Information
