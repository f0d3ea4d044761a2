import AttributeRelease.Proofs.Maps
import AttributeRelease.Proofs.Policy.Built
import AttributeRelease.Proofs.Policy.Information

/-!
One more policy in a filter.

Wherever it is put among the others, a policy whose requirement is met adds its rules to those that
apply, and nothing else changes. Its permissions can only let more out and its denials only less,
each under the keys that its rules name.
-/

namespace AttributeRelease.Proofs.Insertion

open AttributeRelease.Proofs.Information AttributeRelease.Proofs.Maps
open AttributeRelease.Proofs.Outcomes AttributeRelease.Proofs.Release

variable {f f' : AttributeFilter} {c : FilterContext} {k : String} {v : AttributeValue}

/-- No permission is given by an empty list of them. -/
lemma permit_ne_nil {r : AttributeRule} (h : r.permits c v = .yes) : r.permit ≠ [] := by
  intro hnil
  simp [AttributeRule.permits, hnil, any_eq_yes_iff] at h

/-- A value stays out for want of a rule that permits it or by a rule that denies it. -/
lemma releases_of_rules (hpermit : ∀ r, Applies f c k r → r.permit ≠ [] → Applies f' c k r)
    (hdeny : ∀ r, Applies f' c k r → r.deny ≠ [] → Applies f c k r) (h : Releases f c k v) :
    Releases f' c k v where
  permitted := by
    obtain ⟨r, hr, hyes⟩ := h.permitted
    exact ⟨r, hpermit r hr (permit_ne_nil (answers_permit_iff.1 hyes)), hyes⟩
  not_denied r hr hne := h.not_denied r (hdeny r hr hne) hne

lemma survives_of_rules (hpermit : ∀ r, Applies f c k r → r.permit ≠ [] → Applies f' c k r)
    (hdeny : ∀ r, Applies f' c k r → r.deny ≠ [] → Applies f c k r) {a : Attribute} {i : ℕ}
    (h : Survives f c k a i) : Survives f' c k a i := by
  obtain ⟨v, hv, hout⟩ := h
  exact ⟨v, hv, releases_of_rules hpermit hdeny hout⟩

/-- With the same rules for a key, the same goes out under it. -/
lemma find?_filtered_of_applies (h : ∀ r, Applies f' c k r ↔ Applies f c k r) :
    (f.run c).2.filtered.find? k = (f'.run c).2.filtered.find? k := by
  have hsurvives : ∀ a, Survives f c k a = Survives f' c k a := by
    intro a
    funext i
    refine propext ⟨survives_of_rules ?_ ?_, survives_of_rules ?_ ?_⟩
    · exact fun r hr _ => (h r).2 hr
    · exact fun r hr _ => (h r).1 hr
    · exact fun r hr _ => (h r).1 hr
    · exact fun r hr _ => (h r).2 hr
  simp only [find?_filtered, hsurvives]

lemma applies_insert_iff {ps qs : List FilterPolicy} {p : FilterPolicy} {r : AttributeRule}
    (hf : f.policies = ps ++ qs) (hf' : f'.policies = ps ++ p :: qs) : Applies f' c k r ↔
    Applies f c k r ∨ p.requirement.ofRequest c = .yes ∧ r ∈ p.rules ∧ r.attributeId = k := by
  simp only [Applies, hf, hf', List.mem_append, List.mem_cons]
  constructor
  · rintro ⟨q, hq | rfl | hq, hr⟩
    · exact .inl ⟨q, .inl hq, hr⟩
    · exact .inr hr
    · exact .inl ⟨q, .inr hq, hr⟩
  · rintro (⟨q, hq | hq, hr⟩ | hr)
    · exact ⟨q, .inl hq, hr⟩
    · exact ⟨q, .inr (.inr hq), hr⟩
    · exact ⟨p, .inr (.inl rfl), hr⟩

/-! ### Filters -/

/-- What a policy does that is in the second filter and not in the first. -/
structure Inserts (p : FilterPolicy) (f f' : AttributeFilter) (c : FilterContext) : Prop where
  letsOut : ∀ k a, c.unfiltered.find? k = some a →
    LetsOut f c k a (Survives f c k a) ∧ LetsOut f' c k a (Survives f' c k a)
  permits : (∀ r ∈ p.rules, r.deny = []) → ∀ k a, c.unfiltered.find? k = some a →
    ∀ i, Survives f c k a i → Survives f' c k a i
  denies : (∀ r ∈ p.rules, r.permit = []) → ∀ k a, c.unfiltered.find? k = some a →
    ∀ i, Survives f' c k a i → Survives f c k a i
  apart : ∀ k, (∀ r ∈ p.rules, r.attributeId ≠ k) →
    (f.run c).2.filtered.find? k = (f'.run c).2.filtered.find? k
  unmet : p.requirement.ofRequest c = .no ∨ p.requirement.ofRequest c = .fail →
    (f.run c).2.filtered = (f'.run c).2.filtered

/-- **What one more policy does** to what goes out, wherever it is put among the others. -/
theorem run_inserts {id id' : String} {ps qs : List FilterPolicy} {p : FilterPolicy}
    {f f' : AttributeFilter} (hf : AttributeFilter.build id (ps ++ qs) = .ok f)
    (hf' : AttributeFilter.build id' (ps ++ p :: qs) = .ok f') (c : FilterContext) :
    Inserts p f f' c := by
  have happlies : ∀ k r, Applies f' c k r ↔
      Applies f c k r ∨ p.requirement.ofRequest c = .yes ∧ r ∈ p.rules ∧ r.attributeId = k := by
    have hps : f.policies = ps ++ qs := by rw [(Built.build_eq_ok_iff.1 hf).1]
    have hps' : f'.policies = ps ++ p :: qs := by rw [(Built.build_eq_ok_iff.1 hf').1]
    exact fun k r => applies_insert_iff hps hps'
  have hold : ∀ k r, Applies f c k r → Applies f' c k r := fun k r hr => (happlies k r).2 (.inl hr)
  refine ⟨fun k a ha => ⟨letsOut_survives ha, letsOut_survives ha⟩, fun hdeny k a _ i => ?_,
    fun hpermit k a _ i => ?_, fun k hk => ?_, fun hreq => ?_⟩
  · refine survives_of_rules (fun r hr _ => hold k r hr) fun r hr hne => ?_
    exact ((happlies k r).1 hr).resolve_right fun h => hne (hdeny r h.2.1)
  · refine survives_of_rules (fun r hr hne => ?_) fun r hr _ => hold k r hr
    exact ((happlies k r).1 hr).resolve_right fun h => hne (hpermit r h.2.1)
  · refine find?_filtered_of_applies fun r => (happlies k r).trans (or_iff_left ?_)
    exact fun h => hk r h.2.1 h.2.2
  · refine eq_of_find? fun k => find?_filtered_of_applies fun r =>
      (happlies k r).trans (or_iff_left fun h => ?_)
    rcases hreq with hno | hfail
    · exact absurd (hno.symm.trans h.1) (by simp)
    · exact absurd (hfail.symm.trans h.1) (by simp)

def generous : FilterPolicy where
  id := "generous"
  requirement := .leaf .any
  rules := [{ attributeId := "mail", permit := [.leaf .any] },
    { attributeId := "name", permit := [.leaf .any] }]

def discreet : FilterPolicy where
  id := "discreet"
  requirement := .leaf (.partyId .requester (.same "https://crawler.example"))
  rules := [{ attributeId := "mail", deny := [.leaf .any] }]

def generousOnly : AttributeFilter := (AttributeFilter.build "list" [generous]).toOption.get rfl

def withDiscreet : AttributeFilter :=
  (AttributeFilter.build "list" [discreet, generous]).toOption.get rfl

def crawled : FilterContext where
  requester := some "https://crawler.example"
  unfiltered := .ofList [("mail", { id := "mail", values := [.string "ada@b.example"] }),
    ("name", { id := "name", values := [.string "Ada"] })]

theorem discreet_inserts : AttributeFilter.build "list" ([] ++ [generous]) = .ok generousOnly ∧
    AttributeFilter.build "list" ([] ++ discreet :: [generous]) = .ok withDiscreet ∧
    Inserts discreet generousOnly withDiscreet crawled ∧
    (generousOnly.run crawled).1.released = ["mail", "name"] ∧
    (withDiscreet.run crawled).1.released = ["name"] :=
  have honly : AttributeFilter.build "list" ([] ++ [generous]) = .ok generousOnly := rfl
  have hwith : AttributeFilter.build "list" ([] ++ discreet :: [generous]) = .ok withDiscreet := rfl
  ⟨honly, hwith, run_inserts honly hwith crawled, rfl, rfl⟩

end AttributeRelease.Proofs.Insertion
