import AttributeRelease.Proofs.Provenance
import Mathlib.Data.String.Basic

/-!
What definitions make of the values that they see.

Simple, scoped and regex-split definitions go through all values of all attributes, in the order of
the keys. Each takes some values and refuses the others, and what it makes of a value depends on
that value alone. One value that is refused makes it fail, wherever it stands; otherwise the
attribute has what was made, each value where it comes first.
-/

namespace AttributeRelease.Proofs.Derivation

open AttributeRelease.Proofs.Attributes AttributeRelease.Proofs.Checks
open AttributeRelease.Proofs.Listing AttributeRelease.Proofs.Maps AttributeRelease.Proofs.Provenance

variable {ι σ : Type}

/-- A pattern makes a value of another if it matches the text of that one, and records a first group
in it. -/
def Captures (p : ValuePattern) (w u : AttributeValue) : Prop :=
  ∃ s g, w.text? = some s ∧ p.holds s = true ∧ p.regex.capture? s 1 = some g ∧ u = .string g

/-- The values that a kind of definition takes, and what it makes of a value. A scope goes to plain
texts only, and a pattern takes scoped values too. -/
inductive Treats : DefinitionKind σ → (takes : AttributeValue → Prop) →
    (makes : AttributeValue → AttributeValue → Prop) → Prop
  | simple : Treats .simple (fun _ => True) fun w u => u = w
  | withScope (scope : String) : Treats (.withScope scope) (fun w => ∃ s, w = .string s)
      fun w u => ∃ s, w = .string s ∧ u = .withScope s scope
  | regexSplit (p : ValuePattern) :
      Treats (.regexSplit p) (fun w => (∃ s, w = .string s) ∨ ∃ s scope, w = .withScope s scope)
        (Captures p)

variable {takes : AttributeValue → Prop} {makes : AttributeValue → AttributeValue → Prop}

/-- A value comes to one value at most, or is refused for its kind. -/
inductive Comes (takes : AttributeValue → Prop) (makes : AttributeValue → AttributeValue → Prop)
    (w : AttributeValue) : Except PluginError (Option AttributeValue) → Prop
  | nothing (h : takes w) (hmakes : ∀ u, ¬ makes w u) : Comes takes makes w (.ok none)
  | value (h : takes w) (v : AttributeValue) (hmakes : ∀ u, makes w u ↔ u = v) :
      Comes takes makes w (.ok (some v))
  | refused (h : ¬ takes w) (hmakes : ∀ u, ¬ makes w u) :
      Comes takes makes w (.error (.unsupportedValueType w.kind))

section

variable {w : AttributeValue} {x : Except PluginError (Option AttributeValue)}

lemma Comes.exists_ok_iff (h : Comes takes makes w x) : (∃ o, x = .ok o) ↔ takes w := by
  cases h <;> simp [*]

lemma Comes.error_iff {e : PluginError} (h : Comes takes makes w x) :
    x = .error e ↔ ¬ takes w ∧ e = .unsupportedValueType w.kind := by
  cases h <;> simp [*, eq_comm]

lemma Comes.value_iff {u : AttributeValue} (h : Comes takes makes w x) :
    x.toOption.join = some u ↔ makes w u := by
  cases h <;> simp [*, Except.toOption, eq_comm]

end

lemma holds_of_capture? {p : ValuePattern} {s g : String} {group : ℕ}
    (h : p.regex.capture? s group = some g) : p.holds s = true := by
  obtain ⟨saves, hsaves, -⟩ := Option.bind_eq_some_iff.1 h
  exact Option.isSome_iff_exists.2 ⟨saves, hsaves⟩

lemma captures_iff {p : ValuePattern} {w u : AttributeValue} {s : String} (hs : w.text? = some s) :
    Captures p w u ↔ (p.regex.capture? s 1).map .string = some u := by
  rw [Option.map_eq_some_iff]
  constructor
  · rintro ⟨s', g, hs', -, hg, rfl⟩
    obtain rfl := Option.some.inj (hs.symm.trans hs')
    exact ⟨g, hg, rfl⟩
  · rintro ⟨g, hg, rfl⟩
    exact ⟨s, g, hs, holds_of_capture? hg, hg, rfl⟩

lemma split_comes {p : ValuePattern} {w : AttributeValue} {s : String} (h : takes w)
    (hs : w.text? = some s) : Comes takes (Captures p) w (DefinitionKind.split p w) := by
  have hsplit : DefinitionKind.split p w = .ok ((p.regex.capture? s 1).map .string) := by
    rw [DefinitionKind.split, hs]
  rw [hsplit]
  cases hg : p.regex.capture? s 1 with
  | none => exact .nothing h fun u => by simp [captures_iff hs, hg]
  | some g => exact .value h (.string g) fun u => by simp [captures_iff hs, hg, eq_comm]

/-- Of one value one other is made at most. -/
lemma Treats.unique {kind : DefinitionKind σ} (h : Treats kind takes makes)
    {w u u' : AttributeValue} (hu : makes w u) (hu' : makes w u') : u = u' := by
  cases h with
  | simple => exact hu.trans hu'.symm
  | withScope scope =>
    obtain ⟨s, rfl, rfl⟩ := hu
    obtain ⟨s', heq, rfl⟩ := hu'
    obtain rfl := AttributeValue.string.inj heq
    rfl
  | regexSplit p =>
    obtain ⟨s, hs⟩ : ∃ s, w.text? = some s := hu.imp fun s ⟨_, hs, _⟩ => hs
    exact Option.some.inj (((captures_iff hs).1 hu).symm.trans ((captures_iff hs).1 hu'))

/-- A kind of definition goes through the values one by one. -/
lemma values_eq {kind : DefinitionKind σ} (h : Treats kind takes makes) (id : String)
    (v : TemplateValues) (s : σ) :
    ∃ f : AttributeValue → Except PluginError (Option AttributeValue),
      (∀ w, Comes takes makes w (f w)) ∧
      kind.values id v s = ((v.attributes.allValues.mapM f).map (·.reduceOption), s) := by
  cases h with
  | simple =>
    refine ⟨fun w => .ok (some w), fun w => .value trivial w fun u => Iff.rfl, ?_⟩
    have hall : v.attributes.allValues.mapM (.ok : AttributeValue → Except PluginError _) =
        .ok v.attributes.allValues :=
      mapM_eq_ok_iff.2 (List.forall₂_same.2 fun _ _ => rfl)
    rw [DefinitionKind.values, ← hall]
    exact congrArg (·, s) mapM_map_some.symm
  | withScope scope =>
    refine ⟨fun w => (DefinitionKind.addScope scope w).map some, fun w => ?_,
      congrArg (·, s) mapM_map_some.symm⟩
    cases w with
    | string s => exact .value ⟨s, rfl⟩ (.withScope s scope) fun u => by simp
    | _ => exact .refused (by simp) (by simp)
  | regexSplit p =>
    refine ⟨DefinitionKind.split p, fun w => ?_, rfl⟩
    cases w with
    | string s => exact split_comes (.inl ⟨s, rfl⟩) rfl
    | withScope s scope => exact split_comes (.inr ⟨s, scope, rfl⟩) rfl
    | _ => exact .refused (by simp) (by simp [Captures, AttributeValue.text?])

section

variable {f : AttributeValue → Except PluginError (Option AttributeValue)}
  {l : List AttributeValue}

lemma exists_mapM_ok_iff (hf : ∀ w, Comes takes makes w (f w)) :
    (∃ outs, l.mapM f = .ok outs) ↔ ∀ w ∈ l, takes w := by
  rw [exists_mapM_eq_ok_iff]
  exact forall₂_congr fun w _ => (hf w).exists_ok_iff

lemma mem_reduceOption_iff (hf : ∀ w, Comes takes makes w (f w))
    {outs : List (Option AttributeValue)} (h : l.mapM f = .ok outs) {u : AttributeValue} :
    u ∈ outs.reduceOption ↔ ∃ w ∈ l, makes w u := by
  rw [reduceOption_of_mapM_eq_ok h, List.mem_filterMap]
  exact exists_congr fun w => and_congr_right fun _ => (hf w).value_iff

variable {before : ι → ι → Prop} {P : ι → AttributeValue → Prop}

lemma mapM_error_iff [IsStrictOrder ι before] (hf : ∀ w, Comes takes makes w (f w))
    (hl : Lists before P l) (hP : Definite P) {e : PluginError} :
    l.mapM f = .error e ↔ ∃ i w, P i w ∧ ¬ takes w ∧
      (∀ j x, before j i → P j x → takes x) ∧ e = .unsupportedValueType w.kind := by
  have hfirst := hl.first_iff hP (p := fun w => ¬ takes w)
    (q := fun w => e = .unsupportedValueType w.kind)
  simp only [not_not] at hfirst
  rw [mapM_eq_error_iff, ← hfirst]
  refine exists_congr fun l₁ => exists_congr fun w => exists_congr fun l₂ =>
    and_congr_right fun _ =>
    and_congr (forall₂_congr fun x _ => (hf x).exists_ok_iff) (hf w).error_iff

lemma mapM_lists (hf : ∀ w, Comes takes makes w (f w)) (hl : Lists before P l) (hP : Definite P)
    {outs : List (Option AttributeValue)} (h : l.mapM f = .ok outs) :
    Lists before (fun i u => ∃ w, P i w ∧ makes w u) outs.reduceOption := by
  rw [reduceOption_of_mapM_eq_ok h]
  exact (hl.filterMap hP _).congr fun i u =>
    exists_congr fun w => and_congr_right fun _ => (hf w).value_iff

end

/-! ### Definitions -/

/-- Values stand under the keys of a map, at positions. -/
def At (m : AttributeMap) (i : String × ℕ) (w : AttributeValue) : Prop :=
  ∃ a, m.find? i.1 = some a ∧ a.values[i.2]? = some w

/-- Keys come first, then the positions under them. -/
abbrev keyBefore : String × ℕ → String × ℕ → Prop := Prod.Lex (· < ·) (· < ·)

lemma lists_allValues (m : AttributeMap) : Lists keyBefore (At m) m.allValues :=
  (lists_values m).flatMap (definite_find? m) fun a _ => lists_getElem? a.values

lemma at_definite (m : AttributeMap) : Definite (At m) := by
  rintro i w x ⟨a, ha, hw⟩ ⟨a', ha', hx⟩
  obtain rfl := definite_find? m _ _ _ ha ha'
  exact definite_getElem? _ _ _ _ hw hx

lemma mem_allValues_iff {m : AttributeMap} {w : AttributeValue} :
    w ∈ m.allValues ↔ ∃ i, At m i w :=
  (lists_allValues m).mem_iff (at_definite m)

/-- At a place there is a value of which something is made. -/
def Made (m : AttributeMap) (makes : AttributeValue → AttributeValue → Prop) (i : String × ℕ)
    (u : AttributeValue) : Prop :=
  ∃ w, At m i w ∧ makes w u

lemma made_definite {kind : DefinitionKind σ} (h : Treats kind takes makes) (m : AttributeMap) :
    Definite (Made m makes) := by
  rintro i u u' ⟨w, hw, hu⟩ ⟨w', hw', hu'⟩
  obtain rfl := at_definite m _ _ _ hw hw'
  exact h.unique hu hu'

/-- What a definition comes to that takes some values and makes others of them: the first value that
it refuses, or else all that is made. -/
structure Derives (d : AttributeDefinition σ) (m : AttributeMap) (takes : AttributeValue → Prop)
    (makes : AttributeValue → AttributeValue → Prop)
    (out : Except PluginError (Option Attribute)) : Prop where
  succeeds_iff : (∃ o, out = .ok o) ↔ ∀ i w, At m i w → takes w
  error_iff : ∀ e, out = .error e ↔ ∃ i w, At m i w ∧ ¬ takes w ∧
    (∀ j x, keyBefore j i → At m j x → takes x) ∧ e = .unsupportedValueType w.kind
  none_iff : ∀ o, out = .ok o → (o = none ↔ ∀ i u, ¬ Made m makes i u)
  made : ∀ a, out = .ok (some a) → Describes d a ∧
    Lists keyBefore (First keyBefore (Made m makes)) a.values

section

variable {d : AttributeDefinition σ} {vs : List AttributeValue}

lemma ofValues_eq_none_iff : d.ofValues vs = none ↔ vs = [] := by
  unfold AttributeDefinition.ofValues
  split <;> simp_all

lemma ofValues_values {a : Attribute} (h : d.ofValues vs = some a) :
    a.values = (Attribute.addAll ⟨d.id, [], .empty, .empty, []⟩ vs).values := by
  unfold AttributeDefinition.ofValues at h
  split at h
  · cases h
  · obtain rfl := Option.some.inj h
    rfl

variable {v : TemplateValues} {s : σ}

/-- A definition of any kind makes no attribute without values. -/
lemma compute_values_ne_nil {a : Attribute} (h : (d.compute v s).1 = .ok (some a)) :
    a.values ≠ [] := by
  unfold AttributeDefinition.compute at h
  split at h
  · cases h
  · next vs _ _ =>
    have hsome := Except.ok.inj h
    have hvs : vs ≠ [] := by
      rintro rfl
      cases hsome
    rw [ofValues_values hsome]
    exact addAll_values_ne_nil hvs

variable (h : Treats d.kind takes makes)
include h

lemma compute_eq (v : TemplateValues) (s : σ) :
    ∃ f : AttributeValue → Except PluginError (Option AttributeValue),
      (∀ w, Comes takes makes w (f w)) ∧ d.compute v s =
        ((v.attributes.allValues.mapM f).map fun outs => d.ofValues outs.reduceOption, s) := by
  obtain ⟨f, hf, hvalues⟩ := values_eq h d.id v s
  refine ⟨f, hf, ?_⟩
  rw [AttributeDefinition.compute, hvalues]
  cases v.attributes.allValues.mapM f <;> rfl

lemma exists_compute_ok_iff :
    (∃ o, (d.compute v s).1 = .ok o) ↔ ∀ w ∈ v.attributes.allValues, takes w := by
  obtain ⟨f, hf, hcompute⟩ := compute_eq h v s
  rw [hcompute, exists_map_eq_ok_iff, exists_mapM_ok_iff hf]

lemma compute_error_iff {e : PluginError} : (d.compute v s).1 = .error e ↔
    ∃ i w, At v.attributes i w ∧ ¬ takes w ∧
      (∀ j x, keyBefore j i → At v.attributes j x → takes x) ∧
      e = .unsupportedValueType w.kind := by
  obtain ⟨f, hf, hcompute⟩ := compute_eq h v s
  rw [hcompute, map_eq_error_iff, mapM_error_iff hf (lists_allValues _) (at_definite _)]

/-- What a definition makes of all values is what it makes of each of them. -/
lemma exists_of_compute_eq_ok {o : Option Attribute} (ho : (d.compute v s).1 = .ok o) :
    ∃ us, Lists keyBefore (Made v.attributes makes) us ∧
      (∀ u, u ∈ us ↔ ∃ w ∈ v.attributes.allValues, makes w u) ∧ d.ofValues us = o := by
  obtain ⟨f, hf, hcompute⟩ := compute_eq h v s
  rw [hcompute] at ho
  obtain ⟨outs, houts, rfl⟩ := map_eq_ok_iff.1 ho
  exact ⟨outs.reduceOption, mapM_lists hf (lists_allValues _) (at_definite _) houts,
    fun u => mem_reduceOption_iff hf houts, rfl⟩

/-- **Definitions never turn values of one kind into another, and never succeed in part.** They fail
with the kind of the first value that they do not take, even if it stands behind values of which
they make nothing. Otherwise they make an attribute of all that they make of the values, or none if
that is nothing. -/
theorem compute_derives (v : TemplateValues) (s : σ) :
    (d.compute v s).2 = s ∧ Derives d v.attributes takes makes (d.compute v s).1 := by
  refine ⟨?_, ?_, fun e => compute_error_iff h, ?_, ?_⟩
  · obtain ⟨f, -, hcompute⟩ := compute_eq h v s
    rw [hcompute]
  · rw [exists_compute_ok_iff h]
    simp only [mem_allValues_iff, forall_exists_index]
    exact forall_comm
  · intro o ho
    obtain ⟨us, hus, -, rfl⟩ := exists_of_compute_eq_ok h ho
    rw [ofValues_eq_none_iff, List.eq_nil_iff_forall_not_mem]
    simp only [hus.mem_iff (made_definite h _), not_exists]
    exact forall_comm
  · intro a ha
    obtain ⟨us, hus, -, hsome⟩ := exists_of_compute_eq_ok h ha
    refine ⟨ofValues_describes hsome, ?_⟩
    rw [ofValues_values hsome]
    exact addAll_lists hus (made_definite h _) rfl

end

def atCampus : AttributeDefinition Unit where
  id := "atCampus"
  kind := .withScope "a.example"

/-- A text is found under two keys. -/
def texts : AttributeMap :=
  .ofList [("mail", { id := "mail", values := [.string "ada", .string "eve"] }),
    ("uid", { id := "uid", values := [.string "bob", .string "ada"] })]

/-- Bytes are found behind texts, and in front of a text with a scope. -/
def mixed : AttributeMap :=
  texts.insert "uid"
    { id := "uid", values := [.string "ada", .bytes [1], .withScope "ada" "b.example"] }

theorem atCampus_derives :
    Treats atCampus.kind (fun w => ∃ s, w = .string s)
      (fun w u => ∃ s, w = .string s ∧ u = .withScope s "a.example") ∧
    (∀ m, Derives atCampus m (fun w => ∃ s, w = .string s)
      (fun w u => ∃ s, w = .string s ∧ u = .withScope s "a.example")
      (atCampus.compute ⟨{}, m⟩ ()).1) ∧
    ((atCampus.compute ⟨{}, texts⟩ ()).1.toOption.join.map (·.values.map (·.shown)) =
      some ["ada@a.example", "eve@a.example", "bob@a.example"]) ∧
    (atCampus.compute ⟨{}, mixed⟩ ()).1 = .error (.unsupportedValueType .bytes) :=
  ⟨.withScope _, fun m => (compute_derives (.withScope _) ⟨{}, m⟩ ()).2, by decide +kernel, rfl⟩

end AttributeRelease.Proofs.Derivation
