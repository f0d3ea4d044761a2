import AttributeRelease.Proofs.Checks
import AttributeRelease.Proofs.Maps
import AttributeRelease.Proofs.Policy.Release

/-!
The pass over vectors of marks.

The marks are kept in two vectors under each key, one for each side of the rules. The first rule
for a key sets them up, rules write to them by position, and in the end they are read by position,
with a counter that runs along the values. Each of these steps fails if a position is out of range.
None ever does, and what comes out is what the marks say that are kept with the values.
-/

namespace AttributeRelease.Proofs.Positions

open AttributeRelease.Proofs.Checks AttributeRelease.Proofs.Listing AttributeRelease.Proofs.Maps
open AttributeRelease.Proofs.Release AttributeRelease.Proofs.Verdicts

structure Vectors where
  permitted : List Bool
  denied : List Bool

namespace Vectors

def blank (size : ℕ) : Vectors := ⟨.replicate size false, .replicate size false⟩

def on (vs : Vectors) : RuleSide → List Bool
  | .permit => vs.permitted
  | .deny => vs.denied

/-- Marks a position that has to be in range. -/
def mark? (vs : Vectors) (side : RuleSide) (i : ℕ) : Option Vectors :=
  if i < (vs.on side).length then
    some (match side with
      | .permit => { vs with permitted := vs.permitted.set i true }
      | .deny => { vs with denied := vs.denied.set i true })
  else none

/-- Whether the value at a position stays. The denials are looked at for what is permitted only. -/
def keep? (vs : Vectors) (i : ℕ) : Option Bool :=
  vs.permitted[i]?.bind fun p => if p then vs.denied[i]?.map (!·) else some false

/-- Goes through values with a counter and keeps those whose positions say so. -/
def retain? (vs : Vectors) (counter : ℕ) : List AttributeValue → Option (List AttributeValue)
  | [] => some []
  | v :: rest => do
    let keep ← vs.keep? counter
    let kept ← vs.retain? (counter + 1) rest
    return if keep then v :: kept else kept

lemma on_blank (side : RuleSide) (size : ℕ) : (blank size).on side = .replicate size false := by
  cases side <;> rfl

lemma exists_mark? {vs : Vectors} {side : RuleSide} {i : ℕ} (h : i < (vs.on side).length) :
    ∃ vs', vs.mark? side i = some vs' ∧
      (∀ s, (vs'.on s).length = (vs.on s).length) ∧
      ∀ s j, (vs'.on s)[j]? = some true ↔ (vs.on s)[j]? = some true ∨ s = side ∧ j = i := by
  refine ⟨_, if_pos h, fun s => ?_, fun s j => ?_⟩
  · cases side <;> cases s <;> simp [on]
  · cases side <;> cases s <;> simp [on] at h ⊢ <;> grind

end Vectors

/-- A step of the rules. A mark says on account of which value it is made. -/
inductive Write where
  | create (key : String) (size : ℕ)
  | mark (key : String) (side : RuleSide) (i : ℕ) (v : AttributeValue)

/-- Vectors are set up once. There have to be some for a mark. -/
def perform (m : SortedMap Vectors) : Write → Option (SortedMap Vectors)
  | .create key size => some (if m.contains key then m else m.insert key (.blank size))
  | .mark key side i _ => do
    let vs ← m.find? key
    let vs' ← vs.mark? side i
    return m.insert key vs'

def performAll (l : List Write) : Option (SortedMap Vectors) := l.foldlM perform .empty

/-- Whether a ruling leaves a mark on a side. A denial that fails leaves one. -/
def marks (r : Ruling) : RuleSide → Bool
  | .permit => r.permit = some .yes
  | .deny => r.deny = some .yes || r.deny = some .fail

/-- What a rule writes, going through the values under its key with their positions. -/
def writesOf (c : FilterContext) (r : AttributeRule) : List Write :=
  match c.unfiltered.find? r.attributeId with
  | none => []
  | some a => .create r.attributeId a.values.length :: a.values.zipIdx.flatMap fun u =>
      ([.permit, .deny].filter (marks (r.ruling c u.1))).map (.mark r.attributeId · u.2 u.1)

/-- All that is written in a pass. -/
def writes (f : AttributeFilter) (c : FilterContext) : List Write :=
  (applicable f c).flatMap fun u => writesOf c u.2

/-- Settles an attribute by the vectors under its key. -/
def settle? (m : SortedMap Vectors) (key : String) (a : Attribute) : Option (Attribute × ℕ) :=
  match m.find? key with
  | none => some ({ a with values := [] }, 0)
  | some vs => do
    let kept ← vs.retain? 0 a.values
    return ({ a with values := kept }, (vs.permitted.zip vs.denied).countP fun u => u.1 && u.2)

/-- Writes all marks and settles all attributes. -/
def settleAll? (f : AttributeFilter) (c : FilterContext) : Option (List (Attribute × ℕ)) := do
  let m ← performAll (writes f c)
  c.unfiltered.entries.mapM fun e => settle? m e.1 e.2

/-- What is there after some writes. The vectors under a key have been set up, have as many
positions as there are values under that key, and are marked where that has been written. -/
structure InStep (c : FilterContext) (done : List Write) (m : SortedMap Vectors) : Prop where
  created : ∀ k, m.contains k = true ↔ ∃ size, .create k size ∈ done
  sized : ∀ k vs, m.find? k = some vs → ∃ a, c.unfiltered.find? k = some a ∧
    ∀ side, (vs.on side).length = a.values.length
  marked : ∀ k side i, (∃ vs, m.find? k = some vs ∧ (vs.on side)[i]? = some true) ↔
    ∃ v, .mark k side i v ∈ done

/-- What has to be there before a write. -/
def Ready (c : FilterContext) (done : List Write) : Write → Prop
  | .create k size => ∃ a, c.unfiltered.find? k = some a ∧ a.values.length = size
  | .mark k _ i v => (∃ a, c.unfiltered.find? k = some a ∧ a.values[i]? = some v) ∧
      ∃ size, .create k size ∈ done

lemma inStep_nil (c : FilterContext) : InStep c [] .empty where
  created := by simp [SortedMap.contains, SortedMap.find?_empty]
  sized := by simp [SortedMap.find?_empty]
  marked := by simp [SortedMap.find?_empty]

/-- Vectors that are there already stay as they are. -/
lemma inStep_create {c : FilterContext} {done : List Write} {m : SortedMap Vectors}
    (h : InStep c done m) {k : String} {a : Attribute} (ha : c.unfiltered.find? k = some a) :
    InStep c (done ++ [.create k a.values.length])
      (if m.contains k then m else m.insert k (.blank a.values.length)) := by
  have hcreate (k' : String) : (∃ size, .create k' size ∈ done ++ [.create k a.values.length]) ↔
      m.contains k' = true ∨ k' = k := by
    simp [h.created, exists_or]
  have hmark (k' : String) (side : RuleSide) (i : ℕ) :
      (∃ v, .mark k' side i v ∈ done ++ [.create k a.values.length]) ↔
        ∃ v, .mark k' side i v ∈ done := by
    simp
  by_cases hk : m.contains k = true
  · rw [if_pos hk]
    refine ⟨fun k' => ?_, h.sized, fun k' side i => ?_⟩
    · rw [hcreate]
      exact ⟨.inl, fun h' => h'.elim id (· ▸ hk)⟩
    · rw [hmark, h.marked]
  · have hnone : m.find? k = none := by simpa [SortedMap.contains] using hk
    rw [if_neg hk]
    refine ⟨fun k' => ?_, fun k' vs hvs => ?_, fun k' side i => ?_⟩
    · rw [hcreate, SortedMap.contains_insert_iff]
      tauto
    · rw [SortedMap.find?_insert] at hvs
      split at hvs
      · next heq =>
        obtain rfl := Option.some.inj hvs
        exact ⟨a, heq ▸ ha, fun side => by simp [Vectors.on_blank]⟩
      · exact h.sized k' vs hvs
    · rw [hmark, ← h.marked, SortedMap.find?_insert]
      split
      · next heq => simp [heq, hnone, Vectors.on_blank, List.getElem?_replicate]
      · rfl

/-- A mark changes its own position only, which is in range. -/
lemma inStep_mark {c : FilterContext} {done : List Write} {m : SortedMap Vectors}
    (h : InStep c done m) {k : String} {side : RuleSide} {i : ℕ} {v : AttributeValue}
    (hw : Ready c done (.mark k side i v)) :
    ∃ m', perform m (.mark k side i v) = some m' ∧ InStep c (done ++ [.mark k side i v]) m' := by
  obtain ⟨⟨a, ha, hv⟩, hcreated⟩ := hw
  obtain ⟨vs, hvs⟩ := (SortedMap.contains_iff m k).1 ((h.created k).2 hcreated)
  obtain ⟨a', ha', hsize⟩ := h.sized k vs hvs
  obtain rfl := Option.some.inj (ha.symm.trans ha')
  have hi : i < (vs.on side).length := by
    rw [hsize]
    exact (List.getElem?_eq_some_iff.1 hv).1
  obtain ⟨vs', hvs', hsame, hmarked⟩ := Vectors.exists_mark? hi
  refine ⟨m.insert k vs', by simp [perform, hvs, hvs'], fun k' => ?_, fun k' vs₁ hvs₁ => ?_,
    fun k' s j => ?_⟩
  · rw [SortedMap.contains_insert_iff, h.created]
    simpa using fun heq : k' = k => heq ▸ hcreated
  · rw [SortedMap.find?_insert] at hvs₁
    split at hvs₁
    · next heq =>
      obtain rfl := Option.some.inj hvs₁
      exact ⟨a, heq ▸ ha, fun s => (hsame s).trans (hsize s)⟩
    · exact h.sized k' vs₁ hvs₁
  · have hmark : (∃ w, .mark k' s j w ∈ done ++ [.mark k side i v]) ↔
        (∃ w, .mark k' s j w ∈ done) ∨ k' = k ∧ s = side ∧ j = i := by
      simp [exists_or]
    rw [hmark, ← h.marked, SortedMap.find?_insert]
    split
    · next heq => simp [heq, hvs, hmarked]
    · next hne => simp [hne]

lemma inStep_step {c : FilterContext} {done : List Write} {m : SortedMap Vectors} {w : Write}
    (h : InStep c done m) (hw : Ready c done w) :
    ∃ m', perform m w = some m' ∧ InStep c (done ++ [w]) m' := by
  cases w with
  | create k size =>
    obtain ⟨a, ha, rfl⟩ := hw
    exact ⟨_, rfl, inStep_create h ha⟩
  | mark k side i v => exact inStep_mark h hw

/-! ### Runs -/

/-- Each of several writes finds what it needs. -/
def Orderly (c : FilterContext) (l : List Write) : Prop :=
  ∀ n w, l[n]? = some w → Ready c (l.take n) w

lemma Ready.mono {c : FilterContext} {done done' : List Write} {w : Write} (h : Ready c done w)
    (hsub : done ⊆ done') : Ready c done' w := by
  cases w with
  | create k size => exact h
  | mark k side i v => exact ⟨h.1, h.2.imp fun size hsize => hsub hsize⟩

lemma Orderly.take {c : FilterContext} {l : List Write} (h : Orderly c l) (n : ℕ) :
    Orderly c (l.take n) := by
  intro i w hw
  rw [List.getElem?_take] at hw
  split at hw
  · next hi =>
    rw [List.take_take, Nat.min_eq_left hi.le]
    exact h i w hw
  · cases hw

lemma Orderly.append {c : FilterContext} {l l' : List Write} (h : Orderly c l)
    (h' : Orderly c l') : Orderly c (l ++ l') := by
  intro n w hw
  rw [List.take_append]
  rcases Nat.lt_or_ge n l.length with hn | hn
  · rw [List.getElem?_append_left hn] at hw
    exact (h n w hw).mono (List.subset_append_left _ _)
  · rw [List.getElem?_append_right hn] at hw
    exact (h' _ w hw).mono (List.subset_append_right _ _)

lemma performAll_snoc (l : List Write) (w : Write) :
    performAll (l ++ [w]) = (performAll l).bind (perform · w) := by
  simp [performAll, List.foldlM_append]

/-- Writes in order are all in range. -/
lemma Orderly.exists_inStep {c : FilterContext} {l : List Write} (h : Orderly c l) :
    ∃ m, performAll l = some m ∧ InStep c l m := by
  induction l using List.reverseRecOn with
  | nil => exact ⟨_, rfl, inStep_nil c⟩
  | append_singleton l w ih =>
    have hl : Orderly c l := by simpa using h.take l.length
    have hw : Ready c l w := by simpa using h l.length w (by simp)
    obtain ⟨m, hm, hstep⟩ := ih hl
    obtain ⟨m', hm', hstep'⟩ := inStep_step hstep hw
    exact ⟨m', by rw [performAll_snoc, hm, Option.bind_some, hm'], hstep'⟩

variable {f : AttributeFilter} {c : FilterContext} {r : AttributeRule} {k : String}

lemma mem_writesOf_create {size : ℕ} : .create k size ∈ writesOf c r ↔
    r.attributeId = k ∧ ∃ a, c.unfiltered.find? k = some a ∧ a.values.length = size := by
  unfold writesOf
  cases ha : c.unfiltered.find? r.attributeId <;> grind

lemma mem_writesOf_mark {side : RuleSide} {i : ℕ} {v : AttributeValue} :
    .mark k side i v ∈ writesOf c r ↔ r.attributeId = k ∧ marks (r.ruling c v) side = true ∧
      ∃ a, c.unfiltered.find? k = some a ∧ a.values[i]? = some v := by
  unfold writesOf
  cases ha : c.unfiltered.find? r.attributeId with
  | none => grind
  | some a =>
    simp only [List.mem_cons, reduceCtorEq, false_or, List.mem_flatMap, Prod.exists,
      List.mk_mem_zipIdx_iff_getElem?, List.mem_map, List.mem_filter, Write.mark.injEq]
    constructor
    · rintro ⟨v', i', hv, side', ⟨-, hmarks⟩, rfl, rfl, rfl, rfl⟩
      exact ⟨rfl, hmarks, a, ha, hv⟩
    · rintro ⟨rfl, hmarks, a', ha', hv⟩
      obtain rfl := Option.some.inj (ha.symm.trans ha')
      exact ⟨v, i, hv, side, ⟨by cases side <;> simp, hmarks⟩, rfl, rfl, rfl, rfl⟩

lemma orderly_writesOf (c : FilterContext) (r : AttributeRule) : Orderly c (writesOf c r) := by
  intro n w hw
  have hmem : w ∈ writesOf c r := List.mem_of_getElem? hw
  cases w with
  | create k size => exact (mem_writesOf_create.1 hmem).2
  | mark k side i v =>
    obtain ⟨rfl, -, a, ha, hv⟩ := mem_writesOf_mark.1 hmem
    refine ⟨⟨a, ha, hv⟩, a.values.length, ?_⟩
    -- the vectors are set up by the first write of the rule
    unfold writesOf at hw ⊢
    rw [ha] at hw ⊢
    cases n with
    | zero => cases hw
    | succ n => exact List.mem_cons_self

lemma orderly_writes (f : AttributeFilter) (c : FilterContext) : Orderly c (writes f c) := by
  unfold writes
  induction applicable f c with
  | nil => nofun
  | cons u l ih => exact (orderly_writesOf c u.2).append ih

lemma mem_writes_create : (∃ size, .create k size ∈ writes f c) ↔
    (∃ r, Applies f c k r) ∧ ∃ a, c.unfiltered.find? k = some a := by
  simp only [writes, List.mem_flatMap, mem_writesOf_create, ← mem_rulesFor_iff, rulesFor,
    List.mem_filter, List.mem_map, decide_eq_true_eq]
  grind

lemma mem_writes_mark {side : RuleSide} {i : ℕ} {v : AttributeValue} :
    .mark k side i v ∈ writes f c ↔
      (∃ r, Applies f c k r ∧ marks (r.ruling c v) side = true) ∧
        ∃ a, c.unfiltered.find? k = some a ∧ a.values[i]? = some v := by
  simp only [writes, List.mem_flatMap, mem_writesOf_mark, ← mem_rulesFor_iff, rulesFor,
    List.mem_filter, List.mem_map, decide_eq_true_eq]
  grind

def sideOf (m : Verdict) : RuleSide → Bool
  | .permit => m.permitted
  | .deny => m.denied

/-- Marks that are kept with the values, as vectors. -/
def columns (ms : List Verdict) : Vectors := ⟨ms.map (·.permitted), ms.map (·.denied)⟩

lemma on_columns (ms : List Verdict) (side : RuleSide) :
    (columns ms).on side = ms.map (sideOf · side) := by
  cases side <;> rfl

lemma Vectors.ext_on {vs vs' : Vectors} (h : ∀ side, vs.on side = vs'.on side) : vs = vs' := by
  obtain ⟨permitted, denied⟩ := vs
  obtain ⟨permitted', denied'⟩ := vs'
  have hpermit : permitted = permitted' := h .permit
  have hdeny : denied = denied' := h .deny
  rw [hpermit, hdeny]

lemma sideOf_verdict {rules : List AttributeRule} {v : AttributeValue} {side : RuleSide} :
    sideOf (verdict c rules v) side = true ↔
      ∃ r ∈ rules, marks (r.ruling c v) side = true := by
  cases side with
  | permit => simp [sideOf, verdict, permitted_foldl, marks]
  | deny => simp [sideOf, verdict, denied_foldl, marks]

lemma InStep.contains_iff {m : SortedMap Vectors} (h : InStep c (writes f c) m) :
    m.contains k = true ↔
      rulesFor k (applicable f c) ≠ [] ∧ ∃ a, c.unfiltered.find? k = some a := by
  rw [h.created, mem_writes_create]
  simp only [ne_eq, List.eq_nil_iff_forall_not_mem, mem_rulesFor_iff, not_forall, not_not]

/-- In the end the vectors under a key are the marks of the values there. -/
lemma InStep.eq_columns {m : SortedMap Vectors} (h : InStep c (writes f c) m) {vs : Vectors}
    (hvs : m.find? k = some vs) {a : Attribute} (ha : c.unfiltered.find? k = some a) :
    vs = columns (a.values.map (verdict c (rulesFor k (applicable f c)))) := by
  obtain ⟨a', ha', hsize⟩ := h.sized k vs hvs
  obtain rfl := Option.some.inj (ha.symm.trans ha')
  refine Vectors.ext_on fun side => List.ext_getElem? fun i => ?_
  rw [on_columns, List.map_map, List.getElem?_map]
  cases hv : a.values[i]? with
  | none =>
    rw [List.getElem?_eq_none_iff] at hv
    exact List.getElem?_eq_none_iff.2 (hsize side ▸ hv)
  | some v =>
    have hi : i < (vs.on side).length := hsize side ▸ (List.getElem?_eq_some_iff.1 hv).1
    have hb : (vs.on side)[i]? = some (vs.on side)[i] := List.getElem?_eq_getElem hi
    have hmarked := h.marked k side i
    simp only [hvs, Option.some.injEq, exists_eq_left', hb, mem_writes_mark, ha, hv] at hmarked
    rw [hb, Option.map_some, Option.some.injEq, Bool.eq_iff_iff, Function.comp, sideOf_verdict,
      hmarked]
    simp only [mem_rulesFor_iff, exists_eq_right']

lemma InStep.eq_tally {m : SortedMap Vectors} (h : InStep c (writes f c) m) :
    m = (f.tally c).verdicts.map fun _ => columns := by
  refine eq_of_find? fun k => ?_
  rw [SortedMap.find?_map, tally_eq, marked_tallyOf c (applicable f c) k]
  cases hvs : m.find? k with
  | none =>
    have hnot : ¬ m.contains k = true := by simp [SortedMap.contains, hvs]
    cases ha : c.unfiltered.find? k with
    | none => rfl
    | some a =>
      have hnil : rulesFor k (applicable f c) = [] := by
        by_contra hne
        exact hnot (h.contains_iff.2 ⟨hne, a, ha⟩)
      simp [hnil]
  | some vs =>
    obtain ⟨hne, a, ha⟩ := h.contains_iff.1 ((SortedMap.contains_iff m k).2 ⟨vs, hvs⟩)
    rw [ha, Option.bind_some, if_neg hne, Option.map_some, h.eq_columns hvs ha]

/-- Reading with a counter goes along with the values. -/
lemma retain?_columns (before ms : List Verdict) {vs : List AttributeValue}
    (h : vs.length = ms.length) :
    (columns (before ++ ms)).retain? before.length vs =
      some ((vs.zip ms).filterMap fun u => if u.2.survives then some u.1 else none) := by
  induction vs generalizing before ms with
  | nil => rfl
  | cons v vs ih =>
    obtain ⟨m, ms, rfl⟩ := List.exists_cons_of_length_eq_add_one h.symm
    have hkeep : (columns (before ++ m :: ms)).keep? before.length = some m.survives := by
      simp only [Vectors.keep?, columns, List.map_append, List.map_cons, Verdict.survives]
      cases m.permitted <;> simp
    have hrest := ih (before ++ [m]) ms (Nat.succ.inj h)
    rw [List.append_assoc, List.singleton_append, List.length_append,
      List.length_singleton] at hrest
    rw [Vectors.retain?, hkeep, Option.bind_eq_bind, Option.bind_some, hrest]
    cases h : m.survives <;> simp [h]

lemma settle?_columns {t : Tally} {a : Attribute}
    (h : ∀ ms, t.verdicts.find? k = some ms → a.values.length = ms.length) :
    settle? (t.verdicts.map fun _ => columns) k a = some (t.settle k a) := by
  rw [settle?, Tally.settle, SortedMap.find?_map]
  cases hms : t.verdicts.find? k with
  | none => rfl
  | some ms =>
    have hretain := retain?_columns [] ms (h ms hms)
    rw [List.nil_append, List.length_nil] at hretain
    simp only [Option.map_some, hretain, Option.bind_eq_bind, Option.bind_some]
    simp [columns, List.zip_map', List.countP_map, Function.comp_def]

/-- Marks that are kept with values are as many as the values. -/
lemma length_tallyOf {l : List (String × AttributeRule)} {ms : List Verdict}
    (h : (tallyOf c l).verdicts.find? k = some ms) :
    ∃ a, c.unfiltered.find? k = some a ∧ ms.length = a.values.length := by
  rw [marked_tallyOf c l k] at h
  obtain ⟨a, ha, hms⟩ := Option.bind_eq_some_iff.1 h
  split at hms
  · cases hms
  · obtain rfl := Option.some.inj hms
    exact ⟨a, ha, List.length_map _⟩

/-- **Positions are in range.** All writes succeed, and after each of them the vectors under a key
have as many positions as there are values stored under the same key; so have the marks that are
kept with the values, after each rule. A position is marked just if a rule for the key says so of
the value that stands there. In the end all reads succeed as well, and every attribute is settled as
it is by the marks that are kept with its values. -/
theorem positions_in_range (f : AttributeFilter) (c : FilterContext) :
    (∀ n, ∃ m, performAll ((writes f c).take n) = some m ∧ InStep c ((writes f c).take n) m) ∧
      (∀ n k ms, (tallyOf c ((applicable f c).take n)).verdicts.find? k = some ms →
        ∃ a, c.unfiltered.find? k = some a ∧ ms.length = a.values.length) ∧
      (∀ k side i v, .mark k side i v ∈ writes f c ↔
        (∃ r, Applies f c k r ∧ marks (r.ruling c v) side = true) ∧
          ∃ a, c.unfiltered.find? k = some a ∧ a.values[i]? = some v) ∧
      settleAll? f c = some (c.unfiltered.map (f.tally c).settle).values := by
  refine ⟨fun n => ((orderly_writes f c).take n).exists_inStep, fun n k ms => length_tallyOf,
    fun k side i v => mem_writes_mark, ?_⟩
  obtain ⟨m, hm, hstep⟩ := (orderly_writes f c).exists_inStep
  obtain rfl := hstep.eq_tally
  have hsettle (e : String × Attribute) (he : e ∈ c.unfiltered.entries) :
      settle? ((f.tally c).verdicts.map fun _ => columns) e.1 e.2 =
        some ((f.tally c).settle e.1 e.2) := by
    refine settle?_columns fun ms hms => ?_
    rw [tally_eq] at hms
    obtain ⟨a, ha, hlength⟩ := length_tallyOf hms
    rw [(SortedMap.find?_eq_some_iff _ _ _).2 he] at ha
    rw [Option.some.inj ha, hlength]
  rw [settleAll?, hm, Option.bind_eq_bind, Option.bind_some, mapM_eq_some_map hsettle]
  simp [SortedMap.map, SortedMap.values]

/-- Everything is permitted, under two keys. -/
def openly : AttributeFilter where
  id := "openly"
  policies := [{ id := "all", requirement := .leaf .any, rules := [
    { attributeId := "b", permit := [.leaf .any] },
    { attributeId := "a", permit := [.leaf .any] }] }]

/-- An attribute under another key than its name, which is itself the key of another one. -/
def renamed : FilterContext where
  unfiltered := .ofList [
    ("a", { id := "b", values := [.string "x", .string "y"] }),
    ("b", { id := "b", values := [.string "x"] })]

/-- The name of an attribute makes no difference, only its key does. -/
theorem renamed_in_range :
    (performAll (writes openly renamed)).map (·.entries) =
      some [("a", ⟨[true, true], [false, false]⟩), ("b", ⟨[true], [false]⟩)] ∧
    (∃ ms, (tallyOf renamed ((applicable openly renamed).take 2)).verdicts.find? "a" = some ms ∧
      ∃ a, renamed.unfiltered.find? "a" = some a ∧ ms.length = a.values.length) ∧
    settleAll? openly renamed =
      some (renamed.unfiltered.map (openly.tally renamed).settle).values := by
  obtain ⟨-, hlength, -, hsettle⟩ := positions_in_range openly renamed
  exact ⟨rfl, ⟨_, rfl, hlength 2 "a" _ rfl⟩, hsettle⟩

end AttributeRelease.Proofs.Positions
