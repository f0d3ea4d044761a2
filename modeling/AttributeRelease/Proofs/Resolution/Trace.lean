import AttributeRelease.Proofs.Resolution.Course

/-!
What happens in a pass, and in what order.

Each event is allowed by those before it. What carries this through a pass is that all plugins in
progress have higher ranks than those they wait for, and that whatever is said of a plugin that is
not in progress is said of one that has been recorded. An error ends the pass before the second
half can fail to hold.
-/

namespace AttributeRelease.Proofs.Trace

open AttributeRelease.Proofs.AnyPlugin AttributeRelease.Proofs.Build
open AttributeRelease.Proofs.Course AttributeRelease.Proofs.Rules

variable {σ : Type}

/-- The plugin that an event is about. -/
def subject : PassEvent → String
  | .entered id => id
  | .worked id _ => id
  | .recorded id => id
  | .left id => id
  | .passedOver id => id

/-- The plugins in progress, the last that was entered first. -/
def inProgress (t : List PassEvent) : List String :=
  t.foldl (fun ids e =>
    match e with
    | .entered id => id :: ids
    | .left id => ids.erase id
    | _ => ids) []

@[simp] lemma inProgress_entered (t : List PassEvent) (id : String) :
    inProgress (t ++ [.entered id]) = id :: inProgress t := by
  simp [inProgress]

@[simp] lemma inProgress_left (t : List PassEvent) (id : String) :
    inProgress (t ++ [.left id]) = (inProgress t).erase id := by
  simp [inProgress]

@[simp] lemma inProgress_worked (t : List PassEvent) (id : String) (f : Option PluginError) :
    inProgress (t ++ [.worked id f]) = inProgress t := by
  simp [inProgress]

@[simp] lemma inProgress_recorded (t : List PassEvent) (id : String) :
    inProgress (t ++ [.recorded id]) = inProgress t := by
  simp [inProgress]

/-- Whether an event may follow those of a trace. -/
def Allowed (ps : Plugins σ) (ctx : ResolutionContext) (t : List PassEvent) : PassEvent → Prop
  | .entered id => id ∉ inProgress t ∧ .entered id ∉ t
  | .worked id _ => (∀ f, .worked id f ∉ t) ∧
      ∃ p, lookup ps id = some p ∧ p.spec.isActive ctx = true ∧
        ∀ d ∈ p.dependencies, .recorded d ∈ t
  | .recorded id => .recorded id ∉ t ∧
      ∃ p, lookup ps id = some p ∧ (p.spec.isActive ctx = true → ∃ f, .worked id f ∈ t)
  | .left _ => True
  | .passedOver _ => False

def Lawful (ps : Plugins σ) (ctx : ResolutionContext) (t : List PassEvent) : Prop :=
  ∀ t₁ e t₂, t = t₁ ++ e :: t₂ → Allowed ps ctx t₁ e

variable {ps : Plugins σ} {ctx : ResolutionContext}

lemma Lawful.snoc {t : List PassEvent} {e : PassEvent} (h : Lawful ps ctx t)
    (he : Allowed ps ctx t e) : Lawful ps ctx (t ++ [e]) := by
  intro t₁ e' t₂ heq
  rcases t₂.eq_nil_or_concat with rfl | ⟨t₂, e₂, rfl⟩
  · obtain ⟨rfl, heq⟩ := List.append_inj' heq rfl
    obtain rfl : e = e' := by simpa using heq
    exact he
  · rw [List.concat_eq_append, ← List.cons_append, ← List.append_assoc] at heq
    obtain ⟨rfl, -⟩ := List.append_inj' heq rfl
    exact h t₁ e' t₂ rfl

/-- What happens at most once. -/
lemma countP_le_one {t : List PassEvent} {q : PassEvent → Bool}
    (h : ∀ t₁ e t₂, t = t₁ ++ e :: t₂ → q e = true → ∀ e' ∈ t₁, q e' = false) :
    t.countP q ≤ 1 := by
  induction t using List.reverseRecOn with
  | nil => simp
  | append_singleton t e ih =>
    rw [List.countP_append]
    have ht := ih fun t₁ e' t₂ heq => h t₁ e' (t₂ ++ [e]) (by simp [heq])
    cases he : q e with
    | false => simpa [he] using ht
    | true =>
      have hnone : t.countP q = 0 := by
        rw [List.countP_eq_zero]
        intro e' he'
        simp [h t e [] rfl he e' he']
      simp [hnone, he]

/-- The trace is in order, and it says what is recorded. -/
structure InOrder (ps : Plugins σ) (ctx : ResolutionContext) (w : Work σ) : Prop where
  lawful : Lawful ps ctx w.trace
  memo : ∀ id, w.isResolved id = true ↔ .recorded id ∈ w.trace

lemma InOrder.note {w : Work σ} {e : PassEvent} (h : InOrder ps ctx w)
    (he : Allowed ps ctx w.trace e) (hrec : ∀ id, e ≠ .recorded id) :
    InOrder ps ctx (w.note e) := by
  refine ⟨h.lawful.snoc he, fun id => ?_⟩
  have hne : ¬ PassEvent.recorded id = e := fun heq => hrec id heq.symm
  simpa [Work.isResolved, hne] using h.memo id

lemma InOrder.afterWork {w : Work σ} {id : String} {f : Option PluginError}
    (h : InOrder ps ctx w) (he : Allowed ps ctx w.trace (.worked id f)) (s : σ) :
    InOrder ps ctx (w.afterWork id f s) := by
  refine ⟨h.lawful.snoc he, fun id => ?_⟩
  simpa [Work.isResolved] using h.memo id

lemma InOrder.record {w : Work σ} {id : String} (h : InOrder ps ctx w)
    (he : Allowed ps ctx w.trace (.recorded id)) (out : PluginOutput) :
    InOrder ps ctx (w.record id out) := by
  refine ⟨h.lawful.snoc he, fun id' => ?_⟩
  rw [Work.isResolved_record_iff, h.memo, Work.record_trace, List.mem_append, or_comm]
  simp

/-- A point of a pass with a trace in order. -/
structure Sound (ps : Plugins σ) (ctx : ResolutionContext) (s : σ) (w : Work σ) : Prop
    extends InOrder ps ctx w where
  history : History ps ctx s w

lemma Sound.next {s : σ} {w w' : Work σ} (h : Sound ps ctx s w) (hstep : Happens ps ctx w w')
    (hw : InOrder ps ctx w') : Sound ps ctx s w' :=
  ⟨hw, h.history.tail hstep⟩

/-- Plugins that are not in progress have been recorded, or nothing is said of them. -/
def Calm (t : List PassEvent) : Prop :=
  ∀ e ∈ t, .recorded (subject e) ∈ t ∨ subject e ∈ inProgress t

lemma Calm.snoc {t : List PassEvent} {e : PassEvent} (h : Calm t)
    (hopen : ∀ id ∈ inProgress t, .recorded id ∈ t ∨ id ∈ inProgress (t ++ [e]))
    (he : .recorded (subject e) ∈ t ++ [e] ∨ subject e ∈ inProgress (t ++ [e])) :
    Calm (t ++ [e]) := by
  intro e' he'
  rw [List.mem_append, List.mem_singleton] at he'
  rcases he' with he' | rfl
  · rcases h e' he' with hrec | hin
    · exact .inl (List.mem_append_left _ hrec)
    · exact (hopen _ hin).imp_left (List.mem_append_left _)
  · exact he

/-- What lies between two points of a pass: the same plugins are in progress at both, and nothing
has happened to those that are kept still. -/
structure Kept (still : List String) (t t' : List PassEvent) : Prop where
  inProgress_eq : inProgress t' = inProgress t
  grows : t ⊆ t'
  old : ∀ e ∈ t', subject e ∈ still → e ∈ t

lemma Kept.refl (still : List String) (t : List PassEvent) : Kept still t t :=
  ⟨rfl, fun _ h => h, fun _ h _ => h⟩

lemma Kept.trans {still : List String} {t t₁ t₂ : List PassEvent} (h₁ : Kept still t t₁)
    (h₂ : Kept still t₁ t₂) : Kept still t t₂ :=
  ⟨h₂.inProgress_eq.trans h₁.inProgress_eq, fun _ h => h₂.grows (h₁.grows h),
    fun e he hs => h₁.old e (h₂.old e he hs) hs⟩

lemma Kept.mono {still still' : List String} {t t' : List PassEvent} (h : Kept still t t')
    (hsub : still' ⊆ still) : Kept still' t t' :=
  ⟨h.inProgress_eq, h.grows, fun e he hs => h.old e he (hsub hs)⟩

lemma Kept.snoc {still : List String} {t : List PassEvent} {e : PassEvent}
    (hopen : inProgress (t ++ [e]) = inProgress t) (he : subject e ∉ still) :
    Kept still t (t ++ [e]) := by
  refine ⟨hopen, List.subset_append_left _ _, fun e' he' hs => ?_⟩
  rw [List.mem_append, List.mem_singleton] at he'
  rcases he' with he' | rfl
  · exact he'
  · exact absurd hs he

/-- What a part of a pass has done that did not fail. -/
structure Settled (ps : Plugins σ) (still ids : List String) (t t' : List PassEvent) : Prop where
  calm : Calm t'
  kept : Kept still t t'
  recorded : ∀ id ∈ ids, ∀ p, lookup ps id = some p → .recorded id ∈ t'

variable {rank : String → ℕ}

/-- A plugin is the last that was entered, and nothing else has happened to it. -/
structure Inside (rank : String → ℕ) (ps : Plugins σ) (p : AnyPlugin σ) (still : List String)
    (t : List PassEvent) : Prop where
  found : lookup ps p.spec.id = some p
  current : inProgress t = p.spec.id :: still
  below : ∀ o ∈ still, rank p.spec.id < rank o
  fresh : ∀ e ∈ t, subject e = p.spec.id → e = .entered p.spec.id

/-- The plugin may do its work: what it depends on is recorded. -/
structure Prepared (rank : String → ℕ) (ps : Plugins σ) (ctx : ResolutionContext)
    (p : AnyPlugin σ) (still : List String) (t : List PassEvent) : Prop
    extends Inside rank ps p still t where
  active : p.spec.isActive ctx = true
  dependencies : ∀ d ∈ p.dependencies, .recorded d ∈ t

def Ready (rank : String → ℕ) (ps : Plugins σ) (ctx : ResolutionContext) (still : List String)
    (t : List PassEvent) : Job σ → Prop
  | .row ids => inProgress t = still ∧ ∀ id ∈ ids, ∀ o ∈ still, rank id < rank o
  | .plugin id => inProgress t = still ∧ ∀ o ∈ still, rank id < rank o
  | .inside p => Inside rank ps p still t
  | .act p => Prepared rank ps ctx p still t

lemma Inside.not_mem {p : AnyPlugin σ} {still : List String} {t : List PassEvent}
    (h : Inside rank ps p still t) : p.spec.id ∉ still :=
  fun hmem => (h.below _ hmem).false

lemma Inside.not_recorded {p : AnyPlugin σ} {still : List String} {t : List PassEvent}
    (h : Inside rank ps p still t) : .recorded p.spec.id ∉ t :=
  fun hmem => nomatch h.fresh _ hmem rfl

/-- Nothing happens to a plugin while it waits for others. -/
lemma Inside.wait {p : AnyPlugin σ} {still : List String} {t t' : List PassEvent}
    (h : Inside rank ps p still t) (hkept : Kept (p.spec.id :: still) t t') :
    Inside rank ps p still t' :=
  ⟨h.found, hkept.inProgress_eq.trans h.current, h.below, fun e he hs =>
    h.fresh e (hkept.old e he (by simp [hs])) hs⟩

/-- What a plugin leads to ranks below all that are in progress. -/
lemma Inside.below_all {p : AnyPlugin σ} {still : List String} {t : List PassEvent} {b : String}
    (h : Inside rank ps p still t) (hrank : ∀ a b, b ∈ ps.edges a → rank b < rank a)
    (hb : b ∈ p.dependencies ++ p.failover.toList) :
    ∀ o ∈ p.spec.id :: still, rank b < rank o := by
  have hlt : rank b < rank p.spec.id := by
    refine hrank _ _ ?_
    rw [edges_eq, h.found]
    exact hb
  intro o ho
  rcases List.mem_cons.1 ho with rfl | ho
  · exact hlt
  · exact hlt.trans (h.below o ho)

lemma Inside.ready_dependencies {p : AnyPlugin σ} {still : List String} {t : List PassEvent}
    (h : Inside rank ps p still t) (hrank : ∀ a b, b ∈ ps.edges a → rank b < rank a) :
    Ready rank ps ctx (p.spec.id :: still) t (.row p.dependencies) :=
  ⟨h.current, fun _ hd => h.below_all hrank (List.mem_append_left _ hd)⟩

/-- A plugin below all that are in progress, if it is not recorded, is entered for the first
time. -/
lemma not_mentioned {t : List PassEvent} {id : String} (hcalm : Calm t)
    (hnew : .recorded id ∉ t) (hbelow : ∀ o ∈ inProgress t, rank id < rank o) :
    ∀ e ∈ t, subject e ≠ id := by
  rintro e he rfl
  rcases hcalm e he with hrec | hin
  · exact hnew hrec
  · exact (hbelow _ hin).false

variable {p : AnyPlugin σ} {still : List String} {w : Work σ} {s : σ}

lemma enter_inside {id : String} (hs : Sound ps ctx s w) (hc : Calm w.trace)
    (hr : Ready rank ps ctx still w.trace (.plugin id)) (hnew : w.isResolved id = false)
    (hp : lookup ps id = some p) :
    Sound ps ctx s (w.note (.entered id)) ∧ Calm (w.note (.entered id)).trace ∧
      Inside rank ps p still (w.note (.entered id)).trace := by
  obtain ⟨rfl, hbelow⟩ := hr
  obtain rfl := spec_id_of_lookup hp
  have hrec : .recorded p.spec.id ∉ w.trace := by
    rw [← hs.memo, hnew]
    simp
  have hnot := not_mentioned hc hrec hbelow
  have horder := hs.note (e := .entered p.spec.id)
    ⟨fun h => (hbelow _ h).false, fun h => hnot _ h rfl⟩ (by simp)
  refine ⟨hs.next (.entered ⟨hp, hnew⟩) horder,
    hc.snoc (fun id hid => .inr (by simp [hid])) (.inr (by simp [subject])), hp, by simp, hbelow,
    ?_⟩
  intro e he hsub
  rw [Work.note_trace, List.mem_append, List.mem_singleton] at he
  rcases he with he | rfl
  · exact absurd hsub (hnot e he)
  · rfl

lemma leave_settled {id : String} {t t₁ : List PassEvent}
    (hr : Ready rank ps ctx still t (.plugin id)) (hp : lookup ps id = some p)
    (h : Settled ps still [id] (t ++ [.entered id]) t₁) :
    Settled ps still [id] t (t₁ ++ [.left id]) := by
  obtain ⟨rfl, hbelow⟩ := hr
  have hnot : id ∉ inProgress t := fun hmem => (hbelow _ hmem).false
  have hopen : inProgress t₁ = id :: inProgress t := by
    rw [h.kept.inProgress_eq, inProgress_entered]
  have hrec : .recorded id ∈ t₁ := h.recorded id (by simp) p hp
  refine ⟨h.calm.snoc ?_ (.inl (by simp [subject, hrec])), ⟨?_, ?_, ?_⟩, ?_⟩
  · intro id' hid'
    rw [hopen, List.mem_cons] at hid'
    rcases hid' with rfl | hid'
    · exact .inl hrec
    · exact .inr (by simpa [hopen] using hid')
  · simp [hopen]
  · exact fun e he => List.mem_append_left _ (h.kept.grows (List.mem_append_left _ he))
  · intro e he hsub
    rw [List.mem_append, List.mem_singleton] at he
    rcases he with he | rfl
    · have hold := h.kept.old e he hsub
      rw [List.mem_append, List.mem_singleton] at hold
      rcases hold with hold | rfl
      · exact hold
      · exact absurd hsub hnot
    · exact absurd hsub hnot
  · intro id' hid' _ _
    obtain rfl := List.mem_singleton.1 hid'
    exact List.mem_append_left _ hrec

variable (ps) in
lemma record_settled {t : List PassEvent} (hc : Calm t) (hnot : p.spec.id ∉ still) :
    Settled ps still [p.spec.id] t (t ++ [.recorded p.spec.id]) := by
  refine ⟨hc.snoc (fun id hid => .inr (by simpa using hid)) (.inl (by simp [subject])),
    .snoc (by simp) hnot, ?_⟩
  intro id hid _ _
  obtain rfl := List.mem_singleton.1 hid
  simp

lemma Inside.due (h : Inside rank ps p still w.trace) (hs : InOrder ps ctx w) : Due ps w p := by
  refine ⟨h.found, ?_⟩
  rw [← Bool.not_eq_true, hs.memo]
  exact h.not_recorded

lemma Prepared.able (h : Prepared rank ps ctx p still w.trace) (hs : InOrder ps ctx w) :
    Able ps ctx w p :=
  ⟨h.due hs, h.active, fun d hd => (hs.memo d).2 (h.dependencies d hd)⟩

/-- A prepared plugin works, and has then not been recorded yet. -/
lemma Prepared.work (h : Prepared rank ps ctx p still w.trace) (hs : InOrder ps ctx w)
    (hc : Calm w.trace) (f : Option PluginError) (s : σ) :
    InOrder ps ctx (w.afterWork p.spec.id f s) ∧ Calm (w.afterWork p.spec.id f s).trace ∧
      Kept still w.trace (w.afterWork p.spec.id f s).trace ∧
      .recorded p.spec.id ∉ (w.afterWork p.spec.id f s).trace := by
  have hopen := h.current
  refine ⟨hs.afterWork ⟨fun f hf => (nomatch h.fresh _ hf rfl), p, h.found, h.active,
    h.dependencies⟩ s, hc.snoc (fun id hid => .inr (by simpa using hid)) (.inr ?_),
    .snoc (by simp) h.not_mem, ?_⟩
  · simp [subject, hopen]
  · simpa using h.not_recorded

/-- A prepared plugin fails. -/
lemma Prepared.sound_failed {e : PluginError} {s' : σ} (h : Prepared rank ps ctx p still w.trace)
    (hs : Sound ps ctx s w) (hc : Calm w.trace)
    (hwork : p.work (input ctx p w) w.world = (.error e, s')) :
    Sound ps ctx s (w.afterWork p.spec.id (some e) s') := by
  exact hs.next ((h.able hs.toInOrder).happens hwork) (h.work hs.toInOrder hc (some e) s').1

lemma Prepared.ready_failover {f : String} {e : PluginError} {s : σ}
    (h : Prepared rank ps ctx p still w.trace)
    (hrank : ∀ a b, b ∈ ps.edges a → rank b < rank a) (hf : p.failover = some f) :
    Ready rank ps ctx (p.spec.id :: still) (w.afterWork p.spec.id (some e) s).trace
      (.plugin f) := by
  refine ⟨?_, h.below_all hrank (List.mem_append_right _ (by simp [hf]))⟩
  rw [Work.afterWork_trace, inProgress_worked, h.current]

/-! ### A whole pass -/

/-- **Every rule keeps the trace in order**, also when it ends in an error, and where it does not,
the pass goes on as before with more plugins recorded. -/
theorem resolves_settled (hrank : ∀ a b, b ∈ ps.edges a → rank b < rank a)
    (hknown : ∀ p ∈ all ps, ∀ d ∈ p.dependencies ++ p.failover.toList,
      ∃ q, lookup ps d = some q)
    {job : Job σ} {out : Except ResolutionError Unit × Work σ}
    (h : Resolves ps ctx job w out) (hs : Sound ps ctx s w) (hc : Calm w.trace)
    (hr : Ready rank ps ctx still w.trace job) :
    Sound ps ctx s out.2 ∧
      (out.1 = .ok () → Settled ps still (subjects job) w.trace out.2.trace) := by
  induction h generalizing still with
  | nil => exact ⟨hs, fun _ => ⟨hc, .refl _ _, by simp [subjects]⟩⟩
  | next _ _ ihfirst ihrest =>
    obtain ⟨hopen, hbelow⟩ := hr
    obtain ⟨hs₁, hset₁⟩ := ihfirst hs hc ⟨hopen, hbelow _ (by simp)⟩
    obtain ⟨hc₁, hkept₁, hrec₁⟩ := hset₁ rfl
    obtain ⟨hs₂, hset₂⟩ := ihrest hs₁ hc₁
      ⟨hkept₁.inProgress_eq.trans hopen, fun id hid => hbelow id (by simp [hid])⟩
    refine ⟨hs₂, fun hok => ⟨(hset₂ hok).calm, hkept₁.trans (hset₂ hok).kept, ?_⟩⟩
    intro id hid p hp
    rcases List.mem_cons.1 hid with rfl | hid
    · exact (hset₂ hok).kept.grows (hrec₁ id (by simp [subjects]) p hp)
    · exact (hset₂ hok).recorded id hid p hp
  | stop _ ihfirst =>
    obtain ⟨hopen, hbelow⟩ := hr
    exact ⟨(ihfirst hs hc ⟨hopen, hbelow _ (by simp)⟩).1, by simp⟩
  | @recorded id w old =>
    refine ⟨hs, fun _ => ⟨hc, .refl _ _, fun id' hid' _ _ => ?_⟩⟩
    obtain rfl := List.mem_singleton.1 hid'
    exact (hs.memo id').1 old
  | @unknown id w _ hnone =>
    refine ⟨hs, fun _ => ⟨hc, .refl _ _, fun id' hid' p hp => ?_⟩⟩
    obtain rfl := List.mem_singleton.1 hid'
    exact absurd (hnone.symm.trans hp) (by simp)
  | enter hnew hp _ ih =>
    obtain ⟨hs', hc', hin⟩ := enter_inside hs hc hr hnew hp
    obtain ⟨hs₁, hset₁⟩ := ih hs' hc' hin
    refine ⟨hs₁.next (.left _) (hs₁.note trivial (by simp)), fun hok => leave_settled hr hp ?_⟩
    simpa [subjects, spec_id_of_lookup hp] using hset₁ hok
  | inactive off =>
    have horder := hs.record ⟨hr.not_recorded, _, hr.found, by simp [off]⟩ .inactive
    exact ⟨hs.next (.inactive (hr.due hs.toInOrder) off) horder,
      fun _ => record_settled ps hc hr.not_mem⟩
  | blocked _ _ ih =>
    exact ⟨(ih hs hc (hr.ready_dependencies hrank)).1, by simp⟩
  | @proceed p w w₁ out on _ _ ihdeps ihact =>
    obtain ⟨hs₁, hset₁⟩ := ihdeps hs hc (hr.ready_dependencies hrank)
    obtain ⟨hc₁, hkept₁, hrec₁⟩ := hset₁ rfl
    have hprep : Prepared rank ps ctx p still w₁.trace := by
      refine ⟨hr.wait hkept₁, on, fun d hd => ?_⟩
      obtain ⟨q, hq⟩ := hknown p (lookup_eq_some_iff.1 hr.found).1 d
        (List.mem_append_left _ hd)
      exact hrec₁ d hd q hq
    obtain ⟨hs₂, hset₂⟩ := ihact hs₁ hc₁ hprep
    refine ⟨hs₂, fun hok => ?_⟩
    obtain ⟨hc₂, hkept₂, hrec₂⟩ := hset₂ hok
    exact ⟨hc₂, (hkept₁.mono (List.subset_cons_self _ _)).trans hkept₂, hrec₂⟩
  | @done p w out s' work =>
    obtain ⟨horder, hc₁, hkept₁, hnew⟩ := hr.work hs.toInOrder hc none s'
    obtain ⟨hc₂, hkept₂, hrec₂⟩ := record_settled ps hc₁ hr.not_mem
    have horder₂ := horder.record ⟨hnew, p, hr.found, fun _ => ⟨none, by simp⟩⟩ out
    exact ⟨hs.next ((hr.able hs.toInOrder).happens work) horder₂,
      fun _ => ⟨hc₂, hkept₁.trans hkept₂, hrec₂⟩⟩
  | failed work alone => exact ⟨hr.sound_failed hs hc work, by simp⟩
  | @substituted p w e s' f w₁ work hf _ ih =>
    obtain ⟨-, hc₁, hkept₁, hnew⟩ := hr.work hs.toInOrder hc (some e) s'
    obtain ⟨hs₂, hset₂⟩ := ih (hr.sound_failed hs hc work) hc₁ (hr.ready_failover hrank hf)
    obtain ⟨hc₂, hkept₂, hfrec⟩ := hset₂ rfl
    obtain ⟨hc₃, hkept₃, hrec₃⟩ := record_settled ps hc₂ hr.not_mem
    have hnew₂ : .recorded p.spec.id ∉ w₁.trace := fun hmem =>
      hnew (hkept₂.old _ hmem (by simp [subject]))
    have hworked : .worked p.spec.id (some e) ∈ w₁.trace := hkept₂.grows (by simp)
    have hdue : Due ps w₁ p := by
      refine ⟨hr.found, ?_⟩
      rw [← Bool.not_eq_true, hs₂.memo]
      exact hnew₂
    -- the failover is recorded by now, so its output can take the place
    have hresolved : w₁.isResolved f = true := by
      obtain ⟨q, hq⟩ := hknown p (lookup_eq_some_iff.1 hr.found).1 f
        (List.mem_append_right _ (by simp [hf]))
      exact (hs₂.memo f).2 (hfrec f (List.mem_singleton_self f) q hq)
    have horder := hs₂.record ⟨hnew₂, p, hr.found, fun _ => ⟨_, hworked⟩⟩
      (.connector (w₁.connectorAttributes f))
    have hkept₂' := hkept₂.mono (List.subset_cons_self p.spec.id still)
    exact ⟨hs₂.next (.replaced hdue hworked hf hresolved) horder,
      fun _ => ⟨hc₃, (hkept₁.trans hkept₂').trans hkept₃, hrec₃⟩⟩
  | @failedTwice p w e s' f e' w₁ work hf _ ih =>
    obtain ⟨-, hc₁, -⟩ := hr.work hs.toInOrder hc (some e) s'
    exact ⟨(ih (hr.sound_failed hs hc work) hc₁ (hr.ready_failover hrank hf)).1, by simp⟩

def isWork (id : String) : PassEvent → Bool
  | .worked id' _ => id' == id
  | _ => false

/-- A pass that ends by itself, whether it succeeds or fails. It enters no plugin that is in
progress, each does its work at most once, with all dependencies recorded before, and what is
recorded comes from this pass. Plugins are called as the trace says, and at no other times. -/
structure Orderly (ps : Plugins σ) (ctx : ResolutionContext) (s : σ) (w : Work σ) : Prop where
  history : History ps ctx s w
  ends : ∀ id, .passedOver id ∉ w.trace
  apart : ∀ t₁ id t₂, w.trace = t₁ ++ .entered id :: t₂ → id ∉ inProgress t₁
  entered_once : ∀ id, w.trace.count (.entered id) ≤ 1
  worked_once : ∀ id, w.trace.countP (isWork id) ≤ 1
  recorded_once : ∀ id, w.trace.count (.recorded id) ≤ 1
  prepared : ∀ t₁ id f t₂, w.trace = t₁ ++ .worked id f :: t₂ →
    ∃ p, lookup ps id = some p ∧ p.spec.isActive ctx = true ∧
      ∀ d ∈ p.dependencies, .recorded d ∈ t₁
  memo : ∀ id, w.isResolved id = true ↔ .recorded id ∈ w.trace
  own : ∀ t₁ id t₂, w.trace = t₁ ++ .recorded id :: t₂ →
    ∃ p, lookup ps id = some p ∧ (p.spec.isActive ctx = true → ∃ f, .worked id f ∈ t₁)

lemma Sound.orderly (h : Sound ps ctx s w) : Orderly ps ctx s w := by
  refine ⟨h.history, ?_, ?_, ?_, ?_, ?_, ?_, h.memo, ?_⟩
  · intro id hid
    obtain ⟨t₁, t₂, heq⟩ := List.append_of_mem hid
    exact h.lawful _ _ _ heq
  · exact fun t₁ id t₂ heq => (h.lawful _ _ _ heq).1
  · refine fun id => countP_le_one fun t₁ e t₂ heq he e' he' => ?_
    obtain rfl : e = .entered id := by simpa using he
    rw [beq_eq_false_iff_ne]
    rintro rfl
    exact (h.lawful _ _ _ heq).2 he'
  · refine fun id => countP_le_one fun t₁ e t₂ heq he e' he' => ?_
    have hlaw := h.lawful _ _ _ heq
    cases e with
    | worked id₁ f =>
      cases e' with
      | worked id₂ f' =>
        obtain rfl : id₁ = id := by simpa [isWork] using he
        have hne : id₂ ≠ id₁ := by
          rintro rfl
          exact hlaw.1 f' he'
        simpa [isWork] using hne
      | _ => rfl
    | _ => simp [isWork] at he
  · refine fun id => countP_le_one fun t₁ e t₂ heq he e' he' => ?_
    obtain rfl : e = .recorded id := by simpa using he
    rw [beq_eq_false_iff_ne]
    rintro rfl
    exact (h.lawful _ _ _ heq).1 he'
  · exact fun t₁ id f t₂ heq => (h.lawful _ _ _ heq).2
  · exact fun t₁ id t₂ heq => (h.lawful _ _ _ heq).2

lemma start_sound (world : σ) : Sound ps ctx world { world } := by
  refine ⟨⟨fun t₁ e t₂ heq => by simp at heq, fun id => ?_⟩, .refl⟩
  simp [Work.isResolved, SortedMap.contains, SortedMap.find?_empty]

/-- All that a plugin of a resolver leads to is there. -/
lemma exists_lookup (r : Resolver σ) {p : AnyPlugin σ} (hp : p ∈ all r.plugins) :
    ∀ b ∈ p.dependencies ++ p.failover.toList, ∃ q, lookup r.plugins b = some q := by
  have hcoheres := (check_eq_ok_iff r.plugins).1 r.checked
  intro b hb
  rcases List.mem_append.1 hb with hb | hb
  · obtain ⟨q, hq⟩ := hcoheres.dependencies p hp b hb
    exact ⟨q, lookup_eq_some_iff.2 hq⟩
  · obtain ⟨-, c, hc, hid⟩ := hcoheres.failovers p hp b (Option.mem_toList.1 hb)
    exact ⟨.connector c, lookup_eq_some_iff.2 ⟨hc, hid⟩⟩

lemma pass_orderly (r : Resolver σ) (ctx : ResolutionContext) (world : σ) :
    Orderly r.plugins ctx world (r.pass ctx world).2 := by
  obtain ⟨rank, hrank, -⟩ := exists_rank r
  have hready : Ready rank r.plugins ctx [] [] (.row (r.plugins.targets ctx.request)) :=
    ⟨rfl, fun _ _ _ ho => absurd ho (by simp)⟩
  exact (resolves_settled hrank (fun _ hp => exists_lookup r hp) (pass_resolves r ctx world)
    (start_sound world) (fun _ he => absurd he (by simp)) hready).1.orderly

/-- The passes of one resolver for several contexts, each in the world that the last one left. A
pass is told by its context, by the world that it begins in, and by where it ends. -/
def passes (r : Resolver σ) : List ResolutionContext → σ → List (ResolutionContext × σ × Work σ)
  | [], _ => []
  | c :: cs, s => (c, s, (r.pass c s).2) :: passes r cs (r.resolve c s).2.2

/-- **All passes of a resolver are orderly**, whatever its backends answer. That a pass ends does
not rest on the bound that it is given. -/
theorem passes_orderly (r : Resolver σ) :
    (∀ depth > r.plugins.size, ∀ (c : ResolutionContext) (s : σ),
      Plugins.stepAll (r.plugins.resolveWithin c depth) (r.plugins.targets c.request)
        { world := s } = r.pass c s) ∧
    ∀ (cs : List ResolutionContext) (s : σ), ∀ pass ∈ passes r cs s,
      Orderly r.plugins pass.1 pass.2.1 pass.2.2 := by
  refine ⟨fun depth hdepth c s => pass_eq r c s hdepth, fun cs => ?_⟩
  induction cs with
  | nil => exact fun s pass hpass => absurd hpass (by simp [passes])
  | cons c cs ih =>
    intro s pass hpass
    rcases List.mem_cons.1 hpass with rfl | hpass
    · exact pass_orderly r c s
    · exact ih _ pass hpass

end AttributeRelease.Proofs.Trace
