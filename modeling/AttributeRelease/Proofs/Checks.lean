import Mathlib.Data.List.Forall2
import Mathlib.Tactic.Common

/-!
Checks that are made one after the other, of which the first that fails speaks.
-/

namespace AttributeRelease.Proofs.Checks

variable {ε α β : Type}

lemma bind_eq_ok_iff {x : Except ε α} {f : α → Except ε β} {b : β} :
    (x >>= f) = .ok b ↔ ∃ a, x = .ok a ∧ f a = .ok b := by
  cases x with
  | error e => exact ⟨nofun, fun ⟨_, h, _⟩ => nomatch h⟩
  | ok a => exact ⟨fun h => ⟨a, rfl, h⟩, fun ⟨_, h, hf⟩ => Except.ok.inj h ▸ hf⟩

/-- A check and then another one. -/
lemma andThen_eq_ok_iff {x y : Except ε Unit} :
    (x >>= fun _ => y) = .ok () ↔ x = .ok () ∧ y = .ok () := by
  rw [bind_eq_ok_iff]
  exact ⟨fun ⟨_, hx, hy⟩ => ⟨hx, hy⟩, fun ⟨hx, hy⟩ => ⟨(), hx, hy⟩⟩

lemma andThen_eq_error_iff {x y : Except ε Unit} {e : ε} :
    (x >>= fun _ => y) = .error e ↔ x = .error e ∨ x = .ok () ∧ y = .error e := by
  cases x with
  | error e' =>
    have hbind : ((.error e' : Except ε Unit) >>= fun _ => y) = .error e' := rfl
    simp [hbind]
  | ok u =>
    have hbind : ((.ok u : Except ε Unit) >>= fun _ => y) = y := rfl
    simp [hbind]

/-- A check of everything in a list. -/
lemma forM_eq_ok_iff {l : List α} {f : α → Except ε Unit} :
    l.forM f = .ok () ↔ ∀ x ∈ l, f x = .ok () := by
  induction l with
  | nil => exact ⟨fun _ => by simp, fun _ => rfl⟩
  | cons x l ih =>
    show (f x >>= fun _ => l.forM f) = .ok () ↔ _
    rw [andThen_eq_ok_iff, ih, List.forall_mem_cons]

/-- What a check of a list says against it, it says against a member. -/
lemma exists_of_forM_eq_error {l : List α} {f : α → Except ε Unit} {e : ε}
    (h : l.forM f = .error e) : ∃ x ∈ l, f x = .error e := by
  induction l with
  | nil => cases h
  | cons x l ih =>
    have hcons : (f x >>= fun _ => l.forM f) = .error e := h
    rcases andThen_eq_error_iff.1 hcons with hx | ⟨-, hl⟩
    · exact ⟨x, by simp, hx⟩
    · obtain ⟨y, hy, hfy⟩ := ih hl
      exact ⟨y, by simp [hy], hfy⟩

/-- What is made of a list one by one is made of something in it. -/
lemma exists_of_mapM_eq_ok {l : List α} {f : α → Except ε β} {bs : List β}
    (h : l.mapM f = .ok bs) {b : β} (hb : b ∈ bs) : ∃ a ∈ l, f a = .ok b := by
  induction l generalizing bs with
  | nil =>
    obtain rfl := Except.ok.inj h
    exact absurd hb (by simp)
  | cons a l ih =>
    rw [List.mapM_cons, bind_eq_ok_iff] at h
    obtain ⟨b', hb', h⟩ := h
    obtain ⟨bs', hbs', h⟩ := bind_eq_ok_iff.1 h
    obtain rfl := Except.ok.inj h
    rcases List.mem_cons.1 hb with rfl | hb
    · exact ⟨a, by simp, hb'⟩
    · obtain ⟨a', ha', hfa'⟩ := ih hbs' hb
      exact ⟨a', by simp [ha'], hfa'⟩

/-- What is made of a list one by one is made of each member in turn. -/
lemma mapM_eq_ok_iff {l : List α} {f : α → Except ε β} {bs : List β} :
    l.mapM f = .ok bs ↔ List.Forall₂ (fun a b => f a = .ok b) l bs := by
  induction l generalizing bs with
  | nil =>
    rw [List.forall₂_nil_left_iff]
    exact ⟨fun h => (Except.ok.inj h).symm, fun h => h ▸ rfl⟩
  | cons a l ih =>
    rw [List.mapM_cons, bind_eq_ok_iff, List.forall₂_cons_left_iff]
    constructor
    · rintro ⟨b, hb, h⟩
      obtain ⟨bs', hbs', h⟩ := bind_eq_ok_iff.1 h
      exact ⟨b, bs', hb, ih.1 hbs', (Except.ok.inj h).symm⟩
    · rintro ⟨b, bs', hb, hbs', rfl⟩
      exact ⟨b, hb, bind_eq_ok_iff.2 ⟨bs', ih.2 hbs', rfl⟩⟩

/-- What can be made of each member of a list, where nothing is made of some. -/
lemma reduceOption_of_mapM_eq_ok {l : List α} {f : α → Except ε (Option β)} {bs : List (Option β)}
    (h : l.mapM f = .ok bs) : bs.reduceOption = l.filterMap fun a => (f a).toOption.join := by
  induction mapM_eq_ok_iff.1 h with
  | nil => rfl
  | @cons a b l bs hb hbs ih =>
    rw [List.filterMap_cons, hb, ← ih (mapM_eq_ok_iff.2 hbs)]
    cases b <;> rfl

/-- Something is made of each member of a list. -/
lemma mapM_map_some {l : List α} {f : α → Except ε β} :
    (l.mapM fun a => (f a).map some).map (·.reduceOption) = l.mapM f := by
  induction l with
  | nil => rfl
  | cons a l ih =>
    rw [List.mapM_cons, List.mapM_cons, ← ih]
    cases f a with
    | error e => rfl
    | ok b => cases l.mapM fun a => (f a).map some <;> rfl

lemma mapM_eq_some_map {f : α → Option β} {g : α → β} {l : List α}
    (h : ∀ a ∈ l, f a = some (g a)) : l.mapM f = some (l.map g) := by
  induction l with
  | nil => rfl
  | cons a l ih =>
    obtain ⟨ha, hl⟩ := List.forall_mem_cons.1 h
    rw [List.mapM_cons, ha, ih hl]
    rfl

lemma mapM_congr {l : List α} {f g : α → Except ε β} (h : ∀ a ∈ l, f a = g a) :
    l.mapM f = l.mapM g := by
  induction l with
  | nil => rfl
  | cons a l ih =>
    rw [List.mapM_cons, List.mapM_cons, h a (by simp), ih fun b hb => h b (by simp [hb])]

/-- The first member that something cannot be made of settles the failure. -/
lemma mapM_eq_error_iff {l : List α} {f : α → Except ε β} {e : ε} :
    l.mapM f = .error e ↔ ∃ before a after, l = before ++ a :: after ∧
      (∀ x ∈ before, ∃ b, f x = .ok b) ∧ f a = .error e := by
  constructor
  · intro h
    induction l with
    | nil => cases h
    | cons a l ih =>
      rw [List.mapM_cons] at h
      cases ha : f a with
      | error e' =>
        rw [ha] at h
        obtain rfl := Except.error.inj h
        exact ⟨[], a, l, rfl, by simp, ha⟩
      | ok b =>
        rw [ha] at h
        cases hl : l.mapM f with
        | ok bs => rw [hl] at h; cases h
        | error e' =>
          rw [hl] at h
          obtain rfl := Except.error.inj h
          obtain ⟨before, x, after, rfl, hbefore, hx⟩ := ih hl
          exact ⟨a :: before, x, after, rfl, List.forall_mem_cons.2 ⟨⟨b, ha⟩, hbefore⟩, hx⟩
  · rintro ⟨before, a, after, rfl, hbefore, ha⟩
    induction before with
    | nil => rw [List.nil_append, List.mapM_cons, ha]; rfl
    | cons x before ih =>
      obtain ⟨⟨b, hb⟩, hbefore⟩ := List.forall_mem_cons.1 hbefore
      rw [List.cons_append, List.mapM_cons, hb, ih hbefore]; rfl

lemma exists_mapM_eq_ok_iff {l : List α} {f : α → Except ε β} :
    (∃ bs, l.mapM f = .ok bs) ↔ ∀ a ∈ l, ∃ b, f a = .ok b := by
  constructor
  · rintro ⟨bs, h⟩
    induction mapM_eq_ok_iff.1 h with
    | nil => simp
    | cons hb hbs ih => exact List.forall_mem_cons.2 ⟨⟨_, hb⟩, ih (mapM_eq_ok_iff.2 hbs)⟩
  · intro h
    cases hl : l.mapM f with
    | ok bs => exact ⟨bs, rfl⟩
    | error e =>
      obtain ⟨before, a, after, rfl, -, ha⟩ := mapM_eq_error_iff.1 hl
      obtain ⟨b, hb⟩ := h a (by simp)
      exact absurd (ha.symm.trans hb) nofun

lemma map_eq_ok_iff {x : Except ε α} {f : α → β} {b : β} :
    x.map f = .ok b ↔ ∃ a, x = .ok a ∧ f a = b := by
  cases x <;> simp [Except.map]

lemma map_eq_error_iff {x : Except ε α} {f : α → β} {e : ε} :
    x.map f = .error e ↔ x = .error e := by
  cases x <;> simp [Except.map]

lemma mapError_eq_ok_iff {δ : Type} {x : Except ε α} {f : ε → δ} {a : α} :
    x.mapError f = .ok a ↔ x = .ok a := by
  cases x <;> simp [Except.mapError]

lemma exists_map_eq_ok_iff {x : Except ε α} {f : α → β} :
    (∃ b, x.map f = .ok b) ↔ ∃ a, x = .ok a := by
  cases x <;> simp [Except.map]

/-! ### The first of several faults -/

/-- Something fails with the first of some faults, and succeeds if there are none. -/
inductive FailsFirst : Except ε α → List ε → Prop
  | ok (a : α) : FailsFirst (.ok a) []
  | error (e : ε) (more : List ε) : FailsFirst (.error e) (e :: more)

variable {x : Except ε α} {faults more : List ε}

lemma FailsFirst.exists_ok_iff (h : FailsFirst x faults) : (∃ a, x = .ok a) ↔ faults = [] := by
  cases h <;> simp

lemma FailsFirst.eq_error_iff (h : FailsFirst x faults) {e : ε} :
    x = .error e ↔ faults.head? = some e := by
  cases h <;> simp

lemma FailsFirst.bind {f : α → Except ε β} (h : FailsFirst x faults)
    (hf : ∀ a, x = .ok a → FailsFirst (f a) more) : FailsFirst (x >>= f) (faults ++ more) := by
  cases h with
  | ok a => exact hf a rfl
  | error e rest => exact .error e (rest ++ more)

/-- What is put together of a result adds no fault. -/
lemma FailsFirst.finish {f : α → β} (h : FailsFirst x faults) :
    FailsFirst (x >>= fun a => .ok (f a)) faults := by
  cases h with
  | ok a => exact .ok (f a)
  | error e rest => exact .error e rest

/-- Something is refused before anything else is looked at. -/
lemma FailsFirst.refuse {c : Prop} [Decidable c] (e : ε) (h : FailsFirst x faults) :
    FailsFirst (if c then .error e else x) ((if c then [e] else []) ++ faults) := by
  split
  · exact .error e faults
  · exact h

lemma FailsFirst.mapM {l : List α} {f : α → Except ε β} {faults : α → List ε}
    (h : ∀ a ∈ l, FailsFirst (f a) (faults a)) : FailsFirst (l.mapM f) (l.flatMap faults) := by
  induction l with
  | nil => exact .ok []
  | cons a l ih =>
    obtain ⟨ha, hl⟩ := List.forall_mem_cons.1 h
    rw [List.mapM_cons, List.flatMap_cons]
    exact ha.bind fun b _ => (ih hl).finish

/-- A check that is made of each of two lists that go hand in hand, where the faults are in one. -/
lemma FailsFirst.forM {γ : Type} {l : List γ} {l' : List α} {R : γ → α → Prop}
    (hl : List.Forall₂ R l l') {f : α → Except ε Unit} {faults : γ → List ε}
    (h : ∀ c a, R c a → FailsFirst (f a) (faults c)) :
    FailsFirst (l'.forM f) (l.flatMap faults) := by
  induction hl with
  | nil => exact .ok ()
  | cons ha hl ih =>
    rw [List.flatMap_cons]
    exact (h _ _ ha).bind fun _ _ => ih

end AttributeRelease.Proofs.Checks
