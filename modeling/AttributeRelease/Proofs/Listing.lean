import Mathlib.Data.List.Induction
import Mathlib.Data.Prod.Lex
import Mathlib.Data.Set.Card

/-!
Lists that have one entry for each of certain places, in the order of the places.

Loops inside of each other write such a list: the place of an entry says in which round of each loop
it was written, and places are ordered by the outer loop first.
-/

namespace AttributeRelease.Proofs.Listing

variable {α β γ ι κ : Type}

lemma getElem?_snoc_iff {l : List α} {a b : α} {n : ℕ} :
    (l ++ [a])[n]? = some b ↔ l[n]? = some b ∨ n = l.length ∧ a = b := by
  rcases Nat.lt_trichotomy n l.length with hn | rfl | hn
  · have hne : n ≠ l.length := by omega
    simp [List.getElem?_append_left hn, hne]
  · simp
  · have hne : n ≠ l.length := by omega
    have hnone : (l ++ [a])[n]? = none := by
      rw [List.getElem?_eq_none_iff, List.length_append, List.length_singleton]
      omega
    have hnone' : l[n]? = none := List.getElem?_eq_none_iff.2 (by omega)
    simp [hnone, hnone', hne]

/-- What belongs to places, in their order. -/
def Lists (before : ι → ι → Prop) (P : ι → β → Prop) (l : List β) : Prop :=
  ∃ places : List ι, places.Pairwise before ∧ (∀ i, i ∈ places ↔ ∃ b, P i b) ∧
    List.Forall₂ P places l

variable {before : ι → ι → Prop} {P Q : ι → β → Prop}

instance isStrictOrder_lex {r : κ → κ → Prop} [IsStrictOrder κ r] [IsStrictOrder ι before] :
    IsStrictOrder (κ × ι) (Prod.Lex r before) where

lemma Lists.congr {l : List β} (h : ∀ i b, P i b ↔ Q i b) (hl : Lists before P l) :
    Lists before Q l := by
  have hPQ : P = Q := by
    funext i b
    exact propext (h i b)
  rwa [← hPQ]

lemma lists_nil (h : ∀ i b, ¬ P i b) : Lists before P [] := by
  refine ⟨[], .nil, fun i => ?_, .nil⟩
  simp [h]

lemma lists_of_pairs {L : List (ι × β)} (hsorted : L.Pairwise fun u v => before u.1 v.1) :
    Lists before (fun i b => (i, b) ∈ L) (L.map Prod.snd) := by
  refine ⟨L.map Prod.fst, List.pairwise_map.2 hsorted, fun i => by simp, ?_⟩
  rw [List.forall₂_map_left_iff, List.forall₂_map_right_iff, List.forall₂_same]
  exact fun u hu => hu

/-- At every place there is one thing at most. -/
def Definite (P : ι → β → Prop) : Prop := ∀ i b b', P i b → P i b' → b = b'

/-- A list of what is definite is a list of places, with the thing that is at each of them. -/
lemma Lists.exists_pairs {l : List β} (h : Lists before P l) (hP : Definite P) :
    ∃ L : List (ι × β), L.Pairwise (fun u v => before u.1 v.1) ∧ L.map Prod.snd = l ∧
      P = fun i b => (i, b) ∈ L := by
  obtain ⟨places, hsorted, hmem, hall⟩ := h
  have hfst : (places.zip l).map Prod.fst = places := List.map_fst_zip hall.length_eq.le
  have hzip : ∀ u ∈ places.zip l, P u.1 u.2 := fun u hu => List.forall₂_zip hall hu
  refine ⟨places.zip l, ?_, List.map_snd_zip hall.length_eq.ge, ?_⟩
  · rw [← hfst] at hsorted
    exact List.pairwise_map.1 hsorted
  · funext i b
    refine propext ⟨fun hb => ?_, fun hb => hzip _ hb⟩
    have hi := (hmem i).2 ⟨b, hb⟩
    rw [← hfst] at hi
    obtain ⟨⟨i, b'⟩, hu, rfl⟩ := List.mem_map.1 hi
    rwa [hP i b b' hb (hzip _ hu)]

lemma lists_getElem? (l : List β) : Lists (· < ·) (fun (n : ℕ) b => l[n]? = some b) l := by
  refine ⟨List.range l.length, List.pairwise_lt_range, fun n => ?_, ?_⟩
  · rw [List.mem_range]
    exact ⟨fun h => ⟨l[n], List.getElem?_eq_getElem h⟩, fun ⟨b, h⟩ =>
      (List.getElem?_eq_some_iff.1 h).1⟩
  · rw [List.forall₂_iff_get]
    simp

lemma definite_getElem? (l : List β) : Definite fun (n : ℕ) b => l[n]? = some b :=
  fun _ _ _ h h' => Option.some.inj (h.symm.trans h')

lemma lists_singleton (i : ι) (b : β) : Lists before (fun j c => j = i ∧ c = b) [b] :=
  ⟨[i], List.pairwise_singleton _ _, by simp, .cons ⟨rfl, rfl⟩ .nil⟩

/-- What is at later places comes behind. -/
lemma Lists.append {l l' : List β} (h : Lists before P l) (h' : Lists before Q l')
    (hbefore : ∀ i b j c, P i b → Q j c → before i j) :
    Lists before (fun i b => P i b ∨ Q i b) (l ++ l') := by
  obtain ⟨places, hsorted, hmem, hall⟩ := h
  obtain ⟨places', hsorted', hmem', hall'⟩ := h'
  refine ⟨places ++ places', List.pairwise_append.2 ⟨hsorted, hsorted', fun i hi j hj => ?_⟩,
    fun i => ?_, List.rel_append (hall.imp fun _ _ => .inl) (hall'.imp fun _ _ => .inr)⟩
  · obtain ⟨b, hb⟩ := (hmem i).1 hi
    obtain ⟨c, hc⟩ := (hmem' j).1 hj
    exact hbefore i b j c hb hc
  · rw [List.mem_append, hmem, hmem', exists_or]

/-- A list as that of one round among others. -/
lemma Lists.inRound {r : κ → κ → Prop} {l : List β} (h : Lists before P l) (k : κ) :
    Lists (Prod.Lex r before) (fun (i : κ × ι) b => i.1 = k ∧ P i.2 b) l := by
  obtain ⟨places, hsorted, hmem, hall⟩ := h
  refine ⟨places.map (k, ·), List.pairwise_map.2 (hsorted.imp fun hij => .right _ hij),
    fun ⟨k', i⟩ => ?_, ?_⟩
  · rw [List.mem_map]
    constructor
    · rintro ⟨i, hi, heq⟩
      obtain ⟨rfl, rfl⟩ := Prod.mk.inj heq
      exact ((hmem i).1 hi).imp fun b hb => ⟨rfl, hb⟩
    · rintro ⟨b, rfl, hb⟩
      exact ⟨i, (hmem i).2 ⟨b, hb⟩, rfl⟩
  · rw [List.forall₂_map_left_iff]
    exact hall.imp fun _ _ hb => ⟨rfl, hb⟩

/-- The lists of several rounds, one behind the other. -/
lemma Lists.flatMap {r : κ → κ → Prop} {R : κ → α → Prop} {P : α → ι → β → Prop} {l : List α}
    (h : Lists r R l) (hR : Definite R) {g : α → List β}
    (hg : ∀ a ∈ l, Lists before (P a) (g a)) :
    Lists (Prod.Lex r before) (fun (i : κ × ι) b => ∃ a, R i.1 a ∧ P a i.2 b) (l.flatMap g) := by
  obtain ⟨L, hsorted, rfl, rfl⟩ := h.exists_pairs hR
  clear h hR
  induction L with
  | nil => exact lists_nil (by simp)
  | cons u L ih =>
    obtain ⟨hfirst, hsorted⟩ := List.pairwise_cons.1 hsorted
    obtain ⟨hu, hL⟩ := List.forall_mem_cons.1 hg
    refine ((hu.inRound u.1).append (ih hsorted hL) ?_).congr fun i b => ?_
    · rintro ⟨k, i⟩ b ⟨k', j⟩ c ⟨rfl, -⟩ ⟨a, ha, -⟩
      exact .left _ _ (hfirst _ ha)
    · obtain ⟨k, a⟩ := u
      simp only [List.mem_cons, Prod.mk.injEq]
      grind

/-- The entries of one more round stand behind those of all rounds before it. -/
lemma lists_flatMap {P : α → ι → β → Prop} (l : List α) {g : α → List β}
    (h : ∀ a ∈ l, Lists before (P a) (g a)) :
    Lists (Prod.Lex (· < ·) before) (fun (i : ℕ × ι) b => ∃ a, l[i.1]? = some a ∧ P a i.2 b)
      (l.flatMap g) :=
  (lists_getElem? l).flatMap (definite_getElem? l) h

/-! ### What is made of the entries -/

lemma Lists.mem_iff {l : List β} (h : Lists before P l) (hP : Definite P) {b : β} :
    b ∈ l ↔ ∃ i, P i b := by
  obtain ⟨L, -, rfl, rfl⟩ := h.exists_pairs hP
  simp

lemma Lists.map {l : List β} (h : Lists before P l) (f : β → γ) :
    Lists before (fun i c => ∃ b, P i b ∧ f b = c) (l.map f) := by
  obtain ⟨places, hsorted, hmem, hall⟩ := h
  refine ⟨places, hsorted, fun i => ?_, ?_⟩
  · rw [hmem, exists_comm]
    simp
  · rw [List.forall₂_map_right_iff]
    exact hall.imp fun _ b hb => ⟨b, hb, rfl⟩

/-- Some entries may come to nothing. -/
lemma Lists.filterMap {l : List β} (h : Lists before P l) (hP : Definite P) (f : β → Option γ) :
    Lists before (fun i c => ∃ b, P i b ∧ f b = some c) (l.filterMap f) := by
  obtain ⟨L, hsorted, rfl, rfl⟩ := h.exists_pairs hP
  have hkept : (L.filterMap fun u => (f u.2).map (u.1, ·)).Pairwise fun u v => before u.1 v.1 := by
    rw [List.pairwise_filterMap]
    refine hsorted.imp fun {u v} huv x hx y hy => ?_
    obtain ⟨_, _, rfl⟩ := Option.map_eq_some_iff.1 hx
    obtain ⟨_, _, rfl⟩ := Option.map_eq_some_iff.1 hy
    exact huv
  have hsnd : (L.filterMap fun u => (f u.2).map (u.1, ·)).map Prod.snd =
      (L.map Prod.snd).filterMap f := by
    rw [List.map_filterMap, List.filterMap_map]
    simp [Function.comp_def]
  rw [← hsnd]
  exact (lists_of_pairs hkept).congr fun i c => by simp

/-- The first entry of some sort is the one at the first place with something of that sort. -/
lemma Lists.first_iff [IsStrictOrder ι before] {l : List β} (h : Lists before P l)
    (hP : Definite P) {p q : β → Prop} :
    (∃ l₁ b l₂, l = l₁ ++ b :: l₂ ∧ (∀ c ∈ l₁, ¬ p c) ∧ p b ∧ q b) ↔
      ∃ i b, P i b ∧ p b ∧ (∀ j c, before j i → P j c → ¬ p c) ∧ q b := by
  obtain ⟨L, hsorted, rfl, rfl⟩ := h.exists_pairs hP
  constructor
  · rintro ⟨l₁, b, l₂, hl, hnot, hb, hq⟩
    obtain ⟨L₁, L₂, rfl, rfl, hL₂⟩ := List.map_eq_append_iff.1 hl
    obtain ⟨⟨i, b⟩, L₂, rfl, rfl, rfl⟩ := List.map_eq_cons_iff.1 hL₂
    obtain ⟨-, hright, -⟩ := List.pairwise_append.1 hsorted
    refine ⟨i, b, by simp, hb, fun j c hji hj => ?_, hq⟩
    rcases List.mem_append.1 hj with hj | hj
    · exact hnot c (List.mem_map_of_mem hj)
    · rcases List.mem_cons.1 hj with heq | hj
      · obtain ⟨rfl, -⟩ := Prod.mk.inj heq
        exact absurd hji (irrefl_of before j)
      · have hij : before i j := (List.pairwise_cons.1 hright).1 _ hj
        exact absurd (trans_of before hij hji) (irrefl_of before i)
  · rintro ⟨i, b, hi, hb, hnot, hq⟩
    obtain ⟨L₁, L₂, rfl⟩ := List.append_of_mem hi
    refine ⟨L₁.map Prod.snd, b, L₂.map Prod.snd, by simp, fun c hc => ?_, hb, hq⟩
    obtain ⟨⟨j, c⟩, hj, rfl⟩ := List.mem_map.1 hc
    have hji : before j i := (List.pairwise_append.1 hsorted).2.2 _ hj _ List.mem_cons_self
    exact hnot j c hji (List.mem_append_left _ hj)

lemma encard_positions (q : β → Bool) (l : List β) :
    {n : ℕ | ∃ b, l[n]? = some b ∧ q b = true}.encard = (l.countP q : ℕ) := by
  induction l using List.reverseRecOn with
  | nil => simp
  | append_singleton l a ih =>
    by_cases ha : q a = true
    · have hnew : l.length ∉ {n : ℕ | ∃ b, l[n]? = some b ∧ q b = true} := by simp
      have hset : {n : ℕ | ∃ b, (l ++ [a])[n]? = some b ∧ q b = true} =
          insert l.length {n : ℕ | ∃ b, l[n]? = some b ∧ q b = true} := by
        ext n
        simp only [getElem?_snoc_iff, Set.mem_insert_iff, Set.mem_ofPred_eq]
        grind
      rw [hset, Set.encard_insert_of_notMem hnew, ih]
      simp [ha]
    · have hset : {n : ℕ | ∃ b, (l ++ [a])[n]? = some b ∧ q b = true} =
          {n : ℕ | ∃ b, l[n]? = some b ∧ q b = true} := by
        ext n
        simp only [getElem?_snoc_iff, Set.mem_ofPred_eq]
        grind
      rw [hset, ih]
      simp [ha]

/-- Places under different keys are counted key by key. -/
lemma encard_places (q : String → β → Bool) {es : List (String × List β)}
    (hkeys : (es.map (·.1)).Nodup) :
    {u : String × ℕ | ∃ bs, (u.1, bs) ∈ es ∧ ∃ b, bs[u.2]? = some b ∧ q u.1 b = true}.encard =
      ((es.map fun e => e.2.countP (q e.1)).sum : ℕ) := by
  induction es with
  | nil => simp
  | cons e es ih =>
    obtain ⟨hnew, hkeys⟩ := List.nodup_cons.1 hkeys
    have hset : {u : String × ℕ | ∃ bs, (u.1, bs) ∈ e :: es ∧
          ∃ b, bs[u.2]? = some b ∧ q u.1 b = true} =
        (e.1, ·) '' {n : ℕ | ∃ b, e.2[n]? = some b ∧ q e.1 b = true} ∪
          {u : String × ℕ | ∃ bs, (u.1, bs) ∈ es ∧ ∃ b, bs[u.2]? = some b ∧ q u.1 b = true} := by
      obtain ⟨k, vs⟩ := e
      ext ⟨k', n⟩
      simp only [Set.mem_ofPred_eq, List.mem_cons, Prod.mk.injEq, Set.mem_union, Set.mem_image]
      grind
    have hdisj : Disjoint ((e.1, ·) '' {n : ℕ | ∃ b, e.2[n]? = some b ∧ q e.1 b = true})
        {u : String × ℕ | ∃ bs, (u.1, bs) ∈ es ∧ ∃ b, bs[u.2]? = some b ∧ q u.1 b = true} := by
      rw [Set.disjoint_left]
      rintro _ ⟨n, -, rfl⟩ ⟨bs, hbs, -⟩
      exact hnew (List.mem_map.2 ⟨_, hbs, rfl⟩)
    rw [hset, Set.encard_union_eq hdisj, ih hkeys,
      (Prod.mk_right_injective e.1).encard_image, encard_positions, List.map_cons, List.sum_cons,
      Nat.cast_add]

end AttributeRelease.Proofs.Listing
