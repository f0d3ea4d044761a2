import AttributeRelease.Proofs.Listing
import AttributeRelease.SortedMap
import Mathlib.Data.List.Sort

/-!
A map is what its look-ups are, and a set of names is what it contains.
-/

namespace AttributeRelease.Proofs.Maps

open AttributeRelease.Proofs.Listing

variable {α : Type}

/-- There is one way to put things in the order of their keys. -/
lemma sorted_ext (key : α → String) {l l' : List α} (h : l.Pairwise fun a b => key a < key b)
    (h' : l'.Pairwise fun a b => key a < key b) (hmem : ∀ a, a ∈ l ↔ a ∈ l') : l = l' := by
  have hirrefl : Std.Irrefl fun a b : α => key a < key b := ⟨fun a => String.lt_irrefl (key a)⟩
  have hantisymm : Std.Antisymm fun a b : α => key a < key b :=
    ⟨fun a b hab hba => absurd hba (String.lt_asymm hab)⟩
  exact h.eq_of_mem_iff h' hmem

lemma keys_sorted (m : SortedMap α) : m.keys.Pairwise (· < ·) :=
  List.pairwise_map.2 m.sorted

lemma keys_nodup (m : SortedMap α) : m.keys.Nodup := by
  have hirrefl : Std.Irrefl fun a b : String => a < b := ⟨String.lt_irrefl⟩
  exact (keys_sorted m).nodup

/-- Maps with the same look-ups are the same. -/
lemma eq_of_find? {m n : SortedMap α} (h : ∀ k, m.find? k = n.find? k) : m = n := by
  refine SortedMap.ext (sorted_ext Prod.fst m.sorted n.sorted fun e => ?_)
  rw [← SortedMap.find?_eq_some_iff m e.1 e.2, h, SortedMap.find?_eq_some_iff n e.1 e.2]

/-- What stands under the keys, in their order. -/
lemma lists_values (m : SortedMap α) : Lists (· < ·) (fun k x => m.find? k = some x) m.values :=
  (lists_of_pairs m.sorted).congr fun k x => (SortedMap.find?_eq_some_iff m k x).symm

lemma lists_entries (m : SortedMap α) :
    Lists (· < ·) (fun k e => m.find? k = some e.2 ∧ e.1 = k) m.entries := by
  have hsorted : (m.entries.map fun e => (e.1, e)).Pairwise fun u v => u.1 < v.1 :=
    List.pairwise_map.2 m.sorted
  have hsnd : (m.entries.map fun e => (e.1, e)).map Prod.snd = m.entries := by
    rw [List.map_map]
    exact List.map_id _
  rw [← hsnd]
  refine (lists_of_pairs hsorted).congr fun k e => ?_
  rw [SortedMap.find?_eq_some_iff]
  constructor
  · intro h
    obtain ⟨e, he, heq⟩ := List.mem_map.1 h
    obtain ⟨rfl, rfl⟩ := Prod.mk.inj heq
    exact ⟨he, rfl⟩
  · rintro ⟨he, rfl⟩
    exact List.mem_map.2 ⟨e, he, rfl⟩

lemma definite_find? (m : SortedMap α) : Definite fun k x => m.find? k = some x :=
  fun _ _ _ h h' => Option.some.inj (h.symm.trans h')

lemma definite_entry (m : SortedMap α) :
    Definite fun k (e : String × α) => m.find? k = some e.2 ∧ e.1 = k :=
  fun _ _ _ h h' => Prod.ext (h.2.trans h'.2.symm) (definite_find? m _ _ _ h.1 h'.1)

/-- An entry behind all others goes to the end. -/
lemma insertEntry_eq_append {k : String} {x : α} {l : List (String × α)}
    (h : ∀ e ∈ l, e.1 < k) : SortedMap.insertEntry k x l = l ++ [(k, x)] := by
  induction l with
  | nil => rfl
  | cons e l ih =>
    obtain ⟨hlt, hl⟩ := List.forall_mem_cons.1 h
    rw [SortedMap.insertEntry, if_neg (String.lt_asymm hlt), if_pos hlt, ih hl, List.cons_append]

lemma entries_foldl_insert {l : List (String × α)} {m : SortedMap α}
    (h : (m.entries ++ l).Pairwise fun a b => a.1 < b.1) :
    (l.foldl (fun m e => m.insert e.1 e.2) m).entries = m.entries ++ l := by
  induction l generalizing m with
  | nil => exact (List.append_nil _).symm
  | cons e l ih =>
    have hinsert : (m.insert e.1 e.2).entries = m.entries ++ [e] :=
      insertEntry_eq_append fun a ha => (List.pairwise_append.1 h).2.2 a ha e List.mem_cons_self
    rw [List.foldl_cons, ih (by rwa [hinsert, List.append_assoc]), hinsert, List.append_assoc]
    rfl

/-- A map is made of its entries. -/
lemma ofList_entries (m : SortedMap α) : SortedMap.ofList m.entries = m :=
  SortedMap.ext (entries_foldl_insert m.sorted)

/-! ### Entries that take the place of others -/

section

variable {β : Type} {key : β → String} {k : String} {l : List β}

/-- The last of several things that go by a key. -/
def LastBy (key : β → String) (k : String) (l : List β) (b : β) : Prop :=
  (l.filter (key · = k)).getLast? = some b

lemma lastBy_snoc_iff {b b' : β} :
    LastBy key k (l ++ [b']) b ↔ if key b' = k then b' = b else LastBy key k l b := by
  by_cases h : key b' = k <;> simp [LastBy, List.filter_append, h]

lemma exists_lastBy_iff : (∃ b, LastBy key k l b) ↔ ∃ b ∈ l, key b = k := by
  simp only [LastBy, ← Option.isSome_iff_exists]
  simp

lemma LastBy.mem {b : β} (h : LastBy key k l b) : b ∈ l ∧ key b = k := by
  obtain ⟨hb, hk⟩ := List.mem_filter.1 (List.mem_of_getLast? h)
  exact ⟨hb, of_decide_eq_true hk⟩

/-- A map of several things has under a key what is made of the last that goes by it. -/
lemma find?_ofList_iff {f : β → α} {x : α} :
    (SortedMap.ofList (l.map fun b => (key b, f b))).find? k = some x ↔
      ∃ b, LastBy key k l b ∧ f b = x := by
  induction l using List.reverseRecOn with
  | nil => simp [SortedMap.ofList, SortedMap.find?_empty, LastBy]
  | append_singleton l b' ih =>
    have hsnoc : SortedMap.ofList ((l ++ [b']).map fun b => (key b, f b)) =
        (SortedMap.ofList (l.map fun b => (key b, f b))).insert (key b') (f b') := by
      rw [List.map_append, SortedMap.ofList, List.foldl_append]
      rfl
    simp only [hsnoc, SortedMap.find?_insert, lastBy_snoc_iff]
    by_cases h : key b' = k
    · simp [h]
    · simp [h, Ne.symm h, ih]

end

lemma contains_foldl_insert (l : List (String × α)) (m : SortedMap α) (k : String) :
    (l.foldl (fun m e => m.insert e.1 e.2) m).contains k = true ↔
      m.contains k = true ∨ k ∈ l.map (·.1) := by
  induction l generalizing m with
  | nil => simp
  | cons e l ih =>
    rw [List.foldl_cons, ih, SortedMap.contains_insert_iff, List.map_cons, List.mem_cons]
    tauto

lemma contains_ofNames {l : List String} {n : String} :
    (NameSet.ofNames l).contains n = true ↔ n ∈ l := by
  have hempty : (SortedMap.empty : NameSet).contains n = false := rfl
  have h := contains_foldl_insert (l.map (·, ())) .empty n
  rw [hempty, List.map_map] at h
  simpa [NameSet.ofNames, SortedMap.ofList, Function.comp_def] using h

lemma nameSet_ext {S T : NameSet} (h : ∀ n, S.contains n = true ↔ T.contains n = true) :
    S = T := by
  refine eq_of_find? fun n => ?_
  have hn := h n
  rw [SortedMap.contains, SortedMap.contains] at hn
  cases hS : S.find? n <;> cases hT : T.find? n <;> simp_all

/-- Neither order nor repetition shows in a set. -/
lemma ofNames_eq {l l' : List String} (h : ∀ n, n ∈ l ↔ n ∈ l') :
    NameSet.ofNames l = NameSet.ofNames l' :=
  nameSet_ext fun n => by rw [contains_ofNames, contains_ofNames, h]

def union (S T : NameSet) : NameSet := .ofNames (S.keys ++ T.keys)

lemma contains_union {S T : NameSet} {n : String} :
    (union S T).contains n = true ↔ S.contains n = true ∨ T.contains n = true := by
  rw [union, contains_ofNames, List.mem_append, SortedMap.mem_keys_iff, SortedMap.mem_keys_iff]

lemma isEmpty_eq_false_iff {m : SortedMap α} : m.isEmpty = false ↔ ∃ k, m.contains k = true := by
  simp only [← SortedMap.mem_keys_iff, SortedMap.keys, SortedMap.isEmpty]
  cases m.entries <;> simp

end AttributeRelease.Proofs.Maps
