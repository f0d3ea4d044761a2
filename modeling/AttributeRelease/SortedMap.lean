/-!
Finite maps from text keys, listed in the order of their keys.

A map is its list of entries with strictly increasing keys, so the listing order is part of the
value and two maps with the same look-ups are equal. Keys compare character by character by code
point, which is also the order of their UTF-8 bytes.
-/

namespace AttributeRelease

universe u v

structure SortedMap (α : Type u) where
  entries : List (String × α)
  sorted : entries.Pairwise (fun a b => a.1 < b.1)

namespace SortedMap

variable {α : Type u} {β : Type v}

@[ext] theorem ext {m n : SortedMap α} (h : m.entries = n.entries) : m = n := by
  cases m; cases n; cases h; rfl

instance [DecidableEq α] : DecidableEq (SortedMap α) := fun m n =>
  if h : m.entries = n.entries then .isTrue (ext h) else .isFalse (fun e => h (e ▸ rfl))

instance [BEq α] : BEq (SortedMap α) := ⟨fun m n => m.entries == n.entries⟩

def empty : SortedMap α := ⟨[], .nil⟩

instance : Inhabited (SortedMap α) := ⟨empty⟩

def isEmpty (m : SortedMap α) : Bool := m.entries.isEmpty

def size (m : SortedMap α) : Nat := m.entries.length

def keys (m : SortedMap α) : List String := m.entries.map (·.1)

def values (m : SortedMap α) : List α := m.entries.map (·.2)

def find? (m : SortedMap α) (k : String) : Option α := m.entries.lookup k

def contains (m : SortedMap α) (k : String) : Bool := (m.find? k).isSome

/-- Puts an entry at its place, in the stead of an entry with the same key. -/
def insertEntry (k : String) (x : α) : List (String × α) → List (String × α)
  | [] => [(k, x)]
  | (k', x') :: rest =>
    if k < k' then (k, x) :: (k', x') :: rest
    else if k' < k then (k', x') :: insertEntry k x rest
    else (k, x) :: rest

theorem eq_of_not_lt {a b : String} (h : ¬ a < b) (h' : ¬ b < a) : a = b :=
  String.le_antisymm (String.not_lt.1 h') (String.not_lt.1 h)

theorem mem_insertEntry {k : String} {x : α} {e : String × α} {l : List (String × α)} :
    e ∈ insertEntry k x l → e = (k, x) ∨ e ∈ l := by
  induction l with
  | nil => simp [insertEntry]
  | cons hd tl ih =>
    obtain ⟨k', x'⟩ := hd
    rw [insertEntry]
    split
    · simp
    · split
      · simp only [List.mem_cons]
        rintro (h | h)
        · exact .inr (.inl h)
        · exact (ih h).imp id .inr
      · simp only [List.mem_cons]
        rintro (h | h)
        · exact .inl h
        · exact .inr (.inr h)

theorem insertEntry_sorted (k : String) (x : α) {l : List (String × α)}
    (h : l.Pairwise (fun a b => a.1 < b.1)) :
    (insertEntry k x l).Pairwise (fun a b => a.1 < b.1) := by
  induction l with
  | nil => simp [insertEntry]
  | cons hd tl ih =>
    obtain ⟨k', x'⟩ := hd
    obtain ⟨h1, h2⟩ := List.pairwise_cons.1 h
    rw [insertEntry]
    split
    · next hlt =>
      refine List.pairwise_cons.2 ⟨fun a ha => ?_, h⟩
      rcases List.mem_cons.1 ha with rfl | ha
      · exact hlt
      · exact String.lt_trans hlt (h1 a ha)
    · next hnlt =>
      split
      · next hgt =>
        refine List.pairwise_cons.2 ⟨fun a ha => ?_, ih h2⟩
        rcases mem_insertEntry ha with rfl | ha
        · exact hgt
        · exact h1 a ha
      · next hngt =>
        have := eq_of_not_lt hnlt hngt
        subst this
        exact List.pairwise_cons.2 ⟨h1, h2⟩

def insert (m : SortedMap α) (k : String) (x : α) : SortedMap α :=
  ⟨insertEntry k x m.entries, insertEntry_sorted k x m.sorted⟩

/-- Replaces what is stored under a key by a function of it. -/
def update (m : SortedMap α) (k : String) (f : Option α → α) : SortedMap α :=
  m.insert k (f (m.find? k))

/-- The map of a list of pairs, where a later pair takes the place of an earlier one. -/
def ofList (l : List (String × α)) : SortedMap α :=
  l.foldl (fun m e => m.insert e.1 e.2) empty

def map (f : String → α → β) (m : SortedMap α) : SortedMap β :=
  ⟨m.entries.map (fun e => (e.1, f e.1 e.2)), by
    rw [List.pairwise_map]; exact m.sorted⟩

theorem filterMap_sorted (f : String → α → Option β) {l : List (String × α)}
    (h : l.Pairwise (fun a b => a.1 < b.1)) :
    (l.filterMap (fun e => (f e.1 e.2).map (e.1, ·))).Pairwise (fun a b => a.1 < b.1) := by
  rw [List.pairwise_filterMap]
  refine h.imp fun {a b} hab x hx y hy => ?_
  obtain ⟨_, _, rfl⟩ := Option.map_eq_some_iff.1 hx
  obtain ⟨_, _, rfl⟩ := Option.map_eq_some_iff.1 hy
  exact hab

/-- Keeps the entries for which the function has a value, with that value. -/
def filterMap (f : String → α → Option β) (m : SortedMap α) : SortedMap β :=
  ⟨m.entries.filterMap (fun e => (f e.1 e.2).map (e.1, ·)), filterMap_sorted f m.sorted⟩

def filter (p : String → α → Bool) (m : SortedMap α) : SortedMap α :=
  ⟨m.entries.filter (fun e => p e.1 e.2), m.sorted.filter _⟩

def erase (m : SortedMap α) (k : String) : SortedMap α := m.filter (fun k' _ => k' != k)

/-! ### Look-up after each operation -/

theorem find?_empty (k : String) : (empty : SortedMap α).find? k = none := rfl

theorem lookup_insertEntry_self (k : String) (x : α) (l : List (String × α)) :
    (insertEntry k x l).lookup k = some x := by
  induction l with
  | nil => simp [insertEntry]
  | cons hd tl ih =>
    obtain ⟨k', x'⟩ := hd
    rw [insertEntry]
    split
    · simp
    · split
      · next hgt =>
        have : (k == k') = false := by
          simp only [beq_eq_false_iff_ne]; rintro rfl; exact String.lt_irrefl _ hgt
        rw [List.lookup_cons, this]; exact ih
      · simp

theorem lookup_insertEntry_ne {k k' : String} (h : k' ≠ k) (x : α) (l : List (String × α)) :
    (insertEntry k x l).lookup k' = l.lookup k' := by
  have hb : (k' == k) = false := by simpa using h
  induction l with
  | nil => simp [insertEntry, List.lookup_cons, hb]
  | cons hd tl ih =>
    obtain ⟨k₁, x₁⟩ := hd
    rw [insertEntry]
    split
    · rw [List.lookup_cons, hb]
    · next hnlt =>
      split
      · rw [List.lookup_cons, List.lookup_cons, ih]
      · next hngt =>
        have := eq_of_not_lt hnlt hngt
        subst this
        rw [List.lookup_cons, List.lookup_cons, hb]

theorem find?_insert_self (m : SortedMap α) (k : String) (x : α) :
    (m.insert k x).find? k = some x := lookup_insertEntry_self k x m.entries

theorem find?_insert_ne (m : SortedMap α) {k k' : String} (h : k' ≠ k) (x : α) :
    (m.insert k x).find? k' = m.find? k' := lookup_insertEntry_ne h x m.entries

theorem find?_insert (m : SortedMap α) (k k' : String) (x : α) :
    (m.insert k x).find? k' = if k' = k then some x else m.find? k' := by
  split
  · next h => subst h; exact find?_insert_self m _ x
  · next h => exact find?_insert_ne m h x

theorem lookup_eq_some_iff {l : List (String × α)} (h : l.Pairwise (fun a b => a.1 < b.1))
    (k : String) (x : α) : l.lookup k = some x ↔ (k, x) ∈ l := by
  induction l with
  | nil => simp
  | cons hd tl ih =>
    obtain ⟨k', x'⟩ := hd
    obtain ⟨h1, h2⟩ := List.pairwise_cons.1 h
    rw [List.lookup_cons]
    by_cases hk : k = k'
    · subst hk
      have hne : (k, x) ∉ tl := fun hm => String.lt_irrefl k (h1 (k, x) hm)
      simp [hne, eq_comm]
    · have hb : (k == k') = false := by simpa using hk
      simp [hb, hk, ih h2]

theorem find?_eq_some_iff (m : SortedMap α) (k : String) (x : α) :
    m.find? k = some x ↔ (k, x) ∈ m.entries := lookup_eq_some_iff m.sorted k x

theorem contains_iff (m : SortedMap α) (k : String) : m.contains k ↔ ∃ x, m.find? k = some x :=
  Option.isSome_iff_exists

theorem contains_insert_iff (m : SortedMap α) (k k' : String) (x : α) :
    (m.insert k x).contains k' ↔ k' = k ∨ m.contains k' := by
  rw [contains, find?_insert]
  split
  · next h => simp [h]
  · next h => simp [h, contains]

theorem mem_keys_iff (m : SortedMap α) (k : String) : k ∈ m.keys ↔ m.contains k := by
  simp [keys, contains_iff, find?_eq_some_iff]

theorem mem_values_iff (m : SortedMap α) (x : α) : x ∈ m.values ↔ ∃ k, m.find? k = some x := by
  simp [values, find?_eq_some_iff]

theorem mem_values_insert_iff {m : SortedMap α} {k : String} (h : m.contains k = false) (x y : α) :
    y ∈ (m.insert k x).values ↔ y ∈ m.values ∨ y = x := by
  simp only [mem_values_iff, find?_insert]
  constructor
  · rintro ⟨k', hk'⟩
    split at hk'
    · exact .inr (Option.some.inj hk').symm
    · exact .inl ⟨k', hk'⟩
  · rintro (⟨k', hk'⟩ | rfl)
    · refine ⟨k', ?_⟩
      rw [if_neg, hk']
      rintro rfl
      simp [contains, hk'] at h
    · exact ⟨k, if_pos rfl⟩

theorem find?_map (f : String → α → β) (m : SortedMap α) (k : String) :
    (m.map f).find? k = (m.find? k).map (f k) := by
  obtain ⟨l, h⟩ := m
  simp only [find?, map]
  clear h
  induction l with
  | nil => rfl
  | cons hd tl ih =>
    rw [List.map_cons, List.lookup_cons, List.lookup_cons, ih]
    split
    · next heq => rw [eq_of_beq heq]; rfl
    · rfl

theorem find?_filterMap (f : String → α → Option β) (m : SortedMap α) (k : String) :
    (m.filterMap f).find? k = (m.find? k).bind (f k) := by
  refine Option.ext fun y => ?_
  simp only [find?_eq_some_iff, filterMap, List.mem_filterMap, Option.map_eq_some_iff,
    Option.bind_eq_some_iff, Prod.mk.injEq, Prod.exists]
  constructor
  · rintro ⟨k', x, hm, y', hf, rfl, rfl⟩
    exact ⟨x, hm, hf⟩
  · rintro ⟨x, hm, hf⟩
    exact ⟨k, x, hm, y, hf, rfl, rfl⟩

end SortedMap

/-- Finite sets of texts, listed in order. -/
abbrev NameSet := SortedMap Unit

def NameSet.ofNames (l : List String) : NameSet := .ofList (l.map (·, ()))

end AttributeRelease
