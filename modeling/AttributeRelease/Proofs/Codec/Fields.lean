import AttributeRelease.Json.Decode
import AttributeRelease.Proofs.Checks
import AttributeRelease.Proofs.Maps

/-!
Reading the fields of a record that was written.

A record is written with its fields in an order of its own, and the object is the same with its
fields in the order of their keys. So reading is compared with writing through a function that may
list the fields of objects anew: whatever the order, a field is found under its name.
-/

namespace AttributeRelease.Proofs.Fields

open AttributeRelease.Proofs.Checks Json

mutual

/-- Lists the fields of all objects in the order of their keys. Of two fields with one key the first
one counts, as it does in a look-up. -/
def ordered : Json → Json
  | .arr items => .arr (orderedItems items)
  | .obj fields => .obj (orderedFields fields)
  | j => j

def orderedItems : List Json → List Json
  | [] => []
  | a :: rest => ordered a :: orderedItems rest

def orderedFields : List (String × Json) → List (String × Json)
  | [] => []
  | (k, a) :: rest => SortedMap.insertEntry k (ordered a) (orderedFields rest)

end

/-- A function changes nothing in values but how objects list their fields, and leaves those alone
that list them in order. -/
structure Relists (view : Json → Json) : Prop where
  null : view .null = .null
  bool (b : Bool) : view (.bool b) = .bool b
  int (n : ℤ) : view (.int n) = .int n
  str (s : String) : view (.str s) = .str s
  arr (items : List Json) : view (.arr items) = .arr (items.map view)
  obj (fields : List (String × Json)) : ∃ fields', view (.obj fields) = .obj fields' ∧
    ∀ k, fields'.lookup k = (fields.lookup k).map view
  sorted (fields : List (String × Json)) (h : fields.Pairwise fun a b => a.1 < b.1) :
    view (.obj fields) = .obj (fields.map fun e => (e.1, view e.2))

lemma relists_id : Relists id where
  null := rfl
  bool _ := rfl
  int _ := rfl
  str _ := rfl
  arr items := by rw [List.map_id]; rfl
  obj fields := ⟨fields, rfl, fun k => by rw [Option.map_id]; rfl⟩
  sorted fields _ := congrArg Json.obj (List.map_id' fields).symm

lemma orderedItems_eq (items : List Json) : orderedItems items = items.map ordered := by
  induction items with
  | nil => rfl
  | cons a rest ih => rw [orderedItems, ih, List.map_cons]

lemma lookup_orderedFields (fields : List (String × Json)) (k : String) :
    (orderedFields fields).lookup k = (fields.lookup k).map ordered := by
  induction fields with
  | nil => rfl
  | cons e rest ih =>
    obtain ⟨k', a⟩ := e
    rw [orderedFields]
    by_cases hk : k = k'
    · subst hk
      rw [SortedMap.lookup_insertEntry_self, List.lookup_cons, beq_self_eq_true]; rfl
    · rw [SortedMap.lookup_insertEntry_ne hk, ih, List.lookup_cons, beq_eq_false_iff_ne.2 hk]

lemma insertEntry_eq_cons {α : Type} {k : String} {x : α} {l : List (String × α)}
    (h : ∀ e ∈ l, k < e.1) : SortedMap.insertEntry k x l = (k, x) :: l := by
  cases l with
  | nil => rfl
  | cons e l => rw [SortedMap.insertEntry, if_pos (h e List.mem_cons_self)]

lemma orderedFields_sorted {fields : List (String × Json)}
    (h : fields.Pairwise fun a b => a.1 < b.1) :
    orderedFields fields = fields.map fun e => (e.1, ordered e.2) := by
  induction fields with
  | nil => rfl
  | cons e rest ih =>
    obtain ⟨hlt, hrest⟩ := List.pairwise_cons.1 h
    rw [orderedFields, ih hrest, List.map_cons, insertEntry_eq_cons]
    intro e' he'
    obtain ⟨e'', he'', rfl⟩ := List.mem_map.1 he'
    exact hlt e'' he''

lemma relists_ordered : Relists ordered where
  null := rfl
  bool _ := rfl
  int _ := rfl
  str _ := rfl
  arr items := by rw [ordered, orderedItems_eq]
  obj fields := ⟨orderedFields fields, rfl, lookup_orderedFields fields⟩
  sorted fields h := by rw [ordered, orderedFields_sorted h]

variable {α β : Type} {view : Json → Json} {m : Manner}

lemma list?_read (hv : Relists view) {item : Json → Option β} {write : α → Json} {g : α → β}
    {l : List α} (h : ∀ x ∈ l, item (view (write x)) = some (g x)) :
    list? item (view (.arr (l.map write))) = some (l.map g) := by
  rw [hv.arr, List.map_map, list?, List.mapM_map]
  exact mapM_eq_some_map h

/-- A list is read as it was written if its members are. -/
lemma list?_same (hv : Relists view) {item : Json → Option α} {write : α → Json} {l : List α}
    (h : ∀ x ∈ l, item (view (write x)) = some x) :
    list? item (view (.arr (l.map write))) = some l := by
  have hlist := list?_read (g := id) hv h
  rwa [List.map_id] at hlist

lemma text?_read (hv : Relists view) (s : String) : m.text? (view (.str s)) = some s := by
  rw [hv.str]; rfl

lemma flag?_read (hv : Relists view) (b : Bool) : m.flag? (view (.bool b)) = some b := by
  rw [hv.bool]; rfl

lemma strings?_read (hv : Relists view) (l : List String) :
    strings? m (view (ofStrings l)) = some l := list?_same hv fun s _ => text?_read hv s

/-- A map is read as it was written, entry by entry. -/
lemma mapOf?_read (hv : Relists view) {item : Json → Option α} {write : α → Json}
    {x : SortedMap α} (h : ∀ e ∈ x.entries, item (view (write e.2)) = some e.2) :
    mapOf? item (view (.obj (x.entries.map fun e => (e.1, write e.2)))) = some x := by
  have hread : (x.entries.map fun e => (e.1, view (write e.2))).mapM
      (fun f => (item f.2).map (f.1, ·)) = some x.entries := by
    rw [List.mapM_map]
    refine (mapM_eq_some_map (g := id) fun e he => ?_).trans (by rw [List.map_id])
    show (item (view (write e.2))).map (e.1, ·) = some e
    rw [h e he]; rfl
  have hsorted : (x.entries.map fun e => (e.1, write e.2)).Pairwise fun a b => a.1 < b.1 :=
    List.pairwise_map.2 x.sorted
  rw [hv.sorted _ hsorted, List.map_map]
  show (do return SortedMap.ofList (← (x.entries.map fun e => (e.1, view (write e.2))).mapM
    fun f => (item f.2).map (f.1, ·))) = some x
  rw [hread]
  exact congrArg some (Maps.ofList_entries x)

/-! ### Fields -/

/-- A list of fields shows the fields of a record, each under its name. -/
def Shows (view : Json → Json) (fields : Json.Fields) (f : Json.Fields) : Prop :=
  ∀ k, f.lookup k = (fields.lookup k).map view

@[simp] lemma lookup_field? (name k : String) (value : Option Json) :
    (field? name value).lookup k = if k = name then value else none := by
  by_cases h : k = name
  · subst h
    cases value <;> simp [field?]
  · have hne : (k == name) = false := beq_eq_false_iff_ne.2 h
    cases value <;> simp [field?, List.lookup_cons, hne, h]

variable {f fields : Json.Fields} {name : String} {item : Json → Option β}

lemma get?_read (hf : Shows view fields f) {j : Json} (hj : fields.lookup name = some j) {y : β}
    (h : item (view j) = some y) : f.get? name item = some y := by
  rw [Json.Fields.get?, hf, hj]; exact h

lemma getD?_read (hf : Shows view fields f) {j : Json} (hj : fields.lookup name = some j)
    {default y : β} (h : item (view j) = some y) : f.getD? name item default = some y := by
  rw [Json.Fields.getD?, hf, hj]; exact h

lemma get?_list (hv : Relists view) (hf : Shows view fields f) {item : Json → Option α}
    {write : α → Json} {l : List α} (hl : fields.lookup name = some (.arr (l.map write)))
    (h : ∀ x ∈ l, item (view (write x)) = some x) : f.get? name (list? item) = some l :=
  get?_read hf hl (list?_same hv h)

lemma getD?_list (hv : Relists view) (hf : Shows view fields f) {item : Json → Option α}
    {write : α → Json} {l : List α} (hl : fields.lookup name = some (.arr (l.map write)))
    (h : ∀ x ∈ l, item (view (write x)) = some x) :
    f.getD? name (list? item) [] = some l :=
  getD?_read hf hl (list?_same hv h)

/-- A list that is left out when it is empty. -/
lemma getD?_unlessEmpty (hv : Relists view) (hf : Shows view fields f) {item : Json → Option α}
    {write : α → Json} {l : List α} (hl : fields.lookup name = unlessEmpty (l.map write))
    (h : ∀ x ∈ l, item (view (write x)) = some x) :
    f.getD? name (list? item) [] = some l := by
  cases l with
  | nil => rw [Json.Fields.getD?, hf, hl]; rfl
  | cons x l => exact getD?_list hv hf hl h

/-- A map that is left out when it is empty. -/
lemma getD?_unlessEmptyMap (hv : Relists view) (hf : Shows view fields f) {item : Json → Option α}
    {write : α → Json} {x : SortedMap α} (hx : fields.lookup name =
      if x.isEmpty then none else some (.obj (x.entries.map fun e => (e.1, write e.2))))
    (h : ∀ e ∈ x.entries, item (view (write e.2)) = some e.2) :
    f.getD? name (mapOf? item) .empty = some x := by
  cases hempty : x.isEmpty with
  | false =>
    rw [hempty] at hx
    exact getD?_read hf hx (mapOf?_read hv h)
  | true =>
    have hnil : x = .empty := SortedMap.ext (List.isEmpty_iff.1 hempty)
    rw [hempty] at hx
    rw [Json.Fields.getD?, hf, hx, hnil]; rfl

/-- A field that is left out when there is nothing to write. -/
lemma maybe?_read (hf : Shows view fields f) {write : α → Json} {x? : Option α}
    {item : Json → Option α} (hx : fields.lookup name = x?.map write)
    (h : ∀ x ∈ x?, item (view (write x)) = some x) (hnull : ∀ x, view (write x) ≠ .null) :
    f.maybe? name item = some x? := by
  rw [Json.Fields.maybe?, Json.Fields.getD?, hf, hx]
  cases x? with
  | none => rfl
  | some x =>
    show optional? item (view (write x)) = some (some x)
    unfold optional?
    split
    · next heq => exact absurd heq (hnull x)
    · rw [h x rfl]; rfl

lemma maybe?_text (hv : Relists view) (hf : Shows view fields f) {s? : Option String}
    (hs : fields.lookup name = s?.map .str) : f.maybe? name m.text? = some s? :=
  maybe?_read hf hs (fun s _ => text?_read hv s) fun s => by rw [hv.str]; exact Json.noConfusion

/-- What is found in an object nests less deep than the object. -/
lemma depth_lt_of_lookup {j : Json} (h : fields.lookup name = some j) :
    j.depth < (Json.obj fields).depth := by
  have hle : j.depth ≤ depthFields fields := by
    induction fields with
    | nil => cases h
    | cons e rest ih =>
      rw [List.lookup_cons] at h
      rw [depthFields]
      split at h
      · obtain rfl := Option.some.inj h
        exact Nat.le_max_left _ _
      · exact Nat.le_trans (ih h) (Nat.le_max_right _ _)
  rw [depth]
  omega

lemma view_obj_ne_null (hv : Relists view) (fields : List (String × Json)) :
    view (.obj fields) ≠ .null := by
  obtain ⟨fields', h, -⟩ := hv.obj fields
  rw [h]
  exact Json.noConfusion

end AttributeRelease.Proofs.Fields
