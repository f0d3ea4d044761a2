import AttributeRelease.Proofs.Attributes
import Mathlib.Data.String.Basic

/-!
What becomes of the results of a backend.

Every raw value has a place: the entry or row that it is in, the name that it stands under, and its
position there. A map gathers what the places bring in. Each id under which something is brought in
has an attribute, and each value in it stands where it comes first.
-/

namespace AttributeRelease.Proofs.Gathering

open AttributeRelease.Proofs.Attributes AttributeRelease.Proofs.Listing
open AttributeRelease.Proofs.Maps

variable {ι σ : Type}

lemma toList_loop (bs : ByteArray) (i : ℕ) (r : List UInt8) :
    ByteArray.toList.loop bs i r = r.reverse ++ bs.data.toList.drop i := by
  fun_induction ByteArray.toList.loop bs i r with
  | case1 i r h ih =>
    have hi : i < bs.data.size := h
    have hget : bs.get! i = bs.data.toList[i] := getElem!_pos bs.data i hi
    rw [ih, hget, List.drop_eq_getElem_cons h, List.reverse_cons, List.append_assoc,
      List.singleton_append]
  | case2 i r h =>
    have hi : bs.data.toList.length ≤ i := Nat.not_lt.1 h
    rw [List.drop_eq_nil_of_le hi, List.append_nil]

lemma toList_eq (bs : ByteArray) : bs.toList = bs.data.toList := toList_loop bs 0 []

/-- Bytes are read as the text whose bytes they are. -/
lemma fromUTF8?_eq_some_iff {data : List UInt8} {s : String} :
    String.fromUTF8? ⟨data.toArray⟩ = some s ↔ s.toUTF8.toList = data := by
  rw [String.fromUTF8?, toList_eq]
  constructor
  · intro h
    split at h
    · obtain rfl := Option.some.inj h
      rfl
    · cases h
  · rintro rfl
    exact dif_pos s.isValidUTF8

/-- A name goes by its new name, or by itself if it has none. -/
def GoesBy (r : Renames) (name id : String) : Prop :=
  r.find? name = some id ∨ r.find? name = none ∧ id = name

lemma goesBy_iff {r : Renames} {name id : String} : GoesBy r name id ↔ r.apply name = id := by
  unfold GoesBy Renames.apply
  cases r.find? name with
  | none => simp [eq_comm]
  | some _ => simp

/-- What a raw value becomes, under a name that is for bytes or under one that is not. Bytes stay
bytes only if they are no text. -/
inductive Becomes : Bool → RawValue → AttributeValue → Prop
  | text (s : String) : Becomes false (.text s) (.string s)
  | bytesOfText (s : String) : Becomes true (.text s) (.bytes s.toUTF8.toList)
  | bytes (data : List UInt8) : Becomes true (.binary data) (.bytes data)
  | readable (s : String) : Becomes false (.binary s.toUTF8.toList) (.string s)
  | unreadable (data : List UInt8) (h : ∀ s : String, s.toUTF8.toList ≠ data) :
      Becomes false (.binary data) (.bytes data)

lemma becomes_value (b : Bool) (raw : RawValue) : Becomes b raw (EntryMapping.value b raw) := by
  cases b <;> cases raw <;> rw [EntryMapping.value]
  case false.text s => exact .text s
  case true.text s => exact .bytesOfText s
  case true.binary data => exact .bytes data
  case false.binary data =>
    cases h : String.fromUTF8? ⟨data.toArray⟩ with
    | some s =>
      obtain rfl := fromUTF8?_eq_some_iff.1 h
      exact .readable s
    | none =>
      refine .unreadable data fun s hs => ?_
      rw [fromUTF8?_eq_some_iff.2 hs] at h
      cases h

lemma Becomes.eq_value {b : Bool} {raw : RawValue} {v : AttributeValue} (h : Becomes b raw v) :
    EntryMapping.value b raw = v := by
  cases h with
  | readable s =>
    have hsome : String.fromUTF8? ⟨s.toUTF8.toList.toArray⟩ = some s := fromUTF8?_eq_some_iff.2 rfl
    rw [EntryMapping.value, if_neg Bool.false_ne_true, hsome]
  | unreadable data h =>
    have hnone : String.fromUTF8? ⟨data.toArray⟩ = none :=
      Option.eq_none_iff_forall_ne_some.2 fun s hs => h s (fromUTF8?_eq_some_iff.1 hs)
    rw [EntryMapping.value, if_neg Bool.false_ne_true, hnone]
  | _ => rfl

lemma becomes_iff {b : Bool} {raw : RawValue} {v : AttributeValue} :
    Becomes b raw v ↔ EntryMapping.value b raw = v :=
  ⟨Becomes.eq_value, fun h => h ▸ becomes_value b raw⟩

/-- What a column says. One without a value says nothing. -/
inductive Reads : SqlValue → AttributeValue → Prop
  | text (s : String) : Reads (.text s) (.string s)
  | integer (n : ℤ) : Reads (.integer n) (.string (toString n))
  | binary (data : List UInt8) : Reads (.binary data) (.bytes data)

lemma reads_iff {x : SqlValue} {v : AttributeValue} : Reads x v ↔ RowMapping.value? x = some v := by
  constructor
  · rintro (s | n | data) <;> rfl
  · intro h
    cases x with
    | null => cases h
    | text s => exact Option.some.inj h ▸ .text s
    | integer n => exact Option.some.inj h ▸ .integer n
    | binary data => exact Option.some.inj h ▸ .binary data

/-- Entries come first, then names, then the positions under them. -/
abbrev entryBefore : ℕ × String × ℕ → ℕ × String × ℕ → Prop :=
  Prod.Lex (· < ·) (Prod.Lex (· < ·) (· < ·))

/-- At a place in the entries there is a raw value that comes to a value under an id. -/
def EntryBrings (m : EntryMapping) (entries : List DirectoryEntry) (i : ℕ × String × ℕ)
    (u : String × AttributeValue) : Prop :=
  ∃ e raws raw, entries[i.1]? = some e ∧ e.attributes.find? i.2.1 = some raws ∧
    raws[i.2.2]? = some raw ∧ GoesBy m.renames i.2.1 u.1 ∧
    Becomes (m.binary.contains i.2.1) raw u.2

/-- Rows come first, then the labels of their columns. -/
abbrev rowBefore : ℕ × String → ℕ × String → Prop := Prod.Lex (· < ·) (· < ·)

/-- At a place in the rows there is a value under an id. Labels are put in lower case before they
are renamed, and are ordered as they were. -/
def RowBrings (m : RowMapping) (rows : List Row) (i : ℕ × String) (u : String × AttributeValue) :
    Prop :=
  ∃ r x, rows[i.1]? = some r ∧ r.find? i.2 = some x ∧ Reads x u.2 ∧
    GoesBy m.renames (if m.lowercase then Text.lowercase i.2 else i.2) u.1

lemma entryBrings_definite (m : EntryMapping) (entries : List DirectoryEntry) :
    Definite (EntryBrings m entries) := by
  rintro i ⟨x, v⟩ ⟨y, w⟩ ⟨e, raws, raw, he, hraws, hraw, hx, hv⟩
    ⟨_, _, _, he', hraws', hraw', hy, hw⟩
  obtain rfl := Option.some.inj (he.symm.trans he')
  obtain rfl := Option.some.inj (hraws.symm.trans hraws')
  obtain rfl := Option.some.inj (hraw.symm.trans hraw')
  rw [Prod.mk.injEq]
  exact ⟨(goesBy_iff.1 hx).symm.trans (goesBy_iff.1 hy), hv.eq_value.symm.trans hw.eq_value⟩

lemma rowBrings_definite (m : RowMapping) (rows : List Row) : Definite (RowBrings m rows) := by
  rintro i ⟨x, v⟩ ⟨y, w⟩ ⟨r, c, hr, hc, hv, hx⟩ ⟨_, _, hr', hc', hw, hy⟩
  obtain rfl := Option.some.inj (hr.symm.trans hr')
  obtain rfl := Option.some.inj (hc.symm.trans hc')
  rw [Prod.mk.injEq]
  exact ⟨(goesBy_iff.1 hx).symm.trans (goesBy_iff.1 hy),
    Option.some.inj ((reads_iff.1 hv).symm.trans (reads_iff.1 hw))⟩

lemma lists_valuesOfEntries (m : EntryMapping) (entries : List DirectoryEntry) :
    Lists entryBefore (EntryBrings m entries) (entries.flatMap m.valuesOfEntry) := by
  have hentry := fun e : DirectoryEntry =>
    (lists_entries e.attributes).flatMap (definite_entry e.attributes)
      (g := fun a => a.2.map fun raw =>
        (m.renames.apply a.1, EntryMapping.value (m.binary.contains a.1) raw))
      fun a _ => (lists_getElem? a.2).map _
  refine (lists_flatMap entries fun e _ => hentry e).congr ?_
  rintro ⟨n, name, j⟩ ⟨x, v⟩
  simp only [EntryBrings, goesBy_iff, becomes_iff, Prod.mk.injEq, Prod.exists]
  constructor
  · rintro ⟨e, he, _, raws, ⟨hraws, rfl⟩, raw, hraw, hx, hv⟩
    exact ⟨e, raws, raw, he, hraws, hraw, hx, hv⟩
  · rintro ⟨e, raws, raw, he, hraws, hraw, hx, hv⟩
    exact ⟨e, he, name, raws, ⟨hraws, rfl⟩, raw, hraw, hx, hv⟩

lemma lists_valuesOfRows (m : RowMapping) (rows : List Row) :
    Lists rowBefore (RowBrings m rows) (rows.flatMap m.valuesOfRow) := by
  refine (lists_flatMap rows fun r _ =>
    (lists_entries r).filterMap (definite_entry r) _).congr ?_
  rintro ⟨n, label⟩ ⟨x, v⟩
  simp only [RowBrings, goesBy_iff, reads_iff, Option.map_eq_some_iff, Prod.mk.injEq, Prod.exists]
  constructor
  · rintro ⟨r, hr, _, c, ⟨hc, rfl⟩, v', hv, hx, rfl⟩
    exact ⟨r, c, hr, hc, hv, hx⟩
  · rintro ⟨r, c, hr, hc, hv, hx⟩
    exact ⟨r, hr, label, c, ⟨hc, rfl⟩, v, hv, hx, rfl⟩

/-! ### Gathering -/

/-- A map has what is brought in at places and nothing else. -/
structure Gathers (before : ι → ι → Prop) (B : ι → String × AttributeValue → Prop)
    (m : AttributeMap) : Prop where
  contains_iff : ∀ x, m.contains x = true ↔ ∃ i v, B i (x, v)
  /-- There is nothing to an attribute but its id and its values. -/
  bare : ∀ x a, m.find? x = some a → a = { id := x, values := a.values }
  nonempty : ∀ x a, m.find? x = some a → a.values ≠ []
  values : ∀ x a, m.find? x = some a → Lists before (First before fun i v => B i (x, v)) a.values

/-- What is listed under an id. -/
def valuesUnder (x : String) (l : List (String × AttributeValue)) : List AttributeValue :=
  l.filterMap fun e => if e.1 = x then some e.2 else none

/-- The attribute of an id takes the values that are listed under it. -/
lemma find?_ofValues (l : List (String × AttributeValue)) (x : String) :
    (AttributeMap.ofValues l).find? x =
      if valuesUnder x l = [] then none
      else some (Attribute.addAll { id := x } (valuesUnder x l)) := by
  induction l using List.reverseRecOn with
  | nil => rfl
  | append_singleton l e ih =>
    have hsnoc : AttributeMap.ofValues (l ++ [e]) =
        (AttributeMap.ofValues l).addValue e.1 e.2 := by
      rw [AttributeMap.ofValues, List.foldl_append]
      rfl
    -- the last value touches the attribute of its own id only, which may be new
    rw [hsnoc, AttributeMap.addValue, SortedMap.update, SortedMap.find?_insert]
    by_cases hx : x = e.1
    · subst hx
      have hunder : valuesUnder e.1 (l ++ [e]) = valuesUnder e.1 l ++ [e.2] := by
        simp [valuesUnder]
      have hold : ((AttributeMap.ofValues l).find? e.1).getD { id := e.1 } =
          Attribute.addAll { id := e.1 } (valuesUnder e.1 l) := by
        rw [ih]
        split
        · next h => rw [h]; rfl
        · rfl
      rw [if_pos rfl, hold, hunder, if_neg (by simp), Attribute.addAll, Attribute.addAll,
        List.foldl_append]
      rfl
    · have hunder : valuesUnder x (l ++ [e]) = valuesUnder x l := by
        simp [valuesUnder, Ne.symm hx]
      rw [if_neg hx, hunder, ih]

lemma ofValues_gathers {before : ι → ι → Prop} [IsStrictOrder ι before]
    {B : ι → String × AttributeValue → Prop} {l : List (String × AttributeValue)}
    (h : Lists before B l) (hB : Definite B) : Gathers before B (.ofValues l) := by
  have hunder : ∀ x, Lists before (fun i v => B i (x, v)) (valuesUnder x l) := fun x =>
    (h.filterMap hB _).congr fun i v => by
      constructor
      · rintro ⟨⟨y, w⟩, hy, hw⟩
        obtain ⟨rfl, rfl⟩ : y = x ∧ w = v := by simpa using hw
        exact hy
      · exact fun hv => ⟨(x, v), hv, if_pos rfl⟩
  have hdefinite : ∀ x, Definite fun i v => B i (x, v) := fun x i v w hv hw =>
    (Prod.mk.inj (hB i _ _ hv hw)).2
  have hfind : ∀ x a, (AttributeMap.ofValues l).find? x = some a →
      valuesUnder x l ≠ [] ∧ a = Attribute.addAll { id := x } (valuesUnder x l) := by
    intro x a ha
    rw [find?_ofValues] at ha
    split at ha
    · cases ha
    · next hne => exact ⟨hne, (Option.some.inj ha).symm⟩
  constructor
  case contains_iff =>
    intro x
    have hmem : (∃ i v, B i (x, v)) ↔ ∃ v, v ∈ valuesUnder x l := by
      rw [exists_comm]
      exact exists_congr fun v => ((hunder x).mem_iff (hdefinite x)).symm
    rw [hmem, SortedMap.contains, find?_ofValues]
    by_cases hnil : valuesUnder x l = []
    · simp [hnil]
    · simpa [hnil] using List.exists_mem_of_ne_nil _ hnil
  case bare =>
    intro x a ha
    obtain ⟨-, rfl⟩ := hfind x a ha
    rw [addAll_eq]
  case nonempty =>
    intro x a ha
    obtain ⟨hne, rfl⟩ := hfind x a ha
    exact addAll_values_ne_nil hne
  case values =>
    intro x a ha
    obtain ⟨-, rfl⟩ := hfind x a ha
    exact addAll_lists (hunder x) (hdefinite x) rfl

lemma entries_gathers (m : EntryMapping) (entries : List DirectoryEntry) :
    Gathers entryBefore (EntryBrings m entries) (.ofValues (entries.flatMap m.valuesOfEntry)) :=
  ofValues_gathers (lists_valuesOfEntries m entries) (entryBrings_definite m entries)

lemma rows_gathers (m : RowMapping) (rows : List Row) :
    Gathers rowBefore (RowBrings m rows) (m.map rows) :=
  ofValues_gathers (lists_valuesOfRows m rows) (rowBrings_definite m rows)

/-- Without empty attributes, a map is empty only if nothing at all is brought in. -/
lemma Gathers.isEmpty_iff {before : ι → ι → Prop} {B : ι → String × AttributeValue → Prop}
    {m : AttributeMap} (h : Gathers before B m) : m.isEmpty = false ↔ ∃ i u, B i u := by
  rw [isEmpty_eq_false_iff]
  constructor
  · rintro ⟨x, hx⟩
    obtain ⟨i, v, hv⟩ := (h.contains_iff x).1 hx
    exact ⟨i, (x, v), hv⟩
  · rintro ⟨i, ⟨x, v⟩, hv⟩
    exact ⟨x, (h.contains_iff x).2 ⟨i, v, hv⟩⟩

lemma map_eq_error_iff {m : EntryMapping} {entries : List DirectoryEntry} {e : PluginError} :
    m.map entries = .error e ↔
      (1 < entries.length ∧ m.multipleResults = false) ∧
        e = .ambiguousSearch (EntryMapping.tooMany entries.length) := by
  unfold EntryMapping.map
  simp only [Bool.not_eq_true']
  by_cases h : 1 < entries.length ∧ m.multipleResults = false
  · rw [if_pos h, and_iff_right h, Except.error.injEq, eq_comm]
  · rw [if_neg h]
    exact ⟨nofun, fun hrefused => absurd hrefused.1 h⟩

lemma map_gathers {m : EntryMapping} {entries : List DirectoryEntry} {a : AttributeMap}
    (h : m.map entries = .ok a) : Gathers entryBefore (EntryBrings m entries) a := by
  unfold EntryMapping.map at h
  split at h
  · cases h
  · obtain rfl := Except.ok.inj h
    exact entries_gathers m entries

/-- There is a raw value in some entry. -/
def SomeRaw (entries : List DirectoryEntry) : Prop :=
  ∃ e ∈ entries, ∃ name raws, e.attributes.find? name = some raws ∧ raws ≠ []

/-- There is a column that holds something, in some row. -/
def SomeColumn (rows : List Row) : Prop :=
  ∃ r ∈ rows, ∃ label x, r.find? label = some x ∧ x ≠ .null

/-- Every raw value is brought in, under whatever id and as whatever value. -/
lemma exists_entryBrings_iff {m : EntryMapping} {entries : List DirectoryEntry} :
    (∃ i u, EntryBrings m entries i u) ↔ SomeRaw entries := by
  constructor
  · rintro ⟨i, u, e, raws, raw, he, hraws, hraw, -⟩
    exact ⟨e, List.mem_of_getElem? he, i.2.1, raws, hraws,
      List.ne_nil_of_mem (List.mem_of_getElem? hraw)⟩
  · rintro ⟨e, he, name, raws, hraws, hne⟩
    obtain ⟨n, hn⟩ := List.getElem?_of_mem he
    obtain ⟨raw, hraw⟩ := List.exists_mem_of_ne_nil _ hne
    obtain ⟨j, hj⟩ := List.getElem?_of_mem hraw
    exact ⟨(n, name, j), (m.renames.apply name, EntryMapping.value (m.binary.contains name) raw),
      e, raws, raw, hn, hraws, hj, goesBy_iff.2 rfl, becomes_value _ raw⟩

lemma exists_rowBrings_iff {m : RowMapping} {rows : List Row} :
    (∃ i u, RowBrings m rows i u) ↔ SomeColumn rows := by
  constructor
  · rintro ⟨i, u, r, x, hr, hx, hu, -⟩
    refine ⟨r, List.mem_of_getElem? hr, i.2, x, hx, ?_⟩
    rintro rfl
    cases hu
  · rintro ⟨r, hr, label, x, hx, hne⟩
    obtain ⟨n, hn⟩ := List.getElem?_of_mem hr
    have hreads : ∃ v, Reads x v := by
      cases x with
      | null => exact absurd rfl hne
      | text s => exact ⟨_, .text s⟩
      | integer n => exact ⟨_, .integer n⟩
      | binary data => exact ⟨_, .binary data⟩
    obtain ⟨v, hv⟩ := hreads
    exact ⟨(n, label), (m.attributeId label, v), r, x, hn, hx, hv, goesBy_iff.2 rfl⟩

/-- A backend is asked in a state and comes back with results: what they are mapped to, and whether
there is anything in them. -/
inductive ComesBack (v : TemplateValues) (s s' : σ) :
    ConnectorSource σ → Except PluginError AttributeMap → Prop → Prop
  | entries {client : DirectoryClient σ} {baseDn : String} {filter : QueryTemplate}
      {names : List String} {m : EntryMapping} {q : DirectoryQuery}
      {entries : List DirectoryEntry}
      (hq : ConnectorSource.directoryQuery baseDn filter names v = .ok q)
      (hs : client.search q s = (.ok entries, s')) :
      ComesBack v s s' (.directory client baseDn filter names m.map) (m.map entries)
        (SomeRaw entries)
  | rows {client : DatabaseClient σ} {template : QueryTemplate} {m : RowMapping} {q : Statement}
      {rows : List Row} (hq : ConnectorSource.statement template v = .ok q)
      (hs : client.query q s = (.ok rows, s')) :
      ComesBack v s s' (.relational client template m.mapResult) (m.mapResult rows)
        (SomeColumn rows)

/-- What a connector reports of results that are mapped to something, or cannot be mapped. -/
inductive Reports (c : DataConnector σ) : Except PluginError AttributeMap → Prop →
    Except PluginError (Option AttributeMap) → Prop
  | failure (e : PluginError) (found : Prop) : Reports c (.error e) found (.error e)
  | attributes (m : AttributeMap) {found : Prop} (h : found) :
    Reports c (.ok m) found (.ok (some m))
  | nothing (m : AttributeMap) {found : Prop} (h : ¬ found) (hc : c.noResultIsError = false) :
      Reports c (.ok m) found (.ok none)
  | noResult (m : AttributeMap) {found : Prop} (h : ¬ found) (hc : c.noResultIsError = true) :
      Reports c (.ok m) found (.error .noResult)

lemma outcome_reports (c : DataConnector σ) {m : AttributeMap} {found : Prop}
    (h : m.isEmpty = false ↔ found) : Reports c (.ok m) found (c.outcome m) := by
  unfold DataConnector.outcome
  cases hempty : m.isEmpty with
  | false => exact .attributes m (h.1 hempty)
  | true =>
    have hnone : ¬ found := fun hfound => by simp [h.2 hfound] at hempty
    cases hc : c.noResultIsError with
    | false => exact .nothing m hnone hc
    | true => exact .noResult m hnone hc

lemma retrieve_reports {c : DataConnector σ} {v : TemplateValues} {s s' : σ}
    {mapped : Except PluginError AttributeMap} {found : Prop}
    (h : ComesBack v s s' c.source mapped found) :
    ∃ reported, c.retrieve v s = (reported, s') ∧ Reports c mapped found reported := by
  unfold DataConnector.retrieve
  generalize c.source = source at h
  cases h with
  | @entries client baseDn filter names m q entries hq hs =>
    simp only [ConnectorSource.fetch, ConnectorSource.ask, hq, hs]
    cases hm : m.map entries with
    | error e => exact ⟨_, rfl, .failure e _⟩
    | ok a =>
      exact ⟨_, rfl, outcome_reports c ((map_gathers hm).isEmpty_iff.trans exists_entryBrings_iff)⟩
  | @rows client template m q rows hq hs =>
    simp only [ConnectorSource.fetch, ConnectorSource.ask, hq, hs]
    exact ⟨_, rfl, outcome_reports c ((rows_gathers m rows).isEmpty_iff.trans exists_rowBrings_iff)⟩

/-- **Mappings neither lose nor invent anything.** Entries are refused if there are several of them
where one is expected, and rows never. Otherwise the map gathers what the entries or rows bring in,
without an attribute that has no value, so that a connector has nothing to report if and only if
nothing came back. -/
theorem mappings_gather :
    (∀ (m : EntryMapping) (entries : List DirectoryEntry),
      ((∃ e, m.map entries = .error e) ↔ 1 < entries.length ∧ m.multipleResults = false) ∧
      (∀ e, m.map entries = .error e → e = .ambiguousSearch (EntryMapping.tooMany entries.length)) ∧
      ∀ a, m.map entries = .ok a → Gathers entryBefore (EntryBrings m entries) a) ∧
    (∀ (m : RowMapping) (rows : List Row), Gathers rowBefore (RowBrings m rows) (m.map rows)) ∧
    ∀ (σ : Type) (c : DataConnector σ) (v : TemplateValues) (s s' : σ)
      (mapped : Except PluginError AttributeMap) (found : Prop),
      ComesBack v s s' c.source mapped found →
        ∃ reported, c.retrieve v s = (reported, s') ∧ Reports c mapped found reported := by
  refine ⟨fun m entries => ⟨?_, fun e he => (map_eq_error_iff.1 he).2, fun a => map_gathers⟩,
    rows_gathers, fun σ c v s s' mapped found => retrieve_reports⟩
  simp only [map_eq_error_iff, exists_and_left, exists_eq, and_true]

/-- Two names in one entry that come to the same, with a value that is there twice. -/
def staff : List DirectoryEntry :=
  [{ attributes := .ofList [("MAIL", [.text "ada@a.example", .text "ada@b.example"]),
      ("mail", [.text "ada@c.example", .text "ada@a.example"])] }]

def staffMapping : EntryMapping where
  renames := .ofList [("MAIL", "mail")]

def staffConnector : DataConnector Unit where
  id := "staff"
  source :=
    .directory ⟨fun _ s => (.ok staff, s), fun s => (.ok (), s)⟩ "" ⟨"", []⟩ [] staffMapping.map

theorem staff_gathered :
    ComesBack ⟨{}, .empty⟩ () () staffConnector.source (staffMapping.map staff) (SomeRaw staff) ∧
    (∃ reported, staffConnector.retrieve ⟨{}, .empty⟩ () = (reported, ()) ∧
      Reports staffConnector (staffMapping.map staff) (SomeRaw staff) reported) ∧
    ((staffMapping.map staff).toOption.bind (·.find? "mail")).map (·.values.map (·.shown)) =
      some ["ada@a.example", "ada@b.example", "ada@c.example"] := by
  have hback : ComesBack ⟨{}, .empty⟩ () () staffConnector.source (staffMapping.map staff)
      (SomeRaw staff) := .entries rfl rfl
  exact ⟨hback, mappings_gather.2.2 _ _ _ _ _ _ _ hback, by decide +kernel⟩

end AttributeRelease.Proofs.Gathering
