import AttributeRelease.Policy.Codec
import AttributeRelease.Proofs.Codec.Fields

/-!
Attributes, their values and descriptors of parties, written and read again.

Structured data is carried as it is, so when the fields of objects are listed anew, those of its
objects are too. Everything else comes back as it was.
-/

namespace AttributeRelease.Proofs.Values

open Json
open AttributeRelease.Proofs.Fields

variable {view : Json → Json}

lemma encoder_read (hv : Relists view) (m : Manner) (e : Encoder) :
    Encoder.ofJson? m (view e.toJson) = some e := by
  obtain ⟨f, hview, hf⟩ : ∃ f : Json.Fields, view e.toJson = .obj f ∧ Shows view _ f := hv.obj _
  have hprotocol : f.get? "protocol" m.text? = some e.protocol :=
    get?_read hf (by simp) (text?_read hv _)
  have hname : f.get? "name" m.text? = some e.name :=
    get?_read hf (by simp [List.lookup_cons]) (text?_read hv _)
  have hformat : f.maybe? "name_format" m.text? = some e.nameFormat :=
    maybe?_text hv hf (by simp [List.lookup_append, List.lookup_cons])
  have hfriendly : f.maybe? "friendly_name" m.text? = some e.friendlyName :=
    maybe?_text hv hf (by simp [List.lookup_append, List.lookup_cons])
  rw [hview, Encoder.ofJson?, fields?]
  simp only [Option.bind_eq_bind, Option.bind_some, hprotocol, hname, hformat, hfriendly]
  rfl

/-- Encoders are written only if there are some. -/
lemma encoders_read (hv : Relists view) {m : Manner} {f fields : Json.Fields}
    (hf : Shows view fields f) {l : List Encoder}
    (hl : fields.lookup "encoders" = unlessEmpty (l.map (·.toJson))) :
    f.getD? "encoders" (list? (Encoder.ofJson? m)) [] = some l :=
  getD?_unlessEmpty hv hf hl fun e _ => encoder_read hv m e

lemma localized_read (hv : Relists view) {m : Manner} {f fields : Json.Fields} {name : String}
    (hf : Shows view fields f) {texts : Localized}
    (h : fields.lookup name = if texts.isEmpty then none else some (stringMap texts)) :
    f.getD? name (mapOf? m.text?) .empty = some texts :=
  getD?_unlessEmptyMap hv hf h fun e _ => text?_read hv e.2

/-- Lists anew the fields of what a value carries. -/
def relistValue (view : Json → Json) : AttributeValue → AttributeValue
  | .structured j => .structured (view j)
  | v => v

lemma bytes?_read (hv : Relists view) (b : List UInt8) :
    AttributeValue.bytes? (view (.arr (b.map fun x => .int x.toNat))) = some b := by
  have hbyte (x : UInt8) : AttributeValue.byte? (view (.int x.toNat)) = some x := by
    rw [hv.int]
    show (if x.toNat < 256 then some (UInt8.ofNat x.toNat) else none) = some x
    rw [if_pos x.toNat_lt, UInt8.ofNat_toNat]
  rw [← list?_same hv (l := b) fun x _ => hbyte x, hv.arr]
  rfl

lemma withScope?_read (hv : Relists view) (s scope : String) :
    AttributeValue.withScope? (view (.obj [("value", .str s), ("scope", .str scope)])) =
      some (.withScope s scope) := by
  obtain ⟨f, hview, hf⟩ := hv.obj [("value", .str s), ("scope", .str scope)]
  have hvalue : Json.Fields.get? f "value" Manner.exact.text? = some s :=
    get?_read hf (by simp) (text?_read hv _)
  have hscope : Json.Fields.get? f "scope" Manner.exact.text? = some scope :=
    get?_read hf (by simp [List.lookup_cons]) (text?_read hv _)
  rw [hview, AttributeValue.withScope?, fields?]
  simp only [Option.bind_eq_bind, Option.bind_some, hvalue, hscope]
  rfl

lemma tag_read (hv : Relists view) (k : ValueKind) {f fields : Json.Fields}
    (hf : Shows view fields f) (h : fields.lookup "type" = some (.str k.name)) :
    f.get? "type" (Manner.exact.name? (ValueKind.every.map (·.name))) = some k.name := by
  refine get?_read hf h ?_
  rw [hv.str]
  cases k <;> rfl

lemma ofName?_name (k : ValueKind) : ValueKind.ofName? k.name = some k := by
  cases k <;> rfl

/-- The value of a kind, read from what stands beside its name. -/
def payload? (j : Json) : ValueKind → Option AttributeValue
  | .string => (Manner.exact.text? j).map .string
  | .withScope => AttributeValue.withScope? j
  | .bytes => (AttributeValue.bytes? j).map .bytes
  | .structured => some (.structured j)

lemma tagged_read (hv : Relists view) (k : ValueKind) (j : Json) :
    AttributeValue.ofJson? (view (.obj [("type", .str k.name), ("value", j)])) =
      payload? (view j) k := by
  obtain ⟨f, hview, hf⟩ := hv.obj [("type", .str k.name), ("value", j)]
  have htype := tag_read hv k hf (by simp)
  have hvalue : f.lookup "value" = some (view j) := by rw [hf]; simp [List.lookup_cons]
  rw [hview, AttributeValue.ofJson?, fields?]
  simp only [Option.bind_eq_bind, Option.bind_some, htype, hvalue, ofName?_name]
  cases k <;> first | rfl | exact Option.map_eq_bind.symm

lemma value_read (hv : Relists view) (x : AttributeValue) :
    AttributeValue.ofJson? (view x.toJson) = some (relistValue view x) := by
  cases x with
  | string s => exact (tagged_read hv .string _).trans (by rw [payload?, text?_read hv]; rfl)
  | withScope s scope => exact (tagged_read hv .withScope _).trans (withScope?_read hv s scope)
  | bytes b => exact (tagged_read hv .bytes _).trans (by rw [payload?, bytes?_read hv]; rfl)
  | structured j => exact tagged_read hv .structured j

/-! ### Attributes -/

def relistAttribute (view : Json → Json) (a : Attribute) : Attribute :=
  { a with values := a.values.map (relistValue view) }

lemma attribute_read (hv : Relists view) (a : Attribute) :
    Attribute.ofJson? (view a.toJson) = some (relistAttribute view a) := by
  obtain ⟨f, hview, hf⟩ : ∃ f : Json.Fields, view a.toJson = .obj f ∧ Shows view _ f := hv.obj _
  have hid : f.get? "id" Manner.exact.text? = some a.id := get?_read hf (by simp) (text?_read hv _)
  have hvalues : f.get? "values" (list? AttributeValue.ofJson?) =
      some (a.values.map (relistValue view)) :=
    get?_read hf (by simp [List.lookup_cons]) (list?_read hv fun x _ => value_read hv x)
  have hnames : f.getD? "display_names" (mapOf? Manner.exact.text?) .empty =
      some a.displayNames :=
    localized_read hv hf (by simp [List.lookup_append, List.lookup_cons])
  have hdescriptions : f.getD? "display_descriptions" (mapOf? Manner.exact.text?) .empty =
      some a.displayDescriptions :=
    localized_read hv hf (by simp [List.lookup_append, List.lookup_cons])
  have hencoders : f.getD? "encoders" (list? (Encoder.ofJson? .exact)) [] = some a.encoders :=
    encoders_read hv hf (by simp [List.lookup_append, List.lookup_cons])
  rw [hview, Attribute.ofJson?, fields?]
  simp only [Option.bind_eq_bind, Option.bind_some, hid, hvalues, hnames, hdescriptions, hencoders]
  rfl

lemma group_toJson_eq (g : EntityGroup) : g.toJson = .obj ([("name", .str g.name)] ++
    field? "parent" ((EntityGroup.chain? g.ancestors).map EntityGroup.toJson)) := by
  obtain ⟨name, ancestors⟩ := g
  cases ancestors <;> rfl

lemma view_group_ne_null (hv : Relists view) (g : EntityGroup) : view g.toJson ≠ .null := by
  rw [group_toJson_eq]
  exact view_obj_ne_null hv _

/-- Groups are read if they nest no deeper than the bound. -/
lemma nested_read (hv : Relists view) {n : ℕ} {g : EntityGroup}
    (hn : (view g.toJson).depth ≤ n) : EntityGroup.ofNested? n (view g.toJson) = some g := by
  induction n generalizing g with
  | zero =>
    obtain ⟨f, hview, -⟩ := hv.obj ([("name", .str g.name)] ++
      field? "parent" ((EntityGroup.chain? g.ancestors).map EntityGroup.toJson))
    rw [group_toJson_eq, hview, depth] at hn
    omega
  | succ n ih =>
    obtain ⟨f, hview, hf⟩ : ∃ f : Json.Fields, view g.toJson = .obj f ∧ Shows view _ f := by
      rw [group_toJson_eq]
      exact hv.obj _
    have hname : f.get? "name" Manner.exact.text? = some g.name :=
      get?_read hf (by simp) (text?_read hv _)
    have hlookup : f.lookup "parent" =
        ((EntityGroup.chain? g.ancestors).map EntityGroup.toJson).map view := by
      rw [hf]
      simp [List.lookup_cons]
    have hparent : f.maybe? "parent" (EntityGroup.ofNested? n) =
        some (EntityGroup.chain? g.ancestors) := by
      refine maybe?_read hf (by simp [List.lookup_cons]) (fun p hp => ih ?_)
        (view_group_ne_null hv)
      rw [Option.mem_def.1 hp] at hlookup
      have hdepth := depth_lt_of_lookup hlookup
      rw [hview] at hn
      omega
    rw [hview, EntityGroup.ofNested?, fields?]
    simp only [Option.bind_eq_bind, Option.bind_some, hname, hparent]
    obtain ⟨name, ancestors⟩ := g
    cases ancestors <;> rfl

lemma group_read (hv : Relists view) (g : EntityGroup) :
    EntityGroup.ofJson? (view g.toJson) = some g := nested_read hv le_rfl

lemma party_read (hv : Relists view) (p : PartyDescriptor) :
    PartyDescriptor.ofJson? (view p.toJson) = some p := by
  obtain ⟨f, hview, hf⟩ : ∃ f : Json.Fields, view p.toJson = .obj f ∧ Shows view _ f := hv.obj _
  have hid : f.get? "entity_id" Manner.exact.text? = some p.entityId :=
    get?_read hf (by simp) (text?_read hv _)
  have hgroup : f.maybe? "group" EntityGroup.ofJson? = some p.group :=
    maybe?_read hf (by simp [List.lookup_append, List.lookup_cons]) (fun g _ => group_read hv g)
      (view_group_ne_null hv)
  have hattributes : f.getD? "attributes" (mapOf? (strings? .exact)) .empty =
      some p.attributes := by
    have hread : ∀ e ∈ p.attributes.entries, strings? .exact (view (ofStrings e.2)) = some e.2 :=
      fun e _ => strings?_read hv e.2
    refine getD?_unlessEmptyMap hv hf ?_ hread
    simp [List.lookup_append, List.lookup_cons, SortedMap.isEmpty]
  rw [hview, PartyDescriptor.ofJson?, fields?]
  simp only [Option.bind_eq_bind, Option.bind_some, hid, hgroup, hattributes]
  rfl

end AttributeRelease.Proofs.Values
