import AttributeRelease.Declaration.Basic
import AttributeRelease.Proofs.Codec.Matchers
import AttributeRelease.Proofs.Codec.Values

/-!
Everything that is declared or released, written and read again.

A connector and a definition hold the fields of their source or kind beside their own, and no name
occurs twice, so each field is found where it was put. The main statement covers every type that is
written, in the order of its fields and in the order of their names.
-/

namespace AttributeRelease.Proofs.Declarations

open Json
open AttributeRelease.Proofs.Fields AttributeRelease.Proofs.Values
open AttributeRelease.Proofs.Matchers

variable {view : Json → Json} {f fields : Json.Fields} {m : Manner}

lemma dependency_read (hv : Relists view) (m : Manner) (d : Dependency) :
    Dependency.ofJson? m (view d.toJson) = some d := by
  obtain ⟨f, hview, hf⟩ : ∃ f : Json.Fields, view d.toJson = .obj f ∧ Shows view _ f := hv.obj _
  have hplugin : f.get? "plugin" m.text? = some d.plugin := get?_read hf (by simp) (text?_read hv _)
  have hsource : f.maybe? "source_attribute" m.text? = some d.sourceAttribute :=
    maybe?_text hv hf (by simp [List.lookup_cons])
  rw [hview, Dependency.ofJson?, fields?]
  simp only [Option.bind_eq_bind, Option.bind_some, hplugin, hsource]
  rfl

lemma activation_read (hv : Relists view) (m : Manner) (a : ActivationDecl) :
    ActivationDecl.ofJson? m (view a.toJson) = some a := by
  obtain ⟨f, hview, hf⟩ : ∃ f : Json.Fields, view a.toJson = .obj f ∧ Shows view _ f := hv.obj _
  have hrecipients : f.getD? "recipients" (strings? m) [] = some a.recipients :=
    getD?_read hf (by simp) (strings?_read hv _)
  have hmethods : f.getD? "authentication_methods" (strings? m) [] = some a.methods :=
    getD?_read hf (by simp [List.lookup_cons]) (strings?_read hv _)
  rw [hview, ActivationDecl.ofJson?, fields?]
  simp only [Option.bind_eq_bind, Option.bind_some, hrecipients, hmethods]
  rfl

lemma dependencies_read (hv : Relists view) {l : List Dependency} (hf : Shows view fields f)
    (hl : fields.lookup "dependencies" = unlessEmpty (l.map (·.toJson))) :
    f.getD? "dependencies" (list? (Dependency.ofJson? m)) [] = some l :=
  getD?_unlessEmpty hv hf hl fun d _ => dependency_read hv m d

lemma maybeActivation_read (hv : Relists view) {a? : Option ActivationDecl}
    (hf : Shows view fields f) (ha : fields.lookup "activation" = a?.map (·.toJson)) :
    f.maybe? "activation" (ActivationDecl.ofJson? m) = some a? :=
  maybe?_read hf ha (fun a _ => activation_read hv m a) fun _ => view_obj_ne_null hv _

lemma rename_read (hv : Relists view) (m : Manner) (r : RenameDecl) :
    RenameDecl.ofJson? m (view r.toJson) = some r := by
  obtain ⟨f, hview, hf⟩ : ∃ f : Json.Fields, view r.toJson = .obj f ∧ Shows view _ f := hv.obj _
  have hsource : f.get? "from" m.text? = some r.source := get?_read hf (by simp) (text?_read hv _)
  have htarget : f.get? "to" m.text? = some r.target :=
    get?_read hf (by simp [List.lookup_cons]) (text?_read hv _)
  rw [hview, RenameDecl.ofJson?, fields?]
  simp only [Option.bind_eq_bind, Option.bind_some, hsource, htarget]
  rfl

lemma staticAttribute_read (hv : Relists view) (m : Manner) (a : StaticAttributeDecl) :
    StaticAttributeDecl.ofJson? m (view a.toJson) = some a := by
  obtain ⟨f, hview, hf⟩ : ∃ f : Json.Fields, view a.toJson = .obj f ∧ Shows view _ f := hv.obj _
  have hid : f.get? "id" m.text? = some a.id := get?_read hf (by simp) (text?_read hv _)
  have hvalues : f.get? "values" (strings? m) = some a.values :=
    get?_read hf (by simp [List.lookup_cons]) (strings?_read hv _)
  rw [hview, StaticAttributeDecl.ofJson?, fields?]
  simp only [Option.bind_eq_bind, Option.bind_some, hid, hvalues]
  rfl

/-- The fields of a source are read from among others. -/
lemma source_read (hv : Relists view) {s : SourceDecl} (hf : Shows view fields f)
    (htag : fields.lookup "type" = some (.str s.typeName))
    (hfields : ∀ e ∈ s.fields, fields.lookup e.1 = some e.2) :
    SourceDecl.ofJson? m (.obj f) = some s := by
  have hmem : SourceDecl.typeNames.contains s.typeName = true := by cases s <;> rfl
  rw [SourceDecl.ofJson?, tagged?_read hv hf htag hmem]
  cases s with
  | fixed attributes =>
    have hattributes : f.get? "attributes" (list? (StaticAttributeDecl.ofJson? m)) =
        some attributes :=
      get?_list hv hf (hfields _ (.head _)) fun a _ => staticAttribute_read hv m a
    show SourceDecl.fixed? m (.obj f) = _
    rw [SourceDecl.fixed?, fields?]
    simp only [Option.bind_eq_bind, Option.bind_some, hattributes]
    rfl
  | directory d =>
    simp only [SourceDecl.fields, List.forall_mem_cons] at hfields
    obtain ⟨hbackend, hbase, hfilter, hreturn, hmapping, hbinary, hmultiple, -⟩ := hfields
    have hbackend : f.get? "backend" m.text? = some d.backend :=
      get?_read hf hbackend (text?_read hv _)
    have hbase : f.get? "base_dn" m.text? = some d.baseDn := get?_read hf hbase (text?_read hv _)
    have hfilter : f.get? "filter" m.text? = some d.filter :=
      get?_read hf hfilter (text?_read hv _)
    have hreturn : f.getD? "return_attributes" (strings? m) [] = some d.returnAttributes :=
      getD?_read hf hreturn (strings?_read hv _)
    have hmapping : f.getD? "mapping" (list? (RenameDecl.ofJson? m)) [] = some d.mapping :=
      getD?_list hv hf hmapping fun r _ => rename_read hv m r
    have hbinary : f.getD? "binary_attributes" (strings? m) [] = some d.binary :=
      getD?_read hf hbinary (strings?_read hv _)
    have hmultiple : f.getD? "multiple_results_allowed" m.flag? false = some d.multipleResults :=
      getD?_read hf hmultiple (flag?_read hv _)
    show SourceDecl.directory? m (.obj f) = _
    rw [SourceDecl.directory?, fields?]
    simp only [Option.bind_eq_bind, Option.bind_some, hbackend, hbase, hfilter, hreturn, hmapping,
      hbinary, hmultiple]
    rfl
  | relational d =>
    simp only [SourceDecl.fields, List.forall_mem_cons] at hfields
    obtain ⟨hbackend, hquery, hmapping, hlowercase, -⟩ := hfields
    have hbackend : f.get? "backend" m.text? = some d.backend :=
      get?_read hf hbackend (text?_read hv _)
    have hquery : f.get? "query" m.text? = some d.query := get?_read hf hquery (text?_read hv _)
    have hmapping : f.getD? "mapping" (list? (RenameDecl.ofJson? m)) [] = some d.mapping :=
      getD?_list hv hf hmapping fun r _ => rename_read hv m r
    have hlowercase : f.getD? "lowercase_columns" m.flag? false = some d.lowercase :=
      getD?_read hf hlowercase (flag?_read hv _)
    show SourceDecl.relational? m (.obj f) = _
    rw [SourceDecl.relational?, fields?]
    simp only [Option.bind_eq_bind, Option.bind_some, hbackend, hquery, hmapping, hlowercase]
    rfl

lemma connector_read (hv : Relists view) (m : Manner) (c : ConnectorDecl) :
    ConnectorDecl.ofJson? m (view c.toJson) = some c := by
  obtain ⟨f, hview, hf⟩ : ∃ f : Json.Fields, view c.toJson = .obj f ∧ Shows view _ f := hv.obj _
  have hid : f.get? "id" m.text? = some c.id := get?_read hf (by simp) (text?_read hv _)
  have hdependencies : f.getD? "dependencies" (list? (Dependency.ofJson? m)) [] =
      some c.dependencies :=
    dependencies_read hv hf (by cases c.source <;>
      simp [SourceDecl.fields, List.lookup_append, List.lookup_cons])
  have hactivation : f.maybe? "activation" (ActivationDecl.ofJson? m) = some c.activation :=
    maybeActivation_read hv hf (by cases c.source <;>
      simp [SourceDecl.fields, List.lookup_append, List.lookup_cons])
  have hfailover : f.maybe? "failover" m.text? = some c.failover :=
    maybe?_text hv hf (by cases c.source <;>
      simp [SourceDecl.fields, List.lookup_append, List.lookup_cons])
  have hnone : f.getD? "no_result_is_error" m.flag? false = some c.noResultIsError :=
    getD?_read hf (by simp [List.lookup_append, List.lookup_cons]) (flag?_read hv _)
  have hsource : SourceDecl.ofJson? m.below (.obj f) = some c.source := by
    refine source_read hv hf (by simp [List.lookup_append, List.lookup_cons]) ?_
    cases c.source <;> simp [SourceDecl.fields, List.lookup_append, List.lookup_cons]
  rw [hview, ConnectorDecl.ofJson?]
  simp only [Option.bind_eq_bind, Option.bind_some, hid, hdependencies, hactivation, hfailover,
    hnone, hsource]
  rfl

lemma kind_read (hv : Relists view) {k : KindDecl} (hf : Shows view fields f)
    (htag : fields.lookup "type" = some (.str k.typeName))
    (hfields : ∀ e ∈ k.fields, fields.lookup e.1 = some e.2) :
    KindDecl.ofJson? m (.obj f) = some k := by
  have hmem : KindDecl.typeNames.contains k.typeName = true := by cases k <;> rfl
  rw [KindDecl.ofJson?, tagged?_read hv hf htag hmem]
  cases k with
  | simple => rfl
  | withScope scope =>
    have hscope : f.get? "scope" m.text? = some scope :=
      get?_read hf (hfields _ (.head _)) (text?_read hv _)
    show KindDecl.withScope? m (.obj f) = _
    rw [KindDecl.withScope?, fields?]
    simp only [Option.bind_eq_bind, Option.bind_some, hscope]
    rfl
  | regexSplit pattern caseSensitive =>
    have hpattern : f.get? "pattern" m.text? = some pattern :=
      get?_read hf (hfields _ (.head _)) (text?_read hv _)
    have hcase : f.getD? "case_sensitive" m.flag? true = some caseSensitive :=
      getD?_read hf (hfields _ (.tail _ (.head _))) (flag?_read hv _)
    show KindDecl.regexSplit? m (.obj f) = _
    rw [KindDecl.regexSplit?, fields?]
    simp only [Option.bind_eq_bind, Option.bind_some, hpattern, hcase]
    rfl
  | scripted engine script =>
    have hengine : f.get? "engine" m.text? = some engine :=
      get?_read hf (hfields _ (.head _)) (text?_read hv _)
    have hscript : f.get? "script" m.text? = some script :=
      get?_read hf (hfields _ (.tail _ (.head _))) (text?_read hv _)
    show KindDecl.scripted? m (.obj f) = _
    rw [KindDecl.scripted?, fields?]
    simp only [Option.bind_eq_bind, Option.bind_some, hengine, hscript]
    rfl
  | principalAuthenticationMethod => rfl

lemma definition_read (hv : Relists view) (m : Manner) (d : DefinitionDecl) :
    DefinitionDecl.ofJson? m (view d.toJson) = some d := by
  obtain ⟨f, hview, hf⟩ : ∃ f : Json.Fields, view d.toJson = .obj f ∧ Shows view _ f := hv.obj _
  have hid : f.get? "id" m.text? = some d.id := get?_read hf (by simp) (text?_read hv _)
  have hdependencies : f.getD? "dependencies" (list? (Dependency.ofJson? m)) [] =
      some d.dependencies :=
    dependencies_read hv hf (by cases d.kind <;>
      simp [KindDecl.fields, List.lookup_append, List.lookup_cons])
  have hactivation : f.maybe? "activation" (ActivationDecl.ofJson? m) = some d.activation :=
    maybeActivation_read hv hf (by cases d.kind <;>
      simp [KindDecl.fields, List.lookup_append, List.lookup_cons])
  have honly : f.getD? "dependency_only" m.flag? false = some d.dependencyOnly :=
    getD?_read hf (by simp [List.lookup_append, List.lookup_cons]) (flag?_read hv _)
  have hnames : f.getD? "display_names" (mapOf? m.text?) .empty = some d.displayNames :=
    localized_read hv hf (by cases d.kind <;>
      simp [KindDecl.fields, List.lookup_append, List.lookup_cons])
  have hdescriptions : f.getD? "display_descriptions" (mapOf? m.text?) .empty =
      some d.displayDescriptions :=
    localized_read hv hf (by cases d.kind <;>
      simp [KindDecl.fields, List.lookup_append, List.lookup_cons])
  have hencoders : f.getD? "encoders" (list? (Encoder.ofJson? m)) [] = some d.encoders :=
    encoders_read hv hf (by cases d.kind <;>
      simp [KindDecl.fields, List.lookup_append, List.lookup_cons])
  have hkind : KindDecl.ofJson? m.below (.obj f) = some d.kind := by
    refine kind_read hv hf (by simp [List.lookup_append, List.lookup_cons]) ?_
    cases d.kind <;> simp [KindDecl.fields, List.lookup_append, List.lookup_cons]
  rw [hview, DefinitionDecl.ofJson?]
  simp only [Option.bind_eq_bind, Option.bind_some, hid, hdependencies, hactivation, honly, hnames,
    hdescriptions, hencoders, hkind]
  rfl

/-! ### Whole declarations -/

lemma resolver_read (hv : Relists view) (m : Manner) (d : ResolverDecl) :
    ResolverDecl.ofJson? m (view d.toJson) = some d := by
  obtain ⟨f, hview, hf⟩ : ∃ f : Json.Fields, view d.toJson = .obj f ∧ Shows view _ f := hv.obj _
  have hid : f.getD? "id" m.text? "default" = some d.id :=
    getD?_read hf (by simp) (text?_read hv _)
  have hconnectors : f.getD? "connectors" (list? (ConnectorDecl.ofJson? m)) [] =
      some d.connectors :=
    getD?_list hv hf (by simp [List.lookup_cons]) fun c _ => connector_read hv m c
  have hdefinitions : f.getD? "definitions" (list? (DefinitionDecl.ofJson? m)) [] =
      some d.definitions :=
    getD?_list hv hf (by simp [List.lookup_cons]) fun c _ => definition_read hv m c
  rw [hview, ResolverDecl.ofJson?, fields?]
  simp only [Option.bind_eq_bind, Option.bind_some, hid, hconnectors, hdefinitions]
  rfl

lemma logging_read (hv : Relists view) (m : Manner) (d : LoggingDecl) :
    LoggingDecl.ofJson? m (view d.toJson) = some d := by
  obtain ⟨f, hview, hf⟩ : ∃ f : Json.Fields, view d.toJson = .obj f ∧ Shows view _ f := hv.obj _
  have hlevel : f.getD? "level" m.text? "info" = some d.level :=
    getD?_read hf (by simp) (text?_read hv _)
  rw [hview, LoggingDecl.ofJson?, fields?]
  simp only [Option.bind_eq_bind, Option.bind_some, hlevel]
  rfl

lemma declaration_read (hv : Relists view) (m : Manner) (d : Declaration) :
    Declaration.ofJson? m (view d.toJson) = some d := by
  obtain ⟨f, hview, hf⟩ : ∃ f : Json.Fields, view d.toJson = .obj f ∧ Shows view _ f := hv.obj _
  have hresolver : f.getD? "resolver" (ResolverDecl.ofJson? m) {} = some d.resolver :=
    getD?_read hf (by simp) (resolver_read hv m _)
  have hfilter : f.getD? "filter" (FilterDecl.ofJson? m) {} = some d.filter :=
    getD?_read hf (by simp [List.lookup_cons]) (filter_read hv m _)
  have hmetadata : f.getD? "metadata" (MetadataDecl.ofJson? m) {} = some d.metadata :=
    getD?_read hf (by simp [List.lookup_cons]) (metadata_read hv m _)
  have hlogging : f.getD? "logging" (LoggingDecl.ofJson? m) {} = some d.logging :=
    getD?_read hf (by simp [List.lookup_cons]) (logging_read hv m _)
  rw [hview, Declaration.ofJson?, fields?]
  simp only [Option.bind_eq_bind, Option.bind_some, hresolver, hfilter, hmetadata, hlogging]
  rfl

/-- Reading undoes writing, also when the fields of objects are listed in the order of their keys,
and writing what was read gives a value that is read and written as before. The function says what
becomes of a value when the fields of its objects are so listed. -/
structure RoundTrips {α : Type} (write : α → Json) (read : Json → Option α) (list : α → α) :
    Prop where
  read_write (x : α) : read (write x) = some x
  read_ordered (x : α) : read (ordered (write x)) = some (list x)
  canonical (j : Json) (x : α) (h : read j = some x) :
    ∃ y, read (write x) = some y ∧ y = x ∧ write y = write x

lemma RoundTrips.of_read {α : Type} {write : α → Json} {read : Json → Option α}
    (h : ∀ {view}, Relists view → ∀ x, read (view (write x)) = some x) :
    RoundTrips write read id where
  read_write := h relists_id
  read_ordered := h relists_ordered
  canonical _ x _ := ⟨x, h relists_id x, rfl, rfl⟩

lemma relistValue_id (x : AttributeValue) : relistValue id x = x := by
  cases x <;> rfl

lemma relistAttribute_id (a : Attribute) : relistAttribute id a = a := by
  rw [relistAttribute, List.map_congr_left fun x _ => relistValue_id x, List.map_id']

/-- **Reading undoes writing** for everything that is declared, in whatever manner it is read, and
for attributes and what they are made of. -/
theorem codecs_roundTrip (m : Manner) :
    RoundTrips Declaration.toJson (Declaration.ofJson? m) id ∧
    RoundTrips ResolverDecl.toJson (ResolverDecl.ofJson? m) id ∧
    RoundTrips ConnectorDecl.toJson (ConnectorDecl.ofJson? m) id ∧
    RoundTrips DefinitionDecl.toJson (DefinitionDecl.ofJson? m) id ∧
    RoundTrips FilterDecl.toJson (FilterDecl.ofJson? m) id ∧
    RoundTrips PolicyDecl.toJson (PolicyDecl.ofJson? m) id ∧
    RoundTrips MatcherDecl.toJson (MatcherDecl.ofJson? m) id ∧
    RoundTrips MetadataDecl.toJson (MetadataDecl.ofJson? m) id ∧
    RoundTrips Attribute.toJson Attribute.ofJson? (relistAttribute ordered) ∧
    RoundTrips AttributeValue.toJson AttributeValue.ofJson? (relistValue ordered) ∧
    RoundTrips Dependency.toJson (Dependency.ofJson? m) id ∧
    RoundTrips Encoder.toJson (Encoder.ofJson? m) id ∧
    RoundTrips PartyDescriptor.toJson PartyDescriptor.ofJson? id := by
  have hattribute (a : Attribute) : Attribute.ofJson? a.toJson = some a :=
    (attribute_read relists_id a).trans (by rw [relistAttribute_id])
  have hvalue (x : AttributeValue) : AttributeValue.ofJson? x.toJson = some x :=
    (value_read relists_id x).trans (by rw [relistValue_id])
  refine ⟨.of_read fun hv => declaration_read hv m, .of_read fun hv => resolver_read hv m,
    .of_read fun hv => connector_read hv m, .of_read fun hv => definition_read hv m,
    .of_read fun hv => filter_read hv m, .of_read fun hv => policy_read hv m,
    .of_read fun hv => matcher_read hv m, .of_read fun hv => metadata_read hv m,
    ⟨hattribute, attribute_read relists_ordered, fun _ a _ => ⟨a, hattribute a, rfl, rfl⟩⟩,
    ⟨hvalue, value_read relists_ordered, fun _ x _ => ⟨x, hvalue x, rfl, rfl⟩⟩,
    .of_read fun hv => dependency_read hv m, .of_read fun hv => encoder_read hv m,
    .of_read fun hv => party_read hv⟩

end AttributeRelease.Proofs.Declarations
