import AttributeRelease.Policy.TextTest
import AttributeRelease.Resolution.ConfigError
import AttributeRelease.Resolution.Connector

/-!
Attribute definitions, the plugins that derive one attribute from those of others.

A definition sees the values of the attributes that it depends on, in the order of their names. It
never turns a value of one kind into another: a value that it has no use for is an error.
-/

namespace AttributeRelease

inductive DefinitionKind (σ : Type) where
  | simple
  | withScope (scope : String)
  | regexSplit (pattern : ValuePattern)
  | scripted (engine : ScriptEngine σ) (source : String)
  | principalAuthenticationMethod

structure AttributeDefinition (σ : Type) extends PluginSpec where
  kind : DefinitionKind σ
  /-- Whether the attribute is for other plugins only. -/
  dependencyOnly : Bool := false
  displayNames : Localized := .empty
  displayDescriptions : Localized := .empty
  encoders : List Encoder := []

/-- All values of all attributes, in the order of the map. -/
def AttributeMap.allValues (m : AttributeMap) : List AttributeValue := m.values.flatMap (·.values)

namespace DefinitionKind

variable {σ : Type}

def kindName : DefinitionKind σ → String
  | simple => "simple"
  | withScope _ => "scoped"
  | regexSplit _ => "regex-split"
  | scripted _ _ => "scripted"
  | principalAuthenticationMethod => "principal-authentication-method"

/-- Puts a scope to a plain text. -/
def addScope (scope : String) : AttributeValue → Except PluginError AttributeValue
  | .string s => .ok (.withScope s scope)
  | v => .error (.unsupportedValueType v.kind)

/-- The first group of the pattern in a value, if the whole value matches and has that group. -/
def split (p : ValuePattern) (v : AttributeValue) : Except PluginError (Option AttributeValue) :=
  match v.text? with
  | some s => .ok ((p.regex.capture? s 1).map .string)
  | none => .error (.unsupportedValueType v.kind)

def bindings (v : TemplateValues) : ScriptBindings where
  attributes := v.attributes
  principal := v.request.principal
  issuer := v.request.issuer
  recipient := v.request.recipient

/-- The values for a request. The output of a script is named after the definition. -/
def values (id : String) (v : TemplateValues) :
    DefinitionKind σ → σ → Except PluginError (List AttributeValue) × σ
  | simple => fun s => (.ok v.attributes.allValues, s)
  | withScope scope => fun s => (v.attributes.allValues.mapM (addScope scope), s)
  | regexSplit p => fun s => ((v.attributes.allValues.mapM (split p)).map (·.reduceOption), s)
  | scripted engine source =>
    ConnectorSource.ask (.ok (bindings v)) (fun b => engine.evaluate source b id)
      fun out => .ok (out.getD [])
  | principalAuthenticationMethod => fun s =>
    (.ok ((v.request.authenticationMethod.map .string).toList), s)

/-- The first thing wrong with a definition of this kind. -/
def fault? (spec : PluginSpec) : DefinitionKind σ → Option ResolverError
  | simple => needsDependency
  | withScope scope =>
    if Text.isBlank scope then some (.missingSetting spec.id .scope) else needsDependency
  | regexSplit p =>
    needsDependency <|>
      if p.regex.groups = 0 then some (.noCaptureGroup spec.id p.source) else none
  | scripted engine source =>
    if Text.isBlank source then some (.missingSetting spec.id .scriptSource)
    else
      match engine.checkSource source with
      | .ok () => none
      | .error e => some (.scriptRefused spec.id e)
  | principalAuthenticationMethod => none
where
  needsDependency : Option ResolverError :=
    if spec.dependencies.isEmpty then some (.missingSetting spec.id .dependency) else none

end DefinitionKind

namespace AttributeDefinition

variable {σ : Type}

/-- The attribute made of some values, if there are any. -/
def ofValues (d : AttributeDefinition σ) (values : List AttributeValue) : Option Attribute :=
  if values.isEmpty then none
  else
    some <| Attribute.mk d.id [] .empty .empty [] |>.addAll values
      |>.withDisplayNames d.displayNames |>.withDisplayDescriptions d.displayDescriptions
      |>.withEncoders d.encoders

/-- The attribute for a request, if it has values. -/
def compute (d : AttributeDefinition σ) (v : TemplateValues) (s : σ) :
    Except PluginError (Option Attribute) × σ :=
  match d.kind.values d.id v s with
  | (.error e, s) => (.error e, s)
  | (.ok values, s) => (.ok (d.ofValues values), s)

def checkSettings (d : AttributeDefinition σ) : Except ResolverError Unit :=
  match d.kind.fault? d.toPluginSpec with
  | some e => .error e
  | none => .ok ()

end AttributeDefinition

end AttributeRelease
