import AttributeRelease.Resolution.ConfigError
import AttributeRelease.Resolution.Mapping
import AttributeRelease.Resolution.Plugin
import AttributeRelease.Resolution.Template

/-!
Data connectors, the plugins that bring attributes in.

A connector gives the same attributes each time, or asks a directory or a database. Having got
nothing is a result of its own unless the connector says that it is a failure.
-/

namespace AttributeRelease

inductive ConnectorSource (σ : Type) where
  | fixed (attributes : AttributeMap)
  | directory (client : DirectoryClient σ) (baseDn : String) (filter : QueryTemplate)
      (returnAttributes : List String) (mapping : ResultMapping DirectoryEntry)
  | relational (client : DatabaseClient σ) (statement : QueryTemplate)
      (mapping : ResultMapping Row)

structure DataConnector (σ : Type) extends PluginSpec where
  source : ConnectorSource σ
  /-- The connector to use when this one fails. -/
  failover : Option String := none
  noResultIsError : Bool := false

namespace ConnectorSource

variable {σ : Type}

def kindName : ConnectorSource σ → String
  | fixed _ => "static"
  | directory _ _ _ _ _ => "directory"
  | relational _ _ _ => "relational"

/-- The fixed source with some attributes. A later one takes the place of one with its id. -/
def ofAttributes (l : List Attribute) : ConnectorSource σ :=
  fixed (.ofList (l.map fun a => (a.id, a)))

/-! ### Queries -/

def directoryQuery (baseDn : String) (filter : QueryTemplate) (returnAttributes : List String)
    (v : TemplateValues) : Except PluginError DirectoryQuery := do
  return {
    baseDn, returnAttributes
    filter := ← filter.render v escapeFilterValue
    allowCached := v.request.allowCached }

def statement (template : QueryTemplate) (v : TemplateValues) : Except PluginError Statement := do
  let (sql, params) ← template.renderParameterized v
  return { sql, params, allowCached := v.request.allowCached }

/-- Makes a query, sends it, and maps what comes back. -/
def ask {α β γ : Type} (query : Except PluginError α) (send : α → BackendCall σ β)
    (map : β → Except PluginError γ) (s : σ) : Except PluginError γ × σ :=
  match query with
  | .error e => (.error e, s)
  | .ok q =>
    match send q s with
    | (.error e, s) => (.error (.backend e), s)
    | (.ok results, s) => (map results, s)

def fetch (v : TemplateValues) : ConnectorSource σ → σ → Except PluginError AttributeMap × σ
  | fixed attributes => fun s => (.ok attributes, s)
  | directory client baseDn filter returnAttributes mapping =>
    ask (directoryQuery baseDn filter returnAttributes v) client.search mapping
  | relational client template mapping =>
    ask (statement template v) client.query mapping

def missingSetting? : ConnectorSource σ → Option Setting
  | fixed attributes =>
    if attributes.values.all (·.isEmpty) then some .staticValue else none
  | directory _ _ filter _ _ => if Text.isBlank filter.source then some .searchFilter else none
  | relational _ template _ => if Text.isBlank template.source then some .queryTemplate else none

end ConnectorSource

namespace DataConnector

variable {σ : Type}

/-- What a fetched result means, where an empty one is either nothing or an error. -/
def outcome (c : DataConnector σ) (attributes : AttributeMap) :
    Except PluginError (Option AttributeMap) :=
  if !attributes.isEmpty then .ok (some attributes)
  else if c.noResultIsError then .error .noResult
  else .ok none

/-- The attributes for a request, if there are any. -/
def retrieve (c : DataConnector σ) (v : TemplateValues) (s : σ) :
    Except PluginError (Option AttributeMap) × σ :=
  match c.source.fetch v s with
  | (.error e, s) => (.error e, s)
  | (.ok attributes, s) => (c.outcome attributes, s)

/-- Asks the backend whether it is there, without a query. -/
def validate (c : DataConnector σ) : BackendCall σ Unit :=
  match c.source with
  | .fixed _ => fun s => (.ok (), s)
  | .directory client _ _ _ _ => client.checkConnection
  | .relational client _ _ => client.checkConnection

def checkSettings (c : DataConnector σ) : Except ResolverError Unit :=
  match c.source.missingSetting? with
  | some setting => .error (.missingSetting c.id setting)
  | none => .ok ()

end DataConnector

end AttributeRelease
