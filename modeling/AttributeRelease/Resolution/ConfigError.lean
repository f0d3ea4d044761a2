import AttributeRelease.Resolution.Error
import AttributeRelease.Resolution.Plugin

/-!
Why a set of plugins is refused.
-/

namespace AttributeRelease

inductive FailoverFault where
  | itself
  | definition
  | unknown
deriving DecidableEq, Repr

def FailoverFault.shown : FailoverFault → String
  | itself => "a connector cannot fail over to itself"
  | definition => "failover must be a data connector"
  | unknown => "no such data connector"

inductive ResolverError where
  | duplicatePlugin (id : String)
  | missingDependency (plugin dependency : String)
  | dependencyCycle (path : List String)
  | invalidFailover (plugin failover : String) (fault : FailoverFault)
  | missingSetting (plugin : String) (setting : Setting)
  | noCaptureGroup (plugin pattern : String)
  | scriptRefused (plugin : String) (e : BackendError)
deriving DecidableEq, Repr

def ResolverError.message : ResolverError → String
  | duplicatePlugin id => s!"duplicate plugin id '{id}'"
  | missingDependency plugin dependency =>
    s!"plugin '{plugin}' depends on unknown plugin '{dependency}'"
  | dependencyCycle path => "dependency cycle: " ++ " -> ".intercalate path
  | invalidFailover plugin failover fault =>
    s!"data connector '{plugin}' has invalid failover '{failover}': {fault.shown}"
  | missingSetting plugin setting => s!"plugin '{plugin}': no {setting.shown} was configured"
  | noCaptureGroup plugin pattern =>
    s!"plugin '{plugin}': pattern '{pattern}' has no capture group"
  | scriptRefused plugin e => s!"plugin '{plugin}': script does not compile: {e.message}"

end AttributeRelease
