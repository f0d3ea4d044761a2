import AttributeRelease.Command.Arguments
import AttributeRelease.Command.Report
import AttributeRelease.Command.Summary
import AttributeRelease.Settings.Load
import AttributeRelease.Toml.Printer

/-!
What the command does.

There are no clients for backends: those that a declaration names cannot be reached. So a check
fails with the first connector that needs one, and a release with the first use.
-/

namespace AttributeRelease.Command

open Text

structure Outcome where
  code : Nat := 0
  output : String := ""
  failure : Option Report := none

namespace Outcome

def success (output : String) : Outcome := { output }

/-- A failure after some output. -/
def fail (output : String) (report : Report) : Outcome :=
  { code := 1, output, failure := some report }

end Outcome

def programVersion : String := "0.3.0"

/-- The outcome if nothing is done. Texts about usage are not part of it. -/
def Stop.outcome : Stop → Outcome
  | .usage => { code := 2 }
  | .help => {}
  | .version name => .success s!"{name} {programVersion}\n"

def aboutText : String :=
  unlines [s!"{programName} {programVersion}", "", "Attribute resolution and release filtering.",
    ""]

def loadReport (project : String) : Report where
  head := s!"Failed to load configuration from {project}"
  breaksOff := true

def formatReport (format expected : String) : Report where
  head := s!"Unknown format '{format}' (expected {expected})"

def releaseReport (principal : String) (e : ResolutionError) : Report where
  head := s!"Attribute release for '{principal}' failed"
  causes := ReleaseService.errorMessage e :: e.message :: e.causes

/-! ### Actions -/

/-- Backends that cannot be reached. Calling them changes nothing. -/
def offline : Backends Unit := { offline := true }

def countLines (s : ReleaseService Unit) : List String :=
  [s!"✓ Resolver '{s.resolver.id}': {s.resolver.plugins.connectors.entries.length} connectors, " ++
      s!"{s.resolver.plugins.definitions.entries.length} definitions",
    s!"✓ Filter '{s.filter.id}': {s.filter.policies.length} policies"]

def checkStart : String := "Checking configuration..."

def check (d : Declaration) (skipBackends : Bool) : Outcome :=
  match ReleaseService.build d offline with
  | .error e => .fail (unlines [checkStart]) e.report
  | .ok s =>
    let lines := checkStart :: countLines s
    if skipBackends then .success (unlines lines)
    else
      match (s.resolver.validate ()).1 with
      | .ok () => .success (unlines (lines ++ ["✓ All connectors validated"]))
      | .error e =>
        .fail (unlines (lines ++ ["✗ Connector validation failed:", s!"  {e.message}"])) e.report

def display (d : Declaration) (format : String) : Outcome :=
  match format with
  | "text" => .success d.summary
  | "json" => .success (unlines [d.toJson.pretty 0])
  | "toml" => .success (unlines [Toml.print d.toJson])
  | _ => .fail "" (formatReport format "text, json or toml")

def resolve (d : Declaration) (request : ReleaseRequest) (format : String) : Outcome :=
  if format ≠ "text" ∧ format ≠ "json" then .fail "" (formatReport format "text or json")
  else
    match ReleaseService.build d offline with
    | .error e => .fail "" e.report
    | .ok s =>
      match (s.release request ()).1 with
      | .error e => .fail "" (releaseReport request.principal e)
      | .ok r =>
        .success (if format = "json" then unlines [r.toJson.pretty 0] else r.summary request)

def Invocation.run (i : Invocation) (s : Settings.Sources) : Outcome :=
  match i.action, Settings.load? s with
  | .version, _ => .success aboutText
  | _, none => .fail "" (loadReport i.project)
  | .check skipBackends, some d => check d skipBackends
  | .display format, some d => display d format
  | .resolve request format, some d => resolve d request format

end AttributeRelease.Command
