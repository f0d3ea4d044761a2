import AttributeRelease.Command.Outcome

/-!
The command: reads the files and the environment, and prints what comes out.
-/

namespace AttributeRelease.Command

/-- The text of a file, if it is there. -/
def readText? (path : String) : IO (Option String) := do
  try
    return some (← IO.FS.readFile path)
  catch
    | .noFileOrDirectory _ _ _ => return none
    | e => throw e

/-- The variables of the process, as the system lists them. -/
def readEnvironment : IO (List (String × String)) := do
  let listed ← readText? "/proc/self/environ"
  return ((listed.getD "").splitOn "\x00").filterMap fun entry =>
    match Text.splitFirst (· = '=') entry.toList with
    | (name, some value) => some (.ofList name, .ofList value)
    | _ => none

/-- The file of the user: below the place for configuration, if that is known, or else below the
user's home. -/
def userFile? (environment : List (String × String)) : Option String :=
  let home := (environment.lookup "HOME").filter (!·.isEmpty)
  let place := (environment.lookup "XDG_CONFIG_HOME").filter (·.startsWith "/")
  (place <|> home.map (· ++ "/.config")).map (· ++ "/lanyard/config.toml")

def readSources (project : String) : IO Settings.Sources := do
  let environment ← readEnvironment
  let user ← match userFile? environment with
    | some path => readText? path
    | none => pure none
  return {
    user
    project := ← readText? (project ++ "/" ++ Settings.projectFile)
    beside := ← readText? (project ++ "/" ++ Settings.besideFile)
    environment }

end AttributeRelease.Command

open AttributeRelease.Command in
def main (args : List String) : IO UInt32 := do
  let outcome ← match Invocation.ofArguments args with
    | .error stop => pure stop.outcome
    | .ok i => pure (i.run (← readSources i.project))
  IO.print outcome.output
  if let some r := outcome.failure then
    IO.eprint (r.text ++ if r.breaksOff then "\n" else "")
  return outcome.code.toUInt32
