import AttributeRelease.Service
import AttributeRelease.Text.Split

/-!
The arguments of the command.

They are read from left to right, and the first that does not fit decides. An option has its value
behind it in the same argument, or in the next one if that does not look like an option. What is
given behind the name of a task goes before what is given in front of it.
-/

namespace AttributeRelease.Command

inductive Parameter where
  | project
  | skipBackends
  | format
  | principal
  | requester
  | issuer
  | authenticationMethod
  | requested
  | help
  | version
deriving DecidableEq, Repr

namespace Parameter

def word : Parameter → String
  | project => "project"
  | skipBackends => "skip-backends"
  | format => "format"
  | principal => "principal"
  | requester => "requester"
  | issuer => "issuer"
  | authenticationMethod => "authn-method"
  | requested => "attribute"
  | help => "help"
  | version => "version"

def letter? : Parameter → Option Char
  | project => some 'p'
  | format => some 'f'
  | requester => some 'r'
  | requested => some 'a'
  | help => some 'h'
  | version => some 'V'
  | _ => none

/-- Whether it takes no value. -/
def isFlag (p : Parameter) : Bool := p = skipBackends || p = help || p = version

/-- Whether it can be given again and again. -/
def repeats (p : Parameter) : Bool := p = requested

end Parameter

inductive Task where
  | version
  | check
  | display
  | resolve
deriving DecidableEq, Repr

namespace Task

def word : Task → String
  | version => "version"
  | check => "check"
  | display => "show"
  | resolve => "resolve"

def every : List Task := [version, check, display, resolve]

def ofWord? (s : String) : Option Task := every.find? (·.word = s)

open Parameter in
def ownParameters : Task → List Parameter
  | version => []
  | check => [skipBackends]
  | display => [format]
  | resolve => [principal, requester, issuer, authenticationMethod, requested, format]

end Task

def generalParameters : List Parameter := [.project, .help, .version]

/-- What stands in the place of a task to ask for help. -/
def helpWord : String := "help"

/-! ### Reading -/

/-- Why nothing is done. -/
inductive Stop where
  | usage
  | help
  | version (name : String)
deriving DecidableEq, Repr

/-- The arguments in front of the name of a task, or those behind it. -/
structure Level where
  name : String
  parameters : List Parameter
  /-- Whether the name of a task is still to come. -/
  beforeTask : Bool

/-- What is given, in order. Flags have no text. -/
abbrev Given := List (Parameter × String)

/-- Takes up a parameter. The place of a project is not empty. -/
def Given.take (given : Given) (p : Parameter) (value : String) : Except Stop Given :=
  if given.any (·.1 = p) && !p.repeats || p = .project && value.isEmpty then .error .usage
  else .ok (given ++ [(p, value)])

namespace Level

variable (l : Level)

def flag (given : Given) : Parameter → Except Stop Given
  | .help => .error .help
  | .version => .error (.version l.name)
  | p => given.take p ""

/-- Reads what follows two hyphens. An option without its value is left over. -/
def readWord (given : Given) (s : List Char) : Except Stop (Given × Option Parameter) := do
  let (word, value) := Text.splitFirst (· = '=') s
  let some p := l.parameters.find? (·.word.toList = word) | throw .usage
  match p.isFlag, value with
  | true, none => return (← l.flag given p, none)
  | true, some _ => throw .usage
  | false, none => return (given, some p)
  | false, some value => return (← given.take p (.ofList value), none)

/-- Reads what follows one hyphen: flags, and an option that ends them. -/
def readLetters (given : Given) : List Char → Except Stop (Given × Option Parameter)
  | [] => .ok (given, none)
  | c :: rest => do
    let some p := l.parameters.find? (·.letter? = some c) | throw .usage
    if p.isFlag then readLetters (← l.flag given p) rest
    else
      match rest with
      | [] => return (given, some p)
      | '=' :: value => return (← given.take p (.ofList value), none)
      | value => return (← given.take p (.ofList value), none)

def isTaskWord (s : String) : Bool :=
  l.beforeTask && (s = helpWord || (Task.ofWord? s).isSome)

/-- Reads arguments up to the name of a task, which is left over with those behind it. The
option in front, if there is one, still lacks its value. -/
def read : Option Parameter → Given → List String → Except Stop (Given × List String)
  | none, given, [] => .ok (given, [])
  | some _, _, [] => .error .usage
  | some p, given, a :: rest =>
    match a.toList with
    | '-' :: _ :: _ => .error .usage
    | _ => do read none (← given.take p a) rest
  | none, given, a :: rest =>
    if l.isTaskWord a then .ok (given, a :: rest)
    else
      match a.toList with
      | ['-', '-'] => if rest.isEmpty then .ok (given, []) else .error .usage
      | '-' :: '-' :: s => do
        let (given, option) ← l.readWord given s
        read option given rest
      | '-' :: c :: s => do
        let (given, option) ← l.readLetters given (c :: s)
        read option given rest
      | _ => .error .usage

end Level

/-- What to do, with all that it takes. -/
inductive Action where
  | version
  | check (skipBackends : Bool)
  | display (format : String)
  | resolve (request : ReleaseRequest) (format : String)

structure Invocation where
  project : String
  action : Action

def programName : String := "lanyard"

def Level.outer : Level := ⟨programName, generalParameters, true⟩

def Level.ofTask (t : Task) : Level :=
  ⟨programName ++ "-" ++ t.word, t.ownParameters ++ generalParameters, false⟩

namespace Given

variable (given : Given)

def value? (p : Parameter) : Option String := List.lookup p given

def values (p : Parameter) : List String := (given.filter (·.1 = p)).map (·.2)

def formatOrText : String := (given.value? .format).getD "text"

def action : Task → Except Stop Action
  | .version => .ok .version
  | .check => .ok (.check (given.value? .skipBackends).isSome)
  | .display => .ok (.display given.formatOrText)
  | .resolve =>
    match given.value? .principal with
    | none => .error .usage
    | some principal =>
      let request : ReleaseRequest := {
        principal
        requester := given.value? .requester
        issuer := given.value? .issuer
        authenticationMethod := given.value? .authenticationMethod
        requested := given.values .requested }
      .ok (.resolve request given.formatOrText)

end Given

/-- What is asked for behind the word for help: all, or one task, or help itself. -/
def helpStop : List String → Stop
  | [] => .help
  | [s] => if s = helpWord || (Task.ofWord? s).isSome then .help else .usage
  | _ => .usage

def Invocation.ofArguments (args : List String) : Except Stop Invocation := do
  let (outer, rest) ← Level.outer.read none [] args
  match rest with
  | [] => throw .usage
  | word :: rest =>
    match Task.ofWord? word with
    | none => throw (helpStop rest)
    | some t =>
      let (inner, _) ← (Level.ofTask t).read none [] rest
      let given : Given := inner ++ outer
      return ⟨(given.value? .project).getD ".", ← given.action t⟩

end AttributeRelease.Command
