/-!
Three-valued outcomes.

The third value says that something could not be decided. It is no negative answer: its negation
is itself, it overrides everything in a conjunction, and in a disjunction only a yes overrides it.
-/

namespace AttributeRelease

inductive Tristate where
  | yes
  | no
  | fail
deriving DecidableEq, Repr

namespace Tristate

def ofBool (b : Bool) : Tristate := if b then yes else no

def not : Tristate → Tristate
  | yes => no
  | no => yes
  | fail => fail

/-- What a conjunction has come to after one more member. A failure stays, and a no takes the place
of a yes only. -/
def allStep (result : Tristate) : Tristate → Tristate
  | fail => fail
  | no => if result = yes then no else result
  | yes => result

/-- Conjunction. Every member is gone through. -/
def all (l : List Tristate) : Tristate := l.foldl allStep yes

/-- What a disjunction has met so far. -/
structure Met where
  yes : Bool := false
  fail : Bool := false

def Met.step (met : Met) : Tristate → Met
  | .yes => { met with yes := true }
  | .fail => { met with fail := true }
  | .no => met

def Met.outcome (met : Met) : Tristate :=
  if met.yes then .yes else if met.fail then .fail else .no

/-- Disjunction. Every member is gone through. -/
def any (l : List Tristate) : Tristate := (l.foldl Met.step {}).outcome

def isYes (t : Tristate) : Bool := t = yes

def isFail (t : Tristate) : Bool := t = fail

/-- How an outcome is shown. -/
def shown : Tristate → String
  | yes => "TRUE"
  | no => "FALSE"
  | fail => "FAIL"

/-- How an outcome is written in data. -/
def name : Tristate → String
  | yes => "true"
  | no => "false"
  | fail => "fail"

def every : List Tristate := [yes, no, fail]

def ofName? (s : String) : Option Tristate := every.find? (·.name = s)

end Tristate

end AttributeRelease
