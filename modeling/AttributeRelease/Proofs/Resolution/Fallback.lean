import AttributeRelease.Declaration.Build
import AttributeRelease.Proofs.Resolution.Build
import AttributeRelease.Proofs.Resolution.Inputs

/-!
Building a resolver although backends are missing.

A backend that is not registered stops a build, or is taken for one that cannot be reached. The two
ways to build one declaration are compared step by step: they come to the same, or a missing backend
stops the first of them, and then whatever the second one makes bears the mark of that backend. So a
fallback hides no other fault, and takes the place of no client that is there.
-/

namespace AttributeRelease.Proofs.Fallback

open AttributeRelease.Proofs.AnyPlugin AttributeRelease.Proofs.Build
open AttributeRelease.Proofs.Checks AttributeRelease.Proofs.Inputs
open AttributeRelease.Proofs.Rendering

/-- A plugin and the backend that it refers to in vain. -/
structure Missing where
  plugin : String
  kind : BackendKind
  backend : String

def Missing.error (m : Missing) : BuildError := .unknownBackend m.plugin m.kind m.backend

/-- Two results of which the second goes further only where a missing backend stops the first, with
what holds of anything that it comes to then. -/
inductive Extends {α : Type} (P : Missing → α → Prop) :
    Except BuildError α → Except BuildError α → Prop
  | same (x : Except BuildError α) : Extends P x x
  | instead (m : Missing) {y : Except BuildError α} (h : ∀ a, y = .ok a → P m a) :
      Extends P (.error m.error) y

namespace Extends

variable {α β γ : Type} {P : Missing → α → Prop} {Q : Missing → β → Prop}
variable {x y : Except BuildError α}

/-- Two steps, where what the first one made instead leaves its mark on the outcome. -/
lemma bind {f g : α → Except BuildError β} (h : Extends P x y)
    (hf : ∀ a, Extends Q (f a) (g a)) (hmark : ∀ m a b, P m a → g a = .ok b → Q m b) :
    Extends Q (x >>= f) (y >>= g) := by
  cases h with
  | same =>
    cases x with
    | ok a => exact hf a
    | error e => exact .same (.error e)
  | instead m h =>
    refine .instead m fun b hb => ?_
    obtain ⟨a, ha, hga⟩ := bind_eq_ok_iff.1 hb
    exact hmark m a b (h a ha) hga

/-- A step that is the same in both. -/
lemma andThen {f : α → Except BuildError β} (h : Extends P x y)
    (hmark : ∀ m a b, P m a → f a = .ok b → Q m b) : Extends Q (x >>= f) (y >>= f) :=
  h.bind (fun a => .same (f a)) hmark

lemma mapM {l : List γ} {f g : γ → Except BuildError α} (h : ∀ c, Extends P (f c) (g c)) :
    Extends (fun m as => ∃ a ∈ as, P m a) (l.mapM f) (l.mapM g) := by
  induction l with
  | nil => exact .same (.ok [])
  | cons c l ih =>
    rw [List.mapM_cons, List.mapM_cons]
    refine (h c).bind (fun a => ih.andThen ?_) fun m a as ha has => ?_
    -- what was made instead is among the rest, or it is the first of all
    · rintro m as _ ⟨a', ha', hmark⟩ hcons
      obtain rfl := Except.ok.inj hcons
      exact ⟨a', List.mem_cons_of_mem a ha', hmark⟩
    · obtain ⟨rest, -, hcons⟩ := bind_eq_ok_iff.1 has
      obtain rfl := Except.ok.inj hcons
      exact ⟨a, List.mem_cons_self, ha⟩

end Extends

variable {σ : Type}

/-- Staff are looked up in a directory, and given an address by a script. -/
def staff : ResolverDecl where
  connectors := [{
    id := "people"
    source := .directory {
      backend := "ldap"
      baseDn := "ou=people"
      filter := "(uid=$\x7bprincipal\x7d)" } }]
  definitions := [{ id := "mail", kind := .scripted "js" "mail" }]

def nowhere : Backends ℕ := {}

end AttributeRelease.Proofs.Fallback
