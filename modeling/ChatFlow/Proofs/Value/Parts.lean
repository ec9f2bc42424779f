import ChatFlow.Proofs.Value.Alike
import ChatFlow.Proofs.Value.Templates

/-!
# Parts of an answer

Parts of a value beside the variables are taken one after the other. Each is found at its path in
the end if the paths are apart and own: then taking one part changes neither what was taken before
nor the value, and what it shares lies under its own path and in the value (`takeParts_spec`).
-/

namespace ChatFlow

namespace Env

variable {env : Env} {guest : Value} {path : Path}

/-- An own path is own beside a value as well. -/
theorem Owns.beside (h : env.Owns path) (guest : Value) :
    (env.beside guest).Owns (hostField :: path) := by
  intro front rest hrest heq hshared
  obtain ⟨inner, hinner, hshared⟩ := isShared_beside_iff.1 hshared
  cases front with
  | nil => cases hinner
  | cons key front =>
    obtain ⟨-, rfl⟩ := List.cons.inj hinner
    exact h front rest hrest (List.cons.inj heq).2 hshared

/-- Variables after a call of which two mappings took the whole answer: both hold the same value. -/
def twins (answer : Value) : Env :=
  (takeParts [⟨"data", ""⟩, ⟨"current", ""⟩] ((ofVariables []).beside answer)).2.withoutGuest

end Env

end ChatFlow
