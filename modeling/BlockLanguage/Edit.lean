import BlockLanguage.Violation

/-!
# Edits

An edit changes a value in place and may refuse to. The value is seen as the edit leaves it, also
where the edit ends in a violation, so that "nothing was changed" is a statement about the edit.
-/

set_option autoImplicit false

namespace BlockLanguage

abbrev Edit (σ α : Type) := EStateM Violation σ α

namespace Edit

variable {σ α : Type}

/-- Goes on only if the precondition holds. -/
def require (precondition : Bool) (violation : Violation) : Edit σ Unit :=
  if precondition then pure () else throw violation

/-- The value that an edit leaves behind. -/
def left (edit : Edit σ α) (value : σ) : σ :=
  match edit.run value with
  | .ok _ changed => changed
  | .error _ changed => changed

def result (edit : Edit σ α) (value : σ) : Except Violation α :=
  match edit.run value with
  | .ok result _ => .ok result
  | .error violation _ => .error violation

/-- The value that an edit makes, unless it ends in a violation. -/
def make (edit : Edit σ α) (value : σ) : Except Violation σ :=
  match edit.run value with
  | .ok _ changed => .ok changed
  | .error violation _ => .error violation

end Edit

end BlockLanguage
