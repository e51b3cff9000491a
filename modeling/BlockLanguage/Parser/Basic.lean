import BlockLanguage.Edit
import BlockLanguage.Parser.Error

/-!
# Parsers

A parser reads tokens from the front and leaves the rest. Classes and texts of tokens are looked
at separately: a keyword is recognised by its text alone, an identifier by its class alone.
-/

set_option autoImplicit false

namespace BlockLanguage

/-- A parser of values of type `α`. -/
abbrev Parser (α : Type) := StateT (List Token) (Except ParseFailure) α

namespace Parser

variable {σ α : Type}

def refuse (error : ParseError) : Parser α :=
  throw (.refused error)

/-- The value that an edit makes of another one. -/
def build (edit : Edit σ α) (value : σ) : Parser σ :=
  match edit.make value with
  | .ok made => pure made
  | .error violation => throw (.violated violation)

/-- Whether the next token has the text of a keyword. -/
def startsWith (keyword : Keyword) (tokens : List Token) : Bool :=
  tokens.head?.any (·.text == keyword.spelling)

/-- Reads a token of the given class. -/
def ofClass (expected : TokenClass) : Parser Token := do
  match ← get with
  | [] => refuse (.endOfInput (.tokenClass expected))
  | token :: rest =>
    if token.tokenClass = expected then
      set rest
      return token
    else
      refuse (.wrongClass expected token.tokenClass token.text token.line)

/-- Reads a token with the text of a keyword. -/
def keyword (expected : Keyword) : Parser Unit := do
  match ← get with
  | [] => refuse (.endOfInput (.keyword expected))
  | token :: rest =>
    if token.text = expected.spelling then
      set rest
    else
      refuse (.wrongText expected token.text token.line)

/-- Repeats a round until the tokens left say stop, at most as often as the allowance is long. -/
def repeatWithin (stop : List Token → Bool) (round : α → Parser α) (value : α)
    (tokens : List Token) : (allowance : List Token) → Except ParseFailure (α × List Token)
  | [] => .ok (value, tokens)
  | _ :: allowance =>
    if stop tokens then
      .ok (value, tokens)
    else
      match round value tokens with
      | .error failure => .error failure
      | .ok (next, rest) => repeatWithin stop round next rest allowance

/-- Repeats a round until the tokens left say stop. There are no more rounds than tokens, which
is no restriction for rounds that read something. -/
def repeatUntil (stop : List Token → Bool) (round : α → Parser α) (value : α) : Parser α :=
  fun tokens => repeatWithin stop round value tokens tokens

/-- A parser that reads at least one token whenever it succeeds. -/
def Advances (parser : Parser α) : Prop :=
  ∀ {tokens value rest}, parser tokens = .ok (value, rest) → rest.length < tokens.length

/-- Any two allowances that suffice for the tokens have the same effect. -/
theorem repeatWithin_eq {stop : List Token → Bool} {round : α → Parser α}
    (stopsAtEnd : stop [] = true) (advances : ∀ value, Advances (round value))
    (first : List Token) : ∀ {second tokens : List Token} {value : α},
      tokens.length ≤ first.length → tokens.length ≤ second.length →
        repeatWithin stop round value tokens first =
          repeatWithin stop round value tokens second := by
  induction first with
  | nil =>
      intro second tokens value enough _
      have ended : tokens = [] := List.length_eq_zero_iff.mp (by simpa using enough)
      subst ended
      cases second <;> simp [repeatWithin, stopsAtEnd]
  | cons _ first ih =>
      intro second tokens value firstEnough secondEnough
      cases second with
      | nil =>
          have ended : tokens = [] := List.length_eq_zero_iff.mp (by simpa using secondEnough)
          subst ended
          simp [repeatWithin, stopsAtEnd]
      | cons _ second =>
          unfold repeatWithin
          split
          · rfl
          · split
            · rfl
            case h_2 next rest read =>
              have shorter := advances value read
              simp only [List.length_cons] at firstEnough secondEnough
              exact ih (by omega) (by omega)

theorem repeatUntil_of_stop {stop : List Token → Bool} {tokens : List Token}
    (stops : stop tokens = true) (round : α → Parser α) (value : α) :
    repeatUntil stop round value tokens = .ok (value, tokens) := by
  unfold repeatUntil
  cases tokens with
  | nil => rfl
  | cons token rest => rw [repeatWithin, if_pos stops]

/-- Rounds that read something repeat without any allowance. -/
theorem repeatUntil_eq {stop : List Token → Bool} {round : α → Parser α}
    (stopsAtEnd : stop [] = true) (advances : ∀ value, Advances (round value)) (value : α) :
    repeatUntil stop round value = (do
      if stop (← get) then
        return value
      else
        repeatUntil stop round (← round value)) := by
  funext tokens
  by_cases ends : stop tokens = true
  · rw [repeatUntil_of_stop ends]
    change _ = (if stop tokens = true then pure value else _ : Parser α) tokens
    rw [if_pos ends]
    rfl
  · cases tokens with
    | nil => exact absurd stopsAtEnd ends
    | cons token tokens =>
        cases read : round value (token :: tokens) with
        | error failure =>
            simp [repeatUntil, repeatWithin, ends, read, get, getThe, MonadStateOf.get, StateT.get,
              bind, StateT.bind, Except.bind, pure, Except.pure]
        | ok result =>
            obtain ⟨next, rest⟩ := result
            have shorter := advances value read
            rw [List.length_cons] at shorter
            have enough : rest.length ≤ tokens.length := Nat.le_of_lt_succ shorter
            simpa [repeatUntil, repeatWithin, ends, read, get, getThe, MonadStateOf.get,
              StateT.get, bind, StateT.bind, Except.bind, pure, Except.pure] using
              repeatWithin_eq stopsAtEnd advances tokens enough (Nat.le_refl _)

end Parser

end BlockLanguage
