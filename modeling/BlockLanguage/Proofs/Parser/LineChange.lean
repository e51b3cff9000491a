import BlockLanguage.Command.Run
import BlockLanguage.Proofs.Parser.ProgramOutcome
import BlockLanguage.Proofs.Parser.Source

/-!
# Parsing tokens on other lines

The lines of tokens take no part in parsing. Where all tokens are moved to other lines, a parser
reads the same and leaves the same tokens, moved like the others, or fails in the same way, at the
line that the line of its error is moved to.
-/

set_option autoImplicit false

namespace BlockLanguage

/-- The token on the line that its own line is moved to. -/
def Token.moved (move : Nat → Nat) (token : Token) : Token :=
  { token with line := move token.line }

namespace ParseError

/-- The same error at the line that its own line is moved to. -/
def moved (move : Nat → Nat) : ParseError → ParseError
  | wrongClass expected found text line => .wrongClass expected found text (move line)
  | wrongText expected text line => .wrongText expected text (move line)
  | noStatement text line => .noStatement text (move line)
  | endOfInput expected => .endOfInput expected
  | nameMismatch expected found line => .nameMismatch expected found (move line)
  | instructionRepeated name line => .instructionRepeated name (move line)
  | primitiveRedefined name line => .primitiveRedefined name (move line)
  | tooDeep limit line => .tooDeep limit (move line)
  | inputAfterEnd text line => .inputAfterEnd text (move line)

end ParseError

/-- The same failure. That a precondition is broken does not tell of any line. -/
def ParseFailure.moved (move : Nat → Nat) : ParseFailure → ParseFailure
  | refused error => .refused (error.moved move)
  | violated violation => .violated violation

namespace Parser

variable {σ α β : Type} {move : Nat → Nat} {requested : Nat}

/-- The outcome of a parser where tokens are moved to other lines: what was read is changed
accordingly and the tokens that are left are moved. -/
def movedOutcome (move : Nat → Nat) (change : α → α) :
    Except ParseFailure (α × List Token) → Except ParseFailure (α × List Token)
  | .ok (value, rest) => .ok (change value, rest.map (Token.moved move))
  | .error failure => .error (failure.moved move)

/-- The second parser does with moved tokens what the first one does with the tokens. -/
def MovesTo (move : Nat → Nat) (change : α → α) (first second : Parser α) : Prop :=
  ∀ tokens, second (tokens.map (Token.moved move)) = movedOutcome move change (first tokens)

/-- What the parser reads does not depend on lines, and its errors only name them. -/
def IgnoresLines (parser : Parser α) : Prop :=
  ∀ move, MovesTo move id parser parser

namespace MovesTo

variable {change : α → α} {alter : β → β} {first second : Parser α}

theorem bind {next later : α → Parser β} (reads : MovesTo move change first second)
    (behind : ∀ value, MovesTo move alter (next value) (later (change value))) :
    MovesTo move alter (first >>= next) (second >>= later) := by
  intro tokens
  have moved := reads tokens
  cases read : first tokens with
  | ok success =>
      obtain ⟨value, rest⟩ := success
      rw [read] at moved
      simp only [bind_apply, read, moved, movedOutcome]
      exact behind value rest
  | error failure =>
      rw [read] at moved
      simp only [bind_apply, read, moved, movedOutcome]

theorem pure (value : α) :
    MovesTo move change (Pure.pure value : Parser α) (Pure.pure (change value)) :=
  fun _ => rfl

theorem refuse (error : ParseError) :
    MovesTo move change (Parser.refuse error : Parser α) (Parser.refuse (error.moved move)) :=
  fun _ => rfl

/-- A parser that looks at the tokens in front of it before it goes on. -/
theorem look {next later : List Token → Parser β}
    (behind : ∀ tokens, MovesTo move alter (next tokens)
      (later (tokens.map (Token.moved move)))) :
    MovesTo move alter (get >>= next) (get >>= later) :=
  fun tokens => behind tokens tokens

end MovesTo

namespace IgnoresLines

variable {parser : Parser α}

theorem bind {next : α → Parser β} (reads : IgnoresLines parser)
    (behind : ∀ value, IgnoresLines (next value)) : IgnoresLines (parser >>= next) :=
  fun move => (reads move).bind fun value => behind value move

theorem pure (value : α) : IgnoresLines (Pure.pure value : Parser α) :=
  fun _ _ => rfl

theorem build (edit : Edit σ α) (value : σ) : IgnoresLines (Parser.build edit value) := by
  intro move tokens
  unfold Parser.build
  cases edit.make value with
  | ok made => rfl
  | error violation => rfl

/-- A loop whose end does not depend on lines ignores them if its rounds do. -/
theorem repeatUntil {stop : List Token → Bool} {round : α → Parser α}
    (stops : ∀ move tokens, stop (tokens.map (Token.moved move)) = stop tokens)
    (rounds : ∀ value, IgnoresLines (round value)) (value : α) :
    IgnoresLines (Parser.repeatUntil stop round value) := by
  intro move
  have within : ∀ allowance value tokens,
      repeatWithin stop round value (tokens.map (Token.moved move))
          (allowance.map (Token.moved move)) =
        movedOutcome move id (repeatWithin stop round value tokens allowance) := by
    intro allowance
    induction allowance with
    | nil => exact fun _ _ => rfl
    | cons token allowance ih =>
        intro value tokens
        have moved := rounds value move tokens
        simp only [List.map_cons, repeatWithin, stops]
        cases stop tokens with
        | true => rfl
        | false =>
            cases read : round value tokens with
            | ok success =>
                obtain ⟨next, rest⟩ := success
                rw [read] at moved
                simp only [moved, movedOutcome, id_eq, Bool.false_eq_true, if_false]
                exact ih next rest
            | error failure =>
                rw [read] at moved
                simp only [moved, movedOutcome, Bool.false_eq_true, if_false]
  exact fun tokens => within tokens value tokens

end IgnoresLines

/-!
## Single tokens
-/

theorem startsWith_moved (expected : Keyword) (move : Nat → Nat) (tokens : List Token) :
    startsWith expected (tokens.map (Token.moved move)) = startsWith expected tokens := by
  cases tokens <;> rfl

theorem movesTo_ofClass (expected : TokenClass) :
    MovesTo move (Token.moved move) (ofClass expected) (ofClass expected) := by
  intro tokens
  cases tokens with
  | nil => rfl
  | cons token rest =>
      by_cases hasClass : token.tokenClass = expected
      · simp [hasClass, Token.moved, movedOutcome]
      · simp [hasClass, Token.moved, movedOutcome, ParseFailure.moved, ParseError.moved]

theorem ignoresLines_keyword (expected : Keyword) : IgnoresLines (keyword expected) := by
  intro move tokens
  cases tokens with
  | nil => rfl
  | cons token rest =>
      by_cases spelled : token.text = expected.spelling
      · simp [spelled, Token.moved, movedOutcome]
      · simp [spelled, Token.moved, movedOutcome, ParseFailure.moved, ParseError.moved]

/-- A token of some class, and then what does not depend on its line. -/
theorem ignoresLines_ofClass_bind (expected : TokenClass) {next : Token → Parser β}
    (behind : ∀ move token, MovesTo move id (next token) (next (token.moved move))) :
    IgnoresLines (ofClass expected >>= next) :=
  fun move => (movesTo_ofClass expected).bind (behind move)

/-!
## Statements and blocks
-/

theorem ignoresLines_condition : IgnoresLines condition := by
  apply ignoresLines_ofClass_bind
  intro move token
  simp only [Token.moved]
  cases Condition.ofSpelling? token.text with
  | some guard => exact .pure guard
  | none => exact .refuse _

theorem ignoresLines_call : IgnoresLines call := by
  apply ignoresLines_ofClass_bind
  intro move token
  exact IgnoresLines.build (Statement.formCall token.text) .empty move

theorem ignoresLines_guarded (opener divider : Keyword) :
    IgnoresLines (guarded opener divider) := by
  apply (ignoresLines_keyword opener).bind
  intro _
  apply ignoresLines_condition.bind
  intro guard
  exact (ignoresLines_keyword divider).bind fun _ => .pure guard

theorem ignoresLines_closing (opener : Keyword) : IgnoresLines (closing opener) :=
  (ignoresLines_keyword .END).bind fun _ => ignoresLines_keyword opener

variable {block inner : Parser Statement}

theorem ignoresLines_conditional (blocks : IgnoresLines block) :
    IgnoresLines (conditional block) := by
  apply (ignoresLines_guarded .IF .THEN).bind
  intro guard
  apply blocks.bind
  intro thenBlock move
  apply MovesTo.look
  intro behind
  rw [startsWith_moved]
  cases startsWith .ELSE behind with
  | true =>
      apply (ignoresLines_keyword .ELSE move).bind
      intro _
      apply (blocks move).bind
      intro elseBlock
      apply (ignoresLines_closing .IF move).bind
      intro _
      exact (IgnoresLines.build _ _ move).bind fun built => .pure built.1
  | false =>
      apply (ignoresLines_closing .IF move).bind
      intro _
      exact (IgnoresLines.build _ _ move).bind fun built => .pure built.1

theorem ignoresLines_loop (blocks : IgnoresLines block) : IgnoresLines (loop block) := by
  apply (ignoresLines_guarded .WHILE .DO).bind
  intro guard
  apply blocks.bind
  intro body
  apply (ignoresLines_closing .WHILE).bind
  intro _
  exact (IgnoresLines.build _ _).bind fun built => .pure built.1

theorem endsBlock_moved (move : Nat → Nat) (tokens : List Token) :
    endsBlock (tokens.map (Token.moved move)) = endsBlock tokens := by
  cases tokens <;> rfl

theorem ignoresLines_blockWith (statements : IgnoresLines inner) :
    IgnoresLines (blockWith inner) := by
  have rounds : ∀ before, IgnoresLines (intoBlock inner before) := by
    intro before
    apply statements.bind
    intro child
    exact (IgnoresLines.build _ _).bind fun built => .pure built.1
  apply (IgnoresLines.repeatUntil endsBlock_moved rounds _).bind
  intro backwards
  exact .pure backwards.reversed

theorem ignoresLines_statementAround (limit : Nat) {inner? : Option (Parser Statement)}
    (nested : ∀ inner ∈ inner?, IgnoresLines inner) :
    IgnoresLines (statementAround limit inner?) := by
  intro move tokens
  cases tokens with
  | nil => rfl
  | cons token others =>
      -- a token opens the same statement on every line
      have leads : leadsTo (token.moved move :: others.map (Token.moved move)) =
          leadsTo (token :: others) := rfl
      rw [List.map_cons, statementAround_cons, statementAround_cons, leads]
      cases leadsTo (token :: others) with
      | none => rfl
      | some opening =>
          cases inner? with
          | none =>
              cases opening with
              | call => exact ignoresLines_call move (token :: others)
              | conditional => rfl
              | loop => rfl
          | some inner =>
              have blocks := ignoresLines_blockWith (nested inner rfl)
              cases opening with
              | call => exact ignoresLines_call move (token :: others)
              | conditional => exact ignoresLines_conditional blocks move (token :: others)
              | loop => exact ignoresLines_loop blocks move (token :: others)

theorem ignoresLines_statementWithin (limit room : Nat) :
    IgnoresLines (statementWithin limit room) := by
  induction room with
  | zero => exact ignoresLines_statementAround limit nofun
  | succ room ih =>
      apply ignoresLines_statementAround
      intro inner isInner
      cases isInner
      exact ih

theorem ignoresLines_statement (requested : Nat) : IgnoresLines (statement requested) :=
  ignoresLines_statementWithin _ _

theorem ignoresLines_block (requested : Nat) : IgnoresLines (Parser.block requested) :=
  ignoresLines_blockWith (ignoresLines_statement requested)

/-!
## Programs
-/

end Parser

/-!
## Source texts
-/

/-- Class and text of a token, which are all of it but its line. -/
def Token.spelled (token : Token) : TokenClass × String :=
  (token.tokenClass, token.text)

open BlockLanguage.Parser (movedOutcome)

end BlockLanguage
