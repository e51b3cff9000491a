import BlockLanguage.Parser.Program
import BlockLanguage.Proofs.Statement.Edit
import BlockLanguage.Statement.Grammar

/-!
# Runs of parsers

What the elementary parsers do with a list of tokens, when parsers that are put together from
them succeed, and how a block is read statement by statement.
-/

set_option autoImplicit false

namespace BlockLanguage

namespace Parser

variable {σ α β : Type}

@[simp] theorem bind_apply (parser : Parser α) (next : α → Parser β) (tokens : List Token) :
    (parser >>= next) tokens = match parser tokens with
      | .ok (value, rest) => next value rest
      | .error failure => .error failure := by
  simp only [bind, StateT.bind, Except.bind]
  cases parser tokens <;> rfl

@[simp] theorem pure_apply (value : α) (tokens : List Token) :
    (pure value : Parser α) tokens = .ok (value, tokens) := rfl

@[simp] theorem get_apply (tokens : List Token) :
    (get : Parser (List Token)) tokens = .ok (tokens, tokens) := rfl

@[simp] theorem refuse_apply (error : ParseError) (tokens : List Token) :
    (refuse error : Parser α) tokens = .error (.refused error) := rfl

theorem bind_eq_ok_iff {parser : Parser α} {next : α → Parser β} {tokens rest : List Token}
    {result : β} :
    (parser >>= next) tokens = .ok (result, rest) ↔
      ∃ value middle, parser tokens = .ok (value, middle) ∧
        next value middle = .ok (result, rest) := by
  rw [bind_apply]
  constructor
  · intro success
    split at success
    case h_1 value middle first => exact ⟨value, middle, first, success⟩
    case h_2 => cases success
  · intro ⟨value, middle, first, second⟩
    rw [first]
    exact second

theorem bind_eq_error_iff {parser : Parser α} {next : α → Parser β} {tokens : List Token}
    {failure : ParseFailure} :
    (parser >>= next) tokens = .error failure ↔
      parser tokens = .error failure ∨
        ∃ value middle, parser tokens = .ok (value, middle) ∧
          next value middle = .error failure := by
  rw [bind_apply]
  constructor
  · intro failed
    split at failed
    case h_1 value middle first => exact .inr ⟨value, middle, first, failed⟩
    case h_2 early first =>
      cases failed
      exact .inl first
  · rintro (first | ⟨value, middle, first, second⟩)
    · rw [first]
    · rw [first]
      exact second

theorem build_eq_ok_iff {edit : Edit σ α} {value made : σ} {tokens rest : List Token} :
    build edit value tokens = .ok (made, rest) ↔ edit.make value = .ok made ∧ rest = tokens := by
  unfold build
  cases edit.make value with
  | ok other => simp [eq_comm]
  | error violation =>
      constructor
      · intro success
        cases success
      · intro ⟨same, _⟩
        cases same

theorem build_of_make {edit : Edit σ α} {value made : σ} (makes : edit.make value = .ok made)
    (tokens : List Token) : build edit value tokens = .ok (made, tokens) :=
  build_eq_ok_iff.mpr ⟨makes, rfl⟩

/-!
## Single tokens
-/

@[simp] theorem keyword_nil (expected : Keyword) :
    keyword expected [] = .error (.refused (.endOfInput (.keyword expected))) := rfl

@[simp] theorem keyword_cons (expected : Keyword) (token : Token) (rest : List Token) :
    keyword expected (token :: rest) =
      if token.text = expected.spelling then .ok ((), rest)
      else .error (.refused (.wrongText expected token.text token.line)) := by
  simp only [keyword, bind_apply, get_apply]
  split <;> rfl

@[simp] theorem ofClass_nil (expected : TokenClass) :
    ofClass expected [] = .error (.refused (.endOfInput (.tokenClass expected))) := rfl

@[simp] theorem ofClass_cons (expected : TokenClass) (token : Token) (rest : List Token) :
    ofClass expected (token :: rest) =
      if token.tokenClass = expected then .ok (token, rest)
      else .error (.refused (.wrongClass expected token.tokenClass token.text token.line)) := by
  simp only [ofClass, bind_apply, get_apply]
  split <;> rfl

theorem keyword_eq_ok_iff {expected : Keyword} {tokens rest : List Token} :
    keyword expected tokens = .ok ((), rest) ↔
      ∃ token, token.text = expected.spelling ∧ tokens = token :: rest := by
  cases tokens with
  | nil => simp
  | cons first others =>
      rw [keyword_cons]
      constructor
      · intro success
        split at success
        case isTrue spelled =>
          cases success
          exact ⟨first, spelled, rfl⟩
        case isFalse => cases success
      · intro ⟨token, spelled, same⟩
        cases same
        rw [if_pos spelled]

theorem ofClass_eq_ok_iff {expected : TokenClass} {tokens rest : List Token} {token : Token} :
    ofClass expected tokens = .ok (token, rest) ↔
      token.tokenClass = expected ∧ tokens = token :: rest := by
  cases tokens with
  | nil => simp
  | cons first others =>
      rw [ofClass_cons]
      constructor
      · intro success
        split at success
        case isTrue hasClass =>
          cases success
          exact ⟨hasClass, rfl⟩
        case isFalse => cases success
      · intro ⟨hasClass, same⟩
        cases same
        rw [if_pos hasClass]

/-- A condition is read from a token of its class with its spelling. -/
theorem condition_eq_ok_iff {tokens rest : List Token} {guard : Condition} :
    condition tokens = .ok (guard, rest) ↔
      ∃ token, (TokenShape.condition guard).Fits token ∧ tokens = token :: rest := by
  unfold condition
  rw [bind_eq_ok_iff]
  constructor
  · intro ⟨token, middle, found, spelled⟩
    obtain ⟨hasClass, rfl⟩ := ofClass_eq_ok_iff.mp found
    cases read : Condition.ofSpelling? token.text with
    | none => simp [read] at spelled
    | some other =>
        simp only [read, pure_apply] at spelled
        cases spelled
        refine ⟨token, ⟨(Condition.spelling_of_ofSpelling? read).symm, ?_⟩, rfl⟩
        simpa [TokenShape.condition] using hasClass
  · intro given
    obtain ⟨token, ⟨spelled, hasClass⟩, rfl⟩ := given
    refine ⟨token, rest, ofClass_eq_ok_iff.mpr ⟨hasClass _ rfl, rfl⟩, ?_⟩
    have text : token.text = guard.spelling := spelled
    simp [text, Condition.ofSpelling?_spelling]

/-- The parser gives the value exactly where tokens of these shapes are in front. -/
def Reads (parser : Parser α) (value : α) (shapes : List TokenShape) : Prop :=
  ∀ tokens rest : List Token,
    parser tokens = .ok (value, rest) ↔ TokenShape.InFront shapes tokens rest

theorem reads_pure (value : α) : Reads (pure value) value [] := by
  intro tokens rest
  simp [TokenShape.inFront_nil_iff]

theorem Reads.bind {parser : Parser α} {next : α → Parser β} {value : α} {result : β}
    {front back : List TokenShape} (first : Reads parser value front)
    (second : Reads (next value) result back)
    (only : ∀ {other middle rest}, next other middle = .ok (result, rest) → other = value) :
    Reads (parser >>= next) result (front ++ back) := by
  intro tokens rest
  rw [bind_eq_ok_iff, TokenShape.inFront_append_iff]
  constructor
  · intro ⟨other, middle, readFirst, readSecond⟩
    obtain rfl := only readSecond
    exact ⟨middle, (first _ _).mp readFirst, (second _ _).mp readSecond⟩
  · intro ⟨middle, inFirst, inSecond⟩
    exact ⟨value, middle, (first _ _).mpr inFirst, (second _ _).mpr inSecond⟩

theorem inFront_singleton_iff {shape : TokenShape} {tokens rest : List Token} :
    TokenShape.InFront [shape] tokens rest ↔
      ∃ token, shape.Fits token ∧ tokens = token :: rest := by
  rw [TokenShape.inFront_cons_iff]
  constructor
  · intro given
    obtain ⟨token, others, rfl, fits, ended⟩ := given
    obtain rfl := TokenShape.inFront_nil_iff.mp ended
    exact ⟨token, fits, rfl⟩
  · intro given
    obtain ⟨token, fits, rfl⟩ := given
    exact ⟨token, rest, rfl, fits, TokenShape.inFront_nil_iff.mpr rfl⟩

theorem reads_keyword (expected : Keyword) : Reads (keyword expected) () [.word expected] := by
  intro tokens rest
  simp only [keyword_eq_ok_iff, inFront_singleton_iff, TokenShape.fits_word]

theorem inFront_word_cons_iff {expected : Keyword} {shapes : List TokenShape}
    {tokens rest : List Token} :
    TokenShape.InFront (.word expected :: shapes) tokens rest ↔
      ∃ middle, keyword expected tokens = .ok ((), middle) ∧
        TokenShape.InFront shapes middle rest := by
  rw [← List.singleton_append, TokenShape.inFront_append_iff]
  simp only [reads_keyword expected _ _]

theorem reads_condition (guard : Condition) : Reads condition guard [.condition guard] := by
  intro tokens rest
  rw [condition_eq_ok_iff, inFront_singleton_iff]

theorem reads_guarded (opener divider : Keyword) (guard : Condition) :
    Reads (guarded opener divider) guard [.word opener, .condition guard, .word divider] := by
  refine (reads_keyword opener).bind ((reads_condition guard).bind
    ((reads_keyword divider).bind (reads_pure guard) fun _ => rfl) ?_) fun _ => rfl
  intro other middle rest success
  obtain ⟨_, _, _, finished⟩ := bind_eq_ok_iff.mp success
  cases finished
  rfl

theorem reads_closing (opener : Keyword) : Reads (closing opener) () [.word .END, .word opener] :=
  (reads_keyword .END).bind (reads_keyword opener) fun _ => rfl

@[simp] theorem startsWith_cons (expected : Keyword) (token : Token) (rest : List Token) :
    startsWith expected (token :: rest) = (token.text == expected.spelling) := rfl

@[simp] theorem startsWith_nil (expected : Keyword) : startsWith expected [] = false := rfl

/-- Where a block ends. -/
theorem endsBlock_iff {tokens : List Token} :
    endsBlock tokens = true ↔
      tokens = [] ∨ ∃ token rest, tokens = token :: rest ∧
        (token.text = Keyword.END.spelling ∨ token.text = Keyword.ELSE.spelling) := by
  cases tokens with
  | nil => simp [endsBlock]
  | cons token rest => simp [endsBlock]

/-!
## Loops
-/

theorem repeatUntil_of_round {stop : List Token → Bool} {round : α → Parser α}
    (stopsAtEnd : stop [] = true) (advances : ∀ value, Advances (round value))
    {tokens : List Token} (goesOn : stop tokens = false) (value : α) :
    repeatUntil stop round value tokens = match round value tokens with
      | .ok (next, rest) => repeatUntil stop round next rest
      | .error failure => .error failure := by
  rw [repeatUntil_eq stopsAtEnd advances]
  simp [goesOn]

/-- What holds at the start of a loop and is kept by every round holds in the end, where the
loop has a reason to stop. -/
theorem repeatUntil_invariant {stop : List Token → Bool} {round : α → Parser α}
    (stopsAtEnd : stop [] = true) (advances : ∀ value, Advances (round value))
    (invariant : α → List Token → Prop)
    (kept : ∀ {value tokens next rest}, stop tokens = false → invariant value tokens →
      round value tokens = .ok (next, rest) → invariant next rest)
    {value final : α} {tokens rest : List Token} (start : invariant value tokens)
    (success : repeatUntil stop round value tokens = .ok (final, rest)) :
    invariant final rest ∧ stop rest = true := by
  induction length : tokens.length using Nat.strongRecOn generalizing value tokens with
  | ind size ih =>
      subst length
      cases goesOn : stop tokens with
      | true =>
          rw [repeatUntil_of_stop goesOn] at success
          cases success
          exact ⟨start, goesOn⟩
      | false =>
          rw [repeatUntil_of_round stopsAtEnd advances goesOn] at success
          split at success
          case h_1 next middle read =>
            exact ih middle.length (advances value read) (kept goesOn start read) success rfl
          case h_2 => cases success

/-- A loop fails in one of its rounds, and what every round keeps holds before that one. -/
theorem exists_round_of_repeatUntil_error {stop : List Token → Bool} {round : α → Parser α}
    (stopsAtEnd : stop [] = true) (advances : ∀ value, Advances (round value))
    (invariant : α → List Token → Prop)
    (kept : ∀ {value tokens next rest}, stop tokens = false → invariant value tokens →
      round value tokens = .ok (next, rest) → invariant next rest)
    {value : α} {tokens : List Token} {failure : ParseFailure} (start : invariant value tokens)
    (failed : repeatUntil stop round value tokens = .error failure) :
    ∃ reached left, invariant reached left ∧ stop left = false ∧
      round reached left = .error failure := by
  induction length : tokens.length using Nat.strongRecOn generalizing value tokens with
  | ind size ih =>
      subst length
      cases goesOn : stop tokens with
      | true =>
          rw [repeatUntil_of_stop goesOn] at failed
          cases failed
      | false =>
          rw [repeatUntil_of_round stopsAtEnd advances goesOn] at failed
          split at failed
          case h_1 next middle read =>
            exact ih middle.length (advances value read) (kept goesOn start read) failed rfl
          case h_2 other read =>
            cases failed
            exact ⟨value, tokens, start, goesOn, read⟩

/-!
## Blocks
-/

/-- A parser of single statements: it reads something, and no block. -/
structure ReadsStatements (statement : Parser Statement) : Prop where
  advances : Advances statement
  kind_ne_block : ∀ {tokens child rest}, statement tokens = .ok (child, rest) →
    child.kind ≠ .block

theorem make_insertChild {child : Statement} (noBlock : child.kind ≠ .block)
    {children : List Statement} {index : Nat} (fits : index ≤ children.length) :
    (Statement.insertChild index).make (.block children, child) =
      .ok (.block (children.insertIdx index child), .empty) :=
  Edit.make_of_run (Statement.insertChild_eq_ok_iff.mpr ⟨noBlock, children, rfl, fits, rfl⟩)

variable {statement : Parser Statement}

theorem intoBlock_of_ok (reads : ReadsStatements statement) {tokens rest : List Token}
    {child : Statement} (read : statement tokens = .ok (child, rest))
    (before : List Statement) :
    intoBlock statement (.block before) tokens = .ok (.block (child :: before), rest) := by
  have makes := make_insertChild (reads.kind_ne_block read) (Nat.zero_le before.length)
  rw [List.insertIdx_zero] at makes
  simp only [intoBlock, bind_apply, read, build_of_make makes, pure_apply]

theorem advances_intoBlock (reads : ReadsStatements statement) (before : Statement) :
    Advances (intoBlock statement before) := by
  intro tokens grown rest success
  obtain ⟨child, middle, read, grows⟩ := bind_eq_ok_iff.mp success
  obtain ⟨built, after, builds, finished⟩ := bind_eq_ok_iff.mp grows
  cases finished
  rw [(build_eq_ok_iff.mp builds).2]
  exact reads.advances read

theorem intoBlock_of_error {tokens : List Token} {failure : ParseFailure}
    (read : statement tokens = .error failure) (before : Statement) :
    intoBlock statement before tokens = .error failure := by
  simp only [intoBlock, bind_apply, read]

/-- What is read into a block does not depend on the statements before it. -/
private theorem exists_repeatUntil_intoBlock (reads : ReadsStatements statement)
    (tokens : List Token) :
    ∃ result : Except ParseFailure (List Statement × List Token), ∀ before,
      repeatUntil endsBlock (intoBlock statement) (.block before) tokens =
        result.map fun (children, rest) => (.block (children.reverse ++ before), rest) := by
  induction length : tokens.length using Nat.strongRecOn generalizing tokens with
  | ind size ih =>
      subst length
      have advances := advances_intoBlock reads
      cases ends : endsBlock tokens with
      | true =>
          refine ⟨.ok ([], tokens), fun before => ?_⟩
          rw [repeatUntil_of_stop ends]
          rfl
      | false =>
          cases read : statement tokens with
          | error failure =>
              refine ⟨.error failure, fun before => ?_⟩
              rw [repeatUntil_of_round rfl advances ends, intoBlock_of_error read]
              rfl
          | ok value =>
              obtain ⟨child, middle⟩ := value
              obtain ⟨result, later⟩ := ih middle.length (reads.advances read) middle rfl
              refine ⟨result.map fun (children, rest) => (child :: children, rest),
                fun before => ?_⟩
              rw [repeatUntil_of_round rfl advances ends, intoBlock_of_ok reads read]
              simp only [later]
              cases result <;> simp [Except.map]

theorem blockWith_of_endsBlock {tokens : List Token} (ends : endsBlock tokens = true)
    (statement : Parser Statement) : blockWith statement tokens = .ok (.empty, tokens) := by
  simp only [blockWith, bind_apply, repeatUntil_of_stop ends, pure_apply]
  rfl

theorem blockWith_of_error (reads : ReadsStatements statement) {tokens : List Token}
    (goesOn : endsBlock tokens = false) {failure : ParseFailure}
    (read : statement tokens = .error failure) :
    blockWith statement tokens = .error failure := by
  simp only [blockWith, bind_apply,
    repeatUntil_of_round rfl (advances_intoBlock reads) goesOn, intoBlock_of_error read]

/-- The block that has one more statement in front. -/
def withFirst (child : Statement) : Statement → Statement
  | .block children => .block (child :: children)
  | other => other

/-- After its first statement a block is read like a block of its own. -/
theorem blockWith_of_ok (reads : ReadsStatements statement) {tokens middle : List Token}
    (goesOn : endsBlock tokens = false) {child : Statement}
    (read : statement tokens = .ok (child, middle)) :
    blockWith statement tokens =
      (blockWith statement middle).map fun (block, rest) => (withFirst child block, rest) := by
  obtain ⟨result, later⟩ := exists_repeatUntil_intoBlock reads middle
  have whole := repeatUntil_of_round rfl (advances_intoBlock reads) goesOn (.block [])
  rw [intoBlock_of_ok reads read] at whole
  simp only [later] at whole
  simp only [blockWith, bind_apply, Statement.empty, whole, later]
  cases result with
  | error failure => rfl
  | ok value => simp [Except.map, Statement.reversed, withFirst]

end Parser

end BlockLanguage
