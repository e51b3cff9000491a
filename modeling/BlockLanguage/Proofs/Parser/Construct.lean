import BlockLanguage.Proofs.Parser.Run
import BlockLanguage.Statement.WellFormed

/-!
# Parsers of single constructs

Which construct a first token opens, and when conditionals, loops and calls are read. The parser
of the blocks inside conditionals and loops may be any that reads blocks only.
-/

set_option autoImplicit false

namespace BlockLanguage

namespace Parser

open TokenShape (opening)

/-!
## First tokens
-/

theorem ofToken?_eq_conditional_iff {token : Token} :
    Opening.ofToken? token = some .conditional ↔ (opening .IF).Fits token := by
  rw [TokenShape.fits_opening]
  unfold Opening.ofToken?
  split
  case isTrue isIf => simp [isIf]
  case isFalse noIf =>
    have refuted : ¬ (token.text = Keyword.IF.spelling ∧ token.tokenClass = .keyword) :=
      fun isIf => noIf isIf.symm
    simp only [refuted, iff_false]
    split
    · simp
    · split <;> simp

theorem ofToken?_eq_loop_iff {token : Token} :
    Opening.ofToken? token = some .loop ↔ (opening .WHILE).Fits token := by
  rw [TokenShape.fits_opening]
  unfold Opening.ofToken?
  split
  case isTrue isIf => simp [isIf, Keyword.spelling]
  case isFalse noIf =>
    split
    case isTrue isWhile => simp [isWhile]
    case isFalse noWhile =>
      have refuted : ¬ (token.text = Keyword.WHILE.spelling ∧ token.tokenClass = .keyword) :=
        fun isWhile => noWhile isWhile.symm
      simp only [refuted, iff_false]
      split <;> simp

theorem ofToken?_eq_call_iff {token : Token} :
    Opening.ofToken? token = some .call ↔ token.tokenClass = .identifier := by
  unfold Opening.ofToken?
  split
  case isTrue isIf => simp [isIf.1]
  case isFalse noIf =>
    split
    case isTrue isWhile => simp [isWhile.1]
    case isFalse noWhile => simp

/-!
## Conditionals and loops around blocks
-/

theorem make_formIfThen {thenBlock : Statement} (isBlock : thenBlock.kind = .block)
    (guard : Condition) :
    (Statement.formIfThen guard).make (.empty, thenBlock) =
      .ok (.ifThen guard thenBlock, .empty) :=
  Edit.make_of_run (Statement.formIfThen_eq_ok_iff.mpr ⟨isBlock, rfl⟩)

theorem make_formIfElse {thenBlock elseBlock : Statement} (thenIsBlock : thenBlock.kind = .block)
    (elseIsBlock : elseBlock.kind = .block) (guard : Condition) :
    (Statement.formIfElse guard).make (.empty, thenBlock, elseBlock) =
      .ok (.ifElse guard thenBlock elseBlock, .empty, .empty) :=
  Edit.make_of_run (Statement.formIfElse_eq_ok_iff.mpr ⟨⟨thenIsBlock, elseIsBlock⟩, rfl⟩)

theorem make_formLoop {body : Statement} (isBlock : body.kind = .block) (guard : Condition) :
    (Statement.formLoop guard).make (.empty, body) = .ok (.loop guard body, .empty) :=
  Edit.make_of_run (Statement.formLoop_eq_ok_iff.mpr ⟨isBlock, rfl⟩)

theorem make_formCall {name : String} (identifier : isIdentifier name = true) :
    (Statement.formCall name).make .empty = .ok (.call name) :=
  Edit.make_of_run (Statement.formCall_eq_ok_iff.mpr ⟨identifier, rfl⟩)

/-- What a parser of blocks reads is a block. -/
def ReadsBlocks (block : Parser Statement) : Prop :=
  ∀ {tokens read rest}, block tokens = .ok (read, rest) → read.kind = .block

variable {block : Parser Statement} {guard : Condition} {tokens inner after rest : List Token}
  {thenBlock : Statement}

/-- A conditional goes on with its first block. -/
theorem conditional_of_error (readGuard : guarded .IF .THEN tokens = .ok (guard, inner))
    {failure : ParseFailure} (read : block inner = .error failure) :
    conditional block tokens = .error failure := by
  simp only [conditional, bind_apply, readGuard, read]

theorem conditional_of_else_error (readGuard : guarded .IF .THEN tokens = .ok (guard, inner))
    (readThen : block inner = .ok (thenBlock, after)) {otherwise : List Token}
    (turns : keyword .ELSE after = .ok ((), otherwise)) {failure : ParseFailure}
    (readElse : block otherwise = .error failure) :
    conditional block tokens = .error failure := by
  obtain ⟨token, spelled, rfl⟩ := keyword_eq_ok_iff.mp turns
  have hasElse : startsWith .ELSE (token :: otherwise) = true := by simp [spelled]
  simp only [conditional, bind_apply, readGuard, readThen, get_apply, hasElse, if_true, turns,
    readElse]

theorem conditional_eq_ok_iff (blocks : ReadsBlocks block) {child : Statement} :
    conditional block tokens = .ok (child, rest) ↔
      ∃ guard inner thenBlock after, guarded .IF .THEN tokens = .ok (guard, inner) ∧
        block inner = .ok (thenBlock, after) ∧
        ((startsWith .ELSE after = false ∧ closing .IF after = .ok ((), rest) ∧
            child = .ifThen guard thenBlock) ∨
          ∃ otherwise elseBlock last, keyword .ELSE after = .ok ((), otherwise) ∧
            block otherwise = .ok (elseBlock, last) ∧ closing .IF last = .ok ((), rest) ∧
            child = .ifElse guard thenBlock elseBlock) := by
  unfold conditional
  constructor
  · intro success
    obtain ⟨guard, inner, readGuard, success⟩ := bind_eq_ok_iff.mp success
    obtain ⟨thenBlock, after, readThen, success⟩ := bind_eq_ok_iff.mp success
    refine ⟨guard, inner, thenBlock, after, readGuard, readThen, ?_⟩
    simp only [bind_apply, get_apply] at success
    cases hasElse : startsWith .ELSE after with
    | false =>
        simp only [hasElse, Bool.false_eq_true, if_false] at success
        obtain ⟨_, last, closes, success⟩ := bind_eq_ok_iff.mp success
        rw [bind_apply, build_of_make (make_formIfThen (blocks readThen) guard)] at success
        cases success
        exact .inl ⟨rfl, closes, rfl⟩
    | true =>
        simp only [hasElse, if_true] at success
        obtain ⟨_, otherwise, turns, success⟩ := bind_eq_ok_iff.mp success
        obtain ⟨elseBlock, last, readElse, success⟩ := bind_eq_ok_iff.mp success
        obtain ⟨_, rest, closes, success⟩ := bind_eq_ok_iff.mp success
        rw [bind_apply,
          build_of_make (make_formIfElse (blocks readThen) (blocks readElse) guard)] at success
        cases success
        exact .inr ⟨otherwise, elseBlock, last, turns, readElse, closes, rfl⟩
  · intro ⟨guard, inner, thenBlock, after, readGuard, readThen, branches⟩
    rcases branches with
      ⟨noElse, closes, rfl⟩ | ⟨otherwise, elseBlock, last, turns, readElse, closes, rfl⟩
    · have made := build_of_make (make_formIfThen (blocks readThen) guard) rest
      simp only [bind_apply, readGuard, readThen, get_apply, noElse, Bool.false_eq_true, if_false,
        closes, made, pure_apply]
    · obtain ⟨token, spelled, rfl⟩ := keyword_eq_ok_iff.mp turns
      have hasElse : startsWith .ELSE (token :: otherwise) = true := by simp [spelled]
      have made := build_of_make (make_formIfElse (blocks readThen) (blocks readElse) guard) rest
      simp only [bind_apply, readGuard, readThen, get_apply, hasElse, if_true, turns, readElse,
        closes, made, pure_apply]

theorem loop_of_error (readGuard : guarded .WHILE .DO tokens = .ok (guard, inner))
    {failure : ParseFailure} (read : block inner = .error failure) :
    loop block tokens = .error failure := by
  simp only [loop, bind_apply, readGuard, read]

theorem loop_eq_ok_iff (blocks : ReadsBlocks block) {child : Statement} :
    loop block tokens = .ok (child, rest) ↔
      ∃ guard inner body after, guarded .WHILE .DO tokens = .ok (guard, inner) ∧
        block inner = .ok (body, after) ∧ closing .WHILE after = .ok ((), rest) ∧
        child = .loop guard body := by
  unfold loop
  constructor
  · intro success
    obtain ⟨guard, inner, readGuard, success⟩ := bind_eq_ok_iff.mp success
    obtain ⟨body, after, read, success⟩ := bind_eq_ok_iff.mp success
    obtain ⟨_, rest, closes, success⟩ := bind_eq_ok_iff.mp success
    rw [bind_apply, build_of_make (make_formLoop (blocks read) guard)] at success
    cases success
    exact ⟨guard, inner, body, after, readGuard, read, closes, rfl⟩
  · intro given
    obtain ⟨guard, inner, body, after, readGuard, read, closes, rfl⟩ := given
    have made := build_of_make (make_formLoop (blocks read) guard) rest
    simp only [bind_apply, readGuard, read, closes, made, pure_apply]

theorem call_eq_ok_iff {child : Statement} :
    call tokens = .ok (child, rest) ↔
      ∃ token, token.tokenClass = .identifier ∧ isIdentifier token.text = true ∧
        tokens = token :: rest ∧ child = .call token.text := by
  unfold call
  rw [bind_eq_ok_iff]
  constructor
  · intro ⟨token, middle, read, built⟩
    obtain ⟨hasClass, rfl⟩ := ofClass_eq_ok_iff.mp read
    cases identifier : isIdentifier token.text with
    | true =>
        rw [build_of_make (make_formCall identifier)] at built
        cases built
        exact ⟨token, hasClass, identifier, rfl, rfl⟩
    | false =>
        simp only [build, Statement.formCall, Edit.make, Edit.require, identifier] at built
        cases built
  · intro given
    obtain ⟨token, hasClass, identifier, rfl, rfl⟩ := given
    exact ⟨token, rest, ofClass_eq_ok_iff.mpr ⟨hasClass, rfl⟩,
      build_of_make (make_formCall identifier) rest⟩

/-!
## The choice of a construct
-/

/-- What the first token tells of the statement that it opens. -/
def leadsTo (tokens : List Token) : Option Opening :=
  tokens.head?.bind Opening.ofToken?

theorem leadsTo_eq_conditional_iff :
    leadsTo tokens = some .conditional ↔ ∃ token ∈ tokens.head?, (opening .IF).Fits token := by
  simp only [leadsTo, Option.bind_eq_some_iff, ofToken?_eq_conditional_iff, Option.mem_def]

theorem leadsTo_eq_loop_iff :
    leadsTo tokens = some .loop ↔ ∃ token ∈ tokens.head?, (opening .WHILE).Fits token := by
  simp only [leadsTo, Option.bind_eq_some_iff, ofToken?_eq_loop_iff, Option.mem_def]

theorem leadsTo_eq_call_iff :
    leadsTo tokens = some .call ↔ ∃ token ∈ tokens.head?, token.tokenClass = .identifier := by
  simp only [leadsTo, Option.bind_eq_some_iff, ofToken?_eq_call_iff, Option.mem_def]

theorem statementAround_cons (limit : Nat) (inner? : Option (Parser Statement)) (token : Token)
    (others : List Token) :
    statementAround limit inner? (token :: others) =
      match leadsTo (token :: others), inner? with
      | none, _ => .error (.refused (.noStatement token.text token.line))
      | some .call, _ => call (token :: others)
      | some _, none => .error (.refused (.tooDeep limit token.line))
      | some .conditional, some inner => conditional (blockWith inner) (token :: others)
      | some .loop, some inner => loop (blockWith inner) (token :: others) := by
  simp only [statementAround, bind_apply, get_apply, leadsTo, List.head?_cons, Option.bind_some]
  cases Opening.ofToken? token with
  | none => rfl
  | some opening => cases opening <;> cases inner? <;> rfl

private theorem exists_cons_of_leadsTo {opening : Opening} (leads : leadsTo tokens = some opening) :
    ∃ token others, tokens = token :: others := by
  cases tokens with
  | nil => cases leads
  | cons token others => exact ⟨token, others, rfl⟩

/-- Without room for nesting, a first token that opens a conditional or a loop is at fault. -/
theorem statementAround_none {token : Token} {others : List Token} {opening : Opening}
    (leads : leadsTo (token :: others) = some opening) (nests : opening ≠ .call) (limit : Nat) :
    statementAround limit none (token :: others) =
      .error (.refused (.tooDeep limit token.line)) := by
  rw [statementAround_cons, leads]
  cases opening with
  | call => exact absurd rfl nests
  | conditional => rfl
  | loop => rfl

theorem statementAround_of_call (leads : leadsTo tokens = some .call) (limit : Nat)
    (inner? : Option (Parser Statement)) : statementAround limit inner? tokens = call tokens := by
  obtain ⟨token, others, rfl⟩ := exists_cons_of_leadsTo leads
  rw [statementAround_cons, leads]

theorem statementAround_of_conditional (leads : leadsTo tokens = some .conditional) (limit : Nat)
    (inner : Parser Statement) :
    statementAround limit (some inner) tokens = conditional (blockWith inner) tokens := by
  obtain ⟨token, others, rfl⟩ := exists_cons_of_leadsTo leads
  rw [statementAround_cons, leads]

theorem statementAround_of_loop (leads : leadsTo tokens = some .loop) (limit : Nat)
    (inner : Parser Statement) :
    statementAround limit (some inner) tokens = loop (blockWith inner) tokens := by
  obtain ⟨token, others, rfl⟩ := exists_cons_of_leadsTo leads
  rw [statementAround_cons, leads]

end Parser

end BlockLanguage
