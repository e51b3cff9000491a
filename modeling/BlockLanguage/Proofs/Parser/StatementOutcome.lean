import BlockLanguage.Proofs.Parser.Completion
import BlockLanguage.Proofs.Parser.StatementGrammar
import BlockLanguage.Proofs.Printing.Spelling

/-!
# Outcomes of parsing statements

The parsers of statements and blocks are orderly: they find faults as soon as they read them, and
where they ask for more tokens there are some that complete what is begun.
-/

set_option autoImplicit false

namespace BlockLanguage

open ParseError (PointsAt)
open Token (AllSound)
open TokenShape (identifier)

namespace TokenShape

theorem Spelled.sound {shape : TokenShape} (spelled : shape.Spelled) (line : Nat) :
    (shape.token line).Sound :=
  fun hasClass => isIdentifier_iff_wordClass.mpr ⟨spelled.isWord, hasClass⟩

theorem allSound_map_token {shapes : List TokenShape} (spelled : ∀ shape ∈ shapes, shape.Spelled)
    (line : Nat) : AllSound (shapes.map (token line)) := by
  intro token member
  obtain ⟨shape, isShape, rfl⟩ := List.mem_map.mp member
  exact (spelled shape isShape).sound line

end TokenShape

namespace Parser

variable {α σ β : Type} {block statement : Parser Statement} {tokens rest : List Token}
  {body : Statement} {room : Nat}

/-!
## Single tokens
-/

theorem decides_keyword (expected : Keyword) (token : Token) :
    Decides (keyword expected) token := by
  by_cases spelled : token.text = expected.spelling
  · exact .takes () fun rest => by rw [keyword_cons, if_pos spelled]
  · refine .rejects (.wrongText expected token.text token.line) ⟨rfl, rfl⟩ fun rest => ?_
    rw [keyword_cons, if_neg spelled]

theorem decides_ofClass (expected : TokenClass) (token : Token) :
    Decides (ofClass expected) token := by
  by_cases hasClass : token.tokenClass = expected
  · exact .takes token fun rest => by rw [ofClass_cons, if_pos hasClass]
  · refine .rejects (.wrongClass expected token.tokenClass token.text token.line)
      ⟨rfl, rfl, rfl⟩ fun rest => ?_
    rw [ofClass_cons, if_neg hasClass]

/-- A parser decides if it reads a token of a class and only looks at that token. -/
theorem decides_checked {check : Token → Parser α} {token : Token} (expected : TokenClass)
    (checks : token.tokenClass = expected → (∃ made, check token = pure made) ∨
      ∃ error, check token = refuse error ∧ error.PointsAt token) :
    Decides (ofClass expected >>= check) token := by
  cases decides_ofClass expected token with
  | takes found taken =>
      obtain ⟨hasClass, same⟩ := ofClass_eq_ok_iff.mp (taken [])
      cases same
      rcases checks hasClass with ⟨made, same⟩ | ⟨error, same, pointsAt⟩
      · refine .takes made fun rest => ?_
        simp only [bind_apply, taken, same, pure_apply]
      · refine .rejects error pointsAt fun rest => ?_
        simp only [bind_apply, taken, same, refuse_apply]
  | rejects error pointsAt rejected =>
      refine .rejects error pointsAt fun rest => ?_
      rw [bind_apply, rejected]

theorem decides_condition (token : Token) : Decides condition token := by
  refine decides_checked .condition fun _ => ?_
  cases spelled : Condition.ofSpelling? token.text with
  | some guard => exact .inl ⟨guard, rfl⟩
  | none =>
      exact .inr ⟨.wrongClass .condition token.tokenClass token.text token.line, rfl, rfl, rfl, rfl⟩

theorem build_eq_pure {edit : Edit σ β} {value made : σ} (makes : edit.make value = .ok made) :
    build edit value = pure made := by
  unfold build
  rw [makes]

theorem decides_call {token : Token} (sound : token.Sound) : Decides call token := by
  refine decides_checked .identifier fun hasClass => .inl ⟨.call token.text, ?_⟩
  rw [build_eq_pure (make_formCall (sound hasClass))]

/-- A parser that decides on every token is orderly if it takes some shape. -/
theorem Orderly.of_decides {parser : Parser α} {value : α} {shape : TokenShape}
    (awaits : Awaits parser []) (decides : ∀ token, token.Sound → Decides parser token)
    (spelled : shape.Spelled) (reads : Reads parser value [shape]) : Orderly parser := by
  have fit := TokenShape.fitAll_map_token (List.forall_mem_singleton.mpr spelled) 1
  refine .of_heads awaits ⟨_, value, ?_, (reads _ _).mpr ⟨_, fit, (List.append_nil _).symm⟩⟩
    fun token sound => .inl (decides token sound)
  exact TokenShape.allSound_map_token (List.forall_mem_singleton.mpr spelled) 1

theorem closed_keyword (expected : Keyword) : Closed (keyword expected) :=
  .of_reads fun _ => ⟨_, reads_keyword expected⟩

theorem orderly_keyword (expected : Keyword) : Orderly (keyword expected) :=
  .of_decides (.inr ⟨_, rfl⟩) (fun token _ => decides_keyword expected token)
    (TokenShape.spelled_word expected) (reads_keyword expected)

theorem closed_ofClass (expected : TokenClass) : Closed (ofClass expected) := by
  intro tokens token rest read
  obtain ⟨hasClass, rfl⟩ := ofClass_eq_ok_iff.mp read
  exact ⟨[token], rfl, fun _ => ofClass_eq_ok_iff.mpr ⟨hasClass, rfl⟩⟩

theorem closed_condition : Closed condition :=
  .of_reads fun guard => ⟨_, reads_condition guard⟩

theorem orderly_condition : Orderly condition :=
  .of_decides (.inr ⟨_, rfl⟩) (fun token _ => decides_condition token)
    (TokenShape.spelled_condition .random) (reads_condition .random)

theorem closed_guarded (opener divider : Keyword) : Closed (guarded opener divider) :=
  .of_reads fun guard => ⟨_, reads_guarded opener divider guard⟩

theorem orderly_guarded (opener divider : Keyword) : Orderly (guarded opener divider) := by
  refine (orderly_keyword opener).bind_closed (closed_keyword opener) fun _ _ => ?_
  refine orderly_condition.bind_closed closed_condition fun _ _ => ?_
  exact (orderly_keyword divider).bind_closed (closed_keyword divider) fun _ _ => .pure _

theorem closed_closing (opener : Keyword) : Closed (closing opener) :=
  .of_reads fun _ => ⟨_, reads_closing opener⟩

theorem orderly_closing (opener : Keyword) : Orderly (closing opener) :=
  (orderly_keyword .END).bind_closed (closed_keyword .END) fun _ _ => orderly_keyword opener

/-!
## Conditionals and loops
-/

/-- A parser of blocks that is orderly and lets a block end where blocks end. -/
structure OrderlyBlocks (block : Parser Statement) : Prop where
  orderly : Orderly block
  blocks : ReadsBlocks block
  ends : ∀ {tokens body others}, block tokens = .ok (body, []) → endsBlock others = true →
    block (tokens ++ others) = .ok (body, others)

/-- A block can be put in front of what starts with a word that ends blocks. -/
theorem OrderlyBlocks.bind (orderlyBlocks : OrderlyBlocks block) {next : Statement → Parser α}
    (second : ∀ {body}, body.kind = .block → Orderly (next body))
    (ends : ∀ {body others result rest}, body.kind = .block →
      next body others = .ok (result, rest) → endsBlock others = true) :
    Orderly (block >>= next) := by
  refine orderlyBlocks.orderly.bind (fun _ read => second (orderlyBlocks.blocks read))
    fun {tokens body} _ read => ?_
  have isBlock := orderlyBlocks.blocks read
  obtain ⟨others, result, soundOthers, finished⟩ := (second isBlock).succeeds
  exact ⟨others, result, soundOthers, orderlyBlocks.ends read (ends isBlock finished), finished⟩

theorem OrderlyBlocks.bind_closing (orderlyBlocks : OrderlyBlocks block) (opener : Keyword)
    {finish : Statement → Parser Statement}
    (finishes : ∀ {body}, body.kind = .block → ∃ made, finish body = pure made) :
    Orderly (do let body ← block; closing opener; finish body) := by
  refine orderlyBlocks.bind (fun {body} isBlock => ?_) fun _ success => ?_
  · obtain ⟨made, same⟩ := finishes isBlock
    refine (orderly_closing opener).bind_closed (closed_closing opener) fun _ _ => ?_
    rw [same]
    exact .pure made
  · obtain ⟨_, _, closes, _⟩ := bind_eq_ok_iff.mp success
    exact (endsBlock_of_closing closes).1

theorem orderly_loop (orderlyBlocks : OrderlyBlocks block) : Orderly (loop block) := by
  refine (orderly_guarded _ _).bind_closed (closed_guarded _ _) fun {_ guard _} _ _ => ?_
  refine orderlyBlocks.bind_closing .WHILE fun {body} isBlock => ⟨.loop guard body, ?_⟩
  rw [build_eq_pure (make_formLoop isBlock guard)]
  rfl

/-- How a conditional goes on after its first block. -/
def afterThen (block : Parser Statement) (guard : Condition) (thenBlock : Statement) :
    Parser Statement := do
  if startsWith .ELSE (← get) then
    keyword .ELSE
    let elseBlock ← block
    closing .IF
    let built ← build (Statement.formIfElse guard) (.empty, thenBlock, elseBlock)
    return built.1
  else
    closing .IF
    let built ← build (Statement.formIfThen guard) (.empty, thenBlock)
    return built.1

theorem conditional_eq (block : Parser Statement) :
    conditional block = (do
      let guard ← guarded .IF .THEN
      let thenBlock ← block
      afterThen block guard thenBlock) := rfl

variable {guard : Condition} {thenBlock : Statement}

theorem afterThen_of_else (turns : startsWith .ELSE tokens = true) :
    afterThen block guard thenBlock tokens = (do
      keyword .ELSE
      let elseBlock ← block
      closing .IF
      let built ← build (Statement.formIfElse guard) (.empty, thenBlock, elseBlock)
      return built.1 : Parser Statement) tokens := by
  simp only [afterThen, bind_apply, get_apply, turns, if_true]

theorem afterThen_of_no_else (isBlock : thenBlock.kind = .block)
    (ends : startsWith .ELSE tokens = false) :
    afterThen block guard thenBlock tokens =
      (do closing .IF; return .ifThen guard thenBlock : Parser Statement) tokens := by
  simp only [afterThen, bind_apply, get_apply, ends, Bool.false_eq_true, if_false,
    build_eq_pure (make_formIfThen isBlock guard), pure_apply]

theorem orderly_afterThen (orderlyBlocks : OrderlyBlocks block)
    (isBlock : thenBlock.kind = .block) : Orderly (afterThen block guard thenBlock) := by
  have withElse : Orderly (do
      keyword .ELSE
      let elseBlock ← block
      closing .IF
      let built ← build (Statement.formIfElse guard) (.empty, thenBlock, elseBlock)
      return built.1 : Parser Statement) := by
    refine (orderly_keyword .ELSE).bind_closed (closed_keyword .ELSE) fun _ _ => ?_
    refine orderlyBlocks.bind_closing .IF fun {elseBlock} elseIsBlock =>
      ⟨.ifElse guard thenBlock elseBlock, ?_⟩
    rw [build_eq_pure (make_formIfElse isBlock elseIsBlock guard)]
    rfl
  have withoutElse : Orderly (do closing .IF; return .ifThen guard thenBlock : Parser Statement) :=
    (orderly_closing .IF).bind_closed (closed_closing .IF) fun _ _ => .pure _
  obtain ⟨others, result, soundOthers, finished⟩ := withoutElse.succeeds
  obtain ⟨_, _, closes, _⟩ := bind_eq_ok_iff.mp finished
  rw [← afterThen_of_no_else isBlock (endsBlock_of_closing closes).2] at finished
  refine .of_heads (.inr ⟨_, rfl⟩) ⟨others, result, soundOthers, finished⟩ fun token _ => .inr ?_
  cases turns : token.text == Keyword.ELSE.spelling with
  | true => exact ⟨_, withElse, fun _ => afterThen_of_else turns, nofun⟩
  | false => exact ⟨_, withoutElse, fun _ => afterThen_of_no_else isBlock turns, nofun⟩

private theorem endsBlock_of_afterThen (isBlock : thenBlock.kind = .block)
    (success : afterThen block guard thenBlock tokens = .ok (body, rest)) :
    endsBlock tokens = true := by
  cases turns : startsWith .ELSE tokens with
  | true => simp only [endsBlock, turns, Bool.or_true]
  | false =>
      rw [afterThen_of_no_else isBlock turns] at success
      obtain ⟨_, _, closes, _⟩ := bind_eq_ok_iff.mp success
      exact (endsBlock_of_closing closes).1

theorem orderly_conditional (orderlyBlocks : OrderlyBlocks block) :
    Orderly (conditional block) := by
  rw [conditional_eq]
  refine (orderly_guarded _ _).bind_closed (closed_guarded _ _) fun _ _ => ?_
  exact orderlyBlocks.bind (orderly_afterThen orderlyBlocks) endsBlock_of_afterThen

/-!
## Blocks
-/

theorem ReadsFronts.closed (exact : ReadsFronts room statement) : Closed statement := by
  intro tokens child rest read
  obtain ⟨kind, wellFormed, nesting, front, fit, same⟩ := (exact _ _ _).mp read
  exact ⟨front, same, fun others => (exact _ _ _).mpr
    ⟨kind, wellFormed, nesting, front, fit, rfl⟩⟩

/-- What a block is read from is read before any tokens that end a block. -/
theorem ReadsFronts.block_append (exact : ReadsFronts room statement)
    (read : blockWith statement tokens = .ok (body, [])) {others : List Token}
    (ends : endsBlock others = true) :
    blockWith statement (tokens ++ others) = .ok (body, others) := by
  obtain ⟨isBody, nesting, ⟨front, fit, same⟩, _⟩ := (blockWith_eq_ok_iff exact).mp read
  rw [same, List.append_nil]
  exact (blockWith_eq_ok_iff exact).mpr ⟨isBody, nesting, ⟨front, fit, rfl⟩, ends⟩

private theorem endsBlock_by_head (token : Token) (rest others : List Token) :
    endsBlock (token :: rest) = endsBlock (token :: others) := rfl

theorem intoBlock_eq (reads : ReadsStatements statement) (before : List Statement)
    (read : statement tokens = .ok (body, rest)) :
    (build (Statement.insertChild 0) (.block before, body) >>= fun built => pure built.1) =
      (pure (.block (body :: before)) : Parser Statement) := by
  rw [build_eq_pure (make_insertChild (reads.kind_ne_block read) (Nat.zero_le before.length))]
  rfl

theorem prompt_blockWith (reads : ReadsStatements statement) (prompt : Prompt PointsAt statement) :
    Prompt PointsAt (blockWith statement) := by
  have rounds : ∀ {before : Statement}, before.kind = .block →
      Prompt PointsAt (intoBlock statement before) := by
    intro before isBlock
    obtain ⟨children, rfl⟩ := Statement.kind_eq_block_iff.mp isBlock
    refine prompt.bind fun _ read => ?_
    rw [intoBlock_eq reads children read]
    exact .pure _
  have grows : ∀ {before : Statement} {tokens made rest}, before.kind = .block →
      AllSound tokens → intoBlock statement before tokens = .ok (made, rest) →
      made.kind = .block := by
    intro before tokens made rest isBlock _ success
    obtain ⟨children, rfl⟩ := Statement.kind_eq_block_iff.mp isBlock
    obtain ⟨child, middle, read, built⟩ := bind_eq_ok_iff.mp success
    rw [intoBlock_eq reads children read] at built
    cases built
    rfl
  exact (prompt_repeatUntil rfl endsBlock_by_head (advances_intoBlock reads) grows rounds rfl).bind
    fun _ _ => .pure _

/-- Only a statement at the end of a block can be incomplete, and completing it completes the
block. -/
theorem completable_blockWith (exact : ReadsFronts room statement)
    (completable : Completable statement) : Completable (blockWith statement) := by
  have reads := exact.readsStatements
  intro tokens sound expected asked
  induction length : tokens.length using Nat.strongRecOn generalizing tokens with
  | ind size ih =>
      subst length
      cases ends : endsBlock tokens with
      | true =>
          rw [blockWith_of_endsBlock ends] at asked
          cases asked
      | false =>
          have goesOn : ∀ others, endsBlock (tokens ++ others) = false := by
            intro others
            cases tokens with
            | nil => cases ends
            | cons token tokens => exact ends
          cases read : statement tokens with
          | error failure =>
              rw [blockWith_of_error reads ends read] at asked
              cases asked
              obtain ⟨others, child, soundOthers, completed⟩ := completable sound read
              refine ⟨others, .block [child], soundOthers, ?_⟩
              rw [blockWith_of_ok reads (goesOn others) completed]
              rfl
          | ok success =>
              obtain ⟨child, middle⟩ := success
              rw [blockWith_of_ok reads ends read] at asked
              cases later : blockWith statement middle with
              | ok success =>
                  rw [later] at asked
                  cases asked
              | error failure =>
                  rw [later] at asked
                  cases asked
                  obtain ⟨front, rfl, stays⟩ := exact.closed read
                  obtain ⟨others, block, soundOthers, completed⟩ :=
                    ih middle.length (reads.advances read)
                      (List.forall_mem_append.mp sound).2 later rfl
                  refine ⟨others, withFirst child block, soundOthers, ?_⟩
                  have readFirst := stays (middle ++ others)
                  rw [← List.append_assoc] at readFirst
                  rw [blockWith_of_ok reads (goesOn others) readFirst, completed]
                  rfl

theorem orderlyBlocks_blockWith (exact : ReadsFronts room statement)
    (orderly : Orderly statement) : OrderlyBlocks (blockWith statement) where
  orderly := ⟨prompt_blockWith exact.readsStatements orderly.prompt,
    completable_blockWith exact orderly.completable⟩
  blocks read := ((blockWith_eq_ok_iff exact).mp read).isBody.1
  ends read := exact.block_append read

/-!
## Statements
-/

theorem reads_call {name : String} (isName : isIdentifier name = true) :
    Reads call (.call name) [identifier name] := by
  intro tokens rest
  rw [call_eq_ok_iff, inFront_singleton_iff]
  constructor
  · intro ⟨token, hasClass, _, same, made⟩
    cases made
    exact ⟨token, TokenShape.fits_identifier.mpr ⟨rfl, hasClass⟩, same⟩
  · intro ⟨token, fits, same⟩
    obtain ⟨rfl, hasClass⟩ := TokenShape.fits_identifier.mp fits
    exact ⟨token, hasClass, isName, same, rfl⟩

theorem orderly_call : Orderly call := by
  have isName : isIdentifier "skip" = true := isIdentifier_iff_wordClass.mpr (by decide)
  exact .of_decides (.inr ⟨_, rfl⟩) (fun _ sound => decides_call sound)
    (TokenShape.spelled_identifier isName) (reads_call isName)

private theorem succeeds_statementAround (limit : Nat) (inner? : Option (Parser Statement)) :
    Succeeds (statementAround limit inner?) := by
  obtain ⟨others, child, sound, read⟩ := orderly_call.succeeds
  obtain ⟨token, hasClass, _, rfl, _⟩ := call_eq_ok_iff.mp read
  have leads : leadsTo [token] = some .call := leadsTo_eq_call_iff.mpr ⟨token, rfl, hasClass⟩
  exact ⟨[token], child, sound, (statementAround_of_call leads limit inner?).trans read⟩

theorem orderly_statementAround (limit : Nat) {inner? : Option (Parser Statement)}
    (orderlyBlocks : ∀ inner ∈ inner?, OrderlyBlocks (blockWith inner)) :
    Orderly (statementAround limit inner?) := by
  refine .of_heads (.inr ⟨_, rfl⟩) (succeeds_statementAround limit inner?) fun token sound => ?_
  cases opens : Opening.ofToken? token with
  | none =>
      refine .inl (.rejects (.noStatement token.text token.line) ⟨rfl, rfl⟩ fun rest => ?_)
      rw [statementAround_cons, leadsTo, List.head?_cons, Option.bind_some, opens]
  | some opening =>
      have leads : ∀ rest, leadsTo (token :: rest) = some opening := fun _ => opens
      cases opening with
      | call =>
          exact .inr ⟨call, orderly_call, fun rest => statementAround_of_call (leads rest) limit _,
            fun ended => by cases ended⟩
      | conditional =>
          cases inner? with
          | none =>
              exact .inl (.rejects (.tooDeep limit token.line) rfl fun rest =>
                statementAround_none (leads rest) (by decide) limit)
          | some inner =>
              exact .inr ⟨_, orderly_conditional (orderlyBlocks inner rfl),
                fun rest => statementAround_of_conditional (leads rest) limit inner,
                fun ended => by cases ended⟩
      | loop =>
          cases inner? with
          | none =>
              exact .inl (.rejects (.tooDeep limit token.line) rfl fun rest =>
                statementAround_none (leads rest) (by decide) limit)
          | some inner =>
              exact .inr ⟨_, orderly_loop (orderlyBlocks inner rfl),
                fun rest => statementAround_of_loop (leads rest) limit inner,
                fun ended => by cases ended⟩

theorem orderly_statementWithin (limit room : Nat) : Orderly (statementWithin limit room) := by
  induction room with
  | zero => exact orderly_statementAround limit nofun
  | succ room ih =>
      refine orderly_statementAround limit fun inner isInner => ?_
      obtain rfl := Option.some.inj isInner
      exact orderlyBlocks_blockWith (readsFronts_statementWithin limit room) ih

theorem orderly_statement (requested : Nat) : Orderly (Parser.statement requested) :=
  orderly_statementWithin _ _

theorem closed_statement (requested : Nat) : Closed (Parser.statement requested) :=
  (readsFronts_statementWithin _ _).closed

theorem orderlyBlocks_block (requested : Nat) : OrderlyBlocks (Parser.block requested) :=
  orderlyBlocks_blockWith (readsFronts_statementWithin _ _) (orderly_statement requested)

end Parser

end BlockLanguage
