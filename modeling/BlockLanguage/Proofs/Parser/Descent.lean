import BlockLanguage.Proofs.Parser.Suffix

/-!
# Descents

The parsers once more, bounded by nothing but their own checks: a block asks for statements until
it ends, and conditionals and loops ask for blocks one level deeper. What bounds a descent from
outside is a budget, of levels of blocks and of rounds of each loop, and a descent halts when it
exhausts one. It also records the depths at which it enters blocks. No descent exhausts a budget of
one level more than the limit of nesting and one round for each token, so all of them end, with
the outcomes of the parsers.
-/

set_option autoImplicit false

namespace BlockLanguage

/-- Why a descent halts. -/
inductive Halt where
  | failed (failure : ParseFailure)
  | exhausted
  deriving DecidableEq, Repr

/-- A parser that takes and gives the depths of the blocks entered so far. -/
abbrev Descent (α : Type) := StateT (List Token) (ExceptT Halt (StateM (List Nat))) α

namespace Descent

open BlockLanguage.Parser (Advances startsWith endsBlock intoBlockEnd statementWithin blockWith)

variable {α β : Type}

def perform (parser : Parser α) : Descent α :=
  fun tokens depths => ((parser tokens).mapError .failed, depths)

def enter (depth : Nat) : Descent Unit :=
  fun tokens depths => (.ok ((), tokens), depths ++ [depth])

def exhaust : Descent α :=
  fun _ depths => (.error .exhausted, depths)

def repeatUntil (stop : List Token → Bool) (round : α → Descent α) :
    (rounds : Nat) → α → Descent α
  | 0, value => do
    if stop (← get) then
      return value
    else
      exhaust
  | rounds + 1, value => do
    if stop (← get) then
      return value
    else
      repeatUntil stop round rounds (← round value)

def conditional (inner : Descent Statement) : Descent Statement := do
  let condition ← perform (Parser.guarded .IF .THEN)
  let thenBlock ← inner
  if startsWith .ELSE (← get) then
    perform (Parser.keyword .ELSE)
    let elseBlock ← inner
    perform (Parser.closing .IF)
    let built ← perform (Parser.build (Statement.formIfElse condition)
      (.empty, thenBlock, elseBlock))
    return built.1
  else
    perform (Parser.closing .IF)
    let built ← perform (Parser.build (Statement.formIfThen condition) (.empty, thenBlock))
    return built.1

def loop (inner : Descent Statement) : Descent Statement := do
  let condition ← perform (Parser.guarded .WHILE .DO)
  let body ← inner
  perform (Parser.closing .WHILE)
  let built ← perform (Parser.build (Statement.formLoop condition) (.empty, body))
  return built.1

/-- Reads a statement that stands in `depth` conditionals and loops. -/
def statementAt (limit depth : Nat) (inner : Descent Statement) : Descent Statement := do
  match (← get).head? with
  | none => perform (Parser.refuse (.endOfInput .statement))
  | some token =>
    let opening? := Opening.ofToken? token
    if (opening? = some .conditional ∨ opening? = some .loop) ∧ limit ≤ depth then
      perform (Parser.refuse (.tooDeep limit token.line))
    else
      match opening? with
      | none => perform (Parser.refuse (.noStatement token.text token.line))
      | some .call => perform Parser.call
      | some .conditional => conditional inner
      | some .loop => loop inner

def intoBlock (statement : Descent Statement) (before : Statement) : Descent Statement := do
  let child ← statement
  perform (intoBlockEnd (pure child) before)

/-- Reads a block that stands in `depth` conditionals and loops. It costs one level itself. -/
def blockAt (limit rounds : Nat) : (levels depth : Nat) → Descent Statement
  | 0, _ => exhaust
  | levels + 1, depth => do
    enter depth
    repeatUntil endsBlock
      (intoBlock (statementAt limit depth (blockAt limit rounds levels (depth + 1)))) rounds .empty

variable (requested levels rounds : Nat)

def statement : Descent Statement :=
  statementAt (nestingLimit requested) 0 (blockAt (nestingLimit requested) rounds levels 1)

def block : Descent Statement :=
  blockAt (nestingLimit requested) rounds levels 0

def instruction : Descent (Token × Statement) := do
  perform (Parser.keyword .INSTRUCTION)
  let name ← perform Parser.definedName
  perform (Parser.keyword .IS)
  let body ← block requested levels rounds
  perform (Parser.keyword .END)
  perform (Parser.closingName name.text)
  return (name, body)

def intoContext (context : Context) : Descent Context := do
  let (name, body) ← instruction requested levels rounds
  if context.contains name.text then
    perform (Parser.refuse (.instructionRepeated name.text name.line))
  else
    return context.insert name.text body

def definitions : Descent Context :=
  repeatUntil (fun tokens => !startsWith .INSTRUCTION tokens)
    (intoContext requested levels rounds) rounds NameMap.empty

def program : Descent Program := do
  let opened? ← perform Parser.header?
  let context ← definitions requested levels rounds
  perform (Parser.keyword .BEGIN)
  let body ← block requested levels rounds
  perform (Parser.keyword .END)
  let name ← perform (Parser.programName opened?)
  perform Parser.endOfProgram
  perform (Parser.assemble name context body)

/-!
## Descents that follow parsers
-/

variable {α β : Type} {limit need depth room requested : Nat} {tokens : List Token}

/-- The descent ends on the tokens like the parser, after entering blocks at these depths. -/
def EndsLike (descent : Descent α) (parser : Parser α) (tokens : List Token)
    (entered : List Nat) : Prop :=
  ∀ depths, descent tokens depths = ((parser tokens).mapError .failed, depths ++ entered)

/-- With any budget of as many levels as needed and of one round for each token, the descent ends
like the parser, which leaves an end of the tokens. The blocks that it enters on its way do not
depend on the budget, and none of them is deeper than the limit. -/
structure FollowsOn (limit need : Nat) (descent : (levels rounds : Nat) → Descent α)
    (parser : Parser α) (tokens : List Token) : Prop where
  leaves : ∀ value rest, parser tokens = .ok (value, rest) → rest <:+ tokens
  ends : ∃ entered : List Nat, (∀ depth ∈ entered, depth ≤ limit) ∧
    ∀ levels rounds, need ≤ levels → tokens.length ≤ rounds →
      EndsLike (descent levels rounds) parser tokens entered

def Follows (limit need : Nat) (descent : (levels rounds : Nat) → Descent α)
    (parser : Parser α) : Prop :=
  ∀ tokens, FollowsOn limit need descent parser tokens

theorem look_bind (next : List Token → Descent β) (depths : List Nat) :
    (get >>= next : Descent β) tokens depths = next tokens tokens depths := rfl

namespace EndsLike

variable {descent : Descent α} {next : α → Descent β} {parser : Parser α}
  {parserNext : α → Parser β} {rest : List Token} {entered enteredThen : List Nat}

theorem bind_of_error {failure : ParseFailure} (ends : EndsLike descent parser tokens entered)
    (failed : parser tokens = .error failure) :
    EndsLike (descent >>= next) (parser >>= parserNext) tokens entered := by
  intro depths
  have halts := ends depths
  rw [failed] at halts
  simp only [bind, StateT.bind, ExceptT.bind, ExceptT.mk, ExceptT.bindCont, Except.bind, halts,
    failed]
  rfl

theorem bind_of_ok {value : α} (first : EndsLike descent parser tokens entered)
    (read : parser tokens = .ok (value, rest))
    (second : EndsLike (next value) (parserNext value) rest enteredThen) :
    EndsLike (descent >>= next) (parser >>= parserNext) tokens (entered ++ enteredThen) := by
  intro depths
  have goesOn := first depths
  have ends := second (depths ++ entered)
  rw [read] at goesOn
  rw [List.append_assoc] at ends
  simp only [bind, StateT.bind, ExceptT.bind, ExceptT.mk, ExceptT.bindCont, Except.bind, goesOn,
    read]
  exact ends

end EndsLike

theorem Follows.mono {more : Nat} {descent : Nat → Nat → Descent α} {parser : Parser α}
    (follows : Follows limit need descent parser) (enough : need ≤ more) :
    Follows limit more descent parser := by
  intro tokens
  obtain ⟨leaves, entered, shallow, ends⟩ := follows tokens
  refine ⟨leaves, entered, shallow, ?_⟩
  intro levels rounds enoughLevels
  exact ends levels rounds (Nat.le_trans enough enoughLevels)

/-- Only what a descent and a parser do on the tokens counts. -/
theorem FollowsOn.congr {descent other : Nat → Nat → Descent α} {parser otherParser : Parser α}
    (follows : FollowsOn limit need other otherParser tokens)
    (same : ∀ levels rounds depths,
      descent levels rounds tokens depths = other levels rounds tokens depths)
    (sameParser : parser tokens = otherParser tokens) :
    FollowsOn limit need descent parser tokens := by
  obtain ⟨leaves, entered, shallow, ends⟩ := follows
  refine ⟨by simpa only [sameParser] using leaves, entered, shallow, ?_⟩
  simpa only [EndsLike, same, sameParser] using ends

theorem follows_perform {parser : Parser α} (leaves : parser.LeavesSuffix) :
    Follows limit need (fun _ _ => perform parser) parser := by
  intro tokens
  refine ⟨fun value rest read => leaves read, [], by simp, ?_⟩
  intro levels rounds _ _ depths
  simp [perform]

theorem follows_pure (value : α) : Follows limit need (fun _ _ => pure value) (pure value) :=
  follows_perform (.pure value)

theorem FollowsOn.bind {descent : Nat → Nat → Descent α} {next : α → Nat → Nat → Descent β}
    {parser : Parser α} {parserNext : α → Parser β}
    (first : FollowsOn limit need descent parser tokens)
    (second : ∀ {value rest}, parser tokens = .ok (value, rest) →
      FollowsOn limit need (next value) (parserNext value) rest) :
    FollowsOn limit need (fun levels rounds => descent levels rounds >>= (next · levels rounds))
      (parser >>= parserNext) tokens := by
  obtain ⟨leavesFirst, entered, shallow, endsFirst⟩ := first
  cases read : parser tokens with
  | error failure =>
      constructor
      · intro result rest success
        simp [read] at success
      · refine ⟨entered, shallow, ?_⟩
        intro levels rounds enoughLevels enoughRounds
        exact (endsFirst levels rounds enoughLevels enoughRounds).bind_of_error read
  | ok success =>
      obtain ⟨value, rest⟩ := success
      have isSuffix := leavesFirst value rest read
      obtain ⟨leavesSecond, enteredThen, shallowThen, endsSecond⟩ := second read
      constructor
      · intro result last success
        simp only [Parser.bind_apply, read] at success
        exact (leavesSecond result last success).trans isSuffix
      · refine ⟨entered ++ enteredThen, List.forall_mem_append.mpr ⟨shallow, shallowThen⟩, ?_⟩
        intro levels rounds enoughLevels enoughRounds
        have roundsLeft : rest.length ≤ rounds := Nat.le_trans isSuffix.length_le enoughRounds
        exact (endsFirst levels rounds enoughLevels enoughRounds).bind_of_ok read
          (endsSecond levels rounds enoughLevels roundsLeft)

theorem Follows.bind {descent : Nat → Nat → Descent α} {next : α → Nat → Nat → Descent β}
    {parser : Parser α} {parserNext : α → Parser β} (first : Follows limit need descent parser)
    (second : ∀ value, Follows limit need (next value) (parserNext value)) :
    Follows limit need (fun levels rounds => descent levels rounds >>= (next · levels rounds))
      (parser >>= parserNext) :=
  fun tokens => (first tokens).bind fun {value rest} _ => second value rest

theorem Follows.bind_perform {next : α → Nat → Nat → Descent β} {parser : Parser α}
    {parserNext : α → Parser β} (leaves : parser.LeavesSuffix)
    (second : ∀ value, Follows limit need (next value) (parserNext value)) :
    Follows limit need (fun levels rounds => perform parser >>= (next · levels rounds))
      (parser >>= parserNext) :=
  (follows_perform leaves).bind second

theorem Follows.bind_look {next : List Token → Nat → Nat → Descent β}
    {parserNext : List Token → Parser β}
    (second : ∀ tokens, Follows limit need (next tokens) (parserNext tokens)) :
    Follows limit need (fun levels rounds => get >>= (next · levels rounds))
      (get >>= parserNext) :=
  Follows.bind_perform .look second

/-!
## Loops
-/

variable {stop : List Token → Bool} {round : α → Descent α} {parserRound : α → Parser α}

theorem endsLike_of_stop (ends : stop tokens = true) (rounds : Nat) (value : α) :
    EndsLike (repeatUntil stop round rounds value) (Parser.repeatUntil stop parserRound value)
      tokens [] := by
  intro depths
  rw [Parser.repeatUntil_of_stop ends, List.append_nil]
  cases rounds with
  | zero =>
      simp only [repeatUntil, look_bind, ends, if_true]
      rfl
  | succ rounds =>
      simp only [repeatUntil, look_bind, ends, if_true]
      rfl

/-- A loop that goes on is a round in front of a loop with one round less. -/
theorem EndsLike.of_goesOn {rounds : Nat} {value : α} {entered : List Nat}
    (ends : EndsLike (round value >>= repeatUntil stop round rounds)
      (parserRound value >>= Parser.repeatUntil stop parserRound) tokens entered)
    (stopsAtEnd : stop [] = true) (advances : ∀ value, Advances (parserRound value))
    (goesOn : stop tokens = false) :
    EndsLike (repeatUntil stop round (rounds + 1) value)
      (Parser.repeatUntil stop parserRound value) tokens entered := by
  intro depths
  have unfolded := Parser.repeatUntil_of_round stopsAtEnd advances goesOn value
  simp only [repeatUntil, look_bind, goesOn, Bool.false_eq_true, if_false, ends depths,
    Parser.bind_apply, unfolded]

/-- There are no more rounds than tokens, since every round reads something. -/
private theorem exists_entered_repeatUntil {rounds : Nat → Nat → α → Descent α}
    (stopsAtEnd : stop [] = true) (advances : ∀ value, Advances (parserRound value))
    (follows : ∀ value, Follows limit need (fun levels allowed => rounds levels allowed value)
      (parserRound value)) (tokens : List Token) (value : α) :
    ∃ entered : List Nat, (∀ depth ∈ entered, depth ≤ limit) ∧
      ∀ levels allowed left, need ≤ levels → tokens.length ≤ allowed → tokens.length ≤ left →
        EndsLike (repeatUntil stop (rounds levels allowed) left value)
          (Parser.repeatUntil stop parserRound value) tokens entered := by
  -- the rounds that are left shrink with the tokens, those allowed to inner loops do not
  induction length : tokens.length using Nat.strongRecOn generalizing tokens value with
  | ind size ih =>
      subst length
      cases ends : stop tokens with
      | true =>
          refine ⟨[], by simp, ?_⟩
          intro levels allowed left _ _ _
          exact endsLike_of_stop ends left value
      | false =>
          obtain ⟨_, entered, shallow, endsRound⟩ := follows value tokens
          have nonempty : 0 < tokens.length := by
            cases tokens with
            | nil => exact absurd stopsAtEnd (Bool.eq_false_iff.mp ends)
            | cons token others => exact Nat.succ_pos _
          have oneLess : ∀ left, tokens.length ≤ left → ∃ less, left = less + 1 := by
            intro left enough
            exact Nat.exists_eq_add_one.mpr (Nat.lt_of_lt_of_le nonempty enough)
          cases read : parserRound value tokens with
          | error failure =>
              refine ⟨entered, shallow, ?_⟩
              intro levels allowed left enoughLevels enoughRounds enoughLeft
              obtain ⟨left, rfl⟩ := oneLess left enoughLeft
              exact (endsRound levels allowed enoughLevels enoughRounds).bind_of_error read
                |>.of_goesOn stopsAtEnd advances ends
          | ok success =>
              obtain ⟨next, rest⟩ := success
              have shorter := advances value read
              obtain ⟨enteredThen, shallowThen, endsThen⟩ := ih rest.length shorter rest next rfl
              refine ⟨entered ++ enteredThen, List.forall_mem_append.mpr ⟨shallow, shallowThen⟩, ?_⟩
              intro levels allowed left enoughLevels enoughRounds enoughLeft
              obtain ⟨left, rfl⟩ := oneLess left enoughLeft
              have later := endsThen levels allowed left enoughLevels (by omega) (by omega)
              exact (endsRound levels allowed enoughLevels enoughRounds).bind_of_ok read later
                |>.of_goesOn stopsAtEnd advances ends

/-- A loop follows another one whose rounds it follows, if these read something. -/
theorem follows_repeatUntil {rounds : Nat → Nat → α → Descent α}
    (stopsAtEnd : stop [] = true) (advances : ∀ value, Advances (parserRound value))
    (follows : ∀ value, Follows limit need (fun levels allowed => rounds levels allowed value)
      (parserRound value)) (value : α) :
    Follows limit need
      (fun levels allowed => repeatUntil stop (rounds levels allowed) allowed value)
      (Parser.repeatUntil stop parserRound value) := by
  intro tokens
  constructor
  · intro last rest read
    have within := Parser.repeatUntil_invariant stopsAtEnd advances (fun _ left => left <:+ tokens)
      (fun _ isSuffix readRound => ((follows _ _).leaves _ _ readRound).trans isSuffix)
      List.suffix_rfl read
    exact within.1
  · obtain ⟨entered, shallow, ends⟩ :=
      exists_entered_repeatUntil stopsAtEnd advances follows tokens value
    refine ⟨entered, shallow, ?_⟩
    intro levels allowed enoughLevels enoughRounds
    exact ends levels allowed allowed enoughLevels enoughRounds enoughRounds

/-!
## Statements and blocks
-/

variable {inner : Nat → Nat → Descent Statement} {parserInner : Parser Statement}

theorem follows_conditional (follows : Follows limit need inner parserInner) :
    Follows limit need (fun levels rounds => conditional (inner levels rounds))
      (Parser.conditional parserInner) := by
  apply Follows.bind_perform (Parser.leavesSuffix_guarded .IF .THEN)
  intro guard
  apply follows.bind
  intro thenBlock
  apply Follows.bind_look
  intro behind
  cases startsWith .ELSE behind with
  | true =>
      apply Follows.bind_perform (Parser.leavesSuffix_keyword .ELSE)
      intro _
      apply follows.bind
      intro elseBlock
      apply Follows.bind_perform (Parser.leavesSuffix_closing .IF)
      intro _
      apply Follows.bind_perform (.build _ _)
      intro built
      exact follows_pure built.1
  | false =>
      apply Follows.bind_perform (Parser.leavesSuffix_closing .IF)
      intro _
      apply Follows.bind_perform (.build _ _)
      intro built
      exact follows_pure built.1

theorem follows_loop (follows : Follows limit need inner parserInner) :
    Follows limit need (fun levels rounds => loop (inner levels rounds))
      (Parser.loop parserInner) := by
  apply Follows.bind_perform (Parser.leavesSuffix_guarded .WHILE .DO)
  intro guard
  apply follows.bind
  intro body
  apply Follows.bind_perform (Parser.leavesSuffix_closing .WHILE)
  intro _
  apply Follows.bind_perform (.build _ _)
  intro built
  exact follows_pure built.1

theorem statementAt_cons (limit depth : Nat) (inner : Descent Statement) (token : Token)
    (others : List Token) (depths : List Nat) :
    statementAt limit depth inner (token :: others) depths =
      (match Opening.ofToken? token with
      | none => perform (Parser.refuse (.noStatement token.text token.line))
      | some .call => perform Parser.call
      | some .conditional =>
        if limit ≤ depth then perform (Parser.refuse (.tooDeep limit token.line))
        else conditional inner
      | some .loop =>
        if limit ≤ depth then perform (Parser.refuse (.tooDeep limit token.line))
        else loop inner) (token :: others) depths := by
  simp only [statementAt, look_bind, List.head?_cons]
  cases Opening.ofToken? token with
  | none => simp
  | some opening => cases opening <;> simp

/-- Beyond the limit a statement asks for no blocks. -/
theorem follows_statementAt_none (deep : limit ≤ depth) :
    Follows limit need (fun levels rounds => statementAt limit depth (inner levels rounds))
      (Parser.statementAround limit none) := by
  intro tokens
  cases tokens with
  | nil => exact (follows_perform (.refuse _) []).congr (fun _ _ _ => rfl) rfl
  | cons token others =>
      have parserSide := Parser.statementAround_cons limit none token others
      simp only [Parser.leadsTo, List.head?_cons, Option.bind_some] at parserSide
      have descentSide := fun levels rounds =>
        statementAt_cons limit depth (inner levels rounds) token others
      simp only [if_pos deep] at descentSide
      cases opens : Opening.ofToken? token with
      | none =>
          simp only [opens] at parserSide descentSide
          exact (follows_perform (.refuse _) _).congr descentSide parserSide
      | some opening =>
          simp only [opens] at parserSide descentSide
          cases opening with
          | call => exact (follows_perform Parser.leavesSuffix_call _).congr descentSide parserSide
          | conditional => exact (follows_perform (.refuse _) _).congr descentSide parserSide
          | loop => exact (follows_perform (.refuse _) _).congr descentSide parserSide

/-- Within the limit a statement follows one whose blocks it follows. -/
theorem follows_statementAt_some (fits : depth < limit) {narrower : Parser Statement}
    (follows : Follows limit need inner (blockWith narrower)) :
    Follows limit need (fun levels rounds => statementAt limit depth (inner levels rounds))
      (Parser.statementAround limit (some narrower)) := by
  intro tokens
  cases tokens with
  | nil => exact (follows_perform (.refuse _) []).congr (fun _ _ _ => rfl) rfl
  | cons token others =>
      have parserSide := Parser.statementAround_cons limit (some narrower) token others
      simp only [Parser.leadsTo, List.head?_cons, Option.bind_some] at parserSide
      have descentSide := fun levels rounds =>
        statementAt_cons limit depth (inner levels rounds) token others
      simp only [if_neg (Nat.not_le.mpr fits)] at descentSide
      cases opens : Opening.ofToken? token with
      | none =>
          simp only [opens] at parserSide descentSide
          exact (follows_perform (.refuse _) _).congr descentSide parserSide
      | some opening =>
          simp only [opens] at parserSide descentSide
          cases opening with
          | call => exact (follows_perform Parser.leavesSuffix_call _).congr descentSide parserSide
          | conditional => exact (follows_conditional follows _).congr descentSide parserSide
          | loop => exact (follows_loop follows _).congr descentSide parserSide

theorem follows_intoBlock {statement : Nat → Nat → Descent Statement}
    {parserStatement : Parser Statement} (follows : Follows limit need statement parserStatement)
    (before : Statement) :
    Follows limit need (fun levels rounds => intoBlock (statement levels rounds) before)
      (intoBlockEnd parserStatement before) := by
  have split : intoBlockEnd parserStatement before =
      parserStatement >>= fun child => intoBlockEnd (pure child) before := by
    simp only [intoBlockEnd, pure_bind]
  rw [split]
  apply follows.bind
  intro child
  exact follows_perform (Parser.leavesSuffix_intoBlockEnd (.pure child) before)

theorem follows_blockAt (fits : depth ≤ limit)
    (follows : Follows limit need
      (fun levels rounds => statementAt limit depth (blockAt limit rounds levels (depth + 1)))
      (statementWithin limit room)) :
    Follows limit (need + 1) (fun levels rounds => blockAt limit rounds levels depth)
      (blockWith (statementWithin limit room)) := by
  have reads := (Parser.readsFronts_statementWithin limit room).readsStatements
  have stopsAtEnd : endsBlock [] = true := rfl
  have grows := follows_repeatUntil stopsAtEnd (Parser.advances_intoBlockEnd reads)
    (follows_intoBlock follows) .empty
  rw [← Parser.blockGrown_eq_blockWith reads]
  intro tokens
  obtain ⟨leaves, entered, shallow, ends⟩ := grows tokens
  refine ⟨leaves, depth :: entered, List.forall_mem_cons.mpr ⟨fits, shallow⟩, ?_⟩
  intro levels rounds enoughLevels enoughRounds depths
  -- the block itself costs a level, what it asks for gets the others
  cases levels with
  | zero => cases enoughLevels
  | succ levels =>
      have grown := ends levels rounds (Nat.le_of_succ_le_succ enoughLevels) enoughRounds
        (depths ++ [depth])
      rw [List.append_assoc, List.singleton_append] at grown
      exact grown

/-- Each level takes away from the room for nesting what it adds to the depth. -/
theorem follows_statementWithin (limit : Nat) : ∀ {room depth : Nat}, limit - depth = room →
    Follows limit room
      (fun levels rounds => statementAt limit depth (blockAt limit rounds levels (depth + 1)))
      (statementWithin limit room) := by
  intro room
  induction room with
  | zero =>
      intro depth none
      exact follows_statementAt_none (Nat.le_of_sub_eq_zero none)
  | succ room ih =>
      intro depth some
      have lessRoom : limit - (depth + 1) = room := by omega
      exact follows_statementAt_some (by omega) (follows_blockAt (by omega) (ih lessRoom))

theorem follows_statement (requested : Nat) :
    Follows (nestingLimit requested) (nestingLimit requested + 1) (statement requested)
      (Parser.statement requested) :=
  (follows_statementWithin (nestingLimit requested) rfl).mono (Nat.le_succ _)

theorem follows_block (requested : Nat) :
    Follows (nestingLimit requested) (nestingLimit requested + 1) (block requested)
      (Parser.block requested) :=
  follows_blockAt (Nat.zero_le _) (follows_statementWithin (nestingLimit requested) rfl)

/-!
## Programs
-/

theorem follows_instruction (requested : Nat) :
    Follows (nestingLimit requested) (nestingLimit requested + 1) (instruction requested)
      (Parser.instruction requested) := by
  rw [Parser.instruction_eq]
  apply Follows.bind_perform (Parser.leavesSuffix_keyword .INSTRUCTION)
  intro _
  apply Follows.bind_perform Parser.leavesSuffix_definedName
  intro name
  apply Follows.bind_perform (Parser.leavesSuffix_keyword .IS)
  intro _
  apply (follows_block requested).bind
  intro body
  apply Follows.bind_perform (Parser.leavesSuffix_keyword .END)
  intro _
  apply Follows.bind_perform (Parser.leavesSuffix_closingName name.text)
  intro _
  exact follows_pure (name, body)

theorem follows_intoContext (requested : Nat) (context : Context) :
    Follows (nestingLimit requested) (nestingLimit requested + 1)
      (fun levels rounds => intoContext requested levels rounds context)
      (Parser.intoContext requested context) := by
  apply (follows_instruction requested).bind
  rintro ⟨name, body⟩
  by_cases taken : context.contains name.text
  · simpa only [if_pos taken] using follows_perform (.refuse _)
  · simpa only [if_neg taken] using follows_pure (context.insert name.text body)

theorem follows_definitions (requested : Nat) :
    Follows (nestingLimit requested) (nestingLimit requested + 1) (definitions requested)
      (Parser.definitions requested) :=
  follows_repeatUntil rfl (Parser.advances_intoContext requested)
    (follows_intoContext requested) NameMap.empty

theorem follows_program (requested : Nat) :
    Follows (nestingLimit requested) (nestingLimit requested + 1) (program requested)
      (Parser.program requested) := by
  rw [Parser.program_eq]
  apply Follows.bind_perform Parser.leavesSuffix_header?
  intro opened?
  apply (follows_definitions requested).bind
  intro context
  apply Follows.bind_perform (Parser.leavesSuffix_keyword .BEGIN)
  intro _
  apply (follows_block requested).bind
  intro body
  apply Follows.bind_perform (Parser.leavesSuffix_keyword .END)
  intro _
  apply Follows.bind_perform (Parser.leavesSuffix_programName opened?)
  intro name
  apply Follows.bind_perform Parser.leavesSuffix_endOfProgram
  intro _
  exact follows_perform (Parser.leavesSuffix_assemble name context body)

/-!
## All descents
-/

/-- The parsers enter blocks no deeper than the limit of nesting, so that one level more is enough
for all tokens, and more levels change nothing. Every statement that is read takes a token, so that
all loops end, after no more rounds than there are tokens; what is left is always an end of the
tokens. -/
theorem descents_end_within_limit :
    (∀ requested,
      Follows (min requested 1024) (min requested 1024 + 1) (statement requested)
        (Parser.statement requested) ∧
      Follows (min requested 1024) (min requested 1024 + 1) (block requested)
        (Parser.block requested) ∧
      Follows (min requested 1024) (min requested 1024 + 1) (program requested)
        (Parser.program requested)) ∧
    ∀ limit depth,
      Follows limit (limit - depth)
        (fun levels rounds => statementAt limit depth (blockAt limit rounds levels (depth + 1)))
        (statementWithin limit (limit - depth)) ∧
      Advances (statementWithin limit (limit - depth)) := by
  constructor
  · intro requested
    rw [← nestingLimit_eq]
    exact ⟨follows_statement requested, follows_block requested, follows_program requested⟩
  · intro limit depth
    refine ⟨follows_statementWithin limit rfl, ?_⟩
    exact (Parser.readsFronts_statementWithin limit (limit - depth)).readsStatements.advances

/-- A loop in a conditional in a block makes three blocks, each one level deeper than the one
around it, and needs as many levels. -/
example : let source := "IF random THEN WHILE true DO turnleft END WHILE END IF"
    (block 2 3 9 (tokenize source)).run [] =
      ((Parser.block 2 (tokenize source)).mapError .failed, [0, 1, 2]) ∧
    (block 2 2 9 (tokenize source)).run [] = (.error .exhausted, [0, 1]) := by
  cbv

end Descent

end BlockLanguage
