import BlockLanguage.Proofs.Parser.ProgramOutcome
import BlockLanguage.Proofs.RoundTrip.Program

/-!
# Parsing under different limits of nesting

A parser with less room for nesting does what one with more room does, token by token, until it is
refused for lack of room. So a lower limit never changes a tree, a rest or an error other than
that one.
-/

set_option autoImplicit false

namespace BlockLanguage.Parser

variable {α β : Type} {limit : Nat} {tokens rest : List Token}

/-- The narrow parser does what the wide one does, unless it refuses to nest beyond the limit. -/
def AgreesWithin (limit : Nat) (narrow wide : Parser α) : Prop :=
  ∀ tokens, narrow tokens = wide tokens ∨
    ∃ line, narrow tokens = .error (.refused (.tooDeep limit line))

namespace AgreesWithin

theorem refl (parser : Parser α) : AgreesWithin limit parser parser :=
  fun _ => .inl rfl

theorem bind {narrow wide : Parser α} {narrowNext wideNext : α → Parser β}
    (first : AgreesWithin limit narrow wide)
    (second : ∀ value, AgreesWithin limit (narrowNext value) (wideNext value)) :
    AgreesWithin limit (narrow >>= narrowNext) (wide >>= wideNext) := by
  intro tokens
  rcases first tokens with agree | ⟨line, stopped⟩
  -- the second parsers start from the same value and rest
  · cases read : wide tokens with
    | ok success =>
        obtain ⟨value, rest⟩ := success
        simp only [bind_apply, agree, read]
        exact second value rest
    | error failure =>
        apply Or.inl
        simp only [bind_apply, agree, read]
  · apply Or.inr
    exact ⟨line, by simp only [bind_apply, stopped]⟩

theorem bind_same {narrowNext wideNext : α → Parser β} (parser : Parser α)
    (next : ∀ value, AgreesWithin limit (narrowNext value) (wideNext value)) :
    AgreesWithin limit (parser >>= narrowNext) (parser >>= wideNext) :=
  (refl parser).bind next

theorem bind_read {narrow wide : Parser α} (agrees : AgreesWithin limit narrow wide)
    (next : α → Parser β) : AgreesWithin limit (narrow >>= next) (wide >>= next) :=
  agrees.bind fun value => refl (next value)

/-- Loops agree as far as their rounds do: they are allowed equally many rounds. -/
theorem repeatUntil {narrowRound wideRound : α → Parser α} (stop : List Token → Bool)
    (rounds : ∀ value, AgreesWithin limit (narrowRound value) (wideRound value)) (value : α) :
    AgreesWithin limit (repeatUntil stop narrowRound value)
      (Parser.repeatUntil stop wideRound value) := by
  have within : ∀ allowance value tokens,
      repeatWithin stop narrowRound value tokens allowance =
          repeatWithin stop wideRound value tokens allowance ∨
        ∃ line, repeatWithin stop narrowRound value tokens allowance =
          .error (.refused (.tooDeep limit line)) := by
    -- both loops spend one allowance, so they are compared round by round
    intro allowance
    induction allowance with
    | nil => exact fun _ _ => .inl rfl
    | cons _ allowance ih =>
        intro value tokens
        cases ends : stop tokens with
        | true => simp [repeatWithin, ends]
        | false =>
            rcases rounds value tokens with agree | ⟨line, stopped⟩
            · cases read : wideRound value tokens with
              | ok success =>
                  obtain ⟨next, rest⟩ := success
                  simpa [repeatWithin, ends, agree, read] using ih next rest
              | error failure => simp [repeatWithin, ends, agree, read]
            · apply Or.inr
              exact ⟨line, by simp [repeatWithin, ends, stopped]⟩
  exact fun tokens => within tokens value tokens

end AgreesWithin

open AgreesWithin (bind_same bind_read)

/-!
## Statements and blocks
-/

variable {narrow wide : Parser Statement}

theorem agreesWithin_blockWith (agrees : AgreesWithin limit narrow wide) :
    AgreesWithin limit (blockWith narrow) (blockWith wide) := by
  apply bind_read
  apply AgreesWithin.repeatUntil
  intro before
  exact agrees.bind_read _

theorem agreesWithin_conditional (agrees : AgreesWithin limit narrow wide) :
    AgreesWithin limit (conditional narrow) (conditional wide) := by
  apply bind_same
  intro guard
  apply agrees.bind
  intro thenBlock
  apply bind_same
  intro behind
  cases startsWith .ELSE behind with
  | true =>
      apply bind_same
      intro _
      exact agrees.bind_read _
  | false => exact .refl _

theorem agreesWithin_loop (agrees : AgreesWithin limit narrow wide) :
    AgreesWithin limit (loop narrow) (loop wide) := by
  apply bind_same
  intro guard
  exact agrees.bind_read _

/-- Where the narrow parser has no room left, it refuses whatever the wide one would nest. -/
theorem agreesWithin_statementAround_none (limit other : Nat) (inner : Parser Statement) :
    AgreesWithin limit (statementAround limit none) (statementAround other (some inner)) := by
  intro tokens
  cases tokens with
  | nil => exact .inl rfl
  | cons token others =>
      simp only [statementAround_cons]
      cases leadsTo (token :: others) with
      | none => exact .inl rfl
      | some opening =>
          cases opening with
          | call => exact .inl rfl
          | conditional => exact .inr ⟨token.line, rfl⟩
          | loop => exact .inr ⟨token.line, rfl⟩

theorem agreesWithin_statementAround_some (agrees : AgreesWithin limit narrow wide)
    (other : Nat) :
    AgreesWithin limit (statementAround limit (some narrow))
      (statementAround other (some wide)) := by
  have blocks := agreesWithin_blockWith agrees
  intro tokens
  cases tokens with
  | nil => exact .inl rfl
  | cons token others =>
      simp only [statementAround_cons]
      cases leadsTo (token :: others) with
      | none => exact .inl rfl
      | some opening =>
          cases opening with
          | call => exact .inl rfl
          | conditional => exact agreesWithin_conditional blocks (token :: others)
          | loop => exact agreesWithin_loop blocks (token :: others)

theorem agreesWithin_statementWithin (limit other room extra : Nat) :
    AgreesWithin limit (statementWithin limit room)
      (statementWithin other (room + (extra + 1))) := by
  induction room with
  | zero =>
      rw [Nat.zero_add]
      exact agreesWithin_statementAround_none limit other (statementWithin other extra)
  | succ room ih =>
      rw [Nat.add_right_comm]
      exact agreesWithin_statementAround_some ih other

/-- The limit in force grows with the limit that is asked for. -/
theorem nestingLimit_mono {requested other : Nat} (grows : requested ≤ other) :
    nestingLimit requested ≤ nestingLimit other := by
  simp only [nestingLimit]
  omega

variable {requested other : Nat}

theorem agreesWithin_statement (grows : requested ≤ other) :
    AgreesWithin (nestingLimit requested) (statement requested) (statement other) := by
  unfold statement
  rcases Nat.eq_or_lt_of_le (nestingLimit_mono grows) with same | less
  · rw [same]
    exact .refl _
  · obtain ⟨extra, sum⟩ := Nat.exists_eq_add_of_lt less
    rw [Nat.add_assoc] at sum
    rw [sum]
    exact agreesWithin_statementWithin _ _ _ extra

theorem agreesWithin_block (grows : requested ≤ other) :
    AgreesWithin (nestingLimit requested) (block requested) (block other) :=
  agreesWithin_blockWith (agreesWithin_statement grows)

/-!
## Programs
-/

theorem agreesWithin_instruction (grows : requested ≤ other) :
    AgreesWithin (nestingLimit requested) (instruction requested) (instruction other) := by
  simp only [instruction_eq]
  apply bind_same
  intro _
  apply bind_same
  intro name
  apply bind_same
  intro _
  exact (agreesWithin_block grows).bind_read _

/-- Each definition starts with all the room there is, so that their loops agree as well. -/
theorem agreesWithin_definitions (grows : requested ≤ other) :
    AgreesWithin (nestingLimit requested) (definitions requested) (definitions other) := by
  apply AgreesWithin.repeatUntil
  intro context
  exact (agreesWithin_instruction grows).bind_read _

theorem agreesWithin_program (grows : requested ≤ other) :
    AgreesWithin (nestingLimit requested) (program requested) (program other) := by
  simp only [program_eq]
  apply bind_same
  intro opened?
  apply (agreesWithin_definitions grows).bind
  intro context
  apply bind_same
  intro _
  exact (agreesWithin_block grows).bind_read _

/-- What is read as a program can be read under every limit that it nests within. -/
theorem program_of_nesting_le {made : Program}
    (read : program other tokens = .ok (made, rest))
    (fits : made.nesting ≤ nestingLimit requested) :
    program requested tokens = .ok (made, rest) := by
  obtain ⟨ended, opened?, listed, makesUp, fit⟩ := program_eq_ok_iff.mp read
  obtain ⟨contextFits, bodyFits⟩ := Program.nesting_le_iff.mp fits
  have admissible : ∀ definition ∈ listed,
      AdmissibleDefinition (nestingLimit requested) definition := by
    intro definition member
    have isEntry : definition ∈ made.context.entries := by
      rw [makesUp.context]
      exact (NameMap.mem_entries_ofList_iff makesUp.distinct).mpr member
    obtain ⟨isName, isBody, _⟩ := makesUp.admissible definition member
    exact ⟨isName, isBody, contextFits definition isEntry⟩
  apply program_eq_ok_iff.mpr
  exact ⟨ended, opened?, listed,
    { makesUp with admissible := admissible, nesting := bodyFits }, fit⟩

theorem nesting_le_of_program {made : Program}
    (read : program requested tokens = .ok (made, rest)) :
    made.nesting ≤ nestingLimit requested := by
  obtain ⟨_, _, _, makesUp, _⟩ := program_eq_ok_iff.mp read
  exact makesUp.nesting_le

/-!
## All parsers
-/

/-- What a limit of nesting does to a parser: a lower limit than another one only refuses to nest,
what is read under one limit is read under another exactly if it nests within that limit, and
no limit is higher than the greatest one, which is 1024. -/
structure LimitOnlyRefuses (parser : Nat → Parser α) (nesting : α → Nat) : Prop where
  agrees : ∀ {requested other}, requested ≤ other →
    AgreesWithin (min requested 1024) (parser requested) (parser other)
  reads : ∀ {requested other tokens value rest}, parser other tokens = .ok (value, rest) →
    (parser requested tokens = .ok (value, rest) ↔ nesting value ≤ min requested 1024)
  clamped : ∀ {requested}, 1024 ≤ requested → parser requested = parser 1024

theorem nestingLimit_of_maximal_le (beyond : 1024 ≤ requested) :
    nestingLimit requested = nestingLimit 1024 := by
  simp only [nestingLimit_eq]
  omega

theorem statement_of_maximal_le (beyond : 1024 ≤ requested) :
    statement requested = statement 1024 := by
  simp only [statement, nestingLimit_of_maximal_le beyond]

theorem block_of_maximal_le (beyond : 1024 ≤ requested) :
    block requested = block 1024 := by
  simp only [block, statement_of_maximal_le beyond]

theorem program_of_maximal_le (beyond : 1024 ≤ requested) :
    program requested = program 1024 := by
  have sameInstruction : instruction requested = instruction 1024 := by
    simp only [instruction_eq, block_of_maximal_le beyond]
  have sameRound : intoContext requested = intoContext 1024 := by
    funext context
    simp only [intoContext, sameInstruction]
  simp only [program_eq, definitions, sameRound, block_of_maximal_le beyond]

/-- The limit of nesting of the parsers of statements, blocks and programs only ever turns a
result into a refusal to nest beyond it, and does so exactly where the result nests too deeply.
The bodies of a program are counted each by itself. -/
theorem limits_only_refuse :
    LimitOnlyRefuses statement Statement.nesting ∧ LimitOnlyRefuses block Statement.nesting ∧
      LimitOnlyRefuses program Program.nesting := by
  refine ⟨⟨agreesWithin_statement, ?_, statement_of_maximal_le⟩,
    ⟨agreesWithin_block, ?_, block_of_maximal_le⟩,
    ⟨agreesWithin_program, ?_, program_of_maximal_le⟩⟩
  · intro requested other tokens child rest read
    have front := statement_eq_ok_iff.mp read
    rw [statement_eq_ok_iff]
    exact ⟨fun less => less.nesting, fun fits => { front with nesting := fits }⟩
  · intro requested other tokens body rest read
    have front := block_eq_ok_iff.mp read
    rw [block_eq_ok_iff]
    exact ⟨fun less => less.nesting, fun fits => { front with nesting := fits }⟩
  · intro requested other tokens made rest read
    exact ⟨nesting_le_of_program, program_of_nesting_le read⟩

/-- A conditional in a definition and a loop in the main body need one level, and another level
changes nothing. -/
theorem limits_only_refuse_levelForEach :
    let tokens := tokenize ("INSTRUCTION step IS IF random THEN END IF END step\n" ++
      "BEGIN WHILE true DO step END WHILE END Walk")
    let step : Statement := .block [.ifThen .random .empty]
    let body : Statement := .block [.loop .always (.block [.call "step"])]
    let made : Program := ⟨"Walk", ⟨[("step", step)], by decide⟩, body⟩
    program 1 tokens = .ok (made, []) ∧ program 2 tokens = .ok (made, []) ∧
      (∃ line, program 0 tokens = .error (.refused (.tooDeep 0 line))) ∧
      program 5000 tokens = program 1024 tokens := by
  intro tokens step body made
  have read : program 1 tokens = .ok (made, []) := by
    decide +kernel
  obtain ⟨_, _, onPrograms⟩ := limits_only_refuse
  have wider : program 2 tokens = .ok (made, []) := (onPrograms.reads read).mpr (by decide)
  have narrower : program 0 tokens ≠ .ok (made, []) :=
    mt (onPrograms.reads read).mp (by decide)
  have refused : ∃ line, program 0 tokens = .error (.refused (.tooDeep 0 line)) := by
    rcases onPrograms.agrees (Nat.zero_le 1) tokens with agree | refused
    · exact absurd (agree.trans read) narrower
    · exact refused
  exact ⟨read, wider, refused, congrFun (onPrograms.clamped (by decide)) tokens⟩

end BlockLanguage.Parser
