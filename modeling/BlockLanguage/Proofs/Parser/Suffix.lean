import BlockLanguage.Proofs.Parser.Safety

/-!
# What parsers leave

The parsers of single tokens, and those that are put together from them, read tokens from the front
and leave the others as they are.
-/

set_option autoImplicit false

namespace BlockLanguage.Parser

variable {α β σ : Type}

/-- What the parser leaves of the tokens stands at their end. -/
def LeavesSuffix (parser : Parser α) : Prop :=
  ∀ ⦃tokens value rest⦄, parser tokens = .ok (value, rest) → rest <:+ tokens

namespace LeavesSuffix

theorem pure (value : α) : LeavesSuffix (pure value) := by
  intro tokens value rest read
  cases read
  exact List.suffix_rfl

theorem refuse (error : ParseError) : LeavesSuffix (refuse error : Parser α) := by
  intro tokens value rest read
  cases read

theorem look : LeavesSuffix (get : Parser (List Token)) := by
  intro tokens value rest read
  cases read
  exact List.suffix_rfl

theorem build (edit : Edit σ α) (value : σ) : LeavesSuffix (build edit value) := by
  intro tokens made rest read
  obtain ⟨_, rfl⟩ := build_eq_ok_iff.mp read
  exact List.suffix_rfl

theorem bind {parser : Parser α} {next : α → Parser β} (first : LeavesSuffix parser)
    (second : ∀ value, LeavesSuffix (next value)) : LeavesSuffix (parser >>= next) := by
  intro tokens result rest read
  obtain ⟨value, middle, readFirst, readSecond⟩ := bind_eq_ok_iff.mp read
  exact (second value readSecond).trans (first readFirst)

end LeavesSuffix

theorem leavesSuffix_ofClass (expected : TokenClass) : LeavesSuffix (ofClass expected) := by
  intro tokens token rest read
  obtain ⟨_, rfl⟩ := ofClass_eq_ok_iff.mp read
  exact List.suffix_cons token rest

theorem leavesSuffix_keyword (expected : Keyword) : LeavesSuffix (keyword expected) := by
  intro tokens _ rest read
  obtain ⟨token, _, rfl⟩ := keyword_eq_ok_iff.mp read
  exact List.suffix_cons token rest

theorem leavesSuffix_condition : LeavesSuffix condition := by
  apply (leavesSuffix_ofClass .condition).bind
  intro token
  cases Condition.ofSpelling? token.text with
  | some guard => exact .pure guard
  | none => exact .refuse _

theorem leavesSuffix_call : LeavesSuffix call :=
  (leavesSuffix_ofClass .identifier).bind fun _ => .build _ _

theorem leavesSuffix_guarded (opener divider : Keyword) :
    LeavesSuffix (guarded opener divider) := by
  apply (leavesSuffix_keyword opener).bind
  intro _
  apply leavesSuffix_condition.bind
  intro guard
  exact (leavesSuffix_keyword divider).bind fun _ => .pure guard

theorem leavesSuffix_closing (opener : Keyword) : LeavesSuffix (closing opener) :=
  (leavesSuffix_keyword .END).bind fun _ => leavesSuffix_keyword opener

theorem leavesSuffix_intoBlockEnd {statement : Parser Statement}
    (leaves : LeavesSuffix statement) (before : Statement) :
    LeavesSuffix (intoBlockEnd statement before) := by
  apply leaves.bind
  intro child
  cases Statement.childCount.result before with
  | ok count => exact (LeavesSuffix.build _ _).bind fun _ => .pure _
  | error violation =>
      intro tokens grown rest read
      cases read

theorem leavesSuffix_closingName (opened : String) : LeavesSuffix (closingName opened) := by
  apply (leavesSuffix_ofClass .identifier).bind
  intro token
  by_cases same : token.text = opened
  · simpa only [if_pos same] using LeavesSuffix.pure ()
  · simpa only [if_neg same] using LeavesSuffix.refuse _

theorem leavesSuffix_definedName : LeavesSuffix definedName := by
  apply (leavesSuffix_ofClass .identifier).bind
  intro token
  cases isPrimitive token.text with
  | true => exact (LeavesSuffix.refuse _).bind fun _ => .pure _
  | false => exact .pure _

theorem leavesSuffix_header? : LeavesSuffix header? :=
  fun _ _ _ read => isSuffix_of_header? read

theorem leavesSuffix_programName (opened? : Option String) :
    LeavesSuffix (programName opened?) := by
  cases opened? with
  | some opened => exact (leavesSuffix_closingName opened).bind fun _ => .pure opened
  | none => exact (leavesSuffix_ofClass .identifier).bind fun _ => .pure _

theorem leavesSuffix_endOfProgram : LeavesSuffix endOfProgram := by
  apply LeavesSuffix.look.bind
  intro tokens
  cases tokens with
  | nil => exact .pure ()
  | cons token others => exact .refuse _

theorem leavesSuffix_assemble (name : String) (context : Context) (body : Statement) :
    LeavesSuffix (assemble name context body) := by
  intro tokens made rest read
  obtain ⟨_, _, _, _, rfl⟩ := assemble_eq_ok_iff.mp read
  exact List.suffix_rfl

end BlockLanguage.Parser
