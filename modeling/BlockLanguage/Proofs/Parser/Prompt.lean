import BlockLanguage.Proofs.Parser.Run

/-!
# Prompt parsers

A prompt parser finds a fault as soon as it reads the token at fault, and what it reads depends on
nothing behind it but whether one certain token follows. So it has three outcomes: it reads a
front part of the tokens, it asks for more tokens than there are, or it finds a fault at a token,
no matter what comes behind.
-/

set_option autoImplicit false

namespace BlockLanguage

namespace Parser

open ParseError (PointsAt)
open Token (AllSound)

variable {α β : Type} {parser other : Parser α} {next : α → Parser β} {tokens rest : List Token}
  {value : α} {faults : Token → ParseError → Prop}

/-- The parser has nothing against the tokens and leaves none: it is done with them or asks for
more. -/
def Awaits (parser : Parser α) (tokens : List Token) : Prop :=
  (∃ value, parser tokens = .ok (value, [])) ∨
    ∃ expected, parser tokens = .error (.refused (.endOfInput expected))

/-- Whether tokens start like other ones, if there are any. -/
def StartLike (tokens model : List Token) : Prop :=
  tokens = [] ∨ tokens.head? = model.head?

/-- The outcomes of a prompt parser, which finds only certain faults at a token. -/
inductive PromptAt (faults : Token → ParseError → Prop) (parser : Parser α) :
    List Token → Prop where
  | reads (front : List Token) {rest : List Token} (value : α) :
      (∀ others, StartLike others rest → parser (front ++ others) = .ok (value, others)) →
      PromptAt faults parser (front ++ rest)
  | asks {tokens : List Token} (expected : Expectation) :
      parser tokens = .error (.refused (.endOfInput expected)) →
      PromptAt faults parser tokens
  | finds (front : List Token) {token behind error} : faults token error →
      Awaits parser front →
      (∀ others, parser (front ++ token :: others) = .error (.refused error)) →
      PromptAt faults parser (front ++ token :: behind)

/-- A parser that is prompt on all sound tokens. -/
def Prompt (faults : Token → ParseError → Prop) (parser : Parser α) : Prop :=
  ∀ ⦃tokens⦄, AllSound tokens → PromptAt faults parser tokens

theorem StartLike.refl (tokens : List Token) : StartLike tokens tokens :=
  .inr rfl

theorem StartLike.append {others model : List Token} (like : StartLike others model)
    (front : List Token) : StartLike (front ++ others) (front ++ model) := by
  cases front with
  | nil => exact like
  | cons token front => exact .inr rfl

theorem startLike_append (front rest : List Token) : StartLike front (front ++ rest) := by
  cases front with
  | nil => exact .inl rfl
  | cons token front => exact .inr rfl

theorem startLike_append_cons (front : List Token) (token : Token) (left right : List Token) :
    StartLike (front ++ token :: left) (front ++ token :: right) :=
  StartLike.append (Or.inr rfl : StartLike (token :: left) (token :: right)) front

theorem Awaits.of_eq {tokens others : List Token} {parser : Parser α} {other : Parser α}
    (awaits : Awaits other others) (same : parser tokens = other others) :
    Awaits parser tokens := by
  unfold Awaits
  rw [same]
  exact awaits

theorem Awaits.promptAt_nil (awaits : Awaits parser []) : PromptAt faults parser [] := by
  rcases awaits with ⟨value, ended⟩ | ⟨expected, asked⟩
  · refine .reads [] value fun others like => ?_
    have none : others = [] := by
      rcases like with none | same
      · exact none
      · simpa using same
    rw [none]
    exact ended
  · exact .asks expected asked

namespace PromptAt

theorem mono {weaker : Token → ParseError → Prop} (prompt : PromptAt faults parser tokens)
    (weakens : ∀ {token error}, faults token error → weaker token error) :
    PromptAt weaker parser tokens := by
  cases prompt with
  | reads front value reads => exact .reads front value reads
  | asks expected asked => exact .asks expected asked
  | finds front fault awaits stays => exact .finds front (weakens fault) awaits stays

/-- What is read is in front, whatever comes behind in the place of the rest. -/
theorem of_ok (prompt : PromptAt faults parser tokens) (read : parser tokens = .ok (value, rest)) :
    ∃ front, tokens = front ++ rest ∧
      ∀ others, StartLike others rest → parser (front ++ others) = .ok (value, others) := by
  cases prompt with
  | @reads front found _ reads =>
      have same := reads found (.refl found)
      rw [read] at same
      cases same
      exact ⟨front, rfl, reads⟩
  | asks expected asked =>
      rw [read] at asked
      cases asked
  | @finds front token behind _ _ _ stays =>
      have failed := stays behind
      rw [read] at failed
      cases failed

theorem of_error (prompt : PromptAt faults parser tokens) {failure : ParseFailure}
    (failed : parser tokens = .error failure) :
    (∃ expected, failure = .refused (.endOfInput expected)) ∨
      ∃ front token behind error, tokens = front ++ token :: behind ∧ failure = .refused error ∧
        faults token error ∧ Awaits parser front ∧
        ∀ others, parser (front ++ token :: others) = .error (.refused error) := by
  cases prompt with
  | @reads _ found _ reads =>
      have read := reads found (.refl found)
      rw [failed] at read
      cases read
  | asks expected asked =>
      rw [failed] at asked
      cases asked
      exact .inl ⟨_, rfl⟩
  | @finds front token behind error found awaits stays =>
      have same := stays behind
      rw [failed] at same
      cases same
      exact .inr ⟨front, token, behind, error, rfl, rfl, found, awaits, stays⟩

/-- Behind a rest that is left, more tokens are left as well. -/
theorem append_of_ok (prompt : PromptAt faults parser tokens)
    (read : parser tokens = .ok (value, rest)) (more : rest ≠ []) (others : List Token) :
    parser (tokens ++ others) = .ok (value, rest ++ others) := by
  obtain ⟨front, rfl, reads⟩ := prompt.of_ok read
  rw [List.append_assoc]
  obtain ⟨token, rest, rfl⟩ := List.exists_cons_of_ne_nil more
  exact reads _ (.inr rfl)

/-- An error stays, whatever follows, unless it asks for more. -/
theorem append_of_error (prompt : PromptAt faults parser tokens) {error : ParseError}
    (failed : parser tokens = .error (.refused error))
    (asksNothing : ∀ expected, error ≠ .endOfInput expected) (others : List Token) :
    parser (tokens ++ others) = .error (.refused error) := by
  rcases prompt.of_error failed with
    ⟨expected, same⟩ | ⟨front, token, behind, found, rfl, same, _, _, stays⟩
  · cases same
    exact absurd rfl (asksNothing expected)
  · cases same
    rw [List.append_assoc]
    exact stays (behind ++ others)

theorem awaits_nil (prompt : PromptAt faults parser []) : Awaits parser [] := by
  cases result : parser [] with
  | ok read =>
      obtain ⟨value, rest⟩ := read
      obtain ⟨front, split, _⟩ := prompt.of_ok result
      obtain ⟨_, rfl⟩ := List.append_eq_nil_iff.mp split.symm
      exact .inl ⟨value, result⟩
  | error failure =>
      rcases prompt.of_error result with ⟨expected, rfl⟩ | ⟨front, token, behind, _, split, _⟩
      · exact .inr ⟨expected, result⟩
      · simp at split

/-- One parser after the other is prompt. The second one may start behind any part of the tokens
that the first one reads. -/
theorem bind (first : PromptAt faults parser tokens)
    (second : ∀ {read value rest}, read <+: tokens → parser read = .ok (value, rest) →
      PromptAt faults (next value) rest) :
    PromptAt faults (parser >>= next) tokens := by
  cases first with
  | @reads front middle value reads =>
      have read := reads middle (.refl middle)
      cases second (List.prefix_refl _) read with
      | @reads inner _ result readsInner =>
          rw [← List.append_assoc]
          refine .reads (front ++ inner) result fun others like => ?_
          rw [List.append_assoc, bind_apply, reads _ (like.append inner)]
          exact readsInner others like
      | asks expected asked =>
          refine .asks expected ?_
          rw [bind_apply, read]
          exact asked
      | @finds inner token behind _ found awaits stays =>
          rw [← List.append_assoc]
          refine .finds (front ++ inner) found (awaits.of_eq ?_) fun others => ?_
          · rw [bind_apply, reads inner (startLike_append inner _)]
          · rw [List.append_assoc, bind_apply,
              reads _ (startLike_append_cons inner token others behind)]
            exact stays others
  | asks expected asked =>
      refine .asks expected ?_
      rw [bind_apply, asked]
  | finds front found awaits stays =>
      refine .finds front found ?_ fun others => by rw [bind_apply, stays]
      rcases awaits with ⟨value, ended⟩ | ⟨expected, asked⟩
      · refine (second (List.prefix_append _ _) ended).awaits_nil.of_eq ?_
        rw [bind_apply, ended]
      · refine .inr ⟨expected, ?_⟩
        rw [bind_apply, asked]

/-- A parser that goes on like another one, once it has seen the first token, is as prompt. -/
theorem of_head {token : Token} (prompt : PromptAt faults other (token :: rest))
    (agree : ∀ others, parser (token :: others) = other (token :: others))
    (awaits : Awaits parser [])
    (empty : ∀ {value}, other [] = .ok (value, []) → parser [] = .ok (value, [])) :
    PromptAt faults parser (token :: rest) := by
  generalize atHead : token :: rest = tokens at prompt ⊢
  cases prompt with
  | @reads front rest value reads =>
      refine .reads front value fun others like => ?_
      cases front with
      | nil =>
          obtain rfl : token :: _ = rest := atHead
          rcases like with rfl | same
          · exact empty (reads [] (.inl rfl))
          · cases others with
            | nil => cases same
            | cons first others =>
                cases same
                exact (agree others).trans (reads _ (.inr rfl))
      | cons first front =>
          cases atHead
          exact (agree _).trans (reads others like)
  | asks expected asked =>
      subst atHead
      exact .asks expected ((agree _).trans asked)
  | @finds front found behind error foundAt otherAwaits stays =>
      cases front with
      | nil =>
          cases atHead
          exact .finds [] foundAt awaits fun others => (agree others).trans (stays others)
      | cons first front =>
          cases atHead
          exact .finds (token :: front) foundAt (otherAwaits.of_eq (agree _)) fun others =>
            (agree _).trans (stays others)

end PromptAt

namespace Prompt

theorem pure (value : α) : Prompt faults (pure value) :=
  fun _ _ => .reads [] value fun _ _ => rfl

theorem bind (first : Prompt faults parser)
    (second : ∀ {tokens value rest}, AllSound tokens → parser tokens = .ok (value, rest) →
      Prompt faults (next value)) : Prompt faults (parser >>= next) := by
  intro tokens sound
  refine (first sound).bind fun {read value rest} inFront success => ?_
  have soundRead := sound.mono inFront.subset
  obtain ⟨front, rfl, _⟩ := (first soundRead).of_ok success
  exact second soundRead success (List.forall_mem_append.mp soundRead).2

end Prompt

/-- What a parser of single tokens does with a token. -/
inductive Decides (parser : Parser α) (token : Token) : Prop where
  | takes (value : α) : (∀ rest, parser (token :: rest) = .ok (value, rest)) → Decides parser token
  | rejects (error : ParseError) : error.PointsAt token →
      (∀ rest, parser (token :: rest) = .error (.refused error)) → Decides parser token

theorem Decides.promptAt {token : Token} (decides : Decides parser token)
    (awaits : Awaits parser []) (rest : List Token) :
    PromptAt PointsAt parser (token :: rest) := by
  cases decides with
  | takes value taken => exact .reads [token] value fun others _ => taken others
  | rejects error pointsAt rejected => exact .finds [] pointsAt awaits rejected

/-- A loop is prompt if its rounds are, as long as what they make keeps an invariant. -/
theorem prompt_repeatUntil {stop : List Token → Bool} {round : α → Parser α}
    (stopsAtEnd : stop [] = true)
    (byHead : ∀ token rest others, stop (token :: rest) = stop (token :: others))
    (advances : ∀ value, Advances (round value)) {invariant : α → Prop}
    (kept : ∀ {value tokens made rest}, invariant value → AllSound tokens →
      round value tokens = .ok (made, rest) → invariant made)
    (prompt : ∀ {value}, invariant value → Prompt faults (round value)) (holds : invariant value) :
    Prompt faults (repeatUntil stop round value) := by
  intro tokens sound
  have ended : ∀ value, repeatUntil stop round value [] = .ok (value, []) := fun value =>
    repeatUntil_of_stop stopsAtEnd round value
  -- a round reads any number of tokens, so the induction is on how many are left
  induction length : tokens.length using Nat.strongRecOn generalizing tokens value with
  | ind size ih =>
      subst length
      cases tokens with
      | nil => exact Awaits.promptAt_nil (.inl ⟨value, ended value⟩)
      | cons token rest =>
          cases goesOn : stop (token :: rest) with
          | true =>
              refine .reads [] value fun others like => ?_
              refine repeatUntil_of_stop ?_ round value
              rcases like with rfl | same
              · exact stopsAtEnd
              · cases others with
                | nil => exact stopsAtEnd
                | cons first others =>
                    cases same
                    exact (byHead token others rest).trans goesOn
          | false =>
              have further : PromptAt faults (round value >>= repeatUntil stop round)
                  (token :: rest) := by
                refine (prompt holds sound).bind fun {read made behind} inFront success => ?_
                have soundRead := sound.mono inFront.subset
                obtain ⟨front, rfl, _⟩ := (prompt holds soundRead).of_ok success
                have shorter := advances value success
                have bound := inFront.length_le
                exact ih behind.length (by omega) (kept holds soundRead success)
                  (List.forall_mem_append.mp soundRead).2 rfl
              refine further.of_head (fun others => ?_) (.inl ⟨value, ended value⟩) ?_
              · rw [repeatUntil_of_round stopsAtEnd advances
                  ((byHead token others rest).trans goesOn), bind_apply]
              · intro result success
                obtain ⟨_, _, success, _⟩ := bind_eq_ok_iff.mp success
                exact absurd (advances value success) (Nat.not_lt_zero _)

end Parser

end BlockLanguage
