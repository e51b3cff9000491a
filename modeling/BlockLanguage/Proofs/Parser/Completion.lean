import BlockLanguage.Proofs.Parser.Prompt

/-!
# Completing tokens

Where an orderly parser asks for more tokens, there are some that it takes up to their end. Parsers
that do not look behind what they read can be put in front of any orderly parser; others only
where what completes the second parser lets the first one end.
-/

set_option autoImplicit false

namespace BlockLanguage.Parser

open ParseError (PointsAt)
open Token (AllSound)

variable {α β : Type} {parser : Parser α} {next : α → Parser β} {tokens rest : List Token}
  {value : α} {faults : Token → ParseError → Prop}

/-- The parser takes some sound tokens up to their end. -/
def Succeeds (parser : Parser α) : Prop :=
  ∃ others value, AllSound others ∧ parser others = .ok (value, [])

/-- If the parser asks for more, there are some that it takes up to their end. -/
def CompletableAt (parser : Parser α) (tokens : List Token) : Prop :=
  ∀ ⦃expected⦄, parser tokens = .error (.refused (.endOfInput expected)) →
    ∃ others value, AllSound others ∧ parser (tokens ++ others) = .ok (value, [])

/-- Sound tokens that end too early can be completed. -/
def Completable (parser : Parser α) : Prop :=
  ∀ ⦃tokens⦄, AllSound tokens → CompletableAt parser tokens

/-- What is read does not depend on what comes behind. -/
def Closed (parser : Parser α) : Prop :=
  ∀ ⦃tokens value rest⦄, parser tokens = .ok (value, rest) →
    ∃ front, tokens = front ++ rest ∧ ∀ others, parser (front ++ others) = .ok (value, others)

structure Orderly (parser : Parser α) : Prop where
  prompt : Prompt PointsAt parser
  completable : Completable parser

theorem Closed.pure (value : α) : Closed (pure value) := by
  intro tokens found rest read
  cases read
  exact ⟨[], rfl, fun _ => rfl⟩

theorem Closed.append (closed : Closed parser) (read : parser tokens = .ok (value, rest))
    (others : List Token) : parser (tokens ++ others) = .ok (value, rest ++ others) := by
  obtain ⟨front, rfl, reads⟩ := closed read
  rw [List.append_assoc]
  exact reads (rest ++ others)

theorem Closed.bind (first : Closed parser) (second : ∀ value, Closed (next value)) :
    Closed (parser >>= next) := by
  intro tokens result rest success
  obtain ⟨value, middle, read, readNext⟩ := bind_eq_ok_iff.mp success
  obtain ⟨front, rfl, reads⟩ := first read
  obtain ⟨inner, rfl, readsNext⟩ := second value readNext
  refine ⟨front ++ inner, (List.append_assoc _ _ _).symm, fun others => ?_⟩
  rw [List.append_assoc]
  exact bind_eq_ok_iff.mpr ⟨value, inner ++ others, reads _, readsNext others⟩

theorem Closed.of_reads (exact : ∀ value, ∃ shapes, Reads parser value shapes) :
    Closed parser := by
  intro tokens value rest read
  obtain ⟨shapes, reads⟩ := exact value
  obtain ⟨front, fit, same⟩ := (reads _ _).mp read
  exact ⟨front, same, fun others => (reads _ _).mpr ⟨front, fit, rfl⟩⟩

/-- A closed parser asks for more tokens up to the last one that it reads. -/
theorem Closed.exists_last (closed : Closed parser) (advances : Advances parser)
    (prompt : Prompt faults parser) (sound : AllSound tokens)
    (read : parser tokens = .ok (value, rest)) :
    ∃ before last, tokens = before ++ last :: rest ∧
      (∃ expected, parser before = .error (.refused (.endOfInput expected))) ∧
      ∀ others, parser (before ++ last :: others) = .ok (value, others) := by
  obtain ⟨front, rfl, reads⟩ := closed read
  rcases List.eq_nil_or_concat front with rfl | ⟨before, last, rfl⟩
  · exact absurd (advances read) (Nat.lt_irrefl _)
  · simp only [List.concat_eq_append, List.append_assoc, List.singleton_append] at *
    refine ⟨before, last, rfl, ?_, reads⟩
    cases result : parser before with
    | ok early =>
        obtain ⟨other, left⟩ := early
        have longer := closed.append result [last]
        rw [reads []] at longer
        simp at longer
    | error failure =>
        rcases (prompt (List.forall_mem_append.mp sound).1).of_error result with
          ⟨expected, rfl⟩ | ⟨inner, found, behind, error, rfl, _, _, _, stays⟩
        · exact ⟨expected, rfl⟩
        · have failed := stays (behind ++ [last])
          rw [← List.cons_append, ← List.append_assoc, reads []] at failed
          cases failed

namespace Orderly

theorem succeeds (orderly : Orderly parser) : Succeeds parser := by
  have none : AllSound [] := List.forall_mem_nil _
  rcases (orderly.prompt none).awaits_nil with ⟨value, ended⟩ | ⟨expected, asked⟩
  · exact ⟨[], value, none, ended⟩
  · exact orderly.completable none asked

theorem pure (value : α) : Orderly (pure value) :=
  ⟨.pure value, fun _ _ _ asked => nomatch asked⟩

/-- One parser after the other is orderly if, where the first one reads all tokens, some tokens
let it end and are taken by the second one. -/
theorem bind (first : Orderly parser)
    (second : ∀ {tokens value rest}, AllSound tokens → parser tokens = .ok (value, rest) →
      Orderly (next value))
    (goesOn : ∀ {tokens value}, AllSound tokens → parser tokens = .ok (value, []) →
      ∃ others result, AllSound others ∧ parser (tokens ++ others) = .ok (value, others) ∧
        next value others = .ok (result, [])) :
    Orderly (parser >>= next) := by
  refine ⟨first.prompt.bind fun sound read => (second sound read).prompt, ?_⟩
  intro tokens sound expected asked
  rw [bind_apply] at asked
  cases read : parser tokens with
  | error failure =>
      rw [read] at asked
      cases asked
      obtain ⟨others, value, soundOthers, completed⟩ := first.completable sound read
      have soundAll := List.forall_mem_append.mpr ⟨sound, soundOthers⟩
      obtain ⟨further, result, soundFurther, reads, finished⟩ := goesOn soundAll completed
      refine ⟨others ++ further, result, List.forall_mem_append.mpr ⟨soundOthers, soundFurther⟩,
        ?_⟩
      rw [← List.append_assoc]
      exact bind_eq_ok_iff.mpr ⟨value, further, reads, finished⟩
  | ok success =>
      obtain ⟨value, rest⟩ := success
      rw [read] at asked
      cases rest with
      | nil =>
          obtain ⟨others, result, soundOthers, reads, finished⟩ := goesOn sound read
          exact ⟨others, result, soundOthers, bind_eq_ok_iff.mpr ⟨value, others, reads, finished⟩⟩
      | cons token rest =>
          obtain ⟨front, rfl, reads⟩ := (first.prompt sound).of_ok read
          obtain ⟨others, result, soundOthers, finished⟩ := (second sound read).completable
            (List.forall_mem_append.mp sound).2 asked
          refine ⟨others, result, soundOthers, ?_⟩
          rw [List.append_assoc]
          exact bind_eq_ok_iff.mpr ⟨value, _, reads _ (.inr rfl), finished⟩

theorem bind_closed (first : Orderly parser) (closed : Closed parser)
    (second : ∀ {tokens value rest}, AllSound tokens → parser tokens = .ok (value, rest) →
      Orderly (next value)) : Orderly (parser >>= next) := by
  refine first.bind second fun {tokens value} sound read => ?_
  obtain ⟨others, result, soundOthers, finished⟩ := (second sound read).succeeds
  exact ⟨others, result, soundOthers, closed.append read others, finished⟩

/-- A parser is orderly if it decides on the first token or leaves the decision to an orderly
parser. -/
theorem of_heads (awaits : Awaits parser []) (succeeds : Succeeds parser)
    (heads : ∀ token, token.Sound → Decides parser token ∨
      ∃ other : Parser α, Orderly other ∧
        (∀ others, parser (token :: others) = other (token :: others)) ∧
        ∀ {value}, other [] = .ok (value, []) → parser [] = .ok (value, [])) :
    Orderly parser := by
  constructor
  · intro tokens sound
    cases tokens with
    | nil => exact awaits.promptAt_nil
    | cons token rest =>
        rcases heads token (sound token List.mem_cons_self) with
          decides | ⟨other, orderly, agree, empty⟩
        · exact decides.promptAt awaits rest
        · exact (orderly.prompt sound).of_head agree awaits empty
  · intro tokens sound expected asked
    cases tokens with
    | nil => exact succeeds
    | cons token rest =>
        rcases heads token (sound token List.mem_cons_self) with
          decides | ⟨other, orderly, agree, _⟩
        · cases decides with
          | takes value taken => cases (taken rest).symm.trans asked
          | rejects error pointsAt rejected =>
              cases (rejected rest).symm.trans asked
              cases pointsAt
        · obtain ⟨others, value, soundOthers, finished⟩ :=
            orderly.completable sound ((agree rest).symm.trans asked)
          exact ⟨others, value, soundOthers, (agree _).trans finished⟩

end Orderly

end BlockLanguage.Parser
