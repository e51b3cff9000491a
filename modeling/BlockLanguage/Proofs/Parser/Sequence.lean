import BlockLanguage.Proofs.Parser.LineChange
import BlockLanguage.Proofs.Token.Spacing

/-!
# Blocks one behind the other

No statement looks behind its own last token. Where tokens make a block up to their end, more
tokens behind them are therefore read like a block of their own, and what is read goes to the
statements that are there already. With a gap between two source texts, the same is true of the
texts; only the lines of the second one are counted on from the first.
-/

set_option autoImplicit false

namespace BlockLanguage

open Lexer (EndsWord tokensFrom)
open Spaced (IsGap)

/-- The block with more statements in front. -/
def Statement.behind (before : List Statement) : Statement → Statement
  | block children => block (before ++ children)
  | other => other

theorem Statement.behind_nil (body : Statement) : body.behind [] = body := by
  cases body <;> rfl

namespace Parser

variable {room requested : Nat} {statement : Parser Statement} {tokens rest : List Token}
  {child : Statement} {children : List Statement}

/-!
## Tokens
-/

theorem withFirst_behind (first : Statement) (others : List Statement) (body : Statement) :
    withFirst first (body.behind others) = body.behind (first :: others) := by
  cases body <;> rfl

theorem StatementFront.append (front : StatementFront room tokens child rest)
    (others : List Token) : StatementFront room (tokens ++ others) child (rest ++ others) := by
  obtain ⟨kind, wellFormed, nesting, leading, fit, rfl⟩ := front
  exact ⟨kind, wellFormed, nesting, leading, fit, List.append_assoc _ _ _⟩

/-- The rounds of the loop over the first tokens are those of the tree that they make, and then
the loop stands in front of the other tokens. -/
theorem blockWith_append (exact : ReadsFronts room statement)
    (read : blockWith statement tokens = .ok (.block children, [])) (others : List Token) :
    blockWith statement (tokens ++ others) =
      (blockWith statement others).map (Prod.map (Statement.behind children) id) := by
  have front := (blockWith_eq_ok_iff exact).mp read
  clear read
  induction children generalizing tokens with
  | nil =>
      obtain ⟨rfl, _⟩ := blockFront_nil_iff.mp front
      rw [List.nil_append]
      cases blockWith statement others with
      | error failure => rfl
      | ok success => simp [Except.map, Prod.map, Statement.behind_nil]
  | cons child children ih =>
      obtain ⟨middle, first, later⟩ := blockFront_cons_iff.mp front
      have further := first.append others
      have read := (exact _ _ _).mpr further
      rw [blockWith_of_ok exact.readsStatements further.goesOn read, ih later]
      cases blockWith statement others with
      | error failure => rfl
      | ok success => simp [Except.map, Prod.map, withFirst_behind]

theorem block_append (read : block requested tokens = .ok (.block children, []))
    (others : List Token) :
    block requested (tokens ++ others) =
      (block requested others).map (Prod.map (Statement.behind children) id) :=
  blockWith_append (readsFronts_statementWithin _ _) read others

end Parser

/-!
## Source texts
-/

theorem tokensFrom_add (line lines : Nat) (text : List Char) :
    tokensFrom (line + lines) text = (tokensFrom line text).map (Token.moved (· + lines)) := by
  induction text using Lexer.text_induct generalizing line with
  | nil => simp
  | blank first rest blank ih =>
      simp only [Lexer.tokensFrom_blank blank, Nat.add_right_comm line lines, ih]
  | word word rest isWord ends ih =>
      simp only [Lexer.tokensFrom_word isWord ends, ih, List.map_cons, Token.moved]
  | mark first rest noBlank noLetter ih =>
      simp only [Lexer.tokensFrom_mark noBlank noLetter, ih, List.map_cons, Token.moved]

/-- A gap keeps the tokens of two texts apart, whatever stands at either side of it. -/
theorem tokenize_append_gap (source others : String) {gap : String} (isGap : IsGap gap)
    (nonempty : gap ≠ "") :
    tokenize (source ++ gap ++ others) =
      tokenize source ++
        (tokenize others).map (Token.moved (· + (source ++ gap).toList.count '\n')) := by
  cases blanks : gap.toList with
  | nil => exact absurd (String.toList_eq_nil_iff.mp blanks) nonempty
  | cons first later =>
      have allBlank : ∀ character ∈ first :: later, Text.isBlank character = true := by
        intro character member
        exact isGap character (blanks ▸ member)
      obtain ⟨firstBlank, laterBlank⟩ := List.forall_mem_cons.mp allBlank
      have layout : (source ++ gap ++ others).toList =
          source.toList ++ first :: (later ++ others.toList) := by
        simp [blanks]
      have lines : (source.toList ++ [first]).count '\n' + later.count '\n' =
          (source ++ gap).toList.count '\n' := by
        rw [← List.count_append, String.toList_append, blanks, List.append_assoc,
          List.singleton_append]
      simp only [Lexer.tokenize_eq, layout, Lexer.tokensFrom_append_blank 1 _ firstBlank,
        Spaced.tokensFrom_gap laterBlank, Nat.add_assoc, lines, tokensFrom_add]

namespace Parser

/-- What is read as a block is a block. Behind tokens that make a block up to their end, other
tokens are read as they are alone: they fail with the same failure, or the same tokens are left and
the statements of their block come behind those of the first one. With blanks in between it is the
same for source texts, the lines of the second one being counted on from the first. -/
theorem blocks_in_sequence (requested : Nat) :
    (∀ tokens body rest, block requested tokens = .ok (body, rest) →
      ∃ children, body = .block children) ∧
    ∀ children : List Statement,
      (∀ tokens others, block requested tokens = .ok (.block children, []) →
        block requested (tokens ++ others) =
          (block requested others).map (Prod.map (Statement.behind children) id)) ∧
      ∀ source gap others : String, IsGap gap → gap ≠ "" →
        block requested (tokenize source) = .ok (.block children, []) →
        block requested (tokenize (source ++ gap ++ others)) =
          movedOutcome (· + (source ++ gap).toList.count '\n') (Statement.behind children)
            (block requested (tokenize others)) := by
  refine ⟨?_, fun children => ⟨fun tokens others read => block_append read others, ?_⟩⟩
  · intro tokens body rest read
    exact Statement.kind_eq_block_iff.mp (block_eq_ok_iff.mp read).isBody.1
  · intro source gap others isGap nonempty read
    have moved := ignoresLines_block requested (· + (source ++ gap).toList.count '\n')
      (tokenize others)
    rw [tokenize_append_gap source others isGap nonempty, block_append read, moved]
    cases block requested (tokenize others) with
    | error failure => rfl
    | ok success => rfl

/-- Behind a call and a gap with a line feed, a block is read up to a word that ends it, and a word
that starts no statement is found on its own line. -/
theorem blocks_in_sequence_behindCall :
    (IsGap "\u2003\n" ∧ "\u2003\n" ≠ "" ∧
      block 3 (tokenize "move") = .ok (.block [.call "move"], [])) ∧
    block 3 (tokenize ("move" ++ "\u2003\n" ++ "skip\nEND")) =
      .ok (.block [.call "move", .call "skip"], [⟨.keyword, "END", 3⟩]) ∧
    block 3 (tokenize ("move" ++ "\u2003\n" ++ "\nTHEN")) =
      .error (.refused (.noStatement "THEN" 3)) := by
  have isGap : IsGap "\u2003\n" := by decide
  have call {name : String} (isName : isIdentifier name = true) {rest : List Token}
      (ends : endsBlock rest = true) :
      block 3 (⟨.identifier, name, 1⟩ :: rest) = .ok (.block [.call name], rest) := by
    have wellFormed : (Statement.block [.call name]).WellFormed :=
      Statement.wellFormed_block_iff.mpr (List.forall_mem_singleton.mpr ⟨nofun, .call isName⟩)
    exact block_eq_ok_iff.mpr ⟨⟨rfl, wellFormed⟩, Nat.zero_le _, inFront_singleton_iff.mpr
      ⟨_, TokenShape.fits_identifier.mpr ⟨rfl, rfl⟩, rfl⟩, ends⟩
  have first : tokenize "move" = [⟨.identifier, "move", 1⟩] := by decide +kernel
  have ended : tokenize "skip\nEND" = [⟨.identifier, "skip", 1⟩, ⟨.keyword, "END", 2⟩] := by
    decide +kernel
  have failed : tokenize "\nTHEN" = [⟨.keyword, "THEN", 2⟩] := by decide +kernel
  have read : block 3 (tokenize "move") = .ok (.block [.call "move"], []) := by
    rw [first]
    exact call (isIdentifier_iff_wordClass.mpr (by decide)) rfl
  obtain ⟨_, sequence⟩ := blocks_in_sequence 3
  obtain ⟨_, behind⟩ := sequence [.call "move"]
  refine ⟨⟨isGap, by decide, read⟩, ?_, ?_⟩
  · rw [behind "move" "\u2003\n" "skip\nEND" isGap (by decide) read, ended,
      call (isIdentifier_iff_wordClass.mpr (by decide)) rfl]
    rfl
  · rw [behind "move" "\u2003\n" "\nTHEN" isGap (by decide) read, failed]
    rfl

end Parser

end BlockLanguage
