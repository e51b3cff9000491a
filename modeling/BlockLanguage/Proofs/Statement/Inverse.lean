import BlockLanguage.Proofs.Statement.Edit
import BlockLanguage.Proofs.Token.Genuine
import Mathlib.Data.List.InsertIdx

/-!
# Edits that take each other back

A child that is put into a block can be taken out again, and one that is taken out can be put back;
the other children stay where they are. Statements that are put together from parts come apart into
the same parts, and those that come apart are put together again.
-/

set_option autoImplicit false

namespace BlockLanguage

theorem Edit.run_bind_of_ok {σ α β : Type} {edit : Edit σ α} {next : α → Edit σ β}
    {value changed last : σ} {result : α} {answer : β} (done : edit.run value = .ok result changed)
    (goesOn : (next result).run changed = .ok answer last) :
    (edit >>= next).run value = .ok answer last := by
  rw [EStateM.run_bind, done]
  exact goesOn

namespace Statement

variable {index : Nat} {children : List Statement} {child : Statement}

/-!
## Children
-/

theorem insertIdx_eq_take_append_drop {α : Type} {index : Nat} {list : List α}
    (fits : index ≤ list.length) (element : α) :
    list.insertIdx index element = list.take index ++ element :: list.drop index := by
  induction index generalizing list with
  | zero => simp
  | succ index ih =>
      cases list with
      | nil => cases fits
      | cons head tail => simp [ih (Nat.le_of_succ_le_succ fits)]

/-- What is put in stands at the index, and all others around it as they were. -/
theorem run_insertChild_block (noBlock : child.kind ≠ .block) (fits : index ≤ children.length) :
    (insertChild index).run (block children, child) =
      .ok () (block (children.take index ++ child :: children.drop index), empty) := by
  rw [← insertIdx_eq_take_append_drop fits]
  exact insertChild_eq_ok_iff.mpr ⟨noBlock, children, rfl, fits, rfl⟩

theorem run_removeChild_block (inside : index < children.length) :
    (removeChild index).run (block children) =
      .ok children[index] (block (children.take index ++ children.drop (index + 1))) := by
  rw [← List.eraseIdx_eq_take_drop_succ]
  exact removeChild_eq_ok_iff.mpr ⟨children, rfl, List.getElem?_eq_getElem inside, rfl⟩

theorem run_removeChild_inserted (child : Statement) (fits : index ≤ children.length) :
    (removeChild index).run (block (children.take index ++ child :: children.drop index)) =
      .ok child (block children) := by
  rw [← insertIdx_eq_take_append_drop fits]
  have found : (children.insertIdx index child)[index]? = some child := by
    rw [List.getElem?_insertIdx_self, if_pos fits]
  exact removeChild_eq_ok_iff.mpr ⟨_, rfl, found, by rw [List.eraseIdx_insertIdx_self]⟩

theorem run_insertChild_removed (inside : index < children.length)
    (noBlock : children[index].kind ≠ .block) :
    (insertChild index).run
        (block (children.take index ++ children.drop (index + 1)), children[index]) =
      .ok () (block children, empty) := by
  rw [← List.eraseIdx_eq_take_drop_succ]
  have fits : index ≤ (children.eraseIdx index).length := by
    rw [List.length_eraseIdx_of_lt inside]
    omega
  exact insertChild_eq_ok_iff.mpr
    ⟨noBlock, _, rfl, fits, by rw [List.insertIdx_eraseIdx_getElem inside]⟩

/-- Of two children that are put in, it does not matter which one comes first; it only moves the
other one on. -/
theorem exists_run_insertChild_twice {first second : Statement} {near far : Nat}
    (firstNoBlock : first.kind ≠ .block) (secondNoBlock : second.kind ≠ .block)
    (ascend : near ≤ far) (fits : far ≤ children.length) :
    ∃ withFirst withSecond withBoth,
      (insertChild near).run (block children, first) = .ok () (withFirst, empty) ∧
      (insertChild (far + 1)).run (withFirst, second) = .ok () (withBoth, empty) ∧
      (insertChild far).run (block children, second) = .ok () (withSecond, empty) ∧
      (insertChild near).run (withSecond, first) = .ok () (withBoth, empty) := by
  have nearFits := Nat.le_trans ascend fits
  have farStillFits : far + 1 ≤ (children.insertIdx near first).length := by
    rw [List.length_insertIdx_of_le_length nearFits]
    omega
  have nearStillFits : near ≤ (children.insertIdx far second).length := by
    rw [List.length_insertIdx_of_le_length fits]
    omega
  refine ⟨block (children.insertIdx near first), block (children.insertIdx far second),
    block ((children.insertIdx near first).insertIdx (far + 1) second),
    insertChild_eq_ok_iff.mpr ⟨firstNoBlock, _, rfl, nearFits, rfl⟩,
    insertChild_eq_ok_iff.mpr ⟨secondNoBlock, _, rfl, farStillFits, rfl⟩,
    insertChild_eq_ok_iff.mpr ⟨secondNoBlock, _, rfl, fits, rfl⟩,
    insertChild_eq_ok_iff.mpr ⟨firstNoBlock, _, rfl, nearStillFits, ?_⟩⟩
  rw [List.insertIdx_comm first second ascend fits]

/-!
## Parts
-/

section Parts

variable {condition : Condition} {instruction : String}
  {target thenBlock elseBlock body : Statement}

theorem run_formIfThen_dissolve (isBlock : thenBlock.kind = .block) :
    (do formIfThen condition; dissolveIfThen).run (target, thenBlock) =
      .ok condition (empty, thenBlock) :=
  Edit.run_bind_of_ok (formIfThen_eq_ok_iff.mpr ⟨isBlock, rfl⟩)
    (dissolveIfThen_eq_ok_iff.mpr ⟨thenBlock, rfl, rfl, rfl⟩)

theorem run_formIfElse_dissolve (thenIsBlock : thenBlock.kind = .block)
    (elseIsBlock : elseBlock.kind = .block) :
    (do formIfElse condition; dissolveIfElse).run (target, thenBlock, elseBlock) =
      .ok condition (empty, thenBlock, elseBlock) :=
  Edit.run_bind_of_ok (formIfElse_eq_ok_iff.mpr ⟨⟨thenIsBlock, elseIsBlock⟩, rfl⟩)
    (dissolveIfElse_eq_ok_iff.mpr ⟨thenBlock, elseBlock, rfl, ⟨rfl, rfl⟩, rfl⟩)

theorem run_formLoop_dissolve (isBlock : body.kind = .block) :
    (do formLoop condition; dissolveLoop).run (target, body) = .ok condition (empty, body) :=
  Edit.run_bind_of_ok (formLoop_eq_ok_iff.mpr ⟨isBlock, rfl⟩)
    (dissolveLoop_eq_ok_iff.mpr ⟨body, rfl, rfl, rfl⟩)

theorem run_formCall_dissolve (isName : isIdentifier instruction = true) :
    (do formCall instruction; dissolveCall).run target = .ok instruction empty :=
  Edit.run_bind_of_ok (formCall_eq_ok_iff.mpr ⟨isName, rfl⟩)
    (dissolveCall_eq_ok_iff.mpr ⟨rfl, rfl⟩)

theorem run_dissolveIfThen_form (isBlock : thenBlock.kind = .block) :
    (do formIfThen (← dissolveIfThen)).run (ifThen condition thenBlock, empty) =
      .ok () (ifThen condition thenBlock, empty) :=
  Edit.run_bind_of_ok (dissolveIfThen_eq_ok_iff.mpr ⟨thenBlock, rfl, rfl, rfl⟩)
    (formIfThen_eq_ok_iff.mpr ⟨isBlock, rfl⟩)

theorem run_dissolveIfElse_form (thenIsBlock : thenBlock.kind = .block)
    (elseIsBlock : elseBlock.kind = .block) :
    (do formIfElse (← dissolveIfElse)).run (ifElse condition thenBlock elseBlock, empty, empty) =
      .ok () (ifElse condition thenBlock elseBlock, empty, empty) :=
  Edit.run_bind_of_ok
    (dissolveIfElse_eq_ok_iff.mpr ⟨thenBlock, elseBlock, rfl, ⟨rfl, rfl⟩, rfl⟩)
    (formIfElse_eq_ok_iff.mpr ⟨⟨thenIsBlock, elseIsBlock⟩, rfl⟩)

theorem run_dissolveLoop_form (isBlock : body.kind = .block) :
    (do formLoop (← dissolveLoop)).run (loop condition body, empty) =
      .ok () (loop condition body, empty) :=
  Edit.run_bind_of_ok (dissolveLoop_eq_ok_iff.mpr ⟨body, rfl, rfl, rfl⟩)
    (formLoop_eq_ok_iff.mpr ⟨isBlock, rfl⟩)

theorem run_dissolveCall_form (isName : isIdentifier instruction = true) :
    (do formCall (← dissolveCall)).run (call instruction) = .ok () (call instruction) :=
  Edit.run_bind_of_ok (dissolveCall_eq_ok_iff.mpr ⟨rfl, rfl⟩)
    (formCall_eq_ok_iff.mpr ⟨isName, rfl⟩)

end Parts

/-- Edits take each other back. A child that is put into a block comes out again, and one that is
taken out of a well-formed block goes back in, with the other children in their order; children can
be put in one before the other or the other way round. What is formed from blocks or a name
dissolves into them, and what holds blocks or a name is formed again once it has been dissolved. The
blocks of a conditional stay apart: each comes from its own giver and goes to its own receiver. -/
theorem edits_take_back :
    (∀ children child index, child.kind ≠ .block → index ≤ children.length →
      (insertChild index).run (block children, child) =
          .ok () (block (children.take index ++ child :: children.drop index), empty) ∧
        (removeChild index).run (block (children.take index ++ child :: children.drop index)) =
          .ok child (block children)) ∧
    (∀ (children : List Statement) index, (block children).WellFormed →
      ∀ inside : index < children.length,
        (removeChild index).run (block children) =
            .ok children[index] (block (children.take index ++ children.drop (index + 1))) ∧
          (insertChild index).run
              (block (children.take index ++ children.drop (index + 1)), children[index]) =
            .ok () (block children, empty)) ∧
    (∀ children first second near far, first.kind ≠ .block → second.kind ≠ .block →
      near ≤ far → far ≤ children.length →
      ∃ withFirst withSecond withBoth,
        (insertChild near).run (block children, first) = .ok () (withFirst, empty) ∧
        (insertChild (far + 1)).run (withFirst, second) = .ok () (withBoth, empty) ∧
        (insertChild far).run (block children, second) = .ok () (withSecond, empty) ∧
        (insertChild near).run (withSecond, first) = .ok () (withBoth, empty)) ∧
    (∀ condition target thenBlock, thenBlock.kind = .block →
      (do formIfThen condition; dissolveIfThen).run (target, thenBlock) =
          .ok condition (empty, thenBlock) ∧
        (do formIfThen (← dissolveIfThen)).run (ifThen condition thenBlock, empty) =
          .ok () (ifThen condition thenBlock, empty)) ∧
    (∀ condition target thenBlock elseBlock, thenBlock.kind = .block → elseBlock.kind = .block →
      (formIfElse condition).run (target, thenBlock, elseBlock) =
          .ok () (ifElse condition thenBlock elseBlock, empty, empty) ∧
        dissolveIfElse.run (ifElse condition thenBlock elseBlock, empty, empty) =
          .ok condition (empty, thenBlock, elseBlock) ∧
        (do formIfElse condition; dissolveIfElse).run (target, thenBlock, elseBlock) =
          .ok condition (empty, thenBlock, elseBlock) ∧
        (do formIfElse (← dissolveIfElse)).run
            (ifElse condition thenBlock elseBlock, empty, empty) =
          .ok () (ifElse condition thenBlock elseBlock, empty, empty)) ∧
    (∀ condition target body, body.kind = .block →
      (do formLoop condition; dissolveLoop).run (target, body) = .ok condition (empty, body) ∧
        (do formLoop (← dissolveLoop)).run (loop condition body, empty) =
          .ok () (loop condition body, empty)) ∧
    ∀ instruction target, isIdentifier instruction = true →
      (do formCall instruction; dissolveCall).run target = .ok instruction empty ∧
        (do formCall (← dissolveCall)).run (call instruction) = .ok () (call instruction) := by
  refine ⟨?_, ?_, ?_, ?_, ?_, ?_, ?_⟩
  · intro children child index noBlock fits
    exact ⟨run_insertChild_block noBlock fits, run_removeChild_inserted child fits⟩
  · intro children index wellFormed inside
    have noBlock := (wellFormed_block_iff.mp wellFormed _ (List.getElem_mem inside)).1
    exact ⟨run_removeChild_block inside, run_insertChild_removed inside noBlock⟩
  · intro children first second near far firstNoBlock secondNoBlock ascend fits
    exact exists_run_insertChild_twice firstNoBlock secondNoBlock ascend fits
  · intro condition target thenBlock isBlock
    exact ⟨run_formIfThen_dissolve isBlock, run_dissolveIfThen_form isBlock⟩
  · intro condition target thenBlock elseBlock thenIsBlock elseIsBlock
    exact ⟨formIfElse_eq_ok_iff.mpr ⟨⟨thenIsBlock, elseIsBlock⟩, rfl⟩,
      dissolveIfElse_eq_ok_iff.mpr ⟨thenBlock, elseBlock, rfl, ⟨rfl, rfl⟩, rfl⟩,
      run_formIfElse_dissolve thenIsBlock elseIsBlock,
      run_dissolveIfElse_form thenIsBlock elseIsBlock⟩
  · intro condition target body isBlock
    exact ⟨run_formLoop_dissolve isBlock, run_dissolveLoop_form isBlock⟩
  · intro instruction target isName
    exact ⟨run_formCall_dissolve isName, run_dissolveCall_form isName⟩

/-- The middle one of three calls is taken out and put back, and a conditional is made of two
blocks that differ. -/
theorem edits_take_back_calls :
    let calls : List Statement := [call "a", call "b", call "c"]
    let thenBlock : Statement := block [call "a"]
    let elseBlock : Statement := block [call "b", block []]
    (removeChild 1).run (block calls) = .ok (call "b") (block [call "a", call "c"]) ∧
      (insertChild 1).run (block [call "a", call "c"], call "b") =
        .ok () (block calls, empty) ∧
      (do formIfElse .random; dissolveIfElse).run (call "c", thenBlock, elseBlock) =
        .ok .random (empty, thenBlock, elseBlock) ∧
      (do formCall "a"; dissolveCall).run thenBlock = .ok "a" empty := by
  intro calls thenBlock elseBlock
  have isName (name : String) (spelled : name ∈ ["a", "b", "c"]) : isIdentifier name = true := by
    have words : ∀ name ∈ ["a", "b", "c"],
        Lexer.IsWord name.toList ∧ Lexer.wordClass name.toList = .identifier := by
      decide
    exact isIdentifier_iff_wordClass.mpr (words name spelled)
  have wellFormed : (block calls).WellFormed := by
    refine wellFormed_block_iff.mpr (List.forall_mem_cons.mpr ⟨?_, List.forall_mem_cons.mpr ⟨?_,
      List.forall_mem_singleton.mpr ?_⟩⟩)
    all_goals exact ⟨nofun, .call (isName _ (by decide))⟩
  obtain ⟨_, removed, _, _, conditionals, _, named⟩ := edits_take_back
  obtain ⟨out, back⟩ := removed calls 1 wellFormed (by decide)
  exact ⟨out, back, (conditionals .random (call "c") thenBlock elseBlock rfl rfl).2.2.1,
    (named "a" thenBlock (isName "a" (by decide))).1⟩

end Statement

end BlockLanguage
