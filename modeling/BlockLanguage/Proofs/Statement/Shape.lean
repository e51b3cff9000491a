import BlockLanguage.Statement.WellFormed

/-!
# Shapes of trees

What the calls of a statement are, and how the normal form of a statement relates to the
statement itself: it is well-formed, and it is the statement itself where that is a body already.
-/

set_option autoImplicit false

namespace BlockLanguage.Statement

/-!
## Calls
-/

theorem mem_callsOfAll_iff {name : String} {children : List Statement} :
    name ∈ callsOfAll children ↔ ∃ child ∈ children, name ∈ child.calls := by
  induction children with
  | nil => simp [callsOfAll]
  | cons child children ih => simp [callsOfAll, ih]

theorem callsIdentifiers_block_iff {children : List Statement} :
    CallsIdentifiers (.block children) ↔ ∀ child ∈ children, child.CallsIdentifiers := by
  constructor
  · intro identifiers child member name called
    exact identifiers name (mem_callsOfAll_iff.mpr ⟨child, member, called⟩)
  · intro each name called
    obtain ⟨child, member, called⟩ := mem_callsOfAll_iff.mp called
    exact each child member name called

theorem callsIdentifiers_ifElse_iff {guard : Condition} {thenBlock elseBlock : Statement} :
    CallsIdentifiers (.ifElse guard thenBlock elseBlock) ↔
      thenBlock.CallsIdentifiers ∧ elseBlock.CallsIdentifiers :=
  List.forall_mem_append

theorem callsIdentifiers_call_iff {name : String} :
    CallsIdentifiers (.call name) ↔ isIdentifier name = true := by
  simp [CallsIdentifiers, calls]

theorem WellFormed.callsIdentifiers {statement : Statement} (wellFormed : statement.WellFormed) :
    statement.CallsIdentifiers := by
  induction wellFormed with
  | block _ _ ih => exact callsIdentifiers_block_iff.mpr ih
  | ifThen _ _ ih => exact ih
  | ifElse _ _ _ _ thenIH elseIH => exact callsIdentifiers_ifElse_iff.mpr ⟨thenIH, elseIH⟩
  | loop _ _ ih => exact ih
  | call identifier => exact callsIdentifiers_call_iff.mpr identifier

/-!
## Normal forms
-/

theorem mem_flattenAll_iff {statement : Statement} {children : List Statement} :
    statement ∈ flattenAll children ↔ ∃ child ∈ children, statement ∈ child.flatten := by
  induction children with
  | nil => simp [flattenAll]
  | cons child children ih => simp [flattenAll, ih]

/-- What calls identifiers only is well-formed once the blocks are put right. -/
theorem isBody_normal {statement : Statement} (identifiers : statement.CallsIdentifiers) :
    statement.normal.IsBody := by
  refine ⟨rfl, wellFormed_block_iff.mpr ?_⟩
  induction statement with
  | block children ih =>
      intro flat member
      obtain ⟨child, childMember, member⟩ := mem_flattenAll_iff.mp member
      exact ih child childMember (callsIdentifiers_block_iff.mp identifiers child childMember)
        flat member
  | ifThen guard thenBlock ih =>
      intro flat member
      obtain rfl := List.mem_singleton.mp member
      exact ⟨nofun, .ifThen rfl (wellFormed_block_iff.mpr (ih identifiers))⟩
  | ifElse guard thenBlock elseBlock thenIH elseIH =>
      intro flat member
      obtain rfl := List.mem_singleton.mp member
      obtain ⟨thenIdentifiers, elseIdentifiers⟩ := callsIdentifiers_ifElse_iff.mp identifiers
      exact ⟨nofun, .ifElse rfl (wellFormed_block_iff.mpr (thenIH thenIdentifiers)) rfl
        (wellFormed_block_iff.mpr (elseIH elseIdentifiers))⟩
  | loop guard body ih =>
      intro flat member
      obtain rfl := List.mem_singleton.mp member
      exact ⟨nofun, .loop rfl (wellFormed_block_iff.mpr (ih identifiers))⟩
  | call name =>
      intro flat member
      obtain rfl := List.mem_singleton.mp member
      exact ⟨nofun, .call (callsIdentifiers_call_iff.mp identifiers)⟩

private theorem flattenAll_of_forall_eq_singleton {children : List Statement}
    (single : ∀ child ∈ children, child.flatten = [child]) : flattenAll children = children := by
  induction children with
  | nil => rfl
  | cons child children ih =>
      rw [List.forall_mem_cons] at single
      rw [flattenAll, single.1, ih single.2, List.singleton_append]

/-- A well-formed block is its own normal form, and any other well-formed statement stands alone
in its normal form. -/
private theorem normal_of_wellFormed {statement : Statement} (wellFormed : statement.WellFormed) :
    (statement.kind = .block → statement.normal = statement) ∧
      (statement.kind ≠ .block → statement.flatten = [statement]) := by
  induction wellFormed with
  | block noBlocks _ ih =>
      refine ⟨fun _ => congrArg Statement.block ?_, fun noBlock => absurd rfl noBlock⟩
      exact flattenAll_of_forall_eq_singleton fun child member =>
        (ih child member).2 (noBlocks child member)
  | @ifThen guard thenBlock isBlock _ ih =>
      have same : Statement.block thenBlock.flatten = thenBlock := ih.1 isBlock
      exact ⟨nofun, fun _ => by rw [flatten, same]⟩
  | @ifElse guard thenBlock elseBlock thenIsBlock _ elseIsBlock _ thenIH elseIH =>
      have sameThen : Statement.block thenBlock.flatten = thenBlock := thenIH.1 thenIsBlock
      have sameElse : Statement.block elseBlock.flatten = elseBlock := elseIH.1 elseIsBlock
      exact ⟨nofun, fun _ => by rw [flatten, sameThen, sameElse]⟩
  | @loop guard body isBlock _ ih =>
      have same : Statement.block body.flatten = body := ih.1 isBlock
      exact ⟨nofun, fun _ => by rw [flatten, same]⟩
  | call _ => exact ⟨nofun, fun _ => rfl⟩

/-- The statements that are their own normal form are the bodies. -/
theorem normal_eq_self_iff {statement : Statement} (identifiers : statement.CallsIdentifiers) :
    statement.normal = statement ↔ statement.IsBody := by
  constructor
  · intro same
    exact same ▸ isBody_normal identifiers
  · intro isBody
    exact (normal_of_wellFormed isBody.2).1 isBody.1

theorem nestingOfAll_append (first second : List Statement) :
    nestingOfAll (first ++ second) = max (nestingOfAll first) (nestingOfAll second) := by
  induction first with
  | nil => simp [nestingOfAll]
  | cons child first ih => simp [nestingOfAll, ih, Nat.max_assoc]

private theorem nestingOfAll_flattenAll {children : List Statement}
    (each : ∀ child ∈ children, nestingOfAll child.flatten = child.nesting) :
    nestingOfAll (flattenAll children) = nestingOfAll children := by
  induction children with
  | nil => rfl
  | cons child children ih =>
      rw [List.forall_mem_cons] at each
      rw [flattenAll, nestingOfAll_append, each.1, ih each.2, nestingOfAll]

theorem nestingOfAll_flatten (statement : Statement) :
    nestingOfAll statement.flatten = statement.nesting := by
  induction statement with
  | block children ih => exact nestingOfAll_flattenAll ih
  | ifThen guard thenBlock ih => simp [flatten, nestingOfAll, nesting, ih]
  | ifElse guard thenBlock elseBlock thenIH elseIH =>
      simp [flatten, nestingOfAll, nesting, thenIH, elseIH]
  | loop guard body ih => simp [flatten, nestingOfAll, nesting, ih]
  | call name => rfl

/-- The normal form nests as deeply. -/
theorem nesting_normal (statement : Statement) : statement.normal.nesting = statement.nesting :=
  nestingOfAll_flatten statement

end BlockLanguage.Statement
