import BlockLanguage.Proofs.Parser.Safety
import BlockLanguage.Proofs.Workbench.Work

/-!
# Well-formed workbenches

Each action looks at the top of the trees it is given, no further. Still everything at a workbench
stays well-formed at every depth, unless a tree is put there by itself.
-/

set_option autoImplicit false

namespace BlockLanguage

theorem Context.wellFormed_empty : Context.WellFormed NameMap.empty :=
  fun _ member => nomatch member

theorem Context.wellFormed_iff_get? {context : Context} :
    context.WellFormed ↔ ∀ name body, context.get? name = some body → body.WellFormed := by
  constructor
  · intro wellFormed name body found
    exact wellFormed (name, body) (NameMap.get?_eq_some_iff.mp found)
  · intro each entry member
    exact each entry.1 entry.2 (NameMap.get?_eq_some_iff.mpr member)

theorem Context.WellFormed.insert {context : Context} (wellFormed : context.WellFormed)
    {body : Statement} (bodyWellFormed : body.WellFormed) (name : String) :
    Context.WellFormed (NameMap.insert context name body) := by
  apply wellFormed_iff_get?.mpr
  intro other held found
  rw [NameMap.get?_insert] at found
  split at found
  · cases found
    exact bodyWellFormed
  · exact wellFormed_iff_get?.mp wellFormed other held found

theorem Context.WellFormed.erase {context : Context} (wellFormed : context.WellFormed)
    (name : String) : Context.WellFormed (NameMap.erase context name) :=
  fun entry member => wellFormed entry (List.mem_filter.mp member).1

theorem Program.wellFormed_empty : empty.WellFormed :=
  wellFormed_iff.mpr ⟨checked_empty, Context.wellFormed_empty, Statement.wellFormed_empty⟩

namespace Workbench

open Work (Gives Guards Keeps)

variable {bench : Workbench}

/-- Everything at the workbench is well-formed. -/
structure WellFormed (bench : Workbench) : Prop where
  statement : ∀ name, (bench.statement name).WellFormed
  context : ∀ name, (bench.context name).WellFormed
  program : ∀ name, (bench.program name).WellFormed

theorem wellFormed_empty : empty.WellFormed where
  statement _ := Statement.wellFormed_empty
  context _ := Context.wellFormed_empty
  program _ := Program.wellFormed_empty

theorem guards_statementAt (slot : Slot) :
    Guards WellFormed (statementAt slot) Statement.WellFormed := by
  cases slot with
  | none => exact ⟨fun _ _ => Statement.wellFormed_empty, fun _ _ holds _ => holds⟩
  | some name =>
      refine ⟨fun _ holds => holds.statement name, fun bench value holds held => ?_⟩
      refine ⟨fun other => ?_, holds.context, holds.program⟩
      rw [statement_write_statementAt]
      split
      · exact held
      · exact holds.statement other

theorem guards_contextAt (name : String) :
    Guards WellFormed (contextAt name) Context.WellFormed := by
  refine ⟨fun _ holds => holds.context name, fun bench value holds held => ?_⟩
  refine ⟨holds.statement, fun other => ?_, holds.program⟩
  rw [context_write_contextAt]
  split
  · exact held
  · exact holds.context other

theorem guards_programAt (name : String) :
    Guards WellFormed (programAt name) Program.WellFormed := by
  refine ⟨fun _ holds => holds.program name, fun bench value holds held => ?_⟩
  refine ⟨holds.statement, holds.context, fun other => ?_⟩
  rw [program_write_programAt]
  split
  · exact held
  · exact holds.program other

/-- Whether an action puts a tree in place by itself. -/
def Action.isPut : Action → Bool
  | .put _ _ => true
  | _ => false

theorem keeps_wellFormed (action : Action) (noPut : action.isPut = false) :
    Keeps WellFormed (perform action) := by
  have atStatement := guards_statementAt
  have atContext := guards_contextAt
  have atProgram := guards_programAt
  cases action with
  | put target value => cases noPut
  | inspect target => exact .pure _
  | freshLike source target | freshBody program target =>
      exact ((atStatement target).keeps_put Statement.wellFormed_empty).bind fun _ => .pure _
  | freshContext program context =>
      exact ((atContext context).keeps_put Context.wellFormed_empty).bind fun _ => .pure _
  | readBlock target source requested =>
      refine ((atStatement target).keeps_parse ?_).answer Answer.count
      exact fun _ _ read => (Parser.block_eq_ok_iff.mp read).isBody.2
  | readStatement target source requested =>
      refine ((atStatement target).keeps_parse ?_).answer Answer.count
      exact fun _ _ read => (Parser.statement_eq_ok_iff.mp read).wellFormed
  | copy source target =>
      refine (Keeps.look _).bind_of_gives (atStatement source).gives_look fun value held => ?_
      exact ((atStatement target).keeps_put held).bind fun _ => .pure _
  | equal left right | equalPrograms left right =>
      exact (Keeps.look _).bind fun _ => (Keeps.look _).bind fun _ => .pure _
  | kind target | isEmpty target | print target indent | name program | printProgram program =>
      exact (Keeps.look _).bind fun _ => .pure _
  | childCount target =>
      exact ((atStatement target).keeps_edit Statement.preserves_childCount).answer Answer.count
  | insertChild target child index =>
      exact (((atStatement target).beside (atStatement child)).keeps_edit
        (Statement.preserves_insertChild index)).bind fun _ => .pure _
  | removeChild target removed index =>
      have keeps := (atStatement target).keeps_edit (Statement.preserves_removeChild index)
      have gives : Gives WellFormed Statement.WellFormed
          (Work.edit (statementAt target) (Statement.removeChild index)) :=
        (atStatement target).gives_edit fun _ _ _ => Statement.wellFormed_removed
      refine keeps.bind_of_gives gives fun value held => ?_
      exact ((atStatement removed).keeps_put held).bind fun _ => .pure _
  | formIfThen target condition thenBlock =>
      exact (((atStatement target).beside (atStatement thenBlock)).keeps_edit
        (Statement.preserves_formIfThen condition)).bind fun _ => .pure _
  | formIfElse target condition thenBlock elseBlock =>
      have guards := (atStatement target).beside
        ((atStatement thenBlock).beside (atStatement elseBlock))
      exact (guards.keeps_edit (Statement.preserves_formIfElse condition)).bind fun _ => .pure _
  | formLoop target condition body =>
      exact (((atStatement target).beside (atStatement body)).keeps_edit
        (Statement.preserves_formLoop condition)).bind fun _ => .pure _
  | formCall target instruction =>
      exact ((atStatement target).keeps_edit
        (Statement.preserves_formCall instruction)).bind fun _ => .pure _
  | dissolveIfThen target thenBlock =>
      exact (((atStatement target).beside (atStatement thenBlock)).keeps_edit
        Statement.preserves_dissolveIfThen).answer Answer.condition
  | dissolveIfElse target thenBlock elseBlock =>
      have guards := (atStatement target).beside
        ((atStatement thenBlock).beside (atStatement elseBlock))
      exact (guards.keeps_edit Statement.preserves_dissolveIfElse).answer Answer.condition
  | dissolveLoop target body =>
      exact (((atStatement target).beside (atStatement body)).keeps_edit
        Statement.preserves_dissolveLoop).answer Answer.condition
  | dissolveCall target =>
      exact ((atStatement target).keeps_edit Statement.preserves_dissolveCall).answer Answer.text
  | insertEntry context name source =>
      refine (Keeps.look _).bind_of_gives (atContext context).gives_look
        fun entries entriesHeld => ?_
      refine (Keeps.look _).bind_of_gives (atStatement source).gives_look fun body bodyHeld => ?_
      refine ((atContext context).keeps_put (entriesHeld.insert bodyHeld name)).bind fun _ => ?_
      exact ((atStatement source).keeps_put Statement.wellFormed_empty).bind fun _ => .pure _
  | removeEntry context name target =>
      refine (Keeps.look _).bind_of_gives (atContext context).gives_look fun entries held => ?_
      cases found : entries.get? name with
      | some body =>
          have bodyHeld := Context.wellFormed_iff_get?.mp held name body found
          refine ((atContext context).keeps_put (held.erase name)).bind fun _ => ?_
          exact ((atStatement target).keeps_put bodyHeld).bind fun _ => .pure _
      | none => exact .pure _
  | rename program name =>
      exact ((atProgram program).keeps_edit (Program.preserves_rename name)).bind fun _ => .pure _
  | exchangeContext program context =>
      exact (((atProgram program).beside (atContext context)).keeps_edit
        Program.preserves_exchangeContext).bind fun _ => .pure _
  | exchangeBody program body =>
      exact (((atProgram program).beside (atStatement body)).keeps_edit
        Program.preserves_exchangeBody).bind fun _ => .pure _
  | readProgram program source requested =>
      refine ((atProgram program).keeps_parse ?_).bind fun _ => .pure _
      intro made rest read
      obtain ⟨_, _, _, makesUp, _⟩ := Parser.program_eq_ok_iff.mp read
      exact makesUp.wellFormed
  | summary program =>
      refine (Keeps.look _).bind fun held => ?_
      cases held.summary with
      | ok text => exact .pure _
      | error violation => exact .throw _

theorem wellFormed_after {actions : List Action}
    (noPut : ∀ action ∈ actions, action.isPut = false) : (empty.after actions).WellFormed :=
  after_induct_of_mem (fun action member => keeps_wellFormed action (noPut action member))
    wellFormed_empty

end Workbench

end BlockLanguage
