import BlockLanguage.Proofs.Statement.Balance
import BlockLanguage.Proofs.Workbench.Work

/-!
# The balance of a workbench

Actions that move statements around keep the number of nodes with each label at the whole
workbench, as long as they put nothing over a statement that is not empty. What comes in is what
is formed, and what goes out is what is dissolved.
-/

set_option autoImplicit false

namespace BlockLanguage.Workbench

open Edit (together)

variable {σ τ α : Type} {label : Label} {bench : Workbench}

/-- How many nodes at the workbench have the label, in statements, contexts and programs. -/
def count (label : Label) (bench : Workbench) : Nat :=
  bench.statements.total (Statement.count label) + bench.contexts.total (Context.count label) +
    bench.programs.total (Program.count label)

/-!
## Places
-/

/-- What is written to a place comes into the count of the workbench for what the place held. -/
def Place.Accounts (label : Label) (place : Place σ) (measure : σ → Nat) : Prop :=
  ∀ value bench, (place.write value bench).count label + measure (place.read bench) =
    bench.count label + measure value

/-- What is written to the first place does not change what the second one holds. -/
def Place.Apart (first : Place σ) (second : Place τ) : Prop :=
  ∀ value bench, second.read (first.write value bench) = second.read bench

theorem Place.Accounts.beside {first : Place σ} {second : Place τ} {measure : σ → Nat}
    {alsoMeasure : τ → Nat} (accounts : first.Accounts label measure)
    (alsoAccounts : second.Accounts label alsoMeasure) (apart : first.Apart second) :
    (first.beside second).Accounts label (together measure alsoMeasure) := by
  intro ⟨value, alsoValue⟩ bench
  have firstWritten := accounts value bench
  have secondWritten := alsoAccounts alsoValue (first.write value bench)
  rw [apart] at secondWritten
  simp only [Place.beside, together]
  omega

theorem accounts_statementAt (label : Label) (name : String) :
    (statementAt (some name)).Accounts label (Statement.count label) := by
  intro value bench
  have inserted := bench.statements.total_insert (Statement.count label) name value
  rw [NameMap.measureAt_eq Statement.count_empty] at inserted
  simp only [count, statementAt, statement]
  omega

theorem accounts_contextAt (label : Label) (name : String) :
    (contextAt name).Accounts label (Context.count label) := by
  intro value bench
  have inserted := bench.contexts.total_insert (Context.count label) name value
  rw [NameMap.measureAt_eq Context.count_empty] at inserted
  simp only [count, contextAt, context]
  omega

theorem accounts_programAt (label : Label) (name : String) :
    (programAt name).Accounts label (Program.count label) := by
  intro value bench
  have inserted := bench.programs.total_insert (Program.count label) name value
  rw [NameMap.measureAt_eq Program.count_empty] at inserted
  simp only [count, programAt, program]
  omega

theorem apart_statementAt {first second : String} (differs : first ≠ second) :
    (statementAt (some first)).Apart (statementAt (some second)) := by
  intro value bench
  simp [Ne.symm differs]

theorem accounts_pair {first second : String} (differs : first ≠ second) :
    ((statementAt (some first)).beside (statementAt (some second))).Accounts label
      (together (Statement.count label) (Statement.count label)) :=
  (accounts_statementAt label first).beside (accounts_statementAt label second)
    (apart_statementAt differs)

theorem accounts_triple {first second third : String}
    (differ : first ≠ second ∧ first ≠ third ∧ second ≠ third) :
    ((statementAt (some first)).beside
      ((statementAt (some second)).beside (statementAt (some third)))).Accounts label
      (together (Statement.count label)
        (together (Statement.count label) (Statement.count label))) := by
  apply (accounts_statementAt label first).beside (accounts_pair differ.2.2)
  intro value bench
  simp [Place.beside, Ne.symm differ.1, Ne.symm differ.2.1]

/-!
## Actions
-/

/-- The node that an action forms if it is done. -/
def Action.forms : Action → Option Label
  | .formIfThen _ condition _ => some (.ifThen condition)
  | .formIfElse _ condition _ _ => some (.ifElse condition)
  | .formLoop _ condition _ => some (.loop condition)
  | .formCall _ instruction => some (.call instruction)
  | _ => none

/-- The node that an action has dissolved, told by its answer. -/
def Action.dissolves : Action → Answer → Option Label
  | .dissolveIfThen _ _, .condition condition => some (.ifThen condition)
  | .dissolveIfElse _ _ _, .condition condition => some (.ifElse condition)
  | .dissolveLoop _ _, .condition condition => some (.loop condition)
  | .dissolveCall _, .text instruction => some (.call instruction)
  | _, _ => none

/-- How many nodes with the label an action has formed. -/
def formedBy (label : Label) (action : Action) : Except Refusal Answer → Nat
  | .ok _ => action.forms.elim 0 label.one
  | .error _ => 0

/-- How many nodes with the label an action has dissolved. -/
def dissolvedBy (label : Label) (action : Action) : Except Refusal Answer → Nat
  | .ok answer => (action.dissolves answer).elim 0 label.one
  | .error _ => 0

@[simp] theorem formedBy_ok (label : Label) (action : Action) (answer : Answer) :
    formedBy label action (.ok answer) = action.forms.elim 0 label.one := rfl

@[simp] theorem formedBy_error (label : Label) (action : Action) (refusal : Refusal) :
    formedBy label action (.error refusal) = 0 := rfl

@[simp] theorem dissolvedBy_ok (label : Label) (action : Action) (answer : Answer) :
    dissolvedBy label action (.ok answer) = (action.dissolves answer).elim 0 label.one := rfl

@[simp] theorem dissolvedBy_error (label : Label) (action : Action) (refusal : Refusal) :
    dissolvedBy label action (.error refusal) = 0 := rfl

/-- The count of the workbench changes by what the action forms and dissolves. -/
def Balanced (label : Label) (bench : Workbench) (action : Action) : Prop :=
  (bench.step action).1.count label + dissolvedBy label action (bench.step action).2 =
    bench.count label + formedBy label action (bench.step action).2

/-- An action that forms and dissolves nothing is balanced if it keeps the count. -/
theorem balanced_of_count_eq {action : Action} (forms : action.forms = none)
    (dissolves : ∀ answer, action.dissolves answer = none)
    (kept : (bench.step action).1.count label = bench.count label) :
    Balanced label bench action := by
  unfold Balanced
  cases (bench.step action).2 with
  | ok answer => simp [forms, dissolves, kept]
  | error refusal => simp [kept]

theorem balanced_of_repeatsName {action : Action} (repeated : action.repeatsName = true) :
    Balanced label bench action := by
  have refused : bench.step action = (bench, .error .repeatedName) := if_pos repeated
  simp [Balanced, refused]

/-- An action that is one edit is balanced if what is at its place is. -/
theorem balanced_of_edit {action : Action} {place : Place σ} {measure : σ → Nat}
    {change : Edit σ α} {give : α → Answer}
    (performs : perform action = (do return give (← Work.edit place change)))
    (accounts : action.repeatsName = false → place.Accounts label measure)
    (atomic : change.Atomic)
    (balances : ∀ result changed, change.run (place.read bench) = .ok result changed →
      measure changed + dissolvedBy label action (.ok (give result)) =
        measure (place.read bench) + formedBy label action (.ok (give result))) :
    Balanced label bench action := by
  cases apart : action.repeatsName with
  | true => exact balanced_of_repeatsName apart
  | false =>
      have accounted := accounts apart
      unfold Balanced
      rw [step, apart, performs, EStateM.run_bind, Work.run_edit]
      cases run : change.run (place.read bench) with
      | ok result changed =>
          have written := accounted changed bench
          have balance := balances result changed run
          simp only [Bool.false_eq_true, if_false, EStateM.run_pure]
          omega
      | error violation changed =>
          have written := accounted changed bench
          rw [atomic _ violation changed run] at written ⊢
          simp only [Bool.false_eq_true, if_false, formedBy, dissolvedBy]
          omega

/-- Actions that move statements between named places and put none over a statement that is not
empty, as the workbench is. -/
inductive Tidy (bench : Workbench) : Action → Prop where
  | insertChild {target child index} : Tidy bench (.insertChild (some target) (some child) index)
  | removeChild {target removed index} : bench.statement removed = .empty →
      Tidy bench (.removeChild (some target) (some removed) index)
  | formIfThen {target condition thenBlock} : bench.statement target = .empty →
      Tidy bench (.formIfThen (some target) condition (some thenBlock))
  | formIfElse {target condition thenBlock elseBlock} : bench.statement target = .empty →
      Tidy bench (.formIfElse (some target) condition (some thenBlock) (some elseBlock))
  | formLoop {target condition body} : bench.statement target = .empty →
      Tidy bench (.formLoop (some target) condition (some body))
  | formCall {target instruction} : bench.statement target = .empty →
      Tidy bench (.formCall (some target) instruction)
  | dissolveIfThen {target thenBlock} :
      Tidy bench (.dissolveIfThen (some target) (some thenBlock))
  | dissolveIfElse {target thenBlock elseBlock} :
      Tidy bench (.dissolveIfElse (some target) (some thenBlock) (some elseBlock))
  | dissolveLoop {target body} : Tidy bench (.dissolveLoop (some target) (some body))
  | dissolveCall {target} : Tidy bench (.dissolveCall (some target))
  | insertEntry {context name source} : (bench.context context).contains name = false →
      Tidy bench (.insertEntry context name (some source))
  | removeEntry {context name target} : bench.statement target = .empty →
      Tidy bench (.removeEntry context name (some target))
  | rename {program name} : Tidy bench (.rename program name)
  | exchangeContext {program context} : Tidy bench (.exchangeContext program context)
  | exchangeBody {program body} : Tidy bench (.exchangeBody program (some body))

theorem ne_of_uses {action : Action} {first second : String}
    (uses : action.uses = [[first, second]]) (apart : action.repeatsName = false) :
    first ≠ second := by
  simpa [Action.repeatsName, uses] using apart

theorem ne_of_uses_three {action : Action} {first second third : String}
    (uses : action.uses = [[first, second, third]]) (apart : action.repeatsName = false) :
    first ≠ second ∧ first ≠ third ∧ second ≠ third := by
  simpa [Action.repeatsName, uses, and_assoc] using apart

theorem run_removeChild (bench : Workbench) (target removed : String) (index : Nat) :
    (perform (.removeChild (some target) (some removed) index)).run bench =
      match (Statement.removeChild index).run (bench.statement target) with
      | .ok child left => .ok .done ((statementAt (some removed)).write child
          ((statementAt (some target)).write left bench))
      | .error violation left =>
          .error (.violation violation) ((statementAt (some target)).write left bench) := by
  simp only [perform, EStateM.run_bind, Work.run_edit, read_statementAt]
  cases (Statement.removeChild index).run (bench.statement target) with
  | ok child left => rfl
  | error violation left => rfl

theorem run_removeEntry (bench : Workbench) (context name target : String) :
    (perform (.removeEntry context name (some target))).run bench =
      match (bench.context context).get? name with
      | some body => .ok (.flag true) ((statementAt (some target)).write body
          ((contextAt context).write ((bench.context context).erase name) bench))
      | none => .ok (.flag false) bench := by
  simp only [perform, EStateM.run_bind, Work.run_look, read_contextAt]
  cases (bench.context context).get? name with
  | some body => rfl
  | none => rfl

/-- A child goes out of a block, over an empty statement. -/
theorem balanced_removeChild {target removed : String} (index : Nat)
    (room : bench.statement removed = .empty) :
    Balanced label bench (.removeChild (some target) (some removed) index) := by
  cases apart : (Action.removeChild (some target) (some removed) index).repeatsName with
  | true => exact balanced_of_repeatsName apart
  | false =>
      apply balanced_of_count_eq rfl fun _ => rfl
      simp only [step, apart, run_removeChild, Bool.false_eq_true, if_false]
      cases run : (Statement.removeChild index).run (bench.statement target) with
      | ok child left =>
          have balance : left.count label + child.count label =
              (bench.statement target).count label :=
            (Statement.editsBalance label).removeChild index run
          have taken := accounts_statementAt label target left bench
          have given := accounts_statementAt label removed child
            ((statementAt (some target)).write left bench)
          rw [apart_statementAt (ne_of_uses rfl apart), read_statementAt, room,
            Statement.count_empty] at given
          rw [read_statementAt] at taken
          simp only
          omega
      | error violation left =>
          obtain rfl := Statement.atomic_removeChild index _ violation left run
          have kept := accounts_statementAt label target (bench.statement target) bench
          rw [read_statementAt] at kept
          simp only
          omega

/-- An entry under a new name comes to a context, and its statement is left empty. -/
theorem balanced_insertEntry {context name source : String}
    (absent : (bench.context context).contains name = false) :
    Balanced label bench (.insertEntry context name (some source)) := by
  have moved : (bench.step (.insertEntry context name (some source))).1 =
      (statementAt (some source)).write .empty ((contextAt context).write
        ((bench.context context).insert name (bench.statement source)) bench) := rfl
  have inserted := (bench.context context).total_insert (Statement.count label) name
    (bench.statement source)
  rw [NameMap.measureAt, NameMap.contains_eq_false_iff.mp absent, Option.elim_none] at inserted
  have stored := accounts_contextAt label context
    ((bench.context context).insert name (bench.statement source)) bench
  have emptied := accounts_statementAt label source .empty ((contextAt context).write
    ((bench.context context).insert name (bench.statement source)) bench)
  rw [read_contextAt, Context.count, Context.count] at stored
  rw [read_statementAt, statement_write_contextAt, Statement.count_empty] at emptied
  apply balanced_of_count_eq rfl fun _ => rfl
  rw [moved]
  omega

/-- An entry that is there goes out of a context, over an empty statement. -/
theorem balanced_removeEntry {context name target : String}
    (room : bench.statement target = .empty) :
    Balanced label bench (.removeEntry context name (some target)) := by
  have apart : (Action.removeEntry context name (some target)).repeatsName = false := rfl
  apply balanced_of_count_eq rfl fun _ => rfl
  simp only [step, apart, run_removeEntry, Bool.false_eq_true, if_false]
  cases found : (bench.context context).get? name with
  | none => rfl
  | some body =>
      have erased := (bench.context context).total_erase (Statement.count label) name
      rw [NameMap.measureAt, found, Option.elim_some] at erased
      have taken := accounts_contextAt label context ((bench.context context).erase name) bench
      have given := accounts_statementAt label target body
        ((contextAt context).write ((bench.context context).erase name) bench)
      rw [read_contextAt, Context.count, Context.count] at taken
      rw [read_statementAt, statement_write_contextAt, room, Statement.count_empty] at given
      simp only
      omega

theorem balanced_rename {program name : String} :
    Balanced label bench (.rename program name) := by
  apply balanced_of_edit rfl (fun _ => accounts_programAt label program)
    (Program.atomic_rename name)
  intro _ made done
  obtain ⟨_, rfl⟩ := Program.make_rename_eq_ok_iff.mp (Edit.make_of_run done)
  rfl

theorem balanced_exchangeContext {program context : String} :
    Balanced label bench (.exchangeContext program context) := by
  have accounts := (accounts_programAt label program).beside (accounts_contextAt label context)
    fun _ _ => rfl
  apply balanced_of_edit rfl (fun _ => accounts) Program.atomic_exchangeContext
  intro _ made done
  obtain rfl := Program.editsExchange.exchangeContext done
  simp only [together, Place.beside, Program.count, formedBy_ok, dissolvedBy_ok, Action.forms,
    Action.dissolves, Option.elim_none]
  omega

theorem balanced_exchangeBody {program body : String} :
    Balanced label bench (.exchangeBody program (some body)) := by
  have accounts := (accounts_programAt label program).beside (accounts_statementAt label body)
    fun _ _ => rfl
  apply balanced_of_edit rfl (fun _ => accounts) Program.atomic_exchangeBody
  intro _ made done
  obtain rfl := Program.editsExchange.exchangeBody done
  simp only [together, Place.beside, Program.count, formedBy_ok, dissolvedBy_ok, Action.forms,
    Action.dissolves, Option.elim_none]
  omega

/-- One tidy action is balanced, whether it is done or refused. -/
theorem balanced_of_tidy (label : Label) {action : Action} (tidy : Tidy bench action) :
    Balanced label bench action := by
  have balances := Statement.editsBalance label
  cases tidy with
  | insertChild =>
      apply balanced_of_edit rfl (fun apart => accounts_pair (ne_of_uses rfl apart))
        (Statement.atomic_insertChild _)
      intro _ changed done
      simpa [Action.forms, Action.dissolves] using balances.insertChild _ done
  | removeChild room => exact balanced_removeChild _ room
  | formIfThen room =>
      apply balanced_of_edit rfl (fun apart => accounts_pair (ne_of_uses rfl apart))
        (Statement.atomic_formIfThen _)
      intro _ changed done
      simpa [together, Place.beside, room, Action.forms, Action.dissolves] using
        balances.formIfThen _ done
  | formIfElse room =>
      apply balanced_of_edit rfl (fun apart => accounts_triple (ne_of_uses_three rfl apart))
        (Statement.atomic_formIfElse _)
      intro _ changed done
      simpa [together, Place.beside, room, Action.forms, Action.dissolves] using
        balances.formIfElse _ done
  | formLoop room =>
      apply balanced_of_edit rfl (fun apart => accounts_pair (ne_of_uses rfl apart))
        (Statement.atomic_formLoop _)
      intro _ changed done
      simpa [together, Place.beside, room, Action.forms, Action.dissolves] using
        balances.formLoop _ done
  | formCall room =>
      apply balanced_of_edit rfl (fun _ => accounts_statementAt label _)
        (Statement.atomic_formCall _)
      intro _ changed done
      simpa [room, Action.forms, Action.dissolves] using balances.formCall _ done
  | dissolveIfThen =>
      apply balanced_of_edit rfl (fun apart => accounts_pair (ne_of_uses rfl apart))
        Statement.atomic_dissolveIfThen
      intro condition changed done
      obtain ⟨_, _, room, _⟩ := Statement.dissolveIfThen_eq_ok_iff.mp done
      rw [read_statementAt] at room
      simpa [together, Place.beside, room, Action.forms, Action.dissolves] using
        balances.dissolveIfThen done
  | dissolveIfElse =>
      apply balanced_of_edit rfl (fun apart => accounts_triple (ne_of_uses_three rfl apart))
        Statement.atomic_dissolveIfElse
      intro condition changed done
      obtain ⟨_, _, _, ⟨thenRoom, elseRoom⟩, _⟩ := Statement.dissolveIfElse_eq_ok_iff.mp done
      rw [read_statementAt] at thenRoom elseRoom
      simpa [together, Place.beside, thenRoom, elseRoom, Action.forms, Action.dissolves] using
        balances.dissolveIfElse done
  | dissolveLoop =>
      apply balanced_of_edit rfl (fun apart => accounts_pair (ne_of_uses rfl apart))
        Statement.atomic_dissolveLoop
      intro condition changed done
      obtain ⟨_, _, room, _⟩ := Statement.dissolveLoop_eq_ok_iff.mp done
      rw [read_statementAt] at room
      simpa [together, Place.beside, room, Action.forms, Action.dissolves] using
        balances.dissolveLoop done
  | dissolveCall =>
      apply balanced_of_edit rfl (fun _ => accounts_statementAt label _)
        Statement.atomic_dissolveCall
      intro instruction changed done
      simpa [Action.forms, Action.dissolves] using balances.dissolveCall done
  | insertEntry absent => exact balanced_insertEntry absent
  | removeEntry room => exact balanced_removeEntry room
  | rename => exact balanced_rename
  | exchangeContext => exact balanced_exchangeContext
  | exchangeBody => exact balanced_exchangeBody

/-!
## Sequences of actions
-/

/-- Each action of a sequence is tidy when it is its turn. -/
inductive TidyRun : Workbench → List Action → Prop where
  | nil {current} : TidyRun current []
  | cons {current action actions} : Tidy current action →
      TidyRun (current.step action).1 actions → TidyRun current (action :: actions)

/-- What the actions of a sequence amount to together, each by its outcome when it is its
turn. -/
def sumAlong (amount : Action → Except Refusal Answer → Nat) : Workbench → List Action → Nat
  | _, [] => 0
  | bench, action :: actions =>
    amount action (bench.step action).2 + sumAlong amount (bench.step action).1 actions

theorem count_after (label : Label) {actions : List Action} (tidy : TidyRun bench actions) :
    (bench.after actions).count label + sumAlong (dissolvedBy label) bench actions =
      bench.count label + sumAlong (formedBy label) bench actions := by
  induction tidy with
  | nil => rfl
  | @cons bench action actions tidy _ ih =>
      have balanced := balanced_of_tidy label tidy
      have continues : bench.after (action :: actions) = (bench.step action).1.after actions := rfl
      rw [Balanced] at balanced
      simp only [continues, sumAlong]
      omega

/-- Edits neither lose nor double nodes, and programs exchange their parts for what they are given.
So after any tidy sequence of actions, the workbench has as many nodes with a label as before,
with those that were formed and without those that were dissolved. -/
theorem nodes_conserved (label : Label) {actions : List Action} (tidy : TidyRun bench actions) :
    Statement.EditsBalance label ∧ Program.EditsExchange ∧
      (bench.after actions).count label + sumAlong (dissolvedBy label) bench actions =
        bench.count label + sumAlong (formedBy label) bench actions :=
  ⟨Statement.editsBalance label, Program.editsExchange, count_after label tidy⟩

/-- A loop is formed, put into a block and taken over by a program, and then a conditional is
formed and dissolved again. -/
def loopForProgram : List Action :=
  [.formLoop (some "loop") .always (some "body"), .insertChild (some "main") (some "loop") 0,
    .exchangeBody "program" (some "main"), .formIfThen (some "loop") .random (some "body"),
    .dissolveIfThen (some "loop") (some "body")]

theorem nodes_conserved_loopForProgram :
    TidyRun empty loopForProgram ∧
      (empty.after loopForProgram).count (.loop .always) = 1 ∧
        (empty.after loopForProgram).count (.ifThen .random) = 0 := by
  have tidy : TidyRun empty loopForProgram :=
    .cons (.formLoop rfl) (.cons .insertChild (.cons .exchangeBody
      (.cons (.formIfThen (by decide)) (.cons .dissolveIfThen .nil))))
  refine ⟨tidy, ?_, ?_⟩
  · have conserved := (nodes_conserved (.loop .always) tidy).2.2
    have formed : sumAlong (formedBy (.loop .always)) empty loopForProgram = 1 := by decide
    have dissolved : sumAlong (dissolvedBy (.loop .always)) empty loopForProgram = 0 := by decide
    have before : empty.count (.loop .always) = 0 := rfl
    omega
  · have conserved := (nodes_conserved (.ifThen .random) tidy).2.2
    have formed : sumAlong (formedBy (.ifThen .random)) empty loopForProgram = 1 := by decide
    have dissolved : sumAlong (dissolvedBy (.ifThen .random)) empty loopForProgram = 1 := by
      decide
    have before : empty.count (.ifThen .random) = 0 := rfl
    omega

end BlockLanguage.Workbench
