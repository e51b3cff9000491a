import BlockLanguage.Parser.Program
import BlockLanguage.Program.Printer
import BlockLanguage.Program.Summary
import BlockLanguage.Workbench.Basic

/-!
# Actions at a workbench

Every operation on statements, contexts and programs is an action on named values. An action
answers or is refused. It does not name a value twice, since it could not move a part from a
value into the same value.
-/

set_option autoImplicit false

namespace BlockLanguage.Workbench

inductive Action where
  /-- Puts any tree in place, well-formed or not. -/
  | put (target : Slot) (value : Statement)
  | readBlock (target : Slot) (source : String) (requested : Nat)
  | readStatement (target : Slot) (source : String) (requested : Nat)
  | inspect (target : Slot)
  | copy (source target : Slot)
  | equal (left right : Slot)
  /-- Puts a fresh statement in place, whatever the other one holds. -/
  | freshLike (source target : Slot)
  | kind (target : Slot)
  | isEmpty (target : Slot)
  | childCount (target : Slot)
  | insertChild (target child : Slot) (index : Nat)
  | removeChild (target removed : Slot) (index : Nat)
  | formIfThen (target : Slot) (condition : Condition) (thenBlock : Slot)
  | formIfElse (target : Slot) (condition : Condition) (thenBlock elseBlock : Slot)
  | formLoop (target : Slot) (condition : Condition) (body : Slot)
  | formCall (target : Slot) (instruction : String)
  | dissolveIfThen (target thenBlock : Slot)
  | dissolveIfElse (target thenBlock elseBlock : Slot)
  | dissolveLoop (target body : Slot)
  | dissolveCall (target : Slot)
  | print (target : Slot) (indent : Nat)
  /-- Moves a statement into a context, over an entry of the same name. -/
  | insertEntry (context name : String) (source : Slot)
  /-- Moves an entry of a context out of it, if there is one. -/
  | removeEntry (context name : String) (target : Slot)
  | freshContext (program context : String)
  | freshBody (program : String) (target : Slot)
  | name (program : String)
  | rename (program name : String)
  | exchangeContext (program context : String)
  | exchangeBody (program : String) (body : Slot)
  | readProgram (program source : String) (requested : Nat)
  | printProgram (program : String)
  | summary (program : String)
  | equalPrograms (left right : String)
  deriving Repr

/-- The names of the values of each type that an action uses, statements first. -/
def Action.uses : Action → List (List String)
  | put target _ | readBlock target _ _ | readStatement target _ _ | inspect target
  | kind target | isEmpty target | childCount target | formCall target _
  | dissolveCall target | print target _ => [target.toList]
  | copy first second | equal first second | freshLike first second | insertChild first second _
  | removeChild first second _ | formIfThen first _ second | formLoop first _ second
  | dissolveIfThen first second | dissolveLoop first second =>
    [first.toList ++ second.toList]
  | formIfElse target _ thenBlock elseBlock | dissolveIfElse target thenBlock elseBlock =>
    [target.toList ++ thenBlock.toList ++ elseBlock.toList]
  | insertEntry context _ slot | removeEntry context _ slot => [slot.toList, [context]]
  | freshContext program context | exchangeContext program context => [[context], [program]]
  | freshBody program slot | exchangeBody program slot => [slot.toList, [program]]
  | name program | rename program _ | readProgram program _ _ | printProgram program
  | summary program => [[program]]
  | equalPrograms left right => [[left, right]]

/-- Whether an action names a value twice. -/
def Action.repeatsName (action : Action) : Bool :=
  action.uses.any fun names => decide ¬ names.Nodup

inductive Answer where
  | done
  | flag (holds : Bool)
  | count (number : Nat)
  | text (text : String)
  | condition (condition : Condition)
  | kind (kind : Kind)
  deriving DecidableEq, Repr

inductive Refusal where
  | repeatedName
  | parse (error : ParseError)
  | violation (violation : Violation)
  deriving DecidableEq, Repr

def Refusal.ofParseFailure : ParseFailure → Refusal
  | .refused error => .parse error
  | .violated broken => .violation broken

abbrev Work (α : Type) := EStateM Refusal Workbench α

namespace Work

variable {σ α : Type}

/-- Edits the values at a place. They stay as the edit leaves them, also after a violation. -/
def edit (place : Place σ) (change : Edit σ α) : Work α := fun bench =>
  match change.run (place.read bench) with
  | .ok result changed => .ok result (place.write changed bench)
  | .error violation changed => .error (.violation violation) (place.write changed bench)

def look (place : Place σ) : Work σ := do
  return place.read (← get)

def put (place : Place σ) (value : σ) : Work Unit :=
  modify (place.write value)

/-- Puts what a parser reads from the front of a source text in place, and counts the tokens
that are left over. -/
def parse (place : Place σ) (parser : Parser σ) (source : String) : Work Nat :=
  match parser.run (tokenize source) with
  | .ok (value, rest) => do
    put place value
    return rest.length
  | .error failure => throw (.ofParseFailure failure)

end Work

open Work

def perform : Action → Work Answer
  | .put target value => do
    put (statementAt target) value
    return .done
  | .readBlock target source requested =>
    return .count (← parse (statementAt target) (Parser.block requested) source)
  | .readStatement target source requested =>
    return .count (← parse (statementAt target) (Parser.statement requested) source)
  | .inspect _ => return .done
  | .copy source target => do
    put (statementAt target) (← look (statementAt source))
    return .done
  | .equal left right =>
    return .flag ((← look (statementAt left)) == (← look (statementAt right)))
  | .freshLike _ target => do
    put (statementAt target) .empty
    return .done
  | .kind target => return .kind (← look (statementAt target)).kind
  | .isEmpty target => return .flag (← look (statementAt target)).isEmpty
  | .childCount target => return .count (← edit (statementAt target) Statement.childCount)
  | .insertChild target child index => do
    edit ((statementAt target).beside (statementAt child)) (Statement.insertChild index)
    return .done
  | .removeChild target removed index => do
    put (statementAt removed) (← edit (statementAt target) (Statement.removeChild index))
    return .done
  | .formIfThen target condition thenBlock => do
    edit ((statementAt target).beside (statementAt thenBlock)) (Statement.formIfThen condition)
    return .done
  | .formIfElse target condition thenBlock elseBlock => do
    edit ((statementAt target).beside ((statementAt thenBlock).beside (statementAt elseBlock)))
      (Statement.formIfElse condition)
    return .done
  | .formLoop target condition body => do
    edit ((statementAt target).beside (statementAt body)) (Statement.formLoop condition)
    return .done
  | .formCall target instruction => do
    edit (statementAt target) (Statement.formCall instruction)
    return .done
  | .dissolveIfThen target thenBlock =>
    return .condition
      (← edit ((statementAt target).beside (statementAt thenBlock)) Statement.dissolveIfThen)
  | .dissolveIfElse target thenBlock elseBlock =>
    return .condition
      (← edit ((statementAt target).beside
          ((statementAt thenBlock).beside (statementAt elseBlock)))
        Statement.dissolveIfElse)
  | .dissolveLoop target body =>
    return .condition
      (← edit ((statementAt target).beside (statementAt body)) Statement.dissolveLoop)
  | .dissolveCall target =>
    return .text (← edit (statementAt target) Statement.dissolveCall)
  | .print target indent => return .text ((← look (statementAt target)).render indent)
  | .insertEntry context name source => do
    let entries ← look (contextAt context)
    put (contextAt context) (entries.insert name (← look (statementAt source)))
    put (statementAt source) .empty
    return .flag (entries.contains name)
  | .removeEntry context name target => do
    let entries ← look (contextAt context)
    match entries.get? name with
    | some body =>
      put (contextAt context) (entries.erase name)
      put (statementAt target) body
      return .flag true
    | none => return .flag false
  | .freshContext _ context => do
    put (contextAt context) NameMap.empty
    return .done
  | .freshBody _ target => do
    put (statementAt target) .empty
    return .done
  | .name program => return .text (← look (programAt program)).name
  | .rename program name => do
    edit (programAt program) (Program.rename name)
    return .done
  | .exchangeContext program context => do
    edit ((programAt program).beside (contextAt context)) Program.exchangeContext
    return .done
  | .exchangeBody program body => do
    edit ((programAt program).beside (statementAt body)) Program.exchangeBody
    return .done
  | .readProgram program source requested => do
    let _ ← parse (programAt program) (Parser.program requested) source
    return .done
  | .printProgram program => return .text (← look (programAt program)).render
  | .summary program => do
    match (← look (programAt program)).summary with
    | .ok text => return .text text
    | .error violation => throw (.violation violation)
  | .equalPrograms left right =>
    return .flag ((← look (programAt left)) == (← look (programAt right)))

/-- Does an action, and gives the answer or the reason why it is refused. -/
def step (bench : Workbench) (action : Action) : Workbench × Except Refusal Answer :=
  if action.repeatsName then
    (bench, .error .repeatedName)
  else
    match (perform action).run bench with
    | .ok answer after => (after, .ok answer)
    | .error refusal after => (after, .error refusal)

/-- The workbench after a sequence of actions, refused ones included. -/
def after (bench : Workbench) (actions : List Action) : Workbench :=
  actions.foldl (fun current action => (current.step action).1) bench

end BlockLanguage.Workbench
