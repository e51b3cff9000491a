import BlockLanguage.Proofs.Parser.StatementGrammar
import BlockLanguage.Proofs.Printing.Site

/-!
# Parsing printed statements

What the parsers make of the lines of a well-formed statement: the statement itself where its
nesting is within the limit, and otherwise the error at the line of its first site that is too
deep.
-/

set_option autoImplicit false

namespace BlockLanguage

namespace Parser

open TokenShape (word opening)
open Line (tokensOfAll)

variable {room line level : Nat} {child body : Statement} {children : List Statement}
  {rest : List Token}

/-!
## Lines within the limit
-/

theorem statementFront_lines (noBlock : child.kind ≠ .block) (wellFormed : child.WellFormed)
    (fits : child.nesting ≤ room) (line level : Nat) (rest : List Token) :
    StatementFront room (tokensOfAll line (child.lines level) ++ rest) child rest :=
  ⟨noBlock, wellFormed, fits, _,
    (Statement.spellAll_lines wellFormed.callsIdentifiers level).fitAll line, rfl⟩

theorem blockFront_lines (isBody : body.IsBody) (fits : body.nesting ≤ room)
    (ends : endsBlock rest = true) (line level : Nat) :
    BlockFront room (tokensOfAll line (body.lines level) ++ rest) body rest :=
  ⟨isBody, fits, ⟨_, (Statement.spellAll_lines isBody.2.callsIdentifiers level).fitAll line, rfl⟩,
    ends⟩

/-!
## Lines beyond the limit
-/

/-- The line that opens a conditional or a loop is the one at fault where there is no room for
nesting. Elsewhere it depends on what is inside. -/
private theorem statementWithin_of_head {limit depth : Nat} {head : Line}
    {opener divider : Keyword} {guard : Condition}
    (spells : head.Spells [opening opener, .condition guard, word divider]) {start : Opening}
    (leads : ∀ others, leadsTo (head.tokens line ++ others) = some start) (nests : start ≠ .call)
    (sum : depth + room = limit) {inner : List Site} {site : Site} {others : List Token}
    (found : firstTooDeep? limit (⟨depth, line⟩ :: inner) = some site)
    (inside : ∀ less, depth + 1 + less = limit → firstTooDeep? limit inner = some site →
      statementAround limit (some (statementWithin limit less)) (head.tokens line ++ others) =
        .error (.refused (.tooDeep limit site.line))) :
    statementWithin limit room (head.tokens line ++ others) =
      .error (.refused (.tooDeep limit site.line)) := by
  cases room with
  | zero =>
      obtain rfl : depth = limit := sum
      rw [firstTooDeep?_cons_of_le (Nat.le_refl depth)] at found
      cases found
      have opens := leads others
      rw [spells.tokens_eq, List.map_cons, List.cons_append] at opens ⊢
      exact statementAround_none opens nests depth
  | succ room =>
      rw [firstTooDeep?_cons_of_lt (by omega)] at found
      exact inside room (by omega) found

private theorem leadsTo_of_spells {head : Line} {opener divider : Keyword} {guard : Condition}
    (spells : head.Spells [opening opener, .condition guard, word divider]) (line : Nat)
    (others : List Token) :
    leadsTo (head.tokens line ++ others) = Opening.ofToken? ((opening opener).token line) := by
  rw [spells.tokens_eq]
  rfl

private theorem guarded_of_spells {head : Line} {opener divider : Keyword} {guard : Condition}
    (spells : head.Spells [opening opener, .condition guard, word divider]) (line : Nat)
    (others : List Token) :
    guarded opener divider (head.tokens line ++ others) = .ok (guard, others) := by
  have fit := TokenShape.fitAll_map_token spells.spelled line
  rw [← spells.tokens_eq] at fit
  obtain ⟨_, inner, readGuard, ended⟩ := inFront_guarded_iff.mp ⟨_, fit, rfl⟩
  obtain rfl := TokenShape.inFront_nil_iff.mp ended
  exact readGuard

private theorem leadsTo_ifLine (level line : Nat) (guard : Condition) (others : List Token) :
    leadsTo ((⟨level, "IF " ++ guard.spelling ++ " THEN"⟩ : Line).tokens line ++ others) =
      some .conditional := by
  rw [leadsTo_of_spells (Line.spells_if level guard)]
  exact ofToken?_eq_conditional_iff.mpr ((TokenShape.spelled_opening .IF).fits line)

private theorem elseLine_tokens (level line : Nat) :
    (⟨level, "ELSE"⟩ : Line).tokens line = [(word .ELSE).token line] :=
  (Line.spells_else level).tokens_eq line

private theorem keyword_else (line : Nat) (others : List Token) :
    keyword .ELSE ((word .ELSE).token line :: others) = .ok ((), others) :=
  keyword_eq_ok_iff.mpr ⟨_, rfl, rfl⟩

private theorem leadsTo_loopLine (level line : Nat) (guard : Condition) (others : List Token) :
    leadsTo ((⟨level, "WHILE " ++ guard.spelling ++ " DO"⟩ : Line).tokens line ++ others) =
      some .loop := by
  rw [leadsTo_of_spells (Line.spells_loop level guard)]
  exact ofToken?_eq_loop_iff.mpr ((TokenShape.spelled_opening .WHILE).fits line)

/-- The first site that is too deep stops the parser of single statements on the lines of the
statement. -/
def StatementStops (limit : Nat) (child : Statement) : Prop :=
  ∀ ⦃depth room line level : Nat⦄ ⦃site : Site⦄, depth + room = limit →
    firstTooDeep? limit (child.sites depth line) = some site → ∀ rest,
      statementWithin limit room (tokensOfAll line (child.lines level) ++ rest) =
        .error (.refused (.tooDeep limit site.line))

/-- The first site that is too deep stops the parser of blocks on the lines of the block. -/
def BlockStops (limit : Nat) (body : Statement) : Prop :=
  ∀ ⦃depth room line level : Nat⦄ ⦃site : Site⦄, depth + room = limit →
    firstTooDeep? limit (body.sites depth line) = some site → ∀ rest,
      blockWith (statementWithin limit room) (tokensOfAll line (body.lines level) ++ rest) =
        .error (.refused (.tooDeep limit site.line))

variable {limit : Nat} {guard : Condition} {thenBlock elseBlock : Statement}

private theorem fits_of_no_site {depth : Nat} (sum : depth + room = limit)
    (found : firstTooDeep? limit (child.sites depth line) = none) : child.nesting ≤ room := by
  have fits := (Statement.firstTooDeep?_sites_eq_none_iff (by omega) child line).mp found
  omega

theorem blockStops_block (wellFormed : (Statement.block children).WellFormed)
    (each : ∀ child ∈ children, StatementStops limit child) :
    BlockStops limit (.block children) := by
  intro depth room line level site sum found rest
  have exact := readsFronts_statementWithin limit room
  have reads := exact.readsStatements
  change firstTooDeep? limit (Statement.sitesOfAll depth line children) = some site at found
  change blockWith _ (tokensOfAll line (Statement.linesOfAll level children) ++ rest) = _
  induction children generalizing line with
  | nil => cases found
  | cons child children ih =>
      rw [List.forall_mem_cons] at each
      obtain ⟨⟨noBlock, childWellFormed⟩, othersWellFormed⟩ :=
        Statement.wellFormed_block_cons_iff.mp wellFormed
      rw [Statement.linesOfAll, Line.tokensOfAll_append, List.append_assoc,
        Statement.length_lines]
      rw [Statement.sitesOfAll, firstTooDeep?_append] at found
      have goesOn := (statementFront_lines noBlock childWellFormed (Nat.le_refl _) line level
        (tokensOfAll (line + child.height) (Statement.linesOfAll level children) ++ rest)).goesOn
      cases first : firstTooDeep? limit (child.sites depth line) with
      | some early =>
          rw [first, Option.some_or] at found
          cases found
          exact blockWith_of_error reads goesOn (each.1 sum first _)
      | none =>
          -- the first child fits, so it is read whole and the site is among the others
          rw [first, Option.none_or] at found
          have front := statementFront_lines noBlock childWellFormed (fits_of_no_site sum first)
            line level (tokensOfAll (line + child.height)
              (Statement.linesOfAll level children) ++ rest)
          rw [blockWith_of_ok reads goesOn ((exact _ _ _).mpr front),
            ih othersWellFormed each.2 found]
          rfl

theorem statementStops_ifThen (stops : BlockStops limit thenBlock) :
    StatementStops limit (.ifThen guard thenBlock) := by
  intro depth room line level site sum found rest
  rw [Statement.lines, tokensOfAll, List.append_assoc]
  refine statementWithin_of_head (Line.spells_if level guard) (leadsTo_ifLine level line guard)
    (by decide) sum found fun less sum found => ?_
  rw [statementAround_of_conditional (leadsTo_ifLine level line guard _),
    Line.tokensOfAll_append, List.append_assoc]
  exact conditional_of_error (guarded_of_spells (Line.spells_if level guard) line _)
    (stops sum found _)

theorem statementStops_ifElse (thenIsBody : thenBlock.IsBody) (thenStops : BlockStops limit thenBlock)
    (elseStops : BlockStops limit elseBlock) :
    StatementStops limit (.ifElse guard thenBlock elseBlock) := by
  intro depth room line level site sum found rest
  rw [Statement.lines, tokensOfAll, List.append_assoc]
  refine statementWithin_of_head (Line.spells_if level guard) (leadsTo_ifLine level line guard)
    (by decide) sum found fun less sum found => ?_
  have readGuard := fun others => guarded_of_spells (Line.spells_if level guard) line others
  rw [statementAround_of_conditional (leadsTo_ifLine level line guard _),
    Line.tokensOfAll_append, List.append_assoc]
  rw [firstTooDeep?_append] at found
  cases first : firstTooDeep? limit (thenBlock.sites (depth + 1) (line + 1)) with
  | some early =>
      rw [first, Option.some_or] at found
      cases found
      exact conditional_of_error (readGuard _) (thenStops sum first _)
  | none =>
      rw [first, Option.none_or] at found
      rw [tokensOfAll, elseLine_tokens, Statement.length_lines, Line.tokensOfAll_append,
        List.singleton_append, List.cons_append, List.append_assoc]
      -- the parser does not get as far as the closing line
      generalize tokensOfAll _ [_] ++ rest = after
      have turns := keyword_else (line + 1 + thenBlock.height)
        (tokensOfAll (line + 1 + thenBlock.height + 1) (elseBlock.lines (level + 1)) ++ after)
      have front := blockFront_lines thenIsBody (fits_of_no_site sum first)
        (endsBlock_of_else turns) (line + 1) (level + 1)
      have readThen := (blockWith_eq_ok_iff (readsFronts_statementWithin limit less)).mpr front
      exact conditional_of_else_error (readGuard _) readThen turns (elseStops sum found after)

theorem statementStops_loop (stops : BlockStops limit body) :
    StatementStops limit (.loop guard body) := by
  intro depth room line level site sum found rest
  rw [Statement.lines, tokensOfAll, List.append_assoc]
  refine statementWithin_of_head (Line.spells_loop level guard) (leadsTo_loopLine level line guard)
    (by decide) sum found fun less sum found => ?_
  rw [statementAround_of_loop (leadsTo_loopLine level line guard _),
    Line.tokensOfAll_append, List.append_assoc]
  exact loop_of_error (guarded_of_spells (Line.spells_loop level guard) line _)
    (stops sum found _)

/-- Every well-formed statement stops the parser at its first site that is too deep. -/
theorem stops_of_wellFormed {statement : Statement} (wellFormed : statement.WellFormed)
    (limit : Nat) :
    (statement.kind = .block → BlockStops limit statement) ∧
      (statement.kind ≠ .block → StatementStops limit statement) := by
  induction wellFormed with
  | block noBlocks wellFormed ih =>
      refine ⟨fun _ => blockStops_block (.block noBlocks wellFormed) fun child member => ?_,
        fun noBlock => absurd rfl noBlock⟩
      exact (ih child member).2 (noBlocks child member)
  | ifThen isBlock _ ih =>
      exact ⟨nofun, fun _ => statementStops_ifThen (ih.1 isBlock)⟩
  | ifElse thenIsBlock thenWellFormed elseIsBlock _ thenIH elseIH =>
      exact ⟨nofun, fun _ => statementStops_ifElse ⟨thenIsBlock, thenWellFormed⟩
        (thenIH.1 thenIsBlock) (elseIH.1 elseIsBlock)⟩
  | loop isBlock _ ih =>
      exact ⟨nofun, fun _ => statementStops_loop (ih.1 isBlock)⟩
  | call _ => exact ⟨nofun, fun _ _ _ _ _ _ _ found => nomatch found⟩

/-!
## Blocks
-/

variable {requested : Nat}

theorem block_lines (isBody : body.IsBody) (fits : body.nesting ≤ nestingLimit requested)
    (ends : endsBlock rest = true) (line level : Nat) :
    block requested (tokensOfAll line (body.lines level) ++ rest) = .ok (body, rest) :=
  block_eq_ok_iff.mpr (blockFront_lines isBody fits ends line level)

theorem block_lines_of_tooDeep (isBody : body.IsBody) {site : Site}
    (found : firstTooDeep? (nestingLimit requested) (body.sites 0 line) = some site)
    (level : Nat) (rest : List Token) :
    block requested (tokensOfAll line (body.lines level) ++ rest) =
      .error (.refused (.tooDeep (nestingLimit requested) site.line)) :=
  (stops_of_wellFormed isBody.2 _).1 isBody.1 (Nat.zero_add _) found rest

theorem exists_firstTooDeep? (beyond : nestingLimit requested < body.nesting) (line : Nat) :
    ∃ site, firstTooDeep? (nestingLimit requested) (body.sites 0 line) = some site := by
  cases found : firstTooDeep? (nestingLimit requested) (body.sites 0 line) with
  | some site => exact ⟨site, rfl⟩
  | none =>
      have fits := (Statement.firstTooDeep?_sites_eq_none_iff (Nat.zero_le _) body line).mp found
      omega

end Parser

end BlockLanguage
