import BlockLanguage.Proofs.Parser.Construct
import BlockLanguage.Proofs.Token.Genuine
import BlockLanguage.Statement.WellFormed

/-!
# The language of the statement parser

The parser of statements and the parser of blocks succeed on the tokens that describe well-formed
trees within the limit of nesting, and on no others; the tree is the described one. A block has
to be followed by nothing or by a word that ends it.
-/

set_option autoImplicit false

namespace BlockLanguage

namespace Parser

open TokenShape (word opening)

/-!
## Described tokens
-/

/-- A well-formed statement that fits into the room for nesting is in front, and the rest is
behind it. -/
structure StatementFront (room : Nat) (tokens : List Token) (child : Statement)
    (rest : List Token) : Prop where
  kind : child.kind ≠ .block
  wellFormed : child.WellFormed
  nesting : child.nesting ≤ room
  inFront : TokenShape.InFront child.shapes tokens rest

/-- A well-formed block that fits into the room for nesting is in front, and the rest, where
blocks end, is behind it. -/
structure BlockFront (room : Nat) (tokens : List Token) (body : Statement)
    (rest : List Token) : Prop where
  isBody : body.IsBody
  nesting : body.nesting ≤ room
  inFront : TokenShape.InFront body.shapes tokens rest
  ends : endsBlock rest = true

variable {room : Nat} {guard : Condition} {tokens rest : List Token}
  {child body thenBlock : Statement} {children : List Statement}

theorem blockFront_nil_iff :
    BlockFront room tokens (.block []) rest ↔ tokens = rest ∧ endsBlock rest = true := by
  constructor
  · intro front
    exact ⟨TokenShape.inFront_nil_iff.mp front.inFront, front.ends⟩
  · intro given
    obtain ⟨rfl, ends⟩ := given
    exact ⟨⟨rfl, Statement.wellFormed_empty⟩, Nat.zero_le _,
      TokenShape.inFront_nil_iff.mpr rfl, ends⟩

/-- A block is in front if its first statement is, and the block of the others behind it. -/
theorem blockFront_cons_iff :
    BlockFront room tokens (.block (child :: children)) rest ↔
      ∃ middle, StatementFront room tokens child middle ∧
        BlockFront room middle (.block children) rest := by
  constructor
  · intro ⟨⟨_, wellFormed⟩, nesting, inFront, ends⟩
    obtain ⟨⟨kind, childWellFormed⟩, othersWellFormed⟩ :=
      Statement.wellFormed_block_cons_iff.mp wellFormed
    obtain ⟨middle, childInFront, othersInFront⟩ := TokenShape.inFront_append_iff.mp inFront
    have bounds := Nat.max_le.mp nesting
    exact ⟨middle, ⟨kind, childWellFormed, bounds.1, childInFront⟩,
      ⟨rfl, othersWellFormed⟩, bounds.2, othersInFront, ends⟩
  · intro ⟨middle, first, others⟩
    exact ⟨⟨rfl, Statement.wellFormed_block_cons_iff.mpr
      ⟨⟨first.kind, first.wellFormed⟩, others.isBody.2⟩⟩,
      Nat.max_le.mpr ⟨first.nesting, others.nesting⟩,
      TokenShape.inFront_append_iff.mpr ⟨middle, first.inFront, others.inFront⟩, others.ends⟩

theorem statementFront_call_iff {name : String} :
    StatementFront room tokens (.call name) rest ↔ call tokens = .ok (.call name, rest) := by
  rw [call_eq_ok_iff]
  constructor
  · intro ⟨_, wellFormed, _, inFront⟩
    obtain ⟨token, fits, rfl⟩ := inFront_singleton_iff.mp inFront
    obtain ⟨rfl, hasClass⟩ := TokenShape.fits_identifier.mp fits
    cases wellFormed with
    | call identifier => exact ⟨token, hasClass, identifier, rfl, rfl⟩
  · intro given
    obtain ⟨token, hasClass, identifier, rfl, same⟩ := given
    cases same
    exact ⟨nofun, .call identifier, Nat.zero_le _,
      inFront_singleton_iff.mpr ⟨token, TokenShape.fits_identifier.mpr ⟨rfl, hasClass⟩, rfl⟩⟩

theorem inFront_guarded_iff {opener divider : Keyword} {shapes : List TokenShape} :
    TokenShape.InFront (opening opener :: .condition guard :: word divider :: shapes) tokens rest ↔
      (∃ token ∈ tokens.head?, (opening opener).Fits token) ∧
        ∃ inner, guarded opener divider tokens = .ok (guard, inner) ∧
          TokenShape.InFront shapes inner rest := by
  constructor
  · intro inFront
    obtain ⟨token, others, rfl, opens, behind⟩ := TokenShape.inFront_cons_iff.mp inFront
    have spelled := TokenShape.fits_word.mpr (TokenShape.fits_opening.mp opens).1
    have words : TokenShape.InFront ([word opener, .condition guard, word divider] ++ shapes)
        (token :: others) rest :=
      TokenShape.inFront_cons_iff.mpr ⟨token, others, rfl, spelled, behind⟩
    obtain ⟨inner, head, tail⟩ := TokenShape.inFront_append_iff.mp words
    exact ⟨⟨token, rfl, opens⟩, inner, (reads_guarded _ _ _ _ _).mpr head, tail⟩
  · intro ⟨⟨token, atHead, opens⟩, inner, readGuard, tail⟩
    have words : TokenShape.InFront ([word opener, .condition guard, word divider] ++ shapes)
        tokens rest :=
      TokenShape.inFront_append_iff.mpr ⟨inner, (reads_guarded _ _ _ _ _).mp readGuard, tail⟩
    obtain ⟨first, others, rfl, _, behind⟩ := TokenShape.inFront_cons_iff.mp words
    cases atHead
    exact TokenShape.inFront_cons_iff.mpr ⟨token, others, rfl, opens, behind⟩

theorem endsBlock_of_closing {opener : Keyword} (closes : closing opener tokens = .ok ((), rest)) :
    endsBlock tokens = true ∧ startsWith .ELSE tokens = false := by
  obtain ⟨token, others, rfl, fits, _⟩ :=
    TokenShape.inFront_cons_iff.mp ((reads_closing opener _ _).mp closes)
  simp [endsBlock, TokenShape.fits_word.mp fits, Keyword.spelling]

theorem endsBlock_of_else (turns : keyword .ELSE tokens = .ok ((), rest)) :
    endsBlock tokens = true := by
  obtain ⟨token, spelled, rfl⟩ := keyword_eq_ok_iff.mp turns
  simp [endsBlock, spelled]

theorem statementFront_ifThen_iff :
    StatementFront (room + 1) tokens (.ifThen guard thenBlock) rest ↔
      leadsTo tokens = some .conditional ∧ ∃ inner after,
        guarded .IF .THEN tokens = .ok (guard, inner) ∧ BlockFront room inner thenBlock after ∧
          startsWith .ELSE after = false ∧ closing .IF after = .ok ((), rest) := by
  rw [leadsTo_eq_conditional_iff]
  constructor
  · intro ⟨_, wellFormed, nesting, inFront⟩
    obtain ⟨leads, inner, readGuard, behind⟩ := inFront_guarded_iff.mp inFront
    obtain ⟨after, blockInFront, closer⟩ := TokenShape.inFront_append_iff.mp behind
    have closes := (reads_closing .IF _ _).mpr closer
    obtain ⟨ends, noElse⟩ := endsBlock_of_closing closes
    cases wellFormed with
    | ifThen isBlock wellFormed =>
        exact ⟨leads, inner, after, readGuard, ⟨⟨isBlock, wellFormed⟩,
          Nat.le_of_succ_le_succ nesting, blockInFront, ends⟩, noElse, closes⟩
  · intro ⟨leads, inner, after, readGuard, front, _, closes⟩
    refine ⟨nofun, .ifThen front.isBody.1 front.isBody.2, Nat.succ_le_succ front.nesting, ?_⟩
    refine inFront_guarded_iff.mpr ⟨leads, inner, readGuard, ?_⟩
    exact TokenShape.inFront_append_iff.mpr
      ⟨after, front.inFront, (reads_closing .IF _ _).mp closes⟩

theorem statementFront_ifElse_iff {elseBlock : Statement} :
    StatementFront (room + 1) tokens (.ifElse guard thenBlock elseBlock) rest ↔
      leadsTo tokens = some .conditional ∧ ∃ inner after otherwise last,
        guarded .IF .THEN tokens = .ok (guard, inner) ∧ BlockFront room inner thenBlock after ∧
          keyword .ELSE after = .ok ((), otherwise) ∧
          BlockFront room otherwise elseBlock last ∧ closing .IF last = .ok ((), rest) := by
  rw [leadsTo_eq_conditional_iff]
  constructor
  · intro ⟨_, wellFormed, nesting, inFront⟩
    obtain ⟨leads, inner, readGuard, behind⟩ := inFront_guarded_iff.mp inFront
    obtain ⟨after, thenInFront, behind⟩ := TokenShape.inFront_append_iff.mp behind
    obtain ⟨otherwise, turns, behind⟩ := inFront_word_cons_iff.mp behind
    obtain ⟨last, elseInFront, closer⟩ := TokenShape.inFront_append_iff.mp behind
    have closes := (reads_closing .IF _ _).mpr closer
    have bounds := Nat.max_le.mp (Nat.le_of_succ_le_succ nesting)
    cases wellFormed with
    | ifElse thenIsBlock thenWellFormed elseIsBlock elseWellFormed =>
        exact ⟨leads, inner, after, otherwise, last, readGuard,
          ⟨⟨thenIsBlock, thenWellFormed⟩, bounds.1, thenInFront, endsBlock_of_else turns⟩, turns,
          ⟨⟨elseIsBlock, elseWellFormed⟩, bounds.2, elseInFront,
            (endsBlock_of_closing closes).1⟩, closes⟩
  · intro ⟨leads, inner, after, otherwise, last, readGuard, thenFront, turns, elseFront, closes⟩
    refine ⟨nofun, .ifElse thenFront.isBody.1 thenFront.isBody.2 elseFront.isBody.1
      elseFront.isBody.2, Nat.succ_le_succ (Nat.max_le.mpr ⟨thenFront.nesting, elseFront.nesting⟩),
      ?_⟩
    refine inFront_guarded_iff.mpr ⟨leads, inner, readGuard, ?_⟩
    refine TokenShape.inFront_append_iff.mpr ⟨after, thenFront.inFront, ?_⟩
    refine inFront_word_cons_iff.mpr ⟨otherwise, turns, ?_⟩
    exact TokenShape.inFront_append_iff.mpr
      ⟨last, elseFront.inFront, (reads_closing .IF _ _).mp closes⟩

theorem statementFront_loop_iff :
    StatementFront (room + 1) tokens (.loop guard body) rest ↔
      leadsTo tokens = some .loop ∧ ∃ inner after,
        guarded .WHILE .DO tokens = .ok (guard, inner) ∧ BlockFront room inner body after ∧
          closing .WHILE after = .ok ((), rest) := by
  rw [leadsTo_eq_loop_iff]
  constructor
  · intro ⟨_, wellFormed, nesting, inFront⟩
    obtain ⟨leads, inner, readGuard, behind⟩ := inFront_guarded_iff.mp inFront
    obtain ⟨after, blockInFront, closer⟩ := TokenShape.inFront_append_iff.mp behind
    have closes := (reads_closing .WHILE _ _).mpr closer
    cases wellFormed with
    | loop isBlock wellFormed =>
        exact ⟨leads, inner, after, readGuard, ⟨⟨isBlock, wellFormed⟩,
          Nat.le_of_succ_le_succ nesting, blockInFront, (endsBlock_of_closing closes).1⟩, closes⟩
  · intro ⟨leads, inner, after, readGuard, front, closes⟩
    refine ⟨nofun, .loop front.isBody.1 front.isBody.2, Nat.succ_le_succ front.nesting, ?_⟩
    refine inFront_guarded_iff.mpr ⟨leads, inner, readGuard, ?_⟩
    exact TokenShape.inFront_append_iff.mpr
      ⟨after, front.inFront, (reads_closing .WHILE _ _).mp closes⟩

/-!
## The statement parser
-/

private theorem endsBlock_eq_false {token : Token}
    (noEnd : token.text ≠ Keyword.END.spelling) (noElse : token.text ≠ Keyword.ELSE.spelling)
    (others : List Token) : endsBlock (token :: others) = false := by
  simp [endsBlock, noEnd, noElse]

/-- No block ends where a statement starts. -/
theorem StatementFront.goesOn (front : StatementFront room tokens child rest) :
    endsBlock tokens = false := by
  obtain ⟨kind, wellFormed, _, inFront⟩ := front
  cases child with
  | block children => exact absurd rfl kind
  | ifThen guard thenBlock =>
      obtain ⟨token, others, rfl, opens, _⟩ := TokenShape.inFront_cons_iff.mp inFront
      have spelled := (TokenShape.fits_opening.mp opens).1
      exact endsBlock_eq_false (by rw [spelled]; decide) (by rw [spelled]; decide) others
  | ifElse guard thenBlock elseBlock =>
      obtain ⟨token, others, rfl, opens, _⟩ := TokenShape.inFront_cons_iff.mp inFront
      have spelled := (TokenShape.fits_opening.mp opens).1
      exact endsBlock_eq_false (by rw [spelled]; decide) (by rw [spelled]; decide) others
  | loop guard body =>
      obtain ⟨token, others, rfl, opens, _⟩ := TokenShape.inFront_cons_iff.mp inFront
      have spelled := (TokenShape.fits_opening.mp opens).1
      exact endsBlock_eq_false (by rw [spelled]; decide) (by rw [spelled]; decide) others
  | call name =>
      obtain ⟨token, fits, rfl⟩ := inFront_singleton_iff.mp inFront
      obtain ⟨rfl, _⟩ := TokenShape.fits_identifier.mp fits
      cases wellFormed with
      | call identifier =>
          have noKeyword : ∀ keyword : Keyword, token.text ≠ keyword.spelling := by
            intro keyword same
            rw [same, isIdentifier_keyword] at identifier
            cases identifier
          exact endsBlock_eq_false (noKeyword .END) (noKeyword .ELSE) rest

/-- A parser of the statements that fit into the room for nesting. -/
def ReadsFronts (room : Nat) (statement : Parser Statement) : Prop :=
  ∀ tokens child rest,
    statement tokens = .ok (child, rest) ↔ StatementFront room tokens child rest

theorem ReadsFronts.readsStatements {statement : Parser Statement}
    (exact : ReadsFronts room statement) : ReadsStatements statement := by
  constructor
  · intro tokens child rest read
    have front := (exact _ _ _).mp read
    have length := front.inFront.length_eq
    have nonempty := List.length_pos_iff.mpr (Statement.shapes_ne_nil front.kind)
    omega
  · intro tokens child rest read
    exact ((exact _ _ _).mp read).kind

/-- If statements are read exactly, blocks are. -/
theorem blockWith_eq_ok_iff {statement : Parser Statement} (exact : ReadsFronts room statement) :
    blockWith statement tokens = .ok (body, rest) ↔ BlockFront room tokens body rest := by
  have reads := exact.readsStatements
  constructor
  · intro success
    -- a statement takes any number of tokens, so the induction is on how many are left
    induction length : tokens.length using Nat.strongRecOn generalizing tokens body with
    | ind size ih =>
        subst length
        cases ends : endsBlock tokens with
        | true =>
            rw [blockWith_of_endsBlock ends] at success
            cases success
            exact blockFront_nil_iff.mpr ⟨rfl, ends⟩
        | false =>
            cases read : statement tokens with
            | error failure =>
                rw [blockWith_of_error reads ends read] at success
                cases success
            | ok value =>
                obtain ⟨child, middle⟩ := value
                rw [blockWith_of_ok reads ends read] at success
                cases others : blockWith statement middle with
                | error failure =>
                    rw [others] at success
                    cases success
                | ok value =>
                    obtain ⟨block, last⟩ := value
                    rw [others] at success
                    cases success
                    have front := ih middle.length (reads.advances read) others rfl
                    obtain ⟨children, rfl⟩ := Statement.kind_eq_block_iff.mp front.isBody.1
                    exact blockFront_cons_iff.mpr ⟨middle, (exact _ _ _).mp read, front⟩
  · intro front
    -- the tree says how many rounds there are
    obtain ⟨children, rfl⟩ := Statement.kind_eq_block_iff.mp front.isBody.1
    induction children generalizing tokens with
    | nil =>
        obtain ⟨rfl, ends⟩ := blockFront_nil_iff.mp front
        exact blockWith_of_endsBlock ends statement
    | cons child children ih =>
        obtain ⟨middle, first, others⟩ := blockFront_cons_iff.mp front
        rw [blockWith_of_ok reads first.goesOn ((exact _ _ _).mpr first), ih others]
        rfl

private theorem leadsTo_of_call (read : call tokens = .ok (child, rest)) :
    leadsTo tokens = some .call := by
  obtain ⟨token, hasClass, _, rfl, _⟩ := call_eq_ok_iff.mp read
  exact leadsTo_eq_call_iff.mpr ⟨token, rfl, hasClass⟩

private theorem statementFront_of_call (read : call tokens = .ok (child, rest)) :
    StatementFront room tokens child rest := by
  obtain ⟨token, _, _, _, rfl⟩ := call_eq_ok_iff.mp read
  exact statementFront_call_iff.mpr read

private theorem readsFronts_statementAround_none (limit : Nat) :
    ReadsFronts 0 (statementAround limit none) := by
  intro tokens child rest
  constructor
  · intro success
    cases tokens with
    | nil => cases success
    | cons token others =>
        rw [statementAround_cons] at success
        cases leads : leadsTo (token :: others) with
        | none =>
            rw [leads] at success
            cases success
        | some opening =>
            rw [leads] at success
            cases opening with
            | call => exact statementFront_of_call success
            | conditional => cases success
            | loop => cases success
  · intro front
    cases child with
    | block children => exact absurd rfl front.kind
    | ifThen guard thenBlock => exact absurd front.nesting (Nat.not_succ_le_zero _)
    | ifElse guard thenBlock elseBlock => exact absurd front.nesting (Nat.not_succ_le_zero _)
    | loop guard body => exact absurd front.nesting (Nat.not_succ_le_zero _)
    | call name =>
        have read := statementFront_call_iff.mp front
        rw [statementAround_of_call (leadsTo_of_call read), read]

private theorem readsFronts_statementAround_some {inner : Parser Statement}
    (exact : ReadsFronts room inner) (limit : Nat) :
    ReadsFronts (room + 1) (statementAround limit (some inner)) := by
  intro tokens child rest
  have blocks : ReadsBlocks (blockWith inner) := fun read =>
    ((blockWith_eq_ok_iff exact).mp read).isBody.1
  constructor
  · intro success
    cases tokens with
    | nil => cases success
    | cons token others =>
        rw [statementAround_cons] at success
        cases leads : leadsTo (token :: others) with
        | none =>
            rw [leads] at success
            cases success
        | some opening =>
            rw [leads] at success
            cases opening with
            | call => exact statementFront_of_call success
            | conditional =>
                obtain ⟨guard, within, thenBlock, after, readGuard, readThen, branches⟩ :=
                  (conditional_eq_ok_iff blocks).mp success
                have thenFront := (blockWith_eq_ok_iff exact).mp readThen
                rcases branches with
                  ⟨noElse, closes, rfl⟩ |
                    ⟨otherwise, elseBlock, last, turns, readElse, closes, rfl⟩
                · exact statementFront_ifThen_iff.mpr
                    ⟨leads, within, after, readGuard, thenFront, noElse, closes⟩
                · exact statementFront_ifElse_iff.mpr ⟨leads, within, after, otherwise, last,
                    readGuard, thenFront, turns, (blockWith_eq_ok_iff exact).mp readElse, closes⟩
            | loop =>
                obtain ⟨guard, within, body, after, readGuard, readBody, closes, rfl⟩ :=
                  (loop_eq_ok_iff blocks).mp success
                exact statementFront_loop_iff.mpr ⟨leads, within, after, readGuard,
                  (blockWith_eq_ok_iff exact).mp readBody, closes⟩
  · intro front
    cases child with
    | block children => exact absurd rfl front.kind
    | ifThen guard thenBlock =>
        obtain ⟨leads, within, after, readGuard, thenFront, noElse, closes⟩ :=
          statementFront_ifThen_iff.mp front
        rw [statementAround_of_conditional leads]
        exact (conditional_eq_ok_iff blocks).mpr ⟨guard, within, thenBlock, after, readGuard,
          (blockWith_eq_ok_iff exact).mpr thenFront, .inl ⟨noElse, closes, rfl⟩⟩
    | ifElse guard thenBlock elseBlock =>
        obtain ⟨leads, within, after, otherwise, last, readGuard, thenFront, turns, elseFront,
          closes⟩ := statementFront_ifElse_iff.mp front
        rw [statementAround_of_conditional leads]
        exact (conditional_eq_ok_iff blocks).mpr ⟨guard, within, thenBlock, after, readGuard,
          (blockWith_eq_ok_iff exact).mpr thenFront, .inr ⟨otherwise, elseBlock, last, turns,
            (blockWith_eq_ok_iff exact).mpr elseFront, closes, rfl⟩⟩
    | loop guard body =>
        obtain ⟨leads, within, after, readGuard, bodyFront, closes⟩ :=
          statementFront_loop_iff.mp front
        rw [statementAround_of_loop leads]
        exact (loop_eq_ok_iff blocks).mpr ⟨guard, within, body, after, readGuard,
          (blockWith_eq_ok_iff exact).mpr bodyFront, closes, rfl⟩
    | call name =>
        have read := statementFront_call_iff.mp front
        rw [statementAround_of_call (leadsTo_of_call read), read]

/-- Where there is room for nesting, statements are read exactly. -/
theorem readsFronts_statementWithin (limit room : Nat) :
    ReadsFronts room (statementWithin limit room) := by
  induction room with
  | zero => exact readsFronts_statementAround_none limit
  | succ room ih => exact readsFronts_statementAround_some ih limit

theorem statement_eq_ok_iff {requested : Nat} :
    statement requested tokens = .ok (child, rest) ↔
      StatementFront (nestingLimit requested) tokens child rest :=
  readsFronts_statementWithin _ _ tokens child rest

theorem block_eq_ok_iff {requested : Nat} :
    block requested tokens = .ok (body, rest) ↔
      BlockFront (nestingLimit requested) tokens body rest :=
  blockWith_eq_ok_iff (readsFronts_statementWithin _ _)

theorem StatementFront.mono {more : Nat} (front : StatementFront room tokens child rest)
    (grows : room ≤ more) : StatementFront more tokens child rest :=
  ⟨front.kind, front.wellFormed, Nat.le_trans front.nesting grows, front.inFront⟩

theorem BlockFront.mono {more : Nat} (front : BlockFront room tokens body rest)
    (grows : room ≤ more) : BlockFront more tokens body rest :=
  ⟨front.isBody, Nat.le_trans front.nesting grows, front.inFront, front.ends⟩

/-- One statement at most is in front of given tokens: a parser with room for both reads it. -/
theorem StatementFront.unique {otherRoom : Nat} {other : Statement} {last : List Token}
    (front : StatementFront room tokens child rest)
    (otherFront : StatementFront otherRoom tokens other last) : child = other ∧ rest = last := by
  -- the limit only shows in errors, so any will do
  have exact := readsFronts_statementWithin 0 (max room otherRoom)
  have read := (exact _ _ _).mpr (front.mono (Nat.le_max_left _ _))
  rw [(exact _ _ _).mpr (otherFront.mono (Nat.le_max_right _ _))] at read
  cases read
  exact ⟨rfl, rfl⟩

theorem BlockFront.unique {otherRoom : Nat} {other : Statement} {last : List Token}
    (front : BlockFront room tokens body rest)
    (otherFront : BlockFront otherRoom tokens other last) : body = other ∧ rest = last := by
  have exact := readsFronts_statementWithin 0 (max room otherRoom)
  have read := (blockWith_eq_ok_iff exact).mpr (front.mono (Nat.le_max_left _ _))
  rw [(blockWith_eq_ok_iff exact).mpr (otherFront.mono (Nat.le_max_right _ _))] at read
  cases read
  exact ⟨rfl, rfl⟩

/-- Blocks are read exactly from the tokens that describe a well-formed block within the limit of
nesting and are followed by nothing, END or ELSE, and single statements exactly from the tokens
that describe one. At any depth of nesting the tokens describe one tree only. -/
theorem block_statement_language (requested : Nat) (tokens : List Token) :
    (∀ body rest, block requested tokens = .ok (body, rest) ↔
      body.IsBody ∧ body.nesting ≤ min requested 1024 ∧
        (∃ front, body.Describes front ∧ tokens = front ++ rest) ∧
        (rest = [] ∨ ∃ token others, rest = token :: others ∧
          (token.text = Keyword.END.spelling ∨ token.text = Keyword.ELSE.spelling))) ∧
    (∀ child rest, statement requested tokens = .ok (child, rest) ↔
      child.kind ≠ .block ∧ child.WellFormed ∧ child.nesting ≤ min requested 1024 ∧
        ∃ front, child.Describes front ∧ tokens = front ++ rest) ∧
    (∀ body other : Statement, body.IsBody → other.IsBody →
      body.Describes tokens → other.Describes tokens → body = other) ∧
    ∀ child other : Statement, child.kind ≠ .block → child.WellFormed → other.kind ≠ .block →
      other.WellFormed → child.Describes tokens → other.Describes tokens → child = other := by
  rw [← nestingLimit_eq]
  refine ⟨fun body rest => ?_, fun child rest => ?_, ?_, ?_⟩
  · rw [block_eq_ok_iff, ← endsBlock_iff]
    constructor
    · intro ⟨isBody, nesting, inFront, ends⟩
      exact ⟨isBody, nesting, inFront, ends⟩
    · intro ⟨isBody, nesting, inFront, ends⟩
      exact ⟨isBody, nesting, inFront, ends⟩
  · rw [statement_eq_ok_iff]
    constructor
    · intro ⟨kind, wellFormed, nesting, inFront⟩
      exact ⟨kind, wellFormed, nesting, inFront⟩
    · intro ⟨kind, wellFormed, nesting, inFront⟩
      exact ⟨kind, wellFormed, nesting, inFront⟩
  · intro body other isBody otherIsBody described otherDescribed
    have front : BlockFront body.nesting tokens body [] :=
      ⟨isBody, Nat.le_refl _, ⟨tokens, described, by simp⟩, rfl⟩
    have otherFront : BlockFront other.nesting tokens other [] :=
      ⟨otherIsBody, Nat.le_refl _, ⟨tokens, otherDescribed, by simp⟩, rfl⟩
    exact (front.unique otherFront).1
  · intro child other kind wellFormed otherKind otherWellFormed described otherDescribed
    have front : StatementFront child.nesting tokens child [] :=
      ⟨kind, wellFormed, Nat.le_refl _, tokens, described, by simp⟩
    have otherFront : StatementFront other.nesting tokens other [] :=
      ⟨otherKind, otherWellFormed, Nat.le_refl _, tokens, otherDescribed, by simp⟩
    exact (front.unique otherFront).1

end Parser

end BlockLanguage
