import TableQuery.Proofs.Phrases

/-!
# Stages of a statement

Which kinds of token can come next in a statement depends on what was read so far only by the stage
that has been reached. The stages and the steps between them are a finite automaton.

* `Stage`, `Stage.moves`: the stages, and where each kind of token leads.
* `Stage.isFinal`: the stages in which a statement can end.
* `Stage.follow`: where a list of tokens stops, if it is read from a stage on.
* `Stage.after?`, `Stage.follow_eq_ok_iff`, `Stage.follow_eq_error`: the stage after some tokens,
  and whether all are read.
* `takeToken_bind`, `takeCommaSeparated_bind`, and so on: each part of the parser goes through
  stages of its own.
* `forget_parseTokens`: the parser stops where the automaton stops.
-/

namespace TableQuery

open Grammar

/-! ### The automaton -/

/-- What has been read, or is to come. -/
inductive Stage
  | start
  -- `SELECT`
  | selectItem | afterItem | selectedTable | afterSelectedTable | selectedClause
  | orderBy | orderColumn | afterOrderColumn | limitNumber
  -- `INSERT`
  | into | insertedTable | afterInsertedTable | insertedColumn | afterInsertedColumn
  | values | openValues | insertedValue | afterInsertedValue
  -- `UPDATE`
  | updatedTable | set | assignedColumn | equal | assignedValue | afterAssignment
  -- `DELETE`
  | deleteFrom | deletedTable | afterDeletedTable | changeClause
  -- `ALTER`
  | alterTable | alteredTable | action
  -- the end
  | afterFilter | afterOrder | ended | closed
  deriving DecidableEq

namespace Stage

/-- A statement can end. -/
def endMoves : List (List TokenKind × Stage) := [([.semicolon], .closed)]

/-- A limit can come first. -/
def limitMoves : List (List TokenKind × Stage) := ([.keyword .LIMIT], .limitNumber) :: endMoves

/-- An order can come before it. -/
def orderMoves : List (List TokenKind × Stage) := ([.keyword .ORDER], .orderBy) :: limitMoves

/-- Where the kinds of token lead that can come next. -/
def moves : Stage → List (List TokenKind × Stage)
  | .start =>
    [([.keyword .SELECT], .selectItem), ([.keyword .INSERT], .into),
      ([.keyword .UPDATE], .updatedTable), ([.keyword .DELETE], .deleteFrom),
      ([.keyword .ALTER], .alterTable)]
  | .selectItem => [(.star :: nameKinds, .afterItem)]
  | .afterItem => [([.comma], .selectItem), ([.keyword .FROM], .selectedTable)]
  | .selectedTable => [(nameKinds, .afterSelectedTable)]
  | .afterSelectedTable => ([.keyword .WHERE], .selectedClause) :: orderMoves
  | .selectedClause => (clauseKinds, .selectedClause) :: orderMoves
  | .orderBy => [([.keyword .BY], .orderColumn)]
  | .orderColumn => [(nameKinds, .afterOrderColumn)]
  | .afterOrderColumn => ([.keyword .ASC, .keyword .DESC], .afterOrder) :: limitMoves
  | .limitNumber => [([.number], .ended)]
  | .into => [([.keyword .INTO], .insertedTable)]
  | .insertedTable => [(nameKinds, .afterInsertedTable)]
  | .afterInsertedTable => [([.leftParen], .insertedColumn), ([.keyword .VALUES], .openValues)]
  | .insertedColumn => [(nameKinds, .afterInsertedColumn)]
  | .afterInsertedColumn => [([.comma], .insertedColumn), ([.rightParen], .values)]
  | .values => [([.keyword .VALUES], .openValues)]
  | .openValues => [([.leftParen], .insertedValue)]
  | .insertedValue => [(literalKinds, .afterInsertedValue)]
  | .afterInsertedValue => [([.comma], .insertedValue), ([.rightParen], .ended)]
  | .updatedTable => [(nameKinds, .set)]
  | .set => [([.keyword .SET], .assignedColumn)]
  | .assignedColumn => [(nameKinds, .equal)]
  | .equal => [([.equal], .assignedValue)]
  | .assignedValue => [(literalKinds, .afterAssignment)]
  | .afterAssignment =>
    ([.comma], .assignedColumn) :: ([.keyword .WHERE], .changeClause) :: endMoves
  | .deleteFrom => [([.keyword .FROM], .deletedTable)]
  | .deletedTable => [(nameKinds, .afterDeletedTable)]
  | .afterDeletedTable => ([.keyword .WHERE], .changeClause) :: endMoves
  | .changeClause => (clauseKinds, .changeClause) :: endMoves
  | .alterTable => [([.keyword .TABLE], .alteredTable)]
  | .alteredTable => [(nameKinds, .action)]
  | .action => (actionKinds, .action) :: endMoves
  | .afterFilter => orderMoves
  | .afterOrder => limitMoves
  | .ended => endMoves
  | .closed => []

/-- The stage after a token of a kind. -/
def next? (stage : Stage) (kind : TokenKind) : Option Stage :=
  (stage.moves.find? fun move => move.1.contains kind).map Prod.snd

/-- The stages in which a statement can end. -/
def isFinal : Stage → Bool
  | .afterSelectedTable | .selectedClause | .afterFilter | .afterOrderColumn | .afterOrder
  | .afterAssignment | .afterDeletedTable | .changeClause | .action | .ended | .closed => true
  | _ => false

/-- Read tokens from a stage on, up to the first that cannot come next. -/
def follow (stage : Stage) : List Token → Except Obstacle Unit
  | [] => if stage.isFinal then .ok () else .error none
  | token :: rest =>
    match stage.next? token.kind with
    | some next => next.follow rest
    | none => .error (some token)

/-- The stage after tokens of some kinds. -/
def after? (stage : Stage) (kinds : List TokenKind) : Option Stage :=
  kinds.foldlM next? stage

variable {stage other next : Stage}

theorem next?_of_moves {kinds : List TokenKind} {more : List (List TokenKind × Stage)}
    (h : stage.moves = (kinds, next) :: more) (kind : TokenKind) :
    stage.next? kind = if kind ∈ kinds then some next
      else (more.find? fun move => move.1.contains kind).map Prod.snd := by
  by_cases hkind : kind ∈ kinds <;> simp [next?, h, hkind]

theorem next?_of_single {kinds : List TokenKind} (h : stage.moves = [(kinds, next)])
    (kind : TokenKind) : stage.next? kind = if kind ∈ kinds then some next else none :=
  next?_of_moves h kind

theorem next?_of_second {kinds kinds' : List TokenKind}
    (h : stage.moves = [(kinds, other), (kinds', next)]) {kind : TokenKind} (hkind : kind ∉ kinds) :
    stage.next? kind = if kind ∈ kinds' then some next else none := by
  rw [next?_of_moves h, if_neg hkind]
  by_cases hsecond : kind ∈ kinds' <;> simp [hsecond]

theorem follow_cons_of_next {token : Token} (h : stage.next? token.kind = some next)
    (rest : List Token) : stage.follow (token :: rest) = next.follow rest := by
  rw [follow, h]

theorem follow_cons_of_none {token : Token} (h : stage.next? token.kind = none)
    (rest : List Token) : stage.follow (token :: rest) = .error (some token) := by
  rw [follow, h]

/-- Only what can come next decides. -/
theorem follow_congr {tokens : List Token} (hfinal : stage.isFinal = other.isFinal)
    (hnext : ∀ t ∈ tokens.head?, stage.next? t.kind = other.next? t.kind) :
    stage.follow tokens = other.follow tokens := by
  cases tokens with
  | nil => rw [follow, follow, hfinal]
  | cons token rest => rw [follow, follow, hnext token rfl]

/-- A stage that takes in tokens as long as they are of some kinds. -/
theorem follow_dropWhile {kinds : List TokenKind} {inside : Token → Bool}
    (hfinal : stage.isFinal = other.isFinal) (hmoves : stage.moves = (kinds, stage) :: other.moves)
    (hinside : ∀ t, inside t = true ↔ t.kind ∈ kinds) (tokens : List Token) :
    stage.follow tokens = other.follow (tokens.dropWhile inside) := by
  have hnext (t : Token) :
      stage.next? t.kind = if inside t then some stage else other.next? t.kind := by
    simp only [next?_of_moves hmoves, hinside]
    rfl
  induction tokens with
  | nil => exact follow_congr hfinal (by simp)
  | cons token rest ih =>
    by_cases htoken : inside token = true
    · rw [follow_cons_of_next (by rw [hnext, if_pos htoken]), ih,
        List.dropWhile_cons_of_pos htoken]
    · rw [List.dropWhile_cons_of_neg htoken]
      refine follow_congr hfinal fun t ht => ?_
      obtain rfl : token = t := by simpa using ht
      rw [hnext, if_neg htoken]

theorem after?_cons (kind : TokenKind) (kinds : List TokenKind) :
    stage.after? (kind :: kinds) = (stage.next? kind).bind fun next => next.after? kinds := by
  rw [after?, List.foldlM_cons]
  rfl

theorem after?_append (kinds more : List TokenKind) :
    stage.after? (kinds ++ more) = (stage.after? kinds).bind fun later => later.after? more := by
  rw [after?, List.foldlM_append]
  rfl

/-- All tokens are read if and only if they lead to a final stage. -/
theorem follow_eq_ok_iff {tokens : List Token} :
    stage.follow tokens = .ok () ↔
      ∃ later, stage.after? (tokens.map Token.kind) = some later ∧ later.isFinal = true := by
  induction tokens generalizing stage with
  | nil =>
    have hnil : stage.after? [] = some stage := rfl
    by_cases hfinal : stage.isFinal = true <;> simp [follow, hnil, hfinal]
  | cons token rest ih =>
    rw [List.map_cons, after?_cons]
    cases hnext : stage.next? token.kind with
    | none => simp [follow_cons_of_none hnext]
    | some next => rw [follow_cons_of_next hnext, ih, Option.bind_some]

/-- If not, reading stops at the first token that cannot come next, or at an end that is too
early. -/
theorem follow_eq_error {tokens : List Token} {obstacle : Obstacle}
    (h : stage.follow tokens = .error obstacle) :
    ∃ before later, stage.after? (before.map Token.kind) = some later ∧
      match obstacle with
      | none => before = tokens ∧ later.isFinal = false
      | some token =>
        ∃ after, tokens = before ++ token :: after ∧ later.next? token.kind = none := by
  induction tokens generalizing stage with
  | nil =>
    refine ⟨[], stage, rfl, ?_⟩
    by_cases hfinal : stage.isFinal = true
    · simp [follow, hfinal] at h
    · obtain rfl : none = obstacle := by simpa [follow, hfinal] using h
      exact ⟨rfl, by simpa using hfinal⟩
  | cons token rest ih =>
    cases hnext : stage.next? token.kind with
    | none =>
      rw [follow_cons_of_none hnext] at h
      obtain rfl := Except.error.inj h
      exact ⟨[], stage, rfl, rest, rfl, hnext⟩
    | some next =>
      rw [follow_cons_of_next hnext] at h
      obtain ⟨before, later, hlater, hstop⟩ := ih h
      refine ⟨token :: before, later, by rw [List.map_cons, after?_cons, hnext]; exact hlater, ?_⟩
      cases obstacle with
      | none => exact ⟨congrArg _ hstop.1, hstop.2⟩
      | some obstacle =>
        obtain ⟨after, rfl, hstuck⟩ := hstop
        exact ⟨after, rfl, hstuck⟩

end Stage

/-! ### Single tokens -/

section Parts

variable {α : Type} {reading : Token → Option α} {kinds : List TokenKind} {stage next : Stage}
  {tokens : List Token}

/-- The tokens of some kinds have a reading, and no others. -/
def ReadsKinds (reading : Token → Option α) (kinds : List TokenKind) : Prop :=
  ∀ t, (reading t).isSome = true ↔ t.kind ∈ kinds

theorem readsKinds_nameOf? : ReadsKinds nameOf? nameKinds := by
  intro t
  simp [nameOf?, isName_iff, Option.isSome_iff_exists]

theorem readsKinds_number :
    ReadsKinds (fun token => if token.kind = .number then some token.text else none) [.number] := by
  intro t
  simp [Option.isSome_iff_exists]

theorem readsKinds_literalOf? : ReadsKinds literalOf? literalKinds := by
  intro t
  simp [literalOf?, isValue_iff, Option.isSome_iff_exists]

theorem readsKinds_selectItemOf? : ReadsKinds selectItemOf? (.star :: nameKinds) := by
  intro t
  simp [selectItemOf?, isName_iff, Option.isSome_iff_exists, or_comm]

theorem readsKinds_insertedValueOf? : ReadsKinds insertedValueOf? literalKinds := by
  intro t
  have hkinds : t.kind ∈ literalKinds ↔ t.kind = .number ∨ t.kind ∈ nameKinds := by
    simp only [literalKinds, nameKinds, List.mem_cons, List.not_mem_nil, or_false]
    tauto
  rw [hkinds]
  unfold insertedValueOf?
  split
  · simp_all
  · simp_all [isName_iff, Option.isSome_iff_exists]

/-- Taking a token goes from one stage to the next. -/
theorem takeToken_bind {k : α × List Token → Except Obstacle Unit}
    (hreading : ReadsKinds reading kinds) (hfinal : stage.isFinal = false)
    (hnext : ∀ t ∈ tokens.head?, stage.next? t.kind = if t.kind ∈ kinds then some next else none)
    (hk : ∀ a rest, k (a, rest) = next.follow rest) :
    (takeToken reading tokens >>= k) = stage.follow tokens := by
  cases tokens with
  | nil => simp [takeToken, Stage.follow, hfinal, bind, Except.bind]
  | cons t rest =>
    have ht := hnext t rfl
    cases hread : reading t with
    | none =>
      have hkind : t.kind ∉ kinds := by simp [← hreading t, hread]
      rw [if_neg hkind] at ht
      rw [Stage.follow_cons_of_none ht, takeToken, hread]
      rfl
    | some a =>
      have hkind : t.kind ∈ kinds := by simp [← hreading t, hread]
      rw [if_pos hkind] at ht
      rw [Stage.follow_cons_of_next ht, takeToken, hread]
      exact hk a rest

theorem expect_bind {kind : TokenKind} {k : Unit × List Token → Except Obstacle Unit}
    (hfinal : stage.isFinal = false)
    (hnext : ∀ t ∈ tokens.head?, stage.next? t.kind = if t.kind ∈ [kind] then some next else none)
    (hk : ∀ rest, k ((), rest) = next.follow rest) :
    (expect kind tokens >>= k) = stage.follow tokens := by
  refine takeToken_bind (fun t => ?_) hfinal hnext fun _ rest => hk rest
  simp [Option.isSome_iff_exists]

theorem takeToken_bind_of_single {k : α × List Token → Except Obstacle Unit}
    (hreading : ReadsKinds reading kinds) (hfinal : stage.isFinal = false)
    (hmoves : stage.moves = [(kinds, next)]) (hk : ∀ a rest, k (a, rest) = next.follow rest) :
    (takeToken reading tokens >>= k) = stage.follow tokens :=
  takeToken_bind hreading hfinal (fun t _ => Stage.next?_of_single hmoves t.kind) hk

theorem expect_bind_of_single {kind : TokenKind} {k : Unit × List Token → Except Obstacle Unit}
    (hfinal : stage.isFinal = false) (hmoves : stage.moves = [([kind], next)])
    (hk : ∀ rest, k ((), rest) = next.follow rest) :
    (expect kind tokens >>= k) = stage.follow tokens :=
  expect_bind hfinal (fun t _ => Stage.next?_of_single hmoves t.kind) hk

/-! ### Lists -/

/-- Taking items between commas goes back and forth between two stages. -/
theorem takeCommaSeparated_bind {item after : Stage}
    {k : List α × List Token → Except Obstacle Unit}
    (hreading : ReadsKinds reading kinds) (hfinal : item.isFinal = false)
    (hmoves : item.moves = [(kinds, after)]) (hcomma : after.next? .comma = some item)
    (hk : ∀ as rest, NoComma rest → k (as, rest) = after.follow rest) :
    (takeCommaSeparated reading tokens >>= k) = item.follow tokens := by
  have hnext (kind : TokenKind) : item.next? kind = if kind ∈ kinds then some after else none :=
    Stage.next?_of_single hmoves kind
  have htaken {t : Token} {a : α} (ht : reading t = some a) (rest : List Token) :
      item.follow (t :: rest) = after.follow rest := by
    have hkind : t.kind ∈ kinds := by simp [← hreading t, ht]
    exact Stage.follow_cons_of_next (by rw [hnext, if_pos hkind]) rest
  fun_induction takeCommaSeparated reading tokens generalizing k with
  | case1 => simp [Stage.follow, hfinal, bind, Except.bind]
  | case2 t rest ht =>
    have hkind : t.kind ∉ kinds := by simp [← hreading t, ht]
    rw [Stage.follow_cons_of_none (by rw [hnext, if_neg hkind])]
    rfl
  | case3 t a ht => exact (hk [a] [] (by simp [NoComma])).trans (htaken ht []).symm
  | case4 t a comma rest ht hc ih =>
    rw [htaken ht, Stage.follow_cons_of_next (by rw [hc, hcomma]), bind_assoc]
    exact ih fun as rest hrest => hk (a :: as) rest hrest
  | case5 t a other rest ht hother =>
    rw [htaken ht]
    exact hk [a] (other :: rest) (by simpa [NoComma] using hother)

end Parts

theorem takeAssignments_bind {tokens : List Token}
    {k : List (Text × Value) × List Token → Except Obstacle Unit}
    (hk : ∀ as rest, NoComma rest → k (as, rest) = Stage.afterAssignment.follow rest) :
    (takeAssignments tokens >>= k) = Stage.assignedColumn.follow tokens := by
  have hcolumn (kind : TokenKind) :
      Stage.assignedColumn.next? kind = if kind ∈ nameKinds then some .equal else none :=
    Stage.next?_of_single rfl kind
  have hequal (kind : TokenKind) :
      Stage.equal.next? kind = if kind ∈ [.equal] then some .assignedValue else none :=
    Stage.next?_of_single rfl kind
  have hvalue (kind : TokenKind) :
      Stage.assignedValue.next? kind =
        if kind ∈ literalKinds then some .afterAssignment else none :=
    Stage.next?_of_single rfl kind
  have hnamed {t : Token} {column : Text} (ht : nameOf? t = some column) (rest : List Token) :
      Stage.assignedColumn.follow (t :: rest) = Stage.equal.follow rest :=
    Stage.follow_cons_of_next (by rw [hcolumn, if_pos (nameOf?_eq_some.1 ht).1]) rest
  have hsigned {sign : Token} (hsign : sign.kind = .equal) (rest : List Token) :
      Stage.equal.follow (sign :: rest) = Stage.assignedValue.follow rest :=
    Stage.follow_cons_of_next (by simp [hequal, hsign]) rest
  have hread {t : Token} {value : Value} (ht : literalOf? t = some value) (rest : List Token) :
      Stage.assignedValue.follow (t :: rest) = Stage.afterAssignment.follow rest :=
    Stage.follow_cons_of_next (by rw [hvalue, if_pos (literalOf?_eq_some.1 ht).1]) rest
  fun_induction takeAssignments tokens generalizing k with
  | case1 => rfl
  | case2 t rest ht =>
    have hkind : t.kind ∉ nameKinds := by simp [← readsKinds_nameOf? t, ht]
    rw [Stage.follow_cons_of_none (by rw [hcolumn, if_neg hkind])]
    rfl
  | case3 t column ht =>
    rw [hnamed ht]
    rfl
  | case4 t column sign ht hsign =>
    rw [hnamed ht, hsigned hsign]
    rfl
  | case5 t column sign ht hsign l rest hl =>
    have hkind : l.kind ∉ literalKinds := by simp [← readsKinds_literalOf? l, hl]
    rw [hnamed ht, hsigned hsign, Stage.follow_cons_of_none (by rw [hvalue, if_neg hkind])]
    rfl
  | case6 t column sign ht hsign l value hl =>
    rw [hnamed ht, hsigned hsign, hread hl]
    exact hk _ _ (by simp [NoComma])
  | case7 t column sign ht hsign l value comma rest hl hc ih =>
    have hnext : Stage.afterAssignment.next? comma.kind = some .assignedColumn := by
      rw [hc]
      rfl
    rw [hnamed ht, hsigned hsign, hread hl, Stage.follow_cons_of_next hnext, bind_assoc]
    exact ih fun as rest hrest => hk _ rest hrest
  | case8 t column sign ht hsign l value other rest hl hother =>
    rw [hnamed ht, hsigned hsign, hread hl]
    exact hk _ _ (by simpa [NoComma] using hother)
  | case9 t column sign rest ht hsign =>
    rw [hnamed ht, Stage.follow_cons_of_none (by simp [hequal, hsign])]
    rfl

/-! ### Clauses -/

theorem expectEnd_eq (tokens : List Token) : expectEnd tokens = Stage.ended.follow tokens := by
  have hended (kind : TokenKind) :
      Stage.ended.next? kind = if kind ∈ [.semicolon] then some .closed else none :=
    Stage.next?_of_single rfl kind
  cases tokens with
  | nil => rfl
  | cons t rest =>
    by_cases ht : t.kind = .semicolon
    · have hclosed : Stage.ended.next? t.kind = some .closed := by simp [hended, ht]
      rw [Stage.follow_cons_of_next hclosed]
      cases rest with
      | nil => simp [expectEnd, ht, Stage.follow, Stage.isFinal]
      | cons other rest =>
        rw [Stage.follow_cons_of_none rfl]
        simp [expectEnd, ht]
    · rw [Stage.follow_cons_of_none (by simp [hended, ht])]
      simp [expectEnd, ht]

theorem limitClause_bind {tokens : List Token}
    {k : Option Text × List Token → Except Obstacle Unit}
    (hk : ∀ limit rest, k (limit, rest) = Stage.ended.follow rest) :
    (limitClause tokens >>= k) = Stage.afterOrder.follow tokens := by
  have hnext (kind : TokenKind) : Stage.afterOrder.next? kind =
      if kind ∈ [.keyword .LIMIT] then some .limitNumber else Stage.ended.next? kind :=
    Stage.next?_of_moves rfl kind
  cases tokens with
  | nil => exact hk none []
  | cons t rest =>
    by_cases ht : t.kind = .keyword .LIMIT
    · have hlimit : Stage.afterOrder.next? t.kind = some .limitNumber := by simp [hnext, ht]
      rw [Stage.follow_cons_of_next hlimit]
      have hclause : limitClause (t :: rest) =
          (takeToken (fun token => if token.kind = .number then some token.text else none)
            rest).map fun taken => (some taken.1, taken.2) := by
        simp [limitClause, Token.isKeyword, ht]
      rw [hclause, ← takeToken_bind_of_single (k := fun taken => k (some taken.1, taken.2))
        readsKinds_number rfl rfl fun _ rest => hk _ rest]
      cases takeToken (fun token => if token.kind = .number then some token.text else none)
        rest <;> rfl
    · have hclause : limitClause (t :: rest) = .ok (none, t :: rest) := by
        simp [limitClause, Token.isKeyword, ht]
      rw [hclause]
      refine (hk none (t :: rest)).trans (Stage.follow_congr rfl ?_)
      simp [hnext, ht]

theorem orderClause_bind {tokens : List Token}
    {k : Option SortOrder × List Token → Except Obstacle Unit}
    (hk : ∀ order rest, k (order, rest) = Stage.afterOrder.follow rest) :
    (orderClause tokens >>= k) = Stage.afterFilter.follow tokens := by
  have hnext (kind : TokenKind) : Stage.afterFilter.next? kind =
      if kind ∈ [.keyword .ORDER] then some .orderBy else Stage.afterOrder.next? kind :=
    Stage.next?_of_moves rfl kind
  have hdirection (kind : TokenKind) : Stage.afterOrderColumn.next? kind =
      if kind ∈ [.keyword .ASC, .keyword .DESC] then some .afterOrder
      else Stage.afterOrder.next? kind :=
    Stage.next?_of_moves rfl kind
  cases tokens with
  | nil => exact hk none []
  | cons t rest =>
    by_cases ht : t.kind = .keyword .ORDER
    · have horder : Stage.afterFilter.next? t.kind = some .orderBy := by simp [hnext, ht]
      rw [Stage.follow_cons_of_next horder]
      simp only [orderClause, Token.isKeyword, ht, beq_self_eq_true, if_true, bind_assoc]
      refine expect_bind_of_single rfl rfl fun rest => ?_
      refine takeToken_bind_of_single readsKinds_nameOf? rfl rfl fun column rest => ?_
      cases rest with
      | nil => exact hk _ []
      | cons t rest =>
        have hordered (ht : t.kind ∈ [.keyword .ASC, .keyword .DESC]) :
            Stage.afterOrderColumn.follow (t :: rest) = Stage.afterOrder.follow rest :=
          Stage.follow_cons_of_next (by rw [hdirection, if_pos ht]) rest
        by_cases hasc : t.kind = .keyword .ASC
        · rw [hordered (by simp [hasc])]
          simp [hasc, hk]
        · by_cases hdesc : t.kind = .keyword .DESC
          · rw [hordered (by simp [hdesc])]
            simp [hdesc, hk]
          · simp only [beq_iff_eq, hasc, hdesc, if_false]
            refine (hk _ (t :: rest)).trans (Stage.follow_congr rfl ?_)
            simp [hdirection, hasc, hdesc]
    · have hclause : orderClause (t :: rest) = .ok (none, t :: rest) := by
        simp [orderClause, Token.isKeyword, ht]
      rw [hclause]
      refine (hk none (t :: rest)).trans (Stage.follow_congr rfl ?_)
      simp [hnext, ht]

/-! ### Statements -/

section Forget

variable {ε α β : Type}

/-- A computation without its result. -/
def forget (x : Except ε α) : Except ε Unit :=
  x.map fun _ => ()

theorem forget_bind (x : Except ε α) (f : α → Except ε β) :
    forget (x >>= f) = x >>= fun a => forget (f a) := by
  cases x <;> rfl

end Forget

/-- What comes after a head. -/
def parseRest (head : Head) (tokens : List Token) : Except Obstacle Statement := do
  let (clause, tokens) := head.clause tokens
  let (statement, tokens) ← parseTail head (clause.map Filter.ofTokens) tokens
  expectEnd tokens
  return statement

theorem parseTokens_eq_parseRest (tokens : List Token) :
    parseTokens tokens = parseHead tokens >>= fun (head, rest) => parseRest head rest :=
  rfl

/-- A clause can come before what follows, or none. -/
theorem follow_filterClause (before clause after : Stage)
    (hfinal : before.isFinal = after.isFinal) (hfinal' : clause.isFinal = after.isFinal)
    (hmoves : clause.moves = (clauseKinds, clause) :: after.moves) {tokens : List Token}
    (hbefore : ∀ t ∈ tokens.head?, before.next? t.kind =
      if t.kind ∈ [.keyword .WHERE] then some clause else after.next? t.kind) :
    before.follow tokens = after.follow (filterClause tokens).2 := by
  cases tokens with
  | nil => exact Stage.follow_congr hfinal (by simp)
  | cons t rest =>
    have ht := hbefore t rfl
    by_cases hwhere : t.kind = .keyword .WHERE
    · rw [Stage.follow_cons_of_next (by rw [ht, if_pos (List.mem_singleton.2 hwhere)]),
        Stage.follow_dropWhile hfinal' hmoves inFilterClause_iff]
      simp [filterClause, Token.isKeyword, hwhere]
    · have hclause : filterClause (t :: rest) = (none, t :: rest) := by
        simp [filterClause, Token.isKeyword, hwhere]
      rw [hclause]
      refine Stage.follow_congr hfinal fun t' ht' => ?_
      obtain rfl : t = t' := by simpa using ht'
      rw [ht, if_neg (by simpa using hwhere)]

theorem forget_parseRest_complete (statement : Statement) (tokens : List Token) :
    forget (parseRest (.complete statement) tokens) = Stage.ended.follow tokens := by
  rw [← expectEnd_eq]
  show forget (expectEnd tokens >>= fun _ => .ok statement) = _
  cases expectEnd tokens <;> rfl

theorem forget_parseRest_delete (table : Text) (tokens : List Token) :
    forget (parseRest (.delete table) tokens) = Stage.afterDeletedTable.follow tokens := by
  rw [follow_filterClause .afterDeletedTable .changeClause .ended rfl rfl rfl
    fun t _ => Stage.next?_of_moves rfl t.kind, ← expectEnd_eq]
  show forget (expectEnd (filterClause tokens).2 >>= fun _ => .ok _) = _
  cases expectEnd (filterClause tokens).2 <;> rfl

theorem forget_parseRest_update (table : Text) (assignments : List (Text × Value))
    {tokens : List Token} (h : NoComma tokens) :
    forget (parseRest (.update table assignments) tokens) =
      Stage.afterAssignment.follow tokens := by
  have hsame : Stage.afterAssignment.follow tokens = Stage.afterDeletedTable.follow tokens := by
    refine Stage.follow_congr rfl fun t ht => ?_
    have hcomma : t.kind ∉ [.comma] := by simpa using h t ht
    rw [Stage.next?_of_moves rfl, if_neg hcomma]
    rfl
  rw [hsame, follow_filterClause .afterDeletedTable .changeClause .ended rfl rfl rfl
    fun t _ => Stage.next?_of_moves rfl t.kind, ← expectEnd_eq]
  show forget (expectEnd (filterClause tokens).2 >>= fun _ => .ok _) = _
  cases expectEnd (filterClause tokens).2 <;> rfl

theorem forget_parseRest_select (columns : List Text) (table : Text) (tokens : List Token) :
    forget (parseRest (.select columns table) tokens) =
      Stage.afterSelectedTable.follow tokens := by
  rw [follow_filterClause .afterSelectedTable .selectedClause .afterFilter rfl rfl rfl
    fun t _ => Stage.next?_of_moves rfl t.kind]
  simp only [parseRest, Head.clause, Head.takesFilter, parseTail, if_true, bind_assoc, pure_bind,
    forget_bind]
  refine orderClause_bind fun order rest => ?_
  refine limitClause_bind fun limit rest => ?_
  rw [← expectEnd_eq]
  cases expectEnd rest <;> rfl

theorem selectHead_bind (tokens : List Token) :
    (selectHead tokens >>= fun (head, rest) => forget (parseRest head rest)) =
      Stage.selectItem.follow tokens := by
  simp only [selectHead, bind_assoc]
  refine takeCommaSeparated_bind readsKinds_selectItemOf? rfl rfl rfl fun columns rest hcomma => ?_
  refine expect_bind rfl
    (fun t ht => Stage.next?_of_second rfl (by simpa using hcomma t ht)) fun rest => ?_
  refine takeToken_bind_of_single readsKinds_nameOf? rfl rfl fun table rest => ?_
  exact forget_parseRest_select columns table rest

theorem deleteHead_bind (tokens : List Token) :
    (deleteHead tokens >>= fun (head, rest) => forget (parseRest head rest)) =
      Stage.deleteFrom.follow tokens := by
  simp only [deleteHead, bind_assoc]
  refine expect_bind_of_single rfl rfl fun rest => ?_
  refine takeToken_bind_of_single readsKinds_nameOf? rfl rfl fun table rest => ?_
  exact forget_parseRest_delete table rest

theorem updateHead_bind (tokens : List Token) :
    (updateHead tokens >>= fun (head, rest) => forget (parseRest head rest)) =
      Stage.updatedTable.follow tokens := by
  simp only [updateHead, bind_assoc]
  refine takeToken_bind_of_single readsKinds_nameOf? rfl rfl fun table rest => ?_
  refine expect_bind_of_single rfl rfl fun rest => ?_
  exact takeAssignments_bind fun assignments rest hcomma =>
    forget_parseRest_update table assignments hcomma

theorem alterHead_bind (tokens : List Token) :
    (alterHead tokens >>= fun (head, rest) => forget (parseRest head rest)) =
      Stage.alterTable.follow tokens := by
  simp only [alterHead, bind_assoc]
  refine expect_bind_of_single rfl rfl fun rest => ?_
  refine takeToken_bind_of_single readsKinds_nameOf? rfl rfl fun table rest => ?_
  have hfinal : Stage.action.isFinal = Stage.ended.isFinal := rfl
  have haction : Stage.action.follow rest = Stage.ended.follow (rest.dropWhile inAction) :=
    Stage.follow_dropWhile hfinal rfl inAction_iff rest
  rw [haction]
  exact forget_parseRest_complete _ _

/-- Taking a list in parentheses goes through four stages. -/
theorem takeList_bind {α : Type} {reading : Token → Option α} {kinds : List TokenKind}
    {opening next : Stage} (item after : Stage) {tokens : List Token}
    {k : List α × List Token → Except Obstacle Unit} (hreading : ReadsKinds reading kinds)
    (hopening : opening.isFinal = false) (hitem : item.isFinal = false)
    (hafter : after.isFinal = false)
    (hopen : ∀ t ∈ tokens.head?,
      opening.next? t.kind = if t.kind ∈ [.leftParen] then some item else none)
    (hmoves : item.moves = [(kinds, after)])
    (hmoves' : after.moves = [([.comma], item), ([.rightParen], next)])
    (hk : ∀ as rest, k (as, rest) = next.follow rest) :
    (takeList reading tokens >>= k) = opening.follow tokens := by
  have hcomma : after.next? .comma = some item := by simp [Stage.next?, hmoves']
  simp only [takeList, bind_assoc]
  refine expect_bind hopening hopen fun rest => ?_
  refine takeCommaSeparated_bind hreading hitem hmoves hcomma fun items rest hrest => ?_
  exact expect_bind hafter
    (fun t ht => Stage.next?_of_second hmoves' (by simpa using hrest t ht))
    fun rest => hk items rest

theorem insertColumns_bind {tokens : List Token}
    {k : Option (List Text) × List Token → Except Obstacle Unit}
    (hk : ∀ rest, k (none, rest) = Stage.values.follow rest)
    (hk' : ∀ columns rest, k (some columns, rest) = Stage.values.follow rest) :
    (insertColumns tokens >>= k) = Stage.afterInsertedTable.follow tokens := by
  have hnext (kind : TokenKind) : Stage.afterInsertedTable.next? kind =
      if kind ∈ [.leftParen] then some .insertedColumn else Stage.values.next? kind :=
    Stage.next?_of_moves rfl kind
  have hnext' (kind : TokenKind) :
      Stage.values.next? kind = if kind ∈ [.keyword .VALUES] then some .openValues else none :=
    Stage.next?_of_single rfl kind
  cases tokens with
  | nil => rfl
  | cons t rest =>
    by_cases hparen : t.kind = .leftParen
    · have hlist :
          (takeList nameOf? (t :: rest) >>= fun taken => k (some taken.1, taken.2)) =
            Stage.afterInsertedTable.follow (t :: rest) := by
        refine takeList_bind .insertedColumn .afterInsertedColumn readsKinds_nameOf? rfl rfl rfl
          (fun t' ht' => ?_) rfl rfl hk'
        obtain rfl : t = t' := by simpa using ht'
        simp [hnext, hparen]
      rw [← hlist, insertColumns, if_pos hparen]
      cases takeList nameOf? (t :: rest) <;> rfl
    · have hsame : Stage.afterInsertedTable.follow (t :: rest) = Stage.values.follow (t :: rest) :=
        Stage.follow_congr rfl (by simp [hnext, hparen])
      rw [hsame, insertColumns, if_neg hparen]
      by_cases hvalues : t.kind = .keyword .VALUES
      · rw [if_pos (by simpa [Token.isKeyword] using hvalues)]
        exact hk _
      · rw [if_neg (by simpa [Token.isKeyword] using hvalues),
          Stage.follow_cons_of_none (by simp [hnext', hvalues])]
        rfl

theorem insertHead_bind (tokens : List Token) :
    (insertHead tokens >>= fun (head, rest) => forget (parseRest head rest)) =
      Stage.into.follow tokens := by
  simp only [insertHead, bind_assoc]
  refine expect_bind_of_single rfl rfl fun rest => ?_
  refine takeToken_bind_of_single readsKinds_nameOf? rfl rfl fun table rest => ?_
  have hvalues (columns : Option (List Text)) (rest : List Token) :
      (expect (.keyword .VALUES) rest >>= fun opened =>
        takeList insertedValueOf? opened.2 >>= fun taken =>
          forget (parseRest (.complete (.insert ⟨table, columns, taken.1⟩)) taken.2)) =
        Stage.values.follow rest := by
    refine expect_bind_of_single rfl rfl fun rest => ?_
    refine takeList_bind .insertedValue .afterInsertedValue readsKinds_insertedValueOf? rfl rfl rfl
      (fun t _ => Stage.next?_of_single rfl t.kind) rfl rfl fun values rest => ?_
    exact forget_parseRest_complete _ rest
  exact insertColumns_bind (hvalues none) fun columns => hvalues (some columns)

/-- The parser stops just where the automaton stops. -/
theorem forget_parseTokens (tokens : List Token) :
    forget (parseTokens tokens) = Stage.start.follow tokens := by
  rw [parseTokens_eq_parseRest, forget_bind]
  cases tokens with
  | nil => rfl
  | cons t rest =>
    have hgo {next : Stage} (hnext : Stage.start.next? t.kind = some next)
        {head : List Token → Except Obstacle (Head × List Token)}
        (hhead : parseHead (t :: rest) = head rest)
        (hbind : (head rest >>= fun (head, rest) => forget (parseRest head rest)) =
          next.follow rest) :
        (parseHead (t :: rest) >>= fun (head, rest) => forget (parseRest head rest)) =
          Stage.start.follow (t :: rest) := by
      rw [hhead, Stage.follow_cons_of_next hnext, hbind]
    have hstop (hnext : Stage.start.next? t.kind = none)
        (hhead : parseHead (t :: rest) = .error (some t)) :
        (parseHead (t :: rest) >>= fun (head, rest) => forget (parseRest head rest)) =
          Stage.start.follow (t :: rest) := by
      rw [hhead, Stage.follow_cons_of_none hnext]
      rfl
    cases hkind : t.kind with
    | keyword k =>
      cases k
      case SELECT =>
        exact hgo (by rw [hkind]; rfl) (by simp [parseHead, hkind]) (selectHead_bind rest)
      case INSERT =>
        exact hgo (by rw [hkind]; rfl) (by simp [parseHead, hkind]) (insertHead_bind rest)
      case UPDATE =>
        exact hgo (by rw [hkind]; rfl) (by simp [parseHead, hkind]) (updateHead_bind rest)
      case DELETE =>
        exact hgo (by rw [hkind]; rfl) (by simp [parseHead, hkind]) (deleteHead_bind rest)
      case ALTER =>
        exact hgo (by rw [hkind]; rfl) (by simp [parseHead, hkind]) (alterHead_bind rest)
      all_goals exact hstop (by rw [hkind]; rfl) (by simp [parseHead, hkind])
    | _ => exact hstop (by rw [hkind]; rfl) (by simp [parseHead, hkind])

end TableQuery
