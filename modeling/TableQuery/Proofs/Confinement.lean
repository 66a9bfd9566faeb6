import TableQuery.Proofs.Dialect
import TableQuery.Proofs.Execution

/-!
# What a `WHERE` clause confines

A `DELETE` or an `UPDATE` with a `WHERE` in it reaches the rows of a comparison or no rows at all.

* `afterWhere`, `SatisfiesClause`: the rows that the tokens of a statement speak of.
* `filterOfTokens_delete`, `filterOfTokens_update`: the filter of a statement, by its tokens.
* `Statement.where_confines_changes`: the rows that are deleted or updated are these.
-/

namespace TableQuery

open Text Grammar

/-! ### The tokens after `WHERE` -/

/-- The tokens after the first `WHERE`. -/
def afterWhere (tokens : List Token) : List Token :=
  (tokens.dropWhile fun t => !t.isKeyword .WHERE).drop 1

/-- Some tokens have a `WHERE` among them. -/
def MentionsWhere (tokens : List Token) : Prop :=
  ∃ t ∈ tokens, t.kind = .keyword .WHERE

/-- The first three tokens of a clause are a name, an operator and a literal, and a row satisfies
the comparison that they form. -/
def SatisfiesClause (clause : List Token) (row : Row) : Prop :=
  ∃ column operator literal rest o, clause = column :: operator :: literal :: rest ∧
    column.kind ∈ nameKinds ∧ (operator.kind, o) ∈ operators ∧ literal.kind ∈ literalKinds ∧
    o.holds (row.get column.text) (.ofText literal.text) = .ok true

theorem satisfiesClause_iff {clause : List Token} {row : Row} :
    SatisfiesClause clause row ↔ hits (some (Filter.ofTokens clause)) row = true := by
  rw [hits_some_iff]
  cases h : comparisonOf? clause with
  | none =>
    simp only [Filter.ofTokens, h, Filter.admits, Except.ok.injEq, Bool.false_eq_true, iff_false]
    rintro ⟨column, operator, literal, rest, o, rfl, hcolumn, ho, hliteral, -⟩
    have hstarts : StartsComparison (column :: operator :: literal :: rest) :=
      ⟨column, operator, literal, rest, rfl, hcolumn, List.mem_map_of_mem ho, hliteral⟩
    simp [startsComparison_iff, h] at hstarts
  | some found =>
    obtain ⟨c, rest⟩ := found
    obtain ⟨column, operator, literal, o, rfl, hcolumn, ho, hliteral, rfl⟩ :=
      comparisonOf?_eq_some.1 h
    simp only [Filter.ofTokens, h, Filter.admits]
    constructor
    · rintro ⟨_, _, _, _, o', heq, -, ho', -, hholds⟩
      obtain ⟨rfl, rfl, rfl, rfl⟩ : _ ∧ _ ∧ _ ∧ _ := by simpa using heq
      rw [← ofToken?_eq_some] at ho ho'
      obtain rfl := Option.some.inj (ho.symm.trans ho')
      exact hholds
    · intro hholds
      exact ⟨column, operator, literal, rest, o, rfl, hcolumn, ho, hliteral, hholds⟩

/-- The semicolon at the end of a statement is no part of a comparison. -/
theorem satisfiesClause_append_semicolon {clause : List Token} {semicolon : Token} {row : Row}
    (h : semicolon.kind = .semicolon) :
    SatisfiesClause (clause ++ [semicolon]) row ↔ SatisfiesClause clause row := by
  constructor
  · rintro ⟨column, operator, literal, rest, o, heq, hcolumn, ho, hliteral, hholds⟩
    match clause, heq with
    | [], heq =>
      simp at heq
    | [_], heq =>
      simp at heq
    | [_, _], heq =>
      obtain ⟨rfl, rfl, rfl, rfl⟩ : _ ∧ _ ∧ _ ∧ _ := by simpa using heq
      simp [h, literalKinds] at hliteral
    | _ :: _ :: _ :: more, heq =>
      obtain ⟨rfl, rfl, rfl, -⟩ : _ ∧ _ ∧ _ ∧ _ := by simpa using heq
      exact ⟨_, _, _, more, o, rfl, hcolumn, ho, hliteral, hholds⟩
  · rintro ⟨column, operator, literal, rest, o, rfl, hcolumn, ho, hliteral, hholds⟩
    exact ⟨column, operator, literal, rest ++ [semicolon], o, rfl, hcolumn, ho, hliteral, hholds⟩

/-! ### Statements with a `WHERE` -/

/-- What the tokens of a statement say about its filter: there is one just when there is a `WHERE`,
and then it is satisfied by the rows that the tokens after that `WHERE` speak of. -/
def FilterOfTokens (tokens : List Token) (filter : Option Filter) : Prop :=
  (filter = none ↔ ¬MentionsWhere tokens) ∧
    (MentionsWhere tokens → ∀ row, hits filter row = true ↔ SatisfiesClause (afterWhere tokens) row)

/-- The tokens before a `WHERE` clause play no part. -/
theorem filterOfTokens_append {front ws : List Token} {filter : Option Filter}
    (hfront : ∀ t ∈ front, t.kind ≠ .keyword .WHERE) (h : FilterOfTokens ws filter) :
    FilterOfTokens (front ++ ws) filter := by
  have hmentions : MentionsWhere (front ++ ws) ↔ MentionsWhere ws := by
    constructor
    · rintro ⟨t, ht, hkind⟩
      rcases List.mem_append.1 ht with ht | ht
      · exact absurd hkind (hfront t ht)
      · exact ⟨t, ht, hkind⟩
    · rintro ⟨t, ht, hkind⟩
      exact ⟨t, List.mem_append_right _ ht, hkind⟩
  have hafter : afterWhere (front ++ ws) = afterWhere ws := by
    unfold afterWhere
    rw [List.dropWhile_append_of_pos fun t ht => by simpa [Token.isKeyword] using hfront t ht]
  unfold FilterOfTokens
  rw [hmentions, hafter]
  exact h

theorem filterOfTokens_whereClause {ws rest : List Token} {filter : Option Filter}
    (h : WhereClause ws filter) (hrest : rest = [] ∨ ∃ t, t.kind = .semicolon ∧ rest = [t]) :
    FilterOfTokens (ws ++ rest) filter := by
  have hclause : ∀ clause row,
      SatisfiesClause (clause ++ rest) row ↔ SatisfiesClause clause row := by
    intro clause row
    rcases hrest with rfl | ⟨t, ht, rfl⟩
    · rw [List.append_nil]
    · exact satisfiesClause_append_semicolon ht
  have hsome : ∀ {w : Token} {clause : List Token}, w.kind = .keyword .WHERE →
      FilterOfTokens (w :: clause ++ rest) (some (Filter.ofTokens clause)) := by
    intro w clause hw
    refine ⟨⟨by simp, fun hno => absurd ⟨w, by simp, hw⟩ hno⟩, fun _ row => ?_⟩
    have hafter : afterWhere (w :: clause ++ rest) = clause ++ rest := by
      simp [afterWhere, Token.isKeyword, hw]
    rw [hafter, hclause, satisfiesClause_iff]
  cases h with
  | none =>
    have hno : ¬MentionsWhere ([] ++ rest) := by
      rintro ⟨t, ht, hkind⟩
      rcases hrest with rfl | ⟨u, hu, rfl⟩
      · simp at ht
      · simp [List.mem_singleton.1 ht, hu] at hkind
    exact ⟨by simpa using hno, fun h => absurd h hno⟩
  | blank hw => exact hsome hw
  | clause hw _ hmeaning => exact filterMeaning_iff.1 hmeaning ▸ hsome hw

/-- No `WHERE` stands among assignments. -/
theorem not_where_of_assignments {as : List Token} {assignments : List (Text × Value)}
    (h : Sequence Assignment as assignments) : ∀ t ∈ as, t.kind ≠ .keyword .WHERE := by
  refine h.forall_tokens ?_ fun t ht => by simp [ht]
  rintro ts a ⟨hname, hsign, hliteral⟩ t ht hkind
  rcases List.mem_append.1 ht with ht | ht
  · exact hname.kind_ne_keyword _ t ht hkind
  · simp only [List.mem_cons, List.not_mem_nil, or_false] at ht
    rcases ht with rfl | rfl
    · simp [hsign] at hkind
    · rw [hkind] at hliteral
      exact absurd hliteral (by decide)

theorem filterOfTokens_delete {tokens : List Token} {deletion : Deletion}
    (h : Sentence tokens (.delete deletion)) : FilterOfTokens tokens deletion.filter := by
  obtain ⟨ts, rest, rfl, hquery, hrest⟩ := h.query_rest
  cases hquery with
  | @delete first from_ ns ws table filter hfirst hfrom hns hws =>
    rw [List.append_assoc]
    refine filterOfTokens_append ?_ (filterOfTokens_whereClause hws hrest)
    intro t ht
    simp only [List.mem_cons] at ht
    rcases ht with rfl | rfl | ht
    · simp [hfirst]
    · simp [hfrom]
    · exact hns.kind_ne_keyword _ t ht

theorem filterOfTokens_update {tokens : List Token} {update : Update}
    (h : Sentence tokens (.update update)) : FilterOfTokens tokens update.filter := by
  obtain ⟨ts, rest, rfl, hquery, hrest⟩ := h.query_rest
  cases hquery with
  | @update first set ns as ws table assignments filter hfirst hns hset has hws =>
    rw [List.append_assoc]
    refine filterOfTokens_append ?_ (filterOfTokens_whereClause hws hrest)
    intro t ht
    simp only [List.cons_append, List.mem_cons, List.mem_append] at ht
    rcases ht with rfl | ht | rfl | ht
    · simp [hfirst]
    · exact hns.kind_ne_keyword _ t ht
    · simp [hset]
    · exact not_where_of_assignments has t ht

/-- A `DELETE` or `UPDATE` has no filter just when it has no `WHERE`. With a `WHERE` it deletes or
updates, if it succeeds, the rows that satisfy the comparison which the first three tokens after
that `WHERE` form, and no row if they form none. In a row that is updated, each column holds the
last value that is assigned to it, or what it held before. -/
theorem Statement.where_confines_changes {text : Text} {statement : Statement}
    (hparse : Statement.parse text = .ok statement) :
    let tokens := tokenize (trim text)
    (∀ deletion, statement = .delete deletion →
      (deletion.filter = none ↔ ¬MentionsWhere tokens) ∧
      (MentionsWhere tokens → ∀ table ids ids' result,
        statement.run table ids = .ok (result, ids') →
        ∃ hit : Row → Bool, (∀ row, hit row = true ↔ SatisfiesClause (afterWhere tokens) row) ∧
          result = .deleted { table with rows := table.rows.filter fun row => !hit row }
            (table.rows.filter hit).length)) ∧
    (∀ update, statement = .update update →
      (update.filter = none ↔ ¬MentionsWhere tokens) ∧
      (MentionsWhere tokens → ∀ table ids ids' result,
        statement.run table ids = .ok (result, ids') →
        ∃ hit : Row → Bool, (∀ row, hit row = true ↔ SatisfiesClause (afterWhere tokens) row) ∧
          result = .updated
            { table with rows := table.rows.map fun row =>
                row.assignIf (hit row) update.assignments }
            (table.rows.filter hit).length ∧
          ∀ row column, (row.assignIf (hit row) update.assignments).get column =
            if hit row then (Fields.lookup column update.assignments.reverse).getD (row.get column)
            else row.get column)) := by
  have hsentence := Statement.sentence_of_parse hparse
  refine ⟨?_, ?_⟩
  · rintro deletion rfl
    obtain ⟨hnone, hsome⟩ := filterOfTokens_delete hsentence
    refine ⟨hnone, fun hwhere table ids ids' result hrun => ?_⟩
    obtain ⟨-, hresult, -⟩ := Statement.run_eq_ok.1 hrun
    exact ⟨hits deletion.filter, hsome hwhere, Deletion.run_eq_ok hresult⟩
  · rintro update rfl
    obtain ⟨hnone, hsome⟩ := filterOfTokens_update hsentence
    refine ⟨hnone, fun hwhere table ids ids' result hrun => ?_⟩
    obtain ⟨-, hresult, -⟩ := Statement.run_eq_ok.1 hrun
    exact ⟨hits update.filter, hsome hwhere, Update.run_eq_ok hresult,
      fun row => row.get_assignIf _ update.assignments⟩

/-- A clause that is not finished deletes nothing. A finished one confines an `UPDATE`, which
assigns to one column twice and adds another one, to the row that it hits. -/
theorem where_confines_changes_unfinished :
    let text : Text := "DELETE FROM t WHERE a ="
    let changing : Text := "UPDATE t SET a = 5, b = y, a = 6 WHERE a = x"
    let old : Row := ⟨"r", .ofList [("a", .text "x"), ("c", .int 1)]⟩
    let new : Row := ⟨"r", .ofList [("a", .int 6), ("c", .int 1), ("b", .text "y")]⟩
    let missed : Row := ⟨"s", .ofList [("a", .text "")]⟩
    let table (rows : List Row) : Table := ⟨"1", .scalar (.text "t"), ["a", "b", "c"], rows⟩
    let ids := IdSupply.ofSequence uuidText
    let update : Update := ⟨"t", [("a", .int 5), ("b", .text "y"), ("a", .int 6)],
      some (.comparison ⟨"a", .equal, .text "x"⟩)⟩
    let rows : List Row := [old, missed]
    (Statement.parse text = .ok (.delete ⟨"t", some (.unparsed "a =")⟩) ∧
      MentionsWhere (tokenize (trim text)) ∧
      (Statement.delete ⟨"t", some (.unparsed "a =")⟩).run (table rows) ids =
        .ok (.deleted (table rows) 0, ids) ∧
      ∃ hit : Row → Bool,
        (∀ row, hit row = true ↔ SatisfiesClause (afterWhere (tokenize (trim text))) row) ∧
        Result.deleted (table rows) 0 =
          .deleted (table (rows.filter fun row => !hit row)) (rows.filter hit).length) ∧
    Statement.parse changing = .ok (.update update) ∧
      MentionsWhere (tokenize (trim changing)) ∧
      (Statement.update update).run (table rows) ids =
        .ok (.updated (table [new, missed]) 1, ids) ∧
      ∃ hit : Row → Bool,
        (∀ row, hit row = true ↔ SatisfiesClause (afterWhere (tokenize (trim changing))) row) ∧
        Result.updated (table [new, missed]) 1 =
          .updated (table (rows.map fun row => row.assignIf (hit row) update.assignments))
            (rows.filter hit).length ∧
        (old.assignIf (hit old) update.assignments).get "a" =
          if hit old then .int 6 else .text "x" := by
  intro text changing old new missed table ids update rows
  have hparse : Statement.parse text = .ok (.delete ⟨"t", some (.unparsed "a =")⟩) := by decide
  have hwhere : MentionsWhere (tokenize (trim text)) := ⟨⟨.keyword .WHERE, "WHERE", 14⟩, by decide⟩
  have hrun : (Statement.delete ⟨"t", some (.unparsed "a =")⟩).run (table rows) ids =
      .ok (.deleted (table rows) 0, ids) := rfl
  have hparse' : Statement.parse changing = .ok (.update update) := by decide +kernel
  have hwhere' : MentionsWhere (tokenize (trim changing)) :=
    ⟨⟨.keyword .WHERE, "WHERE", 33⟩, by decide⟩
  have hrun' : (Statement.update update).run (table rows) ids =
      .ok (.updated (table [new, missed]) 1, ids) :=
    Statement.run_eq_ok.2 ⟨by decide, by decide +kernel, rfl⟩
  obtain ⟨hit, hclause, hresult, hfields⟩ :=
    ((Statement.where_confines_changes hparse').2 _ rfl).2 hwhere' (table rows) ids ids _ hrun'
  exact ⟨⟨hparse, hwhere, hrun, ((Statement.where_confines_changes hparse).1 _ rfl).2 hwhere
    (table rows) ids ids _ hrun⟩, hparse', hwhere', hrun', hit, hclause, hresult, hfields old "a"⟩

end TableQuery
