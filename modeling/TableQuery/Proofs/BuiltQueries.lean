import TableQuery.Proofs.Dialect
import TableQuery.Proofs.Spelling

/-!
# Built queries say what their forms say

* `Form.statement`: the statement that a form describes.
* `Form.reads_whereClause`, `Form.reads_orderClause`, `Form.reads_limitClause`: the clauses.
* `Form.selectFront`, `Form.reads_selectFront`: a `SELECT` up to its clauses.
* `Form.reads_select`, `Form.reads_update`, and so on: the statements.
* `Form.parse_text`: a built query is parsed as the statement that its form describes.
-/

namespace TableQuery

open Number Text Grammar

/-! ### What a form describes -/

/-- The spellings of the operators that a comparison can have. -/
def comparisonSymbols : List Text := ["=", "!=", "<", "<=", ">", ">=", "LIKE"]

namespace Form

/-- The filter that a form describes. -/
def filter? (form : Form) : Option Filter :=
  if form.whereColumn = [] ∨ form.whereValue = [] then none
  else some (.comparison
    ⟨form.whereColumn, .ofSymbol form.whereOperator, .ofText form.whereValue⟩)

/-- The order that a form describes. -/
def order? (form : Form) : Option SortOrder :=
  if form.orderByColumn = [] then none else some ⟨form.orderByColumn, form.isDescending⟩

/-- The limit that a form describes: the number that its digits spell. -/
def limit? (form : Form) : Option Nat :=
  if isAllDigits (trim form.limit) then
    some (positional ((trim form.limit).filterMap digitValue?))
  else none

/-- The columns that a form shows. -/
def shownColumns (form : Form) : List Text :=
  if form.selectsAll then ["*"] else form.selectedColumns

/-- The first value that is set for a column, or an empty text. -/
def insertedValue (form : Form) (column : Text) : Value :=
  match form.setValues.find? fun entry => entry.1 == column with
  | some (_, value) => .ofText value
  | none => .text []

/-- The statement that a form describes. -/
def statement (form : Form) : Statement :=
  match form.kind with
  | .select =>
    .select ⟨form.tableName, form.shownColumns, form.filter?, form.order?, form.limit?⟩
  | .update =>
    .update ⟨form.tableName, form.setValues.map fun (column, value) => (column, .ofText value),
      form.filter?⟩
  | .delete => .delete ⟨form.tableName, form.filter?⟩
  | .insert =>
    .insert ⟨form.tableName, some form.selectedColumns,
      form.selectedColumns.map form.insertedValue⟩
  | .rename => .alter form.tableName (.rename form.newTableName)
  | .addColumn => .alter form.tableName (.addColumn form.newColumnName)
  | .dropColumn => .alter form.tableName (.dropColumn form.columnToDrop)

/-- A limit that is none, or whose digits are decimal and not too many. -/
def LimitIsPlain (form : Form) : Prop :=
  isAllDigits (trim form.limit) = true →
    (trim form.limit).length ≤ limitDigits ∧ ∀ p ∈ trim form.limit, isDecimal p = true

end Form

/-! ### Clauses -/

theorem reads_operator {symbol : Text} (h : symbol ∈ comparisonSymbols) (rest : Text) :
    Reads (fun ts => ∃ t, ts = [t] ∧ (t.kind, Operator.ofSymbol symbol) ∈ operators) symbol
      (' ' :: rest) := by
  have hone : ∃ kind, (kind, Operator.ofSymbol symbol) ∈ operators ∧
      Reads (IsToken kind symbol) symbol (' ' :: rest) := by
    simp only [comparisonSymbols, List.mem_cons, List.not_mem_nil, or_false] at h
    rcases h with rfl | rfl | rfl | rfl | rfl | rfl | rfl
    · exact ⟨.equal, by decide, reads_token rfl⟩
    · exact ⟨.notEqual, by decide, reads_token rfl⟩
    · exact ⟨.less, by decide, reads_token rfl⟩
    · exact ⟨.lessEqual, by decide, reads_token rfl⟩
    · exact ⟨.greater, by decide, reads_token rfl⟩
    · exact ⟨.greaterEqual, by decide, reads_token rfl⟩
    · exact ⟨.keyword .LIKE, by decide, reads_keyword .LIKE (breaks_cons.2 (by decide))⟩
  obtain ⟨kind, hkind, hreads⟩ := hone
  refine hreads.mono ?_
  rintro _ ⟨position, rfl⟩
  exact ⟨_, rfl, hkind⟩

/-- Four tokens that are a whole clause. -/
theorem whereClause_comparison {w c o l : Token} {operator : Operator}
    (hw : w.kind = .keyword .WHERE) (hc : c.kind ∈ nameKinds) (ho : (o.kind, operator) ∈ operators)
    (hl : l.kind ∈ literalKinds) :
    WhereClause [w, c, o, l] (some (.comparison ⟨c.text, operator, .ofText l.text⟩)) := by
  refine .clause hw (tokens_iff.2 ⟨by simp, ?_⟩) (.comparison hc ho hl)
  intro t ht
  simp only [List.mem_cons, List.not_mem_nil, or_false] at ht
  rcases ht with rfl | rfl | rfl
  · exact nameKinds_subset hc
  · exact mem_clauseKinds_of_mem_operators _ ho
  · exact literalKinds_subset hl

namespace Form

variable (form : Form)

theorem afterBlanks_whereClause (h : form.whereClause ≠ []) :
    afterBlanks form.whereClause =
      Point.char ' ' :: (Keyword.WHERE.name ++ Point.char ' ' :: (spellName form.whereColumn ++
        Point.char ' ' :: (form.whereOperator ++ Point.char ' ' ::
          spellLiteral form.whereValue))) := by
  unfold whereClause at h ⊢
  split at h
  · exact absurd rfl h
  · rename_i hfilled
    rw [if_neg hfilled]
    simp only [afterBlanks, List.flatMap_cons, List.flatMap_nil, List.append_assoc,
      List.append_nil]
    rfl

theorem reads_whereClause (h : form.whereOperator ∈ comparisonSymbols) {rest : Text}
    (hrest : Breaks rest) :
    Reads (WhereClause · form.filter?) (afterBlanks form.whereClause) rest := by
  have hoperator : form.whereOperator.isEmpty = false := by
    rw [List.isEmpty_eq_false_iff]
    rintro hnil
    rw [hnil] at h
    revert h
    decide
  by_cases hnone : form.whereColumn = [] ∨ form.whereValue = []
  · have hclause : form.whereClause = [] := by
      rcases hnone with hnone | hnone <;> simp [whereClause, hnone]
    rw [hclause, filter?, if_pos hnone]
    exact .nothing .none
  · obtain ⟨hcolumn, hvalue⟩ := not_or.1 hnone
    have hclause : form.whereClause ≠ [] := by simp [whereClause, hoperator, hcolumn, hvalue]
    rw [form.afterBlanks_whereClause hclause, filter?, if_neg hnone]
    have hcomparison := (reads_operator h _).append (reads_literal form.whereValue hrest).blank
    refine (Reads.keyword .WHERE (Reads.name form.whereColumn hcomparison.blank)).blank.mono ?_
    rintro _ ⟨w, _, rfl, hw, ns, _, rfl, hns, _, _, rfl, ⟨o, rfl, ho⟩, l, rfl, hl, hkind⟩
    obtain ⟨c, rfl, hc⟩ := name_iff.1 hns
    obtain ⟨hc, htext⟩ := nameOf?_eq_some.1 hc
    rw [← hl, ← htext]
    refine whereClause_comparison hw hc ho ?_
    rcases hkind with hkind | ⟨hkind, -⟩ <;> simp [literalKinds, hkind]

theorem reads_orderClause {rest : Text} (hrest : Breaks rest) :
    Reads (OrderClause · form.order?) (afterBlanks form.orderClause) rest := by
  by_cases hnone : form.orderByColumn = []
  · have hclause : form.orderClause = [] := by simp [orderClause, hnone]
    rw [hclause, order?, if_pos hnone]
    exact .nothing .none
  · have hdirection : ∃ k : Keyword,
        ofString (if form.isDescending then "DESC" else "ASC") = k.name ∧
        k = if form.isDescending then .DESC else .ASC := by
      by_cases hdescending : form.isDescending = true
      · exact ⟨.DESC, by rw [if_pos hdescending]; rfl, by rw [if_pos hdescending]⟩
      · exact ⟨.ASC, by rw [if_neg hdescending]; rfl, by rw [if_neg hdescending]⟩
    obtain ⟨k, hname, hk⟩ := hdirection
    have hclause : form.orderClause = ["ORDER BY " ++ spellName form.orderByColumn ++ " " ++
        k.name] := by
      simp [orderClause, hnone, hname]
    have hspell : afterBlanks form.orderClause =
        Point.char ' ' :: (Keyword.ORDER.name ++ Point.char ' ' :: (Keyword.BY.name ++
          Point.char ' ' :: (spellName form.orderByColumn ++ Point.char ' ' :: k.name))) := by
      rw [hclause]
      simp only [afterBlanks, List.flatMap_cons, List.flatMap_nil, List.append_assoc,
        List.append_nil]
      rfl
    rw [hspell, order?, if_neg hnone]
    have hcolumn := Reads.name form.orderByColumn (reads_keyword k hrest).blank
    refine (Reads.keyword .ORDER (Reads.keyword .BY hcolumn)).blank.mono ?_
    rintro _ ⟨order, _, rfl, horder, by_, _, rfl, hby, ns, _, rfl, hns, position, rfl⟩
    by_cases hdescending : form.isDescending = true
    · rw [hdescending] at hk ⊢
      exact .descending horder hby hns (by rw [hk]; rfl)
    · rw [Bool.not_eq_true] at hdescending
      rw [hdescending] at hk ⊢
      exact .ascending horder hby hns (by rw [hk]; rfl)

/-- A limit of decimal digits is read as a limit, unless there are too many of them. -/
theorem reads_limitClause_of_isDigitRun (hdigits : isAllDigits (trim form.limit) = true)
    (hdecimal : IsDigitRun (trim form.limit)) {rest : Text} (hrest : Breaks rest) :
    Reads (LimitClause · (limitOf? (trim form.limit))) (afterBlanks form.limitClause) rest := by
  have hspell : afterBlanks form.limitClause =
      Point.char ' ' :: (Keyword.LIMIT.name ++ Point.char ' ' :: trim form.limit) := by
    rw [limitClause, if_pos hdigits]
    simp only [afterBlanks, List.flatMap_cons, List.flatMap_nil, List.append_nil]
    rfl
  have hne : trim form.limit ≠ [] := by
    rintro hnil
    simp [hnil, isAllDigits] at hdigits
  have hnumeral := reads_numeral (isNumeral_of_isDigitRun hne hdecimal) hrest
  rw [trim_trim] at hnumeral
  rw [hspell]
  refine (Reads.keyword .LIMIT hnumeral).blank.mono ?_
  rintro _ ⟨limit, _, rfl, hkind, position, rfl⟩
  exact .limit hkind rfl

theorem reads_limitClause (h : form.LimitIsPlain) {rest : Text} (hrest : Breaks rest) :
    Reads (LimitClause · form.limit?) (afterBlanks form.limitClause) rest := by
  by_cases hdigits : isAllDigits (trim form.limit) = true
  · obtain ⟨hlength, hdecimal⟩ := h hdigits
    have hlimit : form.limit? = limitOf? (trim form.limit) := by
      simp [limit?, limitOf?, hdigits, hlength]
    rw [hlimit]
    exact form.reads_limitClause_of_isDigitRun hdigits hdecimal hrest
  · have hclause : form.limitClause = [] := by rw [limitClause, if_neg hdigits]
    rw [hclause, limit?, if_neg hdigits]
    exact .nothing .none

theorem endsSolid_of_mem_clauses {t : Text}
    (ht : t ∈ form.whereClause ++ form.orderClause ++ form.limitClause) : endsSolid t = true := by
  simp only [List.mem_append] at ht
  rcases ht with (ht | ht) | ht
  · unfold whereClause at ht
    split at ht
    · simp at ht
    · rw [List.mem_singleton.1 ht]
      exact endsSolid_append (endsSolid_spellLiteral _) _
  · unfold orderClause at ht
    split at ht
    · simp at ht
    · rw [List.mem_singleton.1 ht]
      refine endsSolid_append ?_ _
      split <;> decide
  · unfold limitClause at ht
    split at ht
    · rename_i hdigits
      rw [List.mem_singleton.1 ht]
      refine endsSolid_append (endsSolid_trim ?_) _
      rintro hnil
      simp [hnil, isAllDigits] at hdigits
    · simp at ht

end Form

/-! ### Statements -/

theorem Grammar.Query.startsStatement {ts : List Token} {s : Statement} (h : Query ts s) :
    StartsStatement ts := by
  cases h with
  | select hfirst => exact ⟨_, by simp, .SELECT, by decide, hfirst⟩
  | insert hfirst => exact ⟨_, by simp, .INSERT, by decide, hfirst⟩
  | insertColumns hfirst => exact ⟨_, by simp, .INSERT, by decide, hfirst⟩
  | update hfirst => exact ⟨_, by simp, .UPDATE, by decide, hfirst⟩
  | delete hfirst => exact ⟨_, by simp, .DELETE, by decide, hfirst⟩
  | alterBare hfirst => exact ⟨_, by simp, .ALTER, by decide, hfirst⟩
  | alter hfirst => exact ⟨_, by simp, .ALTER, by decide, hfirst⟩

theorem Statement.parse_of_query {text : Text} {s : Statement} (h : Query (tokenize text) s)
    (hstarts : startsSolid text = true) (hends : endsSolid text = true) :
    Statement.parse text = .ok s := by
  have hsentence := parseTokens_iff_sentence.2 (.plain h)
  rw [← trim_of_solid hstarts hends] at h hsentence
  rw [Statement.parse_of_starts h.startsStatement, hsentence]
  rfl

/-- A text that is read as a statement of the grammar is parsed as that statement. -/
theorem Statement.parse_of_reads {text : Text} {s : Statement} (h : Reads (Query · s) text [])
    (hstarts : startsSolid text = true) (hends : endsSolid text = true) :
    Statement.parse text = .ok s :=
  Statement.parse_of_query h.tokenize hstarts hends

theorem reads_alter (table : Text) {action name : Text} {alteration : Alteration} {k k' : Keyword}
    (haction : action = k.name ++ Point.char ' ' :: k'.name)
    (hmeaning : ∀ first second target : Token, first.kind = .keyword k →
      second.kind = .keyword k' → target.kind ∈ nameKinds → target.text = name →
      ActionMeaning [first, second, target] alteration) :
    Reads (Query · (.alter table alteration))
      ("ALTER TABLE " ++ spellName table ++ " " ++ action ++ " " ++ spellName name)
      [] := by
  have hspell : "ALTER TABLE " ++ spellName table ++ " " ++ action ++ " " ++
      spellName name =
      Keyword.ALTER.name ++ Point.char ' ' :: (Keyword.TABLE.name ++ Point.char ' ' ::
        (spellName table ++ Point.char ' ' :: (k.name ++ Point.char ' ' ::
          (k'.name ++ Point.char ' ' :: spellName name)))) := by
    rw [haction]
    simp only [List.append_assoc]
    rfl
  have haction := Reads.keyword k (Reads.keyword k' (reads_phrase name []))
  have htable := Reads.keyword .TABLE (Reads.name table haction.blank)
  rw [hspell]
  refine (Reads.keyword .ALTER htable).mono ?_
  rintro _ ⟨first, _, rfl, hfirst, second, _, rfl, hsecond, ns, _, rfl, hns, t₁, _, rfl, ht₁, t₂,
    us, rfl, ht₂, hus⟩
  obtain ⟨target, rfl, htarget⟩ := name_iff.1 hus
  obtain ⟨hkind, htext⟩ := nameOf?_eq_some.1 htarget
  refine .alter hfirst hsecond hns (tokens_iff.2 ⟨by simp, ?_⟩) (hmeaning _ _ _ ht₁ ht₂ hkind htext)
  intro t ht
  rw [mem_actionKinds]
  rintro hsemicolon
  simp only [List.mem_cons, List.not_mem_nil, or_false] at ht
  rcases ht with rfl | rfl | rfl
  · simp [ht₁] at hsemicolon
  · simp [ht₂] at hsemicolon
  · simp [hsemicolon, nameKinds] at hkind

namespace Form

variable (form : Form)

/-- The text between `SELECT` and `FROM`. -/
def columnList : Text :=
  if form.selectsAll then "*" else nameList form.selectedColumns

theorem reads_columnList {rest : Text} (hrest : Breaks rest) :
    Reads (Sequence SelectItem · form.shownColumns) form.columnList rest := by
  unfold shownColumns columnList
  by_cases hall : form.selectsAll = true
  · rw [if_pos hall, if_pos hall]
    refine (reads_star rest).mono ?_
    rintro _ ⟨position, rfl⟩
    exact .single (.star rfl)
  · have hne : form.selectedColumns ≠ [] := by
      rintro hnil
      simp [selectsAll, hnil] at hall
    rw [if_neg hall, if_neg hall]
    have hitem : ∀ name rest, Breaks rest → Reads (SelectItem · (id name)) (spellName name) rest :=
      fun name rest _ => (reads_phrase name rest).mono fun _ hname => .name hname
    simpa [nameList] using reads_sequence hitem hne hrest

theorem reads_delete (h : form.whereOperator ∈ comparisonSymbols) :
    Reads (Query · (.delete ⟨form.tableName, form.filter?⟩))
      (joinWith " " (["DELETE FROM " ++ spellName form.tableName] ++ form.whereClause)) [] := by
  have hspell : joinWith " " (["DELETE FROM " ++ spellName form.tableName] ++ form.whereClause) =
      Keyword.DELETE.name ++ Point.char ' ' :: (Keyword.FROM.name ++ Point.char ' ' ::
        (spellName form.tableName ++ afterBlanks form.whereClause)) := by
    rw [List.singleton_append, joinWith_blank]
    simp only [List.append_assoc]
    rfl
  have hclause := form.reads_whereClause h breaks_nil
  rw [hspell]
  refine (Reads.keyword .DELETE (Reads.keyword .FROM (Reads.name _ hclause))).mono ?_
  rintro _ ⟨first, _, rfl, hfirst, from_, _, rfl, hfrom, ns, ws, rfl, hns, hws⟩
  exact .delete hfirst hfrom hns hws

theorem reads_update (hne : form.setValues ≠ []) (h : form.whereOperator ∈ comparisonSymbols) :
    Reads (Query · (.update ⟨form.tableName,
        form.setValues.map fun (column, value) => (column, .ofText value), form.filter?⟩))
      (joinWith " " (["UPDATE " ++ spellName form.tableName ++ " SET " ++ form.assignmentList] ++
        form.whereClause)) [] := by
  have hspell : joinWith " " (["UPDATE " ++ spellName form.tableName ++ " SET " ++
      form.assignmentList] ++ form.whereClause) =
      Keyword.UPDATE.name ++ Point.char ' ' :: (spellName form.tableName ++ Point.char ' ' ::
        (Keyword.SET.name ++ Point.char ' ' ::
          (form.assignmentList ++ afterBlanks form.whereClause))) := by
    rw [List.singleton_append, joinWith_blank]
    simp only [List.append_assoc]
    rfl
  have hclause := form.reads_whereClause h breaks_nil
  have hbreak : Breaks (afterBlanks form.whereClause ++ []) := by
    rw [List.append_nil]
    exact breaks_afterBlanks _
  have hassignments := reads_sequence
    (fun (entry : Text × Text) _ hrest => reads_assignment entry.1 entry.2 hrest) hne hbreak
  have hset := Reads.keyword .SET (hassignments.append hclause)
  rw [hspell]
  refine (Reads.keyword .UPDATE (Reads.name _ hset.blank)).mono ?_
  rintro _ ⟨first, _, rfl, hfirst, ns, _, rfl, hns, set, _, rfl, hset, as, ws, rfl, has, hws⟩
  simpa using Query.update hfirst hns hset has hws

/-- A built `SELECT` up to its clauses. -/
def selectFront : Text :=
  "SELECT " ++ form.columnList ++ " FROM " ++ spellName form.tableName

theorem joinWith_select : joinWith " " ((["SELECT", form.columnList,
      "FROM " ++ spellName form.tableName] : List Text) ++ form.whereClause ++ form.orderClause ++
        form.limitClause) =
    form.selectFront ++ (afterBlanks form.whereClause ++ (afterBlanks form.orderClause ++
      afterBlanks form.limitClause)) := by
  simp only [List.cons_append, List.nil_append, joinWith_blank, List.append_assoc,
    ← afterBlanks_append, selectFront]
  rfl

/-- The columns and the table are read from the front, whatever is read from what follows. -/
theorem reads_selectFront {text rest : Text} {Q : List Token → Prop} (h : Reads Q text rest) :
    Reads (fun ts => ∃ first cs from_ ns us, ts = first :: (cs ++ from_ :: (ns ++ us)) ∧
        first.kind = .keyword .SELECT ∧ Sequence SelectItem cs form.shownColumns ∧
        from_.kind = .keyword .FROM ∧ Name ns form.tableName ∧ Q us)
      (form.selectFront ++ text) rest := by
  have hspell : form.selectFront ++ text = Keyword.SELECT.name ++ Point.char ' ' ::
      (form.columnList ++ Point.char ' ' ::
        (Keyword.FROM.name ++ Point.char ' ' :: (spellName form.tableName ++ text))) := by
    simp only [selectFront, List.append_assoc]
    rfl
  have hfrom := Reads.keyword .FROM (Reads.name form.tableName h)
  have hcolumns := (form.reads_columnList (breaks_cons.2 (by decide))).append hfrom.blank
  rw [hspell]
  refine (Reads.keyword .SELECT hcolumns).mono ?_
  rintro _ ⟨first, _, rfl, hfirst, cs, _, rfl, hcs, from_, _, rfl, hfrom, ns, us, rfl, hns, hus⟩
  exact ⟨first, cs, from_, ns, us, rfl, hfirst, hcs, hfrom, hns, hus⟩

/-- The clauses are read one after the other. -/
theorem reads_clauses {P Q : List Token → Prop}
    (hwhere : ∀ {rest : Text}, Breaks rest → Reads P (afterBlanks form.whereClause) rest)
    (hlimit : Reads Q (afterBlanks form.limitClause) []) :
    Reads (fun ts => ∃ ws us, ts = ws ++ us ∧ P ws ∧
        ∃ os ls, us = os ++ ls ∧ OrderClause os form.order? ∧ Q ls)
      (afterBlanks form.whereClause ++
        (afterBlanks form.orderClause ++ afterBlanks form.limitClause)) [] := by
  have hbreak : Breaks (afterBlanks form.limitClause ++ []) := by
    rw [List.append_nil]
    exact breaks_afterBlanks _
  have hbreak' : Breaks (afterBlanks form.orderClause ++ afterBlanks form.limitClause ++ []) := by
    rw [List.append_nil, ← afterBlanks_append]
    exact breaks_afterBlanks _
  exact (hwhere hbreak').append ((form.reads_orderClause hbreak).append hlimit)

/-- The clauses decide on the filter and on the limit. -/
theorem reads_select_of {P : Option Filter → Prop} {limit : Option Nat}
    (hwhere : ∀ {rest : Text}, Breaks rest →
      Reads (fun ts => ∃ filter, P filter ∧ WhereClause ts filter) (afterBlanks form.whereClause)
        rest)
    (hlimit : Reads (LimitClause · limit) (afterBlanks form.limitClause) []) :
    Reads (fun ts => ∃ filter, P filter ∧
        Query ts (.select ⟨form.tableName, form.shownColumns, filter, form.order?, limit⟩))
      (joinWith " " ((["SELECT", form.columnList,
        "FROM " ++ spellName form.tableName] : List Text) ++ form.whereClause ++
          form.orderClause ++ form.limitClause)) [] := by
  rw [joinWith_select]
  refine (form.reads_selectFront (form.reads_clauses hwhere hlimit)).mono ?_
  rintro _ ⟨first, cs, from_, ns, _, rfl, hfirst, hcs, hfrom, hns, ws, _, rfl, ⟨filter, hfilter,
    hws⟩, os, ls, rfl, hos, hls⟩
  exact ⟨filter, hfilter, by simpa using Query.select hfirst hcs hfrom hns hws hos hls⟩

theorem reads_select (h : form.whereOperator ∈ comparisonSymbols) (hlimit : form.LimitIsPlain) :
    Reads (Query · (.select ⟨form.tableName, form.shownColumns, form.filter?, form.order?,
        form.limit?⟩))
      (joinWith " " ((["SELECT", form.columnList,
        "FROM " ++ spellName form.tableName] : List Text) ++ form.whereClause ++
          form.orderClause ++ form.limitClause)) [] := by
  have hwhere {rest : Text} (hrest : Breaks rest) :
      Reads (fun ts => ∃ filter, filter = form.filter? ∧ WhereClause ts filter)
        (afterBlanks form.whereClause) rest :=
    (form.reads_whereClause h hrest).mono fun _ hws => ⟨_, rfl, hws⟩
  refine (form.reads_select_of hwhere (form.reads_limitClause hlimit breaks_nil)).mono ?_
  rintro ts ⟨_, rfl, hts⟩
  exact hts

theorem reads_insertedLiteral (column : Text) {rest : Text} (hrest : Breaks rest) :
    Reads (InsertedValue · (form.insertedValue column)) (form.insertedLiteral column) rest := by
  unfold insertedValue insertedLiteral
  cases form.setValues.find? fun entry => entry.1 == column with
  | none =>
    refine (reads_name [] rest).mono ?_
    rintro _ ⟨position, rfl⟩
    exact .text (by simp [nameKinds])
  | some entry => exact reads_insertedValue entry.2 hrest

theorem reads_insert (hne : form.selectedColumns ≠ []) :
    Reads (Query · (.insert ⟨form.tableName, some form.selectedColumns,
        form.selectedColumns.map form.insertedValue⟩))
      ("INSERT INTO " ++ spellName form.tableName ++ " (" ++ nameList form.selectedColumns ++
        ") VALUES (" ++ joinWith ", " (form.selectedColumns.map form.insertedLiteral) ++ ")")
      [] := by
  have hspell : "INSERT INTO " ++ spellName form.tableName ++ " (" ++
      nameList form.selectedColumns ++ ") VALUES (" ++
        joinWith ", " (form.selectedColumns.map form.insertedLiteral) ++ ")" =
      Keyword.INSERT.name ++ Point.char ' ' :: (Keyword.INTO.name ++ Point.char ' ' ::
        (spellName form.tableName ++ Point.char ' ' ::
          (("(" ++ nameList form.selectedColumns ++ ")") ++ Point.char ' ' ::
            (Keyword.VALUES.name ++ Point.char ' ' ::
              ("(" ++ joinWith ", " (form.selectedColumns.map form.insertedLiteral) ++
                ")"))))) := by
    simp only [List.append_assoc]
    rfl
  have hclose (rest : Text) : Breaks (")" ++ rest) := breaks_cons.2 (by decide)
  have hitem : ∀ name rest, Breaks rest → Reads (Name · (id name)) (spellName name) rest :=
    fun name rest _ => reads_phrase name rest
  have hvalues := reads_parenthesized (reads_sequence
    (fun column _ hrest => form.reads_insertedLiteral column hrest) hne (hclose []))
  have hnames := fun rest => reads_parenthesized (reads_sequence hitem hne (hclose rest))
  have hbody := (hnames _).append (Reads.keyword .VALUES hvalues).blank
  have hinto := Reads.keyword .INTO (Reads.name form.tableName hbody.blank)
  rw [hspell]
  refine (Reads.keyword .INSERT hinto).mono ?_
  rintro _ ⟨first, _, rfl, hfirst, into, _, rfl, hinto, ns, _, rfl, hns, cs, _, rfl, hcs, values,
    vs, rfl, hvalues, hvs⟩
  simpa using Query.insertColumns hfirst hinto hns hcs hvalues hvs

theorem parse_alter {action name text : Text} {alteration : Alteration} {k k' : Keyword}
    (haction : action = k.name ++ Point.char ' ' :: k'.name)
    (hmeaning : ∀ first second target : Token, first.kind = .keyword k →
      second.kind = .keyword k' → target.kind ∈ nameKinds → target.text = name →
      ActionMeaning [first, second, target] alteration)
    (htext : form.alterText? action name = some text) :
    Statement.parse text = .ok (.alter form.tableName alteration) := by
  unfold alterText? at htext
  split at htext
  · simp at htext
  · obtain rfl := Option.some.inj htext
    exact Statement.parse_of_reads (reads_alter form.tableName haction hmeaning) rfl
      (endsSolid_append (endsSolid_spellName _) _)

/-- A built query is parsed as the statement that its form describes. -/
theorem parse_text {text : Text} (hoperator : form.whereOperator ∈ comparisonSymbols)
    (hlimit : form.LimitIsPlain) (htext : form.text? = some text) :
    Statement.parse text = .ok form.statement := by
  -- no text that is built ends in a blank, so that trimming leaves it as it is
  have hends (last : Text) (hlast : endsSolid last = true) {clauses : List Text}
      (hsub : clauses ⊆ form.whereClause ++ form.orderClause ++ form.limitClause) :
      ∀ t ∈ last :: clauses, endsSolid t = true := by
    rintro t (_ | ⟨_, ht⟩)
    · exact hlast
    · exact form.endsSolid_of_mem_clauses (hsub ht)
  cases hkind : form.kind with
  | select =>
    simp only [text?, hkind, Option.some.injEq] at htext
    simp only [statement, hkind]
    subst htext
    refine Statement.parse_of_reads (form.reads_select hoperator hlimit)
      (startsSolid_joinWith rfl _) ?_
    exact endsSolid_joinWith ["SELECT", form.columnList] (by simp)
      (hends _ (endsSolid_append (endsSolid_spellName _) _) (by simp))
  | update =>
    simp only [text?, hkind] at htext
    split at htext
    · simp at htext
    · rename_i hne
      obtain rfl := Option.some.inj htext
      simp only [statement, hkind]
      have hassignments : endsSolid form.assignmentList = true := by
        refine endsSolid_joinWith [] (by simpa using hne) ?_
        intro t ht
        obtain ⟨entry, -, rfl⟩ := List.mem_map.1 ht
        exact endsSolid_append (endsSolid_spellLiteral _) _
      refine Statement.parse_of_reads (form.reads_update (by simpa using hne) hoperator)
        (startsSolid_joinWith rfl _) ?_
      exact endsSolid_joinWith [] (by simp) (hends _ (endsSolid_append hassignments _) (by simp))
  | delete =>
    simp only [text?, hkind, Option.some.injEq] at htext
    simp only [statement, hkind]
    subst htext
    refine Statement.parse_of_reads (form.reads_delete hoperator) (startsSolid_joinWith rfl _) ?_
    exact endsSolid_joinWith [] (by simp)
      (hends _ (endsSolid_append (endsSolid_spellName _) _) (by simp))
  | insert =>
    simp only [text?, hkind] at htext
    split at htext
    · simp at htext
    · rename_i hne
      obtain rfl := Option.some.inj htext
      simp only [statement, hkind]
      exact Statement.parse_of_reads (form.reads_insert (by simpa using hne)) rfl
        (endsSolid_append (by decide) _)
  | rename =>
    simp only [text?, hkind] at htext
    simp only [statement, hkind]
    have haction : ("RENAME TO" : Text) =
        Keyword.RENAME.name ++ Point.char ' ' :: Keyword.TO.name := rfl
    refine form.parse_alter haction ?_ htext
    intro first second target hfirst hsecond htarget hname
    rw [← hname]
    exact .rename hfirst hsecond htarget
  | addColumn =>
    simp only [text?, hkind] at htext
    simp only [statement, hkind]
    have haction : ("ADD COLUMN" : Text) =
        Keyword.ADD.name ++ Point.char ' ' :: Keyword.COLUMN.name := rfl
    refine form.parse_alter haction ?_ htext
    intro first second target hfirst hsecond htarget hname
    rw [← hname]
    exact .addColumn hfirst hsecond htarget
  | dropColumn =>
    simp only [text?, hkind] at htext
    simp only [statement, hkind]
    have haction : ("DROP COLUMN" : Text) =
        Keyword.DROP.name ++ Point.char ' ' :: Keyword.COLUMN.name := rfl
    refine form.parse_alter haction ?_ htext
    intro first second target hfirst hsecond htarget hname
    rw [← hname]
    exact .dropColumn hfirst hsecond htarget

theorem parse_text_select :
    Statement.parse
        "SELECT \"\\\"\" FROM \"from\" WHERE \"\\\\\" <= -12 ORDER BY \"by\" DESC LIMIT 007" =
      .ok (.select ⟨"from", ["\""], some (.comparison ⟨"\\", .lessEqual, .int (-12)⟩),
        some ⟨"by", true⟩, some 7⟩) := by
  have hparse := parse_text ⟨.select, "from", ["\"", "b"], ["\""], "\\", "<=", " -12 ", "by",
    "desc", " 007", [], [], [], []⟩ (by decide) (by unfold LimitIsPlain; decide) rfl
  exact hparse

end Form

end TableQuery
