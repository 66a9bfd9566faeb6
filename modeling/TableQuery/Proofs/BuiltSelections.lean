import Mathlib.Data.List.Perm.Subperm
import TableQuery.Proofs.BuiltScripts
import TableQuery.Proofs.Execution

/-!
# What a built `SELECT` shows

* `IsClausePart`: an operator that leaves a `WHERE` clause to what follows it.
* `Grammar.Sentence.number_of_limit`: after a `LIMIT` comes a number.
* `Selection.run_limit`: a limit keeps the front of what is shown without it.
* `Form.select_of_parse`: a built `SELECT` is parsed with the columns and the table of its form, if
  it is parsed at all.
* `Form.isDigitRun_of_parse`: it is not parsed if its limit has digits that are not decimal.
* `Form.parse_limited`: a built `SELECT` keeps to a limit of decimal digits, unless it is overlong.
* `Selection.shownColumns_eq_ok`: the columns that are shown.
* `Form.columns_subset_selected_iff`: when these are among the selected ones.
-/

namespace TableQuery

open Number Text Grammar

/-! ### Limits -/

/-- A text that is split off, before a blank, into tokens that a `WHERE` clause takes in. -/
def IsClausePart (text : Text) : Prop :=
  ∀ rest : Text, Reads (fun ts => ∀ t ∈ ts, t.kind ∈ clauseKinds) text (Point.char ' ' :: rest)

/-- Every operator of a comparison is such a text. -/
theorem isClausePart_of_mem {symbol : Text} (h : symbol ∈ comparisonSymbols) :
    IsClausePart symbol := by
  refine fun rest => (reads_operator h rest).mono ?_
  rintro _ ⟨t, rfl, ht⟩
  exact List.forall_mem_singleton.2 (mem_clauseKinds_of_mem_operators _ ht)

/-- An operator with a semicolon ends the statement, and what follows it is not taken in. -/
example : Statement.parse "SELECT * FROM \"t\" WHERE \"a\" ; 1 LIMIT 1" =
    .error (.malformed (some ("1", 30))) := by decide +kernel

/-- No clause of a `SELECT` but the last one takes in a `LIMIT`. -/
theorem Grammar.Query.exists_limitClause {ts : List Token} {selection : Selection}
    (h : Query ts (.select selection)) :
    ∃ body ls limit, ts = body ++ ls ∧ LimitClause ls limit ∧
      ∀ t ∈ body, t.kind ≠ .keyword .LIMIT := by
  cases h with
  | @select first from_ cs ns ws os ls columns table filter order limit hfirst hcs hfrom hns hws hos
      hls =>
    have hcolumns : ∀ t ∈ cs, t.kind ≠ .keyword .LIMIT := by
      refine hcs.forall_tokens ?_ fun t ht => by simp [ht]
      rintro us name (hname | hstar)
      · exact hname.kind_ne_keyword _
      · exact List.forall_mem_singleton.2 (by simp [hstar])
    have hwhere : ∀ t ∈ ws, t.kind ≠ .keyword .LIMIT := by
      cases hws with
      | none => simp
      | blank hw => exact List.forall_mem_singleton.2 (by simp [hw])
      | clause hw htokens _ =>
        refine List.forall_mem_cons.2 ⟨by simp [hw], fun t ht => ?_⟩
        exact ((mem_clauseKinds _).1 ((tokens_iff.1 htokens).2 t ht)).2.1
    have horder : ∀ t ∈ os, t.kind ≠ .keyword .LIMIT := by
      cases hos with
      | none => simp
      | plain ho hb hname => simpa [ho, hb] using hname.kind_ne_keyword _
      | ascending ho hb hname hd =>
        simpa [ho, hb, hd, or_imp, forall_and] using hname.kind_ne_keyword _
      | descending ho hb hname hd =>
        simpa [ho, hb, hd, or_imp, forall_and] using hname.kind_ne_keyword _
    refine ⟨_, ls, limit, rfl, hls, ?_⟩
    simp only [List.forall_mem_append, List.forall_mem_cons, hfirst, hfrom]
    exact ⟨⟨⟨⟨by simp, hcolumns⟩, by simp, hns.kind_ne_keyword _⟩, hwhere⟩, horder⟩

/-- After a `LIMIT` comes a number. -/
theorem Grammar.Sentence.number_of_limit {front : List Token} {limit last : Token}
    {selection : Selection} (h : Sentence (front ++ [limit, last]) (.select selection))
    (hlimit : limit.kind = .keyword .LIMIT) (hlast : last.kind ≠ .semicolon) :
    last.kind = .number := by
  obtain ⟨ts, rest, heq, hquery, rfl | ⟨t, ht, rfl⟩⟩ := h.query_rest
  · obtain ⟨body, ls, bound, rfl, hls, hbody⟩ := hquery.exists_limitClause
    rw [List.append_nil] at heq
    cases hls with
    | none =>
      rw [List.append_nil] at heq
      exact absurd hlimit (hbody limit (by simp [← heq]))
    | limit _ hnumber =>
      obtain ⟨-, rfl, rfl⟩ : _ ∧ _ ∧ _ := by simpa using List.append_inj' heq rfl
      exact hnumber
  · have hsame := congrArg List.getLast? heq
    simp only [List.getLast?_append, List.getLast?_cons_cons, List.getLast?_singleton,
      Option.some_or, Option.some.injEq] at hsame
    exact absurd (hsame ▸ ht) hlast

/-- A limit keeps the front of what is shown without it. -/
theorem Selection.run_limit {selection : Selection} {table : Table} {result : Result} {n : Nat}
    (hlimit : selection.limit = some n) (hrun : selection.run table = .ok result) :
    ∃ unlimited, Selection.run { selection with limit := none } table = .ok unlimited ∧
      result.columns = unlimited.columns ∧ result.rows = unlimited.rows.take n := by
  obtain ⟨columns, kept, ordered, hcolumns, hkept, hordered, rfl⟩ := Selection.run_eq_ok.1 hrun
  refine ⟨.selected columns (projection ordered columns),
    Selection.run_eq_ok.2 ⟨columns, kept, ordered, hcolumns, hkept, hordered, rfl⟩, rfl, ?_⟩
  rw [hlimit]
  exact List.map_take

namespace Form

variable (form : Form)

/-- Whatever the operator makes of the clause, it takes in nothing that follows. -/
theorem reads_whereClause_of_isClausePart
    (h : form.whereClause = [] ∨ IsClausePart form.whereOperator) {rest : Text}
    (hrest : Breaks rest) :
    Reads (fun ts => ∃ filter, (filter = none ↔ form.whereClause = []) ∧ WhereClause ts filter)
      (afterBlanks form.whereClause) rest := by
  by_cases hnone : form.whereClause = []
  · rw [hnone]
    exact .nothing ⟨none, by simp, .none⟩
  · have hoperator := h.resolve_left hnone
    have hcomparison := (hoperator _).append (reads_literal form.whereValue hrest).blank
    rw [form.afterBlanks_whereClause hnone]
    refine (Reads.keyword .WHERE (Reads.name form.whereColumn hcomparison.blank)).blank.mono ?_
    rintro _ ⟨w, _, rfl, hw, ns, _, rfl, hns, os, _, rfl, hos, l, rfl, -, hl⟩
    obtain ⟨c, rfl, hc⟩ := name_iff.1 hns
    obtain ⟨hc, -⟩ := nameOf?_eq_some.1 hc
    have hliteral : l.kind ∈ clauseKinds := by
      rcases hl with hl | ⟨hl, -⟩ <;> rw [hl] <;> decide
    have hkinds : ∀ t ∈ [c] ++ (os ++ [l]), t.kind ∈ clauseKinds := by
      simp only [List.mem_append, List.mem_singleton]
      rintro t (rfl | ht | rfl)
      · exact nameKinds_subset hc
      · exact hos t ht
      · exact hliteral
    exact ⟨_, by simp [hnone], .clause hw (tokens_iff.2 ⟨by simp, hkinds⟩)
      (filterMeaning_iff.2 rfl)⟩

/-- A limit of digits is a single token, and a number only if they are decimal. -/
theorem reads_limitClause_of_isAllDigits (hdigits : isAllDigits (trim form.limit) = true) :
    Reads (fun ts => ∃ limit last, ts = [limit, last] ∧ limit.kind = .keyword .LIMIT ∧
        last.kind ≠ .semicolon ∧ (last.kind = .number → IsDigitRun (trim form.limit)))
      (afterBlanks form.limitClause) [] := by
  have hspell : afterBlanks form.limitClause =
      Point.char ' ' :: (Keyword.LIMIT.name ++ Point.char ' ' :: trim form.limit) := by
    rw [limitClause, if_pos hdigits]
    simp only [afterBlanks, List.flatMap_cons, List.flatMap_nil, List.append_nil]
    rfl
  obtain ⟨hne, hall⟩ : trim form.limit ≠ [] ∧ ∀ p ∈ trim form.limit, isDigit p = true := by
    simpa [isAllDigits] using hdigits
  obtain ⟨p, run, hrun⟩ := List.exists_cons_of_ne_nil hne
  have hnumber : runKind (p :: run) = .number → IsDigitRun (p :: run) := fun hkind q hq => by
    have hdecimal := isDecimal_of_isNumeral (isNumeral_of_runKind hkind)
    rw [← hrun, trim_trim, hrun] at hdecimal
    exact hdecimal q hq (hall q (hrun ▸ hq))
  rw [hspell]
  rw [hrun] at hall ⊢
  obtain ⟨hfirst, hmore⟩ := List.forall_mem_cons.1 hall
  have hlast : Reads (IsToken (runKind (p :: run)) (p :: run)) (p :: run) [] := by
    refine reads_run (inRun_of_isDigit hfirst) (fun q hq => inRun_of_isDigit (hmore q hq)) ?_
      breaks_nil
    rintro rfl
    exact absurd hfirst (by decide)
  refine (Reads.keyword .LIMIT hlast).blank.mono ?_
  rintro _ ⟨limit, _, rfl, hkind, position, rfl⟩
  exact ⟨limit, _, rfl, hkind, runKind_ne _ rfl, hnumber⟩

theorem text?_select (hkind : form.kind = .select) :
    form.text? = some (joinWith " " ((["SELECT", form.columnList,
      "FROM " ++ spellName form.tableName] : List Text) ++ form.whereClause ++
        form.orderClause ++ form.limitClause)) := by
  rw [text?, hkind]
  rfl

/-- A built `SELECT` is parsed as its tokens make a sentence, and its front is always the same. -/
theorem exists_sentence_of_parse (hkind : form.kind = .select) {text : Text}
    (htext : form.text? = some text) {statement : Statement}
    (hparse : Statement.parse text = .ok statement) {Q : List Token → Prop}
    (hclauses : Reads Q (afterBlanks form.whereClause ++
      (afterBlanks form.orderClause ++ afterBlanks form.limitClause)) []) :
    ∃ first cs from_ ns us, first.kind = .keyword .SELECT ∧
      Sequence SelectItem cs form.shownColumns ∧ from_.kind = .keyword .FROM ∧
      Name ns form.tableName ∧ Q us ∧
      Sentence (first :: (cs ++ from_ :: (ns ++ us))) statement := by
  have hends := form.endsSolid_text htext
  obtain rfl := Option.some.inj ((form.text?_select hkind).symm.trans htext)
  have hstarts : startsSolid (joinWith " " ((["SELECT", form.columnList,
      "FROM " ++ spellName form.tableName] : List Text) ++ form.whereClause ++ form.orderClause ++
        form.limitClause)) = true := startsSolid_joinWith rfl _
  have hsentence := Statement.sentence_of_parse hparse
  rw [trim_of_solid hstarts hends, joinWith_select] at hsentence
  obtain ⟨first, cs, from_, ns, us, htokens, hfirst, hcs, hfrom, hns, hus⟩ :=
    (form.reads_selectFront hclauses).tokenize
  rw [htokens] at hsentence
  exact ⟨first, cs, from_, ns, us, hfirst, hcs, hfrom, hns, hus, hsentence⟩

/-- A built `SELECT` is parsed with the columns and the table of its form, if it is parsed. -/
theorem select_of_parse (hkind : form.kind = .select) {text : Text} (htext : form.text? = some text)
    {statement : Statement} (hparse : Statement.parse text = .ok statement) :
    ∃ filter order limit,
      statement = .select ⟨form.tableName, form.shownColumns, filter, order, limit⟩ := by
  -- whatever is read from the clauses, they come after the front
  have hclauses (clauses : Text) : Reads (fun _ => True) clauses [] := by
    intro position
    exact ⟨tokensFrom position 0 clauses, trivial, by simp [tokensFrom]⟩
  obtain ⟨first, cs, from_, ns, us, hfirst, hcs, hfrom, hns, -, hsentence⟩ :=
    form.exists_sentence_of_parse hkind htext hparse (hclauses _)
  exact hsentence.exists_select hfirst hcs hfrom hns

/-- Digits that are not decimal make a word, and no word is a limit. -/
theorem isDigitRun_of_parse (hkind : form.kind = .select)
    (hdigits : isAllDigits (trim form.limit) = true)
    (hoperator : form.whereClause = [] ∨ IsClausePart form.whereOperator) {text : Text}
    (htext : form.text? = some text) {statement : Statement}
    (hparse : Statement.parse text = .ok statement) : IsDigitRun (trim form.limit) := by
  have hclauses := form.reads_clauses (form.reads_whereClause_of_isClausePart hoperator)
    (form.reads_limitClause_of_isAllDigits hdigits)
  obtain ⟨filter, order, bound, rfl⟩ := form.select_of_parse hkind htext hparse
  obtain ⟨first, cs, from_, ns, _, -, -, -, -, ⟨ws, _, rfl, -, os, _, rfl, -, limit, last, rfl,
    hlimit, hlast, hnumber⟩, hsentence⟩ := form.exists_sentence_of_parse hkind htext hparse hclauses
  have hsplit : first :: (cs ++ from_ :: (ns ++ (ws ++ (os ++ [limit, last])))) =
      (first :: (cs ++ from_ :: (ns ++ (ws ++ os)))) ++ [limit, last] := by simp
  rw [hsplit] at hsentence
  exact hnumber (hsentence.number_of_limit hlimit hlast)

/-- A limit of decimal digits is parsed, whatever is before it. -/
theorem parse_of_isDigitRun (hkind : form.kind = .select)
    (hdigits : isAllDigits (trim form.limit) = true) (hdecimal : IsDigitRun (trim form.limit))
    (hoperator : form.whereClause = [] ∨ IsClausePart form.whereOperator) {text : Text}
    (htext : form.text? = some text) :
    ∃ filter, (filter = none ↔ form.whereClause = []) ∧ Statement.parse text =
      .ok (.select ⟨form.tableName, form.shownColumns, filter, form.order?,
        limitOf? (trim form.limit)⟩) := by
  have hreads := form.reads_select_of (form.reads_whereClause_of_isClausePart hoperator)
    (form.reads_limitClause_of_isDigitRun hdigits hdecimal breaks_nil)
  obtain ⟨filter, hfilter, hquery⟩ := hreads.tokenize
  have hends := form.endsSolid_text htext
  obtain rfl := Option.some.inj ((form.text?_select hkind).symm.trans htext)
  exact ⟨filter, hfilter, Statement.parse_of_query hquery (startsSolid_joinWith rfl _) hends⟩

/-- A built `SELECT` whose limit is digits is parsed just if the digits are decimal. Up to 18 of
them, it shows the front of what it shows without the limit, and no more rows than the digits say;
more digits are no limit. -/
theorem parse_limited (hkind : form.kind = .select)
    (hdigits : isAllDigits (trim form.limit) = true)
    (hoperator : form.whereClause = [] ∨ IsClausePart form.whereOperator) :
    let n := positional ((trim form.limit).filterMap digitValue?)
    ∃ front text, form.text? = some text ∧ text = front ++ " LIMIT " ++ trim form.limit ∧
      ((∃ statement, Statement.parse text = .ok statement) ↔ IsDigitRun (trim form.limit)) ∧
      (IsDigitRun (trim form.limit) → ∃ selection, Statement.parse text = .ok (.select selection) ∧
        selection.table = form.tableName ∧ selection.columns = form.shownColumns ∧
        (selection.filter = none ↔ form.whereClause = []) ∧ selection.order = form.order? ∧
        (limitDigits < (trim form.limit).length → selection.limit = none) ∧
        ((trim form.limit).length ≤ limitDigits → selection.limit = some n ∧
          ∀ table ids result left,
            (Statement.select selection).run table ids = .ok (result, left) →
            result.rows.length ≤ n ∧ ∃ unlimited,
              (Statement.select { selection with limit := none }).run table ids =
                .ok (unlimited, left) ∧
              result.columns = unlimited.columns ∧ result.rows = unlimited.rows.take n)) := by
  intro n
  have htext := form.text?_select hkind
  refine ⟨form.selectFront ++ (afterBlanks form.whereClause ++ afterBlanks form.orderClause), _,
    htext, ?_, ⟨?_, ?_⟩, fun hdecimal => ?_⟩
  · rw [joinWith_select, limitClause, if_pos hdigits]
    simp only [afterBlanks, List.flatMap_cons, List.flatMap_nil, List.append_nil, List.append_assoc]
    rfl
  · rintro ⟨statement, hparse⟩
    exact form.isDigitRun_of_parse hkind hdigits hoperator htext hparse
  · intro hdecimal
    obtain ⟨filter, -, hparse⟩ := form.parse_of_isDigitRun hkind hdigits hdecimal hoperator htext
    exact ⟨_, hparse⟩
  · obtain ⟨filter, hfilter, hparse⟩ :=
      form.parse_of_isDigitRun hkind hdigits hdecimal hoperator htext
    refine ⟨_, hparse, rfl, rfl, hfilter, rfl, fun hlong => by simp [limitOf?, hlong], ?_⟩
    intro hshort
    have hlimit : limitOf? (trim form.limit) = some n := by
      simp [limitOf?, hdigits, hshort, n]
    refine ⟨hlimit, fun table ids result left hrun => ?_⟩
    obtain ⟨hnamed, hrun, hleft⟩ := Statement.run_eq_ok.1 hrun
    obtain ⟨unlimited, hall, hcolumns, hrows⟩ := Selection.run_limit hlimit hrun
    refine ⟨?_, unlimited, Statement.run_eq_ok.2 ⟨hnamed, hall, hleft⟩, hcolumns, hrows⟩
    rw [hrows]
    exact List.length_take_le n _

/-- A superscript two is a digit, but not a decimal one. -/
theorem parse_limited_two :
    let form (limit : Text) : Form := ⟨.select, "t", ["a"], [], "a", ">=", "1", "", "ASC", limit,
      [], [], [], []⟩
    (form " 02 ").kind = .select ∧ isAllDigits (trim (form " 02 ").limit) = true ∧
      isAllDigits (trim (form "²").limit) = true ∧ IsClausePart ">=" ∧
      (∃ text selection, (form " 02 ").text? = some text ∧
        Statement.parse text = .ok (.select selection) ∧ selection.limit = some 2) ∧
      ∃ text, (form "²").text? = some text ∧ ∀ statement, Statement.parse text ≠ .ok statement := by
  intro form
  have hoperator : IsClausePart ">=" := isClausePart_of_mem (by decide)
  refine ⟨rfl, by decide, by decide, hoperator, ?_, ?_⟩
  · obtain ⟨_, text, htext, -, -, hparsed⟩ :=
      parse_limited (form " 02 ") rfl (by decide) (Or.inr hoperator)
    have hdecimal : IsDigitRun (trim (form " 02 ").limit) := by
      unfold IsDigitRun
      decide
    obtain ⟨selection, hparse, -, -, -, -, -, hshort⟩ := hparsed hdecimal
    exact ⟨text, selection, htext, hparse, (hshort (by decide)).1⟩
  · obtain ⟨_, text, htext, -, hiff, -⟩ :=
      parse_limited (form "²") rfl (by decide) (Or.inr hoperator)
    refine ⟨text, htext, fun statement hparse => ?_⟩
    have hdecimal := hiff.1 ⟨statement, hparse⟩
    unfold IsDigitRun at hdecimal
    exact absurd hdecimal (by decide)

end Form

/-! ### Columns -/

/-- The columns that are shown: all of them for a star, and otherwise those of the table among the
given ones, blanks around them apart. -/
theorem Selection.shownColumns_eq_ok {selection : Selection} {table : Table} {columns : List Text}
    (h : selection.shownColumns table = .ok columns) :
    columns = if ("*" : Text) ∈ selection.columns then table.columns
      else (selection.columns.map fun column => trim column).filter table.columns.contains := by
  unfold shownColumns at h
  by_cases hstar : ("*" : Text) ∈ selection.columns
  · rw [if_pos (List.contains_iff_mem.2 hstar)] at h
    rw [if_pos hstar]
    exact (Except.ok.inj h).symm
  · rw [if_neg (mt List.contains_iff_mem.1 hstar)] at h
    rw [if_neg hstar]
    simp only at h
    split at h
    · cases h
    · exact (Except.ok.inj h).symm

theorem Selection.columns_of_run {selection : Selection} {table : Table} {result : Result}
    (hrun : selection.run table = .ok result) :
    selection.shownColumns table = .ok result.columns := by
  obtain ⟨columns, kept, ordered, hcolumns, -, -, rfl⟩ := Selection.run_eq_ok.1 hrun
  exact hcolumns

/-- As many names as there are columns are the columns if the columns are among them. -/
theorem subset_iff_perm {columns names : List Text} (hnodup : columns.Nodup)
    (hlength : names.length = columns.length) : columns ⊆ names ↔ names.Perm columns := by
  constructor
  · intro hsub
    exact ((List.subperm_of_subset hnodup hsub).perm_of_length_le hlength.le).symm
  · intro hperm
    exact hperm.symm.subset

namespace Form

variable (form : Form)

/-- A built `SELECT` shows all columns if as many names are selected as there are columns, or if a
star is among the names; otherwise it shows the columns that the names stand for, blanks around them
apart. All that it shows is selected if, in the first case, the names are the columns in some order;
in the second, if all columns are among the names; and otherwise, if each column that a name stands
for is selected under its own name. -/
theorem columns_subset_selected_iff {text : Text} {statement : Statement} {table : Table}
    {ids left : IdSupply} {result : Result} (hkind : form.kind = .select)
    (hne : form.selectedColumns ≠ []) (htext : form.text? = some text)
    (hparse : Statement.parse text = .ok statement) (hcolumns : table.columns = form.tableColumns)
    (hnodup : table.columns.Nodup) (hrun : statement.run table ids = .ok (result, left)) :
    let selected := form.selectedColumns
    let named := (selected.map fun name => trim name).filter table.columns.contains
    result.columns =
        (if selected.length = table.columns.length ∨ ("*" : Text) ∈ selected then table.columns
        else named) ∧
      (result.columns ⊆ selected ↔
        if selected.length = table.columns.length then selected.Perm table.columns
        else if ("*" : Text) ∈ selected then table.columns ⊆ selected
        else ∀ name ∈ selected, trim name ∈ table.columns → trim name ∈ selected) := by
  intro selected named
  obtain ⟨filter, order, limit, rfl⟩ := form.select_of_parse hkind htext hparse
  obtain ⟨-, hrun, -⟩ := Statement.run_eq_ok.1 hrun
  have hshown := Selection.shownColumns_eq_ok (Selection.columns_of_run hrun)
  simp only at hshown
  have hall : form.selectsAll = true ↔ selected.length = table.columns.length := by
    rw [hcolumns, selectsAll, Bool.or_eq_true, beq_iff_eq, List.isEmpty_iff]
    exact or_iff_right hne
  rw [shownColumns] at hshown
  by_cases hlength : selected.length = table.columns.length
  · rw [if_pos (hall.2 hlength), if_pos (List.mem_singleton.2 rfl)] at hshown
    rw [if_pos (Or.inl hlength), if_pos hlength, hshown]
    exact ⟨rfl, subset_iff_perm hnodup hlength⟩
  · rw [if_neg (mt hall.1 hlength)] at hshown
    simp only [hlength, false_or, if_false]
    by_cases hstar : ("*" : Text) ∈ selected
    · have hresult : result.columns = table.columns := by rw [hshown, if_pos hstar]
      simp only [hstar, if_true, hresult, true_and]
    · have hresult : result.columns = named := by rw [hshown, if_neg hstar]
      simp only [hstar, if_false, hresult, true_and]
      constructor
      · intro hsub name hname hmem
        exact hsub (List.mem_filter.2 ⟨List.mem_map_of_mem hname, List.contains_iff_mem.2 hmem⟩)
      · intro hnames name hmem
        obtain ⟨hmap, hcontains⟩ := List.mem_filter.1 hmem
        obtain ⟨name', hname', rfl⟩ := List.mem_map.1 hmap
        exact hnames name' hname' (List.contains_iff_mem.1 hcontains)

/-- As many columns are selected as there are, but one of them is selected twice. -/
theorem columns_subset_selected_iff_twice :
    let form : Form := ⟨.select, "t", ["a", "b"], ["a", "a"], "", "=", "", "", "ASC", "", [], [],
      [], []⟩
    let table : Table := ⟨"1", .scalar (.text "t"), ["a", "b"], []⟩
    let ids : IdSupply := .ofSequence uuidText
    form.kind = .select ∧ form.selectedColumns ≠ [] ∧ table.columns = form.tableColumns ∧
      table.columns.Nodup ∧ ∃ text statement result, form.text? = some text ∧
        Statement.parse text = .ok statement ∧ statement.run table ids = .ok (result, ids) ∧
        ¬result.columns ⊆ form.selectedColumns := by
  intro form table ids
  have hparse : Statement.parse "SELECT * FROM \"t\"" =
      .ok (.select ⟨"t", ["*"], none, none, none⟩) := by decide +kernel
  have hrun : (Statement.select ⟨"t", ["*"], none, none, none⟩).run table ids =
      .ok (.selected ["a", "b"] [], ids) :=
    Statement.run_eq_ok.2 ⟨by decide, by decide +kernel, rfl⟩
  have hiff := (columns_subset_selected_iff form rfl (by decide) rfl hparse rfl (by decide) hrun).2
  refine ⟨rfl, by decide, rfl, by decide, _, _, _, rfl, hparse, hrun, fun hsub => ?_⟩
  exact absurd (hiff.1 hsub) (by decide)

end Form

end TableQuery
