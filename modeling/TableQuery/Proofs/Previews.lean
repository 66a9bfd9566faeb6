import TableQuery.Proofs.BuiltQueries
import TableQuery.Proofs.Cuts
import TableQuery.Proofs.Faults

/-!
# What a clause selects

A `SELECT`, a `DELETE` and an `UPDATE` with the same text after `WHERE` have the same filter, and
they are about the same rows, so that a `SELECT` shows what a `DELETE` would remove.

* `clauseTail`, `clauseFilter`: what is left of the text after `WHERE`, and its filter.
* `parse_append_clause`: a front of a statement with the text of a clause after it.
* `Spells`: a text that is a single token.
* `parse_selectText`, `parse_deleteText`, `parse_updateText`: the three statements.
* `Deletion.run_of_admits`, `Update.run_of_admits`: what they do.
* `parse_previews`: the three agree.
-/

namespace TableQuery

open Text Grammar

/-! ### The filter of a clause -/

theorem startsComparison_congr {ts us : List Token}
    (h : ts.map Token.content = us.map Token.content) (hstarts : StartsComparison ts) :
    StartsComparison us := by
  obtain ⟨column, operator, literal, rest, rfl, hcolumn, hoperator, hliteral⟩ := hstarts
  obtain ⟨column', _, rfl, hcolumn', h⟩ := List.map_eq_cons_iff.1 h.symm
  obtain ⟨operator', _, rfl, hoperator', h⟩ := List.map_eq_cons_iff.1 h
  obtain ⟨literal', rest', rfl, hliteral', -⟩ := List.map_eq_cons_iff.1 h
  refine ⟨column', operator', literal', rest', rfl, ?_, ?_, ?_⟩
  · rwa [(Prod.mk.inj hcolumn').1]
  · rwa [(Prod.mk.inj hoperator').1]
  · rwa [(Prod.mk.inj hliteral').1]

theorem joinTexts_congr {ts us : List Token} (h : ts.map Token.content = us.map Token.content) :
    Token.joinTexts ts = Token.joinTexts us := by
  have htexts := congrArg (List.map Prod.snd) h
  rw [List.map_map, List.map_map] at htexts
  exact congrArg (joinWith " ") htexts

/-- Where its tokens stand makes no difference to what a clause means. -/
theorem filterMeaning_congr {ts us : List Token} {filter : Filter}
    (h : ts.map Token.content = us.map Token.content) (hmeaning : FilterMeaning ts filter) :
    FilterMeaning us filter := by
  cases hmeaning with
  | comparison hcolumn hoperator hliteral =>
    obtain ⟨column', _, rfl, hcolumn', h⟩ := List.map_eq_cons_iff.1 h.symm
    obtain ⟨operator', _, rfl, hoperator', h⟩ := List.map_eq_cons_iff.1 h
    obtain ⟨literal', rest', rfl, hliteral', -⟩ := List.map_eq_cons_iff.1 h
    obtain ⟨hckind, hctext⟩ := Prod.mk.inj hcolumn'
    obtain ⟨hlkind, hltext⟩ := Prod.mk.inj hliteral'
    rw [← hctext, ← hltext]
    exact .comparison (hckind ▸ hcolumn) ((Prod.mk.inj hoperator').1 ▸ hoperator)
      (hlkind ▸ hliteral)
  | unparsed hnot =>
    rw [joinTexts_congr h]
    exact .unparsed fun hstarts => hnot (startsComparison_congr h.symm hstarts)

/-- What is left of the text after `WHERE`. -/
def clauseTail (clause : Text) : Text :=
  List.rdropWhile isBlank (Point.char ' ' :: clause)

/-- The filter that the text after `WHERE` stands for. -/
def clauseFilter (clause : Text) : Filter :=
  .ofTokens (tokenize (clauseTail clause))

/-- The text of a clause: none of its tokens ends the clause. -/
def IsClause (clause : Text) : Prop :=
  ∀ t ∈ tokenize clause, t.kind ≠ .keyword .ORDER ∧ t.kind ≠ .keyword .LIMIT ∧ t.kind ≠ .semicolon

instance (clause : Text) : Decidable (IsClause clause) :=
  inferInstanceAs (Decidable (∀ t ∈ tokenize clause, _))

theorem tokenContents_blank (clause : Text) :
    tokenContents (Point.char ' ' :: clause) = tokenContents clause := by
  rw [tokenContents, tokenize, tokensFrom_blank, map_content_tokensFrom]
  rfl

/-- Taking the blanks off its end takes at most some tokens off the end of a text. -/
theorem tokenContents_clauseTail (clause : Text) :
    tokenContents (clauseTail clause) <+: tokenContents clause := by
  have hsplit : clauseTail clause ++ List.rtakeWhile isBlank (Point.char ' ' :: clause) =
      Point.char ' ' :: clause := List.rdropWhile_append_rtakeWhile
  have hblank : StandsApart (List.rtakeWhile isBlank (Point.char ' ' :: clause)) :=
    standsApart_of_isBlank fun p hp => List.mem_rtakeWhile_imp hp
  obtain ⟨passed, after, -, -, htokens⟩ := tokensFrom_append hblank (clauseTail clause) 0
  rw [hsplit] at htokens
  have hcontents := congrArg (List.map Token.content) htokens
  rw [List.map_append] at hcontents
  rw [← tokenContents_blank clause]
  exact ⟨_, hcontents.symm⟩

theorem breaks_clauseTail (clause : Text) : Breaks (clauseTail clause) := by
  have hprefix : clauseTail clause <+: Point.char ' ' :: clause := List.rdropWhile_prefix _ _
  cases htail : clauseTail clause with
  | nil => exact breaks_nil
  | cons p rest =>
    rw [htail] at hprefix
    obtain ⟨more, hmore⟩ := hprefix
    obtain rfl := (List.cons.inj hmore).1
    exact breaks_cons.2 (by decide)

/-- The tokens of a clause, wherever it stands. -/
theorem tokensFrom_clauseTail {clause : Text} (h : IsClause clause) (position : Nat) :
    (∀ t ∈ tokensFrom position 0 (clauseTail clause), t.kind ∈ clauseKinds) ∧
      Filter.ofTokens (tokensFrom position 0 (clauseTail clause)) = clauseFilter clause := by
  have hcontents := map_content_tokensFrom position 0 (clauseTail clause)
  constructor
  · intro t ht
    have hmem : t.content ∈ tokenContents clause := by
      refine (tokenContents_clauseTail clause).subset ?_
      rw [tokenContents, tokenize, ← hcontents]
      exact List.mem_map_of_mem ht
    obtain ⟨t', ht', hsame⟩ := List.mem_map.1 hmem
    rw [mem_clauseKinds, ← (Prod.mk.inj hsame).1]
    exact h t' ht'
  · exact (filterMeaning_iff.1
      (filterMeaning_congr hcontents (filterMeaning_iff.2 rfl))).symm

/-! ### Statements with a clause -/

theorem rdropWhile_append_of_endsSolid {front : Text} (h : endsSolid front = true) (rest : Text) :
    (front ++ rest).rdropWhile isBlank = front ++ rest.rdropWhile isBlank := by
  induction rest using List.reverseRecOn with
  | nil =>
    rw [List.append_nil, List.rdropWhile_nil, List.append_nil, List.rdropWhile_eq_self_iff]
    intro hne
    simpa [endsSolid, List.getLast?_eq_some_getLast hne] using h
  | append_singleton rest p ih =>
    rw [← List.append_assoc]
    by_cases hp : isBlank p = true
    · rw [List.rdropWhile_concat_pos _ _ _ hp, List.rdropWhile_concat_pos _ _ _ hp, ih]
    · rw [List.rdropWhile_concat_neg _ _ _ hp, List.rdropWhile_concat_neg _ _ _ hp,
        List.append_assoc]

/-- Behind a text without blanks at its ends, only blanks at the end are taken off. -/
theorem trim_append {front : Text} (hstarts : startsSolid front = true)
    (hends : endsSolid front = true) (rest : Text) :
    trim (front ++ rest) = front ++ rest.rdropWhile isBlank := by
  cases front with
  | nil => simp [startsSolid] at hstarts
  | cons p front =>
    have hp : ¬isBlank p = true := by simpa [startsSolid] using hstarts
    rw [trim_eq_rdropWhile, List.cons_append, List.dropWhile_cons_of_neg hp, ← List.cons_append,
      rdropWhile_append_of_endsSolid hends]

/-- A front of a statement and the text of a clause make the statement with the filter of the
clause, if the tokens of the front and those of a clause do. -/
theorem parse_append_clause (statement : Filter → Statement) {front clause : Text}
    {P : List Token → Prop} (hfront : ∀ rest, Breaks rest → Reads P front rest)
    (hquery : ∀ fs cs filter, P fs → (∀ t ∈ cs, t.kind ∈ clauseKinds) →
      FilterMeaning cs filter → Query (fs ++ cs) (statement filter))
    (hstarts : startsSolid front = true) (hends : endsSolid front = true)
    (hclause : IsClause clause) :
    Statement.parse (front ++ " " ++ clause) = .ok (statement (clauseFilter clause)) := by
  obtain ⟨fs, hfs, htokens⟩ := hfront _ (breaks_clauseTail clause) 0
  obtain ⟨hkinds, hfilter⟩ := tokensFrom_clauseTail hclause (0 + front.length)
  have htrim : trim (front ++ " " ++ clause) = front ++ clauseTail clause := by
    rw [List.append_assoc]
    exact trim_append hstarts hends _
  have hstatement : Query (tokenize (trim (front ++ " " ++ clause)))
      (statement (clauseFilter clause)) := by
    rw [htrim, tokenize, htokens]
    exact hquery fs _ _ hfs hkinds (filterMeaning_iff.2 hfilter)
  rw [Statement.parse_of_starts hstatement.startsStatement,
    parseTokens_iff_sentence.2 (.plain hstatement)]
  rfl

theorem whereClause_of_kinds {w : Token} {cs : List Token} {filter : Filter}
    (hw : w.kind = .keyword .WHERE) (hcs : ∀ t ∈ cs, t.kind ∈ clauseKinds)
    (hmeaning : FilterMeaning cs filter) : WhereClause (w :: cs) (some filter) := by
  by_cases hnil : cs = []
  · subst hnil
    obtain rfl : .unparsed [] = filter := filterMeaning_iff.1 hmeaning
    exact .blank hw
  · exact .clause hw (tokens_iff.2 ⟨hnil, hcs⟩) hmeaning

/-- A text that is split off as a single token of some kinds, wherever it stands before a blank. -/
def Spells (kinds : List TokenKind) (source text : Text) : Prop :=
  ∃ kind ∈ kinds, ∀ rest, Reads (IsToken kind text) source (Point.char ' ' :: rest)

/-- Every name can be spelled. -/
theorem spells_spellName (name : Text) : Spells nameKinds (spellName name) name :=
  ⟨.string, by decide, fun _ => reads_name name _⟩

/-- So can a text that is an unquoted run. -/
theorem spells_run {kinds : List TokenKind} (p : Point) (run : Text) (hp : inRun p = true)
    (hrun : ∀ q ∈ run, inRun q = true) (hcomment : p = '-' → ∀ q ∈ run.head?, q ≠ '-')
    (hkind : runKind (p :: run) ∈ kinds) : Spells kinds (p :: run) (p :: run) :=
  ⟨_, hkind, fun _ => reads_run hp hrun hcomment (breaks_cons.2 (by decide))⟩

/-- A `SELECT` of all columns with the text of a clause. -/
def selectText (table clause : Text) : Text :=
  "SELECT * FROM " ++ table ++ " WHERE" ++ " " ++ clause

/-- A `DELETE` with the text of a clause. -/
def deleteText (table clause : Text) : Text :=
  "DELETE FROM " ++ table ++ " WHERE" ++ " " ++ clause

/-- An `UPDATE` of one column with the text of a clause. -/
def updateText (table column value clause : Text) : Text :=
  "UPDATE " ++ table ++ " SET " ++ column ++ " = " ++ value ++ " WHERE" ++ " " ++ clause

section Texts

variable {table name clause : Text}

theorem parse_selectText (htable : Spells nameKinds table name) (hclause : IsClause clause) :
    Statement.parse (selectText table clause) =
      .ok (.select ⟨name, ["*"], some (clauseFilter clause), none, none⟩) := by
  obtain ⟨kind, hkind, hreads⟩ := htable
  have hspell : "SELECT * FROM " ++ table ++ " WHERE" =
      Keyword.SELECT.name ++ Point.char ' ' :: ("*" ++ Point.char ' ' ::
        (Keyword.FROM.name ++ Point.char ' ' :: (table ++ Point.char ' ' ::
          Keyword.WHERE.name))) := by
    simp only [List.append_assoc]
    rfl
  have hfront (rest : Text) (hrest : Breaks rest) :=
    Reads.keyword .SELECT ((reads_star _).token (Reads.keyword .FROM
      ((hreads _).token (reads_keyword .WHERE hrest).blank)).blank)
  rw [← hspell] at hfront
  refine parse_append_clause (fun filter => .select ⟨name, ["*"], some filter, none, none⟩) hfront
    ?_ rfl (endsSolid_append rfl _) hclause
  rintro _ cs filter ⟨first, _, rfl, hfirst, star, _, rfl, hstar, htext, from_, _, rfl, hfrom, t, _,
    rfl, ht, rfl, position, rfl⟩ hcs hmeaning
  have hcolumns : Sequence SelectItem [star] ["*"] := htext ▸ .single (.star hstar)
  have hname : Name [t] t.text := .intro (ht ▸ hkind)
  simpa using Query.select hfirst hcolumns hfrom hname
    (whereClause_of_kinds (w := ⟨.keyword .WHERE, Keyword.WHERE.name, position⟩) rfl hcs hmeaning)
    .none .none

theorem parse_deleteText (htable : Spells nameKinds table name) (hclause : IsClause clause) :
    Statement.parse (deleteText table clause) =
      .ok (.delete ⟨name, some (clauseFilter clause)⟩) := by
  obtain ⟨kind, hkind, hreads⟩ := htable
  have hspell : "DELETE FROM " ++ table ++ " WHERE" =
      Keyword.DELETE.name ++ Point.char ' ' :: (Keyword.FROM.name ++ Point.char ' ' ::
        (table ++ Point.char ' ' :: Keyword.WHERE.name)) := by
    simp only [List.append_assoc]
    rfl
  have hfront (rest : Text) (hrest : Breaks rest) :=
    Reads.keyword .DELETE (Reads.keyword .FROM
      ((hreads _).token (reads_keyword .WHERE hrest).blank))
  rw [← hspell] at hfront
  refine parse_append_clause (fun filter => .delete ⟨name, some filter⟩) hfront ?_ rfl
    (endsSolid_append rfl _) hclause
  rintro _ cs filter ⟨first, _, rfl, hfirst, from_, _, rfl, hfrom, t, _, rfl, ht, rfl, position,
    rfl⟩ hcs hmeaning
  have hname : Name [t] t.text := .intro (ht ▸ hkind)
  simpa using Query.delete hfirst hfrom hname
    (whereClause_of_kinds (w := ⟨.keyword .WHERE, Keyword.WHERE.name, position⟩) rfl hcs hmeaning)

theorem parse_updateText {column value field literal : Text}
    (htable : Spells nameKinds table name) (hcolumn : Spells nameKinds column field)
    (hvalue : Spells literalKinds value literal) (hclause : IsClause clause) :
    Statement.parse (updateText table column value clause) =
      .ok (.update ⟨name, [(field, .ofText literal)], some (clauseFilter clause)⟩) := by
  obtain ⟨kind, hkind, hreads⟩ := htable
  obtain ⟨fieldKind, hfieldKind, hfield⟩ := hcolumn
  obtain ⟨literalKind, hliteralKind, hliteral⟩ := hvalue
  have hspell : "UPDATE " ++ table ++ " SET " ++ column ++ " = " ++ value ++ " WHERE" =
      Keyword.UPDATE.name ++ Point.char ' ' :: (table ++ Point.char ' ' ::
        (Keyword.SET.name ++ Point.char ' ' :: (column ++ Point.char ' ' :: ("=" ++
          Point.char ' ' :: (value ++ Point.char ' ' :: Keyword.WHERE.name))))) := by
    simp only [List.append_assoc]
    rfl
  have hfront (rest : Text) (hrest : Breaks rest) :=
    Reads.keyword .UPDATE ((hreads _).token (Reads.keyword .SET ((hfield _).token
      ((reads_equal _).token ((hliteral _).token
        (reads_keyword .WHERE hrest).blank).blank).blank)).blank)
  rw [← hspell] at hfront
  refine parse_append_clause (fun filter => .update ⟨name, [(field, .ofText literal)], some filter⟩)
    hfront ?_ rfl (endsSolid_append rfl _) hclause
  rintro _ cs filter ⟨first, _, rfl, hfirst, t, _, rfl, ht, rfl, set, _, rfl, hset, c, _, rfl, hc,
    rfl, sign, _, rfl, hsign, -, l, _, rfl, hl, rfl, position, rfl⟩ hcs hmeaning
  have hname : Name [t] t.text := .intro (ht ▸ hkind)
  have hassignment : Assignment ([c] ++ [sign, l]) (c.text, .ofText l.text) :=
    .intro (.intro (hc ▸ hfieldKind)) hsign (hl ▸ hliteralKind)
  simpa using Query.update hfirst hname hset (.single hassignment)
    (whereClause_of_kinds (w := ⟨.keyword .WHERE, Keyword.WHERE.name, position⟩) rfl hcs hmeaning)

end Texts

/-! ### What the statements do -/

section Runs

variable {filter : Filter} {hit : Row → Bool} {table : Table}

theorem Selection.run_unparsed (name text : Text) (table : Table) :
    Selection.run ⟨name, ["*"], some (.unparsed text), none, none⟩ table =
      .ok (.selected table.columns (projection table.rows table.columns)) :=
  rfl

theorem markRows_of_admits (h : ∀ row ∈ table.rows, filter.admits row = .ok (hit row)) :
    (markRows (some filter) table.rows).mapError Failure.fault =
      .ok (table.rows.map fun row => (row, hit row)) := by
  rw [markRows, Filter.mark_of_admits h]
  rfl

theorem Deletion.run_of_admits (name : Text)
    (h : ∀ row ∈ table.rows, filter.admits row = .ok (hit row)) :
    Deletion.run ⟨name, some filter⟩ table =
      .ok (.deleted { table with rows := table.rows.filter fun row => !hit row }
        (table.rows.filter hit).length) := by
  simp [Deletion.run, markRows_of_admits h, markedWith_map]

theorem Update.run_of_admits (name : Text) (assignments : List (Text × Value))
    (h : ∀ row ∈ table.rows, filter.admits row = .ok (hit row)) :
    Update.run ⟨name, assignments, some filter⟩ table =
      .ok (.updated
        { table with rows := table.rows.map fun row => row.assignIf (hit row) assignments }
        (table.rows.filter hit).length) := by
  simp [Update.run, markRows_of_admits h, markedWith_map, Row.assignIf]

end Runs

/-- The same text after `WHERE` gives a `SELECT` of all columns, a `DELETE` and an `UPDATE` the same
filter. If it is a comparison that no row makes fail, the `SELECT` shows just the rows that the
`DELETE` drops, the `UPDATE` changes just as many, and afterwards neither the `SELECT` nor the
`DELETE` finds any row. If it is no comparison, the `SELECT` shows all rows, and the others leave
the table as it is. -/
theorem parse_previews {source name column field value literal clause : Text}
    (htable : Spells nameKinds source name) (hcolumn : Spells nameKinds column field)
    (hvalue : Spells literalKinds value literal) (hclause : IsClause clause) :
    let filter := clauseFilter clause
    let select : Statement := .select ⟨name, ["*"], some filter, none, none⟩
    let delete : Statement := .delete ⟨name, some filter⟩
    let update : Statement := .update ⟨name, [(field, .ofText literal)], some filter⟩
    Statement.parse (selectText source clause) = .ok select ∧
      Statement.parse (deleteText source clause) = .ok delete ∧
      Statement.parse (updateText source column value clause) = .ok update ∧
      ∀ table : Table, ∀ ids, table.isNamed name = true →
        ((∃ c, filter = .comparison c) → ∀ hit : Row → Bool,
          (∀ row ∈ table.rows, filter.admits row = .ok (hit row)) →
          let later : Table := { table with rows := table.rows.filter fun row => !hit row }
          let changed : Table := { table with
            rows := table.rows.map fun row => row.assignIf (hit row) [(field, .ofText literal)] }
          let count := (projection (table.rows.filter hit) table.columns).length
          select.run table ids =
            .ok (.selected table.columns (projection (table.rows.filter hit) table.columns), ids) ∧
          delete.run table ids = .ok (.deleted later count, ids) ∧
          update.run table ids = .ok (.updated changed count, ids) ∧
          select.run later ids = .ok (.selected table.columns [], ids) ∧
          delete.run later ids = .ok (.deleted later 0, ids)) ∧
        ((∃ text, filter = .unparsed text) →
          select.run table ids =
            .ok (.selected table.columns (projection table.rows table.columns), ids) ∧
          delete.run table ids = .ok (.deleted table 0, ids) ∧
          update.run table ids = .ok (.updated table 0, ids)) := by
  intro filter select delete update
  refine ⟨parse_selectText htable hclause, parse_deleteText htable hclause,
    parse_updateText htable hcolumn hvalue hclause, fun table ids hnamed => ⟨?_, ?_⟩⟩
  · rintro ⟨c, hfilter⟩ hit hhit later changed count
    simp only [select, delete, update, hfilter] at hhit ⊢
    have hcount : count = (table.rows.filter hit).length := by simp [count, projection]
    have hlater : ∀ row ∈ later.rows, (Filter.comparison c).admits row = .ok (hit row) :=
      fun row hrow => hhit row (List.mem_filter.1 hrow).1
    have hnone : later.rows.filter hit = [] := by simp [later]
    have hkept : later.rows.filter (fun row => !hit row) = later.rows := by simp [later]
    refine ⟨?_, ?_, ?_, ?_, ?_⟩
    · exact Statement.run_eq_ok.2 ⟨hnamed, Selection.run_of_admits name hhit, rfl⟩
    · rw [hcount]
      exact Statement.run_eq_ok.2 ⟨hnamed, Deletion.run_of_admits name hhit, rfl⟩
    · rw [hcount]
      exact Statement.run_eq_ok.2 ⟨hnamed, Update.run_of_admits name _ hhit, rfl⟩
    · refine Statement.run_eq_ok.2 ⟨hnamed, ?_, rfl⟩
      have hrun := Selection.run_of_admits name hlater
      rwa [hnone] at hrun
    · refine Statement.run_eq_ok.2 ⟨hnamed, ?_, rfl⟩
      have hrun := Deletion.run_of_admits name hlater
      rwa [hnone, hkept] at hrun
  · rintro ⟨text, hfilter⟩
    simp only [select, delete, update, hfilter]
    have hhit : ∀ row ∈ table.rows, (Filter.unparsed text).admits row = .ok false :=
      fun _ _ => rfl
    refine ⟨?_, ?_, ?_⟩
    · exact Statement.run_eq_ok.2 ⟨hnamed, Selection.run_unparsed name text table, rfl⟩
    · refine Statement.run_eq_ok.2 ⟨hnamed, ?_, rfl⟩
      have hrun := Deletion.run_of_admits name hhit
      simpa using hrun
    · refine Statement.run_eq_ok.2 ⟨hnamed, ?_, rfl⟩
      have hrun := Update.run_of_admits name [(field, .ofText literal)] hhit
      simpa [Row.assignIf] using hrun

theorem parse_previews_comparison :
    let first : Row := ⟨"1", .ofList [("a", .int 1)]⟩
    let second : Row := ⟨"2", .ofList [("a", .text "x")]⟩
    let table : Table := ⟨"1", .scalar (.text "t"), ["a"], [first, second]⟩
    let ids : IdSupply := .ofSequence uuidText
    Spells nameKinds "t" "t" ∧ Spells nameKinds "\"a\"" "a" ∧ Spells literalKinds "2" "2" ∧
      IsClause "a = 1 OR b \u00A0" ∧
      ∃ select delete, Statement.parse "SELECT * FROM t WHERE a = 1 OR b \u00A0" = .ok select ∧
        Statement.parse "DELETE FROM t WHERE a = 1 OR b \u00A0" = .ok delete ∧
        select.run table ids = .ok (.selected ["a"] [.ofList [("a", .int 1)]], ids) ∧
        delete.run table ids = .ok (.deleted { table with rows := [second] } 1, ids) ∧
        select.run { table with rows := [second] } ids = .ok (.selected ["a"] [], ids) := by
  intro first second table ids
  have hname : Spells nameKinds "t" "t" :=
    spells_run 't' [] (by decide) (by decide) (by decide) (by decide)
  have hcolumn : Spells nameKinds "\"a\"" "a" := spells_spellName "a"
  have hvalue : Spells literalKinds "2" "2" :=
    spells_run '2' [] (by decide) (by decide) (by decide) (by decide)
  have hclause : IsClause "a = 1 OR b \u00A0" := by decide +kernel
  obtain ⟨hselect, hdelete, -, hruns⟩ := parse_previews hname hcolumn hvalue hclause
  have hfilter : clauseFilter "a = 1 OR b \u00A0" = .comparison ⟨"a", .equal, .int 1⟩ := by
    decide +kernel
  have hadmits : ∀ row ∈ [first, second], (clauseFilter "a = 1 OR b \u00A0").admits row =
      .ok (row == first) := by
    rw [hfilter]
    decide +kernel
  obtain ⟨hshown, hdropped, -, hafter, -⟩ :=
    (hruns table ids (by decide)).1 ⟨_, hfilter⟩ (fun row => row == first) hadmits
  exact ⟨hname, hcolumn, hvalue, hclause, _, _, hselect, hdelete, hshown, hdropped, hafter⟩

end TableQuery
