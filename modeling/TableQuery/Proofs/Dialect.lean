import TableQuery.Proofs.Phrases

/-!
# The dialect that is parsed

* `parseQuery`: a statement at the front of some tokens, whatever follows it.
* `parseQuery_sound`, `parseQuery_complete`: it takes off what the grammar calls a query.
* `parseTokens_iff_sentence`: whole lists of tokens parse as the grammar says.
* `Grammar.Sentence.exists_select`: the front of a `SELECT` decides on its columns and its table.
* `Statement.parse_accepts_dialect`: the texts that parse, their statements, and the errors of the
  other texts.
-/

namespace TableQuery

open Text Grammar

/-- A statement at the front of some tokens, with what follows it. -/
def parseQuery (tokens : List Token) : Except Obstacle (Statement × List Token) := do
  let (head, tokens) ← parseHead tokens
  let (clause, tokens) := head.clause tokens
  parseTail head (clause.map Filter.ofTokens) tokens

theorem parseTokens_eq (tokens : List Token) :
    parseTokens tokens = (do
      let (statement, rest) ← parseQuery tokens
      expectEnd rest
      return statement) := by
  simp [parseTokens, parseQuery]

/-! ### What is taken off is a query -/

theorem takeList_sound {α : Type} {item : Category α} {reading : Token → Option α}
    (hitem : ReadBy item reading)
    {tokens rest : List Token} {as : List α} (h : takeList reading tokens = .ok (as, rest)) :
    ∃ ts, tokens = ts ++ rest ∧ Parenthesized item ts as := by
  obtain ⟨⟨_, inner⟩, hopen, hinner⟩ := bind_eq_ok.1 h
  obtain ⟨⟨bs, after⟩, hitems, hafter⟩ := bind_eq_ok.1 hinner
  obtain ⟨⟨_, rest'⟩, hclose, hlast⟩ := bind_eq_ok.1 hafter
  obtain ⟨rfl, rfl⟩ : bs = as ∧ rest' = rest := by simpa using hlast
  obtain ⟨opening, hopening, rfl⟩ := expect_eq_ok.1 hopen
  obtain ⟨us, rfl, hus⟩ := (listParser_takeCommaSeparated hitem).sound hitems
  obtain ⟨closing, hclosing, rfl⟩ := expect_eq_ok.1 hclose
  exact ⟨opening :: us ++ [closing], by simp, .intro hopening hus hclosing⟩

theorem selectHead_sound {body tail : List Token} {head : Head}
    (h : selectHead body = .ok (head, tail)) :
    ∃ cs from_ ns columns table, body = cs ++ from_ :: ns ++ tail ∧ head = .select columns table ∧
      Sequence SelectItem cs columns ∧ from_.kind = .keyword .FROM ∧ Name ns table := by
  obtain ⟨⟨columns, t₁⟩, hcolumns, h₁⟩ := bind_eq_ok.1 h
  obtain ⟨⟨_, t₂⟩, htakeFrom, h₂⟩ := bind_eq_ok.1 h₁
  obtain ⟨⟨table, t₃⟩, htable, h₃⟩ := bind_eq_ok.1 h₂
  obtain ⟨rfl, rfl⟩ : .select columns table = head ∧ t₃ = tail := by simpa using h₃
  obtain ⟨cs, rfl, hcs⟩ := (listParser_takeCommaSeparated fun _ _ => selectItem_iff).sound hcolumns
  obtain ⟨from_, hfrom, rfl⟩ := expect_eq_ok.1 htakeFrom
  obtain ⟨ns, hns, rfl⟩ := takeName_eq_ok.1 htable
  exact ⟨cs, from_, ns, columns, table, by simp, rfl, hcs, hfrom, hns⟩

theorem updateHead_sound {body tail : List Token} {head : Head}
    (h : updateHead body = .ok (head, tail)) :
    ∃ ns set as table assignments, body = ns ++ set :: as ++ tail ∧
      head = .update table assignments ∧ Name ns table ∧ set.kind = .keyword .SET ∧
      Sequence Assignment as assignments := by
  obtain ⟨⟨table, t₁⟩, htable, h₁⟩ := bind_eq_ok.1 h
  obtain ⟨⟨_, t₂⟩, htakeSet, h₂⟩ := bind_eq_ok.1 h₁
  obtain ⟨⟨assignments, t₃⟩, htakeList, h₃⟩ := bind_eq_ok.1 h₂
  obtain ⟨rfl, rfl⟩ : .update table assignments = head ∧ t₃ = tail := by
    simpa using h₃
  obtain ⟨ns, hns, rfl⟩ := takeName_eq_ok.1 htable
  obtain ⟨set, hset, rfl⟩ := expect_eq_ok.1 htakeSet
  obtain ⟨as, rfl, has⟩ := listParser_takeAssignments.sound htakeList
  exact ⟨ns, set, as, table, assignments, by simp, rfl, hns, hset, has⟩

theorem deleteHead_sound {body tail : List Token} {head : Head}
    (h : deleteHead body = .ok (head, tail)) :
    ∃ from_ ns table, body = from_ :: ns ++ tail ∧ head = .delete table ∧
      from_.kind = .keyword .FROM ∧ Name ns table := by
  obtain ⟨⟨_, t₁⟩, htakeFrom, h₁⟩ := bind_eq_ok.1 h
  obtain ⟨⟨table, t₂⟩, htable, h₂⟩ := bind_eq_ok.1 h₁
  obtain ⟨rfl, rfl⟩ : .delete table = head ∧ t₂ = tail := by simpa using h₂
  obtain ⟨from_, hfrom, rfl⟩ := expect_eq_ok.1 htakeFrom
  obtain ⟨ns, hns, rfl⟩ := takeName_eq_ok.1 htable
  exact ⟨from_, ns, table, by simp, rfl, hfrom, hns⟩

theorem insertColumns_sound {tokens rest : List Token} {columns : Option (List Text)}
    (h : insertColumns tokens = .ok (columns, rest)) :
    (columns = none ∧ rest = tokens) ∨
      ∃ cs names, tokens = cs ++ rest ∧ columns = some names ∧ Parenthesized Name cs names := by
  cases tokens with
  | nil => simp [insertColumns] at h
  | cons t ts =>
    by_cases ht : t.kind = .leftParen
    · simp only [insertColumns, ht, if_true, map_eq_ok] at h
      obtain ⟨⟨names, rest'⟩, hlist, h⟩ := h
      obtain ⟨rfl, rfl⟩ : some names = columns ∧ rest' = rest := by simpa using h
      obtain ⟨cs, hcs, hnames⟩ := takeList_sound (fun _ _ => name_iff) hlist
      exact .inr ⟨cs, names, hcs, rfl, hnames⟩
    · simp only [insertColumns, ht, if_false] at h
      split at h
      · obtain ⟨rfl, rfl⟩ : none = columns ∧ t :: ts = rest := by simpa using h
        exact .inl ⟨rfl, rfl⟩
      · simp at h

theorem insertHead_sound {first : Token} {body tail : List Token} {head : Head}
    (hfirst : first.kind = .keyword .INSERT) (h : insertHead body = .ok (head, tail)) :
    ∃ ts s, first :: body = ts ++ tail ∧ head = .complete s ∧ Query ts s := by
  obtain ⟨⟨_, t₁⟩, htakeInto, h₁⟩ := bind_eq_ok.1 h
  obtain ⟨⟨table, t₂⟩, htable, h₂⟩ := bind_eq_ok.1 h₁
  obtain ⟨⟨columns, t₃⟩, hcolumns, h₃⟩ := bind_eq_ok.1 h₂
  obtain ⟨⟨_, t₄⟩, htakeValues, h₄⟩ := bind_eq_ok.1 h₃
  obtain ⟨⟨row, t₅⟩, hrow, h₅⟩ := bind_eq_ok.1 h₄
  obtain ⟨rfl, rfl⟩ : .complete (.insert ⟨table, columns, row⟩) = head ∧ t₅ = tail := by
    simpa using h₅
  obtain ⟨into, hinto, rfl⟩ := expect_eq_ok.1 htakeInto
  obtain ⟨ns, hns, rfl⟩ := takeName_eq_ok.1 htable
  obtain ⟨values, hvalues, rfl⟩ := expect_eq_ok.1 htakeValues
  obtain ⟨vs, rfl, hvs⟩ := takeList_sound (fun _ _ => insertedValue_iff) hrow
  rcases insertColumns_sound hcolumns with ⟨rfl, rfl⟩ | ⟨cs, names, rfl, rfl, hcs⟩
  · exact ⟨_, _, by simp, rfl, .insert hfirst hinto hns hvalues hvs⟩
  · exact ⟨_, _, by simp, rfl, .insertColumns hfirst hinto hns hcs hvalues hvs⟩

theorem alterHead_sound {first : Token} {body tail : List Token} {head : Head}
    (hfirst : first.kind = .keyword .ALTER) (h : alterHead body = .ok (head, tail)) :
    ∃ ts s, first :: body = ts ++ tail ∧ head = .complete s ∧ Query ts s := by
  obtain ⟨⟨_, t₁⟩, htakeTable, h₁⟩ := bind_eq_ok.1 h
  obtain ⟨⟨table, t₂⟩, htable, h₂⟩ := bind_eq_ok.1 h₁
  obtain ⟨rfl, rfl⟩ : .complete (.alter table (.ofTokens (t₂.takeWhile inAction))) = head ∧
      t₂.dropWhile inAction = tail := by
    simpa using h₂
  obtain ⟨second, hsecond, rfl⟩ := expect_eq_ok.1 htakeTable
  obtain ⟨ns, hns, rfl⟩ := takeName_eq_ok.1 htable
  by_cases hnil : t₂.takeWhile inAction = []
  · refine ⟨first :: second :: ns, _, ?_, rfl, ?_⟩
    · rw [List.cons_append, List.cons_append]
      nth_rewrite 1 [← List.takeWhile_append_dropWhile (p := inAction) (l := t₂)]
      rw [hnil, List.nil_append]
    · rw [hnil]
      exact .alterBare hfirst hsecond hns
  · refine ⟨first :: second :: ns ++ t₂.takeWhile inAction, _, by simp, rfl, ?_⟩
    refine .alter hfirst hsecond hns (tokens_iff.2 ⟨hnil, fun t ht => ?_⟩) (actionMeaning_iff.2 rfl)
    rw [← inAction_iff]
    exact List.mem_takeWhile_imp ht

theorem selectTail_sound {columns : List Text} {table : Text} {filter : Option Filter}
    {tokens rest : List Token} {s : Statement}
    (h : parseTail (.select columns table) filter tokens = .ok (s, rest)) :
    ∃ os ls order limit, tokens = os ++ ls ++ rest ∧
      s = .select ⟨table, columns, filter, order, limit⟩ ∧ OrderClause os order ∧
      LimitClause ls limit := by
  obtain ⟨⟨order, t₁⟩, horder, h₁⟩ := bind_eq_ok.1 h
  obtain ⟨⟨numeral, t₂⟩, hlimit, h₂⟩ := bind_eq_ok.1 h₁
  obtain ⟨rfl, rfl⟩ : .select ⟨table, columns, filter, order, numeral.bind limitOf?⟩ = s ∧
      t₂ = rest := by
    simpa using h₂
  obtain ⟨os, rfl, hos⟩ := orderClause_sound horder
  obtain ⟨ls, rfl, hls⟩ := limitClause_sound hlimit
  exact ⟨os, ls, order, _, by simp, rfl, hos, hls⟩

/-- One case for each keyword that can start a statement. -/
theorem parseQuery_sound {tokens rest : List Token} {s : Statement}
    (h : parseQuery tokens = .ok (s, rest)) : ∃ ts, tokens = ts ++ rest ∧ Query ts s := by
  obtain ⟨⟨head, tail⟩, hhead, htail⟩ := bind_eq_ok.1 h
  -- the first keyword decides on the head; only some statements have clauses after it
  cases tokens with
  | nil => simp [parseHead] at hhead
  | cons first body =>
    cases hfirst : first.kind with
    | keyword k =>
      cases k with
      | SELECT =>
        simp only [parseHead, hfirst] at hhead
        obtain ⟨cs, from_, ns, columns, table, rfl, rfl, hcs, hfrom, hns⟩ := selectHead_sound hhead
        obtain ⟨⟨clause, t₁⟩, hclause⟩ : ∃ r, filterClause tail = r := ⟨_, rfl⟩
        simp only [Head.clause, Head.takesFilter, if_true, hclause] at htail
        obtain ⟨ws, rfl, hws⟩ := filterClause_sound hclause
        obtain ⟨os, ls, order, limit, rfl, rfl, hos, hls⟩ := selectTail_sound htail
        exact ⟨_, by simp, .select hfirst hcs hfrom hns hws hos hls⟩
      | UPDATE =>
        simp only [parseHead, hfirst] at hhead
        obtain ⟨ns, set, as, table, assignments, rfl, rfl, hns, hset, has⟩ := updateHead_sound hhead
        obtain ⟨⟨clause, t₁⟩, hclause⟩ : ∃ r, filterClause tail = r := ⟨_, rfl⟩
        simp only [Head.clause, Head.takesFilter, if_true, hclause, parseTail, Except.ok.injEq,
          Prod.mk.injEq] at htail
        obtain ⟨rfl, rfl⟩ := htail
        obtain ⟨ws, rfl, hws⟩ := filterClause_sound hclause
        exact ⟨_, by simp, .update hfirst hns hset has hws⟩
      | DELETE =>
        simp only [parseHead, hfirst] at hhead
        obtain ⟨from_, ns, table, rfl, rfl, hfrom, hns⟩ := deleteHead_sound hhead
        obtain ⟨⟨clause, t₁⟩, hclause⟩ : ∃ r, filterClause tail = r := ⟨_, rfl⟩
        simp only [Head.clause, Head.takesFilter, if_true, hclause, parseTail, Except.ok.injEq,
          Prod.mk.injEq] at htail
        obtain ⟨rfl, rfl⟩ := htail
        obtain ⟨ws, rfl, hws⟩ := filterClause_sound hclause
        exact ⟨_, by simp, .delete hfirst hfrom hns hws⟩
      | INSERT =>
        simp only [parseHead, hfirst] at hhead
        obtain ⟨ts, s', hts, rfl, hs⟩ := insertHead_sound hfirst hhead
        obtain ⟨rfl, rfl⟩ : s' = s ∧ tail = rest := by
          simpa [Head.clause, Head.takesFilter, parseTail] using htail
        exact ⟨ts, hts, hs⟩
      | ALTER =>
        simp only [parseHead, hfirst] at hhead
        obtain ⟨ts, s', hts, rfl, hs⟩ := alterHead_sound hfirst hhead
        obtain ⟨rfl, rfl⟩ : s' = s ∧ tail = rest := by
          simpa [Head.clause, Head.takesFilter, parseTail] using htail
        exact ⟨ts, hts, hs⟩
      | _ => simp [parseHead, hfirst] at hhead
    | _ => simp [parseHead, hfirst] at hhead

/-! ### Every query is taken off -/

theorem takeList_complete {α : Type} {item : Category α} {reading : Token → Option α}
    (hitem : ReadBy item reading) {ts : List Token} {as : List α}
    (h : Parenthesized item ts as) (rest : List Token) :
    takeList reading (ts ++ rest) = .ok (as, rest) := by
  obtain ⟨hopen, has, hclose⟩ := h
  rename_i opening closing us
  have hitems : takeCommaSeparated reading (us ++ closing :: rest) = .ok (as, closing :: rest) :=
    (listParser_takeCommaSeparated hitem).complete has (by
      intro t ht
      obtain rfl : closing = t := by simpa using ht
      simp [hclose])
  rw [List.cons_append, List.cons_append, List.append_assoc, List.singleton_append]
  simp only [takeList, expect_cons hopen, ok_bind, hitems, expect_cons hclose, pure_eq]

theorem follows_limit {ls rest : List Token} {limit : Option Nat} (h : LimitClause ls limit)
    (hrest : Follows [.semicolon] rest) : Follows [.keyword .LIMIT, .semicolon] (ls ++ rest) := by
  cases h with
  | none => exact hrest.mono (by simp)
  | limit hlimit _ => simp [hlimit]

theorem follows_order {os rest : List Token} {order : Option SortOrder} (h : OrderClause os order)
    (hrest : Follows [.keyword .LIMIT, .semicolon] rest) :
    Follows [.keyword .ORDER, .keyword .LIMIT, .semicolon] (os ++ rest) := by
  cases h with
  | none => exact hrest.mono (by simp)
  | plain horder _ _ | ascending horder _ _ _ | descending horder _ _ _ => simp [horder]

theorem follows_where {ws rest : List Token} {filter : Option Filter} (h : WhereClause ws filter)
    (hrest : Follows [.semicolon] rest) : Follows [.keyword .WHERE, .semicolon] (ws ++ rest) := by
  cases h with
  | none => exact hrest.mono (by simp)
  | blank hw | clause hw _ _ => simp [hw]

theorem not_mem_actionKinds {rest : List Token} (hrest : Follows [.semicolon] rest) :
    ∀ t ∈ rest.head?, t.kind ∉ actionKinds := by
  intro t ht hmem
  exact (mem_actionKinds _).1 hmem (List.mem_singleton.1 (hrest t ht))

theorem selectHead_complete {cs ns : List Token} {from_ : Token} {columns : List Text}
    {table : Text} (hcs : Sequence SelectItem cs columns) (hfrom : from_.kind = .keyword .FROM)
    (hns : Name ns table) (rest : List Token) :
    selectHead (cs ++ from_ :: (ns ++ rest)) = .ok (.select columns table, rest) := by
  have hitems : takeCommaSeparated selectItemOf? (cs ++ from_ :: (ns ++ rest)) =
      .ok (columns, from_ :: (ns ++ rest)) :=
    (listParser_takeCommaSeparated fun _ _ => selectItem_iff).complete hcs
      (Follows.noComma (follows_cons.2 (List.mem_singleton.2 hfrom)) (by simp))
  simp only [selectHead, hitems, ok_bind, expect_cons hfrom, takeName_append hns, pure_eq]

/-- One case for each rule of the grammar. -/
theorem parseQuery_complete {ts rest : List Token} {s : Statement} (h : Query ts s)
    (hrest : Follows [.semicolon] rest) : parseQuery (ts ++ rest) = .ok (s, rest) := by
  cases h with
  | @select first from_ cs ns ws os ls columns table filter order limit hfirst hcs hfrom hns hws hos
      hls =>
    -- from the last clause backwards, each tells what may follow the one before it
    have hlimit := follows_limit hls hrest
    have horder := follows_order hos hlimit
    obtain ⟨clause, hclause, rfl⟩ := filterClause_complete hws horder
    obtain ⟨numeral, hnumeral, rfl⟩ := limitClause_complete hls hrest
    have hhead := selectHead_complete hcs hfrom hns (ws ++ (os ++ (ls ++ rest)))
    simp only [List.append_assoc, List.cons_append, parseQuery, parseHead, hfirst, hhead, ok_bind,
      Head.clause, Head.takesFilter, if_true, hclause, parseTail, orderClause_complete hos hlimit,
      hnumeral, pure_eq]
  | @update first set ns as ws table assignments filter hfirst hns hset has hws =>
    obtain ⟨clause, hclause, rfl⟩ := filterClause_complete hws (hrest.mono (by simp))
    have hitems : takeAssignments (as ++ (ws ++ rest)) = .ok (assignments, ws ++ rest) :=
      listParser_takeAssignments.complete has ((follows_where hws hrest).noComma (by simp))
    have hhead : updateHead (ns ++ set :: (as ++ (ws ++ rest))) =
        .ok (.update table assignments, ws ++ rest) := by
      simp only [updateHead, takeName_append hns, ok_bind, expect_cons hset, hitems, pure_eq]
    simp only [List.append_assoc, List.cons_append, parseQuery, parseHead, hfirst, hhead, ok_bind,
      Head.clause, Head.takesFilter, if_true, hclause, parseTail]
  | @delete first from_ ns ws table filter hfirst hfrom hns hws =>
    obtain ⟨clause, hclause, rfl⟩ := filterClause_complete hws (hrest.mono (by simp))
    have hhead : deleteHead (from_ :: (ns ++ (ws ++ rest))) = .ok (.delete table, ws ++ rest) := by
      simp only [deleteHead, expect_cons hfrom, ok_bind, takeName_append hns, pure_eq]
    simp only [List.append_assoc, List.cons_append, parseQuery, parseHead, hfirst, hhead, ok_bind,
      Head.clause, Head.takesFilter, if_true, hclause, parseTail]
  | @insert first into values ns vs table row hfirst hinto hns hvalues hvs =>
    have hcolumns :
        insertColumns (values :: (vs ++ rest)) = .ok (none, values :: (vs ++ rest)) := by
      simp [insertColumns, hvalues, Token.isKeyword]
    have hhead : insertHead (into :: (ns ++ values :: (vs ++ rest))) =
        .ok (.complete (.insert ⟨table, none, row⟩), rest) := by
      simp only [insertHead, expect_cons hinto, ok_bind, takeName_append hns, hcolumns,
        expect_cons hvalues, takeList_complete (fun _ _ => insertedValue_iff) hvs, pure_eq]
    simp [parseQuery, parseHead, hfirst, hhead, Head.clause, Head.takesFilter, parseTail]
  | @insertColumns first into values ns cs vs table columns row hfirst hinto hns hcs hvalues hvs =>
    have hlist := takeList_complete (fun _ _ => name_iff) hcs (values :: (vs ++ rest))
    have hcolumns : insertColumns (cs ++ values :: (vs ++ rest)) =
        .ok (some columns, values :: (vs ++ rest)) := by
      obtain ⟨hopening, -, -⟩ := hcs
      rw [List.cons_append, List.cons_append] at hlist ⊢
      simp only [insertColumns, hopening, if_true, hlist, Except.map]
    have hhead : insertHead (into :: (ns ++ (cs ++ values :: (vs ++ rest)))) =
        .ok (.complete (.insert ⟨table, some columns, row⟩), rest) := by
      simp only [insertHead, expect_cons hinto, ok_bind, takeName_append hns, hcolumns,
        expect_cons hvalues, takeList_complete (fun _ _ => insertedValue_iff) hvs, pure_eq]
    simp [parseQuery, parseHead, hfirst, hhead, Head.clause, Head.takesFilter, parseTail]
  | @alterBare first second ns table hfirst hsecond hns =>
    obtain ⟨htake, hdrop⟩ :=
      takeWhile_tokens inAction_iff (List.forall_mem_nil _) (not_mem_actionKinds hrest)
    have hhead : alterHead (second :: (ns ++ rest)) =
        .ok (.complete (.alter table (.unsupported [])), rest) := by
      rw [List.nil_append] at htake hdrop
      simp only [alterHead, expect_cons hsecond, ok_bind, takeName_append hns, htake, hdrop]
      rfl
    simp [parseQuery, parseHead, hfirst, hhead, Head.clause, Head.takesFilter, parseTail]
  | @alter first second ns as table alteration hfirst hsecond hns has hmeaning =>
    obtain ⟨htake, hdrop⟩ :=
      takeWhile_tokens inAction_iff (tokens_iff.1 has).2 (not_mem_actionKinds hrest)
    have hhead : alterHead (second :: (ns ++ (as ++ rest))) =
        .ok (.complete (.alter table alteration), rest) := by
      simp only [alterHead, expect_cons hsecond, ok_bind, takeName_append hns, htake, hdrop,
        actionMeaning_iff.1 hmeaning, pure_eq]
    simp [parseQuery, parseHead, hfirst, hhead, Head.clause, Head.takesFilter, parseTail]

/-! ### Whole statements -/

theorem expectEnd_eq_ok {tokens : List Token} {u : Unit} :
    expectEnd tokens = .ok u ↔ tokens = [] ∨ ∃ t, t.kind = .semicolon ∧ tokens = [t] := by
  cases tokens with
  | nil => simp [expectEnd]
  | cons t rest =>
    by_cases ht : t.kind = .semicolon <;> by_cases hrest : rest = [] <;>
      simp [expectEnd, ht, hrest]

/-- Whole lists of tokens parse as the grammar says. -/
theorem parseTokens_iff_sentence {tokens : List Token} {s : Statement} :
    parseTokens tokens = .ok s ↔ Sentence tokens s := by
  rw [parseTokens_eq]
  constructor
  · intro h
    obtain ⟨⟨s', rest⟩, hquery, h⟩ := bind_eq_ok.1 h
    obtain ⟨u, hend, hs⟩ := bind_eq_ok.1 h
    obtain rfl : s' = s := by simpa using hs
    obtain ⟨ts, rfl, hts⟩ := parseQuery_sound hquery
    rcases expectEnd_eq_ok.1 hend with rfl | ⟨t, ht, rfl⟩
    · rw [List.append_nil]
      exact .plain hts
    · exact .closed hts ht
  · intro h
    cases h with
    | plain h =>
      have hquery := parseQuery_complete h (follows_nil _)
      rw [List.append_nil] at hquery
      simp [hquery, expectEnd]
    | @closed ts semicolon _ h hsemicolon =>
      have hend : Follows [.semicolon] [semicolon] := by simp [hsemicolon]
      simp [parseQuery_complete h hend, expectEnd, hsemicolon]

/-- The front of a `SELECT` decides on its columns and on its table, whatever its clauses are. -/
theorem Grammar.Sentence.exists_select {first from_ : Token} {cs ns rest : List Token}
    {columns : List Text} {table : Text} {s : Statement} (hfirst : first.kind = .keyword .SELECT)
    (hcs : Sequence SelectItem cs columns) (hfrom : from_.kind = .keyword .FROM)
    (hns : Name ns table) (h : Sentence (first :: (cs ++ from_ :: (ns ++ rest))) s) :
    ∃ filter order limit, s = .select ⟨table, columns, filter, order, limit⟩ := by
  rw [← parseTokens_iff_sentence, parseTokens_eq] at h
  obtain ⟨⟨s', after⟩, hquery, h⟩ := bind_eq_ok.1 h
  obtain ⟨u, -, hs⟩ := bind_eq_ok.1 h
  obtain rfl : s' = s := by simpa using hs
  obtain ⟨⟨head, tail⟩, hhead, htail⟩ := bind_eq_ok.1 hquery
  simp only [parseHead, hfirst, selectHead_complete hcs hfrom hns rest, Except.ok.injEq,
    Prod.mk.injEq] at hhead
  obtain ⟨rfl, rfl⟩ := hhead
  obtain ⟨os, ls, order, limit, -, hselect, -, -⟩ := selectTail_sound htail
  exact ⟨_, order, limit, hselect⟩

/-- A list of tokens is at most one statement. -/
theorem Grammar.Sentence.unique {tokens : List Token} {s s' : Statement} (h : Sentence tokens s)
    (h' : Sentence tokens s') : s = s' := by
  rw [← parseTokens_iff_sentence] at h h'
  exact Except.ok.inj (h.symm.trans h')

/-- A token with which a statement starts is the first of some tokens. -/
def StartsStatement (tokens : List Token) : Prop :=
  ∃ first ∈ tokens.head?, ∃ keyword ∈ leadingKeywords, first.kind = .keyword keyword

theorem classifyTokens_of_starts {tokens : List Token} (h : StartsStatement tokens) :
    ∃ keyword, classifyTokens tokens = .ok keyword := by
  obtain ⟨first, hfirst, keyword, hkeyword, hkind⟩ := h
  have hfind : (leadingKeywords.find? (first.isKeyword ·)).isSome = true :=
    List.find?_isSome.2 ⟨keyword, hkeyword, by simp [Token.isKeyword, hkind]⟩
  obtain ⟨found, hfound⟩ := Option.isSome_iff_exists.1 hfind
  exact ⟨found, by simp [classifyTokens, Option.mem_def.1 hfirst, hfound]⟩

theorem classifyTokens_of_not_starts {tokens : List Token} (h : ¬StartsStatement tokens) :
    classifyTokens tokens =
      if ∃ t ∈ tokens, t.kind = .keyword .SELECT then .error .misplacedSelect
      else .error .unsupportedStatement := by
  have hnone : (tokens.head?.bind fun t => leadingKeywords.find? (t.isKeyword ·)) = none := by
    rw [Option.bind_eq_none_iff]
    intro first hfirst
    rw [List.find?_eq_none]
    intro keyword hkeyword hkind
    exact h ⟨first, hfirst, keyword, hkeyword, by simpa [Token.isKeyword] using hkind⟩
  rw [classifyTokens, hnone]
  simp only [List.any_eq_true, Token.isKeyword, beq_iff_eq]

theorem Statement.parse_of_starts {text : Text} (h : StartsStatement (tokenize (trim text))) :
    Statement.parse text = (parseTokens (tokenize (trim text))).mapError .atToken := by
  obtain ⟨keyword, hkeyword⟩ := classifyTokens_of_starts h
  simp [Statement.parse, hkeyword]

theorem Statement.sentence_of_parse {text : Text} {s : Statement}
    (h : Statement.parse text = .ok s) : Sentence (tokenize (trim text)) s := by
  obtain ⟨_, _, h⟩ := bind_eq_ok.1 h
  exact parseTokens_iff_sentence.1 (mapError_eq_ok.1 h)

theorem Statement.query_of_parse {text : Text} {s : Statement}
    (h : Statement.parse text = .ok s) : ∃ tokens, Query tokens s := by
  have hsentence := Statement.sentence_of_parse h
  generalize tokenize (trim text) = tokens at hsentence
  cases hsentence with
  | plain hquery => exact ⟨_, hquery⟩
  | closed hquery _ => exact ⟨_, hquery⟩

/-- A text that starts with the keyword of a statement is parsed just when its tokens make a
statement of the grammar, which is then the answer and the only one; otherwise it is a syntax
error. A text that starts with anything else is a syntax error if it mentions `SELECT`, and
unsupported if it does not. -/
theorem Statement.parse_accepts_dialect :
    (∀ tokens s s', Sentence tokens s → Sentence tokens s' → s = s') ∧
    ∀ text : Text,
      (StartsStatement (tokenize (trim text)) →
        (∀ s, Statement.parse text = .ok s ↔ Sentence (tokenize (trim text)) s) ∧
        ((¬∃ s, Sentence (tokenize (trim text)) s) →
          ∃ place, Statement.parse text = .error (.malformed place))) ∧
      (¬StartsStatement (tokenize (trim text)) →
        Statement.parse text =
          if ∃ t ∈ tokenize (trim text), t.kind = .keyword .SELECT then .error .misplacedSelect
          else .error .unsupportedStatement) := by
  refine ⟨fun _ _ _ h h' => h.unique h', fun text => ⟨fun hstart => ?_, fun hstart => ?_⟩⟩
  · rw [Statement.parse_of_starts hstart]
    refine ⟨fun s => ?_, fun hnone => ?_⟩
    · rw [mapError_eq_ok, parseTokens_iff_sentence]
    · cases h : parseTokens (tokenize (trim text)) with
      | ok s => exact absurd ⟨s, parseTokens_iff_sentence.1 h⟩ hnone
      | error obstacle => exact ⟨_, rfl⟩
  · rw [Statement.parse, classifyTokens_of_not_starts hstart]
    split <;> rfl

theorem parse_accepts_dialect_delete :
    StartsStatement (tokenize (trim "DELETE FROM t WHERE a = 1 OR b;")) ∧
      Sentence (tokenize (trim "DELETE FROM t WHERE a = 1 OR b;"))
        (.delete ⟨"t", some (.comparison ⟨"a", .equal, .int 1⟩)⟩) := by
  have hstart : StartsStatement (tokenize (trim "DELETE FROM t WHERE a = 1 OR b;")) :=
    ⟨_, rfl, .DELETE, by decide, by decide⟩
  exact ⟨hstart, (((Statement.parse_accepts_dialect.2 _).1 hstart).1 _).1 (by decide)⟩

end TableQuery
