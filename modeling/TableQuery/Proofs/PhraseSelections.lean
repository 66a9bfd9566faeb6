import TableQuery.Proofs.PhraseOrder

/-!
# Phrases and selections

A phrase compares numbers exactly and orders other values by their text, where a `SELECT` compares
doubles and orders by numbers. On a column of integers that doubles hold there is no difference.

* `Relation.operator`: how a relation is written in a `SELECT`.
* `Value.stands`: which fields stand in a relation to a number.
* `satisfies_eq_stands`, `Operator.holds_eq_stands`: both filters ask for just these.
* `sortByText_eq_arrange`: both orders are the order of the integers.
* `Plan.answer_eq_select`: a plan with one column and the `SELECT` yield the same records.
* `Plan.ofPhrase_answer_eq_select`: so does a phrase with such a plan.
-/

namespace TableQuery

open Number Text

/-- The operator of a comparison that says what a relation says. -/
def Relation.operator : Relation → Operator
  | .greater => .greater
  | .less => .less
  | .equal => .equal

/-- Whether two integers stand in a relation. -/
def Relation.relates (relation : Relation) (n m : Int) : Bool :=
  match relation with
  | .greater => decide (m < n)
  | .less => decide (n < m)
  | .equal => decide (n = m)

namespace Value

/-- An integer that a double holds. -/
def IsPlain (value : Value) : Prop :=
  ∃ n, value = .int n ∧ IsDoubleInteger n

/-- Whether a field is an integer that stands in a relation to another one. -/
def stands (value : Value) (relation : Relation) (m : Int) : Bool :=
  match value with
  | .int n => relation.relates n m
  | _ => false

theorem number_null : Value.null.number = .ok .nan := rfl

end Value

/-! ### Filter -/

theorem satisfies_int (n : Int) (relation : Option Relation) (numbers : List Nat) :
    satisfies (.int n) relation numbers = (do
      let x ← (Value.int n).number
      return numberMatches x relation numbers) := rfl

theorem satisfies_eq_stands {value : Value} (h : value = .null ∨ value.IsPlain)
    (relation : Relation) (first : Nat) (numbers : List Nat) :
    satisfies value (some relation) (first :: numbers) = .ok (value.stands relation first) := by
  rcases h with rfl | ⟨n, rfl, hn⟩
  · rfl
  · obtain ⟨x, hnumber, hplace⟩ := Value.number_of_isDoubleInteger hn
    rw [satisfies_int, hnumber, ok_bind]
    cases relation <;>
      simp [numberMatches, hplace, Value.stands, Relation.relates, Extended.lt_ofInt,
        Extended.beq_ofInt]

theorem Operator.holds_eq_stands {value : Value} (h : value = .null ∨ value.IsPlain)
    (relation : Relation) {m : Int} (hm : IsDoubleInteger m) :
    relation.operator.holds value (.int m) = .ok (value.stands relation m) := by
  obtain ⟨y, hliteral, hbound⟩ := Value.number_of_isDoubleInteger hm
  rcases h with rfl | ⟨n, rfl, hn⟩
  · cases relation with
    | equal => rfl
    | _ =>
      simp [Relation.operator, Operator.holds, Value.number_null, hliteral, Double.extended?,
        Value.stands]
  · obtain ⟨x, hfield, hplace⟩ := Value.number_of_isDoubleInteger hn
    cases relation with
    | equal =>
      simp [Relation.operator, Operator.holds, Value.looselyEqual, Value.isNumber, sameNumber,
        Value.place?, Value.stands, Relation.relates, Extended.beq_ofInt]
    | _ =>
      simp [Relation.operator, Operator.holds, Operator.orders, hfield, hliteral, hplace, hbound,
        Value.stands, Relation.relates, Extended.lt_ofInt]

theorem anyMatches_singleton (row : Row) (relation : Option Relation) (numbers : List Nat)
    (column : Text) :
    anyMatches row relation numbers [column] = satisfies (row.get column) relation numbers := by
  simp only [anyMatches]
  cases satisfies (row.get column) relation numbers with
  | error fault => rfl
  | ok hit => cases hit <;> rfl

/-- Where no field makes the search fail, it keeps the rows that it hits. -/
theorem keepMatching_of_satisfies {column : Text} {relation : Option Relation} {numbers : List Nat}
    {hit : Row → Bool} {rows : List Row}
    (h : ∀ row ∈ rows, satisfies (row.get column) relation numbers = .ok (hit row)) :
    keepMatching [column] relation numbers rows = .ok (rows.filter hit) := by
  induction rows with
  | nil => rfl
  | cons row rows ih =>
    have hmore := ih fun row' hrow' => h row' (List.mem_cons_of_mem _ hrow')
    simp only [keepMatching, anyMatches_singleton, h row List.mem_cons_self, hmore, ok_bind]
    rw [List.filter_cons]
    cases hit row <;> rfl

/-! ### Order -/

theorem sortKey_of_isPlain {value : Value} (h : value.IsPlain) :
    sortKey value = .ok ⟨none, value.place?⟩ := by
  obtain ⟨n, rfl, hn⟩ := h
  exact sortKey_of_isDoubleInteger hn

/-- A phrase and a `SELECT` compare integers alike. -/
theorem sortByText_eq_arrange {column : Text} {rows : List Row}
    (h : ∀ row ∈ rows, (row.get column).IsPlain) (descending : Bool) :
    sortByText column descending rows = SortOrder.arrange ⟨column, descending⟩ rows := by
  refine Sorting.sort_congr fun a ha b hb => ?_
  have hleft := sortKey_of_isPlain (h a ha)
  have hright := sortKey_of_isPlain (h b hb)
  obtain ⟨n, hn, -⟩ := h a ha
  obtain ⟨m, hm, -⟩ := h b hb
  rw [hn] at hleft
  rw [hm] at hright
  simp [comesBefore, compareForOrder, compareInPhrase, hn, hm, hleft, hright, SortKey.compare,
    Value.isNumber]

/-- Integers are ordered alike in a phrase and in a `SELECT`. -/
theorem exists_order_eq_orderRows {plan : Plan} {rows : List Row}
    (h : ∀ column ∈ plan.sortColumn, ∀ row ∈ rows, (row.get column).IsPlain) :
    ∃ ordered, plan.order rows = .ok ordered ∧
      orderRows (plan.sortColumn.map fun column => ⟨column, plan.descending⟩) rows =
        .ok ordered := by
  unfold Plan.order
  cases hsort : plan.sortColumn with
  | none => exact ⟨rows, rfl, rfl⟩
  | some column =>
    have hplain := h column hsort
    obtain ⟨ordered, hordered⟩ := @SortOrder.exists_arrange_of_sortKey ⟨column, plan.descending⟩
      rows fun row hrow => ⟨_, sortKey_of_isPlain (hplain row hrow)⟩
    exact ⟨ordered, (sortByText_eq_arrange hplain _).trans hordered, hordered⟩

/-! ### Plans -/

theorem Plan.answer_eq_select {plan : Plan} {table : Table} {column : Text} {relation : Relation}
    {first bound : Nat} {numbers : List Nat} (hactive : plan.active = true)
    (hcolumns : plan.columns = [column]) (hrelation : plan.relation = some relation)
    (hnumbers : plan.numbers = first :: numbers) (hfirst : IsDoubleInteger first)
    (hsort : ∀ sorted ∈ plan.sortColumn, sorted = column) (hlimit : plan.limit = some (bound : Int))
    (hrows : ∀ row ∈ table.rows, row.get column = .null ∨ (row.get column).IsPlain) :
    ∃ rows, plan.answer table = .ok ⟨plan, table.columns, rows⟩ ∧
      ∀ name, Selection.run ⟨name, ["*"],
        some (.comparison ⟨column, relation.operator, .int first⟩),
        plan.sortColumn.map fun sorted => ⟨sorted, plan.descending⟩, some bound⟩ table =
          .ok (.selected table.columns rows) := by
  let hit := fun row : Row => (row.get column).stands relation first
  have hphrase : plan.filter table.rows = .ok (table.rows.filter hit) := by
    rw [Plan.filter, hcolumns, hrelation, hnumbers, if_neg (by simp)]
    exact keepMatching_of_satisfies fun row hrow => satisfies_eq_stands (hrows row hrow) _ _ _
  have hselect : selectRows (some (.comparison ⟨column, relation.operator, .int first⟩))
      table.rows = .ok (table.rows.filter hit) :=
    Filter.select_of_admits fun row hrow => Operator.holds_eq_stands (hrows row hrow) _ hfirst
  -- absent fields are gone before the rows are ordered
  have hkept : ∀ sorted ∈ plan.sortColumn, ∀ row ∈ table.rows.filter hit,
      (row.get sorted).IsPlain := by
    intro sorted hsorted row hrow
    obtain rfl := hsort sorted hsorted
    obtain ⟨hmem, hhit⟩ := List.mem_filter.1 hrow
    refine (hrows row hmem).resolve_left fun hnull => ?_
    simp [hit, hnull, Value.stands] at hhit
  obtain ⟨ordered, hordered, horder⟩ := exists_order_eq_orderRows hkept
  refine ⟨projection (ordered.take bound) table.columns, ?_, ?_⟩
  · simp [Plan.answer, Plan.run, hactive, hphrase, hordered, hlimit, takeLimit_ofNat]
  · intro name
    simp [Selection.run, Selection.shownColumns, hselect, horder, Except.mapError, limitRows]

theorem Plan.active_of_columns_eq_cons {limit : Int} {phrase column : Text} {table : Table}
    {columns : List Text} (h : (ofPhrase limit phrase table).columns = column :: columns) :
    (ofPhrase limit phrase table).active = true := by
  by_cases htrigger : mentions (lower phrase) activeWords = true
  · simp only [ofPhrase, if_pos htrigger]
  · simp [ofPhrase, if_neg htrigger, inactive] at h

theorem Plan.sortColumn_ofPhrase {limit : Int} {phrase column : Text} {table : Table}
    {columns : List Text} (h : (ofPhrase limit phrase table).columns = column :: columns) :
    ∀ sorted ∈ (ofPhrase limit phrase table).sortColumn, sorted = column := by
  intro sorted hsorted
  by_cases htrigger : mentions (lower phrase) activeWords = true
  · simp only [ofPhrase, if_pos htrigger] at h hsorted
    rw [h] at hsorted
    split at hsorted
    · exact (Option.some.inj hsorted).symm
    · simp at hsorted
  · simp [ofPhrase, if_neg htrigger, inactive] at hsorted

/-- A phrase that names one column, a relation and a number yields what the `SELECT` with this
comparison does, in the order and up to the limit of its plan. Every integer in the column, and the
number, has a magnitude of at most `2 ^ 53`; other fields of the column are absent. -/
theorem Plan.ofPhrase_answer_eq_select {table : Table} {phrase column : Text}
    {relation : Relation} {defaultLimit : Int} {first bound : Nat} {numbers : List Nat}
    (hcolumns : (ofPhrase defaultLimit phrase table).columns = [column])
    (hrelation : (ofPhrase defaultLimit phrase table).relation = some relation)
    (hnumbers : (ofPhrase defaultLimit phrase table).numbers = first :: numbers)
    (hfirst : first ≤ 2 ^ 53)
    (hlimit : (ofPhrase defaultLimit phrase table).limit = some (bound : Int))
    (hrows : ∀ row ∈ table.rows,
      row.get column = .null ∨ ∃ n, row.get column = .int n ∧ n.natAbs ≤ 2 ^ 53) :
    let plan := ofPhrase defaultLimit phrase table
    ∃ rows, plan.answer table = .ok ⟨plan, table.columns, rows⟩ ∧
      ∀ name ids, table.isNamed name = true →
        Statement.run (.select ⟨name, ["*"],
          some (.comparison ⟨column, relation.operator, .int first⟩),
          plan.sortColumn.map fun sorted => ⟨sorted, plan.descending⟩, some bound⟩) table ids =
            .ok (.selected table.columns rows, ids) := by
  intro plan
  have hplain : ∀ row ∈ table.rows, row.get column = .null ∨ (row.get column).IsPlain := by
    intro row hrow
    refine (hrows row hrow).imp_right ?_
    rintro ⟨n, hn, hbound⟩
    exact ⟨n, hn, Double.isDoubleInteger_of_natAbs_le hbound⟩
  obtain ⟨rows, hanswer, hselect⟩ := Plan.answer_eq_select (active_of_columns_eq_cons hcolumns)
    hcolumns hrelation hnumbers (Double.isDoubleInteger_of_natAbs_le hfirst)
    (sortColumn_ofPhrase hcolumns) hlimit hplain
  refine ⟨rows, hanswer, fun name ids hname => ?_⟩
  simp only [Statement.run, Statement.table, hname]
  rw [if_neg (by decide), hselect name]
  rfl

theorem Plan.ofPhrase_answer_eq_select_descending :
    let row (id : Text) (age : Value) : Row := ⟨id, .ofList [("who", .text id), ("age", age)]⟩
    let table : Table := ⟨"1", .scalar (.text "people"), ["who", "age"],
      [row "a" (.int 3), row "b" .null, row "c" (.int 12), ⟨"d", .ofList [("who", .text "d")]⟩,
        row "e" (.int 2), row "f" (.int 12)]⟩
    let phrase : Text := "show age more than 2, order by age, high to low, limit"
    let statement : Statement := .select ⟨"people", ["*"],
      some (.comparison ⟨"age", .greater, .int 2⟩), some ⟨"age", true⟩, some 2⟩
    let rows : List Record := [(row "c" (.int 12)).values, (row "f" (.int 12)).values]
    let ids : IdSupply := .ofSequence uuidText
    Statement.parse "SELECT * FROM people WHERE age > 2 ORDER BY age DESC LIMIT 2" =
        .ok statement ∧
      (Plan.ofPhrase 10 phrase table).answer table =
        .ok ⟨Plan.ofPhrase 10 phrase table, ["who", "age"], rows⟩ ∧
      statement.run table ids = .ok (.selected ["who", "age"] rows, ids) := by
  intro row table phrase statement rows ids
  have hanswer : (Plan.ofPhrase 10 phrase table).answer table =
      .ok ⟨Plan.ofPhrase 10 phrase table, ["who", "age"], rows⟩ := by decide +kernel
  have hages : ∀ r ∈ table.rows,
      r.get "age" = .null ∨ ∃ n, r.get "age" = .int n ∧ n.natAbs ≤ 2 ^ 53 := by
    simp only [table, List.forall_mem_cons]
    exact ⟨.inr ⟨3, rfl, by decide⟩, .inl rfl, .inr ⟨12, rfl, by decide⟩, .inl rfl,
      .inr ⟨2, rfl, by decide⟩, .inr ⟨12, rfl, by decide⟩, by simp⟩
  obtain ⟨found, hfound, hselect⟩ := @Plan.ofPhrase_answer_eq_select table phrase "age" .greater
    10 2 2 [] (by decide +kernel) (by decide +kernel) (by decide +kernel) (by decide)
    (by decide +kernel) hages
  obtain ⟨-, rfl⟩ : table.columns = ["who", "age"] ∧ found = rows := by
    simpa using hfound.symm.trans hanswer
  exact ⟨by decide +kernel, hanswer, hselect "people" ids rfl⟩

end TableQuery
