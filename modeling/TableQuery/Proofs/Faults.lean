import TableQuery.Phrase.Answer
import TableQuery.Proofs.OverlongValues
import TableQuery.Proofs.Rounding
import TableQuery.Proofs.StableSorting
import TableQuery.Proofs.StorableStatements

/-!
# Faults

* `Value.IsTooLarge`: the integers that are beyond every double.
* `OverflowsIff`: a computation meets a fault just under some condition, and the fault is always
  such an integer.
* `Filter.Overflows`, `SortOrder.Overflows`, `Statement.Overflows`, `Plan.Overflows`: these
  conditions, for all that compares or orders rows.
* `Table.IsGrown`: the tables that statements make from one without rows.
* `Table.IsGrown.fault_iff_overflows`: which statements and phrases meet a fault on such a table.
-/

namespace TableQuery

open Number Text Grammar

/-! ### Computations -/

section

variable {α β : Type} {x : Except Fault α} {p q : Prop}

/-- A computation meets a fault just under a condition, and the fault is always an integer that is
too large. -/
def OverflowsIff (x : Except Fault α) (p : Prop) : Prop :=
  ∀ fault, x = .error fault ↔ fault = .integerTooLarge ∧ p

theorem overflowsIff_ok (a : α) : OverflowsIff (.ok a) False := by
  simp [OverflowsIff]

theorem OverflowsIff.congr (h : OverflowsIff x p) (hpq : p ↔ q) : OverflowsIff x q :=
  propext hpq ▸ h

theorem OverflowsIff.bind {f : α → Except Fault β} (hx : OverflowsIff x p)
    (hf : ∀ a, x = .ok a → OverflowsIff (f a) q) : OverflowsIff (x >>= f) (p ∨ q) := by
  cases x with
  | error e =>
    obtain ⟨rfl, hp⟩ := (hx e).1 rfl
    intro fault
    rw [bind_eq_error]
    simp [hp, eq_comm]
  | ok a =>
    have hp : ¬p := fun hp => by simpa using (hx .integerTooLarge).2 ⟨rfl, hp⟩
    exact (hf a rfl).congr (by simp [hp])

/-- What is done with the result of a computation cannot fail. -/
theorem OverflowsIff.bind_ok {f : α → β} (hx : OverflowsIff x p) :
    OverflowsIff (x >>= fun a => .ok (f a)) p :=
  (hx.bind fun a _ => overflowsIff_ok (f a)).congr (by simp)

end

/-! ### Values -/

/-- An integer that is beyond every double. -/
def Value.IsTooLarge (value : Value) : Prop :=
  ∃ n : Int, value = .int n ∧ (2 ^ 54 - 1) * 2 ^ 970 ≤ n.natAbs

theorem Value.toDouble?_eq_none_iff {value : Value} :
    value.toDouble? = none ↔ value.IsTooLarge := by
  cases value with
  | int n =>
    refine (Double.ofInt?_eq_none_iff n).trans ⟨fun h => ⟨n, rfl, h⟩, ?_⟩
    rintro ⟨_, heq, h⟩
    exact Value.int.inj heq ▸ h
  | _ => exact iff_of_false nofun nofun

theorem Value.number_overflowsIff (value : Value) : OverflowsIff value.number value.IsTooLarge := by
  intro fault
  rw [← toDouble?_eq_none_iff]
  cases h : value.toDouble? <;> simp [number, h, eq_comm]

/-! ### Conditions -/

/-- The operators that compare doubles. -/
def Operator.IsOrdering (operator : Operator) : Prop :=
  operator ∈ [Operator.less, .lessEqual, .greater, .greaterEqual]

instance (operator : Operator) : Decidable operator.IsOrdering :=
  inferInstanceAs (Decidable (operator ∈ _))

/-- A filter that a clause can stand for: its operator is one of the query language, and its
literal is read from a text. -/
def Filter.IsRead : Filter → Prop
  | .comparison c => c.operator ∈ operators.map Prod.snd ∧ ∃ text, c.literal = .ofText text
  | .unparsed _ => True

/-- A comparison by order, with a number on one side that is too large. -/
def Filter.Overflows (filter : Filter) (row : Row) : Prop :=
  match filter with
  | .comparison c =>
    c.operator.IsOrdering ∧ ((row.get c.column).IsTooLarge ∨ c.literal.IsTooLarge)
  | .unparsed _ => False

theorem Operator.orders_overflowsIff {operator : Operator} (h : operator.IsOrdering)
    (left right : Extended) : OverflowsIff (operator.orders left right) False := by
  simp only [IsOrdering, List.mem_cons, List.not_mem_nil, or_false] at h
  rcases h with rfl | rfl | rfl | rfl <;> exact overflowsIff_ok _

/-- Whether two doubles are in the relation of an ordering operator; a NaN is in none. -/
def Operator.relates (operator : Operator) (left right : Double) : Except Fault Bool :=
  match left.extended?, right.extended? with
  | some a, some b => operator.orders a b
  | _, _ => .ok false

theorem Operator.holds_overflowsIff_of_isOrdering {operator : Operator} (h : operator.IsOrdering)
    (field literal : Value) :
    OverflowsIff (operator.holds field literal) (field.IsTooLarge ∨ literal.IsTooLarge) := by
  have hholds : operator.holds field literal = (do
      let left ← field.number
      let right ← literal.number
      operator.relates left right) := by
    simp only [IsOrdering, List.mem_cons, List.not_mem_nil, or_false] at h
    rcases h with rfl | rfl | rfl | rfl <;> rfl
  rw [hholds]
  refine field.number_overflowsIff.bind fun left _ => ?_
  refine (literal.number_overflowsIff.bind (q := False) fun right _ => ?_).congr (by simp)
  unfold relates
  split
  · exact orders_overflowsIff h _ _
  · exact overflowsIff_ok _

theorem overflowsIff_of_exists_ok {α : Type} {x : Except Fault α} (h : ∃ a, x = .ok a) :
    OverflowsIff x False := by
  obtain ⟨a, rfl⟩ := h
  exact overflowsIff_ok a

theorem Operator.holds_overflowsIff {operator : Operator} (h : operator ∈ operators.map Prod.snd)
    {field literal : Value} (hfield : field.IsStorable) (hliteral : literal.IsStorable) :
    OverflowsIff (operator.holds field literal)
      (operator.IsOrdering ∧ (field.IsTooLarge ∨ literal.IsTooLarge)) := by
  by_cases hordering : operator.IsOrdering
  · exact (holds_overflowsIff_of_isOrdering hordering field literal).congr (by simp [hordering])
  · -- what is left of the operators of the query language are equality and `LIKE`
    have hrest : operator = .equal ∨ operator = .notEqual ∨ operator = .like := by
      simp only [operators, List.map, List.mem_cons, List.not_mem_nil, or_false] at h
      simp only [IsOrdering, List.mem_cons, List.not_mem_nil, or_false] at hordering
      tauto
    refine OverflowsIff.congr (p := False) (overflowsIff_of_exists_ok ?_) (by simp [hordering])
    obtain ⟨equal, hequal⟩ := Value.exists_looselyEqual hfield hliteral
    rcases hrest with rfl | rfl | rfl
    · exact ⟨equal, hequal⟩
    · exact ⟨!equal, by rw [holds, hequal]; rfl⟩
    · exact ⟨_, by rw [holds, likeNeedle, Value.format_of_isStorable hfield,
        Value.format_of_isStorable hliteral]; rfl⟩

theorem Filter.admits_overflowsIff {filter : Filter} (h : filter.IsRead) {row : Row}
    (hrow : row.IsShort) : OverflowsIff (filter.admits row) (filter.Overflows row) := by
  cases filter with
  | comparison c =>
    obtain ⟨hoperator, t, hliteral⟩ := h
    refine Operator.holds_overflowsIff hoperator (hrow c.column) ?_
    rw [hliteral]
    exact Value.ofText_isStorable t
  | unparsed _ => exact overflowsIff_ok _

theorem Filter.mark_overflowsIff {filter : Filter} (h : filter.IsRead) {rows : List Row}
    (hrows : ∀ row ∈ rows, row.IsShort) :
    OverflowsIff (filter.mark rows) (∃ row ∈ rows, filter.Overflows row) := by
  induction rows with
  | nil => exact (overflowsIff_ok _).congr (by simp)
  | cons row rows ih =>
    obtain ⟨hrow, hmore⟩ := List.forall_mem_cons.1 hrows
    refine ((admits_overflowsIff h hrow).bind fun hit _ => (ih hmore).bind_ok).congr ?_
    simp

/-! ### Statements -/

/-- A filter that some rows make overflow. -/
def OverflowsOn (filter : Option Filter) (rows : List Row) : Prop :=
  ∃ f ∈ filter, ∃ row ∈ rows, f.Overflows row

theorem markRows_overflowsIff {filter : Option Filter} (h : ∀ f ∈ filter, f.IsRead)
    {rows : List Row} (hrows : ∀ row ∈ rows, row.IsShort) :
    OverflowsIff (markRows filter rows) (OverflowsOn filter rows) := by
  cases filter with
  | none => exact (overflowsIff_ok _).congr (by simp [OverflowsOn])
  | some f => exact (Filter.mark_overflowsIff (h f rfl) hrows).congr (by simp [OverflowsOn])

theorem selectRows_overflowsIff {filter : Option Filter} (h : ∀ f ∈ filter, f.IsRead)
    {rows : List Row} (hrows : ∀ row ∈ rows, row.IsShort) :
    OverflowsIff (selectRows filter rows) (OverflowsOn filter rows) := by
  match filter with
  | none => exact (overflowsIff_ok _).congr (by simp [OverflowsOn])
  | some (.unparsed _) => exact (overflowsIff_ok _).congr (by simp [OverflowsOn, Filter.Overflows])
  | some (.comparison c) =>
    exact (Filter.mark_overflowsIff (h _ rfl) hrows).bind_ok.congr (by simp [OverflowsOn])

/-- Two rows or more, one of them with a number to be ordered by that is too large. -/
def SortOrder.Overflows (order : SortOrder) (rows : List Row) : Prop :=
  2 ≤ rows.length ∧ ∃ row ∈ rows, (row.get order.column).IsTooLarge

theorem comesBefore_overflowsIff (column : Text) (a b : Row) :
    OverflowsIff (comesBefore column a b)
      ((a.get column).IsTooLarge ∨ (b.get column).IsTooLarge) := by
  have hkey (value : Value) : OverflowsIff (sortKey value) value.IsTooLarge :=
    value.number_overflowsIff.bind_ok
  exact ((hkey _).bind fun _ _ => (hkey _).bind_ok).bind_ok

/-- Ordering rows fails just if there are several, and one of them is too large: each of several
rows is compared with another one. -/
theorem SortOrder.arrange_overflowsIff (order : SortOrder) (rows : List Row) :
    OverflowsIff (order.arrange rows) (order.Overflows rows) := by
  intro fault
  obtain ⟨sorted, hsorted, -⟩ | ⟨e, a, b, herror, hpair, hcompare⟩ :=
    Sorting.sort_cases (comesBefore order.column) order.descending rows
  · rw [arrange, hsorted]
    refine iff_of_false nofun ?_
    rintro ⟨-, hlong, row, hrow, hlarge⟩
    obtain ⟨other, reply, hreply⟩ := Sorting.sort_compared hsorted hlong row hrow
    have hfault : ∃ a b, comesBefore order.column a b = .ok reply ∧
        ((a.get order.column).IsTooLarge ∨ (b.get order.column).IsTooLarge) :=
      hreply.elim (fun h => ⟨row, other, h, .inl hlarge⟩) fun h => ⟨other, row, h, .inr hlarge⟩
    obtain ⟨a, b, hok, hlarge⟩ := hfault
    have herror := (comesBefore_overflowsIff order.column a b _).2 ⟨rfl, hlarge⟩
    simp [herror] at hok
  · obtain ⟨rfl, hlarge⟩ := (comesBefore_overflowsIff order.column a b e).1 hcompare
    obtain ⟨ha, hb, hlong⟩ := Sorting.mem_of_pair hpair
    have hoverflows : order.Overflows rows :=
      ⟨hlong, hlarge.elim (fun h => ⟨a, ha, h⟩) fun h => ⟨b, hb, h⟩⟩
    rw [arrange, herror]
    simp [hoverflows, eq_comm]

theorem orderRows_overflowsIff (order : Option SortOrder) (rows : List Row) :
    OverflowsIff (orderRows order rows) (∃ o ∈ order, o.Overflows rows) := by
  cases order with
  | none => exact (overflowsIff_ok _).congr (by simp)
  | some order =>
    exact (order.arrange_overflowsIff rows).congr (by simp)

/-- A `SELECT` that shows some columns, and whose filter or order overflows. -/
def Selection.Overflows (selection : Selection) (table : Table) : Prop :=
  (∃ columns, selection.shownColumns table = .ok columns) ∧
    (OverflowsOn selection.filter table.rows ∨
      ∃ order ∈ selection.order, order.Overflows (table.rows.filter (keptBy selection.filter)))

theorem Selection.run_eq_fault_iff {selection : Selection} {table : Table} {fault : Fault}
    (h : ∀ f ∈ selection.filter, f.IsRead) (hrows : ∀ row ∈ table.rows, row.IsShort) :
    selection.run table = .error (.fault fault) ↔
      fault = .integerTooLarge ∧ selection.Overflows table := by
  have hkept : OverflowsIff
      (selectRows selection.filter table.rows >>= fun rows => orderRows selection.order rows)
      (OverflowsOn selection.filter table.rows ∨
        ∃ order ∈ selection.order, order.Overflows (table.rows.filter (keptBy selection.filter))) :=
    (selectRows_overflowsIff h hrows).bind fun rows hrows =>
      selectRows_eq_ok hrows ▸ orderRows_overflowsIff selection.order rows
  have hsplit : selection.run table = .error (.fault fault) ↔
      (∃ columns, selection.shownColumns table = .ok columns) ∧
        (selectRows selection.filter table.rows >>= fun rows => orderRows selection.order rows) =
          .error fault := by
    simp [Selection.run, bind_eq_error, mapError_eq_error, mapError_eq_ok]
  rw [hsplit, hkept fault, Selection.Overflows]
  exact and_left_comm

theorem Insertion.run_ne_fault (insertion : Insertion) (table : Table) (ids : IdSupply)
    (fault : Fault) : insertion.run table ids ≠ .error (.fault fault) := by
  intro h
  rcases bind_eq_error.1 h with h | ⟨columns, -, h⟩
  · simp [mapError_eq_error] at h
  · split at h <;> simp at h

theorem Alteration.run_ne_fault (alteration : Alteration) (table : Table) (fault : Fault) :
    alteration.run table ≠ .error (.fault fault) := by
  cases alteration with
  | rename _ => simp [Alteration.run]
  | addColumn _ =>
    unfold Alteration.run
    simp only
    split <;> simp
  | dropColumn _ =>
    unfold Alteration.run
    simp only
    split <;> simp
  | unsupported _ => simp [Alteration.run]

/-- The filter of a statement, if it has one. -/
def Statement.filter? : Statement → Option Filter
  | .select s => s.filter
  | .update s => s.filter
  | .delete s => s.filter
  | _ => none

/-- A statement whose filter or order overflows on its table. -/
def Statement.Overflows (statement : Statement) (table : Table) : Prop :=
  match statement with
  | .select s => s.Overflows table
  | .update s => OverflowsOn s.filter table.rows
  | .delete s => OverflowsOn s.filter table.rows
  | _ => False

theorem Statement.run_eq_fault_iff {statement : Statement} {table : Table} {ids : IdSupply}
    {fault : Fault} (h : ∀ f ∈ statement.filter?, f.IsRead)
    (hrows : ∀ row ∈ table.rows, row.IsShort) :
    statement.run table ids = .error (.fault fault) ↔
      fault = .integerTooLarge ∧ table.isNamed statement.table = true ∧
        statement.Overflows table := by
  unfold Statement.run
  cases hnamed : table.isNamed statement.table with
  | false => simp
  | true =>
    cases statement with
    | select s => simpa [map_eq_error, Overflows] using s.run_eq_fault_iff h hrows
    | insert s => simp [Overflows, s.run_ne_fault]
    | update s =>
      have hmark : OverflowsIff (markRows s.filter table.rows) (OverflowsOn s.filter table.rows) :=
        markRows_overflowsIff h hrows
      simpa [map_eq_error, Overflows, Update.run, bind_eq_error, mapError_eq_error]
        using hmark fault
    | delete s =>
      have hmark : OverflowsIff (markRows s.filter table.rows) (OverflowsOn s.filter table.rows) :=
        markRows_overflowsIff h hrows
      simpa [map_eq_error, Overflows, Deletion.run, bind_eq_error, mapError_eq_error]
        using hmark fault
    | alter _ alteration => simp [map_eq_error, Overflows, alteration.run_ne_fault]

theorem Grammar.WhereClause.isRead {ws : List Token} {filter : Option Filter}
    (h : WhereClause ws filter) : ∀ f ∈ filter, f.IsRead := by
  intro f hf
  cases h with
  | none => simp at hf
  | blank _ =>
    obtain rfl := Option.some.inj hf
    trivial
  | clause _ _ hmeaning =>
    obtain rfl := Option.some.inj hf
    cases hmeaning with
    | comparison _ ho _ => exact ⟨List.mem_map_of_mem ho, _, rfl⟩
    | unparsed _ => trivial

theorem Statement.isRead_of_parse {text : Text} {s : Statement}
    (h : Statement.parse text = .ok s) : ∀ f ∈ s.filter?, f.IsRead := by
  obtain ⟨_, hquery⟩ := Statement.query_of_parse h
  cases hquery with
  | select _ _ _ _ hwhere _ _ => exact hwhere.isRead
  | update _ _ _ _ hwhere => exact hwhere.isRead
  | delete _ _ _ hwhere => exact hwhere.isRead
  | _ => simp [Statement.filter?]

/-! ### Phrases -/

theorem satisfies_overflowsIff (value : Value) (relation : Option Relation) (numbers : List Nat) :
    OverflowsIff (satisfies value relation numbers) value.IsTooLarge := by
  cases value with
  | int n => exact (Value.int n).number_overflowsIff.bind_ok
  | float x => exact (Value.float x).number_overflowsIff.bind_ok
  | text t =>
    unfold satisfies
    simp only
    split
    · exact (Value.text t).number_overflowsIff.bind_ok
    · split <;> exact (overflowsIff_ok _).congr (iff_of_false id nofun)
  | null => exact (overflowsIff_ok false).congr (iff_of_false id nofun)
  | bool _ => exact (overflowsIff_ok false).congr (iff_of_false id nofun)

/-- The fields of a row up to one that is too large, none of those before it satisfying a relation:
the search for one that does comes to it. -/
def ReachesTooLarge (row : Row) (relation : Option Relation) (numbers : List Nat)
    (columns : List Text) : Prop :=
  ∃ before column after, columns = before ++ column :: after ∧ (row.get column).IsTooLarge ∧
    ∀ earlier ∈ before, satisfies (row.get earlier) relation numbers = .ok false

theorem reachesTooLarge_cons {row : Row} {relation : Option Relation} {numbers : List Nat}
    {column : Text} {columns : List Text} :
    ReachesTooLarge row relation numbers (column :: columns) ↔
      (row.get column).IsTooLarge ∨ satisfies (row.get column) relation numbers = .ok false ∧
        ReachesTooLarge row relation numbers columns := by
  constructor
  · rintro ⟨before, found, after, heq, hlarge, hbefore⟩
    cases before with
    | nil =>
      obtain ⟨rfl, rfl⟩ := List.cons.inj heq
      exact Or.inl hlarge
    | cons first before =>
      obtain ⟨rfl, rfl⟩ := List.cons.inj heq
      exact Or.inr ⟨hbefore _ List.mem_cons_self, before, found, after, rfl, hlarge,
        fun earlier h => hbefore earlier (List.mem_cons_of_mem _ h)⟩
  · rintro (hlarge | ⟨hfirst, before, found, after, rfl, hlarge, hbefore⟩)
    · exact ⟨[], column, columns, rfl, hlarge, by simp⟩
    · exact ⟨column :: before, found, after, rfl, hlarge, List.forall_mem_cons.2 ⟨hfirst, hbefore⟩⟩

theorem anyMatches_overflowsIff (row : Row) (relation : Option Relation) (numbers : List Nat)
    (columns : List Text) :
    OverflowsIff (anyMatches row relation numbers columns)
      (ReachesTooLarge row relation numbers columns) := by
  induction columns with
  | nil => exact (overflowsIff_ok _).congr (by simp [ReachesTooLarge])
  | cons column columns ih =>
    refine OverflowsIff.congr ?_ reachesTooLarge_cons.symm
    refine (satisfies_overflowsIff _ relation numbers).bind fun hit hhit => ?_
    cases hit with
    | true => exact (overflowsIff_ok true).congr (by simp [hhit])
    | false => exact ih.congr (by simp [hhit])

theorem keepMatching_overflowsIff (columns : List Text) (relation : Option Relation)
    (numbers : List Nat) (rows : List Row) :
    OverflowsIff (keepMatching columns relation numbers rows)
      (∃ row ∈ rows, ReachesTooLarge row relation numbers columns) := by
  induction rows with
  | nil => exact (overflowsIff_ok _).congr (by simp)
  | cons row rows ih =>
    refine ((anyMatches_overflowsIff row relation numbers columns).bind fun hit _ =>
      ih.bind_ok).congr ?_
    simp

/-- A plan that filters, and whose search for a match comes to a number that is too large. -/
def Plan.Overflows (plan : Plan) (rows : List Row) : Prop :=
  plan.active = true ∧ plan.numbers ≠ [] ∧
    ∃ row ∈ rows, ReachesTooLarge row plan.relation plan.numbers plan.columns

theorem Plan.filter_overflowsIff (plan : Plan) (rows : List Row) :
    OverflowsIff (plan.filter rows) (plan.numbers ≠ [] ∧
      ∃ row ∈ rows, ReachesTooLarge row plan.relation plan.numbers plan.columns) := by
  unfold Plan.filter
  split
  · rename_i hidle
    refine (overflowsIff_ok _).congr (iff_of_false id ?_)
    rintro ⟨hnumbers, row, -, before, column, after, hcolumns, -⟩
    simp [hcolumns, hnumbers] at hidle
  · rename_i hactive
    refine (keepMatching_overflowsIff _ _ _ rows).congr ?_
    simp only [Bool.or_eq_true, List.isEmpty_iff, not_or] at hactive
    simp [hactive.2]

theorem keepMatching_subset {columns : List Text} {relation : Option Relation} {numbers : List Nat}
    {rows kept : List Row} (h : keepMatching columns relation numbers rows = .ok kept) :
    kept ⊆ rows := by
  induction rows generalizing kept with
  | nil =>
    obtain rfl := Except.ok.inj h
    exact List.Subset.refl _
  | cons row rows ih =>
    obtain ⟨hit, -, hrest⟩ := bind_eq_ok.1 h
    obtain ⟨more, hmore, hkept⟩ := bind_eq_ok.1 hrest
    obtain rfl := Except.ok.inj hkept
    split
    · exact List.cons_subset_cons row (ih hmore)
    · exact List.subset_cons_of_subset row (ih hmore)

theorem Plan.filter_subset {plan : Plan} {rows kept : List Row} (h : plan.filter rows = .ok kept) :
    kept ⊆ rows := by
  unfold Plan.filter at h
  split at h
  · obtain rfl := Except.ok.inj h
    exact List.Subset.refl _
  · exact keepMatching_subset h

/-- Rows without overlong integers are ordered without a fault. -/
theorem Plan.exists_order (plan : Plan) {rows : List Row} (hrows : ∀ row ∈ rows, row.IsShort) :
    ∃ sorted, plan.order rows = .ok sorted := by
  unfold Plan.order
  split
  · exact ⟨rows, rfl⟩
  · rename_i column _
    obtain ⟨sorted, hsorted, -⟩ | ⟨e, a, b, -, hpair, herror⟩ := Sorting.sort_cases
      (fun a b => do return (← compareInPhrase (a.get column) (b.get column)) == .lt)
      plan.descending rows
    · exact ⟨sorted, hsorted⟩
    · obtain ⟨ha, hb, -⟩ := Sorting.mem_of_pair hpair
      have hleft := Value.format_of_isStorable (hrows a ha column)
      have hright := Value.format_of_isStorable (hrows b hb column)
      unfold compareInPhrase at herror
      split at herror <;> simp [hleft, hright] at herror

theorem Plan.answer_overflowsIff (plan : Plan) {table : Table}
    (hrows : ∀ row ∈ table.rows, row.IsShort) :
    OverflowsIff (plan.answer table) (plan.Overflows table.rows) := by
  refine OverflowsIff.bind_ok ?_
  unfold Plan.run Plan.Overflows
  split
  · rename_i hactive
    refine ((plan.filter_overflowsIff table.rows).bind (q := False) fun kept hkept => ?_).congr
      (by simp [hactive])
    exact (overflowsIff_of_exists_ok
      (plan.exists_order fun row hrow => hrows row (filter_subset hkept hrow))).bind_ok
  · rename_i hinactive
    exact (overflowsIff_ok _).congr (by simp [hinactive])

/-! ### Grown tables -/

/-- The tables that statements make, one after the other, from a table without rows. -/
inductive Table.IsGrown : Table → Prop
  | empty {table : Table} : table.rows = [] → table.IsGrown
  | step {table later : Table} {ids left : IdSupply} {text : Text} {statement : Statement}
      {result : Result} :
      table.IsGrown → Statement.parse text = .ok statement →
      statement.run table ids = .ok (result, left) → result.table? = some later → later.IsGrown

theorem Table.IsGrown.values_isStorable {table : Table} (h : table.IsGrown) :
    ∀ row ∈ table.rows, ∀ field ∈ row.values.fields, field.2.IsStorable := by
  induction h with
  | empty hrows =>
    rw [hrows]
    exact nofun
  | step _ hparse hrun hlater ih =>
    rcases (Statement.run_eq_ok.1 hrun).2.changes with ⟨hnone, -⟩ | ⟨other, hother, hchanges⟩
    · simp [hlater] at hnone
    · obtain rfl := Option.some.inj (hother.symm.trans hlater)
      intro row hrow field hfield
      rcases hchanges.values row hrow field hfield with hnew | ⟨source, hsource, hold⟩
      · exact Statement.isStorable_of_mem_written (Statement.writesStorable_of_parse hparse) _ hnew
      · exact ih source hsource field hold

/-- No integer of a grown table has more than 4300 digits. Running a statement on it ends in a
result or a query error, and answering a phrase in an answer, unless a comparison by order, an
`ORDER BY` or the search of a phrase comes to an integer that is beyond every double: just then
there is a fault. -/
theorem Table.IsGrown.fault_iff_overflows {table : Table} (h : table.IsGrown) :
    (∀ row ∈ table.rows, ∀ field ∈ row.values.fields, field.2.IsStorable) ∧
    (∀ text statement ids fault, Statement.parse text = .ok statement →
      (statement.run table ids = .error (.fault fault) ↔
        fault = .integerTooLarge ∧ table.isNamed statement.table = true ∧
          statement.Overflows table)) ∧
    ∀ limit phrase fault,
      (Plan.ofPhrase limit phrase table).answer table = .error fault ↔
        fault = .integerTooLarge ∧ (Plan.ofPhrase limit phrase table).Overflows table.rows :=
  have hrows : ∀ row ∈ table.rows, row.IsShort := fun row hrow =>
    Row.isShort_of_fields (h.values_isStorable row hrow)
  ⟨h.values_isStorable,
    fun _ _ _ _ hparse => Statement.run_eq_fault_iff (Statement.isRead_of_parse hparse) hrows,
    fun limit phrase => Plan.answer_overflowsIff (Plan.ofPhrase limit phrase table) hrows⟩

theorem Table.IsGrown.fault_iff_overflows_power_of_ten :
    let large : Text := Point.char '1' :: List.replicate 309 (Point.char '0')
    let insert : Text := "INSERT INTO t (a) VALUES (" ++ large ++ ")"
    let inserted : Statement := .insert ⟨"t", some ["a"], [.int (10 ^ 309)]⟩
    let selected : Statement :=
      .select ⟨"t", ["*"], some (.comparison ⟨"a", .greater, .int 1⟩), none, none⟩
    let ids : IdSupply := .ofSequence uuidText
    let empty : Table := ⟨"1", .scalar (.text "t"), ["a"], []⟩
    let table : Table := { empty with rows := [⟨ids.peek, .ofList [("a", .int (10 ^ 309))]⟩] }
    Statement.parse insert = .ok inserted ∧ table.IsGrown ∧
      Statement.parse "SELECT * FROM t WHERE a > 1" = .ok selected ∧
      selected.run table ids = .error (.fault .integerTooLarge) ∧
      (Plan.ofPhrase 10 "show a greater than 1" table).answer table = .error .integerTooLarge ∧
      ∀ fault, (Plan.ofPhrase 10 "show a" table).answer table ≠ .error fault := by
  intro large insert inserted selected ids empty table
  have hinsert : Statement.parse insert = .ok inserted := by decide +kernel
  have hselect : Statement.parse "SELECT * FROM t WHERE a > 1" = .ok selected := by decide +kernel
  have hrun : inserted.run empty ids = .ok (.inserted table ids.peek, ids.take) := rfl
  have hgrown : table.IsGrown := .step (.empty rfl) hinsert hrun rfl
  have hlarge : Value.IsTooLarge (.int (10 ^ 309)) := ⟨_, rfl, by decide +kernel⟩
  obtain ⟨-, hstatements, hphrases⟩ := Table.IsGrown.fault_iff_overflows hgrown
  refine ⟨hinsert, hgrown, hselect, ?_, ?_, ?_⟩
  · exact (hstatements _ selected ids _ hselect).2 ⟨rfl, by decide, ⟨["a"], by decide⟩,
      Or.inl ⟨_, rfl, _, List.mem_singleton_self _, by decide, Or.inl hlarge⟩⟩
  · exact (hphrases 10 "show a greater than 1" _).2 ⟨rfl, by decide +kernel, by decide +kernel, _,
      List.mem_singleton_self _, [], "a", [], by decide +kernel, hlarge, nofun⟩
  · intro fault hfault
    obtain ⟨-, -, hnumbers, -⟩ := (hphrases 10 "show a" fault).1 hfault
    exact hnumbers (by decide +kernel)

end TableQuery
