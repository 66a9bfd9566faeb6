import TableQuery.Proofs.BuiltQueries
import TableQuery.Proofs.OverlongValues
import TableQuery.Proofs.Rounding
import TableQuery.Proofs.StorableStatements

/-!
# Finding a stored text again

An `INSERT` keeps a quoted text as it is, and a comparison reads the same text as a number if it is
numeric.

* `IsDoubleInteger`: the integers that a double holds exactly.
* `Double.extended?_ofDecimal_eq_iff`: just these are not changed by rounding.
* `Value.looselyEqual_ofText_iff`: which texts equal the value that is read from them.
* `Table.finds_stored_text_iff`: which texts are found again.
-/

namespace TableQuery

open Number Text Grammar

/-! ### Integers and doubles -/

namespace Number

/-- An integer that a double holds exactly. -/
def IsDoubleInteger (n : Int) : Prop :=
  ∃ x : Double, x.extended? = some (.ofInt n)

namespace Double

theorem natAbs_signed (negative : Bool) (units : Nat) : (signed negative units).natAbs = units := by
  cases negative <;> simp [signed]

theorem signed_mul (negative : Bool) (units factor : Nat) :
    signed negative (units * factor) = signed negative units * factor := by
  cases negative <;> simp [signed]

theorem extended?_ofQuotient (negative : Bool) (num den : Nat) :
    (ofQuotient negative num den).extended?.isSome = true := by
  unfold ofQuotient
  split <;> rfl

/-- A decimal numeral is never read as a NaN. -/
theorem extended?_ofDecimal (negative : Bool) (digits : Nat) (exponent : Int) :
    (ofDecimal negative digits exponent).extended?.isSome = true := by
  unfold ofDecimal
  split
  · split
    · exact extended?_ofQuotient _ _ _
    · split
      · rfl
      · exact extended?_ofQuotient _ _ _
  · dsimp only
    split <;> exact extended?_ofQuotient _ _ _

theorem ofDecimal_zero (negative : Bool) (digits : Nat) :
    ofDecimal negative digits 0 = ofQuotient negative (digits * one) 1 := by
  show (if digits = 0 then _ else if 400 ≤ 0 then _ else _) = _
  split
  · rename_i hzero
    rw [hzero, Nat.zero_mul]
  · rw [if_neg (by decide), Nat.pow_zero, Nat.mul_one]

theorem signed_natAbs (n : Int) : signed (decide (n < 0)) n.natAbs = n := by
  by_cases hn : n < 0
  · rw [signed, decide_eq_true hn, if_pos rfl]
    omega
  · rw [signed, decide_eq_false hn, if_neg Bool.false_ne_true]
    omega

/-- An integer is a double just if its magnitude has few enough significant bits. -/
theorem isDoubleInteger_iff {n : Int} : IsDoubleInteger n ↔ Fits (n.natAbs * one) := by
  constructor
  · rintro ⟨x, hx⟩
    cases x with
    | nan => simp [extended?] at hx
    | infinite negative => cases negative <;> simp [extended?, Extended.ofInt] at hx
    | finite negative units fits =>
      have hvalue : signed negative units = n * one := by simpa [extended?, Extended.ofInt] using hx
      have hunits : units = n.natAbs * one := by
        rw [← natAbs_signed negative units, hvalue, Int.natAbs_mul, Int.natAbs_natCast]
      exact hunits ▸ fits
  · intro hfits
    refine ⟨.finite (decide (n < 0)) _ hfits, ?_⟩
    rw [extended?, signed_mul, signed_natAbs]
    rfl

theorem isDoubleInteger_of_natAbs_le {n : Int} (h : n.natAbs ≤ 2 ^ 53) : IsDoubleInteger n := by
  have hlarge : 2 ^ 53 * one < tooLarge := by
    rw [one, tooLarge, ← Nat.pow_add]
    exact Nat.pow_lt_pow_right (by decide) (by unfold places topPlace; decide)
  exact isDoubleInteger_iff.2
    ⟨⟨n.natAbs, places, h, rfl⟩, Nat.lt_of_le_of_lt (Nat.mul_le_mul_right _ h) hlarge⟩

theorem ofInt?_of_isDoubleInteger {n : Int} (h : IsDoubleInteger n) :
    ∃ x, ofInt? n = some x ∧ x.extended? = some (.ofInt n) := by
  have hfits := isDoubleInteger_iff.1 h
  refine ⟨.finite (decide (n < 0)) _ hfits, ?_, ?_⟩
  · rw [ofInt?, ofQuotient_eq _ hfits (nearest_of_fits hfits)]
    rfl
  · rw [extended?, signed_mul, signed_natAbs]
    rfl

/-- Rounding changes an integer just if no double holds it. -/
theorem extended?_ofDecimal_eq_iff (negative : Bool) (digits : Nat) :
    (ofDecimal negative digits 0).extended? = some (.ofInt (signed negative digits)) ↔
      IsDoubleInteger (signed negative digits) := by
  constructor
  · exact fun h => ⟨_, h⟩
  · rw [isDoubleInteger_iff, natAbs_signed]
    intro hfits
    rw [ofDecimal_zero, ofQuotient_eq negative hfits (nearest_of_fits hfits), extended?, signed_mul]
    rfl

end Double

theorem Extended.lt_ofInt (a b : Int) :
    (Extended.ofInt a).lt (.ofInt b) = decide (a < b) := by
  have hone : (0 : Int) < one := Int.natCast_pos.2 (Nat.two_pow_pos places)
  exact decide_eq_decide.2 (Int.mul_lt_mul_right hone)

theorem Extended.beq_ofInt (a b : Int) :
    (Extended.ofInt a == .ofInt b) = decide (a = b) := by
  have hone : (one : Int) ≠ 0 := (Int.natCast_pos.2 (Nat.two_pow_pos places)).ne'
  rw [Bool.eq_iff_iff, beq_iff_eq, decide_eq_true_iff, Extended.ofInt, Extended.ofInt,
    Extended.finite.injEq]
  exact Int.mul_eq_mul_right_iff hone

theorem Numeral.extended?_toDouble (numeral : Numeral) :
    numeral.toDouble.extended?.isSome = true :=
  Double.extended?_ofDecimal _ _ _

/-- The double nearest to an integer numeral is that integer just if a double holds it. -/
theorem Numeral.extended?_toDouble_eq_iff {numeral : Numeral} {n : Int}
    (h : numeral.toInt? = some n) :
    numeral.toDouble.extended? = some (.ofInt n) ↔ IsDoubleInteger n := by
  obtain ⟨negative, whole, fraction, exponent⟩ := numeral
  unfold Numeral.toInt? at h
  split at h
  · rename_i hplain
    simp only [Bool.and_eq_true, Option.isNone_iff_eq_none, decide_eq_true_eq] at hplain
    obtain ⟨⟨rfl, rfl⟩, -⟩ := hplain
    obtain rfl := Option.some.inj h
    have hdouble : Numeral.toDouble ⟨negative, whole, none, none⟩ =
        .ofDecimal negative (positional whole) 0 := by
      simp [Numeral.toDouble]
    rw [hdouble]
    exact Double.extended?_ofDecimal_eq_iff negative (positional whole)
  · simp at h

end Number

theorem Value.number_of_isDoubleInteger {n : Int} (h : IsDoubleInteger n) :
    ∃ x, (Value.int n).number = .ok x ∧ x.extended? = some (.ofInt n) := by
  obtain ⟨x, hx, hplace⟩ := Double.ofInt?_of_isDoubleInteger h
  have hdouble : (Value.int n).toDouble? = some x := by rw [toDouble?, hx]
  exact ⟨x, by rw [number, hdouble], hplace⟩

/-! ### Texts and the values read from them -/

theorem sameNumber_eq_true_iff {a : Option Extended} {b : Extended} :
    sameNumber a (some b) = true ↔ a = some b := by
  cases a <;> simp [sameNumber]

theorem sameNumber_self {a : Option Extended} (h : a.isSome = true) : sameNumber a a = true := by
  obtain ⟨number, rfl⟩ := Option.isSome_iff_exists.1 h
  exact sameNumber_eq_true_iff.2 rfl

/-- A text equals the value that is read from it, unless this is an integer that no double
holds. -/
theorem Value.looselyEqual_ofText_iff (t : Text) :
    (Value.text t).looselyEqual (.ofText t) = .ok true ↔
      ∀ n, Value.ofText t = .int n → IsDoubleInteger n := by
  cases hnumeral : numeral? t with
  | none =>
    have htext : Value.ofText t = .text t := by simp [ofText, hnumeral]
    rw [htext]
    simp [looselyEqual, isNumber, numericText?, hnumeral, format, isOverlong]
  | some numeral =>
    have hdouble : numericText? (.text t) = some numeral.toDouble := by
      simp [numericText?, hnumeral]
    cases hint : numeral.toInt? with
    | none =>
      have htext : Value.ofText t = .float numeral.toDouble := by simp [ofText, hnumeral, hint]
      rw [htext]
      simpa [looselyEqual, isNumber, hdouble, place?] using
        sameNumber_self numeral.extended?_toDouble
    | some n =>
      have htext : Value.ofText t = .int n := by simp [ofText, hnumeral, hint]
      rw [htext]
      simp only [int.injEq, forall_eq', ← Numeral.extended?_toDouble_eq_iff hint]
      rw [← sameNumber_eq_true_iff]
      simp [looselyEqual, isNumber, hdouble, place?]

theorem Value.isNumber_ofText {t : Text} (h : isNumeral t = true) :
    (Value.ofText t).isNumber = true := by
  obtain ⟨numeral, hnumeral⟩ := Option.isSome_iff_exists.1 h
  rw [Value.ofText, hnumeral]
  simp only
  split <;> rfl

theorem Value.ofText_of_isNumeral_eq_false {t : Text} (h : isNumeral t = false) :
    Value.ofText t = .text t := by
  have hnumeral : numeral? t = none := by simpa [isNumeral] using h
  rw [Value.ofText, hnumeral]

/-- A field cannot be compared with a literal if it is an overlong integer, and the literal no
numeral. -/
theorem Value.looselyEqual_ofText_eq_error {field : Value} {t : Text} {fault : Fault} :
    field.looselyEqual (.ofText t) = .error fault ↔
      fault = .integerOverlong ∧ ¬field.IsStorable ∧ isNumeral t = false := by
  by_cases hfield : field.IsStorable
  · obtain ⟨equal, hequal⟩ := exists_looselyEqual hfield (ofText_isStorable t)
    simp [hequal, hfield]
  · obtain ⟨n, rfl, -⟩ := not_isStorable_iff.1 hfield
    cases ht : isNumeral t with
    | false =>
      rw [ofText_of_isNumeral_eq_false ht, looselyEqual_text_eq_error hfield ht]
      simp [hfield, eq_comm]
    | true =>
      obtain ⟨equal, hequal⟩ := exists_looselyEqual_int (n := n) (isNumber_ofText ht)
      simp [hequal]

/-! ### Storing and finding -/

/-- The query that stores a text in a column. -/
def storingText (table column text : Text) : Text :=
  "INSERT INTO " ++ spellName table ++ " (" ++ spellName column ++ ") VALUES (" ++
    spellName text ++ ")"

/-- The query for the rows that have a text in a column. -/
def findingText (table column text : Text) : Text :=
  "SELECT * FROM " ++ spellName table ++ " WHERE " ++ spellName column ++ " = " ++ spellName text

theorem parse_storingText (table column text : Text) :
    Statement.parse (storingText table column text) =
      .ok (.insert ⟨table, some [column], [.text text]⟩) := by
  have hspell : storingText table column text =
      Keyword.INSERT.name ++ Point.char ' ' :: (Keyword.INTO.name ++ Point.char ' ' ::
        (spellName table ++ Point.char ' ' :: (("(" ++ spellName column ++ ")") ++
          Point.char ' ' :: (Keyword.VALUES.name ++ Point.char ' ' ::
            ("(" ++ spellName text ++ ")"))))) := by
    simp only [storingText, List.append_assoc]
    rfl
  have hvalue (rest : Text) :
      Reads (Sequence InsertedValue · [.text text]) (spellName text) rest := by
    refine (reads_name text rest).mono ?_
    rintro _ ⟨position, rfl⟩
    exact .single (.text (by simp [nameKinds]))
  have hname (rest : Text) : Reads (Sequence Name · [column]) (spellName column) rest :=
    (reads_phrase column rest).mono fun _ h => .single h
  have hvalues : Reads (Parenthesized InsertedValue · [.text text])
      ("(" ++ spellName text ++ ")") [] :=
    reads_parenthesized (hvalue _)
  have hbody := (reads_parenthesized (hname _)).append (Reads.keyword .VALUES hvalues).blank
  have hinto := Reads.keyword .INTO (Reads.name table hbody.blank)
  have hreads : Reads (Query · (.insert ⟨table, some [column], [.text text]⟩))
      (storingText table column text) [] := by
    rw [hspell]
    refine (Reads.keyword .INSERT hinto).mono ?_
    rintro _ ⟨first, _, rfl, hfirst, into, _, rfl, hinto, ns, _, rfl, hns, cs, _, rfl, hcs, values,
      vs, rfl, hvalues, hvs⟩
    simpa using Query.insertColumns hfirst hinto hns hcs hvalues hvs
  exact Statement.parse_of_reads hreads rfl (endsSolid_append (by decide) _)

theorem parse_findingText (table column text : Text) :
    Statement.parse (findingText table column text) =
      .ok (.select ⟨table, ["*"], some (.comparison ⟨column, .equal, .ofText text⟩), none,
        none⟩) := by
  have hspell : findingText table column text =
      Keyword.SELECT.name ++ Point.char ' ' :: ("*" ++ Point.char ' ' ::
        (Keyword.FROM.name ++ Point.char ' ' :: (spellName table ++ Point.char ' ' ::
          (Keyword.WHERE.name ++ Point.char ' ' :: (spellName column ++ Point.char ' ' ::
            ("=" ++ Point.char ' ' :: spellName text)))))) := by
    simp only [findingText, List.append_assoc]
    rfl
  have hcomparison := Reads.name column ((reads_equal _).token (reads_name text []).blank).blank
  have hfrom := Reads.keyword .FROM (Reads.name table (Reads.keyword .WHERE hcomparison).blank)
  have hreads : Reads (Query · (.select ⟨table, ["*"],
      some (.comparison ⟨column, .equal, .ofText text⟩), none, none⟩))
      (findingText table column text) [] := by
    rw [hspell]
    refine (Reads.keyword .SELECT ((reads_star _).token hfrom.blank)).mono ?_
    rintro _ ⟨first, _, rfl, hfirst, star, _, rfl, hstar, htext, from_, _, rfl, hfrom, ns, _, rfl,
      hns, w, _, rfl, hw, cs, _, rfl, hcs, sign, _, rfl, hsign, -, position, rfl⟩
    obtain ⟨c, rfl, hc⟩ := name_iff.1 hcs
    obtain ⟨hkind, hcolumn⟩ := nameOf?_eq_some.1 hc
    have hoperator : (sign.kind, Operator.equal) ∈ operators := by simp [operators, hsign]
    have hliteral : (⟨.string, text, position⟩ : Token).kind ∈ literalKinds := by
      simp [literalKinds]
    have hclause := whereClause_comparison hw hkind hoperator hliteral
    have hcolumns : Sequence SelectItem [star] ["*"] := htext ▸ .single (.star hstar)
    rw [← hcolumn]
    simpa using Query.select hfirst hcolumns hfrom hns hclause .none .none
  exact Statement.parse_of_reads hreads rfl (endsSolid_append (endsSolid_spellName _) _)

theorem Row.get_ofList (id column : Text) (value : Value) :
    (⟨id, .ofList [(column, value)]⟩ : Row).get column = value := by
  simp [Row.get, Record.ofList, Record.merge, Record.get?_set]

theorem Statement.run_storing {table : Table} {name column : Text}
    (hname : table.isNamed name = true) (hcolumn : column ∈ table.columns) (value : Value)
    (ids : IdSupply) :
    (Statement.insert ⟨name, some [column], [value]⟩).run table ids =
      .ok (.inserted { table with
        rows := table.rows ++ [⟨ids.peek, .ofList [(column, value)]⟩] } ids.peek, ids.take) := by
  have hcolumns : Insertion.writtenColumns ⟨name, some [column], [value]⟩ table = .ok [column] := by
    simp [Insertion.writtenColumns, hcolumn]
  refine Statement.run_eq_ok.2 ⟨hname, ?_⟩
  show Insertion.run _ table ids = _
  rw [Insertion.run, hcolumns]
  rfl

/-- A text that is stored in a column of a table by one query is looked for by another one. This one
runs without a failure unless it asks for a text that is no numeral, and the column held an overlong
integer before. The row that was added satisfies its condition, unless the text is the numeral of an
integer that no double holds. -/
theorem Table.finds_stored_text_iff {table : Table} {name column : Text}
    (hname : table.isNamed name = true) (hcolumn : column ∈ table.columns) (text : Text)
    (ids : IdSupply) :
    let row : Row := ⟨ids.peek, .ofList [(column, .text text)]⟩
    let later : Table := { table with rows := table.rows ++ [row] }
    let finds (row : Row) : Bool := decide ((row.get column).looselyEqual (.ofText text) = .ok true)
    let fails : Prop :=
      isNumeral text = false ∧ ∃ old ∈ table.rows, ¬(old.get column).IsStorable
    ∃ insertion selection,
      Statement.parse (storingText name column text) = .ok insertion ∧
      insertion.run table ids = .ok (.inserted later ids.peek, ids.take) ∧
      Statement.parse (findingText name column text) = .ok selection ∧
      (fails → selection.run later ids.take = .error (.fault .integerOverlong)) ∧
      (¬fails → selection.run later ids.take =
        .ok (.selected table.columns (projection (later.rows.filter finds) table.columns),
          ids.take)) ∧
      (finds row = true ↔ ∀ n, Value.ofText text = .int n → IsDoubleInteger n) := by
  intro row later finds fails
  let filter : Filter := .comparison ⟨column, .equal, .ofText text⟩
  have hrow : row.get column = .text text := Row.get_ofList _ _ _
  have hnamed : later.isNamed name = true := hname
  have hadmits (row : Row) :
      filter.admits row = (row.get column).looselyEqual (.ofText text) := rfl
  have hfault (row : Row) (f : Fault) (h : filter.admits row = .error f) :
      f = .integerOverlong ∧ ¬(row.get column).IsStorable ∧ isNumeral text = false :=
    Value.looselyEqual_ofText_eq_error.1 ((hadmits row).symm.trans h)
  refine ⟨_, _, parse_storingText name column text, Statement.run_storing hname hcolumn _ ids,
    parse_findingText name column text, fun hfails => ?_, fun hnot => ?_, ?_⟩
  · obtain ⟨htext, old, hold, hlong⟩ := hfails
    have hmeets : filter.admits old = .error .integerOverlong :=
      Value.looselyEqual_ofText_eq_error.2 ⟨rfl, hlong, htext⟩
    have hselect : filter.select later.rows = .error .integerOverlong :=
      Filter.select_eq_error ⟨old, List.mem_append_left _ hold, hmeets⟩
        fun row _ f h => (hfault row f h).1
    rw [Statement.run, if_neg (by simp [Statement.table, hnamed]),
      Selection.run_of_fault name hselect]
    rfl
  · refine Statement.run_eq_ok.2 ⟨hnamed, Selection.run_of_admits name fun other hother => ?_, rfl⟩
    show filter.admits other = .ok (finds other)
    cases hequal : filter.admits other with
    | ok equal => cases equal <;> simp [finds, ← hadmits, hequal]
    | error f =>
      -- the row that was added holds a text, so that it makes nothing fail
      obtain ⟨-, hlong, htext⟩ := hfault other f hequal
      refine absurd ⟨htext, other, ?_, hlong⟩ hnot
      refine (List.mem_append.1 hother).resolve_right fun hlast => hlong ?_
      rw [List.mem_singleton.1 hlast, hrow]
      trivial
  · rw [decide_eq_true_iff, hrow]
    exact Value.looselyEqual_ofText_iff text

theorem Table.finds_stored_text_long_numeral :
    let table : Table := ⟨"1", .scalar (.text "t"), ["a"], []⟩
    let ids : IdSupply := .ofSequence uuidText
    let row : Row := ⟨ids.peek, .ofList [("a", .text "9007199254740993")]⟩
    let later : Table := { table with rows := [row] }
    table.isNamed "t" = true ∧ ofString "a" ∈ table.columns ∧ ∃ insertion selection,
      Statement.parse "INSERT INTO \"t\" (\"a\") VALUES (\"9007199254740993\")" = .ok insertion ∧
      insertion.run table ids = .ok (.inserted later ids.peek, ids.take) ∧
      Statement.parse "SELECT * FROM \"t\" WHERE \"a\" = \"9007199254740993\"" = .ok selection ∧
      selection.run later ids.take = .ok (.selected ["a"] [], ids.take) ∧
      ¬IsDoubleInteger 9007199254740993 := by
  intro table ids row later
  have hname : table.isNamed "t" = true := by decide
  have hcolumn : ofString "a" ∈ table.columns := List.mem_singleton.2 rfl
  obtain ⟨insertion, selection, hinsertion, hinsert, hselection, -, hselect, hiff⟩ :=
    Table.finds_stored_text_iff hname hcolumn "9007199254740993" ids
  have hrow : row.get "a" = .text "9007199254740993" := Row.get_ofList _ _ _
  have hmissed : decide ((row.get "a").looselyEqual (.ofText "9007199254740993") = .ok true) =
      false := by
    rw [hrow]
    decide +kernel
  have hvalue : Value.ofText "9007199254740993" = .int 9007199254740993 := by decide +kernel
  refine ⟨hname, hcolumn, insertion, selection, hinsertion, hinsert, hselection, ?_, ?_⟩
  · refine (hselect fun hfails => absurd hfails.1 (by decide)).trans ?_
    show Except.ok (Result.selected ["a"] (projection ([row].filter _) _), ids.take) = _
    rw [List.filter_cons_of_neg (by simp only [hmissed, Bool.false_eq_true, not_false_iff])]
    rfl
  · intro hdouble
    have hfound := hiff.2 fun n hn => Value.int.inj (hvalue.symm.trans hn) ▸ hdouble
    exact Bool.false_ne_true (hmissed.symm.trans hfound)

end TableQuery
