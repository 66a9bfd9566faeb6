import Mathlib.Data.List.Infix
import TableQuery.Proofs.Previews
import TableQuery.Proofs.WrittenValues

/-!
# What `LIKE` looks for

A literal after `LIKE` is read as a value before its text is looked for, so that a numeral is looked
for as its number is written.

* `percent_not_mem_written`: a number is written without percent signs.
* `withoutPercents`, `likeNeedle_ofText`: what is looked for.
* `withoutPercents_written_eq_iff`: which texts are looked for as they stand.
* `likeClause`, `clauseFilter_likeClause`: the text of such a condition, and its filter.
* `likeClause_admits_iff`: a row satisfies it if its text contains what is looked for.
-/

namespace TableQuery

open Number Text Grammar

/-! ### Percent signs -/

theorem ne_percent_of_isDecimal {p : Point} (h : isDecimal p = true) : p ≠ '%' := by
  rintro rfl
  exact absurd h (by decide)

theorem ne_percent_of_numeral {t : Text} {numeral : Numeral}
    (h : Numeral.ofText? t = some numeral) : ∀ p ∈ t, p ≠ '%' :=
  Numeral.forall_of_ofText? h (fun _ => ne_percent_of_isDecimal) (by decide)

theorem mem_trim {t : Text} {p : Point} (h : p ∈ t) (hp : isBlank p = false) : p ∈ trim t := by
  have hmem : p ∈ t.dropWhile isBlank := by
    rw [← List.takeWhile_append_dropWhile (p := isBlank) (l := t)] at h
    refine (List.mem_append.1 h).resolve_left fun hblank => ?_
    rw [List.mem_takeWhile_imp hblank] at hp
    exact Bool.noConfusion hp
  rw [← List.rdropWhile_append_rtakeWhile (p := isBlank) (l := t.dropWhile isBlank)] at hmem
  refine (List.mem_append.1 hmem).resolve_right fun hblank => ?_
  rw [List.mem_rtakeWhile_imp hblank] at hp
  exact Bool.noConfusion hp

theorem percent_not_mem_of_isNumeral {t : Text} (h : isNumeral t = true) : Point.char '%' ∉ t := by
  intro hmem
  obtain ⟨numeral, hnumeral⟩ := Option.isSome_iff_exists.1 h
  exact ne_percent_of_numeral hnumeral _ (mem_trim hmem (by decide)) rfl

theorem percent_not_mem_integerText (n : Int) : Point.char '%' ∉ integerText n := by
  intro hmem
  rw [← text_writtenInteger] at hmem
  exact ne_percent_of_numeral (WrittenNumber.ofText?_text (writtenInteger_isProper n)) _ hmem rfl

theorem percent_not_mem_doubleText (x : Double) : Point.char '%' ∉ x.text := by
  cases x with
  | nan => decide
  | infinite negative => cases negative <;> decide
  | finite negative units fits =>
    obtain ⟨number, hproper, -, htext, -⟩ := exists_written_double negative fits
    intro hmem
    rw [← htext] at hmem
    exact ne_percent_of_numeral (WrittenNumber.ofText?_text hproper) _ hmem rfl

theorem percent_not_mem_written {value : Value} (h : value.isNumber = true) :
    Point.char '%' ∉ value.written := by
  cases value with
  | int n => exact percent_not_mem_integerText n
  | float x =>
    rw [Value.written]
    split
    · exact percent_not_mem_integerText _
    · exact percent_not_mem_doubleText x
  | _ => cases h

/-! ### What is looked for -/

/-- A text less its percent signs. -/
def withoutPercents (t : Text) : Text :=
  t.filter (· != .char '%')

theorem withoutPercents_eq_self {t : Text} (h : Point.char '%' ∉ t) : withoutPercents t = t := by
  rw [withoutPercents, List.filter_eq_self]
  intro p hp
  rw [bne_iff_ne]
  rintro rfl
  exact h hp

theorem format_ofText (literal : Text) :
    (Value.ofText literal).format = .ok (Value.ofText literal).written :=
  Value.format_of_isStorable (Value.ofText_isStorable literal)

/-- What is looked for is what the literal is written as when it has been read. -/
theorem likeNeedle_ofText (literal : Text) :
    likeNeedle (.ofText literal) = .ok (withoutPercents (Value.ofText literal).written) := by
  rw [likeNeedle, format_ofText]
  rfl

/-- A literal is looked for as it stands, less its percent signs, if it stands for itself. -/
theorem withoutPercents_written_eq_iff {literal : Text} :
    withoutPercents (Value.ofText literal).written = withoutPercents literal ↔
      IsOwnText literal := by
  by_cases hnumeral : isNumeral literal = true
  · have hwritten := percent_not_mem_written (Value.isNumber_ofText hnumeral)
    have hread := percent_not_mem_of_isNumeral hnumeral
    rw [withoutPercents_eq_self hwritten, withoutPercents_eq_self hread, written_ofText_eq_self_iff]
  · have hown : IsOwnText literal := Or.inl (Bool.eq_false_iff.2 hnumeral)
    exact iff_of_true (by rw [written_ofText_eq_self_iff.2 hown]) hown

/-- Texts that stand in the same texts are the same. -/
theorem eq_of_isInfix_iff {a b : Text} (h : ∀ text : Text, a <:+: text ↔ b <:+: text) : a = b :=
  List.infix_antisymm ((h b).2 List.infix_rfl) ((h a).1 List.infix_rfl)

/-! ### The condition -/

/-- The text of a condition that asks for a literal, as a quoted text, with `LIKE`. -/
def likeClause (column literal : Text) : Text :=
  column ++ " LIKE " ++ spellName literal

section Clause

variable {column name : Text}

theorem reads_likeClause (hcolumn : Spells nameKinds column name) (literal rest : Text) :
    Reads (fun ts => ∃ c o l : Token, ts = [c, o, l] ∧ (c.kind ∈ nameKinds ∧ c.text = name) ∧
      o.kind = .keyword .LIKE ∧ l.kind = .string ∧ l.text = literal)
      (likeClause column literal) rest := by
  obtain ⟨kind, hkind, hreads⟩ := hcolumn
  have hspell : likeClause column literal =
      column ++ Point.char ' ' :: (Keyword.LIKE.name ++ Point.char ' ' :: spellName literal) := by
    simp only [likeClause, List.append_assoc]
    rfl
  have hclause := (hreads _).token (Reads.keyword .LIKE (reads_name literal rest)).blank
  rw [hspell]
  refine hclause.mono ?_
  rintro _ ⟨c, _, rfl, hc, htext, o, _, rfl, ho, position, rfl⟩
  exact ⟨c, o, _, rfl, ⟨hc ▸ hkind, htext⟩, ho, rfl, rfl⟩

theorem isClause_likeClause (hcolumn : Spells nameKinds column name) (literal : Text) :
    IsClause (likeClause column literal) := by
  obtain ⟨c, o, l, htokens, ⟨hc, -⟩, ho, hl, -⟩ := (reads_likeClause hcolumn literal []).tokenize
  intro t ht
  rw [htokens] at ht
  rw [← mem_clauseKinds]
  simp only [List.mem_cons, List.not_mem_nil, or_false] at ht
  rcases ht with rfl | rfl | rfl
  · exact nameKinds_subset hc
  · rw [ho]
    decide
  · rw [hl]
    decide

theorem clauseFilter_likeClause (hcolumn : Spells nameKinds column name) (literal : Text) :
    clauseFilter (likeClause column literal) = .comparison ⟨name, .like, .ofText literal⟩ := by
  have hends : endsSolid (Point.char ' ' :: likeClause column literal) = true :=
    endsSolid_append (endsSolid_spellName literal) (Point.char ' ' :: (column ++ " LIKE "))
  have htail : clauseTail (likeClause column literal) =
      Point.char ' ' :: likeClause column literal := by
    have hcut := rdropWhile_append_of_endsSolid hends []
    rwa [List.append_nil, List.rdropWhile_nil, List.append_nil] at hcut
  obtain ⟨c, o, l, htokens, ⟨hc, hname⟩, ho, hl, hliteral⟩ :=
    (reads_likeClause hcolumn literal []).blank.tokenize
  rw [clauseFilter, htail, htokens, ← hname, ← hliteral]
  refine filterMeaning_iff.1 (.comparison hc ?_ ?_)
  · rw [ho]
    decide
  · rw [hl]
    decide

end Clause

theorem Filter.admits_like {row : Row} {name field : Text} (h : row.get name = .text field)
    (literal : Text) :
    (Filter.comparison ⟨name, .like, .ofText literal⟩).admits row =
      .ok (occursIn (withoutPercents (Value.ofText literal).written) field) := by
  simp only [admits, h, Operator.holds, likeNeedle_ofText]
  rfl

/-- A condition with `LIKE` is the same in every statement. A row whose field holds a text satisfies
it just if that text contains what the literal is written as when it has been read, less percent
signs. So the literal is looked for as it stands just if it is no numeral, or the numeral that its
number is written as. -/
theorem likeClause_admits_iff {column name : Text} (hcolumn : Spells nameKinds column name)
    (literal : Text) :
    let clause := likeClause column literal
    let filter := clauseFilter clause
    (∀ source table : Text, Spells nameKinds source table →
      Statement.parse (selectText source clause) =
        .ok (.select ⟨table, ["*"], some filter, none, none⟩) ∧
      Statement.parse (deleteText source clause) = .ok (.delete ⟨table, some filter⟩) ∧
      ∀ target field value text : Text, Spells nameKinds target field →
        Spells literalKinds value text →
        Statement.parse (updateText source target value clause) =
          .ok (.update ⟨table, [(field, .ofText text)], some filter⟩)) ∧
    (∃ written, (Value.ofText literal).format = .ok written ∧
      ∀ row field, row.get name = .text field → ∃ hit, filter.admits row = .ok hit ∧
        (hit = true ↔ withoutPercents written <:+: field)) ∧
    ((∀ row field, row.get name = .text field →
        (filter.admits row = .ok true ↔ withoutPercents literal <:+: field)) ↔
      IsOwnText literal) := by
  intro clause filter
  have hclause : IsClause clause := isClause_likeClause hcolumn literal
  have hadmits {row : Row} {field : Text} (h : row.get name = .text field) :
      filter.admits row =
        .ok (occursIn (withoutPercents (Value.ofText literal).written) field) := by
    rw [← Filter.admits_like h]
    exact congrArg (Filter.admits · row) (clauseFilter_likeClause hcolumn literal)
  refine ⟨fun source table htable => ⟨parse_selectText htable hclause,
    parse_deleteText htable hclause, fun target field value text htarget hvalue =>
      parse_updateText htable htarget hvalue hclause⟩, ?_, ?_⟩
  · exact ⟨_, format_ofText literal, fun row field h => ⟨_, hadmits h, occursIn_iff _ _⟩⟩
  · have hiff {row : Row} {field : Text} (h : row.get name = .text field) :
        filter.admits row = .ok true ↔
          withoutPercents (Value.ofText literal).written <:+: field := by
      rw [hadmits h, Except.ok.injEq, occursIn_iff]
    rw [← withoutPercents_written_eq_iff]
    constructor
    · intro hall
      refine eq_of_isInfix_iff fun field => ?_
      -- a row with just this field
      have hrow : Row.get ⟨"", .ofList [(name, .text field)]⟩ name = .text field := by
        simp [Row.get, Record.ofList, Record.get?, Record.merge, Record.set, Record.empty,
          Fields.insert, Fields.lookup]
      rw [← hiff hrow, hall _ _ hrow]
    · intro hsame row field h
      rw [hiff h, hsame]

theorem likeClause_admits_iff_percent :
    let row : Row := ⟨"1", .ofList [("a", .text "a1005")]⟩
    Spells nameKinds "\"a\"" "a" ∧ IsOwnText "100%" ∧
      (clauseFilter (likeClause "\"a\"" "100%")).admits row = .ok true := by
  intro row
  have hcolumn : Spells nameKinds "\"a\"" "a" := spells_spellName "a"
  have hown : IsOwnText "100%" := Or.inl (by decide)
  obtain ⟨-, -, hadmits⟩ := likeClause_admits_iff hcolumn "100%"
  exact ⟨hcolumn, hown, ((hadmits.2 hown) row "a1005" rfl).2 (by decide)⟩

/-- A literal with leading zeros is looked for without them. -/
theorem likeClause_leadingZeros :
    let row : Row := ⟨"1", .ofList [("a", .text "7")]⟩
    let filter : Filter := .comparison ⟨"a", .like, .int 7⟩
    Statement.parse (selectText "t" (likeClause "\"a\"" "007")) =
        .ok (.select ⟨"t", ["*"], some filter, none, none⟩) ∧
      row.get "a" = .text "7" ∧ filter.admits row = .ok true ∧
      ¬withoutPercents "007" <:+: ("7" : Text) := by
  decide +kernel

end TableQuery
