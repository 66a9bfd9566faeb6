import TableQuery.Proofs.BuiltQueries
import TableQuery.Proofs.Scripts

/-!
# Scripts of built queries

A script is split without a look at its tokens. Built queries come out of it as they went in, since
everything in them that could cut a script stands between quotes.

* `IsWhole`: texts that no script around them cuts, closed under `joinWith`.
* `isWhole_spellName`, `isWhole_spellLiteral`: spelled names and literals are whole.
* `IsScriptStatement`: texts that a script gives back as they are.
* `Form.isScriptStatement_text`: built queries are such texts.
* `keptText_joinWith_cuts`, `keptText_joinWith_lines`: no line of their scripts is a comment.
* `nonblank_statementParts`: cutting at semicolons finds the statements again.
* `scriptStatements_joinWith_built`: built queries are the statements of their script.
-/

namespace TableQuery

open Number Text

/-! ### Texts that are not cut -/

instance (text : Text) : Decidable (OnOneLine text) :=
  inferInstanceAs (Decidable (∀ p ∈ text, _))

/-- A text without a line break that closes its quotes and has no semicolon outside them. -/
structure IsWhole (text : Text) : Prop where
  quiet : IsQuiet text
  line : OnOneLine text

instance (text : Text) : Decidable (IsWhole text) :=
  decidable_of_iff (IsQuiet text ∧ OnOneLine text) ⟨fun h => ⟨h.1, h.2⟩, fun h => ⟨h.1, h.2⟩⟩

theorem IsQuiet.append {a b : Text} (ha : IsQuiet a) (hb : IsQuiet b) : IsQuiet (a ++ b) := by
  rw [IsQuiet, QuoteState.after?_append, ha]
  exact hb

namespace IsWhole

theorem append {a b : Text} (ha : IsWhole a) (hb : IsWhole b) : IsWhole (a ++ b) :=
  ⟨ha.quiet.append hb.quiet, onOneLine_append ha.line hb.line⟩

theorem joinWith {separator : Text} (hseparator : IsWhole separator) {texts : List Text}
    (h : ∀ t ∈ texts, IsWhole t) : IsWhole (joinWith separator texts) :=
  joinWith_induction (by decide) (fun _ _ ha hb => ha.append hb) hseparator h

end IsWhole

/-! ### Spelled names and literals -/

theorem closes_escaped (name : Text) :
    Closes '"' (name.flatMap escapePoint ++ [.char '"']) name := by
  induction name with
  | nil => exact .close
  | cons p name ih =>
    rw [List.flatMap_cons, List.append_assoc]
    by_cases hescape : p = '"' ∨ p = '\\'
    · have hpoint : escapePoint p = [Point.char '\\', p] := by simp [escapePoint, hescape]
      have hfeed : p ≠ '\n' := by rcases hescape with rfl | rfl <;> decide
      rw [hpoint]
      exact .kept hfeed ih
    · obtain ⟨hquote, hslash⟩ := not_or.1 hescape
      have hpoint : escapePoint p = [p] := by simp [escapePoint, hquote, hslash]
      rw [hpoint]
      exact .plain hquote hslash ih

/-- Whatever a name has in it stands between the quotes around it. -/
theorem isWhole_spellName {name : Text} (h : OnOneLine name) : IsWhole (spellName name) := by
  refine ⟨(closes_escaped name).after? (by decide), ?_⟩
  have hname : OnOneLine (name.flatMap escapePoint) := by
    intro q hq
    obtain ⟨p, hp, hq⟩ := List.mem_flatMap.1 hq
    have hcases : q = '\\' ∨ q = p := by
      unfold escapePoint at hq
      split at hq <;> simp_all
    rcases hcases with rfl | rfl
    · rfl
    · exact h q hp
  exact onOneLine_append (onOneLine_append (by decide) hname) (by decide)

theorem isWhole_of_inRun {run : Text} (h : ∀ p ∈ run, inRun p = true) : IsWhole run := by
  refine ⟨isQuiet_of_kind (by decide) h, ?_⟩
  exact onOneLine_of_solid fun p hp => isBlank_of_inRun (h p hp)

theorem isWhole_spellLiteral {value : Text} (h : OnOneLine value) :
    IsWhole (spellLiteral value) := by
  unfold spellLiteral
  split
  · rename_i hnumeral
    obtain ⟨numeral, hsome⟩ := Option.isSome_iff_exists.1 hnumeral
    exact isWhole_of_inRun (inRun_of_numeral hsome)
  · exact isWhole_spellName h

theorem isDigit_of_isLineBreak {p : Point} (h : isLineBreak p = true) : isDigit p = false := by
  have hbreaks : ∀ n ∈ [0xA, 0xB, 0xC, 0xD, 0x1C, 0x1D, 0x1E, 0x85, 0x2028, 0x2029],
      ((digitFrom zeroDigits n).isSome || within digitSigns n) = false := by decide
  refine hbreaks p.value ?_
  simp only [isLineBreak, Bool.or_eq_true, Bool.and_eq_true, decide_eq_true_eq, beq_iff_eq] at h
  simp only [List.mem_cons, List.not_mem_nil, or_false]
  omega

theorem isWhole_of_isAllDigits {t : Text} (h : isAllDigits t = true) : IsWhole t := by
  have hdigits : ∀ p ∈ t, isDigit p = true := by
    simp only [isAllDigits, Bool.and_eq_true, List.all_eq_true] at h
    exact h.2
  refine ⟨isQuiet_of_kind (by decide) hdigits, fun p hp => ?_⟩
  rw [Bool.eq_false_iff]
  intro hbreak
  simpa [hdigits p hp] using isDigit_of_isLineBreak hbreak

/-! ### Built queries -/

/-- The first code point of a text is there and neither a blank nor a dash. -/
def StartsWord (t : Text) : Prop :=
  ∃ p ∈ t.head?, isBlank p = false ∧ p ≠ '-'

theorem StartsWord.append {a : Text} (h : StartsWord a) (b : Text) : StartsWord (a ++ b) := by
  obtain ⟨p, hp, hword⟩ := h
  obtain ⟨rest, rfl⟩ := List.head?_eq_some_iff.1 hp
  exact ⟨p, rfl, hword⟩

theorem StartsWord.joinWith {text : Text} (h : StartsWord text) (texts : List Text) :
    StartsWord (joinWith " " (text :: texts)) := by
  rw [joinWith_blank]
  exact h.append _

/-- A text that a script gives back as it is: nothing cuts it or is dropped from it. -/
structure IsScriptStatement (text : Text) : Prop extends IsWhole text where
  starts : StartsWord text
  ends : endsSolid text = true

namespace Form

variable (form : Form)

/-- The names and the values of a form. -/
def entries : List Text :=
  [form.tableName, form.whereColumn, form.whereValue, form.orderByColumn, form.newTableName,
    form.newColumnName, form.columnToDrop] ++ form.selectedColumns ++
    form.setValues.map Prod.fst ++ form.setValues.map Prod.snd

/-- A form with one of the operators of a comparison and with no line break in its names and
values. -/
structure FitsLine : Prop where
  operator : form.whereOperator ∈ comparisonSymbols
  entries : ∀ entry ∈ form.entries, OnOneLine entry

instance : Decidable form.FitsLine :=
  decidable_of_iff
    (comparisonSymbols.contains form.whereOperator = true ∧
      ∀ entry ∈ form.entries, OnOneLine entry)
    ⟨fun h => ⟨List.contains_iff_mem.1 h.1, h.2⟩,
      fun h => ⟨List.contains_iff_mem.2 h.operator, h.entries⟩⟩

namespace FitsLine

variable {form}

theorem name (h : form.FitsLine) {name : Text} (hname : name ∈ form.entries) :
    IsWhole (spellName name) :=
  isWhole_spellName (h.entries name hname)

theorem nameList (h : form.FitsLine) : IsWhole (nameList form.selectedColumns) := by
  refine .joinWith (by decide) fun t ht => ?_
  obtain ⟨column, hcolumn, rfl⟩ := List.mem_map.1 ht
  exact h.name (by simp [Form.entries, hcolumn])

theorem setValue (h : form.FitsLine) {entry : Text × Text} (hentry : entry ∈ form.setValues) :
    IsWhole (spellName entry.1) ∧ IsWhole (spellLiteral entry.2) := by
  constructor
  · refine h.name (List.mem_append_left _ (List.mem_append_right _ ?_))
    exact List.mem_map_of_mem hentry
  · refine isWhole_spellLiteral (h.entries _ (List.mem_append_right _ ?_))
    exact List.mem_map_of_mem hentry

theorem assignmentList (h : form.FitsLine) : IsWhole form.assignmentList := by
  refine .joinWith (by decide) fun t ht => ?_
  obtain ⟨entry, hentry, rfl⟩ := List.mem_map.1 ht
  obtain ⟨hname, hliteral⟩ := h.setValue hentry
  exact (hname.append (by decide)).append hliteral

theorem insertedLiteral (h : form.FitsLine) (column : Text) :
    IsWhole (form.insertedLiteral column) := by
  unfold Form.insertedLiteral
  split
  · rename_i value hfind
    exact (h.setValue (List.mem_of_find?_eq_some hfind)).2
  · decide

theorem clauses (h : form.FitsLine) {t : Text}
    (ht : t ∈ form.whereClause ++ form.orderClause ++ form.limitClause) : IsWhole t := by
  simp only [List.mem_append] at ht
  rcases ht with (ht | ht) | ht
  · unfold whereClause at ht
    split at ht
    · simp at ht
    · have hoperator : IsWhole form.whereOperator :=
        (by decide : ∀ symbol ∈ comparisonSymbols, IsWhole symbol) _ h.operator
      have hcolumn : IsWhole (spellName form.whereColumn) := h.name (by simp [Form.entries])
      have hliteral : IsWhole (spellLiteral form.whereValue) :=
        isWhole_spellLiteral (h.entries _ (by simp [Form.entries]))
      rw [List.mem_singleton.1 ht]
      exact ((((IsWhole.append (by decide) hcolumn).append (by decide)).append hoperator).append
        (by decide)).append hliteral
  · unfold orderClause at ht
    split at ht
    · simp at ht
    · rw [List.mem_singleton.1 ht]
      refine ((IsWhole.append (by decide) (h.name (by simp [Form.entries]))).append
        (by decide)).append ?_
      split <;> decide
  · unfold limitClause at ht
    split at ht
    · rename_i hdigits
      rw [List.mem_singleton.1 ht]
      exact IsWhole.append (by decide) (isWhole_of_isAllDigits hdigits)
    · simp at ht

theorem joinWith_clauses (h : form.FitsLine) {front clauses : List Text}
    (hfront : ∀ t ∈ front, IsWhole t)
    (hsub : clauses ⊆ form.whereClause ++ form.orderClause ++ form.limitClause) :
    IsWhole (joinWith " " (front ++ clauses)) :=
  .joinWith (by decide) (List.forall_mem_append.2 ⟨hfront, fun _ ht => h.clauses (hsub ht)⟩)

end FitsLine

/-- A text with clauses after it. -/
theorem endsSolid_clauses {last : Text} (hlast : endsSolid last = true) (front : List Text)
    {clauses : List Text}
    (hsub : clauses ⊆ form.whereClause ++ form.orderClause ++ form.limitClause) :
    endsSolid (joinWith " " (front ++ last :: clauses)) = true := by
  refine endsSolid_joinWith front (by simp) (List.forall_mem_cons.2 ⟨hlast, fun t ht => ?_⟩)
  exact form.endsSolid_of_mem_clauses (hsub ht)

/-- No built query ends in a blank. -/
theorem endsSolid_text {text : Text} (htext : form.text? = some text) : endsSolid text = true := by
  have htable (front : Text) : endsSolid (front ++ spellName form.tableName) = true :=
    endsSolid_append (endsSolid_spellName _) front
  have halter {action name : Text} (h : form.alterText? action name = some text) :
      endsSolid text = true := by
    obtain ⟨-, ⟨⟩⟩ := Option.ite_none_left_eq_some.1 h
    exact endsSolid_append (endsSolid_spellName _) _
  unfold text? at htext
  split at htext
  · obtain rfl := Option.some.inj htext
    exact form.endsSolid_clauses (htable "FROM ") ["SELECT", _] (by simp)
  · obtain ⟨hne, ⟨⟩⟩ := Option.ite_none_left_eq_some.1 htext
    have hassignments : endsSolid form.assignmentList = true := by
      refine endsSolid_joinWith [] (by simpa using hne) fun t ht => ?_
      obtain ⟨entry, -, rfl⟩ := List.mem_map.1 ht
      exact endsSolid_append (endsSolid_spellLiteral _) _
    exact form.endsSolid_clauses (endsSolid_append hassignments _) [] (by simp)
  · obtain rfl := Option.some.inj htext
    exact form.endsSolid_clauses (htable "DELETE FROM ") [] (by simp)
  · obtain ⟨-, ⟨⟩⟩ := Option.ite_none_left_eq_some.1 htext
    exact endsSolid_append (by decide) _
  · exact halter htext
  · exact halter htext
  · exact halter htext

theorem isScriptStatement_alter (h : form.FitsLine) {action name text : Text}
    (haction : IsWhole action) (hname : name ∈ form.entries)
    (htext : form.alterText? action name = some text) (hends : endsSolid text = true) :
    IsScriptStatement text := by
  obtain ⟨-, ⟨⟩⟩ := Option.ite_none_left_eq_some.1 htext
  refine ⟨?_, ⟨'A', rfl, by decide⟩, hends⟩
  have htable : IsWhole (spellName form.tableName) := h.name (by simp [entries])
  exact ((((IsWhole.append (by decide) htable).append (by decide)).append haction).append
    (by decide)).append (h.name hname)

theorem isScriptStatement_text (h : form.FitsLine) {text : Text} (htext : form.text? = some text) :
    IsScriptStatement text := by
  have htable : IsWhole (spellName form.tableName) := h.name (by simp [entries])
  have hends := form.endsSolid_text htext
  cases hkind : form.kind with
  | select =>
    have hcolumns : IsWhole (if form.selectsAll then "*" else nameList form.selectedColumns) := by
      split
      · decide
      · exact h.nameList
    simp only [text?, hkind, Option.some.injEq] at htext
    subst htext
    refine ⟨?_, .joinWith ⟨'S', rfl, by decide⟩ _, hends⟩
    rw [List.append_assoc, List.append_assoc]
    refine h.joinWith_clauses ?_ (by simp)
    simp only [List.forall_mem_cons]
    exact ⟨by decide, hcolumns, IsWhole.append (by decide) htable, by simp⟩
  | update =>
    simp only [text?, hkind] at htext
    split at htext
    · simp at htext
    · obtain rfl := Option.some.inj htext
      refine ⟨h.joinWith_clauses (List.forall_mem_singleton.2 ?_) (by simp),
        .joinWith ⟨'U', rfl, by decide⟩ _, hends⟩
      exact ((IsWhole.append (by decide) htable).append (by decide)).append h.assignmentList
  | delete =>
    simp only [text?, hkind, Option.some.injEq] at htext
    subst htext
    refine ⟨h.joinWith_clauses (List.forall_mem_singleton.2 ?_) (by simp),
      .joinWith ⟨'D', rfl, by decide⟩ _, hends⟩
    exact IsWhole.append (by decide) htable
  | insert =>
    simp only [text?, hkind] at htext
    split at htext
    · simp at htext
    · obtain rfl := Option.some.inj htext
      refine ⟨?_, ⟨'I', rfl, by decide⟩, hends⟩
      have hvalues : IsWhole (joinWith ", " (form.selectedColumns.map form.insertedLiteral)) := by
        refine .joinWith (by decide) fun t ht => ?_
        obtain ⟨column, -, rfl⟩ := List.mem_map.1 ht
        exact h.insertedLiteral column
      exact (((((IsWhole.append (by decide) htable).append (by decide)).append h.nameList).append
        (by decide)).append hvalues).append (by decide)
  | rename =>
    simp only [text?, hkind] at htext
    exact form.isScriptStatement_alter h (by decide) (by simp [entries]) htext hends
  | addColumn =>
    simp only [text?, hkind] at htext
    exact form.isScriptStatement_alter h (by decide) (by simp [entries]) htext hends
  | dropColumn =>
    simp only [text?, hkind] at htext
    exact form.isScriptStatement_alter h (by decide) (by simp [entries]) htext hends

end Form

/-! ### Scripts of statements -/

namespace IsScriptStatement

variable {text : Text}

theorem ne_nil (h : IsScriptStatement text) : text ≠ [] := by
  rintro rfl
  obtain ⟨p, hp, -⟩ := h.starts
  simp at hp

theorem trim_append (h : IsScriptStatement text) {gap : Text} (hgap : ∀ p ∈ gap, isBlank p = true) :
    trim (gap ++ text) = text := by
  have hstarts : startsSolid text = true := by
    obtain ⟨p, hp, hsolid, -⟩ := h.starts
    simp [startsSolid, Option.mem_def.1 hp, hsolid]
  have hdrop : trim (gap ++ text) = trim text := by
    rw [trim_eq_rdropWhile, List.dropWhile_append_of_pos hgap, trim_eq_rdropWhile]
  rw [hdrop, trim_of_solid hstarts h.ends]

theorem isCommentLine_append (h : IsScriptStatement text) (more : Text) :
    isCommentLine (text ++ more) = false := by
  obtain ⟨p, hp, hsolid, hdash⟩ := h.starts
  obtain ⟨rest, rfl⟩ := List.head?_eq_some_iff.1 hp
  exact isCommentLine_cons hsolid fun hp => absurd hp hdash

/-- On a line that it starts, a statement is kept with all that follows. -/
theorem keptText_append (h : IsScriptStatement text) {more : Text} (hmore : OnOneLine more) :
    keptText (text ++ more) = text ++ more ++ [.char '\n'] := by
  rw [keptText_of_onOneLine (onOneLine_append h.line hmore)
    (List.append_ne_nil_of_left_ne_nil h.ne_nil _), keptLine_of_false (h.isCommentLine_append _)]

theorem keptText_eq (h : IsScriptStatement text) : keptText text = text ++ [.char '\n'] := by
  have hkept := h.keptText_append onOneLine_nil
  rwa [List.append_nil] at hkept

end IsScriptStatement

theorem IsQuiet.statementParts_eq {text : Text} (h : IsQuiet text) :
    statementParts .outside text = [text] := by
  have happend := statementParts_append h []
  rwa [List.append_nil, statementParts, List.modifyHead_cons, List.append_nil] at happend

theorem IsQuiet.statementParts_semicolon {text : Text} (h : IsQuiet text) (rest : Text) :
    statementParts .outside (text ++ .char ';' :: rest) =
      text :: statementParts .outside rest := by
  rw [statementParts_append h, statementParts, if_pos ⟨rfl, rfl⟩, List.modifyHead_cons,
    List.append_nil]

/-- Between semicolons, with some blanks after them, the statements are found again. -/
theorem nonblank_statementParts {gap : Text} (hgap : ∀ p ∈ gap, isBlank p = true)
    {texts : List Text} (htexts : ∀ t ∈ texts, IsScriptStatement t) {front : Text}
    (hfront : ∀ p ∈ front, isBlank p = true) :
    nonblank (statementParts .outside (front ++ joinWith (.char ';' :: gap) texts)) = texts := by
  have hblank {gap : Text} (h : ∀ p ∈ gap, isBlank p = true) : IsQuiet gap :=
    isQuiet_of_kind (by decide) h
  have hquiet := hblank hfront
  induction texts generalizing front with
  | nil =>
    have htrim : trim front = [] := by
      rw [trim_eq_rdropWhile, List.dropWhile_eq_nil_iff.2 hfront]
      rfl
    have hparts : statementParts .outside (front ++ []) = [front] := by
      rw [List.append_nil, hquiet.statementParts_eq]
    exact (congrArg nonblank hparts).trans (by simp [nonblank, htrim])
  | cons text texts ih =>
    obtain ⟨htext, htexts⟩ := List.forall_mem_cons.1 htexts
    have hpart : IsQuiet (front ++ text) := hquiet.append htext.quiet
    have hkept (parts : List Text) :
        nonblank ((front ++ text) :: parts) = text :: nonblank parts := by
      rw [nonblank, List.map_cons, htext.trim_append hfront, List.filter_cons_of_pos]
      · rfl
      · simp [htext.ne_nil]
    cases texts with
    | nil =>
      rw [joinWith, List.intercalate_singleton, hpart.statementParts_eq, hkept]
      rfl
    | cons next texts =>
      have hrest := ih htexts hgap (hblank hgap)
      rw [joinWith_cons_cons, ← List.append_assoc, ← List.append_assoc, List.append_assoc,
        List.cons_append, hpart.statementParts_semicolon, hkept, hrest]

/-- The statements of a text from which no line is dropped. -/
theorem joinWith_scriptLines {script : Text} (h : keptText script = script ++ [.char '\n']) :
    joinWith "\n" (scriptLines script) = script := by
  have hlines : scriptLines script ≠ [] := by
    intro hnil
    rw [keptText, hnil] at h
    simp at h
  rw [keptText, ← joinWith_feed hlines] at h
  exact List.append_cancel_right h

/-- With semicolons alone between them all statements are on one line. -/
theorem keptText_joinWith_cuts {texts : List Text} (hne : texts ≠ [])
    (htexts : ∀ t ∈ texts, IsScriptStatement t) :
    keptText (joinWith ";" texts) = joinWith ";" texts ++ [.char '\n'] := by
  obtain ⟨text, texts, rfl⟩ := List.exists_cons_of_ne_nil hne
  obtain ⟨htext, htexts⟩ := List.forall_mem_cons.1 htexts
  cases texts with
  | nil =>
    rw [joinWith, List.intercalate_singleton]
    exact htext.keptText_eq
  | cons next texts =>
    have hmore : OnOneLine (joinWith ";" (next :: texts)) :=
      joinWith_induction onOneLine_nil (fun _ _ => onOneLine_append) (by decide)
        fun t ht => (htexts t ht).line
    rw [joinWith_cons_cons, List.append_assoc]
    exact htext.keptText_append (onOneLine_append (by decide) hmore)

/-- With line feeds after the semicolons each statement is on a line of its own. -/
theorem keptText_joinWith_lines {texts : List Text} (hne : texts ≠ [])
    (htexts : ∀ t ∈ texts, IsScriptStatement t) :
    keptText (joinWith ";\n" texts) = joinWith ";\n" texts ++ [.char '\n'] := by
  induction texts with
  | nil => exact absurd rfl hne
  | cons text texts ih =>
    obtain ⟨htext, htexts⟩ := List.forall_mem_cons.1 htexts
    cases texts with
    | nil =>
      rw [joinWith, List.intercalate_singleton]
      exact htext.keptText_eq
    | cons next texts =>
      have hjoin : joinWith ";\n" (text :: next :: texts) =
          (text ++ [.char ';']) ++ .char '\n' :: joinWith ";\n" (next :: texts) := by
        rw [joinWith_cons_cons, List.append_assoc, List.append_assoc]
        rfl
      rw [hjoin, keptText_append_feed (onOneLine_append htext.line (by decide)),
        keptLine_of_false (htext.isCommentLine_append _), ih (by simp) htexts]
      simp

/-- Built queries of forms that fit a line, with semicolons between them, are the statements of the
script, whether or not each starts a line. -/
theorem scriptStatements_joinWith_built {texts : List Text} {separator : Text}
    (hseparator : separator = ";" ∨ separator = ";\n")
    (htexts : ∀ text ∈ texts, ∃ form : Form, form.FitsLine ∧ form.text? = some text) :
    scriptStatements (joinWith separator texts) = texts := by
  have hstatements : ∀ t ∈ texts, IsScriptStatement t := by
    intro text htext
    obtain ⟨form, hfits, hbuilt⟩ := htexts text htext
    exact form.isScriptStatement_text hfits hbuilt
  by_cases hne : texts = []
  · subst hne
    rfl
  · have hkept : keptText (joinWith separator texts) =
        joinWith separator texts ++ [.char '\n'] := by
      rcases hseparator with rfl | rfl
      · exact keptText_joinWith_cuts hne hstatements
      · exact keptText_joinWith_lines hne hstatements
    obtain ⟨gap, rfl, hgap⟩ : ∃ gap : Text, separator = .char ';' :: gap ∧
        ∀ p ∈ gap, isBlank p = true := by
      rcases hseparator with rfl | rfl
      · exact ⟨[], rfl, by decide⟩
      · exact ⟨"\n", rfl, by decide⟩
    rw [scriptStatements, joinWith_scriptLines hkept]
    exact nonblank_statementParts hgap hstatements (List.forall_mem_nil _)

theorem scriptStatements_joinWith_built_quotes :
    let forms : List Form :=
      [⟨.update, "--a;b", [], [], "c\"d", "LIKE", "it's; \\", "", "", "",
          [("e", "\";--"), ("f", " 1.5 ")], "", "", ""⟩,
        ⟨.select, "\\", ["g", "h"], ["g"], "", "=", "", "'", "desc", " 3 ", [], "", "", ""⟩,
        ⟨.rename, "i", [], [], "", "=", "", "", "", "", [], ";", "", ""⟩]
    let texts : List Text :=
      ["UPDATE \"--a;b\" SET \"e\" = \"\\\";--\", \"f\" = 1.5 " ++
          "WHERE \"c\\\"d\" LIKE \"it's; \\\\\"",
        "SELECT \"g\" FROM \"\\\\\" ORDER BY \"'\" DESC LIMIT 3",
        "ALTER TABLE \"i\" RENAME TO \";\""]
    (∀ form ∈ forms, form.FitsLine) ∧ forms.map Form.text? = texts.map some ∧
      scriptStatements (joinWith ";" texts) = texts ∧
      scriptStatements (joinWith ";\n" texts) = texts := by
  intro forms texts
  have hfits : ∀ form ∈ forms, form.FitsLine := by decide +kernel
  have htexts : forms.map Form.text? = texts.map some := by decide +kernel
  have hbuilt : ∀ text ∈ texts, ∃ form : Form, form.FitsLine ∧ form.text? = some text := by
    intro text htext
    have hmem : some text ∈ forms.map Form.text? := htexts ▸ List.mem_map_of_mem htext
    obtain ⟨form, hform, hsome⟩ := List.mem_map.1 hmem
    exact ⟨form, hfits form hform, hsome⟩
  exact ⟨hfits, htexts, scriptStatements_joinWith_built (.inl rfl) hbuilt,
    scriptStatements_joinWith_built (.inr rfl) hbuilt⟩

end TableQuery
