import TableQuery.Proofs.BuiltQueries
import TableQuery.Proofs.Cuts
import TableQuery.Proofs.Stages

/-!
# Where syntax errors are reported

A syntax error is reported at the first token that no statement can have after the tokens before it,
or at the end of the tokens if they only begin a statement.

* `IsStatement`, `BeginsStatement`: what the tokens of a statement say, and the front of that.
* `exists_parse_iff`: a text is a statement if its tokens lead to a final stage.
* `Stage.completion`: a text that completes a statement.
* `isStatement_completion`: every stage that is reached can be completed.
* `Statement.parse_stops_at_first_misfit`: where syntax errors are reported.
-/

namespace TableQuery

open Text Grammar

/-! ### Statements and stages -/

/-- What the tokens of a statement say. -/
def IsStatement (contents : List (TokenKind × Text)) : Prop :=
  ∃ text s, Statement.parse text = .ok s ∧ tokenContents (trim text) = contents

/-- What the first tokens of a statement say. -/
def BeginsStatement (contents : List (TokenKind × Text)) : Prop :=
  ∃ more, IsStatement (contents ++ more)

/-- The stage that some tokens lead to. -/
def stageAfter? (contents : List (TokenKind × Text)) : Option Stage :=
  Stage.start.after? (contents.map Prod.fst)

theorem stageAfter?_map (tokens : List Token) :
    stageAfter? (tokens.map Token.content) = Stage.start.after? (tokens.map Token.kind) := by
  rw [stageAfter?, List.map_map]
  rfl

theorem stageAfter?_append (contents more : List (TokenKind × Text)) :
    stageAfter? (contents ++ more) =
      (stageAfter? contents).bind fun later => later.after? (more.map Prod.fst) := by
  rw [stageAfter?, List.map_append, Stage.after?_append]
  rfl

theorem Grammar.Sentence.startsStatement {ts : List Token} {s : Statement} (h : Sentence ts s) :
    StartsStatement ts := by
  cases h with
  | plain h => exact h.startsStatement
  | closed h _ =>
    obtain ⟨first, hfirst, hkeyword⟩ := h.startsStatement
    exact ⟨first, by simp [Option.mem_def.1 hfirst], hkeyword⟩

/-- A text is a statement just if its tokens lead to a final stage. -/
theorem exists_parse_iff {text : Text} :
    (∃ s, Statement.parse text = .ok s) ↔
      ∃ later, stageAfter? (tokenContents (trim text)) = some later ∧ later.isFinal = true := by
  rw [tokenContents, stageAfter?_map, ← Stage.follow_eq_ok_iff, ← forget_parseTokens, forget,
    map_eq_ok]
  constructor
  · rintro ⟨s, hs⟩
    exact ⟨s, parseTokens_iff_sentence.2 (Statement.sentence_of_parse hs), rfl⟩
  · rintro ⟨s, hs, -⟩
    refine ⟨s, ?_⟩
    rw [Statement.parse_of_starts (parseTokens_iff_sentence.1 hs).startsStatement, hs]
    rfl

theorem IsStatement.stageAfter? {contents : List (TokenKind × Text)} (h : IsStatement contents) :
    ∃ later, stageAfter? contents = some later ∧ later.isFinal = true := by
  obtain ⟨text, s, hs, rfl⟩ := h
  exact exists_parse_iff.1 ⟨s, hs⟩

/-! ### Completing a statement -/

/-- A text after which a statement is complete that has reached a stage. -/
def Stage.completion : Stage → Text
  | .start => "DELETE FROM a"
  | .selectItem => "a FROM a"
  | .afterItem | .deleteFrom => "FROM a"
  | .selectedTable | .orderColumn | .deletedTable | .alteredTable => "a"
  | .orderBy => "BY a"
  | .limitNumber | .assignedValue => "1"
  | .into => "INTO a VALUES (1)"
  | .insertedTable => "a VALUES (1)"
  | .afterInsertedTable | .values => "VALUES (1)"
  | .insertedColumn => "a) VALUES (1)"
  | .afterInsertedColumn => ") VALUES (1)"
  | .openValues => "(1)"
  | .insertedValue => "1)"
  | .afterInsertedValue => ")"
  | .updatedTable => "a SET a = 1"
  | .set => "SET a = 1"
  | .assignedColumn => "a = 1"
  | .equal => "= 1"
  | .alterTable => "TABLE a"
  -- a comment adds nothing to what is complete already
  | _ => "--"

namespace Stage

variable (stage : Stage)

theorem follow_completion : stage.follow (tokenize stage.completion) = .ok () := by
  cases stage <;> decide +kernel

theorem unquoted_completion : ∀ p ∈ stage.completion, ¬IsMark p := by
  cases stage <;> decide

theorem endsSolid_completion : endsSolid stage.completion = true := by
  cases stage <;> decide

theorem after?_completion :
    ∃ later, stage.after? ((tokenContents stage.completion).map Prod.fst) = some later ∧
      later.isFinal = true := by
  rw [tokenContents, List.map_map]
  exact follow_eq_ok_iff.1 stage.follow_completion

/-- What is not complete needs a token more. -/
theorem completion_ne_nil (h : stage.isFinal = false) : tokenContents stage.completion ≠ [] := by
  intro hnil
  obtain ⟨later, hlater, hfinal⟩ := stage.after?_completion
  rw [hnil] at hlater
  obtain rfl : stage = later := Option.some.inj hlater
  rw [h] at hfinal
  exact Bool.false_ne_true hfinal

end Stage

/-- The front of a text is completed by what completes the stage that it leads to, on a line of its
own. -/
theorem isStatement_completion {front : Text} {later : Stage}
    (hstarts : startsSolid front = true) (h : stageAfter? (tokenContents front) = some later) :
    IsStatement (tokenContents front ++ tokenContents later.completion) := by
  have hends : endsSolid (front ++ Point.char '\n' :: later.completion) = true := by
    rw [List.append_cons]
    exact endsSolid_append later.endsSolid_completion _
  have htrim := trim_of_solid (startsSolid_append hstarts _) hends
  have hcontents : tokenContents (front ++ Point.char '\n' :: later.completion) =
      tokenContents front ++ tokenContents later.completion := by
    rw [tokenContents, tokenize, tokensFrom_append_newLine _ later.unquoted_completion,
      List.map_append, map_content_tokensFrom (_ + 1)]
    rfl
  have hparse : ∃ s, Statement.parse (front ++ Point.char '\n' :: later.completion) = .ok s := by
    rw [exists_parse_iff, htrim, hcontents, stageAfter?_append, h]
    exact later.after?_completion
  obtain ⟨s, hs⟩ := hparse
  exact ⟨_, s, hs, by rw [htrim, hcontents]⟩

/-! ### Where parsing stops -/

theorem startsSolid_trim {text front rest : Text} (h : trim text = front ++ rest)
    (hne : front ≠ []) : startsSolid front = true := by
  cases front with
  | nil => exact absurd rfl hne
  | cons p front =>
    have hp : isBlank p = false := head?_trim p (by rw [h]; rfl)
    simp [startsSolid, hp]

/-- No statement begins with tokens that lead to no stage. -/
theorem not_beginsStatement {contents : List (TokenKind × Text)} (h : stageAfter? contents = none) :
    ¬BeginsStatement contents := by
  rintro ⟨more, hmore⟩
  obtain ⟨later, hlater, -⟩ := hmore.stageAfter?
  simp [stageAfter?_append, h] at hlater

theorem StartsStatement.next?_isSome {first : Token} {rest : List Token}
    (h : StartsStatement (first :: rest)) : (Stage.start.next? first.kind).isSome = true := by
  obtain ⟨first', hfirst, keyword, hkeyword, hkind⟩ := h
  obtain rfl : first = first' := by simpa using hfirst
  have hall : ∀ keyword ∈ leadingKeywords,
      (Stage.start.next? (.keyword keyword)).isSome = true := by decide
  rw [hkind]
  exact hall keyword hkeyword

/-- A text that starts with the keyword of a statement but is none is a syntax error. It is reported
at the first token that no statement has after the tokens before it, or, if there is no such token,
at the end, and then some statement goes on after all the tokens. -/
theorem Statement.parse_stops_at_first_misfit {text : Text} {error : QueryError}
    (hstarts : StartsStatement (tokenize (trim text))) (h : Statement.parse text = .error error) :
    let tokens := tokenize (trim text)
    (∃ before token after, tokens = before ++ token :: after ∧
      error = .malformed (some (token.text, token.position)) ∧
      BeginsStatement (before.map Token.content) ∧
      ¬BeginsStatement ((before ++ [token]).map Token.content)) ∨
    (error = .malformed none ∧
      (∃ more, more ≠ [] ∧ IsStatement (tokens.map Token.content ++ more)) ∧
      ¬IsStatement (tokens.map Token.content)) := by
  intro tokens
  rw [Statement.parse_of_starts hstarts, mapError_eq_error] at h
  obtain ⟨obstacle, hobstacle, rfl⟩ := h
  have hfollow : Stage.start.follow tokens = .error obstacle := by
    rw [← forget_parseTokens, forget, map_eq_error]
    exact hobstacle
  obtain ⟨before, later, hlater, hstop⟩ := Stage.follow_eq_error hfollow
  rw [← stageAfter?_map] at hlater
  cases obstacle with
  | none =>
    obtain ⟨rfl, hfinal⟩ := hstop
    have hne : trim text ≠ [] := by
      intro hnil
      obtain ⟨first, hfirst, -⟩ := hstarts
      simp [hnil, tokenize, tokensFrom] at hfirst
    refine Or.inr ⟨rfl, ⟨_, later.completion_ne_nil hfinal, ?_⟩, fun hstatement => ?_⟩
    · exact isStatement_completion (startsSolid_trim (List.append_nil _).symm hne) hlater
    · obtain ⟨final, hstage, hfinal'⟩ := hstatement.stageAfter?
      obtain rfl := Option.some.inj (hlater.symm.trans hstage)
      rw [hfinal] at hfinal'
      exact Bool.false_ne_true hfinal'
  | some token =>
    obtain ⟨after, htokens, hstuck⟩ := hstop
    obtain ⟨front, rest, htext, hfront, -⟩ := exists_cut htokens
    have hne : front ≠ [] := by
      rintro rfl
      obtain rfl : [] = before := by simpa [tokensFrom] using hfront
      obtain rfl : Stage.start = later := Option.some.inj hlater
      rw [show tokenize (trim text) = token :: after from htokens] at hstarts
      simpa [hstuck] using hstarts.next?_isSome
    refine Or.inl ⟨before, token, after, htokens, rfl, ⟨tokenContents later.completion, ?_⟩,
      not_beginsStatement ?_⟩
    · subst hfront
      exact isStatement_completion (startsSolid_trim htext hne) hlater
    · rw [List.map_append, stageAfter?_append, hlater, Option.bind_some]
      show later.after? [token.kind] = none
      rw [Stage.after?_cons, hstuck]
      rfl

theorem Statement.parse_stops_at_first_misfit_order :
    let text : Text := "SELECT a FROM t WHERE b = ' ORDER c"
    StartsStatement (tokenize (trim text)) ∧
      Statement.parse text = .error (.malformed (some ("c", 34))) ∧
      ∃ before token after, tokenize (trim text) = before ++ token :: after ∧
        token.position = 34 ∧ BeginsStatement (before.map Token.content) ∧
        ¬BeginsStatement ((before ++ [token]).map Token.content) := by
  intro text
  have hstarts : StartsStatement (tokenize (trim text)) := ⟨_, rfl, .SELECT, by decide, rfl⟩
  have herror : Statement.parse text = .error (.malformed (some ("c", 34))) := by decide +kernel
  refine ⟨hstarts, herror, ?_⟩
  rcases Statement.parse_stops_at_first_misfit hstarts herror with
    ⟨before, token, after, htokens, hplace, hbegins, hnot⟩ | ⟨hend, -⟩
  · have hposition : 34 = token.position := by simpa using (congrArg Prod.snd <| Option.some.inj <|
      QueryError.malformed.inj hplace)
    exact ⟨before, token, after, htokens, hposition.symm, hbegins, hnot⟩
  · exact absurd (QueryError.malformed.inj hend) (by simp)

end TableQuery
