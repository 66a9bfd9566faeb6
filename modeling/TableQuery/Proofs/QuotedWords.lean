import Mathlib.Data.List.Forall2
import TableQuery.Proofs.Dialect
import TableQuery.Proofs.Stages

/-!
# Words with and without quotes

Identifiers and other bare words can be put between quotes anywhere in a query. No rule of the
grammar and no stage of a statement tells the difference.

* `Token.quoted`, `QuotesSome`: a bare word as a quoted text, and a list with some of them so.
* `IgnoresQuotes`: the classes of tokens that take in quoted texts and bare words alike.
* `Sentence.quoted`: what a derivation becomes, with a lemma for each category of the grammar.
* `Stage.follow_quoted`: where reading stops.
* `parse_ignores_quotes`: the parser's answer.
-/

namespace TableQuery

open Text Grammar

/-! ### Quoted tokens -/

namespace Token

/-- A bare word: an identifier, or any other unquoted run that is no number. -/
def IsBare (token : Token) : Prop :=
  token.kind = .identifier ∨ token.kind = .word

instance (token : Token) : Decidable token.IsBare :=
  inferInstanceAs (Decidable (_ ∨ _))

theorem IsBare.mem_nameKinds {token : Token} (h : token.IsBare) : token.kind ∈ nameKinds := by
  rcases h with h | h <;> simp [h, nameKinds]

/-- The same text at the same place, in quotes. -/
def withQuotes (token : Token) : Token :=
  { token with kind := .string }

/-- A bare word with quotes; any other token as it is. -/
def quoted (token : Token) : Token :=
  if token.IsBare then token.withQuotes else token

theorem quoted_withQuotes {token : Token} (h : token.IsBare) :
    token.withQuotes.quoted = token.quoted := by
  have hstring : ¬token.withQuotes.IsBare := by simp [IsBare, withQuotes]
  rw [quoted, if_neg hstring, quoted, if_pos h]

@[simp] theorem text_quoted (token : Token) : token.quoted.text = token.text := by
  unfold quoted
  split <;> rfl

@[simp] theorem position_quoted (token : Token) : token.quoted.position = token.position := by
  unfold quoted
  split <;> rfl

theorem quoted_of_not_mem_nameKinds {token : Token} (h : token.kind ∉ nameKinds) :
    token.quoted = token :=
  if_neg fun hbare => h hbare.mem_nameKinds

@[simp] theorem joinTexts_quoted (tokens : List Token) :
    joinTexts (tokens.map quoted) = joinTexts tokens := by
  simp [joinTexts, Function.comp_def]

end Token

open Token

/-- Kinds of token among which are quoted texts and bare words, or none of them. -/
def IgnoresQuotes (kinds : List TokenKind) : Prop :=
  ∀ kind ∈ nameKinds, kind ∈ kinds ↔ .string ∈ kinds

instance (kinds : List TokenKind) : Decidable (IgnoresQuotes kinds) :=
  inferInstanceAs (Decidable (∀ kind ∈ nameKinds, _))

theorem IgnoresQuotes.mem_iff {kinds : List TokenKind} (h : IgnoresQuotes kinds) (token : Token) :
    token.quoted.kind ∈ kinds ↔ token.kind ∈ kinds := by
  unfold Token.quoted
  split
  · rename_i hbare
    exact (h token.kind hbare.mem_nameKinds).symm
  · rfl

/-- Any other kind keeps its tokens, and gets no new ones. -/
theorem kind_quoted_iff {kind : TokenKind} (hkind : kind ∉ nameKinds) {token : Token} :
    token.quoted.kind = kind ↔ token.kind = kind := by
  have hkinds : IgnoresQuotes [kind] := by
    intro kind' hkind'
    have hne : kind' ≠ kind := fun h => hkind (h ▸ hkind')
    have hstring : .string ≠ kind := fun h => hkind (h ▸ by decide)
    simp [hne, hstring]
  simpa using hkinds.mem_iff token

theorem keyword_quoted {token : Token} {keyword : Keyword} (h : token.kind = .keyword keyword) :
    token.quoted.kind = .keyword keyword :=
  (kind_quoted_iff (by simp [nameKinds])).2 h

theorem ignoresQuotes_nameKinds : IgnoresQuotes nameKinds := by decide

theorem ignoresQuotes_literalKinds : IgnoresQuotes literalKinds := by decide

theorem ignoresQuotes_clauseKinds : IgnoresQuotes clauseKinds := by decide

theorem ignoresQuotes_actionKinds : IgnoresQuotes actionKinds := by decide

theorem ignoresQuotes_operators : IgnoresQuotes (operators.map Prod.fst) := by decide

theorem not_mem_nameKinds_of_mem_operators : ∀ entry ∈ operators, entry.1 ∉ nameKinds := by decide

/-! ### Derivations -/

namespace Grammar

variable {α : Type} {ts : List Token}

theorem Tokens.quoted {kinds : List TokenKind} (hkinds : IgnoresQuotes kinds)
    (h : Tokens kinds ts) : Tokens kinds (ts.map Token.quoted) := by
  induction h with
  | single ht => exact .single ((hkinds.mem_iff _).2 ht)
  | more _ ht ih =>
    rw [List.map_append]
    exact .more ih ((hkinds.mem_iff _).2 ht)

theorem Name.quoted {name : Text} (h : Name ts name) : Name (ts.map Token.quoted) name := by
  obtain ⟨ht⟩ := h
  simpa using Name.intro ((ignoresQuotes_nameKinds.mem_iff _).2 ht)

theorem SelectItem.quoted {name : Text} (h : SelectItem ts name) :
    SelectItem (ts.map Token.quoted) name := by
  cases h with
  | name h => exact .name h.quoted
  | star ht => simpa using SelectItem.star ((kind_quoted_iff (by decide)).2 ht)

theorem InsertedValue.quoted {value : Value} (h : InsertedValue ts value) :
    InsertedValue (ts.map Token.quoted) value := by
  cases h with
  | number ht => simpa using InsertedValue.number ((kind_quoted_iff (by decide)).2 ht)
  | text ht => simpa using InsertedValue.text ((ignoresQuotes_nameKinds.mem_iff _).2 ht)

theorem Assignment.quoted {assignment : Text × Value} (h : Assignment ts assignment) :
    Assignment (ts.map Token.quoted) assignment := by
  obtain ⟨hns, hsign, ht⟩ := h
  simpa using Assignment.intro hns.quoted ((kind_quoted_iff (by decide)).2 hsign)
    ((ignoresQuotes_literalKinds.mem_iff _).2 ht)

theorem Sequence.quoted {item : Category α} {as : List α}
    (hitem : ∀ {us a}, item us a → item (us.map Token.quoted) a) (h : Sequence item ts as) :
    Sequence item (ts.map Token.quoted) as := by
  induction h with
  | single ha => exact .single (hitem ha)
  | more _ hcomma ha ih =>
    rw [List.map_append, List.map_cons]
    exact .more ih ((kind_quoted_iff (by decide)).2 hcomma) (hitem ha)

theorem Parenthesized.quoted {item : Category α} {as : List α}
    (hitem : ∀ {us a}, item us a → item (us.map Token.quoted) a) (h : Parenthesized item ts as) :
    Parenthesized item (ts.map Token.quoted) as := by
  obtain ⟨hopening, has, hclosing⟩ := h
  simpa using Parenthesized.intro ((kind_quoted_iff (by decide)).2 hopening) (has.quoted hitem)
    ((kind_quoted_iff (by decide)).2 hclosing)

theorem exists_of_map_quoted {first second third : Token} {rest : List Token}
    (h : ts.map Token.quoted = first :: second :: third :: rest) :
    ∃ first' second' third' rest', ts = first' :: second' :: third' :: rest' ∧
      first'.quoted = first ∧ second'.quoted = second ∧ third'.quoted = third ∧
      rest'.map Token.quoted = rest := by
  obtain ⟨first', tail, rfl, hfirst, htail⟩ := List.map_eq_cons_iff.1 h
  obtain ⟨second', tail', rfl, hsecond, htail'⟩ := List.map_eq_cons_iff.1 htail
  obtain ⟨third', rest', rfl, hthird, hrest⟩ := List.map_eq_cons_iff.1 htail'
  exact ⟨first', second', third', rest', rfl, hfirst, hsecond, hthird, hrest⟩

theorem StartsComparison.of_quoted (h : StartsComparison (ts.map Token.quoted)) :
    StartsComparison ts := by
  obtain ⟨_, _, _, _, hts, hcolumn, hoperator, hliteral⟩ := h
  obtain ⟨column, operator, literal, rest, rfl, rfl, rfl, rfl, -⟩ := exists_of_map_quoted hts
  exact ⟨column, operator, literal, rest, rfl, (ignoresQuotes_nameKinds.mem_iff _).1 hcolumn,
    (ignoresQuotes_operators.mem_iff _).1 hoperator,
    (ignoresQuotes_literalKinds.mem_iff _).1 hliteral⟩

/-- The operator of a comparison is no bare word, and stays as it is. -/
theorem FilterMeaning.quoted {filter : Filter} (h : FilterMeaning ts filter) :
    FilterMeaning (ts.map Token.quoted) filter := by
  cases h with
  | @comparison column operator literal rest o hcolumn hoperator hliteral =>
    have hsame : operator.quoted = operator :=
      quoted_of_not_mem_nameKinds (not_mem_nameKinds_of_mem_operators _ hoperator)
    have hcolumn' := (ignoresQuotes_nameKinds.mem_iff column).2 hcolumn
    have hliteral' := (ignoresQuotes_literalKinds.mem_iff literal).2 hliteral
    rw [List.map_cons, List.map_cons, List.map_cons, hsame, ← Token.text_quoted column,
      ← Token.text_quoted literal]
    exact .comparison hcolumn' hoperator hliteral'
  | unparsed hstarts =>
    simpa using FilterMeaning.unparsed fun hquoted => hstarts (StartsComparison.of_quoted hquoted)

theorem WhereClause.quoted {filter : Option Filter} (h : WhereClause ts filter) :
    WhereClause (ts.map Token.quoted) filter := by
  cases h with
  | none => exact .none
  | blank hw => exact .blank (keyword_quoted hw)
  | clause hw hts hfilter =>
    exact .clause (keyword_quoted hw) (hts.quoted ignoresQuotes_clauseKinds) hfilter.quoted

theorem OrderClause.quoted {order : Option SortOrder} (h : OrderClause ts order) :
    OrderClause (ts.map Token.quoted) order := by
  cases h with
  | none => exact .none
  | plain horder hby hns =>
    exact .plain (keyword_quoted horder) (keyword_quoted hby) hns.quoted
  | ascending horder hby hns hdirection =>
    simpa using OrderClause.ascending (keyword_quoted horder) (keyword_quoted hby) hns.quoted
      (keyword_quoted hdirection)
  | descending horder hby hns hdirection =>
    simpa using OrderClause.descending (keyword_quoted horder) (keyword_quoted hby) hns.quoted
      (keyword_quoted hdirection)

theorem LimitClause.quoted {limit : Option Nat} (h : LimitClause ts limit) :
    LimitClause (ts.map Token.quoted) limit := by
  cases h with
  | none => exact .none
  | limit hlimit hnumeral =>
    simpa using
      LimitClause.limit (keyword_quoted hlimit) ((kind_quoted_iff (by decide)).2 hnumeral)

theorem IsSupportedAction.of_quoted (h : IsSupportedAction (ts.map Token.quoted)) :
    IsSupportedAction ts := by
  obtain ⟨_, _, _, hts, htarget, haction⟩ := h
  obtain ⟨first, second, target, rest, rfl, rfl, rfl, rfl, hrest⟩ := exists_of_map_quoted hts
  obtain rfl := List.map_eq_nil_iff.1 hrest
  refine ⟨first, second, target, rfl, (ignoresQuotes_nameKinds.mem_iff _).1 htarget, ?_⟩
  simpa (disch := decide) [kind_quoted_iff] using haction

theorem ActionMeaning.quoted {alteration : Alteration} (h : ActionMeaning ts alteration) :
    ActionMeaning (ts.map Token.quoted) alteration := by
  cases h with
  | rename hfirst hsecond htarget =>
    simpa using ActionMeaning.rename (keyword_quoted hfirst) (keyword_quoted hsecond)
      ((ignoresQuotes_nameKinds.mem_iff _).2 htarget)
  | addColumn hfirst hsecond htarget =>
    simpa using ActionMeaning.addColumn (keyword_quoted hfirst) (keyword_quoted hsecond)
      ((ignoresQuotes_nameKinds.mem_iff _).2 htarget)
  | dropColumn hfirst hsecond htarget =>
    simpa using ActionMeaning.dropColumn (keyword_quoted hfirst) (keyword_quoted hsecond)
      ((ignoresQuotes_nameKinds.mem_iff _).2 htarget)
  | unsupported haction =>
    simpa using ActionMeaning.unsupported fun hquoted =>
      haction (IsSupportedAction.of_quoted hquoted)

/-- One case for each rule of the grammar. -/
theorem Query.quoted {s : Statement} (h : Query ts s) : Query (ts.map Token.quoted) s := by
  cases h with
  | select hfirst hcs hfrom hns hws hos hls =>
    simpa using Query.select (keyword_quoted hfirst) (hcs.quoted SelectItem.quoted)
      (keyword_quoted hfrom) hns.quoted hws.quoted hos.quoted hls.quoted
  | insert hfirst hinto hns hvalues hvs =>
    simpa using Query.insert (keyword_quoted hfirst) (keyword_quoted hinto) hns.quoted
      (keyword_quoted hvalues) (hvs.quoted InsertedValue.quoted)
  | insertColumns hfirst hinto hns hcs hvalues hvs =>
    simpa using Query.insertColumns (keyword_quoted hfirst) (keyword_quoted hinto) hns.quoted
      (hcs.quoted Name.quoted) (keyword_quoted hvalues) (hvs.quoted InsertedValue.quoted)
  | update hfirst hns hset has hws =>
    simpa using Query.update (keyword_quoted hfirst) hns.quoted (keyword_quoted hset)
      (has.quoted Assignment.quoted) hws.quoted
  | delete hfirst hfrom hns hws =>
    simpa using Query.delete (keyword_quoted hfirst) (keyword_quoted hfrom) hns.quoted hws.quoted
  | alterBare hfirst hsecond hns =>
    simpa using Query.alterBare (keyword_quoted hfirst) (keyword_quoted hsecond) hns.quoted
  | alter hfirst hsecond hns has hmeaning =>
    simpa using Query.alter (keyword_quoted hfirst) (keyword_quoted hsecond) hns.quoted
      (has.quoted ignoresQuotes_actionKinds) hmeaning.quoted

theorem Sentence.quoted {s : Statement} (h : Sentence ts s) :
    Sentence (ts.map Token.quoted) s := by
  cases h with
  | plain h => exact .plain h.quoted
  | closed h hsemicolon =>
    rw [List.map_append]
    exact .closed h.quoted ((kind_quoted_iff (by decide)).2 hsemicolon)

end Grammar

/-! ### Stages -/

namespace Stage

theorem next?_string (stage : Stage) {kind : TokenKind} (h : kind ∈ nameKinds) :
    stage.next? .string = stage.next? kind := by
  revert kind
  cases stage <;> decide

theorem next?_quoted (stage : Stage) (token : Token) :
    stage.next? token.quoted.kind = stage.next? token.kind := by
  unfold Token.quoted
  split
  · rename_i hbare
    exact stage.next?_string hbare.mem_nameKinds
  · rfl

theorem follow_quoted (stage : Stage) (tokens : List Token) :
    stage.follow (tokens.map Token.quoted) =
      (stage.follow tokens).mapError (Option.map Token.quoted) := by
  induction tokens generalizing stage with
  | nil =>
    rw [List.map_nil, follow]
    split <;> rfl
  | cons token rest ih =>
    rw [List.map_cons]
    cases hnext : stage.next? token.kind with
    | none =>
      rw [follow_cons_of_none hnext, follow_cons_of_none (by rw [next?_quoted, hnext])]
      rfl
    | some next =>
      rw [follow_cons_of_next hnext, follow_cons_of_next (by rw [next?_quoted, hnext])]
      exact ih next

end Stage

/-! ### The parser -/

/-- A statement by its derivation, and an error by where the automaton stops. -/
theorem parseTokens_quoted (tokens : List Token) :
    parseTokens (tokens.map Token.quoted) =
      (parseTokens tokens).mapError (Option.map Token.quoted) := by
  cases h : parseTokens tokens with
  | ok statement =>
    have hsentence := (parseTokens_iff_sentence.1 h).quoted
    exact parseTokens_iff_sentence.2 hsentence
  | error obstacle =>
    have hfollow : Stage.start.follow tokens = .error obstacle := by
      rw [← forget_parseTokens]
      exact map_eq_error.2 h
    have hquoted : forget (parseTokens (tokens.map Token.quoted)) =
        .error (obstacle.map Token.quoted) := by
      rw [forget_parseTokens, Stage.follow_quoted, hfollow]
      rfl
    exact map_eq_error.1 hquoted

theorem classifyTokens_quoted (tokens : List Token) :
    classifyTokens (tokens.map Token.quoted) = classifyTokens tokens := by
  have hkeyword (keyword : Keyword) (token : Token) :
      token.quoted.isKeyword keyword = token.isKeyword keyword := by
    rw [Bool.eq_iff_iff, Token.isKeyword, Token.isKeyword, beq_iff_eq, beq_iff_eq]
    exact kind_quoted_iff (by simp [nameKinds])
  cases tokens with
  | nil => rfl
  | cons token rest => simp [classifyTokens, hkeyword, Function.comp_def]

/-- A syntax error tells the text and the place of a token, but not its kind. -/
theorem mapError_atToken_quoted (tokens : List Token) :
    (parseTokens (tokens.map Token.quoted)).mapError QueryError.atToken =
      (parseTokens tokens).mapError QueryError.atToken := by
  have hplace (obstacle : Obstacle) :
      QueryError.atToken (obstacle.map Token.quoted) = QueryError.atToken obstacle := by
    simp [QueryError.atToken, Function.comp_def]
  rw [parseTokens_quoted]
  cases parseTokens tokens with
  | ok statement => rfl
  | error obstacle => exact congrArg Except.error (hplace obstacle)

/-- Some tokens, and the same ones with quotes around some of the bare words. -/
def QuotesSome (tokens others : List Token) : Prop :=
  List.Forall₂ (fun token other => other = token ∨ token.IsBare ∧ other = token.withQuotes)
    tokens others

instance (tokens others : List Token) : Decidable (QuotesSome tokens others) :=
  inferInstanceAs (Decidable (List.Forall₂ _ tokens others))

theorem QuotesSome.map_quoted {tokens others : List Token} (h : QuotesSome tokens others) :
    others.map Token.quoted = tokens.map Token.quoted := by
  induction h with
  | nil => rfl
  | cons hhead _ ih =>
    rw [List.map_cons, List.map_cons, ih]
    rcases hhead with rfl | ⟨hbare, rfl⟩
    · rfl
    · rw [quoted_withQuotes hbare]

/-- Quotes around bare words change nothing of what the parser answers: not which statement a list
of tokens is, names, values and the texts of unparsed clauses included, and not the syntax error
nor its place. Two texts whose tokens differ by such quotes only are parsed alike. -/
theorem parse_ignores_quotes {tokens others : List Token} (h : QuotesSome tokens others) :
    classifyTokens others = classifyTokens tokens ∧
    (parseTokens others).mapError QueryError.atToken =
      (parseTokens tokens).mapError QueryError.atToken ∧
    ∀ text other : Text, tokenize (trim text) = tokens → tokenize (trim other) = others →
      Statement.parse other = Statement.parse text := by
  have hsame := h.map_quoted
  have hclassify : classifyTokens others = classifyTokens tokens := by
    rw [← classifyTokens_quoted others, hsame, classifyTokens_quoted]
  have hparse : (parseTokens others).mapError QueryError.atToken =
      (parseTokens tokens).mapError QueryError.atToken := by
    rw [← mapError_atToken_quoted others, hsame, mapError_atToken_quoted]
  refine ⟨hclassify, hparse, ?_⟩
  rintro text other rfl rfl
  rw [Statement.parse, Statement.parse, hclassify, hparse]

/-- A column and the first word of a clause that is no comparison, and a name with no comma before
it. -/
theorem parse_ignores_quotes_clause :
    let plain : Text := "SELECT a   FROM t WHERE b   c"
    let other : Text := "SELECT 'a' FROM t WHERE 'b' c"
    let wrong : Text := "SELECT a   b   FROM t"
    let wrong' : Text := "SELECT 'a' 'b' FROM t"
    Statement.parse plain = .ok (.select ⟨"t", ["a"], some (.unparsed "b c"), none, none⟩) ∧
      Statement.parse other = Statement.parse plain ∧
      Statement.parse wrong = .error (.malformed (some ("b", 11))) ∧
      Statement.parse wrong' = Statement.parse wrong := by
  intro plain other wrong wrong'
  have hquotes : QuotesSome (tokenize (trim plain)) (tokenize (trim other)) := by decide +kernel
  have hwrong : QuotesSome (tokenize (trim wrong)) (tokenize (trim wrong')) := by decide +kernel
  exact ⟨by decide, (parse_ignores_quotes hquotes).2.2 _ _ rfl rfl, by decide,
    (parse_ignores_quotes hwrong).2.2 _ _ rfl rfl⟩

end TableQuery
