import TableQuery.Query.Parser

/-!
# The grammar of statements

The rules of the query language as relations between lists of tokens and what they stand for.
They say nothing about how a statement is parsed.

* `nameKinds`, `literalKinds`, `clauseKinds`, `actionKinds`: the classes of tokens.
* `Name`, `SelectItem`, `InsertedValue`, `Assignment`: what can stand between commas.
* `Sequence`: one or more of these, with commas between them.
* `FilterMeaning`, `ActionMeaning`: what the tokens of a `WHERE` clause and those of the action of
  an `ALTER TABLE` stand for.
* `WhereClause`, `OrderClause`, `LimitClause`: the clauses.
* `Query`, `Sentence`: a statement, first without and then with the semicolon at its end.
* `mem_clauseKinds`, `mem_actionKinds`: which kinds of token the two absorbing clauses leave out.
-/

namespace TableQuery.Grammar

/-- A category of phrases: which lists of tokens belong to it, and what they stand for. -/
abbrev Category (α : Type) := List Token → α → Prop

/-! ### Classes of tokens -/

/-- The kinds of token that can be a name. -/
def nameKinds : List TokenKind := [.identifier, .string, .word]

/-- The kinds of token that can be a literal. -/
def literalKinds : List TokenKind := [.identifier, .string, .number, .word]

/-- The kinds of token that a `WHERE` clause takes in. -/
def clauseKinds : List TokenKind :=
  [.identifier, .string, .number, .word, .star, .comma, .leftParen, .rightParen, .equal, .notEqual,
    .less, .lessEqual, .greater, .greaterEqual, .keyword .LIKE, .other, .keyword .SELECT,
    .keyword .FROM, .keyword .WHERE, .keyword .BY, .keyword .ASC, .keyword .DESC, .keyword .INSERT,
    .keyword .INTO, .keyword .VALUES, .keyword .UPDATE, .keyword .SET, .keyword .DELETE,
    .keyword .ALTER, .keyword .TABLE, .keyword .RENAME, .keyword .TO, .keyword .ADD,
    .keyword .COLUMN, .keyword .DROP]

/-- The kinds of token that the action of an `ALTER TABLE` takes in. -/
def actionKinds : List TokenKind :=
  .keyword .ORDER :: .keyword .LIMIT :: clauseKinds

/-- The operators of a comparison. -/
def operators : List (TokenKind × Operator) :=
  [(.equal, .equal), (.notEqual, .notEqual), (.less, .less), (.lessEqual, .lessEqual),
    (.greater, .greater), (.greaterEqual, .greaterEqual), (.keyword .LIKE, .like)]

theorem mem_clauseKinds (kind : TokenKind) :
    kind ∈ clauseKinds ↔
      kind ≠ .keyword .ORDER ∧ kind ≠ .keyword .LIMIT ∧ kind ≠ .semicolon := by
  cases kind with
  | keyword k => cases k <;> decide
  | _ => decide

/-- A clause takes in every name and every literal. -/
theorem literalKinds_subset : literalKinds ⊆ clauseKinds := by decide

theorem nameKinds_subset : nameKinds ⊆ clauseKinds := by decide

/-- A clause takes in every operator. -/
theorem mem_clauseKinds_of_mem_operators : ∀ entry ∈ operators, entry.1 ∈ clauseKinds := by decide

theorem mem_actionKinds (kind : TokenKind) : kind ∈ actionKinds ↔ kind ≠ .semicolon := by
  cases kind with
  | keyword k => cases k <;> decide
  | _ => decide

/-- One or more tokens of some kinds. -/
inductive Tokens (kinds : List TokenKind) : List Token → Prop
  | single {t : Token} : t.kind ∈ kinds → Tokens kinds [t]
  | more {ts : List Token} {t : Token} :
      Tokens kinds ts → t.kind ∈ kinds → Tokens kinds (ts ++ [t])

/-! ### Between commas -/

/-- A name. -/
inductive Name : Category Text
  | intro {t : Token} : t.kind ∈ nameKinds → Name [t] t.text

/-- A name, or the star. -/
inductive SelectItem : Category Text
  | name {ts : List Token} {name : Text} : Name ts name → SelectItem ts name
  | star {t : Token} : t.kind = .star → SelectItem [t] t.text

/-- A literal of an `INSERT`: an unquoted numeral is a number, all else is text. -/
inductive InsertedValue : Category Value
  | number {t : Token} : t.kind = .number → InsertedValue [t] (.ofText t.text)
  | text {t : Token} : t.kind ∈ nameKinds → InsertedValue [t] (.text t.text)

/-- An assignment of an `UPDATE`: numeric text is a number, quoted or not. -/
inductive Assignment : Category (Text × Value)
  | intro {ns : List Token} {sign t : Token} {column : Text} :
      Name ns column → sign.kind = .equal → t.kind ∈ literalKinds →
      Assignment (ns ++ [sign, t]) (column, .ofText t.text)

/-- One or more phrases with commas between them. -/
inductive Sequence {α : Type} (item : Category α) : Category (List α)
  | single {ts : List Token} {a : α} : item ts a → Sequence item ts [a]
  | more {ts us : List Token} {comma : Token} {as : List α} {a : α} :
      Sequence item ts as → comma.kind = .comma → item us a →
      Sequence item (ts ++ comma :: us) (as ++ [a])

theorem Sequence.cons {α : Type} {item : Category α} {ts us : List Token} {comma : Token} {a : α}
    {as : List α} (ha : item ts a) (hc : comma.kind = .comma) (has : Sequence item us as) :
    Sequence item (ts ++ comma :: us) (a :: as) := by
  induction has with
  | single hb => exact .more (.single ha) hc hb
  | more _ hc' hb ih => simpa using Sequence.more ih hc' hb

/-- What holds of the tokens of each item, and of commas, holds of all tokens. -/
theorem Sequence.forall_tokens {α : Type} {item : Category α} {P : Token → Prop}
    {ts : List Token} {as : List α} (h : Sequence item ts as)
    (hitem : ∀ {us : List Token} {a : α}, item us a → ∀ t ∈ us, P t)
    (hcomma : ∀ t : Token, t.kind = .comma → P t) : ∀ t ∈ ts, P t := by
  induction h with
  | single ha => exact hitem ha
  | more _ hc ha ih =>
    exact List.forall_mem_append.2 ⟨ih, List.forall_mem_cons.2 ⟨hcomma _ hc, hitem ha⟩⟩

/-- No keyword is a name. -/
theorem Name.kind_ne_keyword {ns : List Token} {name : Text} (h : Name ns name) (k : Keyword) :
    ∀ t ∈ ns, t.kind ≠ .keyword k := by
  cases h with
  | intro hkind =>
    refine List.forall_mem_singleton.2 fun h => ?_
    simp [h, nameKinds] at hkind

/-! ### Clauses -/

/-- A column, an operator and a literal at the front of some tokens. -/
def StartsComparison (tokens : List Token) : Prop :=
  ∃ column operator literal rest, tokens = column :: operator :: literal :: rest ∧
    column.kind ∈ nameKinds ∧ operator.kind ∈ operators.map Prod.fst ∧ literal.kind ∈ literalKinds

/-- The filter that the tokens of a clause stand for. The first three decide. -/
inductive FilterMeaning : Category Filter
  | comparison {column operator literal : Token} {rest : List Token} {o : Operator} :
      column.kind ∈ nameKinds → (operator.kind, o) ∈ operators → literal.kind ∈ literalKinds →
      FilterMeaning (column :: operator :: literal :: rest)
        (.comparison ⟨column.text, o, .ofText literal.text⟩)
  | unparsed {tokens : List Token} : ¬StartsComparison tokens →
      FilterMeaning tokens (.unparsed (Token.joinTexts tokens))

/-- A `WHERE` clause, or none. -/
inductive WhereClause : Category (Option Filter)
  | none : WhereClause [] none
  | blank {w : Token} : w.kind = .keyword .WHERE → WhereClause [w] (some (.unparsed []))
  | clause {w : Token} {ts : List Token} {filter : Filter} :
      w.kind = .keyword .WHERE → Tokens clauseKinds ts → FilterMeaning ts filter →
      WhereClause (w :: ts) (some filter)

/-- An `ORDER BY` clause, or none. -/
inductive OrderClause : Category (Option SortOrder)
  | none : OrderClause [] none
  | plain {order by_ : Token} {ns : List Token} {column : Text} :
      order.kind = .keyword .ORDER → by_.kind = .keyword .BY → Name ns column →
      OrderClause (order :: by_ :: ns) (some ⟨column, false⟩)
  | ascending {order by_ direction : Token} {ns : List Token} {column : Text} :
      order.kind = .keyword .ORDER → by_.kind = .keyword .BY → Name ns column →
      direction.kind = .keyword .ASC →
      OrderClause (order :: by_ :: ns ++ [direction]) (some ⟨column, false⟩)
  | descending {order by_ direction : Token} {ns : List Token} {column : Text} :
      order.kind = .keyword .ORDER → by_.kind = .keyword .BY → Name ns column →
      direction.kind = .keyword .DESC →
      OrderClause (order :: by_ :: ns ++ [direction]) (some ⟨column, true⟩)

/-- A `LIMIT` clause, or none. A numeral that is no small natural number sets no limit. -/
inductive LimitClause : Category (Option Nat)
  | none : LimitClause [] none
  | limit {limit numeral : Token} :
      limit.kind = .keyword .LIMIT → numeral.kind = .number →
      LimitClause [limit, numeral] (limitOf? numeral.text)

/-- Three tokens that make a supported action. -/
def IsSupportedAction (tokens : List Token) : Prop :=
  ∃ first second target, tokens = [first, second, target] ∧ target.kind ∈ nameKinds ∧
    (first.kind, second.kind) ∈ [(TokenKind.keyword .RENAME, TokenKind.keyword .TO),
      (.keyword .ADD, .keyword .COLUMN), (.keyword .DROP, .keyword .COLUMN)]

/-- The change that the tokens of an action stand for. Only three tokens make a supported one. -/
inductive ActionMeaning : Category Alteration
  | rename {first second target : Token} :
      first.kind = .keyword .RENAME → second.kind = .keyword .TO → target.kind ∈ nameKinds →
      ActionMeaning [first, second, target] (.rename target.text)
  | addColumn {first second target : Token} :
      first.kind = .keyword .ADD → second.kind = .keyword .COLUMN → target.kind ∈ nameKinds →
      ActionMeaning [first, second, target] (.addColumn target.text)
  | dropColumn {first second target : Token} :
      first.kind = .keyword .DROP → second.kind = .keyword .COLUMN → target.kind ∈ nameKinds →
      ActionMeaning [first, second, target] (.dropColumn target.text)
  | unsupported {tokens : List Token} : ¬IsSupportedAction tokens →
      ActionMeaning tokens (.unsupported (Token.joinTexts tokens))

/-! ### Statements -/

/-- A list of phrases in parentheses. -/
inductive Parenthesized {α : Type} (item : Category α) : Category (List α)
  | intro {opening closing : Token} {ts : List Token} {as : List α} :
      opening.kind = .leftParen → Sequence item ts as → closing.kind = .rightParen →
      Parenthesized item (opening :: ts ++ [closing]) as

/-- A statement without a semicolon. -/
inductive Query : Category Statement
  | select {first from_ : Token} {cs ns ws os ls : List Token} {columns : List Text}
      {table : Text} {filter : Option Filter} {order : Option SortOrder} {limit : Option Nat} :
      first.kind = .keyword .SELECT → Sequence SelectItem cs columns →
      from_.kind = .keyword .FROM → Name ns table → WhereClause ws filter →
      OrderClause os order → LimitClause ls limit →
      Query (first :: cs ++ from_ :: ns ++ ws ++ os ++ ls)
        (.select ⟨table, columns, filter, order, limit⟩)
  | insert {first into values : Token} {ns vs : List Token} {table : Text} {row : List Value} :
      first.kind = .keyword .INSERT → into.kind = .keyword .INTO → Name ns table →
      values.kind = .keyword .VALUES → Parenthesized InsertedValue vs row →
      Query (first :: into :: ns ++ values :: vs) (.insert ⟨table, none, row⟩)
  | insertColumns {first into values : Token} {ns cs vs : List Token} {table : Text}
      {columns : List Text} {row : List Value} :
      first.kind = .keyword .INSERT → into.kind = .keyword .INTO → Name ns table →
      Parenthesized Name cs columns → values.kind = .keyword .VALUES →
      Parenthesized InsertedValue vs row →
      Query (first :: into :: ns ++ cs ++ values :: vs) (.insert ⟨table, some columns, row⟩)
  | update {first set : Token} {ns as ws : List Token} {table : Text}
      {assignments : List (Text × Value)} {filter : Option Filter} :
      first.kind = .keyword .UPDATE → Name ns table → set.kind = .keyword .SET →
      Sequence Assignment as assignments → WhereClause ws filter →
      Query (first :: ns ++ set :: as ++ ws) (.update ⟨table, assignments, filter⟩)
  | delete {first from_ : Token} {ns ws : List Token} {table : Text} {filter : Option Filter} :
      first.kind = .keyword .DELETE → from_.kind = .keyword .FROM → Name ns table →
      WhereClause ws filter →
      Query (first :: from_ :: ns ++ ws) (.delete ⟨table, filter⟩)
  | alterBare {first second : Token} {ns : List Token} {table : Text} :
      first.kind = .keyword .ALTER → second.kind = .keyword .TABLE → Name ns table →
      Query (first :: second :: ns) (.alter table (.unsupported []))
  | alter {first second : Token} {ns as : List Token} {table : Text} {alteration : Alteration} :
      first.kind = .keyword .ALTER → second.kind = .keyword .TABLE → Name ns table →
      Tokens actionKinds as → ActionMeaning as alteration →
      Query (first :: second :: ns ++ as) (.alter table alteration)

/-- A statement, with at most one semicolon at its end. -/
inductive Sentence : Category Statement
  | plain {ts : List Token} {s : Statement} : Query ts s → Sentence ts s
  | closed {ts : List Token} {semicolon : Token} {s : Statement} :
      Query ts s → semicolon.kind = .semicolon → Sentence (ts ++ [semicolon]) s

theorem Sentence.query_rest {tokens : List Token} {s : Statement} (h : Sentence tokens s) :
    ∃ ts rest, tokens = ts ++ rest ∧ Query ts s ∧
      (rest = [] ∨ ∃ t, t.kind = .semicolon ∧ rest = [t]) := by
  cases h with
  | plain h => exact ⟨tokens, [], by simp, h, .inl rfl⟩
  | closed h ht => exact ⟨_, _, rfl, h, .inr ⟨_, ht, rfl⟩⟩

end TableQuery.Grammar
