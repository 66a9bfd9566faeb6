import Mathlib.Data.List.Induction
import Mathlib.Data.List.TakeWhile
import Mathlib.Tactic.Tauto
import TableQuery.Proofs.Grammar

/-!
# Parsing phrases

Each part of the parser is set against its category of the grammar twice. What the part takes off
the front of some tokens is a phrase of the category (`..._sound`), and it takes such a phrase off
whenever what follows cannot continue it (`..._complete`).

* `expect_eq_ok`, `takeToken_eq_ok`: single tokens.
* `Follows`: what the next token can be.
* `ListParser`: parsers of phrases with commas between them.
* `filterMeaning_iff`, `actionMeaning_iff`: what the tokens of a clause and of an action stand for.
* `filterClause_sound`, `filterClause_complete`, and so on: the clauses.
-/

namespace TableQuery

open Text Grammar

/-! ### Single tokens -/

theorem takeToken_eq_ok {α : Type} {reading : Token → Option α} {tokens rest : List Token} {a : α} :
    takeToken reading tokens = .ok (a, rest) ↔ ∃ t, reading t = some a ∧ tokens = t :: rest := by
  cases tokens with
  | nil => simp [takeToken]
  | cons t ts =>
    cases h : reading t with
    | none =>
      simp only [takeToken, h, reduceCtorEq, List.cons.injEq, false_iff, not_exists, not_and]
      rintro t' ht' rfl
      simp [h] at ht'
    | some b =>
      simp only [takeToken, h, Except.ok.injEq, Prod.mk.injEq, List.cons.injEq]
      constructor
      · rintro ⟨rfl, rfl⟩
        exact ⟨t, h, rfl, rfl⟩
      · rintro ⟨t', ht', rfl, rfl⟩
        exact ⟨by simpa [h] using ht', rfl⟩

theorem expect_eq_ok {kind : TokenKind} {tokens rest : List Token} {u : Unit} :
    expect kind tokens = .ok (u, rest) ↔ ∃ t, t.kind = kind ∧ tokens = t :: rest := by
  simp [expect, takeToken_eq_ok]

theorem expect_cons {kind : TokenKind} {t : Token} (h : t.kind = kind) (rest : List Token) :
    expect kind (t :: rest) = .ok ((), rest) :=
  expect_eq_ok.2 ⟨t, h, rfl⟩

theorem isName_iff {t : Token} : t.isName = true ↔ t.kind ∈ nameKinds := by
  cases h : t.kind <;> simp [Token.isName, nameKinds, h]

theorem isValue_iff {t : Token} : t.isValue = true ↔ t.kind ∈ literalKinds := by
  cases h : t.kind <;> simp [Token.isValue, Token.isName, literalKinds, h]

theorem nameOf?_eq_some {t : Token} {name : Text} :
    nameOf? t = some name ↔ t.kind ∈ nameKinds ∧ t.text = name := by
  simp [nameOf?, isName_iff]

theorem literalOf?_eq_some {t : Token} {v : Value} :
    literalOf? t = some v ↔ t.kind ∈ literalKinds ∧ .ofText t.text = v := by
  simp [literalOf?, isValue_iff]

theorem name_iff {ts : List Token} {name : Text} :
    Name ts name ↔ ∃ t, ts = [t] ∧ nameOf? t = some name := by
  constructor
  · rintro ⟨h⟩
    exact ⟨_, rfl, nameOf?_eq_some.2 ⟨h, rfl⟩⟩
  · rintro ⟨t, rfl, h⟩
    obtain ⟨hkind, rfl⟩ := nameOf?_eq_some.1 h
    exact .intro hkind

theorem selectItem_iff {ts : List Token} {name : Text} :
    SelectItem ts name ↔ ∃ t, ts = [t] ∧ selectItemOf? t = some name := by
  constructor
  · rintro (⟨⟨h⟩⟩ | h)
    · exact ⟨_, rfl, by simp [selectItemOf?, isName_iff, h]⟩
    · exact ⟨_, rfl, by simp [selectItemOf?, h]⟩
  · rintro ⟨t, rfl, h⟩
    simp only [selectItemOf?, Bool.or_eq_true, isName_iff, beq_iff_eq,
      Option.ite_none_right_eq_some, Option.some.injEq] at h
    obtain ⟨hkind | hkind, rfl⟩ := h
    · exact .name (.intro hkind)
    · exact .star hkind

theorem insertedValue_iff {ts : List Token} {v : Value} :
    InsertedValue ts v ↔ ∃ t, ts = [t] ∧ insertedValueOf? t = some v := by
  constructor
  · rintro (h | h)
    · exact ⟨_, rfl, by simp [insertedValueOf?, h]⟩
    · rename_i t
      have hnot : t.kind ≠ .number := by
        intro hn
        simp [hn, nameKinds] at h
      exact ⟨_, rfl, by simp [insertedValueOf?, isName_iff, hnot, h]⟩
  · rintro ⟨t, rfl, h⟩
    simp only [insertedValueOf?, isName_iff] at h
    split at h
    · rename_i hkind
      obtain rfl := Option.some.inj h
      exact .number hkind
    · split at h
      · rename_i hkind
        obtain rfl := Option.some.inj h
        exact .text hkind
      · simp at h

theorem takeName_eq_ok {tokens rest : List Token} {name : Text} :
    takeToken nameOf? tokens = .ok (name, rest) ↔ ∃ ns, Name ns name ∧ tokens = ns ++ rest := by
  rw [takeToken_eq_ok]
  constructor
  · rintro ⟨t, ht, rfl⟩
    exact ⟨[t], name_iff.2 ⟨t, rfl, ht⟩, rfl⟩
  · rintro ⟨ns, hn, rfl⟩
    obtain ⟨t, rfl, ht⟩ := name_iff.1 hn
    exact ⟨t, ht, rfl⟩

theorem takeName_append {ns : List Token} {name : Text} (h : Name ns name) (rest : List Token) :
    takeToken nameOf? (ns ++ rest) = .ok (name, rest) :=
  takeName_eq_ok.2 ⟨ns, h, rfl⟩

/-! ### What can follow -/

/-- The next token, if there is one, is of one of some kinds. -/
def Follows (kinds : List TokenKind) (rest : List Token) : Prop :=
  ∀ t ∈ rest.head?, t.kind ∈ kinds

@[simp] theorem follows_nil (kinds : List TokenKind) : Follows kinds [] := by
  simp [Follows]

@[simp] theorem follows_cons {kinds : List TokenKind} {t : Token} {rest : List Token} :
    Follows kinds (t :: rest) ↔ t.kind ∈ kinds := by
  simp [Follows]

theorem Follows.mono {kinds kinds' : List TokenKind} {rest : List Token} (h : Follows kinds rest)
    (hsub : ∀ kind ∈ kinds, kind ∈ kinds') : Follows kinds' rest :=
  fun t ht => hsub _ (h t ht)

/-- A phrase between commas ends where no comma follows. -/
def NoComma (rest : List Token) : Prop := ∀ t ∈ rest.head?, t.kind ≠ .comma

theorem Follows.noComma {kinds : List TokenKind} {rest : List Token} (h : Follows kinds rest)
    (hc : .comma ∉ kinds) : NoComma rest :=
  fun t ht heq => hc (heq ▸ h t ht)

/-! ### Lists -/

section Lists

variable {α : Type} {item : Category α}

/-- A parser of phrases with commas between them: what it does after one phrase, with a comma
following and without. -/
structure ListParser (item : Category α)
    (parse : List Token → Except Obstacle (List α × List Token)) : Prop where
  last {ts rest : List Token} {a : α} : item ts a → NoComma rest →
    parse (ts ++ rest) = .ok ([a], rest)
  more {ts rest us : List Token} {comma : Token} {a : α} {as : List α} : item ts a →
    comma.kind = .comma → parse rest = .ok (as, us) →
    parse (ts ++ comma :: rest) = .ok (a :: as, us)
  sound {ts rest : List Token} {as : List α} : parse ts = .ok (as, rest) →
    ∃ us, ts = us ++ rest ∧ Sequence item us as

namespace ListParser

variable {parse : List Token → Except Obstacle (List α × List Token)}

/-- After a sequence and a comma the parser goes on with the phrases that follow. -/
theorem after_comma (hp : ListParser item parse) {ts rest us : List Token} {comma : Token}
    {as bs : List α} (h : Sequence item ts as) (hc : comma.kind = .comma)
    (hrest : parse rest = .ok (bs, us)) :
    parse (ts ++ comma :: rest) = .ok (as ++ bs, us) := by
  induction h generalizing comma rest bs with
  | single ha => exact hp.more ha hc hrest
  | more _ hc' hb ih =>
    have h := ih hc' (hp.more hb hc hrest)
    simpa using h

theorem complete (hp : ListParser item parse) {ts rest : List Token} {as : List α}
    (h : Sequence item ts as) (hrest : NoComma rest) : parse (ts ++ rest) = .ok (as, rest) := by
  cases h with
  | single ha => exact hp.last ha hrest
  | more h hc hb => simpa using hp.after_comma h hc (hp.last hb hrest)

end ListParser

/-- Phrases of a single token, which a reading tells apart. -/
def ReadBy (item : Category α) (reading : Token → Option α) : Prop :=
  ∀ ts a, item ts a ↔ ∃ t, ts = [t] ∧ reading t = some a

theorem listParser_takeCommaSeparated {reading : Token → Option α} (hitem : ReadBy item reading) :
    ListParser item (takeCommaSeparated reading) where
  last := by
    intro ts rest a ha hrest
    obtain ⟨t, rfl, ht⟩ := (hitem _ _).1 ha
    cases rest with
    | nil => simp [takeCommaSeparated, ht]
    | cons next rest =>
      have hnext : next.kind ≠ .comma := hrest next rfl
      simp [takeCommaSeparated, ht, hnext]
  more := by
    intro ts rest us comma a as ha hc hrest
    obtain ⟨t, rfl, ht⟩ := (hitem _ _).1 ha
    simp [takeCommaSeparated, ht, hc, hrest]
  sound := by
    intro ts rest as h
    -- the list ends with the tokens, goes on after a comma, or stops before another token
    fun_induction takeCommaSeparated reading ts generalizing as with
    | case1 => simp at h
    | case2 => simp at h
    | case3 t a ht =>
      obtain ⟨rfl, rfl⟩ : [a] = as ∧ [] = rest := by simpa using h
      exact ⟨[t], rfl, .single ((hitem _ _).2 ⟨t, rfl, ht⟩)⟩
    | case4 t a next tail ht hc ih =>
      obtain ⟨⟨bs, rest'⟩, hbs, h⟩ := bind_eq_ok.1 h
      obtain ⟨rfl, rfl⟩ : a :: bs = as ∧ rest' = rest := by simpa using h
      obtain ⟨us, rfl, hus⟩ := ih hbs
      exact ⟨[t] ++ next :: us, by simp, .cons ((hitem _ _).2 ⟨t, rfl, ht⟩) hc hus⟩
    | case5 t a next tail ht hc =>
      obtain ⟨rfl, rfl⟩ : [a] = as ∧ next :: tail = rest := by simpa using h
      exact ⟨[t], rfl, .single ((hitem _ _).2 ⟨t, rfl, ht⟩)⟩

theorem assignment_iff {ts : List Token} {a : Text × Value} :
    Assignment ts a ↔ ∃ n sign t, ts = [n, sign, t] ∧ nameOf? n = some a.1 ∧ sign.kind = .equal ∧
      literalOf? t = some a.2 := by
  constructor
  · rintro ⟨hn, hs, ht⟩
    obtain ⟨n', rfl, hn'⟩ := name_iff.1 hn
    exact ⟨n', _, _, rfl, hn', hs, literalOf?_eq_some.2 ⟨ht, rfl⟩⟩
  · obtain ⟨column, v⟩ := a
    rintro ⟨n, sign, t, rfl, hn, hs, ht⟩
    obtain ⟨hkind, rfl⟩ := literalOf?_eq_some.1 ht
    exact .intro (name_iff.2 ⟨n, rfl, hn⟩) hs hkind

theorem listParser_takeAssignments : ListParser Assignment takeAssignments where
  last := by
    intro ts rest a ha hrest
    obtain ⟨n, sign, t, rfl, hn, hs, ht⟩ := assignment_iff.1 ha
    cases rest with
    | nil => simp [takeAssignments, hn, hs, ht]
    | cons next rest =>
      have hnext : next.kind ≠ .comma := hrest next rfl
      simp [takeAssignments, hn, hs, ht, hnext]
  more := by
    intro ts rest us comma a as ha hc hrest
    obtain ⟨n, sign, t, rfl, hn, hs, ht⟩ := assignment_iff.1 ha
    simp [takeAssignments, hn, hs, ht, hc, hrest]
  sound := by
    intro ts rest as h
    fun_induction takeAssignments ts generalizing as with
    | case1 | case2 | case3 | case4 | case5 | case9 => simp at h
    | case6 n column sign hn hs t v ht =>
      obtain ⟨rfl, rfl⟩ : [(column, v)] = as ∧ [] = rest := by simpa using h
      exact ⟨[n, sign, t], rfl, .single (assignment_iff.2 ⟨n, sign, t, rfl, hn, hs, ht⟩)⟩
    | case7 n column sign hn hs t v next tail ht hc ih =>
      obtain ⟨⟨bs, rest'⟩, hbs, h⟩ := bind_eq_ok.1 h
      obtain ⟨rfl, rfl⟩ : (column, v) :: bs = as ∧ rest' = rest := by
        simpa using h
      obtain ⟨us, rfl, hus⟩ := ih hbs
      exact ⟨[n, sign, t] ++ next :: us, by simp,
        .cons (assignment_iff.2 ⟨n, sign, t, rfl, hn, hs, ht⟩) hc hus⟩
    | case8 n column sign hn hs t v next tail ht hc =>
      obtain ⟨rfl, rfl⟩ : [(column, v)] = as ∧ next :: tail = rest := by simpa using h
      exact ⟨[n, sign, t], rfl, .single (assignment_iff.2 ⟨n, sign, t, rfl, hn, hs, ht⟩)⟩

end Lists

/-! ### Clauses -/

theorem tokens_iff {kinds : List TokenKind} {ts : List Token} :
    Tokens kinds ts ↔ ts ≠ [] ∧ ∀ t ∈ ts, t.kind ∈ kinds := by
  constructor
  · intro h
    induction h with
    | single ht => simpa using ht
    | more _ ht ih =>
      refine ⟨by simp, fun t hmem => ?_⟩
      rcases List.mem_append.1 hmem with hmem | hmem
      · exact ih.2 t hmem
      · rwa [List.mem_singleton.1 hmem]
  · rintro ⟨hne, h⟩
    induction ts using List.reverseRecOn with
    | nil => exact absurd rfl hne
    | append_singleton ts t ih =>
      have ht : t.kind ∈ kinds := h t (by simp)
      by_cases hts : ts = []
      · subst hts
        exact .single ht
      · exact .more (ih hts fun u hu => h u (by simp [hu])) ht

theorem takeWhile_tokens {kinds : List TokenKind} {inside : Token → Bool}
    (hinside : ∀ t, inside t = true ↔ t.kind ∈ kinds) {ts rest : List Token}
    (hts : ∀ t ∈ ts, t.kind ∈ kinds) (hrest : ∀ t ∈ rest.head?, t.kind ∉ kinds) :
    (ts ++ rest).takeWhile inside = ts ∧ (ts ++ rest).dropWhile inside = rest := by
  have hts' : ∀ t ∈ ts, inside t = true := fun t ht => (hinside t).2 (hts t ht)
  rw [List.takeWhile_append_of_pos hts', List.dropWhile_append_of_pos hts']
  cases rest with
  | nil => simp
  | cons t rest =>
    have ht : inside t = false := by
      rw [← Bool.not_eq_true, hinside]
      exact hrest t rfl
    simp [ht]

theorem ofToken?_eq_some {t : Token} {o : Operator} :
    Operator.ofToken? t = some o ↔ (t.kind, o) ∈ operators := by
  cases h : t.kind with
  | keyword k => cases k <;> simp [Operator.ofToken?, operators, h, eq_comm]
  | _ => simp [Operator.ofToken?, operators, h, eq_comm]

theorem comparisonOf?_eq_some {ts rest : List Token} {c : Comparison} :
    comparisonOf? ts = some (c, rest) ↔ ∃ column operator literal o,
      ts = column :: operator :: literal :: rest ∧ column.kind ∈ nameKinds ∧
        (operator.kind, o) ∈ operators ∧ literal.kind ∈ literalKinds ∧
        c = ⟨column.text, o, .ofText literal.text⟩ := by
  match ts with
  | [] | [_] | [_, _] => simp [comparisonOf?]
  | column :: operator :: literal :: tail =>
    simp only [comparisonOf?, Option.bind_eq_bind, Option.bind_eq_some_iff, nameOf?_eq_some,
      ofToken?_eq_some, literalOf?_eq_some, Option.pure_def, Option.some.injEq, Prod.mk.injEq]
    constructor
    · rintro ⟨_, ⟨hcolumn, rfl⟩, o, ho, _, ⟨hliteral, rfl⟩, rfl, rfl⟩
      exact ⟨column, operator, literal, o, rfl, hcolumn, ho, hliteral, rfl⟩
    · rintro ⟨_, _, _, o, heq, hcolumn, ho, hliteral, rfl⟩
      obtain ⟨rfl, rfl, rfl, rfl⟩ : _ ∧ _ ∧ _ ∧ _ := by simpa using heq
      exact ⟨_, ⟨hcolumn, rfl⟩, o, ho, _, ⟨hliteral, rfl⟩, rfl, rfl⟩

theorem startsComparison_iff {ts : List Token} :
    StartsComparison ts ↔ (comparisonOf? ts).isSome = true := by
  rw [Option.isSome_iff_exists]
  constructor
  · rintro ⟨column, operator, literal, rest, rfl, hcolumn, ho, hliteral⟩
    obtain ⟨⟨_, o⟩, ho, rfl⟩ := List.mem_map.1 ho
    exact ⟨_,
      comparisonOf?_eq_some.2 ⟨column, operator, literal, o, rfl, hcolumn, ho, hliteral, rfl⟩⟩
  · rintro ⟨⟨c, rest⟩, h⟩
    obtain ⟨column, operator, literal, o, rfl, hcolumn, ho, hliteral, -⟩ :=
      comparisonOf?_eq_some.1 h
    exact ⟨column, operator, literal, rest, rfl, hcolumn, List.mem_map_of_mem ho, hliteral⟩

theorem filterMeaning_iff {ts : List Token} {filter : Filter} :
    FilterMeaning ts filter ↔ Filter.ofTokens ts = filter := by
  constructor
  · rintro (⟨hcolumn, ho, hliteral⟩ | h)
    · rw [Filter.ofTokens, comparisonOf?_eq_some.2 ⟨_, _, _, _, rfl, hcolumn, ho, hliteral, rfl⟩]
    · rw [startsComparison_iff, Bool.not_eq_true, Option.isSome_eq_false_iff,
        Option.isNone_iff_eq_none] at h
      rw [Filter.ofTokens, h]
  · rintro rfl
    rw [Filter.ofTokens]
    split
    · rename_i c rest h
      obtain ⟨column, operator, literal, o, rfl, hcolumn, ho, hliteral, rfl⟩ :=
        comparisonOf?_eq_some.1 h
      exact .comparison hcolumn ho hliteral
    · rename_i h
      exact .unparsed (by rw [startsComparison_iff, h]; simp)

theorem inFilterClause_iff (t : Token) : inFilterClause t = true ↔ t.kind ∈ clauseKinds := by
  rw [mem_clauseKinds]
  simp [inFilterClause, Token.isKeyword, and_assoc]

theorem filterClause_sound {tokens rest : List Token} {clause : Option (List Token)}
    (h : filterClause tokens = (clause, rest)) :
    ∃ ws, tokens = ws ++ rest ∧ WhereClause ws (clause.map Filter.ofTokens) := by
  cases tokens with
  | nil =>
    obtain ⟨rfl, rfl⟩ : none = clause ∧ [] = rest := by simpa [filterClause] using h
    exact ⟨[], rfl, .none⟩
  | cons w tail =>
    by_cases hw : w.kind = .keyword .WHERE
    · obtain ⟨rfl, rfl⟩ : some (tail.takeWhile inFilterClause) = clause ∧
          tail.dropWhile inFilterClause = rest := by
        simpa [filterClause, Token.isKeyword, hw] using h
      refine ⟨w :: tail.takeWhile inFilterClause, by simp, ?_⟩
      by_cases hnil : tail.takeWhile inFilterClause = []
      · rw [hnil]
        exact .blank hw
      · refine .clause hw (tokens_iff.2 ⟨hnil, fun t ht => ?_⟩) (filterMeaning_iff.2 rfl)
        rw [← inFilterClause_iff]
        exact List.mem_takeWhile_imp ht
    · obtain ⟨rfl, rfl⟩ : none = clause ∧ w :: tail = rest := by
        simpa [filterClause, Token.isKeyword, hw] using h
      exact ⟨[], rfl, .none⟩

theorem filterClause_complete {ws rest : List Token} {filter : Option Filter}
    (h : WhereClause ws filter)
    (hrest : Follows [.keyword .ORDER, .keyword .LIMIT, .semicolon] rest) :
    ∃ clause, filterClause (ws ++ rest) = (clause, rest) ∧ clause.map Filter.ofTokens = filter := by
  -- a clause takes in every kind of token but those with which the rest can start
  have hstop : ∀ t ∈ rest.head?, t.kind ∉ clauseKinds := by
    intro t ht
    have := hrest t ht
    rw [mem_clauseKinds]
    simp only [List.mem_cons, List.not_mem_nil, or_false] at this
    tauto
  cases h with
  | none =>
    refine ⟨none, ?_, rfl⟩
    cases rest with
    | nil => rfl
    | cons t rest =>
      have ht : t.kind ≠ .keyword .WHERE := by
        intro hkind
        exact hstop t rfl (hkind ▸ by decide)
      simp [filterClause, Token.isKeyword, ht]
  | blank hw =>
    obtain ⟨htake, hdrop⟩ := takeWhile_tokens inFilterClause_iff (List.forall_mem_nil _) hstop
    rw [List.nil_append] at htake hdrop
    exact ⟨some [], by simp [filterClause, Token.isKeyword, hw, htake, hdrop], rfl⟩
  | @clause _ ts _ hw hts hmeaning =>
    obtain ⟨htake, hdrop⟩ := takeWhile_tokens inFilterClause_iff (tokens_iff.1 hts).2 hstop
    exact ⟨some ts, by simp [filterClause, Token.isKeyword, hw, htake, hdrop],
      congrArg some (filterMeaning_iff.1 hmeaning)⟩

theorem orderClause_sound {tokens rest : List Token} {order : Option SortOrder}
    (h : orderClause tokens = .ok (order, rest)) :
    ∃ os, tokens = os ++ rest ∧ OrderClause os order := by
  cases tokens with
  | nil =>
    obtain ⟨rfl, rfl⟩ : none = order ∧ [] = rest := by simpa [orderClause] using h
    exact ⟨[], rfl, .none⟩
  | cons first tail =>
    by_cases hfirst : first.kind = .keyword .ORDER
    · simp only [orderClause, Token.isKeyword, hfirst, beq_self_eq_true, if_true] at h
      obtain ⟨⟨_, tail'⟩, htakeBy, hbody⟩ := bind_eq_ok.1 h
      obtain ⟨⟨column, tail''⟩, htakeName, hlast⟩ := bind_eq_ok.1 hbody
      obtain ⟨by_, hby, rfl⟩ := expect_eq_ok.1 htakeBy
      obtain ⟨ns, hname, rfl⟩ := takeName_eq_ok.1 htakeName
      cases tail'' with
      | nil =>
        obtain ⟨rfl, rfl⟩ : some ⟨column, false⟩ = order ∧ [] = rest := by
          simpa using hlast
        exact ⟨first :: by_ :: ns, by simp, .plain hfirst hby hname⟩
      | cons direction tail'' =>
        by_cases hasc : direction.kind = .keyword .ASC
        · obtain ⟨rfl, rfl⟩ : some ⟨column, false⟩ = order ∧ tail'' = rest := by
            simpa [hasc] using hlast
          exact ⟨first :: by_ :: ns ++ [direction], by simp, .ascending hfirst hby hname hasc⟩
        by_cases hdesc : direction.kind = .keyword .DESC
        · obtain ⟨rfl, rfl⟩ : some ⟨column, true⟩ = order ∧ tail'' = rest := by
            simpa [hdesc] using hlast
          exact ⟨first :: by_ :: ns ++ [direction], by simp, .descending hfirst hby hname hdesc⟩
        obtain ⟨rfl, rfl⟩ : some ⟨column, false⟩ = order ∧ direction :: tail'' = rest := by
          simpa [hasc, hdesc] using hlast
        exact ⟨first :: by_ :: ns, by simp, .plain hfirst hby hname⟩
    · obtain ⟨rfl, rfl⟩ : none = order ∧ first :: tail = rest := by
        simpa [orderClause, Token.isKeyword, hfirst] using h
      exact ⟨[], rfl, .none⟩

theorem orderClause_complete {os rest : List Token} {order : Option SortOrder}
    (h : OrderClause os order) (hrest : Follows [.keyword .LIMIT, .semicolon] rest) :
    orderClause (os ++ rest) = .ok (order, rest) := by
  cases h with
  | none =>
    cases rest with
    | nil => rfl
    | cons t rest =>
      have ht : t.kind ≠ .keyword .ORDER := by
        intro hkind
        simp [hkind] at hrest
      simp [orderClause, Token.isKeyword, ht]
  | plain hfirst hby hname =>
    obtain ⟨n, rfl, hn⟩ := name_iff.1 hname
    cases rest with
    | nil =>
      simp [orderClause, Token.isKeyword, hfirst, expect, takeToken, hby, hn]
    | cons t rest =>
      have hasc : t.kind ≠ .keyword .ASC := by
        intro hkind
        simp [hkind] at hrest
      have hdesc : t.kind ≠ .keyword .DESC := by
        intro hkind
        simp [hkind] at hrest
      simp [orderClause, Token.isKeyword, hfirst, expect, takeToken, hby, hn, hasc, hdesc]
  | ascending hfirst hby hname hasc =>
    obtain ⟨n, rfl, hn⟩ := name_iff.1 hname
    simp [orderClause, Token.isKeyword, hfirst, expect, takeToken, hby, hn, hasc]
  | descending hfirst hby hname hdesc =>
    obtain ⟨n, rfl, hn⟩ := name_iff.1 hname
    simp [orderClause, Token.isKeyword, hfirst, expect, takeToken, hby, hn, hdesc]

theorem limitClause_sound {tokens rest : List Token} {numeral : Option Text}
    (h : limitClause tokens = .ok (numeral, rest)) :
    ∃ ls, tokens = ls ++ rest ∧ LimitClause ls (numeral.bind limitOf?) := by
  cases tokens with
  | nil =>
    obtain ⟨rfl, rfl⟩ : none = numeral ∧ [] = rest := by simpa [limitClause] using h
    exact ⟨[], rfl, .none⟩
  | cons first tail =>
    by_cases hfirst : first.kind = .keyword .LIMIT
    · simp only [limitClause, Token.isKeyword, hfirst, beq_self_eq_true, if_true, map_eq_ok] at h
      obtain ⟨⟨text, rest'⟩, htake, h⟩ := h
      obtain ⟨rfl, rfl⟩ : some text = numeral ∧ rest' = rest := by simpa using h
      obtain ⟨t, ht, rfl⟩ := takeToken_eq_ok.1 htake
      obtain ⟨hkind, rfl⟩ : t.kind = .number ∧ t.text = text := by simpa using ht
      exact ⟨[first, t], rfl, .limit hfirst hkind⟩
    · obtain ⟨rfl, rfl⟩ : none = numeral ∧ first :: tail = rest := by
        simpa [limitClause, Token.isKeyword, hfirst] using h
      exact ⟨[], rfl, .none⟩

theorem limitClause_complete {ls rest : List Token} {limit : Option Nat}
    (h : LimitClause ls limit) (hrest : Follows [.semicolon] rest) :
    ∃ numeral, limitClause (ls ++ rest) = .ok (numeral, rest) ∧ numeral.bind limitOf? = limit := by
  cases h with
  | none =>
    refine ⟨none, ?_, rfl⟩
    cases rest with
    | nil => rfl
    | cons t rest =>
      have ht : t.kind ≠ .keyword .LIMIT := by
        intro hkind
        simp [hkind] at hrest
      simp [limitClause, Token.isKeyword, ht]
  | @limit first t hfirst ht =>
    refine ⟨some t.text, ?_, rfl⟩
    simp [limitClause, Token.isKeyword, hfirst, takeToken, ht, Except.map]

/-! ### The action of an `ALTER TABLE` -/

theorem inAction_iff (t : Token) : inAction t = true ↔ t.kind ∈ actionKinds := by
  rw [mem_actionKinds]
  simp [inAction]

theorem not_supported {ts : List Token} (h : ¬IsSupportedAction ts) :
    Alteration.ofTokens ts = .unsupported (Token.joinTexts ts) := by
  unfold Alteration.ofTokens
  split
  · rename_i first second target
    split
    all_goals first
      | rfl
      | rename_i hfirst hsecond htarget
        exact absurd ⟨first, second, target, rfl, (nameOf?_eq_some.1 htarget).1,
          by simp [hfirst, hsecond]⟩ h
  · rfl

theorem actionMeaning_iff {ts : List Token} {alteration : Alteration} :
    ActionMeaning ts alteration ↔ Alteration.ofTokens ts = alteration := by
  constructor
  · rintro (⟨hfirst, hsecond, ht⟩ | ⟨hfirst, hsecond, ht⟩ | ⟨hfirst, hsecond, ht⟩ | h)
    · simp [Alteration.ofTokens, hfirst, hsecond, nameOf?, isName_iff, ht]
    · simp [Alteration.ofTokens, hfirst, hsecond, nameOf?, isName_iff, ht]
    · simp [Alteration.ofTokens, hfirst, hsecond, nameOf?, isName_iff, ht]
    · exact not_supported h
  · rintro rfl
    by_cases h : IsSupportedAction ts
    · obtain ⟨first, second, target, rfl, ht, hkinds⟩ := h
      simp only [List.mem_cons, Prod.mk.injEq, List.not_mem_nil, or_false] at hkinds
      rcases hkinds with ⟨hfirst, hsecond⟩ | ⟨hfirst, hsecond⟩ | ⟨hfirst, hsecond⟩
      · simpa [Alteration.ofTokens, hfirst, hsecond, nameOf?, isName_iff, ht] using
          ActionMeaning.rename hfirst hsecond ht
      · simpa [Alteration.ofTokens, hfirst, hsecond, nameOf?, isName_iff, ht] using
          ActionMeaning.addColumn hfirst hsecond ht
      · simpa [Alteration.ofTokens, hfirst, hsecond, nameOf?, isName_iff, ht] using
          ActionMeaning.dropColumn hfirst hsecond ht
    · rw [not_supported h]
      exact .unsupported h

end TableQuery
