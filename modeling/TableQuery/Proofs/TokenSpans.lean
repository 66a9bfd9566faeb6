import Mathlib.Data.List.Forall2
import TableQuery.Proofs.Cuts

/-!
# Spans of tokens

Splitting a text goes from lexeme to lexeme. Each of them takes a span off, and what is in no span
of a token is white space or a comment.

* `Span`: the places of a text from one to another.
* `units`, `reduced`: the pairs of a backslash and what it keeps, and the text without the
  backslashes.
* `IsLineComment`: a comment up to the end of its line.
* `Token.IsSpelled`: what the source of a token looks like, and what can follow it.
* `Scan`: a run of the scanner from a place to the end of the text.
* `Tokenization`: tokens with the spans that they have in a text.
* `tokenize_loses_nothing`: every text has a tokenization, and its tokens are those of `tokenize`.
-/

namespace TableQuery

open Text

/-! ### Spans -/

/-- The places of a text from the first up to the stop, which is no longer one of them. -/
structure Span (text : Text) where
  first : Nat
  stop : Nat
  first_lt_stop : first < stop
  stop_le_length : stop ≤ text.length

namespace Span

variable {text : Text}

instance : Membership Nat (Span text) :=
  ⟨fun span i => span.first ≤ i ∧ i < span.stop⟩

theorem mem_iff {span : Span text} {i : Nat} : i ∈ span ↔ span.first ≤ i ∧ i < span.stop :=
  Iff.rfl

/-- How many places there are. -/
def length (span : Span text) : Nat :=
  span.stop - span.first

/-- What stands there. -/
def source (span : Span text) : Text :=
  (text.drop span.first).take span.length

/-- What stands behind. -/
def following (span : Span text) : Text :=
  text.drop span.stop

theorem getElem_mem_source {span : Span text} {i : Nat} (hmem : i ∈ span) (hi : i < text.length) :
    text[i] ∈ span.source := by
  obtain ⟨hfirst, hstop⟩ := hmem
  rw [source, List.mem_take_iff_getElem]
  refine ⟨i - span.first, ?_, ?_⟩
  · simp only [length, List.length_drop]
    omega
  · simp only [List.getElem_drop]
    congr 1
    omega

end Span

/-! ### Quoted texts -/

/-- A text in its units: a backslash with the code point that it keeps, or a code point on its
own. -/
def units : Text → List Text
  | [] => []
  | p :: rest =>
    if p = '\\' then
      match rest with
      | [] => [[p]]
      | kept :: rest => [p, kept] :: units rest
    else [p] :: units rest

/-- A text with each pair of a backslash and a code point reduced to the second of them. -/
def reduced (t : Text) : Text :=
  (units t).filterMap List.getLast?

/-- A text that can stand between two quotes: each such quote in it is kept by a backslash, no
backslash is left to keep the closing quote, and none keeps a line feed. -/
def IsEscaped (mark : Point) (inner : Text) : Prop :=
  ∀ unit ∈ units inner, unit ≠ [mark] ∧ unit ≠ [.char '\\'] ∧ unit ≠ [.char '\\', .char '\n']

theorem units_slash (kept : Point) (rest : Text) :
    units ('\\' :: kept :: rest) = [.char '\\', kept] :: units rest := by
  simp [units]

theorem units_cons {p : Point} (hp : p ≠ '\\') (rest : Text) :
    units (p :: rest) = [p] :: units rest := by
  rw [units.eq_def]
  simp [hp]

/-- The source of a quoted text after its opening quote is an escaped text with the closing
quote. -/
theorem Closes.exists_inner {mark : Point} {source text : Text} (h : Closes mark source text) :
    ∃ inner, source = inner ++ [mark] ∧ IsEscaped mark inner ∧ text = reduced inner := by
  induction h with
  | close => exact ⟨[], rfl, by simp [IsEscaped, units], rfl⟩
  | @kept p source text hp _ ih =>
    obtain ⟨inner, rfl, hescaped, rfl⟩ := ih
    refine ⟨.char '\\' :: p :: inner, rfl, ?_, ?_⟩
    · rw [IsEscaped, units_slash, List.forall_mem_cons]
      exact ⟨by simp [hp], hescaped⟩
    · simp [reduced, units_slash]
  | @plain p source text hmark hslash _ ih =>
    obtain ⟨inner, rfl, hescaped, rfl⟩ := ih
    refine ⟨p :: inner, rfl, ?_, ?_⟩
    · rw [IsEscaped, units_cons hslash, List.forall_mem_cons]
      exact ⟨by simp [hmark, hslash], hescaped⟩
    · simp [reduced, units_cons hslash]

/-! ### Comments -/

/-- A comment, from two dashes up to the end of the line. -/
structure IsLineComment (source following : Text) : Prop where
  dashes : [.char '-', .char '-'] <+: source
  on_line : ∀ p ∈ source, p ≠ '\n'
  to_end : ∀ p ∈ following.head?, p = '\n'

/-- What is skipped is a blank or a comment. -/
theorem Portion.skipped {source following : Text} (h : Portion source none following) :
    (∃ p ∈ gaps, source = [p]) ∨ IsLineComment source following := by
  cases h with
  | stretch h =>
    cases h with
    | gap hp => exact Or.inl ⟨_, hp, rfl⟩
    | @comment body _ hbody hfollowing =>
      refine Or.inr ⟨⟨body, rfl⟩, ?_, hfollowing⟩
      rintro p (_ | ⟨_, _ | ⟨_, hp⟩⟩)
      · decide
      · decide
      · exact hbody p hp

/-! ### Spelled tokens -/

theorem runKind_eq_keyword_iff {run : Text} {k : Keyword} :
    runKind run = .keyword k ↔ isIdentifier run = true ∧ (lower run, k) ∈ Keyword.reserved := by
  rw [← Keyword.ofLower?_eq_some_iff]
  unfold runKind
  by_cases hidentifier : isIdentifier run = true
  · cases hword : Keyword.ofLower? (lower run) <;> simp [hidentifier]
  · by_cases hnumeral : isNumeral run = true <;> simp [hidentifier, hnumeral]

theorem trim_of_inRun {run : Text} (h : ∀ p ∈ run, inRun p = true) : trim run = run :=
  trim_eq_self (fun p hp => isBlank_of_inRun (h p (List.mem_of_mem_head? hp)))
    fun p hp => isBlank_of_inRun (h p (List.mem_of_mem_getLast? hp))

/-- No numeral has the shape of a name, so that a run is a number just when it is a numeral. -/
theorem runKind_eq_number_iff {run : Text} (h : ∀ p ∈ run, inRun p = true) :
    runKind run = .number ↔ isNumeral run = true := by
  refine ⟨isNumeral_of_runKind, fun hnumeral => ?_⟩
  obtain ⟨numeral, hsome⟩ := Option.isSome_iff_exists.1 hnumeral
  have htrim := trim_of_inRun h
  rw [numeral?, htrim] at hsome
  exact runKind_numeral hsome htrim

theorem inRun_eq_true_iff {p : Point} : inRun p = true ↔ isBlank p = false ∧ p ∉ runEnds := by
  simp [inRun]

theorem inRun_eq_false_iff {p : Point} : inRun p = false ↔ isBlank p = true ∨ p ∈ runEnds := by
  rw [Bool.eq_false_iff, Ne, inRun_eq_true_iff]
  cases isBlank p <;> simp

/-- An unquoted run of a kind, which nothing that follows could continue. -/
structure IsWholeRun (kind : TokenKind) (run following : Text) : Prop where
  solid : ∀ p ∈ run, isBlank p = false ∧ p ∉ runEnds
  ends : ∀ p ∈ following.head?, isBlank p = true ∨ p ∈ runEnds
  keyword : ∀ k, kind = .keyword k ↔
    isIdentifier run = true ∧ (lower run, k) ∈ Keyword.reserved
  number : kind = .number ↔ isNumeral run = true

theorem isWholeRun_runKind {run following : Text} (hrun : ∀ p ∈ run, inRun p = true)
    (hfollowing : Breaks following) : IsWholeRun (runKind run) run following where
  solid p hp := inRun_eq_true_iff.1 (hrun p hp)
  ends p hp := inRun_eq_false_iff.1 (hfollowing p hp)
  keyword _ := runKind_eq_keyword_iff
  number := runKind_eq_number_iff hrun

/-- What the source of a token is, and what can follow it. -/
structure Token.IsSpelled (token : Token) (source following : Text) : Prop where
  quoted : token.kind = .string → ∃ mark inner, IsMark mark ∧ source = mark :: inner ++ [mark] ∧
    IsEscaped mark inner ∧ token.text = reduced inner
  plain : token.kind ≠ .string → source = token.text
  run : token.kind.isRun = true → IsWholeRun token.kind token.text following
  sign : ¬token.kind.isRun = true → token.kind ≠ .string → token.kind ≠ .other →
    (token.text, token.kind) ∈ signs
  /-- Only a single code point that starts nothing else is an unknown token. -/
  unknown : token.kind = .other → ∃ p, token.text = [p] ∧ Stray p following

theorem isSpelled_literal {mark : Point} {source text : Text} (hmark : IsMark mark)
    (h : Closes mark source text) (position : Nat) (following : Text) :
    Token.IsSpelled ⟨.string, text, position⟩ (mark :: source) following := by
  obtain ⟨inner, rfl, hescaped, rfl⟩ := h.exists_inner
  exact {
    quoted := fun _ => ⟨mark, inner, hmark, rfl, hescaped, rfl⟩
    plain := fun hkind => absurd rfl hkind
    run := fun hkind => absurd hkind Bool.false_ne_true
    sign := fun _ hkind => absurd rfl hkind
    unknown := fun hkind => TokenKind.noConfusion hkind }

theorem isSpelled_run {run following : Text} (hrun : ∀ p ∈ run, inRun p = true)
    (hfollowing : Breaks following) (position : Nat) :
    Token.IsSpelled ⟨runKind run, run, position⟩ run following where
  quoted hkind := absurd hkind (runKind_ne run rfl)
  plain _ := rfl
  run _ := isWholeRun_runKind hrun hfollowing
  sign hkind := absurd (isRun_runKind run) hkind
  unknown hkind := absurd hkind (runKind_ne run rfl)

theorem isSpelled_sign {text : Text} {kind : TokenKind} (h : (text, kind) ∈ signs)
    (position : Nat) (following : Text) :
    Token.IsSpelled ⟨kind, text, position⟩ text following := by
  have hkinds : ∀ entry ∈ signs, entry.2.isRun ≠ true ∧ entry.2 ≠ .string ∧ entry.2 ≠ .other := by
    decide
  obtain ⟨hrun, hstring, hother⟩ := hkinds _ h
  exact {
    quoted := fun hkind => absurd hkind hstring
    plain := fun _ => rfl
    run := fun hkind => absurd hkind hrun
    sign := fun _ _ _ => h
    unknown := fun hkind => absurd hkind hother }

theorem isSpelled_stray {p : Point} {following : Text} (h : Stray p following) (position : Nat) :
    Token.IsSpelled ⟨.other, [p], position⟩ [p] following where
  quoted hkind := TokenKind.noConfusion hkind
  plain _ := rfl
  run hkind := absurd hkind Bool.false_ne_true
  sign _ _ hkind := absurd rfl hkind
  unknown _ := ⟨p, rfl, h⟩

/-- What is taken off as a token spells that token. -/
theorem Portion.isSpelled {source following text : Text} {kind : TokenKind}
    (h : Portion source (some (kind, text)) following) (position : Nat) :
    Token.IsSpelled ⟨kind, text, position⟩ source following := by
  cases h with
  | stretch h =>
    cases h with
    | literal hmark hcloses => exact isSpelled_literal hmark hcloses position _
    | run hp hrun _ hfollowing =>
      exact isSpelled_run (List.forall_mem_cons.2 ⟨hp, hrun⟩) hfollowing position
    | sign hsign _ => exact isSpelled_sign hsign position _
  | stray h => exact isSpelled_stray h position

/-! ### Runs of the scanner -/

/-- The lexeme that starts at a place of a text. -/
def lexemeAt? (text : Text) (position : Nat) : Option Lexeme :=
  match text.drop position with
  | [] => none
  | p :: rest => some (lexeme p rest)

/-- A run of the scanner from a place on: as long as the end of the text is not reached, a lexeme is
taken off, and the next one starts where it stops. The tokens are listed with their spans. -/
inductive Scan (text : Text) : Nat → List Token → List (Span text) → Prop
  | done : Scan text text.length [] []
  | skip (span : Span text) {tokens : List Token} {spans : List (Span text)} :
      lexemeAt? text span.first = some (.skipped span.length) → Scan text span.stop tokens spans →
      Scan text span.first tokens spans
  | token (span : Span text) {kind : TokenKind} {value : Text} {tokens : List Token}
      {spans : List (Span text)} :
      lexemeAt? text span.first = some (.token kind value span.length) →
      Scan text span.stop tokens spans →
      Scan text span.first (⟨kind, value, span.first⟩ :: tokens) (span :: spans)

theorem Lexeme.ofContent_inj {a b : Option (TokenKind × Text)} {m n : Nat}
    (h : ofContent a m = ofContent b n) : a = b ∧ m = n := by
  rcases a with _ | ⟨kind, text⟩ <;> rcases b with _ | ⟨kind', text'⟩ <;> cases h <;>
    exact ⟨rfl, rfl⟩

/-- The span of a lexeme is a portion of the text. -/
theorem Span.portion {text : Text} (span : Span text) (content : Option (TokenKind × Text))
    (h : lexemeAt? text span.first = some (.ofContent content span.length)) :
    Portion span.source content span.following := by
  unfold lexemeAt? at h
  split at h
  · simp at h
  rename_i p rest hdrop
  obtain ⟨passed, found, after, rfl, hportion⟩ := exists_portion p rest
  rw [hportion.lexeme_eq, Option.some.injEq] at h
  -- the portion at the front has just the length of the span
  obtain ⟨rfl, hlength⟩ := Lexeme.ofContent_inj h
  have hsource : span.source = p :: passed := by
    rw [Span.source, hdrop, ← hlength, List.take_succ_cons, List.take_left]
  have hfollowing : span.following = after := by
    have hstop : span.stop = span.first + (passed.length + 1) := by
      have := span.first_lt_stop
      simp only [hlength, Span.length]
      omega
    rw [Span.following, hstop, ← List.drop_drop, hdrop, List.drop_succ_cons, List.drop_left]
  rw [hsource, hfollowing]
  exact hportion

/-- The scanner comes to the end of the text from every place where a lexeme starts. -/
theorem exists_scan {text before rest : Text} (htext : text = before ++ rest) :
    ∃ spans, Scan text before.length (tokensFrom before.length 0 rest) spans := by
  -- each portion takes something off what is left of the text
  induction hlength : rest.length using Nat.strong_induction_on generalizing before rest with
  | h n ih =>
    cases rest with
    | nil =>
      have hend : before.length = text.length := by simp [htext]
      rw [hend, tokensFrom]
      exact ⟨[], .done⟩
    | cons p rest =>
      obtain ⟨passed, content, after, rfl, hportion⟩ := exists_portion p rest
      have hshort : after.length < n := by
        simp only [List.length_cons, List.length_append] at hlength
        omega
      have hafter : text = before ++ (p :: passed) ++ after := by simp [htext]
      obtain ⟨spans, hscan⟩ := ih _ hshort hafter rfl
      let span : Span text :=
        ⟨before.length, before.length + (p :: passed).length, by simp, by simp [hafter]⟩
      have hlexeme : lexemeAt? text before.length = some (.ofContent content span.length) := by
        simp [lexemeAt?, htext, hportion.lexeme_eq, span, Span.length]
      rw [← List.cons_append, hportion.tokensFrom_append]
      rw [List.length_append] at hscan
      cases content with
      | none => exact ⟨spans, .skip span hlexeme hscan⟩
      | some content => exact ⟨span :: spans, .token span hlexeme hscan⟩

namespace Scan

variable {text : Text} {position : Nat} {tokens : List Token} {spans : List (Span text)}

theorem le_first (h : Scan text position tokens spans) :
    ∀ span ∈ spans, position ≤ span.first := by
  induction h with
  | done => simp
  | @skip span _ _ _ _ ih =>
    intro later hlater
    have := span.first_lt_stop
    have := ih later hlater
    omega
  | @token span _ _ _ _ _ _ ih =>
    refine List.forall_mem_cons.2 ⟨le_rfl, fun later hlater => ?_⟩
    have := span.first_lt_stop
    have := ih later hlater
    omega

theorem disjoint (h : Scan text position tokens spans) :
    spans.Pairwise fun a b => a.stop ≤ b.first := by
  induction h with
  | done => exact .nil
  | skip _ _ _ ih => exact ih
  | token _ _ hscan ih => exact .cons hscan.le_first ih

theorem isSpelled (h : Scan text position tokens spans) :
    List.Forall₂ (fun token span => token.position = span.first ∧
      token.IsSpelled span.source span.following) tokens spans := by
  induction h with
  | done => exact .nil
  | skip _ _ _ ih => exact ih
  | @token span kind value _ _ hlexeme _ ih =>
    have hportion := span.portion (some (kind, value)) hlexeme
    exact .cons ⟨rfl, hportion.isSpelled _⟩ ih

theorem map_position (h : Scan text position tokens spans) :
    tokens.map Token.position = spans.map Span.first := by
  induction h with
  | done => rfl
  | skip _ _ _ ih => exact ih
  | token _ _ _ ih => rw [List.map_cons, List.map_cons, ih]

theorem increasing (h : Scan text position tokens spans) :
    tokens.Pairwise fun a b => a.position < b.position := by
  have hfirsts : (spans.map Span.first).Pairwise (· < ·) := by
    rw [List.pairwise_map]
    exact h.disjoint.imp fun {a b} hab => Nat.lt_of_lt_of_le a.first_lt_stop hab
  rwa [← h.map_position, List.pairwise_map] at hfirsts

/-- Every place from the start of a run on is in the span of a token, or it is skipped. -/
theorem exists_span (h : Scan text position tokens spans) {i : Nat} (hfrom : position ≤ i)
    (hi : i < text.length) :
    ∃ span : Span text, i ∈ span ∧ position ≤ span.first ∧
      (span ∈ spans ∨
        Portion span.source none span.following ∧ ∀ j ∈ span, ∀ other ∈ spans, j ∉ other) := by
  induction h with
  | done => omega
  | @skip span tokens spans hlexeme hscan ih =>
    by_cases hin : i < span.stop
    · refine ⟨span, ⟨hfrom, hin⟩, le_rfl, Or.inr ⟨span.portion none hlexeme, ?_⟩⟩
      -- the tokens still to come start where the skipped span stops, or later
      intro j hj later hlater hmem
      have := hscan.le_first later hlater
      simp only [Span.mem_iff] at hj hmem
      omega
    · obtain ⟨later, hmem, hbehind, hlater⟩ := ih (by omega)
      have := span.first_lt_stop
      exact ⟨later, hmem, by omega, hlater⟩
  | @token span kind value tokens spans hlexeme hscan ih =>
    by_cases hin : i < span.stop
    · exact ⟨span, ⟨hfrom, hin⟩, le_rfl, Or.inl List.mem_cons_self⟩
    · obtain ⟨later, hmem, hbehind, hlater⟩ := ih (by omega)
      have := span.first_lt_stop
      refine ⟨later, hmem, by omega, ?_⟩
      rcases hlater with hlater | ⟨hportion, hapart⟩
      · exact Or.inl (List.mem_cons_of_mem _ hlater)
      · refine Or.inr ⟨hportion, fun j hj => List.forall_mem_cons.2 ⟨fun hspan => ?_, hapart j hj⟩⟩
        simp only [Span.mem_iff] at hj hspan
        omega

/-- What no token takes in is a blank or in a comment. -/
theorem covered (h : Scan text 0 tokens spans) {i : Nat} (hi : i < text.length)
    (hnone : ∀ span ∈ spans, i ∉ span) :
    text[i] ∈ gaps ∨ ∃ comment : Span text, IsLineComment comment.source comment.following ∧
      i ∈ comment ∧ ∀ j ∈ comment, ∀ span ∈ spans, j ∉ span := by
  obtain ⟨span, hmem, -, hspan | ⟨hportion, hapart⟩⟩ := h.exists_span (Nat.zero_le i) hi
  · exact absurd hmem (hnone span hspan)
  · rcases hportion.skipped with ⟨p, hp, hsource⟩ | hcomment
    · have hpoint := Span.getElem_mem_source hmem hi
      rw [hsource, List.mem_singleton] at hpoint
      exact Or.inl (hpoint ▸ hp)
    · exact Or.inr ⟨span, hcomment, hmem, hapart⟩

end Scan

/-! ### Tokenizations -/

/-- Tokens of a text with their spans, and nothing but white space and comments between them. -/
structure Tokenization (text : Text) (tokens : List Token) (spans : List (Span text)) : Prop where
  /-- The scanner reaches the end of the text. -/
  finishes : Scan text 0 tokens spans
  increasing : tokens.Pairwise fun a b => a.position < b.position
  disjoint : spans.Pairwise fun a b => a.stop ≤ b.first
  spelled : List.Forall₂ (fun token span => token.position = span.first ∧
    token.IsSpelled span.source span.following) tokens spans
  covered : ∀ (i : Nat) (hi : i < text.length), (∀ span ∈ spans, i ∉ span) →
    text[i] ∈ gaps ∨ ∃ comment : Span text, IsLineComment comment.source comment.following ∧
      i ∈ comment ∧ ∀ j ∈ comment, ∀ span ∈ spans, j ∉ span

/-- Every text, however malformed, is scanned to its end, and what it is split into has a place of
its own in the text, with nothing lost but white space and comments. -/
theorem tokenize_loses_nothing (text : Text) :
    ∃ spans, Tokenization text (tokenize text) spans := by
  obtain ⟨spans, hscan⟩ := exists_scan (List.nil_append text).symm
  exact ⟨spans, {
    finishes := hscan
    increasing := hscan.increasing
    disjoint := hscan.disjoint
    spelled := hscan.isSpelled
    covered := fun _ hi hnone => hscan.covered hi hnone }⟩

/-- Dashes inside a word start no comment, and a quote that is not closed stands alone. -/
example : tokenize "a--b -- c\n'd\\'e' \"" =
    [⟨.word, "a--b", 0⟩, ⟨.string, "d'e", 10⟩, ⟨.other, "\"", 17⟩] := by
  decide +kernel

end TableQuery
