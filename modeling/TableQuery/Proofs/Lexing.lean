import TableQuery.Proofs.Grammar
import TableQuery.Proofs.Numerals
import TableQuery.Query.Form

/-!
# What a text is split into

A stretch of text is looked at together with the text that follows it, since a lexeme can depend on
what comes next.

* `Reads`: a stretch is split off into tokens of a category, wherever it stands.
* `Reads.append`, `Reads.blank`: stretches after one another.
* `Breaks`: what follows does not continue an unquoted run.
* `reads_name`, `reads_run`, `reads_keyword`, `reads_numeral`: single tokens.
-/

namespace TableQuery

open Number Text Grammar

/-! ### One lexeme -/

theorem tokensFrom_passed (passed rest : Text) (position : Nat) :
    tokensFrom position passed.length (passed ++ rest) =
      tokensFrom (position + passed.length) 0 rest := by
  induction passed generalizing position with
  | nil => simp
  | cons p passed ih =>
    simp only [List.length_cons, List.cons_append, tokensFrom]
    rw [ih (position + 1)]
    congr 1
    omega

theorem tokensFrom_token {p : Point} {passed rest text : Text} {kind : TokenKind}
    (h : lexeme p (passed ++ rest) = .token kind text (passed.length + 1)) (position : Nat) :
    tokensFrom position 0 (p :: passed ++ rest) =
      ⟨kind, text, position⟩ :: tokensFrom (position + (p :: passed).length) 0 rest := by
  simp only [List.cons_append, tokensFrom, h, Nat.add_sub_cancel, List.length_cons]
  rw [tokensFrom_passed]
  congr 2
  omega

theorem tokensFrom_blank (rest : Text) (position : Nat) :
    tokensFrom position 0 (' ' :: rest) = tokensFrom (position + 1) 0 rest := by
  simp [tokensFrom, lexeme]

/-! ### Stretches of text -/

/-- Before `rest`, wherever it stands, `text` is split off into tokens with a property. -/
def Reads (P : List Token → Prop) (text rest : Text) : Prop :=
  ∀ position, ∃ tokens, P tokens ∧
    tokensFrom position 0 (text ++ rest) = tokens ++ tokensFrom (position + text.length) 0 rest

/-- A single token of a kind and with a text. -/
def IsToken (kind : TokenKind) (text : Text) (tokens : List Token) : Prop :=
  ∃ position, tokens = [⟨kind, text, position⟩]

namespace Reads

variable {P Q : List Token → Prop} {text rest : Text}

theorem mono (h : Reads P text rest) (himp : ∀ tokens, P tokens → Q tokens) :
    Reads Q text rest := by
  intro position
  obtain ⟨tokens, htokens, heq⟩ := h position
  exact ⟨tokens, himp tokens htokens, heq⟩

theorem append {a b : Text} (ha : Reads P a (b ++ rest)) (hb : Reads Q b rest) :
    Reads (fun ts => ∃ us vs, ts = us ++ vs ∧ P us ∧ Q vs) (a ++ b) rest := by
  intro position
  obtain ⟨us, hus, hfirst⟩ := ha position
  obtain ⟨vs, hvs, hsecond⟩ := hb (position + a.length)
  refine ⟨us ++ vs, ⟨us, vs, rfl, hus, hvs⟩, ?_⟩
  rw [List.append_assoc, hfirst, hsecond, List.length_append, Nat.add_assoc, List.append_assoc]

theorem blank (h : Reads P text rest) : Reads P (' ' :: text) rest := by
  intro position
  obtain ⟨tokens, htokens, heq⟩ := h (position + 1)
  refine ⟨tokens, htokens, ?_⟩
  rw [List.cons_append, tokensFrom_blank, heq, List.length_cons, Nat.add_assoc, Nat.add_comm 1]

theorem nothing (h : P []) : Reads P [] rest := by
  intro position
  exact ⟨[], h, rfl⟩

theorem tokenize (h : Reads P text []) : P (tokenize text) := by
  obtain ⟨tokens, htokens, heq⟩ := h 0
  rw [List.append_nil] at heq
  have hend : tokensFrom (0 + text.length) 0 [] = [] := by simp [tokensFrom]
  rw [TableQuery.tokenize, heq, hend, List.append_nil]
  exact htokens

end Reads

/-! ### Single tokens -/

theorem reads_token {p : Point} {passed rest text : Text} {kind : TokenKind}
    (h : lexeme p (passed ++ rest) = .token kind text (passed.length + 1)) :
    Reads (IsToken kind text) (p :: passed) rest := by
  intro position
  exact ⟨_, ⟨position, rfl⟩, tokensFrom_token h position⟩

theorem stringBody?_mark (mark : Point) (rest : Text) :
    stringBody? mark (mark :: rest) = some ([], 1) := by
  unfold stringBody?
  rw [if_pos rfl]

theorem stringBody?_slash {mark kept : Point} (hmark : mark ≠ '\\') (hkept : kept ≠ '\n')
    (rest : Text) :
    stringBody? mark ('\\' :: kept :: rest) =
      (stringBody? mark rest).map fun (text, length) => (kept :: text, length + 2) := by
  rw [stringBody?, if_neg hmark.symm, if_pos rfl]
  simp only [if_neg hkept]

theorem stringBody?_plain {mark p : Point} (hmark : p ≠ mark) (hslash : p ≠ '\\') (rest : Text) :
    stringBody? mark (p :: rest) =
      (stringBody? mark rest).map fun (text, length) => (p :: text, length + 1) := by
  rw [stringBody?.eq_def]
  simp only [if_neg hmark, if_neg hslash]

theorem stringBody?_escaped (name rest : Text) :
    stringBody? '"' (name.flatMap escapePoint ++ Point.char '"' :: rest) =
      some (name, (name.flatMap escapePoint).length + 1) := by
  induction name with
  | nil => exact stringBody?_mark _ _
  | cons p name ih =>
    rw [List.flatMap_cons, List.append_assoc]
    by_cases hescape : p = '"' ∨ p = '\\'
    · have hpoint : escapePoint p = [Point.char '\\', p] := by simp [escapePoint, hescape]
      have hfeed : p ≠ '\n' := by rcases hescape with rfl | rfl <;> decide
      rw [hpoint, List.cons_append, List.cons_append, List.nil_append,
        stringBody?_slash (by decide) hfeed, ih]
      simp
    · obtain ⟨hquote, hslash⟩ := not_or.1 hescape
      have hpoint : escapePoint p = [p] := by simp [escapePoint, hquote, hslash]
      rw [hpoint, List.cons_append, List.nil_append, stringBody?_plain hquote hslash, ih]
      simp

/-- A name between double quotes is a single token, whatever the name and whatever follows. -/
theorem reads_name (name rest : Text) : Reads (IsToken .string name) (spellName name) rest := by
  have hspell : spellName name =
      Point.char '"' :: (name.flatMap escapePoint ++ [Point.char '"']) := rfl
  rw [hspell]
  apply reads_token
  simp [lexeme, stringBody?_escaped]

/-- What follows does not continue an unquoted run. -/
def Breaks (rest : Text) : Prop :=
  ∀ p ∈ rest.head?, inRun p = false

@[simp] theorem breaks_nil : Breaks [] := by simp [Breaks]

@[simp] theorem breaks_cons {p : Point} {rest : Text} :
    Breaks (p :: rest) ↔ inRun p = false := by
  simp [Breaks]

theorem takeWhile_inRun {run rest : Text} (hrun : ∀ p ∈ run, inRun p = true) (hrest : Breaks rest) :
    (run ++ rest).takeWhile inRun = run := by
  rw [List.takeWhile_append_of_pos hrun]
  cases rest with
  | nil => simp
  | cons p rest => simp [breaks_cons.1 hrest]

theorem inRun_ne {p : Point} (h : inRun p = true) {q : Point} (hq : inRun q = false) : p ≠ q := by
  rintro rfl
  simp [hq] at h

/-- An unquoted run is a single token, unless it starts a comment. -/
theorem lexeme_run {p : Point} {run rest : Text} (hp : inRun p = true)
    (hrun : ∀ q ∈ run, inRun q = true) (hcomment : p = '-' → ∀ q ∈ run.head?, q ≠ '-')
    (hrest : Breaks rest) :
    lexeme p (run ++ rest) = .token (runKind (p :: run)) (p :: run) (run.length + 1) := by
  have hblank : p ≠ ' ' ∧ p ≠ '\t' ∧ p ≠ '\r' ∧ p ≠ '\n' := by
    refine ⟨?_, ?_, ?_, ?_⟩ <;> exact inRun_ne hp (by decide)
  have hquote : p ≠ '"' ∧ p ≠ '\'' := ⟨inRun_ne hp (by decide), inRun_ne hp (by decide)⟩
  have hdash : (p = '-' && (run ++ rest).head? = some (.char '-')) = false := by
    rw [Bool.and_eq_false_imp]
    intro hfirst
    rw [decide_eq_false_iff_not]
    intro hsecond
    cases run with
    | nil =>
      have hbreak := hrest _ hsecond
      revert hbreak
      decide
    | cons q run => exact hcomment (by simpa using hfirst) q (by simp) (by simpa using hsecond)
  unfold lexeme
  rw [hdash]
  simp [hblank, hquote, hp, takeWhile_inRun hrun hrest, Lexeme.plain]

theorem reads_run {p : Point} {run rest : Text} (hp : inRun p = true)
    (hrun : ∀ q ∈ run, inRun q = true) (hcomment : p = '-' → ∀ q ∈ run.head?, q ≠ '-')
    (hrest : Breaks rest) : Reads (IsToken (runKind (p :: run)) (p :: run)) (p :: run) rest :=
  reads_token (lexeme_run hp hrun hcomment hrest)

theorem runKind_name (k : Keyword) : runKind k.name = .keyword k := by
  cases k <;> decide

theorem reads_keyword (k : Keyword) {rest : Text} (hrest : Breaks rest) :
    Reads (IsToken (.keyword k) k.name) k.name rest := by
  have hname : k.name ≠ [] ∧ (∀ p ∈ k.name, inRun p = true) ∧ k.name.head? ≠ some (.char '-') := by
    cases k <;> decide
  obtain ⟨hne, hrun, hdash⟩ := hname
  obtain ⟨p, run, hcons⟩ := List.exists_cons_of_ne_nil hne
  have hreads : Reads (IsToken (runKind (p :: run)) (p :: run)) (p :: run) rest := by
    apply reads_run
    · exact hrun p (by simp [hcons])
    · intro q hq
      exact hrun q (by simp [hcons, hq])
    · rintro rfl
      simp [hcons] at hdash
    · exact hrest
  rwa [← hcons, runKind_name] at hreads

/-! ### Numerals -/

theorem inRun_of_isDecimal {p : Point} (h : isDecimal p = true) : inRun p = true :=
  isDecimal_induction (P := fun p => inRun p = true) (by decide +kernel) h

theorem inRun_of_isDigit {p : Point} (h : isDigit p = true) : inRun p = true := by
  have hsigns : ∀ r ∈ digitSigns, ∀ d < r.2 + 1 - r.1, inRun (.ofNat (r.1 + d)) = true := by
    decide +kernel
  rcases (isDigit_iff p).1 h with hdecimal | ⟨r, hr, hfirst, hlast⟩
  · exact inRun_of_isDecimal hdecimal
  · have hrun := hsigns r hr (p.value - r.1) (by omega)
    rwa [Nat.add_sub_cancel' hfirst, Point.ofNat_value] at hrun

/-- A numeral of digits has decimal ones. -/
theorem isDecimal_of_isNumeral {t : Text} (h : isNumeral t = true) :
    ∀ p ∈ trim t, isDigit p = true → isDecimal p = true := by
  obtain ⟨numeral, hnumeral⟩ := Option.isSome_iff_exists.1 h
  exact Numeral.forall_of_ofText? hnumeral (fun _ hdecimal _ => hdecimal) (by decide)

/-- Nothing in a numeral ends an unquoted run. -/
theorem inRun_of_numeral {t : Text} {numeral : Numeral} (h : Numeral.ofText? t = some numeral) :
    ∀ p ∈ t, inRun p = true :=
  Numeral.forall_of_ofText? h (fun _ => inRun_of_isDecimal) (by decide)

/-- A numeral starts with a decimal digit, a sign or a point, and after a sign comes a decimal
digit or a point. -/
theorem numeral_front {t : Text} {numeral : Numeral} (h : Numeral.ofText? t = some numeral) :
    ∃ p rest, t = p :: rest ∧ (isDecimal p = true ∨ p = '+' ∨ p = '-' ∨ p = '.') ∧
      ∀ q ∈ rest.head?, p = '-' → isDecimal q = true ∨ q = '.' := by
  obtain ⟨sign, whole, fraction, exponent, rfl, hsign, hwhole, hfraction, -, hdigits⟩ :=
    Numeral.parts_of_ofText? h
  -- what stands after the sign
  have hbody : ∃ q rest, whole ++ fraction ++ exponent = q :: rest ∧
      (isDecimal q = true ∨ q = '.') := by
    cases whole with
    | cons q whole => exact ⟨q, _, rfl, Or.inl (hwhole q (by simp))⟩
    | nil =>
      rcases hfraction with rfl | ⟨digits, rfl, -⟩
      · simp at hdigits
      · exact ⟨'.', _, rfl, Or.inr rfl⟩
  obtain ⟨q, rest, heq, hq⟩ := hbody
  rw [List.append_assoc, List.append_assoc, ← List.append_assoc whole, heq]
  rcases hsign with rfl | rfl | rfl
  · refine ⟨q, rest, rfl, by tauto, ?_⟩
    rintro - - rfl
    rcases hq with hq | hq
    · exact absurd hq (by decide)
    · exact absurd hq (by decide)
  · refine ⟨'+', q :: rest, rfl, by simp, ?_⟩
    intro _ _ hplus
    exact absurd hplus (by decide)
  · refine ⟨'-', q :: rest, rfl, by simp, ?_⟩
    intro q' hq' _
    obtain rfl : q = q' := by simpa using hq'
    exact hq

theorem isNumeral_of_runKind {run : Text} (h : runKind run = .number) : isNumeral run = true := by
  unfold runKind at h
  split at h
  · split at h <;> cases h
  · split at h
    · assumption
    · cases h

theorem runKind_numeral {t : Text} {numeral : Numeral} (h : Numeral.ofText? t = some numeral)
    (htrim : trim t = t) : runKind t = .number := by
  obtain ⟨p, rest, rfl, hp, -⟩ := numeral_front h
  have hfirst : isDecimal p = true ∨ isWord p = false := by
    rcases hp with hp | rfl | rfl | rfl
    · exact Or.inl hp
    all_goals exact Or.inr (by decide)
  have hnot : isIdentifier (p :: rest) = false := by
    rcases hfirst with hfirst | hfirst <;> simp [isIdentifier, hfirst]
  have hnumeral : isNumeral (p :: rest) = true := by simp [isNumeral, numeral?, htrim, h]
  simp [runKind, hnot, hnumeral]

/-- The spelling of a numeral is a single token: no word and no comment. -/
theorem reads_numeral {t rest : Text} (h : isNumeral t = true) (hrest : Breaks rest) :
    Reads (IsToken .number (trim t)) (trim t) rest := by
  obtain ⟨numeral, hnumeral⟩ := Option.isSome_iff_exists.1 h
  have hkind := runKind_numeral hnumeral (trim_trim t)
  have hrun := inRun_of_numeral hnumeral
  obtain ⟨p, run, heq, -, hsecond⟩ := numeral_front hnumeral
  rw [heq] at hkind hrun ⊢
  rw [← hkind]
  refine reads_run (hrun p (by simp)) (fun q hq => hrun q (by simp [hq])) ?_ hrest
  rintro hdash q hq rfl
  rcases hsecond _ hq hdash with h | h
  · exact absurd h (by decide)
  · exact absurd h (by decide)

/-! ### Punctuation -/

theorem reads_comma (rest : Text) : Reads (IsToken .comma ",") "," rest :=
  reads_token rfl

theorem reads_star (rest : Text) : Reads (IsToken .star "*") "*" rest :=
  reads_token rfl

theorem reads_leftParen (rest : Text) : Reads (IsToken .leftParen "(") "(" rest :=
  reads_token rfl

theorem reads_rightParen (rest : Text) : Reads (IsToken .rightParen ")") ")" rest :=
  reads_token rfl

theorem reads_equal (rest : Text) : Reads (IsToken .equal "=") "=" rest :=
  reads_token rfl

end TableQuery
