import TableQuery.Proofs.Stretches

/-!
# Cutting texts and putting them together

The tokens of the two parts of a text are the tokens of the whole, unless a lexeme goes across the
cut.

* `Stray`: a code point that is an unknown token.
* `Portion`: what is taken off the front of a text, a stretch or such a code point.
* `Portion.of_append`, `Portion.append`: how a portion depends on what follows.
* `exists_cut`: a text can be cut before each of its tokens.
* `StandsApart`, `tokensFrom_append`: a text that only a comment can take in.
* `tokensFrom_append_newLine`: nothing goes across a line feed before such a text.
-/

namespace TableQuery

open Text

/-! ### Unknown tokens -/

/-- The code points that are a sign each. -/
def singleSigns : Text := "<>=*,();"

/-- A code point that is an unknown token before a text: a quote that is not closed, or one that is
nothing else, where an exclamation mark is a sign with an equals sign after it. -/
inductive Stray : Point → Text → Prop
  | mark {p : Point} {rest : Text} : IsMark p → stringBody? p rest = none → Stray p rest
  | odd {p : Point} {rest : Text} :
      p ∉ gaps → ¬IsMark p → inRun p = false → p ∉ singleSigns →
      (p = '!' → ∀ q ∈ rest.head?, q ≠ '=') → Stray p rest

theorem punctuation_of_stray {p : Point} {rest : Text} (hp : p ∉ singleSigns)
    (hrest : p = '!' → ∀ q ∈ rest.head?, q ≠ '=') :
    punctuation p rest = .plain .other [p] := by
  unfold punctuation
  split
  case h_1 => exact absurd rfl (hrest rfl _ rfl)
  case h_12 => rfl
  all_goals exact absurd (by decide) hp

theorem stray_of_punctuation {p : Point} {rest text : Text} {length : Nat}
    (h : punctuation p rest = .token .other text length) :
    p ∉ singleSigns ∧ (p = '!' → ∀ q ∈ rest.head?, q ≠ '=') := by
  unfold punctuation at h
  split at h
  case h_12 =>
    rename_i hless hgreater hequal hstar hcomma hleft hright hsemicolon hunequal _ _
    constructor
    · intro hp
      have hone : p = '<' ∨ p = '>' ∨ p = '=' ∨ p = '*' ∨ p = ',' ∨ p = '(' ∨ p = ')' ∨
          p = ';' := by
        simpa [singleSigns, ofString] using hp
      tauto
    · rintro hp q hq rfl
      obtain ⟨more, rfl⟩ := List.head?_eq_some_iff.1 hq
      exact hunequal more hp rfl
  all_goals simp [Lexeme.plain] at h

namespace Stray

variable {p : Point} {rest : Text}

theorem ne_dash (h : Stray p rest) : p ≠ '-' := by
  cases h with
  | mark hmark _ => exact hmark.solid.2.2.1
  | odd _ _ hrun _ _ =>
    rintro rfl
    exact absurd hrun (by decide)

theorem lexeme_eq (h : Stray p rest) : lexeme p rest = .plain .other [p] := by
  have hdash := h.ne_dash
  cases h with
  | mark hmark hbody =>
    rcases hmark with rfl | rfl <;> simp [lexeme, hbody, Lexeme.plain]
  | odd hgap hmark hrun hsign hrest =>
    have hgap' : ¬(p = ' ' ∨ p = '\t' ∨ p = '\r' ∨ p = '\n') := by
      simpa [gaps, ofString] using hgap
    simp only [not_or] at hgap'
    obtain ⟨hquote, hquote'⟩ := not_or.1 hmark
    simp [lexeme, hgap', hquote, hquote', hdash, hrun, punctuation_of_stray hsign hrest]

/-- What is no unknown token before a text is none before the front of it. -/
theorem of_append {a b : Text} (h : Stray p (a ++ b)) : Stray p a := by
  cases h with
  | mark hmark hbody =>
    refine .mark hmark ?_
    cases ha : stringBody? p a with
    | none => rfl
    | some found =>
      obtain ⟨source, after, rfl, -, hcloses⟩ := closes_of_stringBody? ha
      rw [List.append_assoc, hcloses.stringBody?_append hmark.solid.2.1] at hbody
      exact absurd hbody (by simp)
  | odd hgap hmark hrun hsign hrest =>
    refine .odd hgap hmark hrun hsign fun hp q hq => hrest hp q ?_
    obtain ⟨more, rfl⟩ := List.head?_eq_some_iff.1 hq
    rfl

end Stray

theorem stray_of_lexeme {p : Point} {rest text : Text} {length : Nat}
    (h : lexeme p rest = .token .other text length) : Stray p rest := by
  unfold lexeme at h
  split at h
  · simp at h
  rename_i hgap
  split at h
  · rename_i hquote
    split at h
    · simp at h
    · exact .mark (by simpa [IsMark] using hquote) (by assumption)
  rename_i hquote
  split at h
  · simp at h
  split at h
  · exact absurd (Lexeme.token.inj h).1 (runKind_ne _ rfl)
  rename_i hrun
  obtain ⟨hsign, hrest⟩ := stray_of_punctuation h
  refine .odd (by simpa [gaps, ofString, or_assoc] using hgap) (by simpa [IsMark] using hquote)
    (by simpa using hrun) hsign hrest

/-! ### Portions -/

/-- What is taken off the front of a text at once: a stretch, or an unknown token. -/
inductive Portion : Text → Option (TokenKind × Text) → Text → Prop
  | stretch {stretch rest : Text} {content : Option (TokenKind × Text)} :
      Stretch stretch content rest → Portion stretch content rest
  | stray {p : Point} {rest : Text} : Stray p rest → Portion [p] (some (.other, [p])) rest

theorem exists_portion (p : Point) (rest : Text) :
    ∃ passed content after, rest = passed ++ after ∧ Portion (p :: passed) content after := by
  by_cases h : ∃ text length, lexeme p rest = .token .other text length
  · obtain ⟨text, length, hlexeme⟩ := h
    exact ⟨[], _, rest, rfl, .stray (stray_of_lexeme hlexeme)⟩
  · simp only [not_exists] at h
    obtain ⟨passed, content, after, rfl, hstretch⟩ := exists_stretch h
    exact ⟨passed, content, after, rfl, .stretch hstretch⟩

/-- The token with a content at a position, or no token. -/
def tokensAt (position : Nat) (content : Option (TokenKind × Text)) : List Token :=
  content.toList.map fun (kind, text) => ⟨kind, text, position⟩

namespace Portion

variable {portion rest : Text} {content : Option (TokenKind × Text)}

theorem ne_nil (h : Portion portion content rest) : portion ≠ [] := by
  cases h with
  | stretch h => exact h.ne_nil
  | stray _ => simp

theorem lexeme_eq {p : Point} {passed : Text} (h : Portion (p :: passed) content rest) :
    lexeme p (passed ++ rest) = .ofContent content (passed.length + 1) := by
  cases h with
  | stretch h => exact h.lexeme_eq
  | stray h => exact h.lexeme_eq

theorem tokensFrom_append (h : Portion portion content rest) (position : Nat) :
    tokensFrom position 0 (portion ++ rest) =
      tokensAt position content ++ tokensFrom (position + portion.length) 0 rest := by
  obtain ⟨p, passed, rfl⟩ := List.exists_cons_of_ne_nil h.ne_nil
  have hpassed : tokensFrom (position + 1) passed.length (passed ++ rest) =
      tokensFrom (position + (p :: passed).length) 0 rest := by
    rw [tokensFrom_passed, List.length_cons, Nat.add_assoc, Nat.add_comm 1]
  rw [List.cons_append, tokensFrom, h.lexeme_eq]
  cases content with
  | none => exact hpassed
  | some content => exact congrArg (⟨content.1, content.2, position⟩ :: ·) hpassed

/-- A portion is taken off before the front of what follows too. -/
theorem of_append {a b : Text} (h : Portion portion content (a ++ b)) :
    Portion portion content a := by
  cases h with
  | stretch h => exact .stretch (h.congr (startsLike_append_right a b))
  | stray h => exact .stray h.of_append

end Portion

/-! ### Cuts before a token -/

/-- A text can be cut before each of its tokens, and the front has the tokens before it. -/
theorem exists_cut {text : Text} {position : Nat} {before after : List Token} {token : Token}
    (h : tokensFrom position 0 text = before ++ token :: after) :
    ∃ a b, text = a ++ b ∧ tokensFrom position 0 a = before ∧
      position + a.length = token.position := by
  induction hlength : text.length using Nat.strong_induction_on
    generalizing text position before with
  | h n ih =>
    cases text with
    | nil => simp [tokensFrom] at h
    | cons p rest =>
      obtain ⟨passed, content, later, rfl, hportion⟩ := exists_portion p rest
      rw [← List.cons_append, hportion.tokensFrom_append] at h
      have hshort : later.length < n := by
        simp only [List.length_cons, List.length_append] at hlength
        omega
      -- the portion is in front of the cut, unless it is the token itself
      have hskip {before' : List Token} (hbefore : before = tokensAt position content ++ before')
          (hlater : tokensFrom (position + (p :: passed).length) 0 later =
            before' ++ token :: after) :
          ∃ a b, p :: (passed ++ later) = a ++ b ∧ tokensFrom position 0 a = before ∧
            position + a.length = token.position := by
        obtain ⟨a, b, rfl, ha, hposition⟩ := ih _ hshort hlater rfl
        refine ⟨p :: passed ++ a, b, by simp, ?_, ?_⟩
        · rw [hportion.of_append.tokensFrom_append, ha, hbefore]
        · rw [List.length_append, ← Nat.add_assoc]
          exact hposition
      cases content with
      | none => exact hskip rfl h
      | some content =>
        cases before with
        | nil =>
          obtain ⟨rfl, -⟩ := List.cons.inj h
          exact ⟨[], p :: (passed ++ later), rfl, by simp [tokensFrom], rfl⟩
        | cons first before' =>
          obtain ⟨rfl, hlater⟩ := List.cons.inj h
          exact hskip rfl hlater

/-! ### Texts after one another -/

/-- A text that continues nothing in front of it but a comment: there is no quote in it, and it
starts neither an unquoted run nor with an equals sign. -/
structure StandsApart (b : Text) : Prop where
  unquoted : ∀ p ∈ b, ¬IsMark p
  breaks : Breaks b
  not_equal : ∀ p ∈ b.head?, p ≠ '='

namespace StandsApart

variable {a b : Text}

/-- A quote that is not closed stays open. -/
theorem stringBody?_append (hb : StandsApart b) {mark : Point} (hmark : IsMark mark)
    (h : stringBody? mark a = none) : stringBody? mark (a ++ b) = none := by
  cases hbody : stringBody? mark (a ++ b) with
  | none => rfl
  | some found =>
    exfalso
    obtain ⟨source, after, heq, -, hcloses⟩ := closes_of_stringBody? hbody
    have hopen (more : Text) : a ≠ source ++ more := by
      rintro rfl
      rw [hcloses.stringBody?_append hmark.solid.2.1] at h
      simp at h
    rcases List.append_eq_append_iff.1 heq with ⟨inside, hsource, rfl⟩ | ⟨more, ha, -⟩
    · -- the closing quote would stand in what follows
      obtain ⟨inner, hinner⟩ := hcloses.exists_append
      rcases List.eq_nil_or_concat inside with rfl | ⟨front, last, rfl⟩
      · exact hopen [] (by rw [List.append_nil, hsource, List.append_nil])
      · rw [List.concat_eq_append, ← List.append_assoc] at hsource
        have hlast : last = mark :=
          (List.append_inj' (hsource.symm.trans hinner) rfl).2 |> List.singleton_inj.1
        exact hb.unquoted last (by simp) (hlast ▸ hmark)
    · exact hopen more ha

end StandsApart

theorem standsApart_newLine {b : Text} (h : ∀ p ∈ b, ¬IsMark p) : StandsApart ('\n' :: b) where
  unquoted := List.forall_mem_cons.2 ⟨by simp [IsMark], h⟩
  breaks := breaks_cons.2 (by decide)
  not_equal := by simp

theorem standsApart_of_isBlank {b : Text} (h : ∀ p ∈ b, isBlank p = true) : StandsApart b where
  unquoted := by
    intro p hp hmark
    exact absurd (h p hp) (by simp [hmark.solid.1])
  breaks := by
    intro p hp
    simp [inRun, h p (List.mem_of_mem_head? hp)]
  not_equal := by
    rintro p hp rfl
    exact absurd (h _ (List.mem_of_mem_head? hp)) (by decide)

theorem Stray.append {p : Point} {a b : Text} (h : Stray p a) (hb : StandsApart b) :
    Stray p (a ++ b) := by
  cases h with
  | mark hmark hbody => exact .mark hmark (hb.stringBody?_append hmark hbody)
  | odd hgap hmark hrun hsign hrest =>
    refine .odd hgap hmark hrun hsign fun hp => ?_
    cases a with
    | nil => exact hb.not_equal
    | cons q a => exact hrest hp

/-- A portion is taken off before a text that stands apart too, where a comment may take in more. -/
theorem Portion.append {portion a b : Text} {content : Option (TokenKind × Text)}
    (h : Portion portion content a) (hb : StandsApart b) :
    ∃ passed after, b = passed ++ after ∧ (∀ p ∈ passed, p ≠ '\n') ∧ (a ≠ [] → passed = []) ∧
      Portion (portion ++ passed) content (a ++ after) := by
  have hsame (hportion : Portion portion content (a ++ b)) : ∃ passed after, b = passed ++ after ∧
      (∀ p ∈ passed, p ≠ '\n') ∧ (a ≠ [] → passed = []) ∧
      Portion (portion ++ passed) content (a ++ after) :=
    ⟨[], b, rfl, by simp, fun _ => rfl, by rwa [List.append_nil]⟩
  cases h with
  | stray h => exact hsame (.stray (h.append hb))
  | stretch h =>
    by_cases ha : a = []
    · subst ha
      cases h with
      | gap hp => exact hsame (.stretch (.gap hp))
      | literal hmark hcloses => exact hsame (.stretch (.literal hmark hcloses))
      | run hp hrun hcomment _ => exact hsame (.stretch (.run hp hrun hcomment hb.breaks))
      | sign hsign _ => exact hsame (.stretch (.sign hsign fun _ => hb.not_equal))
      | @comment text _ htext _ =>
        refine ⟨b.takeWhile fun p => p != .char '\n', b.dropWhile fun p => p != .char '\n',
          List.takeWhile_append_dropWhile.symm, ?_, fun hne => absurd rfl hne, .stretch ?_⟩
        · intro p hp
          simpa using List.mem_takeWhile_imp hp
        · have hinside : ∀ p ∈ text ++ b.takeWhile (fun p => p != .char '\n'), p ≠ '\n' := by
            intro p hp
            rcases List.mem_append.1 hp with hp | hp
            · exact htext p hp
            · simpa using List.mem_takeWhile_imp hp
          exact .comment hinside fun p hp => by simpa using head?_dropWhile _ b p hp
    · obtain ⟨q, more, rfl⟩ := List.exists_cons_of_ne_nil ha
      exact hsame (.stretch (h.congr fun p hp => Or.inr hp))

/-- The tokens of two texts after one another are those of the first and those of the second, less
what a comment takes in of it. -/
theorem tokensFrom_append {b : Text} (hb : StandsApart b) (a : Text) (position : Nat) :
    ∃ passed after, b = passed ++ after ∧ (∀ p ∈ passed, p ≠ '\n') ∧
      tokensFrom position 0 (a ++ b) = tokensFrom position 0 a ++
        tokensFrom (position + (a ++ passed).length) 0 after := by
  induction hlength : a.length using Nat.strong_induction_on generalizing a position with
  | h n ih =>
    cases a with
    | nil => exact ⟨[], b, rfl, by simp, by simp [tokensFrom]⟩
    | cons p rest =>
      obtain ⟨first, content, later, rfl, hportion⟩ := exists_portion p rest
      rw [← List.cons_append, hportion.tokensFrom_append, List.append_assoc (p :: first)]
      obtain ⟨passed, after, hsplit, hpassed, hwhole, hlater⟩ := hportion.append hb
      by_cases hnil : later = []
      · subst hnil
        refine ⟨passed, after, hsplit, hpassed, ?_⟩
        have htokens := hlater.tokensFrom_append position
        rw [List.nil_append, List.append_assoc, ← hsplit] at htokens
        have hnone : tokensFrom (position + (p :: first).length) 0 [] = [] := by simp [tokensFrom]
        simp only [List.nil_append, List.append_nil, hnone, htokens]
      · have hshort : later.length < n := by
          simp only [List.length_cons, List.length_append] at hlength
          omega
        obtain rfl := hwhole hnil
        rw [List.nil_append] at hsplit
        subst hsplit
        rw [List.append_nil] at hlater
        obtain ⟨passed, after, hsplit, hpassed, htokens⟩ := ih _ hshort later _ rfl
        refine ⟨passed, after, hsplit, hpassed, ?_⟩
        rw [hlater.tokensFrom_append, htokens, List.append_assoc]
        simp only [List.length_append, Nat.add_assoc]

/-- Nothing goes across a line feed before a text without quotes. -/
theorem tokensFrom_append_newLine (a : Text) {b : Text} (h : ∀ p ∈ b, ¬IsMark p)
    (position : Nat) :
    tokensFrom position 0 (a ++ Point.char '\n' :: b) =
      tokensFrom position 0 a ++ tokensFrom (position + a.length + 1) 0 b := by
  obtain ⟨passed, after, hsplit, hpassed, htokens⟩ :=
    tokensFrom_append (standsApart_newLine h) a position
  cases passed with
  | nil =>
    rw [List.nil_append] at hsplit
    rw [htokens, ← hsplit, List.append_nil]
    rfl
  | cons p passed => exact absurd (List.cons.inj hsplit).1.symm (hpassed p List.mem_cons_self)

end TableQuery
