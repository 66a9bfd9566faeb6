import TableQuery.Proofs.Lexing

/-!
# Stretches of a text

A lexeme takes a stretch off the front of a text. Which stretch that is depends on what follows only
by the first code point.

* `tokenContents`: what the tokens of a text say, their places apart.
* `TokenKind.isRun`: the kinds of unquoted runs.
* `Closes`: the source of a quoted text after its opening quote.
* `Stretch`: a stretch, the token that it makes and the text before which it is taken off.
* `Stretch.congr`: another text can follow if it starts alike.
* `stretches`, `Lexes`: the stretches of a text, with the tokens that they make.
* `lexes_stretches`: a text without unknown tokens is made up of its stretches.
-/

namespace TableQuery

open Text

/-! ### What tokens say -/

/-- What a token says, its place apart. -/
def Token.content (token : Token) : TokenKind × Text :=
  (token.kind, token.text)

/-- What the tokens of a text say. -/
def tokenContents (text : Text) : List (TokenKind × Text) :=
  (tokenize text).map Token.content

/-- The contents of tokens do not depend on where the text starts. -/
theorem map_content_tokensFrom (position pending : Nat) (text : Text) :
    (tokensFrom position pending text).map Token.content =
      (tokensFrom 0 pending text).map Token.content := by
  induction text generalizing position pending with
  | nil => simp [tokensFrom]
  | cons p rest ih =>
    cases pending with
    | zero =>
      simp only [tokensFrom]
      split
      · rw [ih (position + 1), ih (0 + 1)]
      · simp only [List.map_cons]
        rw [ih (position + 1), ih (0 + 1)]
        rfl
    | succ pending =>
      simp only [tokensFrom]
      rw [ih (position + 1), ih (0 + 1)]

/-! ### Kinds of runs -/

/-- The kinds of unquoted runs. -/
def TokenKind.isRun : TokenKind → Bool
  | .keyword _ | .identifier | .number | .word => true
  | _ => false

theorem isRun_runKind (run : Text) : (runKind run).isRun = true := by
  unfold runKind
  split
  · split <;> rfl
  · split <;> rfl

theorem runKind_ne (run : Text) {kind : TokenKind} (h : kind.isRun = false) :
    runKind run ≠ kind := by
  rintro rfl
  rw [isRun_runKind] at h
  exact absurd h (by decide)

/-! ### Quoted texts -/

/-- A code point that opens and closes a quoted text. -/
def IsMark (p : Point) : Prop :=
  p = '"' ∨ p = '\''

instance (p : Point) : Decidable (IsMark p) :=
  inferInstanceAs (Decidable (p = '"' ∨ p = '\''))

theorem IsMark.solid {mark : Point} (h : IsMark mark) :
    isBlank mark = false ∧ mark ≠ '\\' ∧ mark ≠ '-' ∧ mark ≠ '\n' := by
  rcases h with rfl | rfl <;> decide

/-- The source of a quoted text after its opening quote, with the text. -/
inductive Closes (mark : Point) : Text → Text → Prop
  | close : Closes mark [mark] []
  | kept {p : Point} {source text : Text} :
      p ≠ '\n' → Closes mark source text → Closes mark ('\\' :: p :: source) (p :: text)
  | plain {p : Point} {source text : Text} :
      p ≠ mark → p ≠ '\\' → Closes mark source text → Closes mark (p :: source) (p :: text)

theorem Closes.stringBody?_append {mark : Point} {source text : Text} (hmark : mark ≠ '\\')
    (h : Closes mark source text) (rest : Text) :
    stringBody? mark (source ++ rest) = some (text, source.length) := by
  induction h with
  | close => exact stringBody?_mark mark rest
  | kept hp _ ih => simp [stringBody?_slash hmark hp, ih]
  | plain hne hslash _ ih => simp [stringBody?_plain hne hslash, ih]

theorem Closes.exists_append {mark : Point} {source text : Text} (h : Closes mark source text) :
    ∃ inner, source = inner ++ [mark] := by
  induction h with
  | close => exact ⟨[], rfl⟩
  | @kept p _ _ _ _ ih =>
    obtain ⟨inner, rfl⟩ := ih
    exact ⟨.char '\\' :: p :: inner, rfl⟩
  | @plain p _ _ _ _ _ ih =>
    obtain ⟨inner, rfl⟩ := ih
    exact ⟨p :: inner, rfl⟩

theorem closes_of_stringBody? {mark : Point} {text body : Text} {length : Nat}
    (h : stringBody? mark text = some (body, length)) :
    ∃ source rest, text = source ++ rest ∧ source.length = length ∧ Closes mark source body := by
  fun_induction stringBody? mark text generalizing body length with
  | case1 => simp at h
  | case2 rest =>
    obtain ⟨rfl, rfl⟩ := Prod.mk.inj (Option.some.inj h)
    exact ⟨[mark], rest, rfl, rfl, .close⟩
  | case3 hslash => simp at h
  | case4 hslash => simp at h
  | case5 p rest hp hslash ih =>
    obtain ⟨⟨found, count⟩, hbody, heq⟩ := Option.map_eq_some_iff.1 h
    obtain ⟨rfl, rfl⟩ := Prod.mk.inj heq
    obtain ⟨source, after, rfl, rfl, hcloses⟩ := ih hbody
    exact ⟨_, after, rfl, rfl, .kept hp hcloses⟩
  | case6 p rest hmark hslash ih =>
    obtain ⟨⟨found, count⟩, hbody, heq⟩ := Option.map_eq_some_iff.1 h
    obtain ⟨rfl, rfl⟩ := Prod.mk.inj heq
    obtain ⟨source, after, rfl, rfl, hcloses⟩ := ih hbody
    exact ⟨_, after, rfl, rfl, .plain hmark hslash hcloses⟩

/-! ### Stretches -/

/-- The code points that are skipped one by one. -/
def gaps : Text := " \t\r\n"

/-- The signs of the query language. -/
def signs : List (Text × TokenKind) :=
  [("!=", .notEqual), ("<=", .lessEqual), (">=", .greaterEqual), ("<", .less), (">", .greater),
    ("=", .equal), ("*", .star), (",", .comma), ("(", .leftParen), (")", .rightParen),
    (";", .semicolon)]

theorem isBlank_of_mem_signs {text : Text} {kind : TokenKind} (h : (text, kind) ∈ signs) :
    ∀ p ∈ text, isBlank p = false :=
  (by decide : ∀ entry ∈ signs, ∀ p ∈ entry.1, isBlank p = false) _ h

theorem isBlank_of_inRun {p : Point} (h : inRun p = true) : isBlank p = false := by
  simp only [inRun, Bool.and_eq_true, Bool.not_eq_true'] at h
  exact h.1

/-- A text starts as another one does, or with a line feed, or not at all. -/
def StartsLike (other rest : Text) : Prop :=
  ∀ p ∈ other.head?, p = '\n' ∨ p ∈ rest.head?

theorem startsLike_append_right (front more : Text) : StartsLike front (front ++ more) := by
  intro p hp
  obtain ⟨rest, rfl⟩ := List.head?_eq_some_iff.1 hp
  exact Or.inr rfl

/-- What is taken off the front of a text at once: a stretch, the content of the token that it
makes, if it makes one, and what follows. -/
inductive Stretch : Text → Option (TokenKind × Text) → Text → Prop
  | gap {p : Point} {rest : Text} : p ∈ gaps → Stretch [p] none rest
  | literal {mark : Point} {source text rest : Text} :
      IsMark mark → Closes mark source text →
      Stretch (mark :: source) (some (.string, text)) rest
  | comment {text rest : Text} :
      (∀ p ∈ text, p ≠ '\n') → (∀ p ∈ rest.head?, p = '\n') →
      Stretch (.char '-' :: .char '-' :: text) none rest
  | run {p : Point} {run rest : Text} :
      inRun p = true → (∀ q ∈ run, inRun q = true) → (p = '-' → ∀ q ∈ run.head?, q ≠ '-') →
      Breaks rest → Stretch (p :: run) (some (runKind (p :: run), p :: run)) rest
  | sign {text rest : Text} {kind : TokenKind} :
      (text, kind) ∈ signs → (text = "<" ∨ text = ">" → ∀ p ∈ rest.head?, p ≠ '=') →
      Stretch text (some (kind, text)) rest

namespace Stretch

variable {stretch rest : Text} {content : Option (TokenKind × Text)}

/-- A stretch is taken off before another text too, if that starts alike. -/
theorem congr {other : Text} (h : Stretch stretch content rest) (hother : StartsLike other rest) :
    Stretch stretch content other := by
  cases h with
  | gap hp => exact .gap hp
  | literal hmark hcloses => exact .literal hmark hcloses
  | comment htext hrest =>
    exact .comment htext fun p hp => (hother p hp).elim id (hrest p)
  | run hp hrun hcomment hrest =>
    refine .run hp hrun hcomment fun p hp => ?_
    rcases hother p hp with rfl | hp
    · decide
    · exact hrest p hp
  | sign hsign hrest =>
    refine .sign hsign fun htext p hp => ?_
    rcases hother p hp with rfl | hp
    · decide
    · exact hrest htext p hp

theorem ne_nil (h : Stretch stretch content rest) : stretch ≠ [] := by
  cases h with
  | sign hsign _ =>
    have hsigns : ∀ entry ∈ signs, entry.1 ≠ [] := by decide
    exact hsigns _ hsign
  | _ => simp

end Stretch

/-- The lexeme that passes over some code points and makes a token, or none. -/
def Lexeme.ofContent (content : Option (TokenKind × Text)) (length : Nat) : Lexeme :=
  match content with
  | none => .skipped length
  | some (kind, text) => .token kind text length

@[simp] theorem Lexeme.length_ofContent (content : Option (TokenKind × Text)) (length : Nat) :
    (Lexeme.ofContent content length).length = length := by
  cases content <;> rfl

theorem lexeme_literal {mark : Point} {source text rest : Text} (hmark : IsMark mark)
    (h : Closes mark source text) :
    lexeme mark (source ++ rest) = .token .string text (source.length + 1) := by
  have hbody := h.stringBody?_append hmark.solid.2.1 rest
  rcases hmark with rfl | rfl <;> simp [lexeme, hbody]

theorem lexeme_comment {text rest : Text} (htext : ∀ p ∈ text, p ≠ '\n')
    (hrest : ∀ p ∈ rest.head?, p = '\n') :
    lexeme '-' (.char '-' :: text ++ rest) = .skipped (text.length + 2) := by
  have htake : (text ++ rest).takeWhile (fun p => p != .char '\n') = text := by
    rw [List.takeWhile_append_of_pos fun p hp => bne_iff_ne.2 (htext p hp)]
    cases rest with
    | nil => simp
    | cons p rest => simp [hrest p rfl]
  simp [lexeme, htake]
  omega

/-- Only an equals sign after it changes what a sign is. -/
theorem punctuation_eq_nil (p : Point) {rest : Text} (hrest : ∀ q ∈ rest.head?, q ≠ '=') :
    punctuation p rest = punctuation p [] := by
  cases rest with
  | nil => rfl
  | cons q rest =>
    have hq : q ≠ '=' := hrest q rfl
    unfold punctuation
    split <;> simp_all

theorem lexeme_sign {p : Point} {passed rest : Text} {kind : TokenKind}
    (hsign : (p :: passed, kind) ∈ signs)
    (hrest : (p :: passed : Text) = "<" ∨ (p :: passed : Text) = ">" → ∀ q ∈ rest.head?, q ≠ '=') :
    lexeme p (passed ++ rest) = .token kind (p :: passed) (passed.length + 1) := by
  simp only [signs, List.mem_cons, List.not_mem_nil, or_false, Prod.mk.injEq] at hsign
  rcases hsign with ⟨h, rfl⟩ | ⟨h, rfl⟩ | ⟨h, rfl⟩ | ⟨h, rfl⟩ | ⟨h, rfl⟩ | ⟨h, rfl⟩ | ⟨h, rfl⟩ |
    ⟨h, rfl⟩ | ⟨h, rfl⟩ | ⟨h, rfl⟩ | ⟨h, rfl⟩ <;> obtain ⟨rfl, rfl⟩ := List.cons.inj h
  case inr.inr.inr.inl => exact punctuation_eq_nil '<' (hrest (Or.inl rfl))
  case inr.inr.inr.inr.inl => exact punctuation_eq_nil '>' (hrest (Or.inr rfl))
  all_goals rfl

theorem Stretch.lexeme_eq {p : Point} {passed rest : Text} {content : Option (TokenKind × Text)}
    (h : Stretch (p :: passed) content rest) :
    lexeme p (passed ++ rest) = .ofContent content (passed.length + 1) := by
  cases h with
  | gap hp =>
    have hgap : p = ' ' ∨ p = '\t' ∨ p = '\r' ∨ p = '\n' := by simpa [gaps, ofString] using hp
    rcases hgap with rfl | rfl | rfl | rfl <;> rfl
  | literal hmark hcloses => exact lexeme_literal hmark hcloses
  | comment htext hrest => exact lexeme_comment htext hrest
  | run hp hrun hcomment hrest => exact lexeme_run hp hrun hcomment hrest
  | sign hsign hrest => exact lexeme_sign hsign hrest

/-! ### The stretch at the front -/

theorem exists_sign (p : Point) (rest : Text) :
    (∃ length, punctuation p rest = .token .other [p] length) ∨
      ∃ passed after, rest = passed ++ after ∧ p :: passed ∈ signs.map Prod.fst ∧
        ((p :: passed : Text) = "<" ∨ (p :: passed : Text) = ">" → ∀ q ∈ after.head?, q ≠ '=') := by
  unfold punctuation
  split
  case h_1 | h_2 | h_3 =>
    exact Or.inr ⟨[Point.char '='], _, rfl, by decide, fun h => absurd h (by decide)⟩
  case h_4 | h_5 =>
    rename_i hno
    refine Or.inr ⟨[], rest, rfl, by decide, ?_⟩
    rintro - q hq rfl
    obtain ⟨tail, rfl⟩ := List.head?_eq_some_iff.1 hq
    exact hno tail rfl
  case h_12 => exact Or.inl ⟨_, rfl⟩
  all_goals exact Or.inr ⟨[], rest, rfl, by decide, fun h => absurd h (by decide)⟩

theorem head?_dropWhile (stays : Point → Bool) (t : Text) :
    ∀ p ∈ (t.dropWhile stays).head?, stays p = false := by
  intro p hp
  have hhead := List.head?_dropWhile_not stays t
  rw [Option.mem_def.1 hp] at hhead
  simpa using hhead

/-- The lexeme at the front of a text takes a stretch off, unless it is an unknown token. -/
theorem exists_stretch {p : Point} {rest : Text}
    (h : ∀ text length, lexeme p rest ≠ .token .other text length) :
    ∃ passed content after, rest = passed ++ after ∧ Stretch (p :: passed) content after := by
  unfold lexeme at h
  split at h
  · rename_i hgap
    exact ⟨[], none, rest, rfl, .gap (by simpa [gaps, ofString, or_assoc] using hgap)⟩
  split at h
  · rename_i hquote
    split at h
    · rename_i text length hbody
      obtain ⟨source, after, rfl, -, hcloses⟩ := closes_of_stringBody? hbody
      exact ⟨source, _, after, rfl, .literal (by simpa [IsMark] using hquote) hcloses⟩
    · exact absurd rfl (h _ _)
  split at h
  · rename_i hdash
    simp only [Bool.and_eq_true, decide_eq_true_eq] at hdash
    obtain ⟨rfl, hdash⟩ := hdash
    obtain ⟨more, rfl⟩ := List.head?_eq_some_iff.1 hdash
    refine ⟨.char '-' :: more.takeWhile (fun p => p != .char '\n'), none,
      more.dropWhile (fun p => p != .char '\n'), ?_, .comment ?_ ?_⟩
    · rw [List.cons_append, List.takeWhile_append_dropWhile]
    · intro p hp
      simpa using List.mem_takeWhile_imp hp
    · intro p hp
      simpa using head?_dropWhile _ more p hp
  split at h
  · rename_i hcomment hp
    refine ⟨rest.takeWhile inRun, _, rest.dropWhile inRun,
      List.takeWhile_append_dropWhile.symm, .run hp (fun q => List.mem_takeWhile_imp) ?_
        (head?_dropWhile inRun rest)⟩
    rintro rfl q hq rfl
    obtain ⟨run, hrun⟩ := List.head?_eq_some_iff.1 hq
    obtain ⟨more, hmore⟩ : .char '-' :: run <+: rest := hrun ▸ List.takeWhile_prefix inRun
    simp [← hmore] at hcomment
  · rcases exists_sign p rest with ⟨length, hother⟩ | ⟨passed, after, rfl, hmem, hafter⟩
    · exact absurd hother (h _ _)
    · obtain ⟨⟨text, kind⟩, hsign, rfl⟩ := List.mem_map.1 hmem
      exact ⟨passed, _, after, rfl, .sign hsign hafter⟩

/-! ### Texts as stretches -/

/-- The stretches of a text, after passing over the code points of the last one that are still to
come. -/
def stretchesFrom : (pending : Nat) → Text → List Text
  | _, [] => []
  | pending + 1, _ :: rest => stretchesFrom pending rest
  | 0, p :: rest =>
    (p :: rest).take (lexeme p rest).length :: stretchesFrom ((lexeme p rest).length - 1) rest

/-- The stretches of a text, one for each lexeme. -/
def stretches (text : Text) : List Text :=
  stretchesFrom 0 text

theorem stretchesFrom_passed (passed rest : Text) :
    stretchesFrom passed.length (passed ++ rest) = stretches rest := by
  induction passed with
  | nil => rfl
  | cons p passed ih => exact ih

theorem Stretch.stretches_append {stretch rest : Text} {content : Option (TokenKind × Text)}
    (h : Stretch stretch content rest) :
    stretches (stretch ++ rest) = stretch :: stretches rest := by
  obtain ⟨p, passed, rfl⟩ := List.exists_cons_of_ne_nil h.ne_nil
  have hlength : (lexeme p (passed ++ rest)).length = passed.length + 1 := by
    rw [h.lexeme_eq, Lexeme.length_ofContent]
  rw [stretches, List.cons_append, stretchesFrom, hlength, Nat.add_sub_cancel, stretchesFrom_passed]
  simp

theorem Stretch.tokenContents_append {stretch rest : Text} {content : Option (TokenKind × Text)}
    (h : Stretch stretch content rest) :
    tokenContents (stretch ++ rest) = content.toList ++ tokenContents rest := by
  obtain ⟨p, passed, rfl⟩ := List.exists_cons_of_ne_nil h.ne_nil
  have hrest (position : Nat) :
      (tokensFrom position passed.length (passed ++ rest)).map Token.content =
        tokenContents rest := by
    rw [tokensFrom_passed, map_content_tokensFrom]
    rfl
  rw [tokenContents, tokenize, List.cons_append, tokensFrom, h.lexeme_eq]
  cases content with
  | none => exact hrest 1
  | some content => exact congrArg (content :: ·) (hrest 1)

/-- A text cut into the stretches that are taken off it one after the other, with the contents of
the tokens that they make. -/
inductive Lexes : List Text → List (TokenKind × Text) → Prop
  | nil : Lexes [] []
  | cons {stretch : Text} {content : Option (TokenKind × Text)} {more : List Text}
      {contents : List (TokenKind × Text)} :
      Stretch stretch content more.flatten → Lexes more contents →
      Lexes (stretch :: more) (content.toList ++ contents)

/-- A text without unknown tokens is cut into its stretches. -/
theorem lexes_stretches {text : Text} (h : ∀ content ∈ tokenContents text, content.1 ≠ .other) :
    Lexes (stretches text) (tokenContents text) ∧ (stretches text).flatten = text := by
  induction hlength : text.length using Nat.strong_induction_on generalizing text with
  | h n ih =>
    cases text with
    | nil => exact ⟨.nil, rfl⟩
    | cons p rest =>
      have hknown : ∀ text length, lexeme p rest ≠ .token .other text length := by
        intro text length hlexeme
        refine h (.other, text) ?_ rfl
        rw [tokenContents, tokenize, tokensFrom, hlexeme]
        exact List.mem_cons_self
      obtain ⟨passed, content, after, rfl, hstretch⟩ := exists_stretch hknown
      rw [← List.cons_append, hstretch.tokenContents_append] at h ⊢
      obtain ⟨hlexes, hflatten⟩ := ih after.length (by simp at hlength; omega)
        (fun content hcontent => h content (List.mem_append_right _ hcontent)) rfl
      rw [hstretch.stretches_append]
      exact ⟨.cons (hflatten.symm ▸ hstretch) hlexes, by rw [List.flatten_cons, hflatten]⟩

end TableQuery
