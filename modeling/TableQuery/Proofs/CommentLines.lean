import TableQuery.Proofs.ScriptLines
import TableQuery.Proofs.Stretches

/-!
# Scripts without their comment lines

Comments are dropped from a script by lines, and skipped in a statement by lexemes. The two agree on
scripts whose quoted texts and comments fit its lines.

* `IsQuiet`: a comment in which the splitting at semicolons ends as it begins.
* `Plain`: texts cut into stretches, with quiet comments only.
* `LiteralFits`, `CommentFits`, `Fits`: what the quoted texts and the comments have to be like.
* `Keeps`: the tokens of the rest of a script stay, wherever on a line it begins.
* `keeps_nil`, `keeps_break`, `keeps_lineGap`, `keeps_run`, `keeps_sign`, `keeps_literal`,
  `keeps_comment_line`, `keeps_comment_break`: one stretch more in front of the rest.
* `Lexes.plain_keptText`: what is kept of a script is plain and has the tokens of the script.
-/

namespace TableQuery

open Text

/-! ### Plain texts -/

/-- A stretch that is a comment. -/
def IsComment (stretch : Text) : Prop :=
  ofString "--" <+: stretch

/-- The state after a text that has no semicolon outside quotes. -/
def QuoteState.after? (state : QuoteState) : Text → Option QuoteState
  | [] => some state
  | p :: rest => if p = ';' ∧ state = .outside then none else (state.next p).after? rest

theorem QuoteState.after?_append (state : QuoteState) (front rest : Text) :
    state.after? (front ++ rest) = (state.after? front).bind fun state => state.after? rest := by
  induction front generalizing state with
  | nil => rfl
  | cons p front ih =>
    simp only [List.cons_append, after?]
    split
    · rfl
    · exact ih (state.next p)

/-- A state whose mark is a quote, as all those that are reached from outside. -/
def QuoteState.IsProper : QuoteState → Prop
  | .outside => True
  | .inside mark => IsMark mark
  | .escaped mark => IsMark mark

theorem QuoteState.IsProper.next {state : QuoteState} (h : state.IsProper) (p : Point) :
    (state.next p).IsProper := by
  cases state with
  | outside =>
    simp only [QuoteState.next]
    split
    · rename_i hquote
      simpa [IsProper, IsMark] using hquote
    · trivial
  | inside mark =>
    simp only [QuoteState.next]
    split
    · exact h
    · split
      · trivial
      · exact h
  | escaped mark => exact h

theorem QuoteState.IsProper.after? {state last : QuoteState} (h : state.IsProper) {text : Text}
    (hlast : state.after? text = some last) : last.IsProper := by
  induction text generalizing state with
  | nil =>
    obtain rfl := Option.some.inj hlast
    exact h
  | cons p text ih =>
    rw [QuoteState.after?] at hlast
    split at hlast
    · simp at hlast
    · exact ih (h.next p) hlast

/-- A text that does not disturb the splitting of a script around it: it closes its quotes, and no
semicolon stands outside them. -/
def IsQuiet (text : Text) : Prop :=
  QuoteState.outside.after? text = some .outside

/-- A blank at the end of a quiet text stands outside quotes. -/
theorem IsQuiet.of_append_blank {text : Text} {p : Point} (hp : isBlank p = true)
    (h : IsQuiet (text ++ [p])) : IsQuiet text := by
  rw [IsQuiet, QuoteState.after?_append] at h
  obtain ⟨state, hstate, hlast⟩ := Option.bind_eq_some_iff.1 h
  have hproper : state.IsProper := (show QuoteState.outside.IsProper from trivial).after? hstate
  rw [IsQuiet, hstate]
  cases state with
  | outside => rfl
  | inside mark =>
    have hmark : p ≠ mark := by
      rintro rfl
      simp [hproper.solid.1] at hp
    simp only [QuoteState.after?, QuoteState.next, if_neg hmark] at hlast
    split at hlast
    · simp at hlast
    · split at hlast <;> simp at hlast
  | escaped mark => simp [QuoteState.after?, QuoteState.next] at hlast

/-- A text cut into stretches whose comments are quiet, with the contents of its tokens. -/
inductive Plain : Text → List (TokenKind × Text) → Prop
  | nil : Plain [] []
  | cons {stretch rest : Text} {content : Option (TokenKind × Text)}
      {contents : List (TokenKind × Text)} :
      Stretch stretch content rest → (IsComment stretch → IsQuiet stretch) → Plain rest contents →
      Plain (stretch ++ rest) (content.toList ++ contents)

theorem Plain.gap {p : Point} (hp : p ∈ gaps) {rest : Text} {contents : List (TokenKind × Text)}
    (h : Plain rest contents) : Plain (p :: rest) contents := by
  refine Plain.cons (.gap hp) (fun hcomment => ?_) h
  have hlength := hcomment.length_le
  simp [ofString] at hlength

theorem Plain.gaps_append {front rest : Text} {contents : List (TokenKind × Text)}
    (hfront : ∀ p ∈ front, p ∈ gaps) (h : Plain rest contents) :
    Plain (front ++ rest) contents := by
  induction front with
  | nil => exact h
  | cons p front ih =>
    obtain ⟨hp, hfront⟩ := List.forall_mem_cons.1 hfront
    exact .gap hp (ih hfront)

/-! ### Scripts whose comments and quoted texts fit their lines -/

/-- There are only blanks after the last line break. -/
def StartsLine (text : Text) : Prop :=
  ∀ p ∈ text.rtakeWhile fun p => !isLineBreak p, isBlank p = true

theorem not_startsLine_append {before line : Text} (hline : OnOneLine line) {p : Point}
    (hp : p ∈ line) (hblank : isBlank p = false) : ¬StartsLine (before ++ line) := by
  intro h
  have hmem : p ∈ (before ++ line).rtakeWhile fun p => !isLineBreak p := by
    rw [List.rtakeWhile, List.reverse_append, List.takeWhile_append_of_pos]
    · simp [hp]
    · intro q hq
      simp [hline q (List.mem_reverse.1 hq)]
  simp [h p hmem] at hblank

theorem StartsLine.of_append_singleton {before : Text} {p : Point} (hp : isLineBreak p = false)
    (h : StartsLine (before ++ [p])) : StartsLine before := by
  intro q hq
  refine h q ?_
  rw [List.rtakeWhile_concat_pos _ _ _ (by simp [hp])]
  exact List.mem_append_left _ hq

/-- A stretch that is a quoted text. -/
def IsLiteral (stretch : Text) : Prop :=
  ∃ p ∈ stretch.head?, IsMark p

/-- All line breaks of a quoted text are line feeds, and none of the lines that it starts is a
comment. -/
structure LiteralFits (literal : Text) : Prop where
  feeds : ∀ p ∈ literal, isLineBreak p = true → p = '\n'
  lines : ∀ line ∈ (splitOn '\n' literal).tail, isCommentLine line = false

/-- A comment stays on its line, apart from a line break at its end, and is either alone on the line
or quiet. -/
structure CommentFits (before comment : Text) : Prop where
  line : OnOneLine comment.dropLast
  place : StartsLine before ∨ IsQuiet comment

/-- The quoted texts and the comments of a script fit its lines. -/
structure Fits (before : Text) (parts : List Text) : Prop where
  literals : ∀ part ∈ parts, IsLiteral part → LiteralFits part
  comments : ∀ front comment back, parts = front ++ comment :: back → IsComment comment →
    CommentFits (before ++ front.flatten) comment

theorem fits_nil (before : Text) : Fits before [] := by
  refine ⟨nofun, fun front comment back h => ?_⟩
  simp at h

theorem fits_cons {before part : Text} {parts : List Text} :
    Fits before (part :: parts) ↔
      ((IsLiteral part → LiteralFits part) ∧ (IsComment part → CommentFits before part)) ∧
        Fits (before ++ part) parts := by
  constructor
  · intro h
    refine ⟨⟨h.literals part List.mem_cons_self, fun hcomment => ?_⟩,
      fun other hother => h.literals other (List.mem_cons_of_mem _ hother), ?_⟩
    · simpa using h.comments [] part parts rfl hcomment
    · rintro front comment back rfl hcomment
      have hfits := h.comments (part :: front) comment back rfl hcomment
      rwa [List.flatten_cons, ← List.append_assoc] at hfits
  · rintro ⟨⟨hliteral, hfirst⟩, hrest⟩
    refine ⟨List.forall_mem_cons.2 ⟨hliteral, hrest.literals⟩, ?_⟩
    intro front comment back heq hcomment
    cases front with
    | nil =>
      obtain ⟨rfl, -⟩ := List.cons.inj heq
      simpa using hfirst hcomment
    | cons other front =>
      obtain ⟨rfl, hback⟩ := List.cons.inj heq
      rw [List.flatten_cons, ← List.append_assoc]
      exact hrest.comments front comment back hback hcomment

instance (stretch : Text) : Decidable (IsComment stretch) :=
  inferInstanceAs (Decidable (_ <+: stretch))

instance (stretch : Text) : Decidable (IsLiteral stretch) :=
  inferInstanceAs (Decidable (∃ p ∈ stretch.head?, IsMark p))

instance (text : Text) : Decidable (IsQuiet text) :=
  inferInstanceAs (Decidable (_ = _))

instance (text : Text) : Decidable (StartsLine text) :=
  inferInstanceAs (Decidable (∀ p ∈ text.rtakeWhile _, _))

instance (literal : Text) : Decidable (LiteralFits literal) :=
  decidable_of_iff ((∀ p ∈ literal, isLineBreak p = true → p = '\n') ∧
    ∀ line ∈ (splitOn '\n' literal).tail, isCommentLine line = false)
    ⟨fun h => ⟨h.1, h.2⟩, fun h => ⟨h.feeds, h.lines⟩⟩

instance (before comment : Text) : Decidable (CommentFits before comment) :=
  decidable_of_iff ((∀ p ∈ comment.dropLast, isLineBreak p = false) ∧
    (StartsLine before ∨ IsQuiet comment)) ⟨fun h => ⟨h.1, h.2⟩, fun h => ⟨h.line, h.place⟩⟩

/-- Whether a script fits its lines is found out from its first stretch on. -/
instance decidableFits : (before : Text) → (parts : List Text) → Decidable (Fits before parts)
  | before, [] => isTrue (fits_nil before)
  | before, part :: parts =>
    have := decidableFits (before ++ part) parts
    decidable_of_iff _ fits_cons.symm

/-! ### Lines that are read in part -/

/-- A line that is begun is no comment, however it goes on in the way that a text starts. -/
def IsKept (line rest : Text) : Prop :=
  ∀ other, StartsLike other rest → isCommentLine (line ++ other) = false

theorem IsKept.line {line rest : Text} (h : IsKept line rest) : isCommentLine line = false := by
  have hend := h [] nofun
  rwa [List.append_nil] at hend

theorem startsLike_append {front other rest : Text} (hfront : front ≠ []) :
    StartsLike (front ++ other) (front ++ rest) := by
  obtain ⟨p, front, rfl⟩ := List.exists_cons_of_ne_nil hfront
  exact fun q hq => Or.inr hq

theorem IsKept.append {line part rest : Text} (h : IsKept line (part ++ rest)) (hpart : part ≠ []) :
    IsKept (line ++ part) rest := by
  intro other _
  rw [List.append_assoc]
  exact h _ (startsLike_append hpart)

/-- The gaps that do not end a line. -/
def lineGaps : Text := " \t"

theorem isBlank_of_mem_lineGaps : ∀ p ∈ lineGaps, isBlank p = true := by decide

theorem isLineBreak_of_mem_lineGaps : ∀ p ∈ lineGaps, isLineBreak p = false := by decide

theorem mem_gaps_of_mem_lineGaps : ∀ p ∈ lineGaps, p ∈ gaps := by decide

theorem onOneLine_of_lineGaps {line : Text} (h : ∀ p ∈ line, p ∈ lineGaps) : OnOneLine line :=
  fun p hp => isLineBreak_of_mem_lineGaps p (h p hp)

theorem isCommentLine_append_of_lineGaps {line : Text} (h : ∀ p ∈ line, p ∈ lineGaps)
    (part : Text) : isCommentLine (line ++ part) = isCommentLine part :=
  isCommentLine_append_of_blank fun p hp => isBlank_of_mem_lineGaps p (h p hp)

/-- Dropping the comment lines of a text that ends in `rest`, after what was read before, keeps the
contents of the tokens of `rest`: on a line of gaps, on a line that is kept in any case, and on a
comment, which `rest` does not continue. -/
structure Keeps (before rest : Text) (contents : List (TokenKind × Text)) : Prop where
  gaps : ∀ line : Text, (∀ p ∈ line, p ∈ lineGaps) → Plain (keptText (line ++ rest)) contents
  kept : ∀ line : Text, line ≠ [] → OnOneLine line → IsKept line rest →
    (¬StartsLine before ∨ rest.head? = some (.char '\n')) →
    ∃ after, keptText (line ++ rest) = line ++ after ∧ Plain after contents ∧ StartsLike after rest
  comment : ∀ line, OnOneLine line → isCommentLine line = true → (∀ p ∈ rest.head?, p = '\n') →
    Plain (keptText (line ++ rest)) contents

section Keeps

variable {before rest : Text} {contents : List (TokenKind × Text)}

theorem isCommentLine_of_lineGaps {line : Text} (h : ∀ p ∈ line, p ∈ lineGaps) :
    isCommentLine line = false :=
  isCommentLine_of_blank fun p hp => isBlank_of_mem_lineGaps p (h p hp)

theorem plain_lineGaps {line : Text} (hline : ∀ p ∈ line, p ∈ lineGaps)
    (h : Plain rest contents) : Plain (line ++ rest) contents :=
  .gaps_append (fun p hp => mem_gaps_of_mem_lineGaps p (hline p hp)) h

theorem keeps_nil (before : Text) : Keeps before [] [] where
  gaps line hline := by
    rw [List.append_nil]
    by_cases hne : line = []
    · rw [hne]
      exact .nil
    · rw [keptText_of_onOneLine (onOneLine_of_lineGaps hline) hne,
        keptLine_of_false (isCommentLine_of_lineGaps hline)]
      exact plain_lineGaps hline (.gap (by decide) .nil)
  kept line hne hline hkept _ := by
    refine ⟨[.char '\n'], ?_, .gap (by decide) .nil, by simp [StartsLike]⟩
    rw [List.append_nil, keptText_of_onOneLine hline hne, keptLine_of_false hkept.line]
  comment line hline hcomment _ := by
    have hne : line ≠ [] := by
      rintro rfl
      exact absurd hcomment (by decide)
    rw [List.append_nil, keptText_of_onOneLine hline hne, keptLine, if_pos hcomment]
    exact .nil

/-- A break ends the line. -/
theorem keeps_break {p : Point} (hbreak : isLineBreak p = true)
    (hnot : p = '\r' → rest.head? ≠ some (.char '\n')) (h : Plain (keptText rest) contents) :
    Keeps before (p :: rest) contents where
  gaps line hline := by
    rw [keptText_append_break (onOneLine_of_lineGaps hline) hbreak hnot,
      keptLine_of_false (isCommentLine_of_lineGaps hline), List.append_assoc]
    exact plain_lineGaps hline (.gap (by decide) h)
  kept line _ hline hkept _ := by
    refine ⟨.char '\n' :: keptText rest, ?_, .gap (by decide) h, by simp [StartsLike]⟩
    rw [keptText_append_break hline hbreak hnot, keptLine_of_false hkept.line]
    simp
  comment line hline hcomment _ := by
    rw [keptText_append_break hline hbreak hnot, keptLine, if_pos hcomment]
    exact h

/-- A return before a line feed changes nothing. -/
theorem keeps_return (ih : Keeps (before ++ [.char '\r']) (.char '\n' :: rest) contents) :
    Keeps before (.char '\r' :: .char '\n' :: rest) contents where
  gaps line hline := by
    rw [keptText_append_return (onOneLine_of_lineGaps hline)]
    exact ih.gaps line hline
  kept line hne hline hkept _ := by
    have hfeed {other : Text} (h : StartsLike other (.char '\n' :: rest)) :
        StartsLike other (.char '\r' :: .char '\n' :: rest) :=
      fun p hp => Or.inl ((h p hp).elim id fun hp => (Option.some.inj hp).symm)
    rw [keptText_append_return hline]
    obtain ⟨after, hafter, hplain, hstarts⟩ :=
      ih.kept line hne hline (fun other h => hkept other (hfeed h)) (Or.inr rfl)
    exact ⟨after, hafter, hplain, hfeed hstarts⟩
  comment line _ _ hhead := absurd (hhead _ rfl) (by decide)

/-- A stretch that stays on a line that is kept. -/
theorem Keeps.kept_append {part : Text} {content : Option (TokenKind × Text)}
    (ih : Keeps (before ++ part) rest contents) (hstretch : Stretch part content rest)
    (hquiet : IsComment part → IsQuiet part) (hplace : ¬StartsLine (before ++ part)) {line : Text}
    (hline : OnOneLine (line ++ part)) (hkept : IsKept (line ++ part) rest) :
    ∃ after, keptText (line ++ (part ++ rest)) = line ++ after ∧
      Plain after (content.toList ++ contents) ∧ StartsLike after (part ++ rest) := by
  have hne : line ++ part ≠ [] := List.append_ne_nil_of_right_ne_nil _ hstretch.ne_nil
  obtain ⟨after, hafter, hplain, hstarts⟩ := ih.kept (line ++ part) hne hline hkept (Or.inl hplace)
  refine ⟨part ++ after, ?_, .cons (hstretch.congr hstarts) hquiet hplain,
    startsLike_append hstretch.ne_nil⟩
  rw [← List.append_assoc, hafter, List.append_assoc]

theorem keeps_lineGap {p : Point} (hp : p ∈ lineGaps) (ih : Keeps (before ++ [p]) rest contents) :
    Keeps before (p :: rest) contents where
  gaps line hline := by
    rw [List.append_cons]
    exact ih.gaps (line ++ [p]) (List.forall_mem_append.2 ⟨hline, by simpa using hp⟩)
  kept line _ hline hkept hplace := by
    have hbreak := isLineBreak_of_mem_lineGaps p hp
    have hstarts : ¬StartsLine before := by
      refine hplace.resolve_right fun hhead => ?_
      obtain rfl := Option.some.inj hhead
      exact absurd hp (by decide)
    exact ih.kept_append (.gap (mem_gaps_of_mem_lineGaps p hp))
      (fun hcomment => absurd hcomment.length_le (by simp [ofString]))
      (fun h => hstarts (h.of_append_singleton hbreak))
      (onOneLine_append hline (List.forall_mem_singleton.2 hbreak))
      (IsKept.append hkept (List.cons_ne_nil p []))
  comment line _ _ hhead := by
    obtain rfl := hhead p rfl
    exact absurd hp (by decide)

/-- A stretch that is neither blank nor a comment and stays on its line. -/
theorem keeps_solid {part : Text} {content : Option (TokenKind × Text)}
    (hstretch : Stretch part content rest) (hpart : OnOneLine part)
    (hsolid : ∃ p ∈ part, isBlank p = false) (hkept : IsKept part rest)
    (ih : Keeps (before ++ part) rest contents) :
    Keeps before (part ++ rest) (content.toList ++ contents) := by
  obtain ⟨p, hp, hblank⟩ := hsolid
  have hplace : ¬StartsLine (before ++ part) := not_startsLine_append hpart hp hblank
  have hquiet : IsComment part → IsQuiet part := by
    rintro ⟨text, rfl⟩
    exact absurd hkept.line (by simp [isCommentLine_dashes])
  constructor
  · intro line hline
    have hlineKept : IsKept (line ++ part) rest := by
      intro other hother
      rw [List.append_assoc, isCommentLine_append_of_lineGaps hline]
      exact hkept other hother
    obtain ⟨after, hafter, hplain, -⟩ := ih.kept_append hstretch hquiet hplace
      (onOneLine_append (onOneLine_of_lineGaps hline) hpart) hlineKept
    rw [hafter]
    exact plain_lineGaps hline hplain
  · intro line _ hline hlineKept _
    exact ih.kept_append hstretch hquiet hplace (onOneLine_append hline hpart)
      (hlineKept.append hstretch.ne_nil)
  · intro line _ _ hhead
    obtain ⟨q, more, rfl⟩ := List.exists_cons_of_ne_nil hstretch.ne_nil
    have hfeed := hpart q List.mem_cons_self
    rw [hhead q rfl] at hfeed
    exact absurd hfeed (by decide)

theorem keeps_run {p : Point} {run : Text} (hp : inRun p = true) (hrun : ∀ q ∈ run, inRun q = true)
    (hcomment : p = '-' → ∀ q ∈ run.head?, q ≠ '-') (hrest : Breaks rest)
    (ih : Keeps (before ++ p :: run) rest contents) :
    Keeps before (p :: run ++ rest) ((runKind (p :: run), p :: run) :: contents) := by
  have hsolid : ∀ q ∈ p :: run, isBlank q = false :=
    List.forall_mem_cons.2 ⟨isBlank_of_inRun hp, fun q hq => isBlank_of_inRun (hrun q hq)⟩
  have hkept : IsKept (p :: run) rest := by
    intro other hother
    refine isCommentLine_cons (isBlank_of_inRun hp) fun hdash hhead => ?_
    cases run with
    | nil =>
      -- what follows the run would start with a dash, and so continue it
      have hbreak : inRun (.char '-') = false := by
        rcases hother _ hhead with hfeed | hmem
        · exact absurd hfeed (by decide)
        · exact hrest _ hmem
      exact absurd hbreak (by decide)
    | cons q run => exact hcomment hdash q rfl (by simpa using hhead)
  exact keeps_solid (.run hp hrun hcomment hrest) (onOneLine_of_solid hsolid)
    ⟨p, List.mem_cons_self, hsolid p List.mem_cons_self⟩ hkept ih

theorem keeps_sign {text : Text} {kind : TokenKind} (hsign : (text, kind) ∈ signs)
    (hrest : text = "<" ∨ text = ">" → ∀ p ∈ rest.head?, p ≠ '=')
    (ih : Keeps (before ++ text) rest contents) :
    Keeps before (text ++ rest) ((kind, text) :: contents) := by
  have hsolid := isBlank_of_mem_signs hsign
  have hdash : ∀ p ∈ text, p ≠ '-' :=
    (by decide : ∀ entry ∈ signs, ∀ p ∈ entry.1, p ≠ '-') _ hsign
  have hstretch : Stretch text (some (kind, text)) rest := .sign hsign hrest
  obtain ⟨p, more, rfl⟩ := List.exists_cons_of_ne_nil hstretch.ne_nil
  have hkept : IsKept (p :: more) rest := fun other _ =>
    isCommentLine_cons (hsolid p List.mem_cons_self) fun h =>
      absurd h (hdash p List.mem_cons_self)
  exact keeps_solid hstretch (onOneLine_of_solid hsolid)
    ⟨p, List.mem_cons_self, hsolid p List.mem_cons_self⟩ hkept ih

/-- The last line of a quoted text that fits its lines, on a line that is no comment before it. -/
theorem LiteralFits.exists_lastLine {mark : Point} {source text line : Text} (hmark : IsMark mark)
    (hcloses : Closes mark source text) (hfits : LiteralFits (mark :: source))
    (hline : OnOneLine line) (hkept : isCommentLine (line ++ [mark]) = false) :
    ∃ front begun, line ++ mark :: source = front ++ (begun ++ [mark]) ∧
      OnOneLine (begun ++ [mark]) ∧ isCommentLine (begun ++ [mark]) = false ∧
      ∀ rest, keptText (line ++ (mark :: source ++ rest)) =
        front ++ keptText (begun ++ [mark] ++ rest) := by
  obtain ⟨hblank, -, hdash, hfeed⟩ := hmark.solid
  have hlines : ∀ l ∈ splitOn '\n' (line ++ mark :: source), isCommentLine l = false := by
    obtain ⟨first, tail, hsplit⟩ := List.exists_cons_of_ne_nil (splitOn_ne_nil '\n' source)
    have htail := hfits.lines
    rw [splitOn_cons_of_ne hfeed, hsplit, List.modifyHead_cons] at htail
    rw [splitOn_append_of_not_mem hline.feed_not_mem, splitOn_cons_of_ne hfeed, hsplit,
      List.modifyHead_cons, List.modifyHead_cons]
    refine List.forall_mem_cons.2 ⟨?_, htail⟩
    rw [isCommentLine_append_cons hblank hdash, hkept]
  obtain ⟨front, last, heq, hlast, hcomment, hends, hsame⟩ :=
    TableQuery.exists_lastLine hline hfits.feeds hlines
  obtain ⟨inner, rfl⟩ := hcloses.exists_append
  -- the closing quote is on the last line, since the lines before it end with line feeds
  obtain ⟨begun, rfl⟩ : ∃ begun, last = begun ++ [mark] := by
    rw [← List.cons_append, ← List.append_assoc] at heq
    rcases last.eq_nil_or_concat with rfl | ⟨begun, p, rfl⟩
    · rcases hends with rfl | ⟨more, rfl⟩
      · simp at heq
      · rw [List.append_nil] at heq
        exact absurd (List.append_singleton_inj.1 heq).2 hfeed
    · rw [List.concat_eq_append, ← List.append_assoc] at heq
      exact ⟨begun, by rw [List.concat_eq_append, (List.append_singleton_inj.1 heq).2]⟩
  exact ⟨front, begun, heq, hlast, hcomment, hsame⟩

theorem keeps_literal {mark : Point} {source text : Text} (hmark : IsMark mark)
    (hcloses : Closes mark source text) (hfits : LiteralFits (mark :: source))
    (ih : Keeps (before ++ mark :: source) rest contents) :
    Keeps before (mark :: source ++ rest) ((.string, text) :: contents) := by
  obtain ⟨hblank, -, hdash, hfeed⟩ := hmark.solid
  have hstretch : Stretch (mark :: source) (some (.string, text)) rest := .literal hmark hcloses
  have hplace : ¬StartsLine (before ++ mark :: source) := by
    obtain ⟨inner, rfl⟩ := hcloses.exists_append
    have hclosing : OnOneLine [mark] := onOneLine_of_solid (List.forall_mem_singleton.2 hblank)
    rw [← List.cons_append, ← List.append_assoc]
    exact not_startsLine_append hclosing (List.mem_singleton_self mark) hblank
  -- on a line that is no comment so far, the opening quote settles that it is none
  have hstep : ∀ line, OnOneLine line → isCommentLine (line ++ [mark]) = false →
      ∃ after, keptText (line ++ (mark :: source ++ rest)) = line ++ after ∧
        Plain after ((.string, text) :: contents) ∧ StartsLike after (mark :: source ++ rest) := by
    intro line hline hkept
    obtain ⟨front, begun, heq, hlast, hcomment, hsame⟩ :=
      hfits.exists_lastLine hmark hcloses hline hkept
    have hlastKept : IsKept (begun ++ [mark]) rest := by
      intro other _
      rw [← List.append_cons, isCommentLine_append_cons hblank hdash, hcomment]
    obtain ⟨after, hafter, hplain, hstarts⟩ :=
      ih.kept (begun ++ [mark]) (by simp) hlast hlastKept (Or.inl hplace)
    refine ⟨mark :: source ++ after, ?_, .cons (hstretch.congr hstarts) ?_ hplain,
      startsLike_append (by simp)⟩
    · rw [hsame, hafter, ← List.append_assoc, ← heq, List.append_assoc]
    · rintro ⟨more, hmore⟩
      exact absurd (List.cons.inj hmore).1.symm hdash
  constructor
  · intro line hline
    have hkept : isCommentLine (line ++ [mark]) = false := by
      rw [isCommentLine_append_of_lineGaps hline]
      exact isCommentLine_cons hblank fun h => absurd h hdash
    obtain ⟨after, hafter, hplain, -⟩ := hstep line (onOneLine_of_lineGaps hline) hkept
    rw [hafter]
    exact plain_lineGaps hline hplain
  · intro line _ hline hkept _
    exact hstep line hline (hkept [mark] fun p hp => Or.inr hp)
  · intro line _ _ hhead
    exact absurd (hhead mark rfl) hfeed

/-- A comment on its line. The code point after its text, if there is one, breaks the line. -/
theorem keeps_comment_line {text : Text} (htext : ∀ p ∈ text, p ≠ '\n')
    (hrest : ∀ p ∈ rest.head?, p = '\n') (hline : OnOneLine (.char '-' :: .char '-' :: text))
    (hfits : StartsLine before ∨ IsQuiet (.char '-' :: .char '-' :: text))
    (ih : Keeps (before ++ .char '-' :: .char '-' :: text) rest contents) :
    Keeps before (.char '-' :: .char '-' :: text ++ rest) contents := by
  have hstretch : Stretch (.char '-' :: .char '-' :: text) none rest := .comment htext hrest
  constructor
  · intro line hgaps
    have hcomment : isCommentLine (line ++ .char '-' :: .char '-' :: text) = true := by
      rw [isCommentLine_append_of_lineGaps hgaps]
      exact isCommentLine_dashes text
    rw [← List.append_assoc]
    exact ih.comment _ (onOneLine_append (onOneLine_of_lineGaps hgaps) hline) hcomment hrest
  · intro line _ hlineOne hkept hplace
    have hstarts : ¬StartsLine before := hplace.resolve_right (by simp)
    exact ih.kept_append hstretch (fun _ => hfits.resolve_left hstarts)
      (not_startsLine_append hline List.mem_cons_self (by decide)) (onOneLine_append hlineOne hline)
      (hkept.append (by simp))
  · intro line _ _ hhead
    exact absurd (hhead _ rfl) (by decide)

/-- Before a line feed it does not matter what was read before. -/
theorem Keeps.before_feed {other : Text} (h : Keeps other (.char '\n' :: rest) contents) :
    Keeps before (.char '\n' :: rest) contents :=
  ⟨h.gaps, fun line hne hline hkept _ => h.kept line hne hline hkept (Or.inr rfl), h.comment⟩

/-- Another line break than a line feed, after the beginning of a line. -/
theorem Keeps.other_break {part after : Text} {p : Point} (hpart : OnOneLine part) (hne : part ≠ [])
    (hsame : ∀ line, OnOneLine line → keptText (line ++ p :: after) =
      keptText (line ++ .char '\n' :: rest))
    (h : Keeps before (part ++ .char '\n' :: rest) contents) :
    Keeps before (part ++ p :: after) contents := by
  have hhead : (part ++ p :: after).head? = (part ++ .char '\n' :: rest).head? := by
    obtain ⟨q, part, rfl⟩ := List.exists_cons_of_ne_nil hne
    rfl
  have hkeep (line : Text) (hline : OnOneLine line) :
      keptText (line ++ (part ++ p :: after)) =
        keptText (line ++ (part ++ .char '\n' :: rest)) := by
    rw [← List.append_assoc, hsame _ (onOneLine_append hline hpart), List.append_assoc]
  constructor
  · intro line hline
    rw [hkeep line (onOneLine_of_lineGaps hline)]
    exact h.gaps line hline
  · intro line hlineNe hline hkept hplace
    have hstarts (other : Text) : StartsLike other (part ++ p :: after) ↔
        StartsLike other (part ++ .char '\n' :: rest) := by
      rw [StartsLike, hhead, StartsLike]
    rw [hhead] at hplace
    rw [hkeep line hline]
    simp only [hstarts]
    exact h.kept line hlineNe hline (fun other hother => hkept other ((hstarts other).2 hother))
      hplace
  · intro line hline hcomment hfeed
    rw [hkeep line hline]
    rw [hhead] at hfeed
    exact h.comment line hline hcomment hfeed

/-- A comment with a line break at its end. -/
theorem keeps_comment_break {text : Text} {p : Point} (hbreak : isLineBreak p = true)
    (htext : ∀ q ∈ text, q ≠ '\n') (hrest : ∀ p ∈ rest.head?, p = '\n')
    (hline : OnOneLine (.char '-' :: .char '-' :: text))
    (hfits : StartsLine before ∨ IsQuiet (.char '-' :: .char '-' :: text))
    (ih : Keeps (before ++ .char '-' :: .char '-' :: (text ++ [p])) rest contents) :
    Keeps before (.char '-' :: .char '-' :: text ++ p :: rest) contents := by
  by_cases hreturn : p = '\r' ∧ rest.head? = some (.char '\n')
  · obtain ⟨rfl, hhead⟩ := hreturn
    obtain ⟨more, rfl⟩ := List.head?_eq_some_iff.1 hhead
    exact (keeps_comment_line htext hrest hline hfits ih.before_feed).other_break hline (by simp)
      fun line hlineOne => keptText_append_return hlineOne more
  · have hnot : p = '\r' → rest.head? ≠ some (.char '\n') := fun hp hhead => hreturn ⟨hp, hhead⟩
    have hfeed : Keeps (before ++ .char '-' :: .char '-' :: text) (.char '\n' :: rest) contents :=
      keeps_break rfl (fun h => absurd h (by decide)) (ih.gaps [] nofun)
    refine (keeps_comment_line htext (by simp) hline hfits hfeed).other_break hline (by simp)
      fun line hlineOne => ?_
    rw [keptText_append_break hlineOne hbreak hnot, keptText_append_feed hlineOne]

end Keeps

/-! ### Scripts -/

/-- Dropping the comment lines of a script that fits them keeps the contents of its tokens. -/
theorem Lexes.keeps {parts : List Text} {contents : List (TokenKind × Text)}
    (h : Lexes parts contents) {before : Text} (hfits : Fits before parts) :
    Keeps before parts.flatten contents := by
  induction h generalizing before with
  | nil => exact keeps_nil before
  | @cons part content more contents hstretch _ ih =>
    have hmore := ih (fits_cons.1 hfits).2
    rw [List.flatten_cons]
    cases hstretch with
    | @gap p _ hp =>
      have hgaps : ∀ p ∈ gaps, p ∈ lineGaps ∨ p = '\r' ∨ p = '\n' := by decide
      rcases hgaps p hp with hgap | rfl | rfl
      · exact keeps_lineGap hgap hmore
      · by_cases hfeed : more.flatten.head? = some (.char '\n')
        · obtain ⟨rest, hrest⟩ := List.head?_eq_some_iff.1 hfeed
          rw [hrest] at hmore ⊢
          exact keeps_return hmore
        · exact keeps_break rfl (fun _ => hfeed) (hmore.gaps [] nofun)
      · exact keeps_break rfl (fun h => absurd h (by decide)) (hmore.gaps [] nofun)
    | literal hmark hcloses =>
      exact keeps_literal hmark hcloses
        (hfits.literals _ List.mem_cons_self ⟨_, rfl, hmark⟩) hmore
    | @comment text _ htext hrest =>
      obtain ⟨hline, hplace⟩ := hfits.comments [] _ more rfl ⟨text, rfl⟩
      rw [List.flatten_nil, List.append_nil] at hplace
      rcases text.eq_nil_or_concat with rfl | ⟨text, p, rfl⟩
      · refine keeps_comment_line htext hrest (onOneLine_of_solid ?_) hplace hmore
        decide
      · rw [List.concat_eq_append] at htext hplace hline hmore ⊢
        rw [← List.cons_append, ← List.cons_append, List.dropLast_concat] at hline
        by_cases hbreak : isLineBreak p = true
        · rw [List.cons_append, List.cons_append, List.append_assoc, ← List.cons_append,
            ← List.cons_append]
          exact keeps_comment_break hbreak (fun q hq => htext q (List.mem_append_left _ hq)) hrest
            hline (hplace.imp_right fun hquiet =>
              .of_append_blank (isBlank_of_isLineBreak hbreak) hquiet) hmore
        · refine keeps_comment_line htext hrest (onOneLine_append hline ?_) hplace hmore
          exact List.forall_mem_singleton.2 (Bool.not_eq_true _ ▸ hbreak)
    | run hp hrun hcomment hrest => exact keeps_run hp hrun hcomment hrest hmore
    | sign hsign hrest => exact keeps_sign hsign hrest hmore

theorem Lexes.plain_keptText {parts : List Text} {contents : List (TokenKind × Text)}
    (h : Lexes parts contents) (hfits : Fits [] parts) : Plain (keptText parts.flatten) contents :=
  (h.keeps hfits).gaps [] nofun

end TableQuery
