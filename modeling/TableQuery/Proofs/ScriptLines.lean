import TableQuery.Proofs.Numerals
import TableQuery.Script

/-!
# The lines of a script

* `OnOneLine`: a text without line breaks.
* `splitLines_append_break`, `splitLines_append_return`: the first line of a text and the others.
* `isCommentLine_iff`: a line is a comment by its first two code points that are not blank.
* `keptText`: a text without its comment lines, each line with a line feed after it.
* `exists_lastLine`: a text with line feeds in it, of which the last line goes on.
-/

namespace TableQuery

open Text

namespace Text

/-! ### Lines -/

/-- A text without line breaks. -/
def OnOneLine (t : Text) : Prop :=
  ∀ p ∈ t, isLineBreak p = false

theorem onOneLine_nil : OnOneLine [] :=
  List.forall_mem_nil _

theorem onOneLine_append {line part : Text} (hline : OnOneLine line) (hpart : OnOneLine part) :
    OnOneLine (line ++ part) :=
  List.forall_mem_append.2 ⟨hline, hpart⟩

theorem splitLines_cons {p : Point} (hp : isLineBreak p = false) (t : Text) :
    splitLines (p :: t) =
      match splitLines t with
      | [] => [[p]]
      | line :: lines => (p :: line) :: lines := by
  have hreturn : p ≠ '\r' := by
    rintro rfl
    revert hp
    decide
  rw [splitLines.eq_def]
  split
  · simp_all
  · simp_all
  · rename_i heq
    obtain ⟨rfl, rfl⟩ := List.cons.inj heq
    exact if_neg (by simp [hp])

theorem splitLines_break {p : Point} (hp : isLineBreak p = true) {t : Text}
    (hnot : p = '\r' → t.head? ≠ some (.char '\n')) : splitLines (p :: t) = [] :: splitLines t := by
  rw [splitLines.eq_def]
  split
  · simp_all
  · simp_all
  · rename_i heq
    obtain ⟨rfl, rfl⟩ := List.cons.inj heq
    simp [hp]

/-- A line up to a break. -/
theorem splitLines_append_break {line t : Text} (hline : OnOneLine line) {p : Point}
    (hp : isLineBreak p = true) (hnot : p = '\r' → t.head? ≠ some (.char '\n')) :
    splitLines (line ++ p :: t) = line :: splitLines t := by
  induction line with
  | nil => exact splitLines_break hp hnot
  | cons q line ih =>
    obtain ⟨hq, hline⟩ := List.forall_mem_cons.1 hline
    rw [List.cons_append, splitLines_cons hq, ih hline]

/-- A return and a line feed are a single break. -/
theorem splitLines_append_return {line : Text} (hline : OnOneLine line) (t : Text) :
    splitLines (line ++ .char '\r' :: .char '\n' :: t) = splitLines (line ++ .char '\n' :: t) := by
  induction line with
  | nil =>
    have hfeed : splitLines (.char '\n' :: t) = [] :: splitLines t :=
      splitLines_break rfl fun h => absurd h (by decide)
    rw [List.nil_append, List.nil_append, hfeed, splitLines]
  | cons q line ih =>
    obtain ⟨hq, hline⟩ := List.forall_mem_cons.1 hline
    rw [List.cons_append, List.cons_append, splitLines_cons hq, splitLines_cons hq, ih hline]

theorem splitLines_of_onOneLine {line : Text} (hline : OnOneLine line) (hne : line ≠ []) :
    splitLines line = [line] := by
  induction line with
  | nil => exact absurd rfl hne
  | cons p line ih =>
    obtain ⟨hp, hline⟩ := List.forall_mem_cons.1 hline
    rw [splitLines_cons hp]
    cases line with
    | nil => rfl
    | cons q line => rw [ih hline (by simp)]

theorem isBlank_of_isLineBreak {p : Point} (h : isLineBreak p = true) : isBlank p = true := by
  simp only [isLineBreak, isBlank, Bool.or_eq_true, Bool.and_eq_true, decide_eq_true_eq,
    beq_iff_eq] at h ⊢
  omega

theorem onOneLine_of_solid {part : Text} (h : ∀ p ∈ part, isBlank p = false) : OnOneLine part := by
  intro p hp
  by_contra hbreak
  have hblank := isBlank_of_isLineBreak (Bool.not_eq_false _ ▸ hbreak)
  simp [h p hp] at hblank

theorem OnOneLine.feed_not_mem {line : Text} (h : OnOneLine line) : .char '\n' ∉ line :=
  fun hmem => absurd (h _ hmem) (by decide)

/-! ### Lines that end with line feeds only -/

theorem splitOn_cons_of_ne {separator p : Point} (hp : p ≠ separator) (t : Text) :
    splitOn separator (p :: t) = (splitOn separator t).modifyHead (p :: ·) := by
  rw [splitOn, if_neg hp]
  split
  · rename_i hnil
    exact absurd hnil (splitOn_ne_nil separator t)
  · rename_i part parts hparts
    rw [hparts, List.modifyHead_cons]

theorem splitOn_append_of_not_mem {separator : Point} {front : Text} (h : separator ∉ front)
    (t : Text) :
    splitOn separator (front ++ t) = (splitOn separator t).modifyHead (front ++ ·) := by
  induction front with
  | nil => exact (congrFun List.modifyHead_id _).symm
  | cons p front ih =>
    obtain ⟨hp, hfront⟩ := not_or.1 (List.mem_cons.not.1 h)
    rw [List.cons_append, splitOn_cons_of_ne (Ne.symm hp), ih hfront, List.modifyHead_modifyHead]
    rfl

theorem splitOn_append_cons {separator : Point} {front : Text} (h : separator ∉ front) (t : Text) :
    splitOn separator (front ++ separator :: t) = front :: splitOn separator t := by
  rw [splitOn_append_of_not_mem h, splitOn, if_pos rfl, List.modifyHead_cons, List.append_nil]

end Text

/-! ### Comment lines -/

theorem rdropWhile_dashes (text : Text) :
    ∃ more, (.char '-' :: .char '-' :: text : Text).rdropWhile isBlank =
      .char '-' :: .char '-' :: more := by
  induction text using List.reverseRecOn with
  | nil => exact ⟨[], by decide⟩
  | append_singleton text p ih =>
    rw [← List.cons_append, ← List.cons_append, List.rdropWhile_concat]
    split
    · exact ih
    · exact ⟨text ++ [p], rfl⟩

/-- A comment is a line whose first two code points that are not blank are dashes. -/
theorem isCommentLine_iff {line : Text} :
    isCommentLine line = true ↔
      ∃ text, line.dropWhile isBlank = .char '-' :: .char '-' :: text := by
  rw [isCommentLine, List.isPrefixOf_iff_prefix, trim_eq_rdropWhile]
  constructor
  · intro hdashes
    obtain ⟨text, htext⟩ := hdashes.trans (List.rdropWhile_prefix isBlank _)
    exact ⟨text, htext.symm⟩
  · rintro ⟨text, htext⟩
    obtain ⟨more, hmore⟩ := rdropWhile_dashes text
    rw [htext, hmore]
    exact ⟨more, rfl⟩

theorem isCommentLine_dashes (text : Text) : isCommentLine (ofString "--" ++ text) = true :=
  isCommentLine_iff.2 ⟨text, rfl⟩

/-- Blanks in front of a line do not make it a comment. -/
theorem isCommentLine_append_of_blank {front line : Text} (h : ∀ p ∈ front, isBlank p = true) :
    isCommentLine (front ++ line) = isCommentLine line := by
  rw [Bool.eq_iff_iff, isCommentLine_iff, isCommentLine_iff, List.dropWhile_append_of_pos h]

theorem isCommentLine_of_blank {line : Text} (h : ∀ p ∈ line, isBlank p = true) :
    isCommentLine line = false := by
  rw [← List.append_nil line, isCommentLine_append_of_blank h]
  rfl

/-- Whether a line is a comment is settled by a code point that is neither blank nor a dash. -/
theorem isCommentLine_append_cons {front : Text} {p : Point} (hblank : isBlank p = false)
    (hdash : p ≠ '-') (text : Text) :
    isCommentLine (front ++ p :: text) = isCommentLine (front ++ [p]) := by
  have hdrop (more : Text) :
      (front ++ p :: more).dropWhile isBlank = front.dropWhile isBlank ++ p :: more := by
    rw [List.dropWhile_append]
    split
    · rename_i hempty
      rw [List.isEmpty_iff.1 hempty]
      simp [hblank]
    · rfl
  rw [Bool.eq_iff_iff, isCommentLine_iff, isCommentLine_iff, hdrop, hdrop]
  match front.dropWhile isBlank with
  | [] => simp [hdash]
  | [q] => simp [hdash]
  | q :: r :: more => simp

theorem isCommentLine_cons {p : Point} (hp : isBlank p = false) {text : Text}
    (h : p = '-' → text.head? ≠ some (.char '-')) : isCommentLine (p :: text) = false := by
  rw [Bool.eq_false_iff, Ne, isCommentLine_iff]
  rintro ⟨more, hmore⟩
  rw [List.dropWhile_cons_of_neg (by simp [hp])] at hmore
  obtain ⟨rfl, rfl⟩ := List.cons.inj hmore
  exact h rfl rfl

/-! ### Kept lines -/

/-- The lines of a text that are no comments, each with a line feed after it. -/
def keptText (text : Text) : Text :=
  (scriptLines text).flatMap fun line => line ++ [.char '\n']

/-- What is kept of a line. -/
def keptLine (line : Text) : Text :=
  if isCommentLine line then [] else line ++ [.char '\n']

theorem keptLine_of_false {line : Text} (h : isCommentLine line = false) :
    keptLine line = line ++ [.char '\n'] := by
  rw [keptLine, h]
  rfl

theorem keptText_append_break {line t : Text} (hline : OnOneLine line) {p : Point}
    (hp : isLineBreak p = true) (hnot : p = '\r' → t.head? ≠ some (.char '\n')) :
    keptText (line ++ p :: t) = keptLine line ++ keptText t := by
  unfold keptText keptLine scriptLines
  rw [splitLines_append_break hline hp hnot, List.filter_cons]
  cases isCommentLine line <;> simp

theorem keptText_append_feed {line : Text} (hline : OnOneLine line) (t : Text) :
    keptText (line ++ .char '\n' :: t) = keptLine line ++ keptText t :=
  keptText_append_break hline rfl fun h => absurd h (by decide)

theorem keptText_append_return {line : Text} (hline : OnOneLine line) (t : Text) :
    keptText (line ++ .char '\r' :: .char '\n' :: t) = keptText (line ++ .char '\n' :: t) := by
  rw [keptText, scriptLines, splitLines_append_return hline]
  rfl

theorem keptText_of_onOneLine {line : Text} (hline : OnOneLine line) (hne : line ≠ []) :
    keptText line = keptLine line := by
  unfold keptText keptLine scriptLines
  rw [splitLines_of_onOneLine hline hne, List.filter_cons]
  cases isCommentLine line <;> simp

theorem joinWith_feed {lines : List Text} (h : lines ≠ []) :
    joinWith "\n" lines ++ [.char '\n'] = lines.flatMap fun line => line ++ [.char '\n'] := by
  induction lines with
  | nil => exact absurd rfl h
  | cons line lines ih =>
    cases lines with
    | nil => simp [joinWith]
    | cons next lines =>
      have hjoin : joinWith "\n" (line :: next :: lines) =
          line ++ .char '\n' :: joinWith "\n" (next :: lines) := by
        simp [joinWith, List.intercalate, ofString]
      rw [hjoin, List.flatMap_cons, ← ih (by simp)]
      simp

/-- The last line of a text that begins on a line, and what is kept of those before it. -/
theorem exists_lastLine {line part : Text} (hline : OnOneLine line)
    (hfeeds : ∀ p ∈ part, isLineBreak p = true → p = '\n')
    (hlines : ∀ l ∈ splitOn '\n' (line ++ part), isCommentLine l = false) :
    ∃ front last, line ++ part = front ++ last ∧ OnOneLine last ∧ isCommentLine last = false ∧
      (front = [] ∨ ∃ more, front = more ++ [.char '\n']) ∧
      ∀ rest, keptText (line ++ (part ++ rest)) = front ++ keptText (last ++ rest) := by
  induction part generalizing line with
  | nil =>
    refine ⟨[], line, by simp, hline, ?_, Or.inl rfl, fun rest => rfl⟩
    rw [splitOn_append_of_not_mem hline.feed_not_mem] at hlines
    simpa [splitOn] using hlines
  | cons p part ih =>
    obtain ⟨hp, hpart⟩ := List.forall_mem_cons.1 hfeeds
    by_cases hfeed : p = '\n'
    · subst hfeed
      rw [splitOn_append_cons hline.feed_not_mem] at hlines
      obtain ⟨hfirst, hrest⟩ := List.forall_mem_cons.1 hlines
      obtain ⟨front, last, heq, hlast, hcomment, hends, hkept⟩ :=
        ih onOneLine_nil hpart hrest
      refine ⟨line ++ .char '\n' :: front, last, ?_, hlast, hcomment, Or.inr ?_, fun rest => ?_⟩
      · rw [List.append_assoc, List.cons_append, ← heq, List.nil_append]
      · rcases hends with rfl | ⟨more, rfl⟩
        · exact ⟨line, rfl⟩
        · exact ⟨line ++ .char '\n' :: more, by simp⟩
      · have hrest := hkept rest
        rw [List.nil_append] at hrest
        rw [List.cons_append, keptText_append_feed hline, keptLine_of_false hfirst, hrest]
        simp
    · have hbreak : isLineBreak p = false := by
        by_contra hbreak
        exact hfeed (hp (Bool.not_eq_false _ ▸ hbreak))
      rw [List.append_cons] at hlines
      obtain ⟨front, last, heq, hlast, hcomment, hends, hkept⟩ :=
        ih (onOneLine_append hline (List.forall_mem_singleton.2 hbreak)) hpart hlines
      refine ⟨front, last, by rw [List.append_cons, heq], hlast, hcomment, hends, fun rest => ?_⟩
      rw [List.cons_append, List.append_cons, hkept]

end TableQuery
