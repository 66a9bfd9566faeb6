import TableQuery.Proofs.CommentLines

/-!
# Scripts split into statements

A script is split into statements before its tokens are known, by code points and quotes. The
statements are those that the semicolons among its tokens would make.

* `statementParts_append`: what is outside semicolons stays in front of the first part.
* `Stretch.isQuiet`, `Stretch.eq_semicolon`: only the stretch of a semicolon cuts.
* `Plain.forall₂_parts`: the parts of a plain text have the tokens between semicolons.
* `Plain.trim`: blanks around a plain text play no part.
* `tokenContents_scriptStatements`: the statements of a script have the tokens between semicolons.
-/

namespace TableQuery

open Text

/-! ### Parts of a plain text -/

theorem statementParts_ne_nil (state : QuoteState) (text : Text) :
    statementParts state text ≠ [] := by
  induction text generalizing state with
  | nil => simp [statementParts]
  | cons p text ih =>
    rw [statementParts]
    split
    · simp
    · split <;> simp

theorem statementParts_cons {state : QuoteState} {p : Point} (h : ¬(p = ';' ∧ state = .outside))
    (rest : Text) : statementParts state (p :: rest) =
      (statementParts (state.next p) rest).modifyHead (p :: ·) := by
  rw [statementParts, if_neg h]
  split
  · rename_i hnil
    exact absurd hnil (statementParts_ne_nil _ _)
  · rename_i part parts hparts
    rw [hparts, List.modifyHead_cons]

/-- A text without a semicolon outside quotes stays in front of the first part. -/
theorem statementParts_append {state last : QuoteState} {front : Text}
    (h : state.after? front = some last) (rest : Text) :
    statementParts state (front ++ rest) =
      (statementParts last rest).modifyHead (front ++ ·) := by
  induction front generalizing state with
  | nil =>
    obtain rfl := Option.some.inj h
    exact (congrFun List.modifyHead_id _).symm
  | cons p front ih =>
    rw [QuoteState.after?] at h
    split at h
    · simp at h
    · rename_i hinside
      rw [List.cons_append, statementParts_cons hinside, ih h, List.modifyHead_modifyHead]
      rfl

theorem isQuiet_of_forall {text : Text} (h : ∀ p ∈ text, p ∉ ofString ";\"'") : IsQuiet text := by
  induction text with
  | nil => rfl
  | cons p text ih =>
    obtain ⟨hp, htext⟩ := List.forall_mem_cons.1 h
    have hplain : p ≠ ';' ∧ p ≠ '"' ∧ p ≠ '\'' := by simpa [ofString] using hp
    have hnext : QuoteState.outside.next p = .outside := by simp [QuoteState.next, hplain]
    rw [IsQuiet, QuoteState.after?, if_neg fun hcut => hplain.1 hcut.1, hnext]
    exact ih htext

/-- Code points of a kind that neither cuts a script nor opens quotes. -/
theorem isQuiet_of_kind {kind : Point → Bool} (hends : ∀ q ∈ ofString ";\"'", kind q = false)
    {text : Text} (h : ∀ p ∈ text, kind p = true) : IsQuiet text := by
  refine isQuiet_of_forall fun p hp hmem => ?_
  simpa [h p hp] using hends p hmem

theorem Closes.after? {mark : Point} {source text : Text} (hmark : mark ≠ '\\')
    (h : Closes mark source text) : (QuoteState.inside mark).after? source = some .outside := by
  induction h with
  | close => simp [QuoteState.after?, QuoteState.next, hmark]
  | kept _ _ ih => simpa [QuoteState.after?, QuoteState.next] using ih
  | plain hne hslash _ ih => simpa [QuoteState.after?, QuoteState.next, hne, hslash] using ih

/-- The contents of a semicolon. -/
def isSemicolon (content : TokenKind × Text) : Bool :=
  content.1 == .semicolon

/-- Only a semicolon stands outside quotes. -/
theorem Stretch.isQuiet {stretch rest : Text} {content : Option (TokenKind × Text)}
    (h : Stretch stretch content rest) (hcomment : IsComment stretch → IsQuiet stretch)
    (hcontent : ∀ c ∈ content, isSemicolon c = false) : IsQuiet stretch := by
  cases h with
  | @gap p _ hp =>
    have hgaps : ∀ p ∈ gaps, p ∉ ofString ";\"'" := by decide
    exact isQuiet_of_forall (List.forall_mem_singleton.2 (hgaps p hp))
  | @literal mark source _ _ hmark hcloses =>
    have hinside := hcloses.after? hmark.solid.2.1
    rcases hmark with rfl | rfl <;> exact hinside
  | comment _ _ => exact hcomment ⟨_, rfl⟩
  | run hp hrun _ _ =>
    exact isQuiet_of_kind (by decide) (List.forall_mem_cons.2 ⟨hp, hrun⟩)
  | sign hsign _ =>
    have hsigns : ∀ entry ∈ signs, entry.2 ≠ .semicolon → ∀ p ∈ entry.1, p ∉ ofString ";\"'" := by
      decide
    exact isQuiet_of_forall (hsigns _ hsign (by simpa [isSemicolon] using hcontent))

theorem Stretch.eq_semicolon {stretch rest : Text} {content : TokenKind × Text}
    (h : Stretch stretch (some content) rest) (hcontent : isSemicolon content = true) :
    stretch = [.char ';'] := by
  cases h with
  | literal _ _ => simp [isSemicolon] at hcontent
  | @run p run _ _ _ _ _ =>
    have hkind : runKind (p :: run) ≠ .semicolon := runKind_ne _ rfl
    simp [isSemicolon, hkind] at hcontent
  | sign hsign _ =>
    have hsigns : ∀ entry ∈ signs, entry.2 = .semicolon → entry.1 = [.char ';'] := by decide
    exact hsigns _ hsign (by simpa [isSemicolon] using hcontent)

theorem startsLike_of_statementParts {text part : Text} {parts : List Text}
    (h : statementParts .outside text = part :: parts) : StartsLike part text := by
  cases text with
  | nil =>
    obtain ⟨rfl, -⟩ := List.cons.inj h
    exact nofun
  | cons p rest =>
    by_cases hcut : p = ';' ∧ QuoteState.outside = .outside
    · rw [statementParts, if_pos hcut] at h
      obtain ⟨rfl, -⟩ := List.cons.inj h
      exact nofun
    · obtain ⟨first, more, hfirst⟩ :=
        List.exists_cons_of_ne_nil (statementParts_ne_nil (QuoteState.outside.next p) rest)
      rw [statementParts_cons hcut, hfirst, List.modifyHead_cons] at h
      obtain ⟨rfl, -⟩ := List.cons.inj h
      exact fun q hq => Or.inr hq

/-- The parts of a plain text between the semicolons outside quotes are plain, and have the contents
between the semicolons. -/
theorem Plain.forall₂_parts {text : Text} {contents : List (TokenKind × Text)}
    (h : Plain text contents) :
    List.Forall₂ Plain (statementParts .outside text) (contents.splitOnP isSemicolon) := by
  induction h with
  | nil => exact .cons .nil .nil
  | @cons stretch rest content contents hstretch hcomment _ ih =>
    by_cases hsemicolon : ∃ c ∈ content, isSemicolon c = true
    · obtain ⟨c, hc, hsemicolon⟩ := hsemicolon
      obtain rfl : content = some c := hc
      obtain rfl := hstretch.eq_semicolon hsemicolon
      have hgroups : ((some c).toList ++ contents).splitOnP isSemicolon =
          [] :: contents.splitOnP isSemicolon := by
        rw [Option.toList_some, List.singleton_append, List.splitOnP_cons_eq_if_modifyHead,
          if_pos hsemicolon]
      rw [hgroups, List.singleton_append, statementParts, if_pos ⟨rfl, rfl⟩]
      exact .cons .nil ih
    · have hcontent : ∀ c ∈ content, isSemicolon c = false := by
        intro c hc
        by_contra hc'
        exact hsemicolon ⟨c, hc, Bool.not_eq_false _ ▸ hc'⟩
      have hgroups : (content.toList ++ contents).splitOnP isSemicolon =
          (contents.splitOnP isSemicolon).modifyHead (content.toList ++ ·) := by
        cases content with
        | none => exact (congrFun List.modifyHead_id _).symm
        | some c =>
          rw [Option.toList_some, List.cons_append, List.splitOnP_cons_eq_if_modifyHead,
            if_neg (by simp [hcontent c rfl])]
          rfl
      obtain ⟨part, parts, hparts⟩ :=
        List.exists_cons_of_ne_nil (statementParts_ne_nil .outside rest)
      have hstarts := startsLike_of_statementParts hparts
      rw [hgroups, statementParts_append (hstretch.isQuiet hcomment hcontent), hparts]
      rw [hparts] at ih
      generalize contents.splitOnP isSemicolon = groups at ih
      cases ih with
      | cons hpart hrest => exact .cons (.cons (hstretch.congr hstarts) hcomment hpart) hrest

/-! ### Blanks around a plain text -/

theorem Plain.tokenContents_eq {text : Text} {contents : List (TokenKind × Text)}
    (h : Plain text contents) : tokenContents text = contents := by
  induction h with
  | nil => rfl
  | cons hstretch _ _ ih => rw [hstretch.tokenContents_append, ih]

theorem Stretch.gap_or_solid {stretch rest : Text} {content : Option (TokenKind × Text)}
    (h : Stretch stretch content rest) :
    (content = none ∧ ∃ p ∈ gaps, stretch = [p]) ∨
      ∃ p more, stretch = p :: more ∧ isBlank p = false := by
  cases h with
  | gap hp => exact Or.inl ⟨rfl, _, hp, rfl⟩
  | literal hmark _ => exact Or.inr ⟨_, _, rfl, hmark.solid.1⟩
  | comment _ _ => exact Or.inr ⟨_, _, rfl, by decide⟩
  | run hp _ _ _ => exact Or.inr ⟨_, _, rfl, isBlank_of_inRun hp⟩
  | sign hsign hrest =>
    obtain ⟨p, more, rfl⟩ := List.exists_cons_of_ne_nil (Stretch.sign hsign hrest).ne_nil
    exact Or.inr ⟨p, more, rfl, isBlank_of_mem_signs hsign p List.mem_cons_self⟩

theorem Plain.dropWhile {text : Text} {contents : List (TokenKind × Text)}
    (h : Plain text contents) : Plain (text.dropWhile isBlank) contents := by
  induction h with
  | nil => exact .nil
  | @cons stretch rest content contents hstretch hcomment hrest ih =>
    rcases hstretch.gap_or_solid with ⟨rfl, p, hp, rfl⟩ | ⟨p, more, rfl, hp⟩
    · have hblank : ∀ p ∈ gaps, isBlank p = true := by decide
      rw [List.singleton_append, List.dropWhile_cons_of_pos (hblank p hp)]
      exact ih
    · rw [List.cons_append, List.dropWhile_cons_of_neg (by simp [hp]), ← List.cons_append]
      exact .cons hstretch hcomment hrest

/-- A stretch that ends in a blank makes no token: it is a gap, or a comment that can do without. -/
theorem Stretch.plain_of_append_blank {part rest : Text} {content : Option (TokenKind × Text)}
    {p : Point} (hp : isBlank p = true) (h : Stretch (part ++ [p]) content rest)
    (hcomment : IsComment (part ++ [p]) → IsQuiet (part ++ [p])) :
    content = none ∧ Plain part [] := by
  have hsolid (hall : ∀ q ∈ part ++ [p], isBlank q = false) : False := by
    have hlast := hall p (List.mem_append_right _ (List.mem_singleton_self p))
    simp [hp] at hlast
  generalize hwhole : part ++ [p] = stretch at h hcomment hsolid
  cases h with
  | gap _ =>
    obtain ⟨rfl, -⟩ := List.append_singleton_inj.1 (hwhole.trans (List.nil_append [_]).symm)
    exact ⟨rfl, .nil⟩
  | literal hmark hcloses =>
    obtain ⟨inner, rfl⟩ := hcloses.exists_append
    rw [← List.cons_append] at hwhole
    obtain ⟨-, rfl⟩ := List.append_singleton_inj.1 hwhole
    simp [hmark.solid.1] at hp
  | @comment text _ htext _ =>
    refine ⟨rfl, ?_⟩
    rcases text.eq_nil_or_concat with rfl | ⟨text, q, rfl⟩
    · obtain ⟨-, rfl⟩ := List.append_singleton_inj.1 (hwhole.trans List.singleton_append.symm)
      exact absurd hp (by decide)
    · rw [List.concat_eq_append] at hwhole htext hcomment
      rw [← List.cons_append, ← List.cons_append] at hwhole
      obtain ⟨rfl, rfl⟩ := List.append_singleton_inj.1 hwhole
      have hshort : Stretch (.char '-' :: .char '-' :: text) none [] :=
        .comment (fun q hq => htext q (List.mem_append_left _ hq)) nofun
      have hquiet : IsQuiet (.char '-' :: .char '-' :: text) :=
        .of_append_blank hp (hcomment ⟨text ++ [p], rfl⟩)
      simpa using Plain.cons hshort (fun _ => hquiet) .nil
  | run hfirst hrun _ _ =>
    exact (hsolid (List.forall_mem_cons.2
      ⟨isBlank_of_inRun hfirst, fun q hq => isBlank_of_inRun (hrun q hq)⟩)).elim
  | sign hsign _ => exact (hsolid (isBlank_of_mem_signs hsign)).elim

/-- A blank at the end of a plain text plays no part. -/
theorem Plain.of_append_blank {text : Text} {contents : List (TokenKind × Text)} {p : Point}
    (hp : isBlank p = true) (h : Plain (text ++ [p]) contents) : Plain text contents := by
  generalize hwhole : text ++ [p] = whole at h
  induction h generalizing text with
  | nil => simp at hwhole
  | @cons stretch rest content contents hstretch hcomment hrest ih =>
    rcases rest.eq_nil_or_concat with rfl | ⟨rest, q, rfl⟩
    · rw [List.append_nil] at hwhole
      subst hwhole
      obtain rfl : contents = [] := hrest.tokenContents_eq.symm
      obtain ⟨rfl, hplain⟩ := hstretch.plain_of_append_blank hp hcomment
      exact hplain
    · rw [List.concat_eq_append] at hwhole hstretch ih
      rw [← List.append_assoc] at hwhole
      obtain ⟨rfl, rfl⟩ := List.append_singleton_inj.1 hwhole
      exact .cons (hstretch.congr (startsLike_append_right rest [p])) hcomment (ih rfl)

theorem Plain.trim {text : Text} {contents : List (TokenKind × Text)} (h : Plain text contents) :
    Plain (trim text) contents := by
  rw [trim_eq_rdropWhile]
  have hfront := h.dropWhile
  generalize text.dropWhile isBlank = front at hfront
  induction front using List.reverseRecOn with
  | nil => exact hfront
  | append_singleton front p ih =>
    rw [List.rdropWhile_concat]
    split
    · rename_i hp
      exact ih (hfront.of_append_blank hp)
    · exact hfront

/-! ### Statements of a script -/

/-- The contents between semicolons, without the empty groups. -/
def statementContents (contents : List (TokenKind × Text)) : List (List (TokenKind × Text)) :=
  (contents.splitOnP isSemicolon).filter fun group => !group.isEmpty

theorem plain_scriptLines {script : Text} {contents : List (TokenKind × Text)}
    (h : Plain (keptText script) contents) :
    Plain (joinWith "\n" (scriptLines script)) contents := by
  by_cases hlines : scriptLines script = []
  · rw [keptText, hlines] at h
    rw [hlines]
    exact h
  · rw [keptText, ← joinWith_feed hlines] at h
    exact h.of_append_blank (by decide)

theorem map_tokenContents_parts {parts : List Text} {groups : List (List (TokenKind × Text))}
    (h : List.Forall₂ Plain parts groups) : (parts.map trim).map tokenContents = groups := by
  induction h with
  | nil => rfl
  | cons hpart _ ih =>
    rw [List.map_cons, List.map_cons, hpart.trim.tokenContents_eq, ih]

/-- Blank parts have no tokens. -/
theorem filter_map_nonblank (parts : List Text) :
    ((nonblank parts).map tokenContents).filter (fun contents => !contents.isEmpty) =
      ((parts.map trim).map tokenContents).filter fun contents => !contents.isEmpty := by
  unfold nonblank
  induction parts.map trim with
  | nil => rfl
  | cons part parts ih =>
    cases part with
    | nil => exact ih
    | cons p part =>
      rw [List.filter_cons_of_pos (by simp), List.map_cons, List.map_cons, List.filter_cons, ih,
        List.filter_cons]

/-- A script whose quoted texts and comments fit its lines is split into statements as its tokens
are at semicolons: the statements with tokens have the tokens between semicolons, in order and with
the same contents. What is more is the statements that consist of comments alone. -/
theorem tokenContents_scriptStatements {script : Text}
    (hknown : ∀ content ∈ tokenContents script, content.1 ≠ .other)
    (hfits : Fits [] (stretches script)) :
    ((scriptStatements script).map tokenContents).filter (fun contents => !contents.isEmpty) =
        statementContents (tokenContents script) ∧
      ((scriptStatements script).map tokenContents = statementContents (tokenContents script) ↔
        ∀ statement ∈ scriptStatements script, tokenContents statement ≠ []) := by
  obtain ⟨hlexes, hflatten⟩ := lexes_stretches hknown
  have hplain : Plain (keptText script) (tokenContents script) := by
    have hkept := hlexes.plain_keptText hfits
    rwa [hflatten] at hkept
  have hgroups := map_tokenContents_parts (plain_scriptLines hplain).forall₂_parts
  have hfilter : ((scriptStatements script).map tokenContents).filter
      (fun contents => !contents.isEmpty) = statementContents (tokenContents script) := by
    rw [scriptStatements, filter_map_nonblank, hgroups, statementContents]
  refine ⟨hfilter, ?_⟩
  rw [← hfilter, eq_comm, List.filter_eq_self]
  simp

theorem tokenContents_scriptStatements_comments :
    let script : Text := "-- first; one\nSELECT * FROM t -- \"all; of\" it\n" ++
      "WHERE a = 'x;\ny'; DELETE FROM t\r\n  -- done; really\r\n"
    let cut : Text := "DELETE FROM t -- all; really\nWHERE a = 1"
    (∀ content ∈ tokenContents script, content.1 ≠ .other) ∧ Fits [] (stretches script) ∧
      (scriptStatements script).length = 2 ∧
      (scriptStatements script).map tokenContents = statementContents (tokenContents script) ∧
      (∀ content ∈ tokenContents cut, content.1 ≠ .other) ∧
      (scriptStatements cut).map tokenContents ≠ statementContents (tokenContents cut) := by
  intro script cut
  have hknown : ∀ content ∈ tokenContents script, content.1 ≠ .other := by decide +kernel
  have hfits : Fits [] (stretches script) := by decide +kernel
  have htokens : ∀ statement ∈ scriptStatements script, tokenContents statement ≠ [] := by
    decide +kernel
  exact ⟨hknown, hfits, by decide +kernel,
    (tokenContents_scriptStatements hknown hfits).2.2 htokens, by decide +kernel, by decide +kernel⟩

end TableQuery
