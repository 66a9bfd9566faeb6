import TableQuery.Proofs.Lexing

/-!
# Spelled names and literals

How the pieces that queries are built from are split into tokens.

* `Reads.token`, `Reads.keyword`, `Reads.name`: a piece with something after it.
* `reads_literal`: a literal keeps its value.
* `reads_sequence`, `reads_parenthesized`: phrases with commas between them, and in parentheses.
* `joinWith_induction`: what holds of texts and of what stands between them.
* `afterBlanks`: texts with a blank before each.
* `startsSolid`, `endsSolid`: texts that do not start, or do not end, with a blank.
-/

namespace TableQuery

open Number Text Grammar

/-! ### Tokens after one another -/

/-- A single token with something after it. -/
theorem Reads.token {kind : TokenKind} {value a b rest : Text} {Q : List Token → Prop}
    (ha : Reads (IsToken kind value) a (b ++ rest)) (hb : Reads Q b rest) :
    Reads (fun ts => ∃ t us, ts = t :: us ∧ t.kind = kind ∧ t.text = value ∧ Q us) (a ++ b)
      rest := by
  refine (ha.append hb).mono ?_
  rintro _ ⟨_, us, rfl, ⟨position, rfl⟩, hus⟩
  exact ⟨_, us, rfl, rfl, rfl, hus⟩

/-- A keyword and a blank with something after them. -/
theorem Reads.keyword (k : Keyword) {text rest : Text} {Q : List Token → Prop}
    (h : Reads Q text rest) :
    Reads (fun ts => ∃ t us, ts = t :: us ∧ t.kind = .keyword k ∧ Q us)
      (k.name ++ Point.char ' ' :: text) rest := by
  have hbreak : Breaks (Point.char ' ' :: text ++ rest) := breaks_cons.2 (by decide)
  refine ((reads_keyword k hbreak).token h.blank).mono ?_
  rintro _ ⟨t, us, rfl, hkind, -, hus⟩
  exact ⟨t, us, rfl, hkind, hus⟩

/-- A name between double quotes with something after it. -/
theorem Reads.name (name : Text) {text rest : Text} {Q : List Token → Prop}
    (h : Reads Q text rest) :
    Reads (fun ts => ∃ ns us, ts = ns ++ us ∧ Name ns name ∧ Q us) (spellName name ++ text)
      rest := by
  refine ((reads_name name _).token h).mono ?_
  rintro _ ⟨t, us, rfl, hkind, rfl, hus⟩
  exact ⟨[t], us, rfl, .intro (by simp [nameKinds, hkind]), hus⟩

/-! ### Between commas -/

theorem reads_phrase (name rest : Text) : Reads (Name · name) (spellName name) rest := by
  refine (reads_name name rest).mono ?_
  rintro _ ⟨position, rfl⟩
  exact .intro (by simp [nameKinds])

/-- A spelled literal is a number just when the text is numeric; its value is that of the text. -/
theorem reads_literal (value : Text) {rest : Text} (hrest : Breaks rest) :
    Reads (fun ts => ∃ t, ts = [t] ∧ Value.ofText t.text = Value.ofText value ∧
      (t.kind = .number ∨ t.kind = .string ∧ Value.ofText value = .text t.text))
      (spellLiteral value) rest := by
  unfold spellLiteral
  by_cases hnumeral : isNumeral value = true
  · rw [if_pos hnumeral]
    refine (reads_numeral hnumeral hrest).mono ?_
    rintro _ ⟨position, rfl⟩
    exact ⟨_, rfl, Value.ofText_trim hnumeral, Or.inl rfl⟩
  · rw [if_neg hnumeral]
    refine (reads_name value rest).mono ?_
    rintro _ ⟨position, rfl⟩
    rw [Bool.not_eq_true] at hnumeral
    exact ⟨_, rfl, rfl, Or.inr ⟨rfl, Value.ofText_of_not_isNumeral hnumeral⟩⟩

theorem reads_insertedValue (value : Text) {rest : Text} (hrest : Breaks rest) :
    Reads (InsertedValue · (.ofText value)) (spellLiteral value) rest := by
  refine (reads_literal value hrest).mono ?_
  rintro _ ⟨t, rfl, hvalue, hkind | ⟨hkind, htext⟩⟩
  · rw [← hvalue]
    exact .number hkind
  · rw [htext]
    exact .text (by simp [nameKinds, hkind])

theorem reads_assignment (column value : Text) {rest : Text} (hrest : Breaks rest) :
    Reads (Assignment · (column, .ofText value))
      (spellName column ++ " = " ++ spellLiteral value) rest := by
  have hsign := (reads_equal _).token (reads_literal value hrest).blank
  have hall := Reads.name column hsign.blank
  have hspell : spellName column ++ " = " ++ spellLiteral value =
      spellName column ++ Point.char ' ' :: ("=" ++ Point.char ' ' :: spellLiteral value) := by
    rw [List.append_assoc]
    rfl
  rw [hspell]
  refine hall.mono ?_
  rintro _ ⟨ns, _, rfl, hname, sign, _, rfl, hsign, -, t, rfl, hvalue, hkind⟩
  rw [← hvalue]
  refine .intro hname hsign ?_
  rcases hkind with hkind | ⟨hkind, -⟩ <;> simp [literalKinds, hkind]

/-- Phrases with commas between them, one after the other. -/
theorem reads_sequence {α β : Type} {item : Category α} {spell : β → Text} {meaning : β → α}
    (hitem : ∀ b rest, Breaks rest → Reads (item · (meaning b)) (spell b) rest) {bs : List β}
    (hne : bs ≠ []) {rest : Text} (hrest : Breaks rest) :
    Reads (Sequence item · (bs.map meaning)) (joinWith ", " (bs.map spell)) rest := by
  -- a comma ends whatever stands before it, so only the last phrase meets the rest
  induction bs with
  | nil => exact absurd rfl hne
  | cons b bs ih =>
    cases bs with
    | nil =>
      have hspell : joinWith ", " ([b].map spell) = spell b := List.intercalate_singleton
      rw [hspell]
      exact (hitem b rest hrest).mono fun ts hts => .single hts
    | cons b' bs =>
      have hmore := (reads_comma _).token (ih (by simp)).blank
      have hall := (hitem b _ (breaks_cons.2 (by decide))).append hmore
      have hspell : joinWith ", " ((b :: b' :: bs).map spell) =
          spell b ++ ("," ++ Point.char ' ' :: joinWith ", " ((b' :: bs).map spell)) := by
        simp only [joinWith, List.map_cons, List.intercalate_cons_cons, List.append_assoc]
        rfl
      rw [hspell]
      refine hall.mono ?_
      rintro _ ⟨ts, _, rfl, hb, comma, us, rfl, hcomma, -, hbs⟩
      exact .cons hb hcomma hbs

theorem reads_parenthesized {α : Type} {item : Category α} {text rest : Text} {as : List α}
    (h : Reads (Sequence item · as) text (")" ++ rest)) :
    Reads (Parenthesized item · as) ("(" ++ text ++ ")") rest := by
  have hall := (reads_leftParen _).token (h.append (reads_rightParen rest))
  rw [List.append_assoc]
  refine hall.mono ?_
  rintro _ ⟨opening, _, rfl, hopen, -, ts, _, rfl, hts, position, rfl⟩
  exact .intro hopen hts rfl

/-! ### With blanks between them -/

/-- What holds of texts and of the separator, and is kept by appending, holds of the whole. -/
theorem joinWith_induction {P : Text → Prop} (hnil : P []) (happend : ∀ a b, P a → P b → P (a ++ b))
    {separator : Text} (hseparator : P separator) {texts : List Text} (h : ∀ t ∈ texts, P t) :
    P (joinWith separator texts) := by
  induction texts with
  | nil => exact hnil
  | cons text texts ih =>
    obtain ⟨htext, htexts⟩ := List.forall_mem_cons.1 h
    by_cases hmore : texts = []
    · rw [hmore, joinWith, List.intercalate_singleton]
      exact htext
    · rw [joinWith, List.intercalate_cons_of_ne_nil hmore]
      exact happend _ _ (happend _ _ htext hseparator) (ih htexts)

/-- Texts with a blank before each. -/
def afterBlanks (texts : List Text) : Text :=
  texts.flatMap fun text => Point.char ' ' :: text

theorem afterBlanks_append (texts more : List Text) :
    afterBlanks (texts ++ more) = afterBlanks texts ++ afterBlanks more :=
  List.flatMap_append

theorem joinWith_blank (text : Text) (texts : List Text) :
    joinWith " " (text :: texts) = text ++ afterBlanks texts := by
  induction texts generalizing text with
  | nil => simp [joinWith, afterBlanks]
  | cons text' texts ih =>
    have hjoin : joinWith " " (text :: text' :: texts) =
        text ++ " " ++ joinWith " " (text' :: texts) := List.intercalate_cons_cons
    rw [hjoin, ih, List.append_assoc]
    rfl

theorem breaks_afterBlanks (texts : List Text) : Breaks (afterBlanks texts) := by
  cases texts with
  | nil => exact breaks_nil
  | cons text texts => exact breaks_cons.2 (by decide)

/-- The first code point of a text is there and no blank. -/
def startsSolid (t : Text) : Bool :=
  t.head?.any fun p => !isBlank p

/-- The last code point of a text is there and no blank. -/
def endsSolid (t : Text) : Bool :=
  t.getLast?.any fun p => !isBlank p

theorem startsSolid_append {a : Text} (h : startsSolid a = true) (b : Text) :
    startsSolid (a ++ b) = true := by
  cases a with
  | nil => simp [startsSolid] at h
  | cons p a => exact h

theorem endsSolid_append {b : Text} (h : endsSolid b = true) (a : Text) :
    endsSolid (a ++ b) = true := by
  have hne : b ≠ [] := by
    rintro rfl
    simp [endsSolid] at h
  unfold endsSolid
  rw [List.getLast?_append_of_ne_nil _ hne]
  exact h

theorem startsSolid_joinWith {text : Text} (h : startsSolid text = true) (texts : List Text) :
    startsSolid (joinWith " " (text :: texts)) = true := by
  rw [joinWith_blank]
  exact startsSolid_append h _

/-- Only the texts after some front matter. -/
theorem endsSolid_joinWith {separator : Text} (front : List Text) {texts : List Text}
    (hne : texts ≠ []) (h : ∀ t ∈ texts, endsSolid t = true) :
    endsSolid (joinWith separator (front ++ texts)) = true := by
  have hstep (first : Text) {more : List Text} (hmore : more ≠ [])
      (hends : endsSolid (joinWith separator more) = true) :
      endsSolid (joinWith separator (first :: more)) = true := by
    have hjoin : joinWith separator (first :: more) =
        first ++ separator ++ joinWith separator more := List.intercalate_cons_of_ne_nil hmore
    rw [hjoin]
    exact endsSolid_append hends _
  induction front with
  | nil =>
    induction texts with
    | nil => exact absurd rfl hne
    | cons text texts ih =>
      by_cases htexts : texts = []
      · have hjoin : joinWith separator [text] = text := List.intercalate_singleton
        rw [htexts, List.nil_append, hjoin]
        exact h text (by simp)
      · exact hstep text htexts (ih htexts fun t ht => h t (by simp [ht]))
  | cons first front ih => exact hstep first (by simp [hne]) ih

theorem trim_of_solid {t : Text} (hstarts : startsSolid t = true) (hends : endsSolid t = true) :
    trim t = t := by
  refine trim_eq_self ?_ ?_
  · intro p hp
    simpa [startsSolid, Option.mem_def.1 hp] using hstarts
  · intro p hp
    simpa [endsSolid, Option.mem_def.1 hp] using hends

theorem endsSolid_spellName (name : Text) : endsSolid (spellName name) = true :=
  endsSolid_append (by decide) _

theorem endsSolid_trim {t : Text} (h : trim t ≠ []) : endsSolid (trim t) = true := by
  have hlast := List.getLast?_eq_some_getLast h
  simp [endsSolid, hlast, getLast?_trim _ hlast]

theorem endsSolid_spellLiteral (value : Text) : endsSolid (spellLiteral value) = true := by
  unfold spellLiteral
  by_cases hnumeral : isNumeral value = true
  · rw [if_pos hnumeral]
    refine endsSolid_trim ?_
    intro hnil
    rw [← isNumeral_trim, hnil] at hnumeral
    revert hnumeral
    decide
  · rw [if_neg hnumeral]
    exact endsSolid_spellName value

end TableQuery
