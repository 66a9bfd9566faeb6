import TableQuery.Failure
import TableQuery.Proofs.JsonText
import TableQuery.Proofs.NumberText
import TableQuery.Text.Lines

/-!
# Documents that are written and read again

* `Json.reread`: a document with its pairs of halves joined, and names that come again merged.
* `Json.IsStorable`: no overlong integer, and not too deep.
* `Json.ComesBack`: what is read from the text of a document.
* `Json.IsStorable.comesBack`: every storable document comes back, with its pairs joined.
* `Json.read_write`: the same for a text that is a document as a whole.
-/

namespace TableQuery

open Number Text

/-! ### Values -/

/-- A value as it is read back. -/
def Value.reread : Value → Value
  | .text t => .text (Json.joinHalves t)
  | value => value

/-- A value that can be read back: no integer is overlong. -/
def Value.IsStorable : Value → Prop
  | .int n => n.natAbs < 10 ^ maxIntegerDigits
  | _ => True

namespace Json

mutual

/-- A document as it is read back. -/
def reread : Json → Json
  | .scalar value => .scalar value.reread
  | .array items => .array (rereadItems items)
  | .object fields => .object (rereadFields [] fields)

/-- The items of an array as they are read back. -/
def rereadItems : List Json → List Json
  | [] => []
  | item :: items => item.reread :: rereadItems items

/-- The fields of an object as they are read back, added to those before. -/
def rereadFields (before : List (Text × Json)) : List (Text × Json) → List (Text × Json)
  | [] => before
  | (name, value) :: fields =>
    rereadFields (Fields.insert (joinHalves name) value.reread before) fields

end

theorem rereadItems_eq_map (items : List Json) : rereadItems items = items.map reread := by
  induction items with
  | nil => rfl
  | cons item items ih => rw [rereadItems, ih, List.map_cons]

/-- A document that can be read back where some levels of nesting are left. -/
inductive IsStorable : Nat → Json → Prop
  | scalar {levels : Nat} {value : Value} (h : value.IsStorable) : IsStorable levels (.scalar value)
  | array {levels : Nat} {items : List Json} (h : ∀ item ∈ items, IsStorable levels item) :
      IsStorable (levels + 1) (.array items)
  | object {levels : Nat} {fields : List (Text × Json)}
      (h : ∀ field ∈ fields, IsStorable levels field.2) : IsStorable (levels + 1) (.object fields)

/-- The text of a document is read as the document, whatever follows. -/
structure ComesBack (levels : Nat) (json : Json) : Prop where
  read : ∀ depth rest fuel, EndsNumber rest → 2 * (writeAt depth json ++ rest).length ≤ fuel →
    readValue fuel levels (writeAt depth json ++ rest) = .ok (json.reread, rest)
  front : ∀ depth, ∃ p more, writeAt depth json = p :: more ∧ isSpace p = false ∧ p ≠ ']'
  plain : ∀ depth, ∀ p ∈ writeAt depth json, IsPlain p ∨ p = '\n'

/-! ### Scalars -/

theorem ne_of_isDigit {c d : Char} (hc : c.isDigit = true) (hd : d.isDigit = false) : d ≠ c := by
  rintro rfl
  rw [hd] at hc
  exact absurd hc (by decide)

theorem findSome?_constants (negative : Bool) {c : Char} (hc : c.isDigit = true) (more : Text) :
    constants.findSome? (fun (word, value) =>
      (after? word ((if negative then "-" else "") ++ Point.char c :: more)).map
        fun rest => (value, rest)) = none := by
  have hn := ne_of_isDigit (d := 'n') hc rfl
  have ht := ne_of_isDigit (d := 't') hc rfl
  have hf := ne_of_isDigit (d := 'f') hc rfl
  have hN := ne_of_isDigit (d := 'N') hc rfl
  have hI := ne_of_isDigit (d := 'I') hc rfl
  have hdash := ne_of_isDigit (d := '-') hc rfl
  cases negative <;> simp [constants, after?, ofString, hn, ht, hf, hN, hI, hdash]

/-- A written number is read as its value. -/
theorem readScalar_number {number : WrittenNumber} {rest : Text} {value : Value}
    (hproper : number.IsProper) (hvalue : numberValue number.numeral = .ok value)
    (hrest : EndsNumber rest) : readScalar (number.text ++ rest) = .ok (value, rest) := by
  obtain ⟨c, more, hc, htext⟩ := number.text_front hproper
  have hnone := findSome?_constants number.negative hc (more ++ rest)
  rw [← List.cons_append, ← List.append_assoc, ← htext] at hnone
  unfold readScalar
  rw [hnone]
  simp only
  rw [number.readNumber?_text hproper hrest]
  simp [hvalue, Except.map]

/-- A code point with which a constant or a number can start. -/
def StartsScalar (p : Point) : Prop :=
  isSpace p = false ∧ p ≠ ']' ∧ p ≠ '"' ∧ p ≠ '[' ∧ p ≠ '\x7b'

instance (p : Point) : Decidable (StartsScalar p) :=
  inferInstanceAs (Decidable (_ ∧ _))

theorem startsScalar_digit {c : Char} (hc : c.isDigit = true) : StartsScalar (.char c) := by
  have hne {d : Char} (hd : d.isDigit = false) : Point.char c ≠ .char d :=
    fun heq => ne_of_isDigit hc hd (Point.char.inj heq).symm
  refine ⟨?_, hne rfl, hne rfl, hne rfl, hne rfl⟩
  simp [isSpace, hne (d := ' ') rfl, hne (d := '\t') rfl, hne (d := '\n') rfl,
    hne (d := '\r') rfl]

theorem readValue_scalar {p : Point} {t rest : Text} {value : Value} {levels fuel : Nat}
    (hp : StartsScalar p) (h : readScalar (p :: t) = .ok (value, rest)) :
    readValue (fuel + 1) levels (p :: t) = .ok (.scalar value, rest) := by
  obtain ⟨-, -, hquote, hbracket, hbrace⟩ := hp
  rw [readValue.eq_def]
  simp only
  split
  · rename_i heq
    exact absurd (List.cons.inj heq).1 hquote
  · rename_i heq
    exact absurd (List.cons.inj heq).1 hbracket
  · rename_i heq
    exact absurd (List.cons.inj heq).1 hbrace
  · rw [h]
    rfl

/-- What has to be known about the text of a constant or a number. -/
theorem comesBack_of_readScalar {value : Value} {levels : Nat} (hsame : value.reread = value)
    (hfront : ∃ p more, writeScalar value = p :: more ∧ StartsScalar p)
    (hplain : ∀ p ∈ writeScalar value, IsPlain p)
    (hread : ∀ rest, EndsNumber rest → readScalar (writeScalar value ++ rest) = .ok (value, rest)) :
    ComesBack levels (.scalar value) where
  read := by
    intro depth rest fuel hrest hfuel
    obtain ⟨p, more, htext, hp⟩ := hfront
    have hscalar := hread rest hrest
    show readValue fuel levels (writeScalar value ++ rest) = .ok (.scalar value.reread, rest)
    change 2 * (writeScalar value ++ rest).length ≤ fuel at hfuel
    rw [htext, List.cons_append] at hscalar hfuel ⊢
    obtain ⟨fuel, rfl⟩ : ∃ n, fuel = n + 1 := ⟨fuel - 1, by simp at hfuel; omega⟩
    rw [hsame]
    exact readValue_scalar hp hscalar
  front := by
    obtain ⟨p, more, htext, hp⟩ := hfront
    exact fun depth => ⟨p, more, htext, hp.1, hp.2.1⟩
  plain := fun depth p hp => Or.inl (hplain p hp)

theorem comesBack_number {number : WrittenNumber} {value : Value} {levels : Nat}
    (hproper : number.IsProper) (hsame : value.reread = value)
    (htext : number.text = writeScalar value)
    (hvalue : numberValue number.numeral = .ok value) : ComesBack levels (.scalar value) := by
  refine comesBack_of_readScalar hsame ?_ ?_ ?_
  · obtain ⟨c, more, hc, hfront⟩ := number.text_front hproper
    rw [← htext, hfront]
    cases number.negative with
    | false => exact ⟨_, _, rfl, startsScalar_digit hc⟩
    | true => exact ⟨_, _, rfl, by decide⟩
  · rw [← htext]
    exact number.text_plain hproper
  · intro rest hrest
    rw [← htext]
    exact readScalar_number hproper hvalue hrest

theorem hexDigit_plain {d : Nat} (hd : d < 16) : IsPlain (hexDigit d) := by
  revert d
  decide

theorem hex_plain (width n : Nat) : ∀ p ∈ hex width n, IsPlain p := by
  induction width generalizing n with
  | zero => exact List.forall_mem_nil IsPlain
  | succ width ih =>
    exact List.forall_mem_append.2
      ⟨ih _, List.forall_mem_singleton.2 (hexDigit_plain (Nat.mod_lt n (by decide)))⟩

theorem unicodeEscape_plain (unit : Nat) : ∀ p ∈ unicodeEscape unit, IsPlain p :=
  List.forall_mem_append.2 ⟨by decide, hex_plain 4 unit⟩

/-- Whatever a code point is, it is written in printed ASCII. -/
theorem writePoint_plain (q : Point) : ∀ p ∈ writePoint q, IsPlain p := by
  have hescape (c : Char) (hc : IsPlain c) : ∀ p ∈ ([.char '\\', .char c] : Text), IsPlain p := by
    intro p hp
    simp only [List.mem_cons, List.not_mem_nil, or_false] at hp
    rcases hp with rfl | rfl
    · decide
    · exact hc
  unfold writePoint
  split
  · rename_i hsame
    simp only [Bool.or_eq_true, decide_eq_true_eq] at hsame
    rcases hsame with rfl | rfl <;> decide
  split
  · exact hescape 'n' (by decide)
  split
  · exact hescape 'r' (by decide)
  split
  · exact hescape 't' (by decide)
  split
  · exact hescape 'b' (by decide)
  split
  · exact hescape 'f' (by decide)
  split
  · rename_i hplain
    intro p hp
    rw [List.mem_singleton.1 hp]
    exact hplain
  split
  · exact unicodeEscape_plain _
  · intro p hp
    rcases List.mem_append.1 hp with hp | hp
    · exact unicodeEscape_plain _ p hp
    · exact unicodeEscape_plain _ p hp

theorem comesBack_text (t : Text) (levels : Nat) : ComesBack levels (.scalar (.text t)) where
  read := by
    intro depth rest fuel _ hfuel
    obtain ⟨fuel, rfl⟩ : ∃ n, fuel = n + 1 :=
      ⟨fuel - 1, by simp [writeAt, writeScalar, writeString, ofString] at hfuel; omega⟩
    have hstring := readString_writeString t rest
    show readValue (fuel + 1) levels (.char '"' :: (t.flatMap writePoint ++ "\"" ++ rest)) = _
    change readString (.char '"' :: (t.flatMap writePoint ++ "\"" ++ rest)) = _ at hstring
    rw [readValue, hstring]
    rfl
  front := fun depth => ⟨'"', _, rfl, by decide, by decide⟩
  plain := by
    intro depth p hp
    refine Or.inl ?_
    have hquote : IsPlain '"' := by decide
    rcases List.mem_cons.1 hp with rfl | hp
    · exact hquote
    rcases List.mem_append.1 hp with hp | hp
    · obtain ⟨q, -, hq⟩ := List.mem_flatMap.1 hp
      exact writePoint_plain q p hq
    · rw [List.mem_singleton.1 hp]
      exact hquote

theorem comesBack_int {n : Int} (h : n.natAbs < 10 ^ maxIntegerDigits) (levels : Nat) :
    ComesBack levels (.scalar (.int n)) := by
  refine comesBack_number (writtenInteger_isProper n) rfl (text_writtenInteger n) ?_
  unfold numberValue
  rw [toInt?_writtenInteger h]
  rfl

theorem comesBack_finite (negative : Bool) {units : Nat} (fits : Fits units) (levels : Nat) :
    ComesBack levels (.scalar (.float (.finite negative units fits))) := by
  obtain ⟨number, hproper, hpart, htext, hdouble⟩ := exists_written_double negative fits
  refine comesBack_number hproper rfl htext ?_
  unfold numberValue
  rw [WrittenNumber.isNone_numeral hpart, hdouble]
  rfl

theorem comesBack_scalar {value : Value} (h : value.IsStorable) (levels : Nat) :
    ComesBack levels (.scalar value) := by
  -- a constant is the first of the words that its text starts with
  have hconstant {value : Value} (hsame : value.reread = value)
      (hfront : ∃ p more, writeScalar value = p :: more ∧ StartsScalar p)
      (hplain : ∀ p ∈ writeScalar value, IsPlain p)
      (hread : ∀ rest, readScalar (writeScalar value ++ rest) = .ok (value, rest)) :
      ComesBack levels (.scalar value) :=
    comesBack_of_readScalar hsame hfront hplain fun rest _ => hread rest
  match value, h with
  | .null, _ => exact hconstant rfl ⟨_, _, rfl, by decide⟩ (by decide) fun _ => rfl
  | .bool true, _ => exact hconstant rfl ⟨_, _, rfl, by decide⟩ (by decide) fun _ => rfl
  | .bool false, _ => exact hconstant rfl ⟨_, _, rfl, by decide⟩ (by decide) fun _ => rfl
  | .int n, h => exact comesBack_int h levels
  | .float .nan, _ => exact hconstant rfl ⟨_, _, rfl, by decide⟩ (by decide) fun _ => rfl
  | .float (.infinite false), _ =>
    exact hconstant rfl ⟨_, _, rfl, by decide⟩ (by decide) fun _ => rfl
  | .float (.infinite true), _ =>
    exact hconstant rfl ⟨_, _, rfl, by decide⟩ (by decide) fun _ => rfl
  | .float (.finite negative units fits), _ => exact comesBack_finite negative fits levels
  | .text t, _ => exact comesBack_text t levels

/-! ### Arrays and objects -/

theorem skipSpace_cons {p : Point} {t : Text} (hp : isSpace p = false) :
    skipSpace (p :: t) = p :: t := by
  rw [skipSpace, List.dropWhile_cons_of_neg (by simp [hp])]

theorem skipSpace_newLine (depth : Nat) (t : Text) :
    skipSpace (newLine depth ++ t) = skipSpace t := by
  refine List.dropWhile_append_of_pos fun p hp => ?_
  rcases List.mem_cons.1 hp with rfl | hp
  · decide
  · rw [List.eq_of_mem_replicate hp]
    decide

theorem ComesBack.skipSpace {levels : Nat} {json : Json} (h : ComesBack levels json)
    (depth : Nat) (t : Text) : skipSpace (writeAt depth json ++ t) = writeAt depth json ++ t := by
  obtain ⟨p, more, htext, hp, -⟩ := h.front depth
  rw [htext]
  exact skipSpace_cons hp

theorem endsNumber_cons {p : Point} (t : Text)
    (h : isAsciiDigit p = false ∧ p ≠ '.' ∧ p ≠ 'e' ∧ p ≠ 'E') : EndsNumber (p :: t) := by
  intro q hq
  obtain rfl : p = q := by simpa using hq
  exact h

theorem newLine_plain (depth : Nat) : ∀ p ∈ newLine depth, IsPlain p ∨ p = '\n' := by
  intro p hp
  rcases List.mem_cons.1 hp with rfl | hp
  · exact Or.inr rfl
  · rw [List.eq_of_mem_replicate hp]
    exact Or.inl (by decide)

section Steps

variable {fuel levels : Nat} {item value : Json} {items : List Json} {name : Text}
  {before fields : List (Text × Json)} {t afterName later more rest : Text}

theorem readItems_last (h : readValue fuel levels t = .ok (item, later))
    (hlater : skipSpace later = .char ']' :: rest) :
    readItems (fuel + 1) levels t = .ok ([item], rest) := by
  rw [readItems, h, ok_bind]
  simp only [hlater, pure_eq]

theorem readItems_more (h : readValue fuel levels t = .ok (item, later))
    (hlater : skipSpace later = .char ',' :: more)
    (hmore : readItems fuel levels (skipSpace more) = .ok (items, rest)) :
    readItems (fuel + 1) levels t = .ok (item :: items, rest) := by
  rw [readItems, h, ok_bind]
  simp only [hlater, hmore, ok_bind, pure_eq]

/-- The name of a field and its colon are passed, and then comes the value. -/
theorem readFields_name (hspace : skipSpace t = t)
    (h : readValue fuel levels t = .ok (value, later)) :
    readFields (fuel + 1) levels before (writeString name ++ (": " ++ t)) =
      match skipSpace later with
      | .char '\x7d' :: rest => .ok (Fields.insert (joinHalves name) value before, rest)
      | .char ',' :: rest =>
        readFields fuel levels (Fields.insert (joinHalves name) value before) (skipSpace rest)
      | rest => .error (.complaint .noComma rest) := by
  have hname := readString_writeString name (": " ++ t)
  have hcolon : skipSpace (": " ++ t) = .char ':' :: .char ' ' :: t := rfl
  have hblank : skipSpace (.char ' ' :: t) = t := hspace
  change readString (.char '"' :: (name.flatMap writePoint ++ "\"" ++ (": " ++ t))) = _ at hname
  show readFields (fuel + 1) levels before
    (.char '"' :: (name.flatMap writePoint ++ "\"" ++ (": " ++ t))) = _
  rw [readFields, hname, ok_bind]
  simp only [hcolon, hblank, h, ok_bind]
  rfl

theorem readValue_array {p : Point} (hspace : skipSpace t = p :: more) (hp : p ≠ ']')
    (h : readItems fuel levels (p :: more) = .ok (items, rest)) :
    readValue (fuel + 1) (levels + 1) (.char '[' :: t) = .ok (.array items, rest) := by
  rw [readValue]
  simp only [hspace]
  split
  · rename_i heq
    exact absurd (List.cons.inj heq).1 hp
  · rw [h]
    rfl

theorem readValue_object {p : Point} (hspace : skipSpace t = p :: more) (hp : p ≠ '\x7d')
    (h : readFields fuel levels [] (p :: more) = .ok (fields, rest)) :
    readValue (fuel + 1) (levels + 1) (.char '\x7b' :: t) = .ok (.object fields, rest) := by
  rw [readValue]
  simp only [hspace]
  split
  · rename_i heq
    exact absurd (List.cons.inj heq).1 hp
  · rw [h]
    rfl

end Steps

/-- What ends the list of an array or object, after its last item or field. -/
def closing (outer : Nat) (bracket : Point) (rest : Text) : Text :=
  newLine outer ++ bracket :: rest

theorem skipSpace_closing (outer : Nat) {bracket : Point} (rest : Text)
    (h : isSpace bracket = false) :
    skipSpace (closing outer bracket rest) = bracket :: rest := by
  rw [closing, skipSpace_newLine, skipSpace_cons h]

/-- The items after one that is there are read up to the closing bracket. -/
theorem readItems_write {levels depth outer : Nat} {rest : Text} {items : List Json} :
    ∀ {item : Json} {fuel : Nat}, ComesBack levels item → (∀ i ∈ items, ComesBack levels i) →
      2 * (writeAt depth item ++ (writeItems depth items ++ closing outer ']' rest)).length + 1 ≤
        fuel →
      readItems fuel levels
          (writeAt depth item ++ (writeItems depth items ++ closing outer ']' rest)) =
        .ok (rereadItems (item :: items), rest) := by
  induction items with
  | nil =>
    intro item fuel hitem _ hfuel
    obtain ⟨fuel, rfl⟩ : ∃ n, fuel = n + 1 := ⟨fuel - 1, by omega⟩
    have hread := hitem.read depth (closing outer ']' rest) fuel (endsNumber_cons _ (by decide))
      (Nat.le_of_succ_le_succ hfuel)
    exact readItems_last hread (skipSpace_closing outer rest (by decide))
  | cons next items ih =>
    intro item fuel hitem hitems hfuel
    obtain ⟨fuel, rfl⟩ : ∃ n, fuel = n + 1 := ⟨fuel - 1, by omega⟩
    have hnext := hitems next List.mem_cons_self
    have hlater : writeItems depth (next :: items) ++ closing outer ']' rest =
        .char ',' :: (newLine depth ++ (writeAt depth next ++ (writeItems depth items ++
          closing outer ']' rest))) := by
      simp [writeItems, ofString]
    rw [hlater] at hfuel ⊢
    have hread := hitem.read depth _ fuel (endsNumber_cons _ (by decide))
      (Nat.le_of_succ_le_succ hfuel)
    have hspace := (skipSpace_newLine depth _).trans
      (hnext.skipSpace depth (writeItems depth items ++ closing outer ']' rest))
    refine readItems_more hread (skipSpace_cons (by decide)) ?_
    rw [hspace]
    refine ih hnext (fun i hi => hitems i (List.mem_cons_of_mem _ hi)) ?_
    simp only [List.length_append, List.length_cons] at hfuel ⊢
    omega

/-- A field with what follows it. -/
def fieldAt (depth : Nat) (field : Text × Json) (later : Text) : Text :=
  writeString field.1 ++ (": " ++ (writeAt depth field.2 ++ later))

theorem writeFields_cons (depth : Nat) (field : Text × Json) (fields : List (Text × Json))
    (t : Text) : writeFields depth (field :: fields) ++ t =
      .char ',' :: (newLine depth ++ fieldAt depth field (writeFields depth fields ++ t)) := by
  simp [writeFields, fieldAt, ofString]

theorem skipSpace_fieldAt (depth : Nat) (field : Text × Json) (later : Text) :
    skipSpace (fieldAt depth field later) = fieldAt depth field later :=
  skipSpace_cons (by decide)

/-- The fields after one that is there are read up to the closing brace. -/
theorem readFields_write {levels depth outer : Nat} {rest : Text} {fields : List (Text × Json)} :
    ∀ {field : Text × Json} {before : List (Text × Json)} {fuel : Nat},
      ComesBack levels field.2 → (∀ f ∈ fields, ComesBack levels f.2) →
      2 * (fieldAt depth field (writeFields depth fields ++ closing outer '\x7d' rest)).length + 1 ≤
        fuel →
      readFields fuel levels before
          (fieldAt depth field (writeFields depth fields ++ closing outer '\x7d' rest)) =
        .ok (rereadFields before (field :: fields), rest) := by
  induction fields with
  | nil =>
    intro field before fuel hfield _ hfuel
    obtain ⟨fuel, rfl⟩ : ∃ n, fuel = n + 1 := ⟨fuel - 1, by omega⟩
    simp only [fieldAt, writeFields, List.nil_append] at hfuel ⊢
    have hread := hfield.read depth (closing outer '\x7d' rest) fuel
      (endsNumber_cons _ (by decide)) (by simp only [List.length_append] at hfuel ⊢; omega)
    rw [readFields_name (hfield.skipSpace depth _) hread, skipSpace_closing outer rest (by decide)]
    rfl
  | cons next fields ih =>
    intro field before fuel hfield hfields hfuel
    obtain ⟨fuel, rfl⟩ : ∃ n, fuel = n + 1 := ⟨fuel - 1, by omega⟩
    -- the field before is done when the comma is reached; what follows the comma is the next one
    have hnext := hfields next List.mem_cons_self
    have hmore (f : Text × Json) (hf : f ∈ fields) := hfields f (List.mem_cons_of_mem _ hf)
    rw [writeFields_cons] at hfuel ⊢
    have hlater : _ → readFields fuel levels
        (Fields.insert (joinHalves field.1) field.2.reread before) _ = .ok (_, rest) :=
      ih hnext hmore
    have hspace := skipSpace_fieldAt depth next
      (writeFields depth fields ++ closing outer '\x7d' rest)
    generalize fieldAt depth next (writeFields depth fields ++ closing outer '\x7d' rest) = later
      at *
    simp only [fieldAt, List.length_append, List.length_cons] at hfuel
    have hread := hfield.read depth (.char ',' :: (newLine depth ++ later)) fuel
      (endsNumber_cons _ (by decide))
      (by simp only [List.length_append, List.length_cons]; omega)
    rw [fieldAt, readFields_name (hfield.skipSpace depth _) hread, skipSpace_cons (by decide)]
    simp only
    rw [skipSpace_newLine, hspace]
    exact hlater (by omega)

/-! ### Documents -/

theorem writeItems_plain {levels : Nat} {items : List Json}
    (h : ∀ item ∈ items, ComesBack levels item) (depth : Nat) :
    ∀ p ∈ writeItems depth items, IsPlain p ∨ p = '\n' := by
  induction items with
  | nil => simp [writeItems]
  | cons item items ih =>
    simp only [writeItems, List.mem_append]
    rintro p (((hp | hp) | hp) | hp)
    · rw [List.mem_singleton.1 hp]
      exact Or.inl (by decide)
    · exact newLine_plain depth p hp
    · exact (h item List.mem_cons_self).plain depth p hp
    · exact ih (fun i hi => h i (List.mem_cons_of_mem _ hi)) p hp

theorem comesBack_array {levels : Nat} {items : List Json}
    (h : ∀ item ∈ items, ComesBack levels item) : ComesBack (levels + 1) (.array items) := by
  cases items with
  | nil =>
    refine ⟨fun depth rest fuel _ hfuel => ?_, fun depth => ⟨'[', [.char ']'], rfl, by decide⟩,
      fun depth => by simp only [writeAt]; decide⟩
    obtain ⟨fuel, rfl⟩ : ∃ n, fuel = n + 1 :=
      ⟨fuel - 1, by simp [writeAt, ofString] at hfuel; omega⟩
    rfl
  | cons item items =>
    have hitem := h item List.mem_cons_self
    have hitems (i : Json) (hi : i ∈ items) := h i (List.mem_cons_of_mem _ hi)
    refine ⟨fun depth rest fuel _ hfuel => ?_, fun depth => ⟨'[', _, rfl, by decide⟩,
      fun depth p hp => ?_⟩
    -- the bracket goes off, and the list is read with one level less
    · have htext : writeAt depth (.array (item :: items)) ++ rest =
          .char '[' :: (newLine (depth + 1) ++ (writeAt (depth + 1) item ++
            (writeItems (depth + 1) items ++ closing depth ']' rest))) := by
        simp [writeAt, ofString, closing]
      rw [htext] at hfuel ⊢
      obtain ⟨fuel, rfl⟩ : ∃ n, fuel = n + 1 :=
        ⟨fuel - 1, by simp only [List.length_cons] at hfuel; omega⟩
      have hread : readItems fuel levels
          (writeAt (depth + 1) item ++ (writeItems (depth + 1) items ++ closing depth ']' rest)) =
            .ok (rereadItems (item :: items), rest) :=
        readItems_write hitem hitems (by
          simp only [List.length_append, List.length_cons] at hfuel ⊢
          omega)
      have hspace := (skipSpace_newLine (depth + 1) _).trans (hitem.skipSpace (depth + 1)
        (writeItems (depth + 1) items ++ closing depth ']' rest))
      obtain ⟨p, more, hfront, -, hp⟩ := hitem.front (depth + 1)
      rw [hfront, List.cons_append] at hread hspace
      rw [hfront]
      exact readValue_array hspace hp hread
    · simp only [writeAt, List.mem_append] at hp
      rcases hp with ((((hp | hp) | hp) | hp) | hp) | hp
      · rw [List.mem_singleton.1 hp]
        exact Or.inl (by decide)
      · exact newLine_plain _ p hp
      · exact hitem.plain _ p hp
      · exact writeItems_plain hitems _ p hp
      · exact newLine_plain _ p hp
      · rw [List.mem_singleton.1 hp]
        exact Or.inl (by decide)

theorem writeFields_plain {levels : Nat} {fields : List (Text × Json)}
    (h : ∀ field ∈ fields, ComesBack levels field.2) (depth : Nat) :
    ∀ p ∈ writeFields depth fields, IsPlain p ∨ p = '\n' := by
  induction fields with
  | nil => simp [writeFields]
  | cons field fields ih =>
    obtain ⟨name, value⟩ := field
    have hcolon : ∀ p ∈ ofString ": ", IsPlain p := by decide
    simp only [writeFields, List.mem_append]
    rintro p (((((hp | hp) | hp) | hp) | hp) | hp)
    · rw [List.mem_singleton.1 hp]
      exact Or.inl (by decide)
    · exact newLine_plain depth p hp
    · exact (comesBack_text name levels).plain depth p hp
    · exact Or.inl (hcolon p hp)
    · exact (h _ List.mem_cons_self).plain depth p hp
    · exact ih (fun f hf => h f (List.mem_cons_of_mem _ hf)) p hp

theorem comesBack_object {levels : Nat} {fields : List (Text × Json)}
    (h : ∀ field ∈ fields, ComesBack levels field.2) : ComesBack (levels + 1) (.object fields) := by
  cases fields with
  | nil =>
    refine ⟨fun depth rest fuel _ hfuel => ?_,
      fun depth => ⟨'\x7b', [.char '\x7d'], rfl, by decide⟩,
      fun depth => by simp only [writeAt]; decide⟩
    obtain ⟨fuel, rfl⟩ : ∃ n, fuel = n + 1 :=
      ⟨fuel - 1, by simp [writeAt, ofString] at hfuel; omega⟩
    rfl
  | cons field fields =>
    have hfield := h field List.mem_cons_self
    have hfields (f : Text × Json) (hf : f ∈ fields) := h f (List.mem_cons_of_mem _ hf)
    refine ⟨fun depth rest fuel _ hfuel => ?_, fun depth => ⟨'\x7b', _, rfl, by decide⟩,
      fun depth p hp => ?_⟩
    · have htext : writeAt depth (.object (field :: fields)) ++ rest =
          .char '\x7b' :: (newLine (depth + 1) ++ fieldAt (depth + 1) field
            (writeFields (depth + 1) fields ++ closing depth '\x7d' rest)) := by
        simp [writeAt, ofString, closing, fieldAt]
      rw [htext] at hfuel ⊢
      obtain ⟨fuel, rfl⟩ : ∃ n, fuel = n + 1 :=
        ⟨fuel - 1, by simp only [List.length_cons] at hfuel; omega⟩
      have hread : readFields fuel levels [] (fieldAt (depth + 1) field
          (writeFields (depth + 1) fields ++ closing depth '\x7d' rest)) =
            .ok (rereadFields [] (field :: fields), rest) :=
        readFields_write hfield hfields (by
          simp only [List.length_append, List.length_cons] at hfuel ⊢
          omega)
      have hspace := (skipSpace_newLine (depth + 1) _).trans (skipSpace_fieldAt (depth + 1) field
        (writeFields (depth + 1) fields ++ closing depth '\x7d' rest))
      exact readValue_object hspace (by decide) hread
    · have hcolon : ∀ p ∈ ofString ": ", IsPlain p := by decide
      simp only [writeAt, List.mem_append] at hp
      rcases hp with ((((((hp | hp) | hp) | hp) | hp) | hp) | hp) | hp
      · rw [List.mem_singleton.1 hp]
        exact Or.inl (by decide)
      · exact newLine_plain _ p hp
      · exact (comesBack_text field.1 levels).plain (depth + 1) p hp
      · exact Or.inl (hcolon p hp)
      · exact hfield.plain _ p hp
      · exact writeFields_plain hfields _ p hp
      · exact newLine_plain _ p hp
      · rw [List.mem_singleton.1 hp]
        exact Or.inl (by decide)

/-- Every storable document comes back. -/
theorem IsStorable.comesBack {levels : Nat} {json : Json} (h : IsStorable levels json) :
    ComesBack levels json := by
  induction h with
  | scalar h => exact comesBack_scalar h _
  | array _ ih => exact comesBack_array ih
  | object _ ih => exact comesBack_object ih

theorem unifyBreaks_eq_self {t : Text} (h : ∀ p ∈ t, p ≠ '\r') : unifyBreaks t = t := by
  induction t with
  | nil => rfl
  | cons p t ih =>
    have hp := h p List.mem_cons_self
    have hrest := ih fun q hq => h q (List.mem_cons_of_mem _ hq)
    unfold unifyBreaks
    split
    · rename_i heq
      simp at heq
    · rename_i heq
      exact absurd (List.cons.inj heq).1 hp
    · rename_i heq
      obtain ⟨rfl, rfl⟩ := List.cons.inj heq
      rw [if_neg hp, hrest]

/-- The text of a storable document is read as that document, with its pairs joined. -/
theorem read_write {json : Json} (h : IsStorable maxNesting json) :
    read (unifyBreaks json.write) = .ok json.reread := by
  have hback := h.comesBack
  have hplain {p : Point} (hp : p ∈ json.write) : p ≠ '\r' := by
    rintro rfl
    rcases hback.plain 0 _ hp with hbad | hbad
    · exact absurd hbad (by decide)
    · exact absurd hbad (by decide)
  have hread := hback.read 0 [] (2 * json.write.length + 2) (by simp [EndsNumber])
    (by simp only [List.append_nil, write]; omega)
  obtain ⟨p, more, hfront, hp, -⟩ := hback.front 0
  -- what is written is ASCII, without a return or a byte order mark
  have hbom : json.write.head? ≠ some (.char '\uFEFF') := by
    intro hhead
    rcases hback.plain 0 _ (List.mem_of_mem_head? hhead) with hbad | hbad
    · exact absurd hbad (by decide)
    · exact absurd hbad (by decide)
  rw [List.append_nil] at hread
  have hspace : skipSpace json.write = json.write := by
    have := hback.skipSpace 0 []
    rwa [List.append_nil] at this
  rw [unifyBreaks_eq_self fun p hp => hplain hp, read, readAll, if_neg hbom, hspace]
  change readValue _ _ json.write = _ at hread
  rw [hread]
  rfl

end Json

end TableQuery
