import ReplicaControl.Json.Text

/-!
# Reading what was written

The compact text of a value (`Json.render`) reads as that value, unless an unreadable part is in it:
such a part is written as `null`.

- **Strings** (`spanString?_stringChars`, `unitsText?_map_toNat`): arbitrary characters, each
  escaped in one of three ways (`escape_cases`).
- **Values** (`ReadsBack`): a value at the head of a text, with the length of its own text as fuel.
  `spanElements?_chars` and `spanMembers?_chars` are its cases for arrays and objects, and
  `IsReadable.readsBack` puts them together.
- `parse?_render`: a whole text.
-/

namespace ReplicaControl.Json

/-! ## Strings -/

theorem hexUnit?_lowerHexDigit : ∀ n < 32,
    hexUnit? '0' '0' (Text.lowerHexDigit (n / 16)) (Text.lowerHexDigit (n % 16)) = some n := by
  decide

/-- `c` is escaped by a letter, by its code, or not at all. -/
theorem escape_cases (c : Char) :
    (∃ letter, letter ≠ 'u' ∧ escaped? letter = some c ∧ escape c = ['\\', letter]) ∨
      (c.toNat < 32 ∧ escape c = ['\\', 'u', '0', '0', Text.lowerHexDigit (c.toNat / 16),
        Text.lowerHexDigit (c.toNat % 16)]) ∨
      (c ≠ '"' ∧ c ≠ '\\' ∧ ¬c.toNat < 32 ∧ escape c = [c]) := by
  unfold escape
  split
  · next h => exact .inl ⟨'"', by decide, by rw [h]; rfl, rfl⟩
  split
  · next h => exact .inl ⟨'\\', by decide, by rw [h]; rfl, rfl⟩
  split
  · next h => exact .inl ⟨'b', by decide, h ▸ rfl, rfl⟩
  split
  · next h => exact .inl ⟨'f', by decide, h ▸ rfl, rfl⟩
  split
  · next h => exact .inl ⟨'n', by decide, h ▸ rfl, rfl⟩
  split
  · next h => exact .inl ⟨'r', by decide, h ▸ rfl, rfl⟩
  split
  · next h => exact .inl ⟨'t', by decide, h ▸ rfl, rfl⟩
  split
  -- The other controls are written by their code.
  · next h => exact .inr (.inl ⟨h, rfl⟩)
  · next hquote hbackslash _ _ _ _ _ hcode =>
    exact .inr (.inr ⟨hquote, hbackslash, hcode, rfl⟩)

/-- `spanString?` reads the escape of `c` as one unit. -/
theorem spanString?_escape (c : Char) (cs : List Char) :
    spanString? (escape c ++ cs) = (spanString? cs).map fun s => (c.toNat :: s.1, s.2) := by
  obtain ⟨letter, hu, hletter, h⟩ | ⟨hcode, h⟩ | ⟨hquote, hbackslash, hcode, h⟩ := escape_cases c
  · rw [h, List.cons_append, List.cons_append, List.nil_append, spanString?, hletter]
    · cases spanString? cs <;> rfl
    · exact fun _ _ _ _ _ hl _ => hu hl
  · simp only [h, List.cons_append, List.nil_append, spanString?, hexUnit?_lowerHexDigit _ hcode]
    cases spanString? cs <;> rfl
  · rw [h, List.cons_append, List.nil_append, spanString?, if_neg hcode]
    · cases spanString? cs <;> rfl
    · exact hquote
    · exact fun _ _ _ _ _ hc _ => hbackslash hc
    · exact fun _ _ hc _ => hbackslash hc

/-- `spanString?` reads the escapes of `cs`, up to the quotation mark behind them, as `cs`. -/
theorem spanString?_flatMap_escape (cs rest : List Char) :
    spanString? (cs.flatMap escape ++ '"' :: rest) = some (cs.map Char.toNat, rest) := by
  induction cs with
  | nil => simp [spanString?]
  | cons c cs ih =>
    rw [List.flatMap_cons, List.append_assoc, spanString?_escape, ih]
    rfl

/-- A `Char` is no half of a surrogate pair. -/
theorem isSurrogate_toNat (c : Char) :
    isHighSurrogate c.toNat = false ∧ isLowSurrogate c.toNat = false := by
  have hvalid : c.toNat < 0xD800 ∨ 0xDFFF < c.toNat ∧ c.toNat < 0x110000 := c.valid
  simp only [isHighSurrogate, isLowSurrogate, Bool.and_eq_false_iff, decide_eq_false_iff_not]
  omega

theorem joinUnits?_map_toNat (cs : List Char) : joinUnits? (cs.map Char.toNat) = some cs := by
  induction cs with
  | nil => rfl
  | cons c cs ih =>
    obtain ⟨hhigh, hlow⟩ := isSurrogate_toNat c
    cases cs with
    | nil => simp [joinUnits?, hhigh, hlow]
    | cons d cs =>
      rw [List.map_cons, List.map_cons, joinUnits?]
      rw [List.map_cons] at ih
      simp [hhigh, hlow, ih]

theorem unitsText?_map_toNat (s : String) : unitsText? (s.toList.map Char.toNat) = some s := by
  simp [unitsText?, joinUnits?_map_toNat]

/-! ## Values -/

/-- No part of the value is `unreadable`. -/
inductive IsReadable : Json → Prop where
  | null : IsReadable .null
  | bool (b : Bool) : IsReadable (.bool b)
  | number (n : Numeral) : IsReadable (.number n)
  | string (s : String) : IsReadable (.string s)
  | array {js : List Json} (h : ∀ j ∈ js, IsReadable j) : IsReadable (.array js)
  | object {ms : List (String × Json)} (h : ∀ m ∈ ms, IsReadable m.2) : IsReadable (.object ms)

attribute [simp] IsReadable.null IsReadable.bool IsReadable.number IsReadable.string

@[simp] theorem isReadable_array {js : List Json} :
    IsReadable (.array js) ↔ ∀ j ∈ js, IsReadable j :=
  ⟨fun | .array h => h, .array⟩

@[simp] theorem isReadable_object {ms : List (String × Json)} :
    IsReadable (.object ms) ↔ ∀ m ∈ ms, IsReadable m.2 :=
  ⟨fun | .object h => h, .object⟩

/-- What follows a value inside a text: `rest` is empty, or starts with a comma or a closing
bracket. -/
def Ends (rest : List Char) : Prop := ∀ c ∈ rest.head?, c = ',' ∨ c = ']' ∨ c = '}'

theorem Ends.numeral {rest : List Char} (h : Ends rest) : Numeral.Ends rest := by
  intro c hc
  rcases h c hc with rfl | rfl | rfl <;> decide

/-- `spanValue?` reads `j` back from the head of every text that starts with the text of `j`. -/
def ReadsBack (j : Json) : Prop :=
  ∀ (fuel : Nat) (rest : List Char), (chars j).length ≤ fuel → Ends rest →
    spanValue? fuel (chars j ++ rest) = some (j, rest)

theorem skipBlanks_cons {c : Char} (h : c ∉ [' ', '\t', '\n', '\r']) (cs : List Char) :
    skipBlanks (c :: cs) = c :: cs := by
  simp only [List.mem_cons, List.not_mem_nil, or_false] at h
  rw [skipBlanks, if_neg h]

/-- A numeral starts with `-` or a digit. -/
theorem chars_numeral_eq_cons (n : Numeral) :
    ∃ c cs, n.chars = c :: cs ∧ (c = '-' ∨ ∃ d : Digit, c = d.toChar) := by
  unfold Numeral.chars Decimal.text
  cases hds : Decimal.digits n.whole with
  | nil => exact absurd hds (Decimal.digits_ne_nil _)
  | cons d ds =>
    cases n.negative with
    | true => exact ⟨_, _, rfl, .inl rfl⟩
    | false => exact ⟨_, _, rfl, .inr ⟨d, rfl⟩⟩

/-- What starts a numeral starts no other value. -/
theorem notMem_of_startsNumeral {c : Char} (h : c = '-' ∨ ∃ d : Digit, c = d.toChar) :
    c ∉ [' ', '\t', '\n', '\r'] ∧ c ≠ ']' ∧ c ∉ ['"', '[', '{', 'n', 't', 'f'] := by
  rcases h with rfl | ⟨d, rfl⟩
  · decide
  · revert d
    decide

/-- A value starts with no blank and not with `]`. -/
theorem chars_eq_cons (j : Json) :
    ∃ c cs, chars j = c :: cs ∧ c ∉ [' ', '\t', '\n', '\r'] ∧ c ≠ ']' := by
  cases j with
  | null | unreadable => exact ⟨_, _, by rw [chars], by decide, by decide⟩
  | bool b => cases b <;> exact ⟨_, _, by rw [chars], by decide, by decide⟩
  | number n =>
    obtain ⟨c, cs, h, hc⟩ := chars_numeral_eq_cons n
    obtain ⟨hblank, hclose, -⟩ := notMem_of_startsNumeral hc
    exact ⟨c, cs, by rw [chars, h], hblank, hclose⟩
  | string s => exact ⟨_, _, by rw [chars, stringChars], by decide, by decide⟩
  | array js => cases js <;> exact ⟨_, _, by rw [chars], by decide, by decide⟩
  | object ms =>
    rcases ms with _ | ⟨⟨name, j⟩, ms⟩ <;> exact ⟨_, _, by rw [chars], by decide, by decide⟩

theorem skipBlanks_chars (j : Json) (rest : List Char) :
    skipBlanks (chars j ++ rest) = chars j ++ rest := by
  obtain ⟨c, cs, h, hc, -⟩ := chars_eq_cons j
  rw [h, List.cons_append, skipBlanks_cons hc]

theorem length_chars_pos (j : Json) : 0 < (chars j).length := by
  obtain ⟨c, cs, h, -⟩ := chars_eq_cons j
  rw [h]
  exact Nat.succ_pos _

/-- `spanValue?` reads what starts as no other value as a numeral. -/
theorem spanValue?_of_notMem {c : Char} {cs : List Char} (hblank : c ∉ [' ', '\t', '\n', '\r'])
    (hnot : c ∉ ['"', '[', '{', 'n', 't', 'f']) (fuel : Nat) :
    spanValue? (fuel + 1) (c :: cs) =
      (Numeral.span? (c :: cs)).map fun s => (.number s.1, s.2) := by
  rw [spanValue?, skipBlanks_cons hblank]
  split
  · next heq => cases heq
  iterate 6
    · next heq => simp [(List.cons.inj heq).1] at hnot
  · cases Numeral.span? (c :: cs) <;> rfl

/-! ### Parts of a value -/

theorem ends_cons {c : Char} {rest : List Char} (h : c = ',' ∨ c = ']' ∨ c = '}') :
    Ends (c :: rest) := by
  rintro d ⟨⟩
  exact h

/-- `spanElements?` reads the elements of an array back if each of them is `ReadsBack`. -/
theorem spanElements?_chars {j : Json} {js : List Json} (h : ∀ i ∈ j :: js, ReadsBack i) (fuel : Nat)
    (rest : List Char) (hfuel : (chars j ++ tailChars js).length < fuel) :
    spanElements? fuel (chars j ++ (tailChars js ++ ']' :: rest)) = some (j :: js, rest) := by
  induction js generalizing j fuel with
  | nil =>
    obtain ⟨fuel, rfl⟩ := Nat.exists_eq_add_one_of_ne_zero (Nat.ne_zero_of_lt hfuel)
    simp only [tailChars, List.append_nil] at hfuel
    rw [spanElements?, tailChars, List.nil_append,
      h j List.mem_cons_self fuel _ (by omega) (ends_cons (by decide))]
    rfl
  | cons i js ih =>
    obtain ⟨fuel, rfl⟩ := Nat.exists_eq_add_one_of_ne_zero (Nat.ne_zero_of_lt hfuel)
    simp only [tailChars, List.length_append, List.length_cons] at hfuel
    -- The text of the first element and its comma pay for the step of fuel.
    have hrest := ih (fun k hk => h k (List.mem_cons_of_mem _ hk)) fuel
      (by rw [List.length_append]; omega)
    rw [spanElements?, tailChars, List.cons_append, List.append_assoc,
      h j List.mem_cons_self fuel _ (by omega) (ends_cons (by decide))]
    show (spanElements? fuel (chars i ++ (tailChars js ++ ']' :: rest))).bind
      (fun others => some (j :: others.1, others.2)) = _
    rw [hrest]
    rfl

/-- `spanString?` reads a string back from the head of a text. -/
theorem spanString?_stringChars (s : String) (rest : List Char) :
    ∃ cs, stringChars s ++ rest = '"' :: cs ∧ spanString? cs = some (s.toList.map Char.toNat, rest) :=
  ⟨s.toList.flatMap escape ++ '"' :: rest, by simp [stringChars],
    spanString?_flatMap_escape s.toList rest⟩

/-- `spanMembers?` reads the first member of an object, and what follows it decides how to go on. -/
theorem spanMembers?_succ {m : String × Json} (h : ReadsBack m.2) {fuel : Nat} {rest : List Char}
    (hfuel : (chars m.2).length ≤ fuel) (hrest : Ends rest) :
    spanMembers? (fuel + 1) (stringChars m.1 ++ ':' :: (chars m.2 ++ rest)) =
      match skipBlanks rest with
      | ',' :: cs => do
        let (members, rest) ← spanMembers? fuel cs
        return ((some m.1, m.2) :: members, rest)
      | '}' :: rest => return ([(some m.1, m.2)], rest)
      | _ => none := by
  obtain ⟨cs, hcs, hspan⟩ := spanString?_stringChars m.1 (':' :: (chars m.2 ++ rest))
  -- `rw` tells the `match` of the reader and the one of the statement apart, `exact` does not.
  have hread := spanMembers?.eq_def (fuel + 1) ('"' :: cs)
  simp only [skipBlanks_cons (c := '"') (by decide), hspan, Option.bind_eq_bind, Option.bind_some,
    skipBlanks_cons (c := ':') (by decide), h fuel rest hfuel hrest, unitsText?_map_toNat] at hread
  rw [hcs]
  exact hread

/-- `spanMembers?` reads the members of an object back if the value of each of them is `ReadsBack`.
-/
theorem spanMembers?_chars {m : String × Json} {ms : List (String × Json)}
    (h : ∀ n ∈ m :: ms, ReadsBack n.2) (fuel : Nat) (rest : List Char)
    (hfuel : (chars m.2 ++ memberTailChars ms).length < fuel) :
    spanMembers? fuel
        (stringChars m.1 ++ ':' :: (chars m.2 ++ (memberTailChars ms ++ '}' :: rest))) =
      some ((m :: ms).map fun n => (some n.1, n.2), rest) := by
  induction ms generalizing m fuel with
  | nil =>
    obtain ⟨fuel, rfl⟩ := Nat.exists_eq_add_one_of_ne_zero (Nat.ne_zero_of_lt hfuel)
    simp only [memberTailChars, List.append_nil] at hfuel
    rw [memberTailChars, List.nil_append,
      spanMembers?_succ (h m List.mem_cons_self) (by omega) (ends_cons (by decide))]
    rfl
  | cons n ms ih =>
    obtain ⟨fuel, rfl⟩ := Nat.exists_eq_add_one_of_ne_zero (Nat.ne_zero_of_lt hfuel)
    obtain ⟨name, i⟩ := n
    simp only [memberTailChars, List.length_append, List.length_cons] at hfuel
    have hrest := ih (m := (name, i)) (fun k hk => h k (List.mem_cons_of_mem _ hk)) fuel
      (by simp only [List.length_append]; omega)
    rw [memberTailChars, List.cons_append, List.append_assoc, List.cons_append, List.append_assoc,
      spanMembers?_succ (h m List.mem_cons_self) (by omega) (ends_cons (by decide))]
    show (do
      let (members, rest) ← spanMembers? fuel
        (stringChars name ++ ':' :: (chars i ++ (memberTailChars ms ++ '}' :: rest)))
      return ((some m.1, m.2) :: members, rest)) = _
    rw [hrest]
    rfl

/-- Members whose names could be read make an object. -/
theorem ofMembers_map_some (ms : List (String × Json)) :
    ofMembers (ms.map fun m => (some m.1, m.2)) = .object ms := by
  have h : (ms.map fun m => (some m.1, m.2)).mapM (fun m => m.1.map (·, m.2)) = some ms := by
    induction ms with
    | nil => rfl
    | cons m ms ih => simp [ih]
  rw [ofMembers, h]

/-! ### Whole values -/

/-- A text has a character, so `ReadsBack` need only be proved with fuel. -/
theorem readsBack_of_succ {j : Json}
    (h : ∀ (fuel : Nat) (rest : List Char), (chars j).length ≤ fuel + 1 → Ends rest →
      spanValue? (fuel + 1) (chars j ++ rest) = some (j, rest)) : ReadsBack j := by
  intro fuel rest hfuel hrest
  obtain ⟨fuel, rfl⟩ := Nat.exists_eq_add_one_of_ne_zero
    (Nat.ne_zero_of_lt (Nat.lt_of_lt_of_le (length_chars_pos j) hfuel))
  exact h fuel rest hfuel hrest

theorem readsBack_string (s : String) : ReadsBack (.string s) := by
  refine readsBack_of_succ fun fuel rest _ _ => ?_
  obtain ⟨cs, hcs, hspan⟩ := spanString?_stringChars s rest
  rw [chars, hcs, spanValue?, skipBlanks_cons (by decide)]
  simp only [hspan, Option.bind_eq_bind, Option.bind_some, unitsText?_map_toNat]
  rfl

theorem readsBack_number (n : Numeral) : ReadsBack (.number n) := by
  refine readsBack_of_succ fun fuel rest _ hrest => ?_
  obtain ⟨c, cs, hcs, hc⟩ := chars_numeral_eq_cons n
  obtain ⟨hblank, -, hnot⟩ := notMem_of_startsNumeral hc
  have hspan := Numeral.span?_chars n hrest.numeral
  rw [chars, hcs, List.cons_append, spanValue?_of_notMem hblank hnot, ← List.cons_append, ← hcs,
    hspan]
  rfl

theorem readsBack_array {js : List Json} (h : ∀ j ∈ js, ReadsBack j) : ReadsBack (.array js) := by
  refine readsBack_of_succ fun fuel rest hfuel _ => ?_
  cases js with
  | nil => rfl
  | cons j js =>
    obtain ⟨c, cs, hcs, -, hclose⟩ := chars_eq_cons j
    have hspan := spanElements?_chars h fuel rest (by
      simp only [chars, List.length_cons, List.length_append] at hfuel ⊢
      omega)
    rw [chars, List.cons_append, List.append_assoc, List.append_assoc, spanValue?,
      skipBlanks_cons (by decide)]
    simp only [skipBlanks_chars, List.cons_append, List.nil_append]
    -- The array is not read as the empty one, as no value starts with its closing bracket.
    split
    · next heq =>
      rw [hcs] at heq
      exact absurd (List.cons.inj heq).1 hclose
    · rw [hspan]
      rfl

theorem readsBack_object {ms : List (String × Json)} (h : ∀ m ∈ ms, ReadsBack m.2) :
    ReadsBack (.object ms) := by
  refine readsBack_of_succ fun fuel rest hfuel _ => ?_
  cases ms with
  | nil => rfl
  | cons m ms =>
    obtain ⟨name, j⟩ := m
    have hspan := spanMembers?_chars h fuel rest (by
      simp only [chars, List.length_cons, List.length_append] at hfuel ⊢
      omega)
    have hchars : chars (.object ((name, j) :: ms)) ++ rest =
        '{' :: (stringChars name ++ ':' :: (chars j ++ (memberTailChars ms ++ '}' :: rest))) := by
      simp [chars]
    -- The reader looks for a quote, so the name must show its first character.
    obtain ⟨cs, hcs, -⟩ := spanString?_stringChars name
      (':' :: (chars j ++ (memberTailChars ms ++ '}' :: rest)))
    rw [hcs] at hchars
    rw [hchars, spanValue?, skipBlanks_cons (by decide)]
    simp only [skipBlanks_cons (show '"' ∉ [' ', '\t', '\n', '\r'] by decide) cs]
    show (do
      let (members, rest) ← spanMembers? fuel ('"' :: cs)
      return (ofMembers members, rest)) = _
    rw [← hcs, hspan]
    simp only [Option.bind_eq_bind, Option.bind_some, ofMembers_map_some]
    rfl

/-- A value is read back from its own text, if no part of it is `unreadable`. -/
theorem IsReadable.readsBack {j : Json} (h : IsReadable j) : ReadsBack j := by
  induction h with
  | null => exact readsBack_of_succ fun _ _ _ _ => rfl
  | bool b => cases b <;> exact readsBack_of_succ fun _ _ _ _ => rfl
  | number n => exact readsBack_number n
  | string s => exact readsBack_string s
  | array _ ih => exact readsBack_array ih
  | object _ ih => exact readsBack_object ih

/-- `parse?` reads what `render` wrote, if `j` is `IsReadable`. -/
theorem parse?_render {j : Json} (h : IsReadable j) : parse? j.render = some j := by
  have hspan := h.readsBack (j.chars.length + 1) [] (Nat.le_succ _) (fun _ => nofun)
  rw [List.append_nil] at hspan
  rw [parse?, render, String.toList_ofList, parseChars?, hspan]
  rfl

end ReplicaControl.Json
