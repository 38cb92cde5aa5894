import Mathlib.Data.List.Basic
import ReplicaControl.Certificate.Name
import ReplicaControl.Proofs.Certificate.Element
import ReplicaControl.Proofs.Text

/-!
# Names are told apart by their texts

The text of a name is read as a sequence of marks (`Mark`): a mark is a character, and whether a
backslash stands before it. Among the marks of a name a bare comma only stands between two parts, a
bare plus sign only between two attributes, and a backslash is never bare. So the text determines
the marks, these the marks of the attributes, and these the attributes.

- **Plain characters** (`IsPlain`): labels and paths have no others (`ObjectId.mem_text`), and no
  path is written as a label (`ObjectId.text_ne_label`).
- **Marks** (`readMarks_written`): they are read back from their text.
- **Attributes** (`Attribute.marks_injective`): determined by their marks, which are parted at the
  first equals sign.
- **Parts and names** (`NamePart.marks_injective`, `Name.marks_injective`): parted at bare plus
  signs and commas.
- **Texts** (`Name.text_eq_iff`): names are equal if and only if their texts are.
-/

namespace ReplicaControl.Certificate

/-! ## Plain characters -/

/-- No backslash is put before `c`, wherever it stands. -/
def IsPlain (c : Char) : Prop := isSpecial c = false ∧ c ≠ ' ' ∧ c ≠ '#'

instance (c : Char) : Decidable (IsPlain c) :=
  inferInstanceAs (Decidable (isSpecial c = false ∧ c ≠ ' ' ∧ c ≠ '#'))

/-- Characters are plain if they are of a `kind` that no other character is of. -/
theorem isPlain_of_kind (kind : Char → Bool) {c : Char} (h : kind c = true)
    (hkind : [' ', '#', ',', '+', '"', '\\', '<', '>', ';'].any kind = false) : IsPlain c := by
  have hne : ∀ d ∈ [' ', '#', ',', '+', '"', '\\', '<', '>', ';'], c ≠ d := by
    rintro d hd rfl
    exact List.any_eq_false.mp hkind c hd h
  refine ⟨Bool.eq_false_iff.mpr fun hspecial => ?_, hne _ (.head _), hne _ (.tail _ (.head _))⟩
  simp only [isSpecial, Bool.or_eq_true, beq_iff_eq, or_assoc] at hspecial
  rcases hspecial with rfl | rfl | rfl | rfl | rfl | rfl | rfl <;> exact hne _ (by decide) rfl

/-! ## Types of attributes -/

namespace AttributeType

theorem label_injective : Function.Injective label := by
  intro s t h
  cases s <;> cases t <;> first | rfl | exact absurd h (by decide)

theorem toList_label_ne_nil (type : AttributeType) : type.label.toList ≠ [] := by
  cases type <;> decide

/-- A `label` has only capital letters. -/
theorem isUpper_of_mem_label (type : AttributeType) :
    ∀ c ∈ type.label.toList, c.isUpper = true :=
  List.all_eq_true.mp (by cases type <;> decide)

theorem isPlain_of_mem_label (type : AttributeType) {c : Char} (h : c ∈ type.label.toList) :
    IsPlain c :=
  isPlain_of_kind Char.isUpper (type.isUpper_of_mem_label c h) (by decide)

theorem notMem_label (type : AttributeType) {c : Char} (h : c.isUpper = false) :
    c ∉ type.label.toList :=
  fun hc => Bool.eq_false_iff.mp h (type.isUpper_of_mem_label c hc)

end AttributeType

namespace ObjectId

variable {id id' : ObjectId} {c : Char}

theorem toList_text (id : ObjectId) :
    id.text.toList = ['.'].intercalate (id.arcs.map Decimal.text) := by
  rw [text, String.toList_intercalate, List.map_map]
  exact congrArg _ (List.map_congr_left fun n _ => String.toList_ofList)

/-- The `text` of a path has only digits and dots. -/
theorem mem_text (h : c ∈ id.text.toList) : c = '.' ∨ (Digit.ofChar? c).isSome = true := by
  rw [toList_text] at h
  refine (Text.mem_intercalate h).imp_right ?_
  rintro ⟨l, hl, hc⟩
  obtain ⟨n, -, rfl⟩ := List.mem_map.mp hl
  exact Decimal.isSome_ofChar?_of_mem_text hc

theorem text_inj : id.text = id'.text ↔ id = id' := by
  have hparts : ∀ arcs : List Nat, ∀ l ∈ arcs.map Decimal.text, '.' ∉ l ∧ l ≠ [] := by
    intro arcs l hl
    obtain ⟨n, -, rfl⟩ := List.mem_map.mp hl
    exact ⟨fun h => absurd (Decimal.isSome_ofChar?_of_mem_text h) (by decide),
      Decimal.text_ne_nil n⟩
  have htext : Function.Injective Decimal.text := fun _ _ => Decimal.text_inj.mp
  refine ⟨fun h => ?_, congrArg text⟩
  have hlist := congrArg String.toList h
  rw [toList_text, toList_text, Text.intercalate_inj (hparts _) (hparts _)] at hlist
  obtain ⟨arcs⟩ := id
  obtain ⟨arcs'⟩ := id'
  exact congrArg ObjectId.mk (List.map_injective_iff.mpr htext hlist)

/-- No path is written as a `label`: it has no capital letter. -/
theorem text_ne_label (id : ObjectId) (type : AttributeType) : id.text ≠ type.label := by
  intro h
  obtain ⟨c, hc⟩ := List.exists_mem_of_ne_nil _ type.toList_label_ne_nil
  have hupper := type.isUpper_of_mem_label c hc
  rw [← h] at hc
  rcases mem_text hc with rfl | hdigit
  · exact absurd hupper (by decide)
  · obtain ⟨d, hd⟩ := Option.isSome_iff_exists.mp hdigit
    obtain rfl := Digit.eq_toChar_of_ofChar? hd
    have hlow : ∀ d : Digit, d.toChar.isUpper = false := by decide
    exact Bool.eq_false_iff.mp (hlow d) hupper

end ObjectId

/-! ## Marks -/

/-- A character of a `text`, and whether a backslash stands before it. -/
structure Mark where
  escaped : Bool
  char : Char
deriving DecidableEq

/-- The characters that stand for the mark in a `text`. -/
def Mark.chars (m : Mark) : List Char := if m.escaped then ['\\', m.char] else [m.char]

/-- The character `c` with no backslash before it. -/
def Mark.bare (c : Char) : Mark := ⟨false, c⟩

theorem Mark.bare_injective : Function.Injective bare := fun _ _ h => congrArg char h

/-- The text of the marks `ms`. -/
def written (ms : List Mark) : List Char := ms.flatMap Mark.chars

/-- The marks of a text, which a backslash stands before if it is `escaped`. -/
def readMarks (escaped : Bool) : List Char → List Mark
  | [] => []
  | c :: cs =>
    if !escaped && c == '\\' then readMarks true cs else ⟨escaped, c⟩ :: readMarks false cs

/-- Marks without a bare backslash are read back from their text by `readMarks`. -/
theorem readMarks_written {ms : List Mark} (h : Mark.bare '\\' ∉ ms) :
    readMarks false (written ms) = ms := by
  -- A mark with a backslash is read in two steps, any other one in one.
  induction ms with
  | nil => rfl
  | cons m ms ih =>
    obtain ⟨hm, hms⟩ := not_or.mp (mt List.mem_cons.mpr h)
    obtain ⟨escaped, c⟩ := m
    cases escaped with
    | true => exact congrArg _ (ih hms)
    | false =>
      have hc : (c == '\\') = false := beq_eq_false_iff_ne.mpr fun hc => hm (hc ▸ rfl)
      show readMarks false (c :: written ms) = _
      rw [readMarks, hc, Bool.and_false, if_neg Bool.false_ne_true, ih hms]

theorem written_map_bare (cs : List Char) : written (cs.map .bare) = cs := by
  induction cs with
  | nil => rfl
  | cons c cs ih => exact congrArg (c :: ·) ih

theorem map_char_map_bare (cs : List Char) : (cs.map Mark.bare).map Mark.char = cs := by
  rw [List.map_map]
  exact List.map_id cs

theorem written_append (ms ms' : List Mark) : written (ms ++ ms') = written ms ++ written ms' :=
  List.flatMap_append

/-- Marks joined by a bare `c` are written as texts joined by `c`. -/
theorem written_intercalate (c : Char) (mss : List (List Mark)) :
    written ([.bare c].intercalate mss) = [c].intercalate (mss.map written) :=
  Text.flatMap_intercalate _ _ _

/-- No mark of `ms` is a bare special character. -/
def Guarded (ms : List Mark) : Prop := ∀ m ∈ ms, isSpecial m.char = true → m.escaped = true

theorem Guarded.bare_notMem {ms : List Mark} (h : Guarded ms) {c : Char} (hc : isSpecial c = true) :
    Mark.bare c ∉ ms :=
  fun hmem => Bool.false_ne_true (h _ hmem hc)

theorem guarded_map_bare {cs : List Char} (h : ∀ c ∈ cs, isSpecial c = false) :
    Guarded (cs.map .bare) := by
  intro m hm hspecial
  obtain ⟨c, hc, rfl⟩ := List.mem_map.mp hm
  exact absurd hspecial (Bool.eq_false_iff.mp (h c hc))

/-- Joined marks have no bare `c` that neither is the separator nor stands in a part. -/
theorem bare_notMem_intercalate {c x : Char} {mss : List (List Mark)} (hcx : c ≠ x)
    (h : ∀ ms ∈ mss, Mark.bare c ∉ ms) : Mark.bare c ∉ [.bare x].intercalate mss := by
  intro hmem
  rcases Text.mem_intercalate hmem with hsep | ⟨ms, hms, hc⟩
  · exact hcx (Mark.bare_injective hsep)
  · exact h ms hms hc

/-- The marks of a value as `escapeFrom` writes it. -/
def marksFrom (atStart : Bool) : List Char → List Mark
  | [] => []
  | c :: cs =>
    ⟨isSpecial c || (c == ' ' && (atStart || cs.isEmpty)) || (c == '#' && atStart), c⟩ ::
      marksFrom false cs

theorem toList_escapeValue (value : String) :
    (escapeValue value).toList = escapeFrom true value.toList :=
  String.toList_ofList

theorem written_marksFrom (atStart : Bool) (cs : List Char) :
    written (marksFrom atStart cs) = escapeFrom atStart cs := by
  induction cs generalizing atStart with
  | nil => rfl
  | cons c cs ih =>
    rw [escapeFrom, ← ih false, marksFrom, written, List.flatMap_cons, Mark.chars]
    split <;> rfl

theorem map_char_marksFrom (atStart : Bool) (cs : List Char) :
    (marksFrom atStart cs).map Mark.char = cs := by
  induction cs generalizing atStart with
  | nil => rfl
  | cons c cs ih => exact congrArg (c :: ·) (ih false)

theorem guarded_marksFrom (atStart : Bool) (cs : List Char) : Guarded (marksFrom atStart cs) := by
  induction cs generalizing atStart with
  | nil => exact nofun
  | cons c cs ih =>
    intro m hm hspecial
    rcases List.mem_cons.mp hm with rfl | hm
    · show (isSpecial c || _ || _) = true
      rw [show isSpecial c = true from hspecial, Bool.true_or, Bool.true_or]
    · exact ih false m hm hspecial

/-! ## Attributes -/

namespace Attribute

variable {a : Attribute} {c : Char}

/-- What stands before the equals sign of the attribute: `label` or path. -/
def typeText : Attribute → List Char
  | labelled type _ => type.label.toList
  | encoded type _ => type.text.toList

/-- The marks behind the equals sign of the attribute: of its value, or of the bytes of its
`Element`. -/
def valueMarks : Attribute → List Mark
  | labelled _ value => marksFrom true value.toList
  | encoded _ value => ('#' :: (Text.hex value.encode).toList).map .bare

/-- The marks of the attribute, whose characters are its `text`. -/
def marks (a : Attribute) : List Mark := a.typeText.map .bare ++ .bare '=' :: a.valueMarks

theorem toList_text (a : Attribute) : a.text.toList = a.typeText ++ '=' :: written a.valueMarks := by
  cases a with
  | labelled type value =>
    rw [text, String.toList_append, String.toList_append, List.append_assoc, toList_escapeValue,
      valueMarks, written_marksFrom]
    rfl
  | encoded type value =>
    rw [text, String.toList_append, String.toList_append, List.append_assoc, valueMarks,
      written_map_bare]
    rfl

theorem written_marks (a : Attribute) : written a.marks = a.text.toList := by
  rw [marks, written_append, written_map_bare, toList_text]
  rfl

/-- `typeText` is plain, and has no equals sign in it. -/
theorem of_mem_typeText (h : c ∈ a.typeText) : c ≠ '=' ∧ IsPlain c := by
  cases a with
  | labelled type value =>
    exact ⟨fun hc => type.notMem_label (by decide) (hc ▸ h), type.isPlain_of_mem_label h⟩
  | encoded type value =>
    rcases ObjectId.mem_text h with rfl | hdigit
    · decide
    · exact ⟨fun hc => absurd (hc ▸ hdigit) (by decide),
        isPlain_of_kind (fun d => (Digit.ofChar? d).isSome) hdigit (by decide)⟩

theorem guarded_marks (a : Attribute) : Guarded a.marks := by
  have hvalue : Guarded a.valueMarks := by
    cases a with
    | labelled type value => exact guarded_marksFrom _ _
    | encoded type value =>
      refine guarded_map_bare fun c hc => ?_
      rcases List.mem_cons.mp hc with rfl | hc
      · decide
      · exact (isPlain_of_kind (fun d => (Text.hexDigit? d).isSome)
          (Text.isSome_hexDigit?_of_mem_hex hc) (by decide)).1
  intro m hm
  rcases List.mem_append.mp hm with hm | hm
  · exact guarded_map_bare (fun c hc => (of_mem_typeText hc).2.1) m hm
  · rcases List.mem_cons.mp hm with rfl | hm
    · exact nofun
    · exact hvalue m hm

/-- Marks are parted at the first equals sign, as `typeText` has none. -/
theorem typeText_and_valueMarks_of_marks {b : Attribute} (h : a.marks = b.marks) :
    a.typeText = b.typeText ∧ a.valueMarks.map Mark.char = b.valueMarks.map Mark.char := by
  have hchars : ∀ a : Attribute, a.marks.map Mark.char =
      a.typeText ++ '=' :: a.valueMarks.map Mark.char := by
    intro a
    rw [marks, List.map_append, map_char_map_bare]
    rfl
  have heq := congrArg (List.map Mark.char) h
  rw [hchars, hchars] at heq
  exact (Text.append_cons_inj (fun h => (of_mem_typeText h).1 rfl)
    (fun h => (of_mem_typeText h).1 rfl)).mp heq

/-- An attribute is determined by its `marks`. -/
theorem marks_injective : Function.Injective marks := by
  intro a b h
  obtain ⟨htype, hvalue⟩ := typeText_and_valueMarks_of_marks h
  -- Attributes of different kinds differ in what stands before the equals sign, a label or a path.
  -- The value of an element is its bytes, from which `Element.encode_inj` gives it.
  cases a with
  | labelled type value =>
    cases b with
    | labelled type' value' =>
      rw [valueMarks, valueMarks, map_char_marksFrom, map_char_marksFrom] at hvalue
      rw [AttributeType.label_injective (String.toList_injective htype),
        String.toList_injective hvalue]
    | encoded type' value' =>
      exact absurd (String.toList_injective htype).symm (type'.text_ne_label type)
  | encoded type value =>
    cases b with
    | labelled type' value' =>
      exact absurd (String.toList_injective htype) (type.text_ne_label type')
    | encoded type' value' =>
      rw [valueMarks, valueMarks, map_char_map_bare, map_char_map_bare] at hvalue
      have hhex := congrArg Text.ofHex? (List.cons.inj hvalue).2
      rw [Text.ofHex?_hex, Text.ofHex?_hex] at hhex
      rw [ObjectId.text_inj.mp (String.toList_injective htype),
        Element.encode_inj.mp (Option.some.inj hhex)]

end Attribute

/-! ## Names -/

namespace NamePart

/-- The `marks` of the attributes of a part, with bare plus signs between. -/
def marks (p : NamePart) : List Mark := [.bare '+'].intercalate (p.attributes.map Attribute.marks)

theorem written_marks (p : NamePart) : written p.marks = p.text.toList := by
  rw [marks, written_intercalate, List.map_map, text, String.toList_intercalate, List.map_map]
  exact congrArg _ (List.map_congr_left fun a _ => a.written_marks)

theorem of_mem_map_marks (p : NamePart) :
    ∀ ms ∈ p.attributes.map Attribute.marks, Guarded ms ∧ ms ≠ [] := by
  rintro _ hms
  obtain ⟨a, -, rfl⟩ := List.mem_map.mp hms
  exact ⟨a.guarded_marks, List.append_ne_nil_of_right_ne_nil _ (List.cons_ne_nil _ _)⟩

theorem bare_notMem_marks (p : NamePart) {c : Char} (hc : isSpecial c = true) (hplus : c ≠ '+') :
    Mark.bare c ∉ p.marks :=
  bare_notMem_intercalate hplus fun ms hms => (p.of_mem_map_marks ms hms).1.bare_notMem hc

/-- No attribute has a bare plus sign, so that `marks` are parted at these. -/
theorem map_marks_parted (p : NamePart) :
    ∀ ms ∈ p.attributes.map Attribute.marks, Mark.bare '+' ∉ ms ∧ ms ≠ [] :=
  fun ms hms => (p.of_mem_map_marks ms hms).imp_left fun h => h.bare_notMem rfl

theorem marks_ne_nil (p : NamePart) : p.marks ≠ [] := by
  intro h
  have hempty : p.marks = [.bare '+'].intercalate [] := h
  have hmap := (Text.intercalate_inj p.map_marks_parted (List.forall_mem_nil _)).mp hempty
  exact List.cons_ne_nil _ _ hmap

theorem attributes_injective : Function.Injective attributes := by
  rintro ⟨first, others⟩ ⟨first', others'⟩ h
  obtain ⟨rfl, rfl⟩ := List.cons.inj h
  rfl

/-- A part is determined by its `marks`. -/
theorem marks_injective : Function.Injective marks := by
  intro p q h
  have hmap := (Text.intercalate_inj p.map_marks_parted q.map_marks_parted).mp h
  exact attributes_injective (List.map_injective_iff.mpr Attribute.marks_injective hmap)

end NamePart

namespace Name

/-- The `marks` of the parts of a name, the last one first, with bare commas between. -/
def marks (n : Name) : List Mark := [.bare ','].intercalate (n.parts.reverse.map NamePart.marks)

theorem written_marks (n : Name) : written n.marks = n.text.toList := by
  rw [marks, written_intercalate, List.map_map, text, String.toList_intercalate, List.map_map]
  exact congrArg _ (List.map_congr_left fun p _ => p.written_marks)

/-- A name is determined by its `marks`. -/
theorem marks_injective : Function.Injective marks := by
  intro n m h
  have hparts : ∀ n : Name, ∀ ms ∈ n.parts.reverse.map NamePart.marks,
      Mark.bare ',' ∉ ms ∧ ms ≠ [] := by
    rintro n _ hms
    obtain ⟨p, -, rfl⟩ := List.mem_map.mp hms
    exact ⟨p.bare_notMem_marks rfl (by decide), p.marks_ne_nil⟩
  have hmap := (Text.intercalate_inj (hparts n) (hparts m)).mp h
  have hreverse := List.map_injective_iff.mpr NamePart.marks_injective hmap
  obtain ⟨parts⟩ := n
  obtain ⟨parts'⟩ := m
  exact congrArg Name.mk (List.reverse_injective hreverse)

/-- Names are equal if and only if their `text` is. -/
theorem text_eq_iff {n m : Name} : n.text = m.text ↔ n = m := by
  refine ⟨fun h => marks_injective ?_, congrArg text⟩
  have hread : ∀ n : Name, readMarks false n.text.toList = n.marks := by
    intro n
    rw [← n.written_marks]
    refine readMarks_written (bare_notMem_intercalate (by decide) fun ms hms => ?_)
    obtain ⟨p, -, rfl⟩ := List.mem_map.mp hms
    exact p.bare_notMem_marks rfl (by decide)
  rw [← hread n, h, hread m]

end Name

end ReplicaControl.Certificate
