import Mathlib.Data.List.Basic
import ReplicaControl.Proofs.Certificate.Name
import ReplicaControl.Proofs.Unicode

/-!
# The subjects that are accepted

A subject is accepted by searching its text for labels (specification, section 10.3). A label, an
equals sign and a word have no character that a backslash is put before, and neither the comma nor
the plus sign that names are joined by. So they stand in the text of a name if and only if they
stand in the text of an attribute; and there they are its own label and the beginning of its value
(`Attribute.Gives`), or they stand in its value (`Attribute.Mentions`), where equals signs and inner
spaces are left as they are.

- **Words** (`showsWord_iff`): what is searched for.
- **Values** (`infix_escapeFrom_iff`): they are searched as if they had no backslashes.
- **Attributes and names** (`Attribute.showsWord_text_iff`, `Name.showsWord_text_iff`): where it is
  found.
- **Acceptance** (`Name.accepted_iff`): exactly which names are accepted. One that gives nothing of
  what an agent needs is among them (`Name.mentioning_accepted`).
-/

namespace ReplicaControl.Certificate

/-! ## Words -/

theorem isWordChar_eq_false {c : Char} (hascii : c.toNat < 128) (halpha : c.isAlphanum = false)
    (hline : c ≠ '_') : isWordChar c = false := by
  refine Bool.or_eq_false_iff.mpr ⟨Bool.eq_false_iff.mpr fun h => ?_, beq_eq_false_iff_ne.mpr hline⟩
  exact Bool.eq_false_iff.mp halpha (Unicode.isAlphanum_of_isAlphanumeric hascii h)

theorem isPlain_of_isWordChar {c : Char} (h : isWordChar c = true) : IsPlain c := by
  refine isPlain_of_kind isWordChar h ?_
  simp (disch := decide) only [List.any_cons, List.any_nil, isWordChar_eq_false, Bool.or_self]

theorem isWordChar_underscore : isWordChar '_' = true := by
  rw [isWordChar, beq_self_eq_true, Bool.or_true]

/-- The first character satisfies `p` if and only if a character with `p` stands at the front. -/
theorem any_head?_iff {p : Char → Bool} {cs : List Char} :
    cs.head?.any p = true ↔ ∃ c, p c = true ∧ [c] <+: cs := by
  cases cs with
  | nil => simp
  | cons c cs => simp

theorem beginsWithWord_iff {label cs : List Char} :
    beginsWithWord label cs = true ↔ ∃ w, isWordChar w = true ∧ label ++ ['=', w] <+: cs := by
  have hparts (w : Char) : label ++ ['=', w] = (label ++ ['=']) ++ [w] := List.append_cons _ _ _
  have hlength : label.length + 1 = (label ++ ['=']).length := by simp
  rw [beginsWithWord, Bool.and_eq_true, List.isPrefixOf_iff_prefix, any_head?_iff, hlength]
  simp only [hparts]
  constructor
  · rintro ⟨⟨rest, rfl⟩, w, hw, hrest⟩
    rw [List.drop_left] at hrest
    exact ⟨w, hw, (List.prefix_append_right_inj _).mpr hrest⟩
  · rintro ⟨w, hw, rest, rfl⟩
    rw [List.append_assoc _ [w], List.drop_left]
    exact ⟨List.prefix_append _ _, w, hw, List.prefix_append _ _⟩

/-- `showsWord` searches for a label, an equals sign and a character of a word. -/
theorem showsWord_iff {label cs : List Char} :
    showsWord label cs = true ↔ ∃ w, isWordChar w = true ∧ label ++ ['=', w] <:+: cs := by
  induction cs with
  | nil => simp [showsWord]
  | cons c cs ih =>
    simp only [showsWord, Bool.or_eq_true, beginsWithWord_iff, ih, List.infix_cons_iff, and_or_left,
      exists_or]

/-! ## Values -/

/-- `escapeFrom` puts a backslash before a character that is not plain, or nothing. -/
theorem escapeFrom_cons (atStart : Bool) (c : Char) (cs : List Char) :
    escapeFrom atStart (c :: cs) = c :: escapeFrom false cs ∨
      ¬IsPlain c ∧ escapeFrom atStart (c :: cs) = '\\' :: c :: escapeFrom false cs := by
  rw [escapeFrom]
  split
  · next h =>
    refine .inr ⟨?_, rfl⟩
    rintro ⟨hspecial, hspace, hnumber⟩
    simp [hspecial, hspace, hnumber] at h
  · exact .inl rfl

/-- Plain text `t` stands at the beginning of a value if and only if it does once it is written. -/
theorem prefix_escapeFrom_iff {t cs : List Char} (ht : ∀ c ∈ t, IsPlain c) (atStart : Bool) :
    t <+: escapeFrom atStart cs ↔ t <+: cs := by
  induction cs generalizing t atStart with
  | nil => rfl
  | cons c cs ih =>
    cases t with
    | nil => simp
    | cons d t =>
      obtain ⟨hd, ht⟩ := List.forall_mem_cons.mp ht
      rcases escapeFrom_cons atStart c cs with heq | ⟨hplain, heq⟩
      · rw [heq, List.cons_prefix_cons, List.cons_prefix_cons, ih ht]
      · rw [heq, List.cons_prefix_cons, List.cons_prefix_cons]
        refine iff_of_false ?_ ?_
        · rintro ⟨rfl, -⟩
          exact absurd hd (by decide)
        · rintro ⟨rfl, -⟩
          exact hplain hd

/-- Plain text `t` stands in a value if and only if it does once it is written. -/
theorem infix_escapeFrom_iff {t cs : List Char} (ht : ∀ c ∈ t, IsPlain c) (atStart : Bool) :
    t <:+: escapeFrom atStart cs ↔ t <:+: cs := by
  induction cs generalizing atStart with
  | nil => rfl
  | cons c cs ih =>
    rw [List.infix_cons_iff, ← ih false, ← prefix_escapeFrom_iff ht atStart]
    rcases escapeFrom_cons atStart c cs with heq | ⟨hplain, heq⟩
    · rw [heq, List.infix_cons_iff]
    · have hbegin : t <+: c :: escapeFrom false cs → t <:+: escapeFrom false cs := by
        intro h
        rcases List.prefix_cons_iff.mp h with rfl | ⟨t, rfl, -⟩
        · exact List.nil_infix
        · exact absurd (ht c (.head _)) hplain
      rw [heq, List.infix_cons_iff, List.infix_cons_iff, or_iff_right_of_imp hbegin]

/-! ## Attributes -/

namespace AttributeType

variable {type : AttributeType} {w : Char}

/-- What is searched for `IsPlain`. -/
theorem isPlain_of_mem (type : AttributeType) (hw : isWordChar w = true) :
    ∀ c ∈ type.label.toList ++ ['=', w], IsPlain c := by
  refine List.forall_mem_append.mpr ⟨fun _ => type.isPlain_of_mem_label, ?_⟩
  refine List.forall_mem_cons.mpr ⟨by decide, List.forall_mem_singleton.mpr ?_⟩
  exact isPlain_of_isWordChar hw

/-- The `label` of a type that is `required` ends no other one. -/
theorem label_suffix_iff (h : type ∈ required) (other : AttributeType) :
    type.label.toList <:+ other.label.toList ↔ type = other := by
  revert h
  cases type <;> cases other <;> decide

end AttributeType

namespace Attribute

variable {type : AttributeType} {a : Attribute}

/-- The attribute is of the given `type`, and its value, as it is written, begins with a word. -/
def Gives (type : AttributeType) : Attribute → Prop
  | labelled own value => own = type ∧ (escapeValue value).toList.head?.any isWordChar = true
  | encoded _ _ => False

/-- The value has the `label` of the type in it, and behind that an equals sign and a word. -/
def Mentions (type : AttributeType) : Attribute → Prop
  | labelled _ value => showsWord type.label.toList value.toList = true
  | encoded _ _ => False

/-- The value has no `'='`, if it is text. -/
def NoEquals : Attribute → Prop
  | labelled _ value => '=' ∉ value.toList
  | encoded _ _ => True

instance : DecidablePred NoEquals
  | labelled _ value => inferInstanceAs (Decidable ('=' ∉ value.toList))
  | encoded _ _ => inferInstanceAs (Decidable True)

theorem gives_labelled_iff {own : AttributeType} {value : String} :
    (labelled own value).Gives type ↔
      own = type ∧ (escapeValue value).toList.head?.any isWordChar = true := Iff.rfl

theorem mentions_labelled_iff {own : AttributeType} {value : String} :
    (labelled own value).Mentions type ↔ showsWord type.label.toList value.toList = true := Iff.rfl

/-- What is searched for begins in the `label` of the attribute, or it stands in the value. -/
theorem infix_text_iff (type : AttributeType) (a : Attribute) (w : Char) :
    type.label.toList ++ ['=', w] <:+: a.text.toList ↔
      (type.label.toList <:+ a.typeText ∧ [w] <+: written a.valueMarks) ∨
        type.label.toList ++ ['=', w] <:+: written a.valueMarks := by
  rw [toList_text]
  exact Text.infix_labelled_iff (type.notMem_label (by decide)) type.toList_label_ne_nil
    (fun h => (of_mem_typeText h).1 rfl)

theorem infix_labelled_text_iff (h : type ∈ AttributeType.required) {w : Char}
    (hw : isWordChar w = true) (own : AttributeType) (value : String) :
    type.label.toList ++ ['=', w] <:+: (labelled own value).text.toList ↔
      (own = type ∧ [w] <+: (escapeValue value).toList) ∨
        type.label.toList ++ ['=', w] <:+: value.toList := by
  rw [infix_text_iff, valueMarks, written_marksFrom, typeText, AttributeType.label_suffix_iff h,
    infix_escapeFrom_iff (type.isPlain_of_mem hw), toList_escapeValue, eq_comm]

/-- An `encoded` value is written behind a number sign, with no equals sign in it. -/
theorem not_infix_encoded_text {w : Char} (hw : isWordChar w = true) (path : ObjectId)
    (value : Element) : ¬type.label.toList ++ ['=', w] <:+: (encoded path value).text.toList := by
  rw [infix_text_iff, valueMarks, written_map_bare, List.cons_prefix_cons]
  rintro (⟨-, rfl, -⟩ | h)
  · exact (isPlain_of_isWordChar hw).2.2 rfl
  · rcases List.mem_cons.mp (h.subset (List.mem_append_right _ (.head _))) with heq | hhex
    · exact absurd heq (by decide)
    · exact absurd (Text.isSome_hexDigit?_of_mem_hex hhex) (by decide)

/-- `showsWord` finds a type in the text of an attribute if and only if the attribute `Gives` or
`Mentions` it. -/
theorem showsWord_text_iff (h : type ∈ AttributeType.required) (a : Attribute) :
    showsWord type.label.toList a.text.toList = true ↔ a.Gives type ∨ a.Mentions type := by
  rw [showsWord_iff]
  cases a with
  | labelled own value =>
    rw [Gives, Mentions, any_head?_iff, showsWord_iff]
    constructor
    · rintro ⟨w, hw, hfound⟩
      rcases (infix_labelled_text_iff h hw own value).mp hfound with ⟨hown, hbegin⟩ | hvalue
      · exact .inl ⟨hown, w, hw, hbegin⟩
      · exact .inr ⟨w, hw, hvalue⟩
    · rintro (⟨hown, w, hw, hbegin⟩ | ⟨w, hw, hvalue⟩)
      · exact ⟨w, hw, (infix_labelled_text_iff h hw own value).mpr (.inl ⟨hown, hbegin⟩)⟩
      · exact ⟨w, hw, (infix_labelled_text_iff h hw own value).mpr (.inr hvalue)⟩
  | encoded path value =>
    rw [Gives, Mentions, or_self, iff_false]
    rintro ⟨w, hw, hfound⟩
    exact not_infix_encoded_text hw path value hfound

end Attribute

/-! ## Names -/

namespace NamePart

/-- Plain text `t` stands in the text of a part if and only if it stands in that of an attribute. -/
theorem infix_text_iff {t : List Char} (ht : ∀ c ∈ t, IsPlain c) (hne : t ≠ []) (p : NamePart) :
    t <:+: p.text.toList ↔ ∃ a ∈ p.attributes, t <:+: a.text.toList := by
  have hplus : '+' ∉ t := fun h => absurd (ht _ h) (by decide)
  rw [text, String.toList_intercalate, List.map_map]
  refine (Text.infix_intercalate_iff hplus hne).trans ?_
  simp

end NamePart

namespace Name

variable {n : Name} {type : AttributeType}

/-- An attribute of the name `Gives` the type. -/
def Gives (n : Name) (type : AttributeType) : Prop :=
  ∃ part ∈ n.parts, ∃ a ∈ part.attributes, a.Gives type

/-- An attribute of the name `Mentions` the type. -/
def Mentions (n : Name) (type : AttributeType) : Prop :=
  ∃ part ∈ n.parts, ∃ a ∈ part.attributes, a.Mentions type

/-- Plain text `t` stands in the text of a name if and only if it stands in that of an attribute. -/
theorem infix_text_iff {t : List Char} (ht : ∀ c ∈ t, IsPlain c) (hne : t ≠ []) (n : Name) :
    t <:+: n.text.toList ↔ ∃ part ∈ n.parts, ∃ a ∈ part.attributes, t <:+: a.text.toList := by
  have hcomma : ',' ∉ t := fun h => absurd (ht _ h) (by decide)
  rw [text, String.toList_intercalate, List.map_map]
  refine (Text.infix_intercalate_iff hcomma hne).trans ?_
  simp [NamePart.infix_text_iff ht hne]

/-- `showsWord` finds a type in the text of a name if and only if the name `Gives` or `Mentions` it.
-/
theorem showsWord_text_iff (h : type ∈ AttributeType.required) (n : Name) :
    showsWord type.label.toList n.text.toList = true ↔ n.Gives type ∨ n.Mentions type := by
  have hne : ∀ w, type.label.toList ++ ['=', w] ≠ [] :=
    fun _ => List.append_ne_nil_of_left_ne_nil type.toList_label_ne_nil _
  have hsearch : showsWord type.label.toList n.text.toList = true ↔ ∃ part ∈ n.parts,
      ∃ a ∈ part.attributes, showsWord type.label.toList a.text.toList = true := by
    simp only [showsWord_iff]
    constructor
    · rintro ⟨w, hw, hfound⟩
      obtain ⟨part, hpart, a, ha, hfound⟩ :=
        (infix_text_iff (type.isPlain_of_mem hw) (hne w) n).mp hfound
      exact ⟨part, hpart, a, ha, w, hw, hfound⟩
    · rintro ⟨part, hpart, a, ha, w, hw, hfound⟩
      exact ⟨w, hw, (infix_text_iff (type.isPlain_of_mem hw) (hne w) n).mpr
        ⟨part, hpart, a, ha, hfound⟩⟩
  rw [hsearch, Gives, Mentions]
  simp only [Attribute.showsWord_text_iff h, and_or_left, exists_or]

theorem isCompleteSubject_text_iff (n : Name) : isCompleteSubject n.text = true ↔
    ∀ type ∈ AttributeType.required, n.Gives type ∨ n.Mentions type := by
  rw [isCompleteSubject, List.all_eq_true]
  exact forall₂_congr fun type htype => n.showsWord_text_iff htype

/-- The name gives all types of `AttributeType.required`, as an agent needs them. -/
def Complete (n : Name) : Prop := ∀ type ∈ AttributeType.required, n.Gives type

/-- No text in the name has an `'='`. -/
def NoEquals (n : Name) : Prop := ∀ part ∈ n.parts, ∀ a ∈ part.attributes, a.NoEquals

instance (n : Name) : Decidable n.NoEquals :=
  inferInstanceAs (Decidable (∀ part ∈ n.parts, ∀ a ∈ part.attributes, a.NoEquals))

/-- Without an equals sign a name `Mentions` nothing. -/
theorem NoEquals.not_mentions (h : n.NoEquals) : ¬n.Mentions type := by
  rintro ⟨part, hpart, a, ha, hmentions⟩
  cases a with
  | labelled own value =>
    obtain ⟨w, -, hfound⟩ := showsWord_iff.mp hmentions
    exact h part hpart _ ha (hfound.subset (List.mem_append_right _ (.head _)))
  | encoded path value => exact hmentions

/-- A name is accepted if and only if it gives or mentions every type that is required. So names
that are `Complete` are accepted, and no others are as long as no value has an equals sign. -/
theorem accepted_iff (n : Name) :
    (isCompleteSubject n.text = true ↔
      ∀ type ∈ AttributeType.required, n.Gives type ∨ n.Mentions type) ∧
    (n.Complete → isCompleteSubject n.text = true) ∧
    (n.NoEquals → (isCompleteSubject n.text = true ↔ n.Complete)) := by
  refine ⟨n.isCompleteSubject_text_iff, fun h => ?_, fun h => ?_⟩
  · exact n.isCompleteSubject_text_iff.mpr fun type htype => .inl (h type htype)
  · rw [isCompleteSubject_text_iff]
    exact forall₂_congr fun type _ => or_iff_left h.not_mentions

/-- The subject of an agent, which gives the attributes that it needs. -/
def ofAgent : Name where
  parts := [⟨.labelled .country "_DE", []⟩, ⟨.labelled .organization "Sample, Inc.", []⟩,
    ⟨.labelled .organizationalUnit "_ops", [.labelled .commonName "_agent"]⟩]

theorem accepted_iff_ofAgent : ofAgent.NoEquals ∧ isCompleteSubject ofAgent.text = true := by
  have hequals : ofAgent.NoEquals := by decide
  have hword : ∀ value ∈ ["_DE", "_ops", "_agent"],
      (escapeValue value).toList.head?.any isWordChar = true := by
    intro value hvalue
    have hbegin : ['_'] <+: (escapeValue value).toList := by
      rw [toList_escapeValue]
      revert value
      decide
    exact any_head?_iff.mpr ⟨'_', isWordChar_underscore, hbegin⟩
  have hcomplete : ofAgent.Complete := by
    refine List.forall_mem_cons.mpr ⟨?_, List.forall_mem_cons.mpr ⟨?_, ?_⟩⟩
    · exact ⟨_, .tail _ (.tail _ (.head _)), _, .tail _ (.head _),
        Attribute.gives_labelled_iff.mpr ⟨rfl, hword _ (by decide)⟩⟩
    · exact ⟨_, .head _, _, .head _, Attribute.gives_labelled_iff.mpr ⟨rfl, hword _ (by decide)⟩⟩
    · refine List.forall_mem_singleton.mpr ?_
      exact ⟨_, .tail _ (.tail _ (.head _)), _, .head _,
        Attribute.gives_labelled_iff.mpr ⟨rfl, hword _ (by decide)⟩⟩
  exact ⟨hequals, ((accepted_iff ofAgent).2.2 hequals).mpr hcomplete⟩

/-- A subject with a value that reads like the attributes that an agent needs. -/
def mentioning : Name where
  parts := [⟨.labelled .organization "CN=_agent OU=_ops C=_DE", []⟩]

/-- `mentioning` is accepted although it gives nothing of what an agent needs. -/
theorem mentioning_accepted : ¬∀ n : Name, isCompleteSubject n.text = true ↔ n.Complete := by
  intro hall
  have hmentions : ∀ type ∈ AttributeType.required, mentioning.Mentions type := by
    intro type htype
    have hfound : type.label.toList ++ ['=', '_'] <:+: "CN=_agent OU=_ops C=_DE".toList := by
      revert type
      -- The search is quick once the characters of the value are given as a list.
      rw [show "CN=_agent OU=_ops C=_DE".toList = _ from String.toList_ofList]
      decide
    exact ⟨_, .head _, _, .head _, Attribute.mentions_labelled_iff.mpr
      (showsWord_iff.mpr ⟨'_', isWordChar_underscore, hfound⟩)⟩
  have hcomplete := (hall mentioning).mp
    (mentioning.isCompleteSubject_text_iff.mpr fun type htype => .inr (hmentions type htype))
  obtain ⟨part, hpart, a, ha, hgives⟩ := hcomplete .commonName (.head _)
  obtain rfl := List.mem_singleton.mp hpart
  obtain rfl := List.mem_singleton.mp ha
  exact absurd (Attribute.gives_labelled_iff.mp hgives).1 (by decide)

end Name

end ReplicaControl.Certificate
