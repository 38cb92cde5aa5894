import Mathlib.Data.List.Basic
import Mathlib.Data.List.TakeWhile
import ReplicaControl.Text

/-!
# Bytes that are read back from base64

`Base64.digit` writes six bits and is no padding, so a text is read group by group. Salts and keys
are stored so (specification, section 4.2).

- `Base64.group?_digits`, `Base64.lastGroup?_one`, `Base64.lastGroup?_two`: three, one and two
  bytes.
- `Base64.decode?_encode`: the bytes of the text of bytes.
-/

namespace ReplicaControl.Text.Base64

theorem digit_ne_padding {n : Nat} (h : n < 64) : digit n ≠ '=' := by
  intro heq
  have hvalue := value?_digit h
  have hpadding : value? '=' = none := by decide
  rw [heq, hpadding] at hvalue
  cases hvalue

theorem toUInt8_eq {n : Nat} {a : UInt8} (h : n = a.toNat) : n.toUInt8 = a := by
  rw [h]
  exact UInt8.ofNat_toNat

/-- Three bytes are read back by `group?`. -/
theorem group?_digits (a b c : UInt8) :
    group? (digit (a.toNat / 4)) (digit (a.toNat % 4 * 16 + b.toNat / 16))
      (digit (b.toNat % 16 * 4 + c.toNat / 64)) (digit (c.toNat % 64)) = some [a, b, c] := by
  have ha := a.toNat_lt
  have hb := b.toNat_lt
  have hc := c.toNat_lt
  rw [group?, value?_digit (by omega), value?_digit (by omega), value?_digit (by omega),
    value?_digit (by omega)]
  show some [_, _, _] = _
  rw [toUInt8_eq (a := a) (by omega), toUInt8_eq (a := b) (by omega), toUInt8_eq (a := c) (by omega)]

/-- One byte is read back from a group with two characters of padding. -/
theorem lastGroup?_one (a : UInt8) :
    lastGroup? (digit (a.toNat / 4)) (digit (a.toNat % 4 * 16)) '=' '=' = some [a] := by
  have ha := a.toNat_lt
  have hunused : a.toNat % 4 * 16 % 16 = 0 := by omega
  rw [lastGroup?, if_pos rfl, if_pos rfl, value?_digit (by omega), value?_digit (by omega)]
  show (if _ then some [_] else none) = _
  rw [if_pos hunused, toUInt8_eq (a := a) (by omega)]

/-- Two bytes are read back from a group with one character of padding. -/
theorem lastGroup?_two (a b : UInt8) :
    lastGroup? (digit (a.toNat / 4)) (digit (a.toNat % 4 * 16 + b.toNat / 16))
      (digit (b.toNat % 16 * 4)) '=' = some [a, b] := by
  have ha := a.toNat_lt
  have hb := b.toNat_lt
  have hunused : b.toNat % 16 * 4 % 4 = 0 := by omega
  rw [lastGroup?, if_pos rfl, if_neg (digit_ne_padding (by omega)), value?_digit (by omega),
    value?_digit (by omega), value?_digit (by omega)]
  show (if _ then some [_, _] else none) = _
  rw [if_pos hunused, toUInt8_eq (a := a) (by omega), toUInt8_eq (a := b) (by omega)]

/-- A group without padding is read by `group?`, whether others follow it or not. -/
theorem decodeChars?_group {a b c d : Char} (h : d ≠ '=') (rest : List Char) :
    decodeChars? (a :: b :: c :: d :: rest) =
      (group? a b c d).bind fun bs => (decodeChars? rest).map (bs ++ ·) := by
  cases rest with
  | nil =>
    show lastGroup? a b c d = _
    rw [lastGroup?, if_neg h]
    cases group? a b c d <;> simp [decodeChars?]
  | cons e rest =>
    rw [decodeChars?]
    · cases group? a b c d <;> cases decodeChars? (e :: rest) <;> rfl
    · simp

theorem decodeChars?_chars (bs : List UInt8) : decodeChars? (chars bs) = some bs := by
  fun_induction chars bs with
  | case1 => rfl
  | case2 a => exact lastGroup?_one a
  | case3 a b => exact lastGroup?_two a b
  | case4 a b c rest ih =>
    rw [decodeChars?_group (digit_ne_padding (by omega)), group?_digits, ih]
    rfl

/-- `decode?` undoes `encode`. -/
@[simp] theorem decode?_encode (bs : List UInt8) : decode? (encode bs) = some bs := by
  rw [decode?, encode, String.toList_ofList, decodeChars?_chars]

end ReplicaControl.Text.Base64

/-!
## Trimmed texts

What `trim` takes off a text are blanks (`exists_eq_append_trim`), and of blanks around a text
without any it takes all (`trim_append`). Reported versions are trimmed.
-/

namespace ReplicaControl.Text

/-- `blanks` are dropped up to the first character that is none. -/
theorem dropWhile_append_blanks {blanks cs : List Char} (hblanks : ∀ c ∈ blanks, isBlank c = true)
    (hcs : ∀ c ∈ cs.head?, isBlank c = false) : (blanks ++ cs).dropWhile isBlank = cs := by
  rw [List.dropWhile_append_of_pos hblanks]
  cases cs with
  | nil => rfl
  | cons c cs => simp [hcs c (by simp)]

/-- Of a text without `isBlank` characters in it, only those around it are trimmed. -/
theorem trim_append {before cs after : List Char} (hbefore : ∀ c ∈ before, isBlank c = true)
    (hcs : ∀ c ∈ cs, isBlank c = false) (hafter : ∀ c ∈ after, isBlank c = true) :
    trim (before ++ cs ++ after) = cs := by
  cases cs with
  | nil =>
    have hblanks : ∀ c ∈ before ++ [] ++ after, isBlank c = true := by
      simpa [or_imp, forall_and] using And.intro hbefore hafter
    rw [trim, List.dropWhile_eq_nil_iff.mpr hblanks]
    rfl
  | cons c cs =>
    have hstart : (before ++ c :: cs ++ after).dropWhile isBlank = c :: cs ++ after := by
      rw [List.append_assoc]
      exact dropWhile_append_blanks hbefore (by simpa using hcs c (by simp))
    have hend : (after.reverse ++ (c :: cs).reverse).dropWhile isBlank = (c :: cs).reverse := by
      refine dropWhile_append_blanks (by simpa using hafter) fun d hd => hcs d ?_
      exact List.mem_reverse.mp (List.mem_of_mem_head? hd)
    rw [trim, hstart, dropEndWhile, List.reverse_append, hend, List.reverse_reverse]

/-- What `trim` takes off `cs` are blanks. -/
theorem exists_eq_append_trim (cs : List Char) : ∃ before after,
    cs = before ++ trim cs ++ after ∧
      (∀ c ∈ before, isBlank c = true) ∧ ∀ c ∈ after, isBlank c = true := by
  let rest := cs.dropWhile isBlank
  refine ⟨cs.takeWhile isBlank, (rest.reverse.takeWhile isBlank).reverse, ?_,
    fun c => List.mem_takeWhile_imp, fun c hc => List.mem_takeWhile_imp (List.mem_reverse.mp hc)⟩
  have hrest : trim cs ++ (rest.reverse.takeWhile isBlank).reverse = rest := by
    rw [trim, dropEndWhile, ← List.reverse_append, List.takeWhile_append_dropWhile,
      List.reverse_reverse]
  rw [List.append_assoc, hrest, List.takeWhile_append_dropWhile]

/-!
## Joined texts

Texts that are joined by a separator which none of them has can be told apart again, and what has no
separator in it stands among them only inside one of them. The subject of a certificate is such a
text, and so is a list of hosts.

- `mem_intercalate`: what a joined text is made of.
- `intercalate_inj`: joined texts are equal if and only if their parts are.
- `infix_intercalate_iff`: what stands in a joined text.
- `infix_labelled_iff`: where a label with a value stands in another one.
-/

variable {α β : Type} {x : α} {ls ms : List (List α)} {t l v : List α}

/-! ## Joining -/

/-- A joined text is made of the separator `x` and its parts. -/
theorem mem_intercalate {a : α} (h : a ∈ [x].intercalate ls) : a = x ∨ ∃ l ∈ ls, a ∈ l := by
  induction ls with
  | nil => simp at h
  | cons l ls ih =>
    cases ls with
    | nil =>
      rw [List.intercalate_singleton] at h
      exact .inr ⟨l, .head _, h⟩
    | cons l' ls =>
      rw [List.intercalate_cons_cons, List.append_assoc, List.mem_append, List.singleton_append,
        List.mem_cons] at h
      rcases h with h | h | h
      · exact .inr ⟨l, .head _, h⟩
      · exact .inl h
      · exact (ih h).imp_right fun ⟨m, hm, ha⟩ => ⟨m, .tail _ hm, ha⟩

/-- Characters may be replaced by `f` before parts are joined or after. -/
theorem flatMap_intercalate (f : α → List β) (x : α) (ls : List (List α)) :
    ([x].intercalate ls).flatMap f = (f x).intercalate (ls.map (·.flatMap f)) := by
  induction ls with
  | nil => rfl
  | cons l ls ih =>
    cases ls with
    | nil => simp only [List.intercalate_singleton, List.map_cons, List.map_nil]
    | cons l' ls =>
      rw [List.intercalate_cons_cons, List.flatMap_append, List.flatMap_append, ih,
        List.flatMap_singleton]
      exact List.intercalate_cons_cons.symm

/-- Joined texts are equal if and only if their parts are, if no part has the separator or is empty.
-/
theorem intercalate_inj [DecidableEq α] (hl : ∀ l ∈ ls, x ∉ l ∧ l ≠ [])
    (hm : ∀ m ∈ ms, x ∉ m ∧ m ≠ []) :
    [x].intercalate ls = [x].intercalate ms ↔ ls = ms := by
  -- Splitting tells the parts apart, but it makes one empty part of a text that has none.
  have hsplit : ∀ ks : List (List α), (∀ k ∈ ks, x ∉ k ∧ k ≠ []) →
      ks = (([x].intercalate ks).splitOn x).filter (· ≠ []) := by
    intro ks hks
    cases ks with
    | nil => rfl
    | cons k ks =>
      rw [List.splitOn_intercalate x (fun k' hk' => (hks k' hk').1) (List.cons_ne_nil _ _), eq_comm]
      exact List.filter_eq_self.mpr fun k' hk' => decide_eq_true (hks k' hk').2
  refine ⟨fun h => ?_, congrArg _⟩
  rw [hsplit ls hl, h, ← hsplit ms hm]

/-- A text is parted in one way by `x`, if `x` is not in what stands before it. -/
theorem append_cons_inj {l' v' : List α} (hl : x ∉ l) (hl' : x ∉ l') :
    l ++ x :: v = l' ++ x :: v' ↔ l = l' ∧ v = v' := by
  refine ⟨fun h => ?_, fun ⟨hbefore, hbehind⟩ => by rw [hbefore, hbehind]⟩
  induction l generalizing l' with
  | nil =>
    cases l' with
    | nil => exact ⟨rfl, (List.cons.inj h).2⟩
    | cons c l' => exact absurd ((List.cons.inj h).1 ▸ .head _) hl'
  | cons c l ih =>
    cases l' with
    | nil => exact absurd ((List.cons.inj h).1 ▸ .head _) hl
    | cons c' l' =>
      obtain ⟨rfl, htail⟩ := List.cons.inj h
      obtain ⟨rfl, rfl⟩ := ih (fun h => hl (.tail _ h)) (fun h => hl' (.tail _ h)) htail
      exact ⟨rfl, rfl⟩

/-! ## Parts of joined texts -/

/-- A text `t` without the separator `x` stands before `x` or behind it. -/
theorem infix_append_cons_iff (hx : x ∉ t) (ht : t ≠ []) :
    t <:+: l ++ x :: v ↔ t <:+: l ∨ t <:+: v := by
  rw [List.infix_append_iff, List.infix_cons_iff]
  constructor
  · rintro (h | (h | h) | ⟨t₁, t₂, rfl, hl, hv⟩)
    · exact .inl h
    · rcases List.prefix_cons_iff.mp h with rfl | ⟨t', rfl, -⟩
      · exact absurd rfl ht
      · exact absurd (.head _) hx
    · exact .inr h
    · rcases List.prefix_cons_iff.mp hv with rfl | ⟨t', rfl, -⟩
      · rw [List.append_nil]
        exact .inl hl.isInfix
      · exact absurd (List.mem_append_right _ (.head _)) hx
  · exact Or.imp_right fun h => .inl (.inr h)

/-- A text `t` without the separator `x` stands in a joined text if and only if it stands in a part.
-/
theorem infix_intercalate_iff (hx : x ∉ t) (ht : t ≠ []) :
    t <:+: [x].intercalate ls ↔ ∃ l ∈ ls, t <:+: l := by
  induction ls with
  | nil => simp [ht]
  | cons l ls ih =>
    cases ls with
    | nil => simp
    | cons l' ls =>
      rw [List.intercalate_cons_cons, List.append_assoc, List.singleton_append,
        infix_append_cons_iff hx ht, ih]
      simp only [List.mem_cons, exists_eq_or_imp]

/-- `label x value` stands in `label' x v` if and only if the labels end alike and so do the values
begin, or if it stands in `v`. -/
theorem infix_labelled_iff {label label' value : List α} (hl : x ∉ label) (hne : label ≠ [])
    (hl' : x ∉ label') :
    label ++ x :: value <:+: label' ++ x :: v ↔
      (label <:+ label' ∧ value <+: v) ∨ label ++ x :: value <:+: v := by
  rw [List.infix_append_iff, List.infix_cons_iff]
  constructor
  · rintro (h | (h | h) | ⟨t₁, t₂, heq, ht₁, ht₂⟩)
    · exact absurd (h.subset (List.mem_append_right _ (.head _))) hl'
    · obtain ⟨c, label, rfl⟩ := List.exists_cons_of_ne_nil hne
      obtain ⟨rfl, -⟩ := List.cons_prefix_cons.mp h
      exact absurd (.head _) hl
    · exact .inr h
    · rcases List.prefix_cons_iff.mp ht₂ with rfl | ⟨t', rfl, ht'⟩
      · rw [List.append_nil] at heq
        exact absurd (ht₁.subset (heq ▸ List.mem_append_right _ (.head _))) hl'
      · obtain ⟨rfl, rfl⟩ := (append_cons_inj hl fun h => hl' (ht₁.subset h)).mp heq
        exact .inl ⟨ht₁, ht'⟩
  · rintro (⟨hlabel, hvalue⟩ | h)
    · exact .inr (.inr ⟨label, x :: value, rfl, hlabel, List.cons_prefix_cons.mpr ⟨rfl, hvalue⟩⟩)
    · exact .inr (.inl (.inr h))

end ReplicaControl.Text
