/-!
# Decimal digits

Natural numbers and their decimal digits, most significant first. Member names, ports and versions
are written with them (specification, sections 3 and 4.1).

- **Digits** (`Decimal.digits`, `Decimal.value`): `value_digits` gives the number back; there is at
  least one digit (`digits_ne_nil`), and none leads with a zero but zero (`digits_ne_zero_cons`).
- **Reading** (`Decimal.span`, `Decimal.read?`): `span_append_digits` for digits with a text behind
  them, `read?_eq_some_iff` for the texts that are a number.
- **Texts determine numbers**: `read?_text` and `text_inj`.
-/

namespace ReplicaControl

/-- A decimal digit. -/
abbrev Digit := Fin 10

namespace Digit

def toChar (d : Digit) : Char := Char.ofNat (48 + d.val)

/-- The digit that `c` is, the inverse of `toChar`. -/
def ofChar? (c : Char) : Option Digit :=
  if h : 48 ≤ c.toNat ∧ c.toNat < 58 then some ⟨c.toNat - 48, by omega⟩ else none

@[simp] theorem ofChar?_toChar (d : Digit) : ofChar? d.toChar = some d := by
  revert d
  decide

theorem eq_toChar_of_ofChar? {c : Char} {d : Digit} (h : ofChar? c = some d) : c = d.toChar := by
  unfold ofChar? at h
  split at h
  · next hc =>
    obtain rfl := Option.some.inj h
    rw [toChar, Nat.add_sub_cancel' hc.1, Char.ofNat_toNat]
  · cases h

end Digit

namespace Decimal

/-- The number that digits stand for, `value [4, 2] = 42`. -/
def value (ds : List Digit) : Nat := ds.foldl (fun n d => 10 * n + d.val) 0

/-- The digits of `n` without leading zeros; `digits 0 = [0]`. -/
def digits (n : Nat) : List Digit :=
  if h : n < 10 then [⟨n, h⟩]
  else digits (n / 10) ++ [⟨n % 10, Nat.mod_lt _ (by decide)⟩]

theorem value_append_singleton (ds : List Digit) (d : Digit) :
    value (ds ++ [d]) = 10 * value ds + d.val := by
  simp [value]

@[simp] theorem value_digits (n : Nat) : value (digits n) = n := by
  fun_induction digits n with
  | case1 n h => simp [value]
  | case2 n h ih => rw [value_append_singleton, ih]; simp only; omega

theorem digits_ne_nil (n : Nat) : digits n ≠ [] := by
  unfold digits
  split <;> simp

/-- Only `digits 0` starts with the digit zero. -/
theorem digits_ne_zero_cons (n : Nat) (d : Digit) (ds : List Digit) : digits n ≠ 0 :: d :: ds := by
  fun_induction digits n generalizing d ds with
  | case1 n h => simp
  | case2 n h ih =>
    intro heq
    cases hds : digits (n / 10) with
    | nil => exact digits_ne_nil _ hds
    | cons c cs =>
      rw [hds, List.cons_append] at heq
      obtain ⟨rfl, -⟩ := List.cons.inj heq
      cases cs with
      | nil =>
        have hzero : n / 10 = 0 := by rw [← value_digits (n / 10), hds]; rfl
        omega
      | cons d' ds' => exact ih d' ds' hds

/-- The decimal text of `n` as characters. -/
def text (n : Nat) : List Char := (digits n).map Digit.toChar

/-- The decimal text of `n`. -/
def str (n : Nat) : String := String.ofList (text n)

/-- The decimal text of `i`, with `-` in front if `i` is negative. -/
def intStr (i : Int) : String := (if i < 0 then "-" else "") ++ str i.natAbs

/-- The digits at the head of a text, and what follows the last of them. -/
def span : List Char → List Digit × List Char
  | [] => ([], [])
  | c :: cs =>
    match Digit.ofChar? c with
    | some d => (d :: (span cs).1, (span cs).2)
    | none => ([], c :: cs)

/-- `span` stops at the first character of `rest`, if that is no digit. -/
theorem span_append_digits (ds : List Digit) (rest : List Char)
    (h : ∀ c ∈ rest.head?, Digit.ofChar? c = none) :
    span (ds.map Digit.toChar ++ rest) = (ds, rest) := by
  induction ds with
  | nil =>
    cases rest with
    | nil => rfl
    | cons c cs => simp [span, h c (by simp)]
  | cons d ds ih => simp [span, ih]

/-- The sign at the head of a text, which need not have one: whether it is `-`, and the text behind
it. -/
def spanSign : List Char → Bool × List Char
  | '-' :: cs => (true, cs)
  | '+' :: cs => (false, cs)
  | cs => (false, cs)

/-- The number that `cs` writes, if it consists of digits and has one; leading zeros are read. -/
def read? (cs : List Char) : Option Nat :=
  match span cs with
  | ([], _) => none
  | (ds, []) => some (value ds)
  | _ => none

/-- `span` loses nothing: its two parts make up the text. -/
theorem map_toChar_span_append (cs : List Char) :
    (span cs).1.map Digit.toChar ++ (span cs).2 = cs := by
  induction cs with
  | nil => rfl
  | cons c cs ih =>
    rw [span]
    cases hc : Digit.ofChar? c with
    | none => rfl
    | some d =>
      simp only [List.map_cons, List.cons_append, ih]
      rw [Digit.eq_toChar_of_ofChar? hc]

/-- Texts that are read consist of digits, and of at least one. -/
theorem read?_eq_some_iff {cs : List Char} {n : Nat} :
    read? cs = some n ↔ ∃ ds : List Digit, ds ≠ [] ∧ cs = ds.map Digit.toChar ∧ value ds = n := by
  constructor
  · intro h
    have hcs := map_toChar_span_append cs
    unfold read? at h
    generalize span cs = parts at h hcs
    obtain ⟨_ | ⟨d, ds⟩, _ | ⟨c, rest⟩⟩ := parts
    · cases h
    · cases h
    · rw [List.append_nil] at hcs
      exact ⟨d :: ds, List.cons_ne_nil d ds, hcs.symm, Option.some.inj h⟩
    · cases h
  · rintro ⟨ds, hne, rfl, rfl⟩
    have hspan := span_append_digits ds [] (by simp)
    rw [List.append_nil] at hspan
    obtain ⟨d, ds, rfl⟩ := List.exists_cons_of_ne_nil hne
    unfold read?
    rw [hspan]

@[simp] theorem read?_text (n : Nat) : read? (text n) = some n :=
  read?_eq_some_iff.mpr ⟨digits n, digits_ne_nil n, rfl, value_digits n⟩

theorem text_inj {m n : Nat} : text m = text n ↔ m = n := by
  refine ⟨fun h => ?_, congrArg text⟩
  have hread := read?_text m
  rw [h, read?_text] at hread
  exact (Option.some.inj hread).symm

theorem text_ne_nil (n : Nat) : text n ≠ [] := by
  simp [text, digits_ne_nil]

/-- `text n` consists of digits. -/
theorem isSome_ofChar?_of_mem_text {c : Char} {n : Nat} (h : c ∈ text n) :
    (Digit.ofChar? c).isSome = true := by
  obtain ⟨d, -, rfl⟩ := List.mem_map.mp h
  rw [Digit.ofChar?_toChar]
  rfl

end Decimal

end ReplicaControl
