import Mathlib.Algebra.Group.Nat.Defs
import Mathlib.Data.Nat.Digits.Lemmas
import ReplicaControl.Certificate.Element

/-!
# Elements and their distinguished encoding

Attribute values that are no text are shown by the bytes of their element (specification, section
10.3). Elements are told apart by them: what identifies an element is read back whatever follows it,
and longer contents have no shorter length, so that the number of bytes tells how many of them are
contents. An element could be written in many ways that read the same, as a tag number or a length
may have zeros before it; the distinguished rules leave one way, which has none.

- **Tag numbers** (`readNumber?_base128`) and identifiers (`exists_identifierBytes`): they are read
  back.
- **Equality** (`encode_inj`): elements are equal if and only if their bytes are.
- **Digits** (`Shortest`): each number has one row of them without leading zeros (`shortest_iff`).
- **The rules** (`WritesIdentifier`, `WritesLength`): what stands before the contents. Only the
  bytes of `encode` follow them (`distinguished_iff`).
- **Reading** (`read?_encode`): the bytes are read back, whatever follows them.
  `encode_distinguished` says both.
-/

namespace ReplicaControl.Certificate.Element

/-! ## Tag numbers -/

theorem toNat_toUInt8 {n : Nat} (h : n < 256) : n.toUInt8.toNat = n := by
  rw [Nat.toUInt8_eq, UInt8.toNat_ofNat', Nat.mod_eq_of_lt h]

theorem toNat_highDigit (n : Nat) : (n % 128 + 128).toUInt8.toNat = n % 128 + 128 :=
  toNat_toUInt8 (by omega)

theorem toNat_lastDigit (n : Nat) : (n % 128).toUInt8.toNat = n % 128 :=
  toNat_toUInt8 (by omega)

theorem toNat_and_low (b : UInt8) : (b &&& 0x7F).toNat = b.toNat % 128 := by
  rw [UInt8.toNat_and]
  show _ &&& (2 ^ 7 - 1) = _
  rw [Nat.and_two_pow_sub_one_eq_mod]

/-- A digit adds its seven lower bits to the number `n / 128` that was begun. -/
theorem shiftLeft_or_digit {n : Nat} (h : n < 4294967296) {b : UInt8}
    (hb : b.toNat % 128 = n % 128) :
    UInt32.ofNat (n / 128) <<< 7 ||| (b &&& 0x7F).toUInt32 = UInt32.ofNat n := by
  have hlow : (b &&& 0x7F).toNat = n % 128 := by rw [toNat_and_low, hb]
  have hhigh : n / 128 % 2 ^ 32 * 2 ^ 7 % 2 ^ 32 = (n / 128) <<< 7 := by
    rw [Nat.shiftLeft_eq]
    omega
  apply UInt32.toNat_inj.mp
  rw [UInt32.toNat_or, UInt32.toNat_shiftLeft, UInt8.toNat_toUInt32, hlow, UInt32.toNat_ofNat',
    UInt32.toNat_ofNat']
  show _ <<< 7 % 2 ^ 32 ||| _ = _
  rw [Nat.shiftLeft_eq, hhigh, ← Nat.shiftLeft_add_eq_or_of_lt (Nat.mod_lt _ (by decide)),
    Nat.shiftLeft_eq]
  omega

/-- `highDigits n`, whose high bits are set, begin the number `n`. -/
theorem readNumber?_highDigits {n : Nat} (h : n < 4294967296) (count : Nat) (bs : List UInt8) :
    readNumber? ((highDigits n).length + count) 0 (highDigits n ++ bs) =
      readNumber? count (UInt32.ofNat n) bs := by
  fun_induction highDigits n generalizing count bs with
  | case1 => simp
  | case2 n hn ih =>
    have hbyte := toNat_highDigit n
    have hhigh : ¬(n % 128 + 128).toUInt8 < 0x80 := by
      rw [UInt8.lt_iff_toNat_lt, hbyte]
      exact Nat.not_lt.mpr (Nat.le_add_left _ _)
    rw [List.length_append, List.append_assoc, List.singleton_append, Nat.add_assoc,
      ih (by omega), List.length_singleton, Nat.add_comm 1 count, readNumber?]
    simp only [if_neg hhigh, shiftLeft_or_digit h (by rw [hbyte]; omega)]

/-- A number below `128 ^ k` has at most `k` digits. -/
theorem length_highDigits_le {n k : Nat} (h : n < 128 ^ k) : (highDigits n).length ≤ k := by
  fun_induction highDigits n generalizing k with
  | case1 => exact Nat.zero_le _
  | case2 n hn ih =>
    cases k with
    | zero => omega
    | succ k =>
      rw [Nat.pow_succ'] at h
      rw [List.length_append, List.length_singleton]
      exact Nat.succ_le_succ (ih (Nat.div_lt_of_lt_mul h))

/-- `readNumber?` reads tag numbers back from `base128`, whatever follows them. -/
theorem readNumber?_base128 (tag : UInt32) (bs : List UInt8) :
    readNumber? 5 0 (base128 tag.toNat ++ bs) = some (tag, bs) := by
  have htag := tag.toNat_lt
  have hbyte := toNat_lastDigit tag.toNat
  obtain ⟨count, hcount⟩ : ∃ count, 5 = (highDigits (tag.toNat / 128)).length + (count + 1) := by
    have hlength : (highDigits (tag.toNat / 128)).length ≤ 4 := length_highDigits_le (by omega)
    exact ⟨4 - (highDigits (tag.toNat / 128)).length, by omega⟩
  have hlast : (tag.toNat % 128).toUInt8 < 0x80 := by
    rw [UInt8.lt_iff_toNat_lt, hbyte]
    exact Nat.mod_lt _ (by decide)
  rw [base128, List.append_assoc, hcount, readNumber?_highDigits (by omega), List.singleton_append,
    readNumber?]
  simp only [if_pos hlast, shiftLeft_or_digit htag (by rw [hbyte]; omega), UInt32.ofNat_toNat]

/-! ## Identifiers -/

/-- The first byte of an element holds its class `c`, its mark and the number `low`, and nothing
else. -/
theorem identifierByte_spec (c : TagClass) (constructed : Bool) (low : Fin 32) :
    let b := (64 * c.code + (if constructed then 32 else 0) + low.val).toUInt8
    TagClass.ofCode (b.toNat / 64) = c ∧ decide (b &&& 0x20 ≠ 0) = constructed ∧
      b &&& 0x1F = low.val.toUInt8 := by
  revert low
  cases c <;> cases constructed <;> decide

/-- What `identifierBytes` say of an element is read back, whatever follows them. -/
theorem exists_identifierBytes (e : Element) (bs : List UInt8) :
    ∃ b rest, e.identifierBytes ++ bs = b :: rest ∧ TagClass.ofCode (b.toNat / 64) = e.tagClass ∧
      decide (b &&& 0x20 ≠ 0) = e.constructed ∧ readTag? b rest = some (e.tag, bs) := by
  by_cases htag : e.tag.toNat < 31
  -- Short: the number itself is in the first byte, and is not the 31 that announces more bytes.
  · obtain ⟨hclass, hconstructed, hlow⟩ :=
      identifierByte_spec e.tagClass e.constructed ⟨e.tag.toNat, by omega⟩
    have hbyte : e.tag.toNat.toUInt8.toNat = e.tag.toNat := toNat_toUInt8 (by omega)
    have hshort : e.tag.toNat.toUInt8 ≠ 0x1F := by
      intro h
      rw [h] at hbyte
      exact absurd htag (by rw [← hbyte]; decide)
    have hvalue : e.tag.toNat.toUInt8.toUInt32 = e.tag :=
      UInt32.toNat_inj.mp (by rw [UInt8.toNat_toUInt32, hbyte])
    refine ⟨_, bs, by rw [identifierBytes, if_pos htag]; rfl, hclass, hconstructed, ?_⟩
    rw [readTag?, hlow]
    simp only [if_neg hshort, hvalue]
  -- Long: the first byte holds 31, and the number is behind it.
  · obtain ⟨hclass, hconstructed, hlow⟩ := identifierByte_spec e.tagClass e.constructed 31
    refine ⟨_, base128 e.tag.toNat ++ bs, by rw [identifierBytes, if_neg htag]; rfl, hclass,
      hconstructed, ?_⟩
    rw [readTag?, hlow]
    exact readNumber?_base128 e.tag bs

/-! ## Lengths -/

theorem length_numberBytes_le {m n : Nat} (h : m ≤ n) :
    (numberBytes m).length ≤ (numberBytes n).length := by
  fun_induction numberBytes m generalizing n with
  | case1 => exact Nat.zero_le _
  | case2 m hm ih =>
    rw [numberBytes.eq_def n, if_neg (by omega), List.length_append, List.length_append]
    exact Nat.add_le_add_right (ih (by omega)) _

/-- `lengthBytes` of longer contents are not fewer. -/
theorem length_lengthBytes_le {m n : Nat} (h : m ≤ n) :
    (lengthBytes m).length ≤ (lengthBytes n).length := by
  unfold lengthBytes
  split
  · split
    · exact Nat.le_refl _
    · exact Nat.succ_le_succ (Nat.zero_le _)
  · rw [if_neg (by omega)]
    exact Nat.succ_le_succ (length_numberBytes_le h)

/-- Contents with their `lengthBytes` before them are equal only if the contents are. -/
theorem lengthBytes_append_inj {xs ys : List UInt8} :
    lengthBytes xs.length ++ xs = lengthBytes ys.length ++ ys ↔ xs = ys := by
  refine ⟨fun h => ?_, fun h => by rw [h]⟩
  have htotal := congrArg List.length h
  rw [List.length_append, List.length_append] at htotal
  have hlength : xs.length = ys.length := by
    rcases Nat.le_total xs.length ys.length with hle | hle
    · have := length_lengthBytes_le hle
      omega
    · have := length_lengthBytes_le hle
      omega
  rw [hlength] at h
  exact List.append_cancel_left h

/-! ## Elements -/

/-- Elements are equal if and only if their bytes, `encode`, are. -/
theorem encode_inj {e e' : Element} : e.encode = e'.encode ↔ e = e' := by
  refine ⟨fun h => ?_, congrArg encode⟩
  simp only [encode, List.append_assoc] at h
  obtain ⟨b, rest, hbytes, hclass, hconstructed, htag⟩ :=
    e.exists_identifierBytes (lengthBytes e.contents.length ++ e.contents)
  obtain ⟨b', rest', hbytes', hclass', hconstructed', htag'⟩ :=
    e'.exists_identifierBytes (lengthBytes e'.contents.length ++ e'.contents)
  obtain ⟨rfl, rfl⟩ := List.cons.inj (hbytes.symm.trans (h.trans hbytes'))
  obtain ⟨htags, hcontents⟩ := Prod.mk.inj (Option.some.inj (htag.symm.trans htag'))
  obtain ⟨tagClass, constructed, tag, contents⟩ := e
  obtain ⟨tagClass', constructed', tag', contents'⟩ := e'
  rw [Element.mk.injEq]
  exact ⟨hclass.symm.trans hclass', hconstructed.symm.trans hconstructed', htags,
    lengthBytes_append_inj.mp hcontents⟩

/-! ## Numbers -/

/-- `ds`, the most significant digit first, write `n` to the given base without leading zeros. -/
structure Shortest (base : Nat) (ds : List Nat) (n : Nat) : Prop where
  value : Nat.ofDigits base ds.reverse = n
  lt : ∀ d ∈ ds, d < base
  leading : ds.head? ≠ some 0

theorem shortest_iff {base : Nat} (hbase : 1 < base) {ds : List Nat} {n : Nat} :
    Shortest base ds n ↔ ds = (Nat.digits base n).reverse := by
  constructor
  · rintro ⟨rfl, hlt, hleading⟩
    -- `Nat.digits` has the most significant digit last, where it is not zero.
    have hlast : ∀ h : ds.reverse ≠ [], ds.reverse.getLast h ≠ 0 := by
      intro h hzero
      rw [List.getLast_reverse] at hzero
      exact hleading (by rw [← hzero, List.head?_eq_some_head])
    rw [Nat.digits_ofDigits base hbase _ (fun d hd => hlt d (List.mem_reverse.mp hd)) hlast,
      List.reverse_reverse]
  · rintro rfl
    refine ⟨?_, fun d hd => Nat.digits_lt_base hbase (List.mem_reverse.mp hd), fun hleading => ?_⟩
    · rw [List.reverse_reverse, Nat.ofDigits_digits]
    · rw [List.head?_reverse] at hleading
      have hne : Nat.digits base n ≠ [] := fun hnil => by simp [hnil] at hleading
      rw [List.getLast?_eq_some_getLast hne] at hleading
      exact Nat.getLast_digit_ne_zero base (Nat.digits_ne_nil_iff_ne_zero.mp hne)
        (Option.some.inj hleading)

theorem map_toNat_injective : Function.Injective (List.map UInt8.toNat) :=
  List.map_injective_iff.mpr fun _ _ => UInt8.toNat_inj.mp

theorem map_toNat_numberBytes (n : Nat) :
    (numberBytes n).map UInt8.toNat = (Nat.digits 256 n).reverse := by
  fun_induction numberBytes n with
  | case1 => simp
  | case2 n hn ih =>
    rw [List.map_append, ih, Nat.digits_def' (by decide) (Nat.pos_of_ne_zero hn), List.reverse_cons,
      List.map_singleton, toNat_toUInt8 (Nat.mod_lt _ (by decide))]

theorem map_toNat_highDigits (n : Nat) :
    (highDigits n).map UInt8.toNat = (Nat.digits 128 n).reverse.map (· + 128) := by
  fun_induction highDigits n with
  | case1 => simp
  | case2 n hn ih =>
    rw [List.map_append, ih, Nat.digits_def' (by decide) (Nat.pos_of_ne_zero hn), List.reverse_cons,
      List.map_append, List.map_singleton, toNat_highDigit, List.map_singleton]

/-! ## What stands before the contents -/

/-- `bytes` are the digits of `n` to the base 128, the high bit set in all but the last one. -/
def WritesTag (bytes : List UInt8) (n : Nat) : Prop :=
  ∃ ds last, Shortest 128 (ds ++ [last]) n ∧ bytes.map UInt8.toNat = ds.map (· + 128) ++ [last]

theorem writesTag_iff {bytes : List UInt8} {n : Nat} (hn : 0 < n) :
    WritesTag bytes n ↔ bytes = base128 n := by
  have hdigits : (Nat.digits 128 n).reverse = (Nat.digits 128 (n / 128)).reverse ++ [n % 128] := by
    rw [Nat.digits_def' (by decide) hn, List.reverse_cons]
  have hbytes : (base128 n).map UInt8.toNat =
      (Nat.digits 128 (n / 128)).reverse.map (· + 128) ++ [n % 128] := by
    rw [base128, List.map_append, map_toNat_highDigits, List.map_singleton, toNat_lastDigit]
  constructor
  · rintro ⟨ds, last, hshortest, h⟩
    rw [shortest_iff (by decide), hdigits] at hshortest
    obtain ⟨rfl, hlast⟩ := List.append_inj' hshortest rfl
    exact map_toNat_injective (by rw [h, hbytes, hlast])
  · rintro rfl
    exact ⟨_, _, (shortest_iff (by decide)).mpr hdigits.symm, hbytes⟩

/-- The rules for the bytes that identify `e`: one byte with the class, the mark and the tag number,
or with 31 in its place and the tag number behind it (`WritesTag`). -/
inductive WritesIdentifier (e : Element) : List UInt8 → Prop
  | short {b : UInt8} (htag : e.tag.toNat < 31)
      (hb : b.toNat = 64 * e.tagClass.code + (if e.constructed then 32 else 0) + e.tag.toNat) :
      WritesIdentifier e [b]
  | long {b : UInt8} {bytes : List UInt8} (htag : 31 ≤ e.tag.toNat)
      (hb : b.toNat = 64 * e.tagClass.code + (if e.constructed then 32 else 0) + 31)
      (hbytes : WritesTag bytes e.tag.toNat) :
      WritesIdentifier e (b :: bytes)

theorem toNat_identifierByte (c : TagClass) (constructed : Bool) {low : Nat} (h : low < 32) :
    (64 * c.code + (if constructed then 32 else 0) + low).toUInt8.toNat =
      64 * c.code + (if constructed then 32 else 0) + low := by
  have hcode : c.code ≤ 3 := by cases c <;> decide
  refine toNat_toUInt8 ?_
  split <;> omega

theorem writesIdentifier_iff {e : Element} {bytes : List UInt8} :
    WritesIdentifier e bytes ↔ bytes = e.identifierBytes := by
  have hbyte : ∀ low < 32, ∀ b : UInt8,
      b.toNat = 64 * e.tagClass.code + (if e.constructed then 32 else 0) + low ↔
        b = (64 * e.tagClass.code + (if e.constructed then 32 else 0) + low).toUInt8 := by
    intro low hlow b
    rw [← UInt8.toNat_inj, toNat_identifierByte _ _ hlow]
  constructor
  · rintro (⟨htag, hb⟩ | ⟨htag, hb, hbytes⟩)
    · rw [identifierBytes, if_pos htag, (hbyte _ (by omega) _).mp hb]
    · rw [identifierBytes, if_neg (Nat.not_lt.mpr htag), (hbyte _ (by omega) _).mp hb,
        (writesTag_iff (by omega)).mp hbytes]
  · rintro rfl
    by_cases htag : e.tag.toNat < 31
    · rw [identifierBytes, if_pos htag]
      exact .short htag ((hbyte _ (by omega) _).mpr rfl)
    · rw [identifierBytes, if_neg htag]
      exact .long (Nat.not_lt.mp htag) ((hbyte _ (by omega) _).mpr rfl)
        ((writesTag_iff (by omega)).mpr rfl)

/-- The rules for the bytes of a length: one byte if it is below 128, and else a byte that counts
the ones behind it, which write the length (`Shortest`). The greatest count is reserved. -/
inductive WritesLength : List UInt8 → Nat → Prop
  | short {b : UInt8} {n : Nat} (hn : n < 128) (hb : b.toNat = n) : WritesLength [b] n
  | long {b : UInt8} {bytes : List UInt8} {n : Nat} (hn : 128 ≤ n)
      (hb : b.toNat = 128 + bytes.length) (hcount : bytes.length < 127)
      (hbytes : Shortest 256 (bytes.map UInt8.toNat) n) : WritesLength (b :: bytes) n

theorem length_numberBytes_le_eight {n : Nat} (h : n < 2 ^ 64) : (numberBytes n).length ≤ 8 := by
  have hlength := congrArg List.length (map_toNat_numberBytes n)
  rw [List.length_map, List.length_reverse] at hlength
  rw [hlength, Nat.digits_length_le_iff (by decide)]
  exact h

theorem writesLength_iff {bytes : List UInt8} {n : Nat} (h : n < 2 ^ 64) :
    WritesLength bytes n ↔ bytes = lengthBytes n := by
  have hcount := length_numberBytes_le_eight h
  constructor
  · rintro (⟨hn, rfl⟩ | ⟨hn, hb, -, hbytes⟩)
    · rw [lengthBytes, if_pos hn, Nat.toUInt8_eq, UInt8.ofNat_toNat]
    · rw [shortest_iff (by decide), ← map_toNat_numberBytes] at hbytes
      obtain rfl := map_toNat_injective hbytes
      rw [lengthBytes, if_neg (Nat.not_lt.mpr hn), ← hb, Nat.toUInt8_eq, UInt8.ofNat_toNat]
  · rintro rfl
    by_cases hn : n < 128
    · rw [lengthBytes, if_pos hn]
      exact .short hn (toNat_toUInt8 (by omega))
    · rw [lengthBytes, if_neg hn]
      exact .long (Nat.not_lt.mp hn) (toNat_toUInt8 (by omega)) (by omega)
        ((shortest_iff (by decide)).mpr (map_toNat_numberBytes n))

/-! ## Elements -/

/-- The distinguished rules: what identifies `e`, the length of its contents, and these. -/
def Distinguished (e : Element) (bytes : List UInt8) : Prop :=
  ∃ identifier length, WritesIdentifier e identifier ∧ WritesLength length e.contents.length ∧
    bytes = identifier ++ length ++ e.contents

/-- The bytes of `encode` are the only ones that follow the rules. -/
theorem distinguished_iff {e : Element} (h : e.contents.length < 2 ^ 64) {bytes : List UInt8} :
    Distinguished e bytes ↔ bytes = e.encode := by
  constructor
  · rintro ⟨identifier, length, hidentifier, hlength, rfl⟩
    rw [writesIdentifier_iff.mp hidentifier, (writesLength_iff h).mp hlength, encode]
  · rintro rfl
    exact ⟨_, _, writesIdentifier_iff.mpr rfl, (writesLength_iff h).mpr rfl, rfl⟩

/-- `number` as the value of digits. -/
theorem number_eq_ofDigits (bs : List UInt8) :
    number bs = Nat.ofDigits 256 (bs.map UInt8.toNat).reverse := by
  induction bs using List.reverseRecOn with
  | nil => rfl
  | append_singleton bs b ih =>
    rw [number, List.foldl_concat, ← number, ih, List.map_append, List.map_singleton,
      List.reverse_concat, Nat.ofDigits_cons, Nat.add_comm]

theorem number_numberBytes (n : Nat) : number (numberBytes n) = n := by
  rw [number_eq_ofDigits, map_toNat_numberBytes, List.reverse_reverse, Nat.ofDigits_digits]

/-- `readLength?` reads lengths back from `lengthBytes`, whatever follows them. -/
theorem readLength?_lengthBytes {n : Nat} (h : n < 2 ^ 64) (bs : List UInt8) :
    readLength? (lengthBytes n ++ bs) = some (n, bs) := by
  have hcount := length_numberBytes_le_eight h
  by_cases hn : n < 128
  · have hbyte := toNat_toUInt8 (n := n) (by omega)
    -- A byte below 128 is the length.
    have hshort : n.toUInt8 < 0x80 := by
      rw [UInt8.lt_iff_toNat_lt, hbyte]
      exact hn
    rw [lengthBytes, if_pos hn, List.singleton_append, readLength?, if_pos hshort, hbyte]
  -- A greater byte counts the ones behind it: at least one, at most eight, and so not the reserved
  -- count.
  · have hpos : 0 < (numberBytes n).length := by
      rw [numberBytes, if_neg (by omega)]
      simp
    have hbyte := toNat_toUInt8 (n := 128 + (numberBytes n).length) (by omega)
    have hlong : ¬(128 + (numberBytes n).length).toUInt8 < 0x80 := by
      rw [UInt8.lt_iff_toNat_lt, hbyte]
      exact Nat.not_lt.mpr (Nat.le_add_right _ _)
    have hlow : ((128 + (numberBytes n).length).toUInt8 &&& 0x7F).toNat =
        (numberBytes n).length := by
      rw [toNat_and_low, hbyte]
      omega
    have hread : ¬((numberBytes n).length = 0 ∨ (numberBytes n).length = 127 ∨
        (numberBytes n ++ bs).length < (numberBytes n).length) := by
      rw [List.length_append]
      omega
    rw [lengthBytes, if_neg hn, List.cons_append, readLength?]
    simp only [if_neg hlong, hlow, if_neg hread, List.take_left, List.drop_left, number_numberBytes]

/-- `read?` reads an element back from its bytes, whatever follows them. -/
theorem read?_encode {e : Element} (h : e.contents.length < 2 ^ 64) (bs : List UInt8) :
    read? (e.encode ++ bs) = some (e, bs) := by
  obtain ⟨b, rest, hbytes, hclass, hconstructed, htag⟩ :=
    e.exists_identifierBytes (lengthBytes e.contents.length ++ (e.contents ++ bs))
  have hbytes : e.encode ++ bs = b :: rest := by
    rw [← hbytes, encode]
    simp only [List.append_assoc]
  have hlength : ¬(e.contents ++ bs).length < e.contents.length := by
    rw [List.length_append]
    omega
  rw [hbytes, read?]
  simp only [htag, readLength?_lengthBytes h, if_neg hlength, hclass, hconstructed, List.take_left,
    List.drop_left]

/-- The bytes of `e` follow the rules (`Distinguished`), as no others do, and are read back as `e`
with nothing left of them, whatever its class, mark, tag number and contents. -/
theorem encode_distinguished {e : Element} (h : e.contents.length < 2 ^ 64) :
    (∀ bytes, Distinguished e bytes ↔ bytes = e.encode) ∧
      ∀ bs, read? (e.encode ++ bs) = some (e, bs) :=
  ⟨fun _ => distinguished_iff h, read?_encode h⟩

/-- An element whose tag number and length take more than one byte each, with zeros inside. -/
def wide : Element := ⟨.contextSpecific, true, 16384, List.replicate 256 7⟩

theorem encode_distinguished_wide :
    wide.contents.length < 2 ^ 64 ∧
      wide.encode = [0xBF, 0x81, 0x80, 0x00, 0x82, 0x01, 0x00] ++ wide.contents ∧
      read? wide.encode = some (wide, []) := by
  have hlength : wide.contents.length = 256 := List.length_replicate
  have h : wide.contents.length < 2 ^ 64 := by
    rw [hlength]
    decide
  obtain ⟨hdistinguished, hread⟩ := encode_distinguished h
  have hrules : Distinguished wide ([0xBF, 0x81, 0x80, 0x00, 0x82, 0x01, 0x00] ++ wide.contents) := by
    refine ⟨[0xBF, 0x81, 0x80, 0x00], [0x82, 0x01, 0x00], ?_, ?_, by rw [List.append_assoc]; rfl⟩
    · exact .long (by decide) rfl ⟨[1, 0], 0, ⟨by decide, by decide, by decide⟩, rfl⟩
    · rw [hlength]
      exact .long (by decide) rfl (by decide) ⟨by decide, by decide, by decide⟩
  refine ⟨h, ((hdistinguished _).mp hrules).symm, ?_⟩
  rw [← List.append_nil wide.encode]
  exact hread []

end ReplicaControl.Certificate.Element
