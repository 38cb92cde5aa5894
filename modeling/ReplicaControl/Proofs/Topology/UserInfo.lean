import Mathlib.Data.List.TakeWhile
import ReplicaControl.Topology.Build

/-!
# Credentials in URIs

A byte inside the user information of a URI is written as one character, or as a percent sign and
two digits. So bytes are read back from what stands for them, and none of the characters that stand
for them ends a part of a URI: the name of a user goes up to the first `:`, and the password up to
the first `@`. The URIs are those of section 10.3 of the specification.

- **Bytes** (`readEscaped?`, `readEscaped?_flatMap_escapeByte`): a reader of its own reads them
  back.
- **Characters** (`isUserInfoChar_of_mem`): which ones stand for a text.
- **URIs** (`readCredentials?`): the name and the password that a URI carries;
  `Topology.readCredentials?_uri` and `Topology.uri_eq_iff` treat both URIs of a user as one shape.
- `Topology.userUris_unambiguous`: credentials are read back from their URIs, which determine them
  and the database.
-/

namespace ReplicaControl

/-! ## Bytes -/

/-- Whether `c` may stand for something inside the user information of a URI. -/
def isUserInfoChar (c : Char) : Bool := c.isAlphanum || ['-', '_', '.', '~', '+', '%'].contains c

/-- The bytes that a text inside the user information of a URI stands for: `%` with two digits
stands for a byte, `+` for a space, and any other character for itself. -/
def readEscaped? : List Char → Option (List UInt8)
  | '%' :: high :: low :: cs => do
    return (16 * (← Text.hexDigit? high) + (← Text.hexDigit? low)).toUInt8 :: (← readEscaped? cs)
  | '%' :: _ => none
  | '+' :: cs => (readEscaped? cs).map (0x20 :: ·)
  | c :: cs => (readEscaped? cs).map (c.toNat.toUInt8 :: ·)
  | [] => some []

theorem readEscaped?_cons {c : Char} (hpercent : c ≠ '%') (hplus : c ≠ '+') (cs : List Char) :
    readEscaped? (c :: cs) = (readEscaped? cs).map (c.toNat.toUInt8 :: ·) := by
  conv => lhs; unfold readEscaped?
  split <;> simp_all

theorem readEscaped?_upperHexByte (b : UInt8) (cs : List Char) :
    readEscaped? ('%' :: (Text.upperHexByte b ++ cs)) = (readEscaped? cs).map (b :: ·) := by
  have hhigh : b.toNat / 16 < 16 := Nat.div_lt_of_lt_mul b.toNat_lt
  have hlow : b.toNat % 16 < 16 := Nat.mod_lt _ (by decide)
  have hbyte : (16 * (b.toNat / 16) + b.toNat % 16).toUInt8 = b := by
    rw [Nat.div_add_mod, Nat.toUInt8_eq, UInt8.ofNat_toNat]
  rw [Text.upperHexByte, List.cons_append, List.singleton_append, readEscaped?,
    Text.hexDigit?_upperHexDigit hhigh, Text.hexDigit?_upperHexDigit hlow]
  simp only [Option.bind_eq_bind, Option.bind_some, hbyte]
  cases readEscaped? cs <;> rfl

/-- `readEscaped?` reads a byte back from its `escapeByte`, whatever follows. -/
theorem readEscaped?_escapeByte (b : UInt8) (cs : List Char) :
    readEscaped? (escapeByte b ++ cs) = (readEscaped? cs).map (b :: ·) := by
  unfold escapeByte
  extract_lets c
  have hb : c.toNat.toUInt8 = b := by
    change b.toUInt32.toNat.toUInt8 = b
    simp
  split
  -- An unreserved character: it is neither of the two marks that the reader treats by themselves.
  · next hc =>
    have hpercent : c ≠ '%' := by
      intro h
      simp [h] at hc
    have hplus : c ≠ '+' := by
      intro h
      simp [h] at hc
    rw [List.singleton_append, readEscaped?_cons hpercent hplus, hb]
  · split
    · next hc =>
      rw [beq_iff_eq] at hc
      rw [List.singleton_append, readEscaped?, ← hb, hc]
      rfl
    · exact readEscaped?_upperHexByte b cs

/-- `readEscaped?` reads bytes back from what stands for them. -/
theorem readEscaped?_flatMap_escapeByte (bs : List UInt8) :
    readEscaped? (bs.flatMap escapeByte) = some bs := by
  induction bs with
  | nil => rfl
  | cons b bs ih => simp [readEscaped?_escapeByte, ih]

theorem isAlphanum_upperHexDigit {n : Nat} (h : n < 16) :
    (Text.upperHexDigit n).isAlphanum = true := by
  revert n
  decide

/-- The characters of `escapeByte` are those of a user or a password in a URI. -/
theorem isUserInfoChar_of_mem_escapeByte {b : UInt8} {c : Char} (h : c ∈ escapeByte b) :
    isUserInfoChar c = true := by
  have hb := b.toNat_lt
  unfold escapeByte at h
  extract_lets c' at h
  split at h
  · next hc =>
    obtain rfl := List.mem_singleton.mp h
    simp only [Bool.or_eq_true, beq_iff_eq] at hc
    rcases hc with (((hc | hc) | hc) | hc) | hc <;> simp [isUserInfoChar, hc]
  · split at h
    · obtain rfl := List.mem_singleton.mp h
      decide
    -- `%` and the two digits behind it.
    · simp only [Text.upperHexByte, List.mem_cons, List.not_mem_nil, or_false] at h
      rcases h with rfl | rfl | rfl
      · decide
      · simp [isUserInfoChar, isAlphanum_upperHexDigit (show b.toNat / 16 < 16 by omega)]
      · simp [isUserInfoChar, isAlphanum_upperHexDigit (show b.toNat % 16 < 16 by omega)]

/-! ## Texts -/

/-- The text that `cs`, inside the user information of a URI, stands for. -/
def unescapeUserInfo? (cs : List Char) : Option String := (readEscaped? cs).bind Text.ofUtf8?

/-- `unescapeUserInfo?` undoes `escapeUserInfo`. -/
@[simp] theorem unescapeUserInfo?_escapeUserInfo (s : String) :
    unescapeUserInfo? (escapeUserInfo s).toList = some s := by
  simp [unescapeUserInfo?, escapeUserInfo, readEscaped?_flatMap_escapeByte]

example : escapeUserInfo "Zoë:p@ss word" = "Zo%C3%AB%3Ap%40ss+word" := by decide

theorem escapeUserInfo_injective : Function.Injective escapeUserInfo := by
  intro s s' h
  have hread := unescapeUserInfo?_escapeUserInfo s
  rw [h, unescapeUserInfo?_escapeUserInfo] at hread
  exact (Option.some.inj hread).symm

/-- The characters of `escapeUserInfo` are those of a user or a password in a URI. -/
theorem isUserInfoChar_of_mem {s : String} {c : Char} (h : c ∈ (escapeUserInfo s).toList) :
    isUserInfoChar c = true := by
  rw [escapeUserInfo, String.toList_ofList] at h
  obtain ⟨b, -, hb⟩ := List.mem_flatMap.mp h
  exact isUserInfoChar_of_mem_escapeByte hb

/-- `escapeUserInfo` has no character that ends a part of a URI. -/
theorem notMem_escapeUserInfo {c : Char} (h : isUserInfoChar c = false) (s : String) :
    c ∉ (escapeUserInfo s).toList := fun hc =>
  Bool.eq_false_iff.mp h (isUserInfoChar_of_mem hc)

/-! ## URIs -/

/-- What stands before the first `mark` of a text, and what stands behind it. -/
def cutAt (mark : Char) (cs : List Char) : List Char × List Char :=
  (cs.takeWhile (· != mark), (cs.dropWhile (· != mark)).drop 1)

theorem cutAt_append_cons {mark : Char} {cs : List Char} (h : mark ∉ cs) (rest : List Char) :
    cutAt mark (cs ++ mark :: rest) = (cs, rest) := by
  have hcs : ∀ c ∈ cs, (c != mark) = true := by
    intro c hc
    simpa using ne_of_mem_of_not_mem hc h
  simp [cutAt, List.takeWhile_append_of_pos hcs, List.dropWhile_append_of_pos hcs]

/-- The name and the password that a URI carries, and what follows them: behind the scheme and two
slashes, the name goes up to the first `:` and the password up to the first `@`. -/
def readCredentials? (uri : String) : Option (String × String × List Char) := do
  let (info, rest) := cutAt '@' ((cutAt '/' uri.toList).2.drop 1)
  let (username, password) := cutAt ':' info
  return (← unescapeUserInfo? username, ← unescapeUserInfo? password, rest)

/-- Credentials are read back from behind a scheme and `//`. -/
theorem readCredentials?_append {scheme : String} (hscheme : '/' ∉ scheme.toList)
    (username password rest : String) :
    readCredentials? (scheme ++ "//" ++ Topology.userInfo username password ++ rest) =
      some (username, password, rest.toList) := by
  have hcolon := notMem_escapeUserInfo (c := ':') (by decide) username
  -- The first `@` stands behind the user information, as nothing in it may be one.
  have hat : '@' ∉ (escapeUserInfo username).toList ++ ':' :: (escapeUserInfo password).toList := by
    have hnot := notMem_escapeUserInfo (c := '@') (by decide)
    simp [hnot]
  have huri : (scheme ++ "//" ++ Topology.userInfo username password ++ rest).toList =
      scheme.toList ++ '/' :: '/' ::
        (((escapeUserInfo username).toList ++ ':' :: (escapeUserInfo password).toList) ++
          '@' :: rest.toList) := by
    simp [Topology.userInfo]
  rw [readCredentials?, huri, cutAt_append_cons hscheme, List.drop_one, List.tail_cons,
    cutAt_append_cons hat]
  simp only [cutAt_append_cons hcolon]
  simp

namespace Topology

variable (t : Topology)

/-- `readCredentials?` reads the user and the password back from a URI of this shape. Both URIs of a
user have it, with a `scheme` and `hosts` of their own. -/
theorem readCredentials?_uri {scheme opening : String} (hopening : scheme ++ "//" = opening)
    (hscheme : '/' ∉ scheme.toList) (hosts username password database : String) :
    readCredentials? (opening ++ userInfo username password ++ hosts ++ t.userSuffix database) =
      some (username, password, (hosts ++ t.userSuffix database).toList) := by
  rw [← hopening, String.append_assoc, readCredentials?_append hscheme]

theorem userSuffix_injective : Function.Injective t.userSuffix := by
  intro database database' h
  have hlist := congrArg String.toList h
  simp only [userSuffix, String.toList_append, List.append_assoc] at hlist
  exact String.toList_injective (List.append_cancel_right (List.append_cancel_left hlist))

/-- A URI of this shape, the `hosts` of which are known, determines the credentials and the
database. -/
theorem uri_eq_iff {scheme opening hosts : String} (hopening : scheme ++ "//" = opening)
    (hscheme : '/' ∉ scheme.toList)
    {username password database username' password' database' : String} :
    opening ++ userInfo username password ++ hosts ++ t.userSuffix database =
        opening ++ userInfo username' password' ++ hosts ++ t.userSuffix database' ↔
      (username, password, database) = (username', password', database') := by
  refine ⟨fun h => ?_, fun h => by cases h; rfl⟩
  have hread := t.readCredentials?_uri hopening hscheme hosts username password database
  rw [h, t.readCredentials?_uri hopening hscheme] at hread
  simp only [Option.some.injEq, Prod.mk.injEq] at hread ⊢
  obtain ⟨husername, hpassword, hrest⟩ := hread
  have hsuffix := (String.append_right_inj hosts).mp (String.toList_injective hrest)
  exact ⟨husername.symm, hpassword.symm, t.userSuffix_injective hsuffix.symm⟩

/-- The name and the password of a user are read back from both URIs of the user: nothing in them
ends the user information early, since only characters of `isUserInfoChar` stand for them. So users
and databases with the same URI are the same, and so are texts that the same characters stand for.
-/
theorem userUris_unambiguous (t : Topology) :
    (∀ username password database,
      readCredentials? (t.userUri username password database) =
        some (username, password, (t.hostList ++ t.userSuffix database).toList) ∧
      readCredentials? (t.userSrvUri username password database) =
        some (username, password, (t.serviceHost ++ t.userSuffix database).toList)) ∧
    (∀ username password database username' password' database',
      (t.userUri username password database = t.userUri username' password' database' ↔
        (username, password, database) = (username', password', database')) ∧
      (t.userSrvUri username password database = t.userSrvUri username' password' database' ↔
        (username, password, database) = (username', password', database'))) ∧
    Function.Injective escapeUserInfo ∧
    ∀ s, ∀ c ∈ (escapeUserInfo s).toList, isUserInfoChar c = true := by
  have hplain : "mongodb:" ++ "//" = "mongodb://" := by decide
  have hsrv : "mongodb+srv:" ++ "//" = "mongodb+srv://" := by decide
  have hplainScheme : '/' ∉ "mongodb:".toList := by decide
  have hsrvScheme : '/' ∉ "mongodb+srv:".toList := by decide
  refine ⟨fun _ _ _ => ⟨?_, ?_⟩, fun _ _ _ _ _ _ => ⟨?_, ?_⟩, escapeUserInfo_injective,
    fun s c => isUserInfoChar_of_mem⟩
  · exact t.readCredentials?_uri hplain hplainScheme t.hostList ..
  · exact t.readCredentials?_uri hsrv hsrvScheme t.serviceHost ..
  · exact t.uri_eq_iff hplain hplainScheme
  · exact t.uri_eq_iff hsrv hsrvScheme

/-- A colon may stand in a name or begin a password. -/
theorem userUris_unambiguous_colon :
    let t : Topology := { name := "rs", namespaceName := "db", members := 3, version := "6.0.5" }
    t.userUri "ann:" "x" "admin" ≠ t.userUri "ann" ":x" "admin" ∧
      escapeUserInfo "ann:" ≠ escapeUserInfo "ann%3A" ∧ isUserInfoChar '%' = true := by
  intro t
  obtain ⟨-, huris, hescape, hchars⟩ := userUris_unambiguous t
  have hpercent : '%' ∈ (escapeUserInfo "ann:").toList := by decide
  exact ⟨fun h => absurd ((huris ..).1.mp h) (by decide), fun h => absurd (hescape h) (by decide),
    hchars "ann:" '%' hpercent⟩

end Topology

end ReplicaControl
