import Mathlib.Data.List.Induction
import Mathlib.Data.List.TakeWhile
import ReplicaControl.Topology.Build

/-!
# The first two numbers of a version

A number of a version has no leading zero, so that it is printed as it was written. The first two
numbers of a version, printed with a dot between them, are then what the text of the version has
before its second dot, although there may be more dots behind its numbers. By them a process is told
which features it is to be compatible with (specification, section 10.2).

- `Decimal.digits_value`: digits without leading zeros are the digits of their value.
- `Version.toList_of_parse?`: what the text of a version begins with.
- `BeforeSecondDot`: the part of a text before its second dot, as a relation.
- `majorMinor_before_second_dot`: `Version.majorMinor` of any text, whether or not it is a version,
  and the `featureCompatibilityVersion` of a process.
-/

namespace ReplicaControl

/-! ## Numbers -/

/-- Digits without leading zeros are the digits of their value: `digits` undoes `value`. -/
theorem Decimal.digits_value {ds : List Digit} (hne : ds ≠ []) (hzero : ∀ d r, ds ≠ 0 :: d :: r) :
    digits (value ds) = ds := by
  induction ds using List.reverseRecOn with
  | nil => exact absurd rfl hne
  | append_singleton ds d ih =>
    -- `digits` takes the last digit off, so the induction is on the digits from behind.
    rw [value_append_singleton]
    cases ds with
    | nil =>
      rw [digits, dif_pos (by simp [value])]
      simp [value]
    | cons c cs =>
      have hc : c ≠ 0 := by
        rintro rfl
        obtain ⟨d', r, hcons⟩ := List.exists_cons_of_ne_nil (List.concat_ne_nil d cs)
        exact hzero d' r (by rw [List.cons_append, hcons])
      have hdigits : digits (value (c :: cs)) = c :: cs :=
        ih (List.cons_ne_nil c cs) fun d' r heq => hc (List.cons.inj heq).1
      -- The digits so far have a value, so the next one stands behind them.
      have hpos : value (c :: cs) ≠ 0 := by
        intro hvalue
        rw [hvalue, digits, dif_pos (by decide)] at hdigits
        exact hc (List.cons.inj hdigits).1.symm
      have hd := d.isLt
      have hfront : (10 * value (c :: cs) + d.val) / 10 = value (c :: cs) := by omega
      have hlast : (10 * value (c :: cs) + d.val) % 10 = d.val := by omega
      rw [digits, dif_neg (by omega), hfront, hdigits]
      simp only [hlast]

namespace Version

/-- The number that `spanNumber?` reads is printed as it was written: it has no leading zeros. -/
theorem eq_text_of_spanNumber? {cs rest : List Char} {n : UInt64}
    (h : spanNumber? cs = some (n, rest)) : cs = Decimal.text n.toNat ++ rest := by
  have hcs := Decimal.map_toChar_span_append cs
  unfold spanNumber? at h
  generalize Decimal.span cs = parts at h hcs
  split at h
  · cases h
  · cases h
  · rename_i ds left hne hzero
    split at h
    · rename_i hlt
      obtain ⟨rfl, rfl⟩ := Prod.mk.inj (Option.some.inj h)
      have hvalue : (Decimal.value ds).toUInt64.toNat = Decimal.value ds := by
        rw [Nat.toUInt64_eq, UInt64.toNat_ofNat']
        exact Nat.mod_eq_of_lt hlt
      rw [hvalue, Decimal.text, Decimal.digits_value hne hzero]
      exact hcs.symm
    · cases h

theorem eq_cons_of_afterDot? {cs rest : List Char} (h : afterDot? cs = some rest) :
    cs = '.' :: rest := by
  unfold afterDot? at h
  split at h
  · rw [Option.some.inj h]
  · cases h

/-- A version begins with `major` and `minor`, each before a dot. -/
theorem toList_of_parse? {s : String} {v : Version} (h : parse? s = some v) : ∃ rest,
    s.toList =
      Decimal.text v.major.toNat ++ '.' :: (Decimal.text v.minor.toNat ++ '.' :: rest) := by
  simp only [parse?, parseChars?, Option.bind_eq_bind, Option.bind_eq_some_iff] at h
  obtain ⟨⟨major, afterMajor⟩, hmajor, fromMinor, hfirst, ⟨minor, afterMinor⟩, hminor, fromPatch,
    hsecond, ⟨patch, suffix⟩, -, h⟩ := h
  split at h
  · obtain rfl := Option.some.inj h
    have hafterMajor : afterMajor = '.' :: fromMinor := eq_cons_of_afterDot? hfirst
    have hafterMinor : afterMinor = '.' :: fromPatch := eq_cons_of_afterDot? hsecond
    refine ⟨fromPatch, ?_⟩
    rw [eq_text_of_spanNumber? hmajor, hafterMajor, eq_text_of_spanNumber? hminor, hafterMinor]
  · cases h

/-! ## The second dot -/

theorem ne_dot_of_notMem {cs : List Char} (h : '.' ∉ cs) : ∀ c ∈ cs, (c != '.') = true :=
  fun _ hc => bne_iff_ne.mpr fun heq => h (heq ▸ hc)

theorem takeWhile_of_notMem {cs : List Char} (h : '.' ∉ cs) : cs.takeWhile (· != '.') = cs :=
  List.takeWhile_eq_self_iff.mpr (ne_dot_of_notMem h)

theorem beforeSecondDot_of_notMem {cs : List Char} (h : '.' ∉ cs) : beforeSecondDot cs = cs := by
  have hdrop : cs.dropWhile (· != '.') = [] := List.dropWhile_eq_nil_iff.mpr (ne_dot_of_notMem h)
  simp [beforeSecondDot, takeWhile_of_notMem h, hdrop]

theorem beforeSecondDot_append {cs : List Char} (h : '.' ∉ cs) (rest : List Char) :
    beforeSecondDot (cs ++ '.' :: rest) = cs ++ '.' :: rest.takeWhile (· != '.') := by
  have hne := ne_dot_of_notMem h
  simp [beforeSecondDot, List.takeWhile_append_of_pos hne, List.dropWhile_append_of_pos hne]

theorem beforeSecondDot_append_append {cs ds : List Char} (hcs : '.' ∉ cs) (hds : '.' ∉ ds)
    (rest : List Char) :
    beforeSecondDot (cs ++ '.' :: (ds ++ '.' :: rest)) = cs ++ '.' :: ds := by
  rw [beforeSecondDot_append hcs, List.takeWhile_append_of_pos (ne_dot_of_notMem hds)]
  simp

theorem count_dot_append {cs : List Char} (h : '.' ∉ cs) (rest : List Char) :
    (cs ++ '.' :: rest).count '.' = rest.count '.' + 1 := by
  rw [List.count_append, List.count_eq_zero_of_not_mem h, List.count_cons_self, Nat.zero_add]

/-- `beforeSecondDot` cuts a text at its second dot, or not at all if it has none. -/
theorem beforeSecondDot_eq_iff {cs ds : List Char} : beforeSecondDot cs = ds ↔
    (cs.count '.' < 2 ∧ ds = cs) ∨ ∃ rest, cs = ds ++ '.' :: rest ∧ ds.count '.' = 1 := by
  constructor
  · rintro rfl
    -- No dot, one dot, or two and more: each dot parts the text where it first occurs.
    by_cases hfirst : '.' ∈ cs
    · obtain ⟨before, after, rfl, hbefore⟩ := List.eq_append_cons_of_mem hfirst
      by_cases hsecond : '.' ∈ after
      · obtain ⟨between, rest, rfl, hbetween⟩ := List.eq_append_cons_of_mem hsecond
        rw [beforeSecondDot_append_append hbefore hbetween]
        refine .inr ⟨rest, by simp, ?_⟩
        rw [count_dot_append hbefore, List.count_eq_zero_of_not_mem hbetween]
      · rw [beforeSecondDot_append hbefore, takeWhile_of_notMem hsecond, count_dot_append hbefore,
          List.count_eq_zero_of_not_mem hsecond]
        exact .inl ⟨by decide, rfl⟩
    · rw [beforeSecondDot_of_notMem hfirst, List.count_eq_zero_of_not_mem hfirst]
      exact .inl ⟨by decide, rfl⟩
  · rintro (⟨hcount, rfl⟩ | ⟨rest, rfl, hcount⟩)
    · by_cases hfirst : '.' ∈ ds
      · obtain ⟨before, after, rfl, hbefore⟩ := List.eq_append_cons_of_mem hfirst
        rw [count_dot_append hbefore] at hcount
        have hafter : '.' ∉ after := List.count_eq_zero.mp (by omega)
        rw [beforeSecondDot_append hbefore, takeWhile_of_notMem hafter]
      · exact beforeSecondDot_of_notMem hfirst
    -- The one dot of `ds` is the first one, and the dot behind `ds` is the second.
    · have hfirst : '.' ∈ ds := List.count_pos_iff.mp (by omega)
      obtain ⟨before, after, rfl, hbefore⟩ := List.eq_append_cons_of_mem hfirst
      rw [count_dot_append hbefore] at hcount
      have hafter : '.' ∉ after := List.count_eq_zero.mp (by omega)
      rw [List.append_assoc, List.cons_append, beforeSecondDot_append_append hbefore hafter]

theorem dot_notMem_text (n : Nat) : '.' ∉ Decimal.text n := by
  intro h
  have hdigit := Decimal.isSome_ofChar?_of_mem_text h
  exact absurd hdigit (by decide)

/-- `majorMinor` is what stands before the second dot, of a version as of any text. -/
theorem majorMinor_eq (s : String) : majorMinor s = String.ofList (beforeSecondDot s.toList) := by
  unfold majorMinor
  cases hparse : parse? s with
  | none => rfl
  | some v =>
    obtain ⟨rest, hs⟩ := toList_of_parse? hparse
    rw [hs, beforeSecondDot_append_append (dot_notMem_text _) (dot_notMem_text _)]
    simp [Decimal.str, String.append_assoc]

end Version

/-- `t` is what `s` has before its second dot, or all of `s` if there is none. -/
def BeforeSecondDot (s t : String) : Prop :=
  (s.toList.count '.' < 2 ∧ t = s) ∨ ∃ rest, s = t ++ "." ++ rest ∧ t.toList.count '.' = 1

theorem majorMinor_eq_iff {s t : String} : Version.majorMinor s = t ↔ BeforeSecondDot s t := by
  rw [Version.majorMinor_eq, ← String.toList_inj, String.toList_ofList,
    Version.beforeSecondDot_eq_iff, String.toList_inj, BeforeSecondDot]
  refine or_congr_right ⟨?_, ?_⟩
  · rintro ⟨rest, hs, hcount⟩
    refine ⟨String.ofList rest, String.toList_inj.mp ?_, hcount⟩
    simp [hs]
  · rintro ⟨rest, rfl, hcount⟩
    exact ⟨rest.toList, by simp, hcount⟩

theorem Topology.featureCompatibilityVersion_plainProcess (t : Topology) (pod : String) :
    (t.plainProcess pod).featureCompatibilityVersion =
      t.featureCompatibilityVersion.getD (Version.majorMinor t.version) := by
  unfold plainProcess
  cases CacheSize.forVersion? t.version t.memoryLimitBytes <;> rfl

/-- `Version.majorMinor` of any text, be it a version or not, is what the text has before its second
dot. A process is compatible with these features unless the topology says otherwise. -/
theorem majorMinor_before_second_dot :
    (∀ s t : String, Version.majorMinor s = t ↔ BeforeSecondDot s t) ∧
    ∀ (t : Topology) (pod : String), t.featureCompatibilityVersion = none →
      BeforeSecondDot t.version (t.plainProcess pod).featureCompatibilityVersion := by
  refine ⟨fun _ _ => majorMinor_eq_iff, fun t pod h => majorMinor_eq_iff.mp ?_⟩
  rw [t.featureCompatibilityVersion_plainProcess, h, Option.getD_none]

/-- A member that runs a version with dots behind its numbers. -/
def previewed : Topology where
  name := "rs"
  namespaceName := "db"
  members := 1
  version := "6.0.5-rc.1+b.2"

theorem majorMinor_before_second_dot_previewed :
    Version.parse? previewed.version = some ⟨6, 0, 5⟩ ∧
    previewed.featureCompatibilityVersion = none ∧
    (previewed.plainProcess "rs-0").featureCompatibilityVersion = "6.0" ∧
    Version.majorMinor "6.0" = "6.0" ∧ Version.majorMinor "06.1.2.3" = "06.1" := by
  obtain ⟨hiff, hdefault⟩ := majorMinor_before_second_dot
  refine ⟨by decide +kernel, rfl, ?_, ?_, ?_⟩
  · rw [← (hiff _ _).mpr (hdefault previewed "rs-0" rfl)]
    exact (hiff _ _).mpr (.inr ⟨"5-rc.1+b.2", rfl, by decide⟩)
  · exact (hiff _ _).mpr (.inl ⟨by decide, rfl⟩)
  · exact (hiff _ _).mpr (.inr ⟨"2.3", rfl, by decide⟩)

end ReplicaControl
