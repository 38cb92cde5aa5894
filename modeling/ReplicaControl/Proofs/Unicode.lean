import Mathlib.Data.List.Basic
import Mathlib.Data.List.Find
import ReplicaControl.Unicode.Preparation

/-!
# Tables on ASCII

What the tables of characters say of the 128 code points of ASCII is computed once for each table.
A text literal is slow to take apart, so a table is first given by the characters of its lines
(`Spelled`), which unification reads off the literals.

- `CodeRanges.containsCode_of_spelled`, `CodeMap.find?_of_spelled`: a table looked up at every code
  point of ASCII.
- `isAlphanum_of_isAlphanumeric`: the letters and numbers of ASCII, which `isAlphanumeric` finds.
- `nfkc_of_ascii`: normalization leaves ASCII as it is.
- `prepare_of_ascii`: an ASCII text is prepared already, or its first control character is its
  fault.
-/

namespace ReplicaControl.Unicode

/-! ## Lines by their characters -/

/-- `Spelled lines css` says that `css` are the characters of `lines`. -/
inductive Spelled : List String → List (List Char) → Prop where
  | nil : Spelled [] []
  | cons (cs : List Char) {lines : List String} {css : List (List Char)} (h : Spelled lines css) :
    Spelled (String.ofList cs :: lines) (cs :: css)

section Spelled

variable {lines : List String} {css : List (List Char)}

theorem Spelled.eq_map (h : Spelled lines css) : css = lines.map String.toList := by
  induction h with
  | nil => rfl
  | cons cs _ ih => rw [ih, List.map_cons, String.toList_ofList]

/-- A Boolean of the code points of ASCII that `List.range` finds true holds of each of them. -/
theorem of_all_range {p : Nat → Bool} (h : (List.range 128).all p = true) {n : Nat} (hn : n < 128) :
    p n = true :=
  List.all_eq_true.mp h n (List.mem_range.mpr hn)

/-- The table that `CodeRanges.ofLines` reads from lines, given by their characters. -/
def CodeRanges.ofChars (css : List (List Char)) : CodeRanges :=
  ⟨(css.flatMap fun cs => (words cs).map ofWord).toArray⟩

/-- The table that `CodeMap.ofLines` reads from lines, given by their characters. -/
def CodeMap.ofChars (css : List (List Char)) : CodeMap :=
  let entries := css.flatMap fun cs => (words cs).map entry
  ⟨⟨(entries.map (·.1)).toArray⟩, (entries.map (·.2)).toArray⟩

theorem CodeRanges.containsCode_of_spelled {p : Nat → Bool} (hs : Spelled lines css)
    (h : ((List.range 128).all fun n => (ofChars css).containsCode n == p n) = true) {n : Nat}
    (hn : n < 128) : (ofLines lines).containsCode n = p n := by
  have hchars : ofLines lines = ofChars css := by rw [hs.eq_map, ofChars, List.flatMap_map, ofLines]
  rw [hchars]
  exact beq_iff_eq.mp (of_all_range h hn)

theorem CodeMap.find?_of_spelled {p : Option (Nat × List Nat) → Bool} (hs : Spelled lines css)
    (h : ((List.range 128).all fun n => p ((ofChars css).find? n)) = true) {n : Nat} (hn : n < 128) :
    p ((ofLines lines).find? n) = true := by
  have hchars : ofLines lines = ofChars css := by rw [hs.eq_map, ofChars, List.flatMap_map, ofLines]
  rw [hchars]
  exact of_all_range h hn

end Spelled

/-! ## Letters and numbers -/

/-- Whether `n` is a letter or a digit of ASCII. -/
def isAsciiAlphanum (n : Nat) : Bool :=
  (48 ≤ n && n ≤ 57) || (65 ≤ n && n ≤ 90) || (97 ≤ n && n ≤ 122)

theorem containsCode_alphanumeric {n : Nat} (hn : n < 128) :
    alphanumeric.containsCode n = isAsciiAlphanum n := by
  unfold alphanumeric
  apply CodeRanges.containsCode_of_spelled _ _ hn
  rotate_left
  · repeat apply Spelled.cons
    exact .nil
  · decide +kernel

theorem isAlphanum_of_isAlphanumeric {c : Char} (hascii : c.toNat < 128)
    (h : isAlphanumeric c = true) : c.isAlphanum = true := by
  have hplace : isAsciiAlphanum c.toNat = true := (containsCode_alphanumeric hascii).symm.trans h
  have hall : ∀ n < 128, isAsciiAlphanum n = true → (Char.ofNat n).isAlphanum = true := by decide
  have hc := hall c.toNat hascii hplace
  rwa [Char.ofNat_toNat] at hc

/-! ## Normalization -/

theorem decomposeCode_of_ascii {n : Nat} (hn : n < 128) : decomposeCode n = [n] := by
  have hnone : (decompositions.find? n).isNone = true := by
    unfold decompositions
    apply CodeMap.find?_of_spelled _ _ hn
    rotate_left
    · repeat apply Spelled.cons
      exact .nil
    · decide +kernel
  rw [decomposeCode, if_neg (by unfold hangulBase; omega), Option.isNone_iff_eq_none.mp hnone]

/-- Everything of ASCII is a starter, of class `0`. -/
theorem combiningClass_of_ascii {n : Nat} (hn : n < 128) : combiningClass n = 0 := by
  have hnone : (combiningClasses.find? n).isNone = true := by
    unfold combiningClasses
    apply CodeMap.find?_of_spelled _ _ hn
    rotate_left
    · repeat apply Spelled.cons
      exact .nil
    · decide +kernel
  exact CodeMap.number_of_find?_eq_none (Option.isNone_iff_eq_none.mp hnone)

/-- The pairs that begin with a character of ASCII have their second characters beyond it. -/
def pairsBeyondAscii : List Nat → Bool
  | m :: _ :: rest => 128 ≤ m && pairsBeyondAscii rest
  | _ => true

theorem pairLookup_eq_none {second : Nat} (hsecond : second < 128) {pairs : List Nat}
    (h : pairsBeyondAscii pairs = true) : pairLookup second pairs = none := by
  fun_induction pairsBeyondAscii pairs with
  | case1 m joined rest ih =>
    rw [Bool.and_eq_true, decide_eq_true_eq] at h
    rw [pairLookup, if_neg (by omega), ih h.2]
  | case2 pairs hpairs => exact pairLookup.eq_2 second pairs hpairs

theorem composePair?_of_ascii {first second : Nat} (hfirst : first < 128) (hsecond : second < 128) :
    composePair? first second = none := by
  have hbeyond : ((compositions.find? first).all fun found => pairsBeyondAscii found.2) = true := by
    unfold compositions
    apply CodeMap.find?_of_spelled (p := fun o => o.all fun found => pairsBeyondAscii found.2)
      _ _ hfirst
    rotate_left
    · repeat apply Spelled.cons
      exact .nil
    · decide +kernel
  rw [composePair?, if_neg (by omega), if_neg (by unfold hangulBase; omega)]
  cases hfound : compositions.find? first with
  | none => rfl
  | some found =>
    rw [hfound] at hbeyond
    exact pairLookup_eq_none hsecond hbeyond

/-- Starters that make no pairs are left as they stand. -/
theorem composeFrom_of_ascii {starter : Nat} (hstarter : starter < 128) {ns : List Nat}
    (hns : ∀ n ∈ ns, n < 128) : composeFrom starter [] 0 ns = starter :: ns := by
  induction ns generalizing starter with
  | nil => rfl
  | cons n ns ih =>
    obtain ⟨hn, hns⟩ := List.forall_mem_cons.mp hns
    rw [composeFrom, combiningClass_of_ascii hn, composePair?_of_ascii hstarter hn, ih hn hns]
    rfl

theorem decompose_of_ascii {ns : List Nat} (h : ∀ n ∈ ns, n < 128) : decompose ns = ns := by
  induction ns with
  | nil => rfl
  | cons n ns ih =>
    obtain ⟨hn, hns⟩ := List.forall_mem_cons.mp h
    rw [decompose, List.flatMap_cons, decomposeCode_of_ascii hn, ← decompose, ih hns]
    rfl

/-- `order` puts a starter before what has been read, which stands in reverse. -/
theorem order_of_ascii {ns : List Nat} (h : ∀ n ∈ ns, n < 128) : order ns = ns := by
  have hstarters : order ns = (ns.foldl (fun before n => n :: before) []).reverse := by
    refine congrArg List.reverse (List.foldl_ext _ _ [] fun before n hn => ?_)
    simp only [combiningClass_of_ascii (h n hn)]
  rw [hstarters]
  simp

/-- Normalization leaves ASCII as it is: `decompose`, `order` and `compose` do one after the other.
-/
theorem nfkc_of_ascii {cs : List Char} (h : ∀ c ∈ cs, c.toNat < 128) : nfkc cs = cs := by
  have hns : ∀ n ∈ cs.map Char.toNat, n < 128 := List.forall_mem_map.mpr h
  have hback : (cs.map Char.toNat).map Char.ofNat = cs := by simp [Function.comp_def]
  suffices hcodes : compose (order (decompose (cs.map Char.toNat))) = cs.map Char.toNat by
    rw [nfkc, hcodes, hback]
  generalize cs.map Char.toNat = ns at hns
  rw [decompose_of_ascii hns, order_of_ascii hns]
  cases ns with
  | nil => rfl
  | cons n ns =>
    obtain ⟨hn, hns⟩ := List.forall_mem_cons.mp hns
    rw [compose, if_pos (combiningClass_of_ascii hn), composeFrom_of_ascii hn hns]

/-! ## Preparation -/

/-- The control characters of ASCII are `prohibited`, and no others of its characters are. -/
theorem containsCode_prohibited {n : Nat} (hn : n < 128) :
    prohibited.containsCode n = !(0x20 ≤ n && n < 0x7F) := by
  unfold prohibited
  apply CodeRanges.containsCode_of_spelled (p := fun n => !(0x20 ≤ n && n < 0x7F)) _ _ hn
  rotate_left
  · repeat apply Spelled.cons
    exact .nil
  · decide +kernel

theorem mapped_of_ascii {cs : List Char} (h : ∀ c ∈ cs, c.toNat < 128) : mapped cs = cs := by
  have hspace : ∀ c ∈ cs, (if isOtherSpace c then ' ' else c) = c := by
    intro c hc
    have hlt := h c hc
    rw [if_neg]
    simp only [isOtherSpace, Bool.or_eq_true, Bool.and_eq_true, beq_iff_eq, decide_eq_true_eq]
    omega
  have hdropped : ∀ c ∈ cs, (!isDropped c) = true := by
    intro c hc
    have hlt := h c hc
    simp only [isDropped, Bool.not_eq_true', Bool.or_eq_false_iff, Bool.and_eq_false_imp,
      beq_eq_false_iff_ne, decide_eq_true_eq, decide_eq_false_iff_not]
    omega
  rw [mapped, List.map_congr_left hspace, List.map_id', List.filter_eq_self.mpr hdropped]

/-- An ASCII text is prepared already, unless it holds a control character: the first one is its
fault. -/
theorem prepare_of_ascii {s : String} (h : ∀ c ∈ s.toList, c.toNat < 128) :
    prepare s =
      match s.toList.find? (!isPlain ·) with
      | some c => .error (.prohibited c)
      | none => .ok s := by
  have hprohibited : s.toList.find? prohibited.contains = s.toList.find? (!isPlain ·) :=
    List.find?_congr fun c hc => containsCode_prohibited (h c hc)
  rw [prepare]
  split
  · next hplain =>
    have hnone : s.toList.find? (!isPlain ·) = none := by
      simpa using hplain
    rw [hnone]
  · next hplain =>
    obtain ⟨c, hc⟩ : ∃ c, s.toList.find? (!isPlain ·) = some c := by
      rw [← Option.isSome_iff_exists, List.find?_isSome]
      simpa using hplain
    simp only [mapped_of_ascii h, nfkc_of_ascii h, fault?, hprohibited, hc]

end ReplicaControl.Unicode
