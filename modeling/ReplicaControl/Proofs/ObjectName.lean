import Mathlib.Data.List.DropRight
import ReplicaControl.Cluster.ConnectionStrings

/-!
# Names that are made for objects

`ObjectName.normalize` cuts a name to the greatest length after the hyphens at its ends are taken
off, so the cut may leave a hyphen at its end. Such a name is none that the cluster takes, and
making a name from it takes the hyphen off. Every other name that is made from a text beginning with
a plain character is one that the cluster takes, and stays as it is. Section 10.3 of the
specification asks for a valid name of every secret with connection strings.

- `CutBehindHyphen`: the cut leaves a hyphen at the end.
- `isValid_normalize_iff`, `normalize_normalize_iff`: when a made name is taken, and when it stays.
- `ofConnection_usable_iff`: the same for the names of secrets with connection strings.
- `ofConnection_cut`: a name that the cluster does not take.
-/

namespace ReplicaControl.ObjectName

variable {text : String} {cs : List Char} {c : Char}

/-! ## Characters -/

/-- Whether `c` is a character of labels. -/
def isInner (c : Char) : Bool := isPlain c || c == '-'

/-- The characters of labels but `-` are plain. -/
theorem isPlain_iff_ne_hyphen (h : isInner c = true) : isPlain c = true ↔ c ≠ '-' := by
  constructor
  · rintro hc rfl
    exact absurd hc (by decide)
  · intro hc
    simpa [isInner, hc] using h

/-- Characters of names are in lower case, so `lowered` leaves them. -/
theorem lowered_eq_self (h : isInner c = true ∨ c = '.') : lowered c = [c] := by
  have hrange : c.toNat < 128 ∧ ¬(65 ≤ c.toNat ∧ c.toNat ≤ 90) := by
    simp only [isInner, isPlain, Bool.or_eq_true, beq_iff_eq] at h
    rcases h with ((h | h) | rfl) | rfl
    · obtain ⟨hfirst, hlast⟩ := Bool.and_eq_true_iff.mp h
      have hfirst : 97 ≤ c.toNat := of_decide_eq_true hfirst
      have hlast : c.toNat ≤ 122 := of_decide_eq_true hlast
      omega
    · obtain ⟨-, hlast⟩ := Bool.and_eq_true_iff.mp h
      have hlast : c.toNat ≤ 57 := of_decide_eq_true hlast
      omega
    · decide
    · decide
  -- The two characters that `lowered` treats by themselves lie beyond ASCII.
  have hkelvin : c ≠ '\u212A' := by
    rintro rfl
    exact absurd hrange.1 (by decide)
  have hdotted : c ≠ '\u0130' := by
    rintro rfl
    exact absurd hrange.1 (by decide)
  have hlower : c.toLower = c := dif_neg hrange.2
  rw [lowered, if_neg hkelvin, if_neg hdotted, hlower]

theorem isInner_of_mem_hyphenate {inRun : Bool} (h : c ∈ hyphenate inRun cs) : isInner c = true := by
  induction cs generalizing inRun with
  | nil => cases h
  | cons d ds ih =>
    rw [hyphenate] at h
    split at h
    · next hd =>
      rcases List.mem_cons.mp h with rfl | h
      · rw [isInner, hd, Bool.true_or]
      · exact ih h
    · split at h
      · exact ih h
      · rcases List.mem_cons.mp h with rfl | h
        · rfl
        · exact ih h

theorem length_hyphenate_le (inRun : Bool) (cs : List Char) :
    (hyphenate inRun cs).length ≤ cs.length := by
  induction cs generalizing inRun with
  | nil => exact Nat.le_refl _
  | cons d ds ih =>
    rw [hyphenate]
    split
    · exact Nat.succ_le_succ (ih false)
    · split
      · exact Nat.le_succ_of_le (ih true)
      · exact Nat.succ_le_succ (ih true)

/-! ## Labels -/

/-- Characters without a dot are one of `labels`. -/
theorem labels_of_notMem (h : '.' ∉ cs) : labels cs = [cs] := by
  induction cs with
  | nil => rfl
  | cons d ds ih =>
    obtain ⟨hd, hds⟩ := List.ne_and_not_mem_of_not_mem_cons h
    rw [labels, if_neg hd.symm, ih hds]

/-- Every character but the dots is one of `labels`. -/
theorem exists_mem_labels (h : c ∈ cs) : c = '.' ∨ ∃ label ∈ labels cs, c ∈ label := by
  induction cs with
  | nil => cases h
  | cons d ds ih =>
    rw [labels]
    split
    · next hd =>
      rcases List.mem_cons.mp h with rfl | h
      · exact .inl hd
      · exact (ih h).imp_right fun ⟨label, hlabel, hc⟩ => ⟨label, .tail _ hlabel, hc⟩
    -- `labels` puts `d` before the first label of the rest, which need not be the one that holds
    -- `c`.
    · cases hlabels : labels ds with
      | nil =>
        rw [hlabels] at ih
        rcases List.mem_cons.mp h with rfl | h
        · exact .inr ⟨_, .head _, .head _⟩
        · exact (ih h).imp_right fun ⟨label, hlabel, _⟩ => nomatch hlabel
      | cons first others =>
        rw [hlabels] at ih
        rcases List.mem_cons.mp h with rfl | h
        · exact .inr ⟨_, .head _, .head _⟩
        · refine (ih h).imp_right fun ⟨label, hlabel, hc⟩ => ?_
          rcases List.mem_cons.mp hlabel with rfl | hlabel
          · exact ⟨_, .head _, .tail _ hc⟩
          · exact ⟨label, .tail _ hlabel, hc⟩

theorem isLabel_iff : isLabel cs = true ↔
    cs.head?.any isPlain ∧ cs.getLast?.any isPlain ∧ ∀ c ∈ cs, isInner c = true := by
  simp [isLabel, isInner, and_assoc]

theorem isValid_iff : isValid text = true ↔
    text.length ≤ maxLength ∧ ∀ label ∈ labels text.toList, isLabel label = true := by
  simp [isValid]

/-- A text that `isValid` begins with a plain character. -/
theorem exists_cons_of_isValid (h : isValid text = true) :
    ∃ c cs, text.toList = c :: cs ∧ isPlain c = true := by
  obtain ⟨-, hlabels⟩ := isValid_iff.mp h
  cases htext : text.toList with
  | nil => exact absurd (hlabels [] (by rw [htext]; exact .head _)) (by decide)
  | cons c cs =>
    rw [htext, labels] at hlabels
    split at hlabels
    · exact absurd (hlabels [] (.head _)) (by decide)
    · refine ⟨c, cs, rfl, ?_⟩
      split at hlabels
      · exact (isLabel_iff.mp (hlabels _ (.head _))).1
      · exact (isLabel_iff.mp (hlabels _ (.head _))).1

/-- The characters of a text that `isValid`: those of labels, and dots. -/
theorem isInner_of_isValid (h : isValid text = true) (hc : c ∈ text.toList) :
    isInner c = true ∨ c = '.' := by
  rcases exists_mem_labels hc with hdot | ⟨label, hlabel, hc⟩
  · exact .inr hdot
  · exact .inl ((isLabel_iff.mp ((isValid_iff.mp h).2 label hlabel)).2.2 c hc)

/-! ## Names before they are cut -/

/-- The characters of the name that is made from `text`, before they are cut. -/
def uncut (text : String) : List Char := trimHyphens (hyphenate false (text.toList.flatMap lowered))

theorem normalize_of_isValid (h : isValid text = true) : normalize text = text := by
  rw [normalize, if_pos h]

theorem toList_normalize (h : isValid text = false) :
    (normalize text).toList = (uncut text).take maxLength := by
  rw [normalize, if_neg (by rw [h]; decide), String.toList_ofList]
  rfl

theorem isInner_of_mem_uncut (h : c ∈ uncut text) : isInner c = true :=
  isInner_of_mem_hyphenate ((List.dropWhile_suffix _).subset
    ((List.rdropWhile_prefix (· == '-') _).subset h))

/-- `uncut` has no hyphen at its end, before it is cut. -/
theorem getLast?_uncut (text : String) : (uncut text).getLast? ≠ some '-' := by
  intro h
  have hne : uncut text ≠ [] := by
    intro hnil
    rw [hnil] at h
    cases h
  rw [List.getLast?_eq_some_getLast hne, Option.some.injEq] at h
  exact List.rdropWhile_last_not (· == '-') _ hne (beq_iff_eq.mpr h)

/-- A name is no longer than `text`, if that has the characters of a name. -/
theorem length_uncut_le (h : ∀ c ∈ text.toList, isInner c = true ∨ c = '.') :
    (uncut text).length ≤ text.length := by
  have hlowered : text.toList.flatMap lowered = text.toList :=
    (List.flatMap_congr fun c hc => lowered_eq_self (h c hc)).trans (List.flatMap_singleton' _)
  calc (uncut text).length
      ≤ (hyphenate false (text.toList.flatMap lowered)).length :=
        (List.rdropWhile_prefix (· == '-') _).length_le.trans (List.dropWhile_suffix _).length_le
    _ ≤ (text.toList.flatMap lowered).length := length_hyphenate_le _ _
    _ = text.length := by rw [hlowered, String.length_toList]

/-- `uncut` keeps the plain character that the text begins with. -/
theorem head?_uncut (htext : text.toList = c :: cs) (hc : isPlain c = true) :
    (uncut text).head? = some c := by
  have hhyphen : (c == '-') = false := by
    by_contra h
    rw [Bool.not_eq_false, beq_iff_eq] at h
    rw [h] at hc
    exact absurd hc (by decide)
  -- Nothing is trimmed at the front, as `c` is no hyphen; what is trimmed behind leaves a prefix.
  have huncut : uncut text =
      (c :: hyphenate false (cs.flatMap lowered)).rdropWhile (· == '-') := by
    have hlowered : lowered c = [c] := lowered_eq_self (.inl (by rw [isInner, hc, Bool.true_or]))
    have hbegun : hyphenate false (text.toList.flatMap lowered) =
        c :: hyphenate false (cs.flatMap lowered) := by
      rw [htext, List.flatMap_cons, hlowered, List.singleton_append, hyphenate, if_pos hc]
    rw [uncut, trimHyphens, hbegun, List.dropWhile_cons_of_neg (by rw [hhyphen]; decide)]
    rfl
  have hprefix := List.rdropWhile_prefix (· == '-') (c :: hyphenate false (cs.flatMap lowered))
  rw [← huncut] at hprefix
  cases hname : uncut text with
  | nil =>
    rw [hname, eq_comm, List.rdropWhile_eq_nil_iff] at huncut
    exact absurd (huncut c (.head _)) (by rw [hhyphen]; decide)
  | cons d ds =>
    rw [hname] at hprefix
    rw [(List.cons_prefix_cons.mp hprefix).1, List.head?_cons]

/-! ## Where names are cut -/

/-- The cut leaves a hyphen at the end of the name that is made from `text`. -/
def CutBehindHyphen (text : String) : Prop := (uncut text)[maxLength - 1]? = some '-'

instance (text : String) : Decidable (CutBehindHyphen text) :=
  inferInstanceAs (Decidable ((uncut text)[maxLength - 1]? = some '-'))

/-- The cut takes something off a name where it leaves a hyphen, as `uncut` does not end with one.
-/
theorem CutBehindHyphen.lt_length (h : CutBehindHyphen text) : maxLength < (uncut text).length := by
  by_contra hle
  obtain ⟨hlt, -⟩ := List.getElem?_eq_some_iff.mp h
  have hlength : (uncut text).length = maxLength := by
    simp only [maxLength] at hlt hle ⊢
    omega
  refine getLast?_uncut text ?_
  rw [List.getLast?_eq_getElem?, hlength]
  exact h

/-- What a cut behind a hyphen leaves ends with it. -/
theorem CutBehindHyphen.getLast?_take (h : CutBehindHyphen text) :
    ((uncut text).take maxLength).getLast? = some '-' := by
  rw [List.getLast?_take, if_neg (by decide), h, Option.some_or]

/-- What is left of a name ends with a plain character unless `CutBehindHyphen`. -/
theorem any_isPlain_getLast?_take_iff (hne : uncut text ≠ []) :
    ((uncut text).take maxLength).getLast?.any isPlain = true ↔ ¬CutBehindHyphen text := by
  rw [List.getLast?_take, if_neg (by decide), CutBehindHyphen]
  cases hcut : (uncut text)[maxLength - 1]? with
  | some d =>
    have hd := isPlain_iff_ne_hyphen (isInner_of_mem_uncut (List.mem_of_getElem? hcut))
    simpa using hd
  | none =>
    have hlast := List.getLast?_eq_some_getLast hne
    have hd := isPlain_iff_ne_hyphen (isInner_of_mem_uncut (List.mem_of_getLast? hlast))
    have hhyphen : (uncut text).getLast hne ≠ '-' := fun h => getLast?_uncut text (h ▸ hlast)
    rw [Option.none_or, hlast, Option.any_some]
    exact iff_of_true (hd.mpr hhyphen) nofun

/-- What is left of a name that begins with a plain character is a name, unless `CutBehindHyphen`.
-/
theorem isValid_take_iff (htext : text.toList = c :: cs) (hc : isPlain c = true) :
    isValid (String.ofList ((uncut text).take maxLength)) = true ↔ ¬CutBehindHyphen text := by
  have hhead := head?_uncut htext hc
  have hinner : ∀ d ∈ (uncut text).take maxLength, isInner d = true := fun d hd =>
    isInner_of_mem_uncut (List.mem_of_mem_take hd)
  have hdot : '.' ∉ (uncut text).take maxLength := fun h => absurd (hinner _ h) (by decide)
  have hne : uncut text ≠ [] := by
    intro hnil
    rw [hnil] at hhead
    cases hhead
  rw [isValid_iff, String.length_ofList, String.toList_ofList, labels_of_notMem hdot,
    List.forall_mem_singleton, isLabel_iff, any_isPlain_getLast?_take_iff hne]
  constructor
  · exact fun h => h.2.2.1
  · refine fun h => ⟨List.length_take_le _ _, ?_, h, hinner⟩
    rw [List.head?_take, if_neg (by decide), hhead, Option.any_some, hc]

/-- `normalize` makes a name that `isValid` from a text that begins with a plain character, unless
it is cut behind a hyphen (`CutBehindHyphen`). -/
theorem isValid_normalize_iff (htext : text.toList = c :: cs) (hc : isPlain c = true) :
    isValid (normalize text) = true ↔ ¬CutBehindHyphen text := by
  cases hvalid : isValid text with
  | true =>
    rw [normalize_of_isValid hvalid]
    refine iff_of_true hvalid fun hcut => ?_
    have hshort := length_uncut_le fun d hd => isInner_of_isValid hvalid hd
    exact absurd hcut.lt_length (Nat.not_lt.mpr (hshort.trans (isValid_iff.mp hvalid).1))
  | false =>
    have hname : normalize text = String.ofList ((uncut text).take maxLength) := by
      rw [← toList_normalize hvalid, String.ofList_toList]
    rw [hname, isValid_take_iff htext hc]

/-- `normalize` changes nothing in a name that it made, unless that was cut behind a hyphen. -/
theorem normalize_normalize_iff (htext : text.toList = c :: cs) (hc : isPlain c = true) :
    normalize (normalize text) = normalize text ↔ ¬CutBehindHyphen text := by
  refine ⟨fun hfixed hcut => ?_, fun h =>
    normalize_of_isValid ((isValid_normalize_iff htext hc).mpr h)⟩
  have hunmade : isValid (normalize text) = false := by
    rw [← Bool.not_eq_true, isValid_normalize_iff htext hc]
    exact not_not.mpr hcut
  have hvalid : isValid text = false := by
    by_contra h
    rw [Bool.not_eq_false] at h
    rw [normalize_of_isValid h, h] at hunmade
    cases hunmade
  have hname := toList_normalize hvalid
  have hagain := toList_normalize hunmade
  rw [hfixed] at hagain
  -- The name fits, so nothing is cut off it, and making it again leaves no hyphen at its end.
  have hfits : (uncut (normalize text)).length ≤ maxLength := by
    have hshort : (normalize text).length ≤ maxLength := by
      rw [← String.length_toList, hname]
      exact List.length_take_le _ _
    refine (length_uncut_le fun d hd => .inl ?_).trans hshort
    rw [hname] at hd
    exact isInner_of_mem_uncut (List.mem_of_mem_take hd)
  rw [List.take_of_length_le hfits] at hagain
  have hlast := hcut.getLast?_take
  rw [← hname, hagain] at hlast
  exact getLast?_uncut _ hlast

/-! ## Secrets with connection strings -/

/-- The text of which `ofConnection` makes a name begins as the name of the resource does. -/
theorem exists_cons_of_isValid_append {resource : String} (h : isValid resource = true)
    (username database : String) :
    ∃ c cs, (resource ++ "-" ++ database ++ "-" ++ username).toList = c :: cs ∧
      isPlain c = true := by
  obtain ⟨c, cs, hresource, hc⟩ := exists_cons_of_isValid h
  refine ⟨c, cs ++ ("-" ++ database ++ "-" ++ username).toList, ?_, hc⟩
  simp only [String.toList_append, hresource, List.cons_append, List.append_assoc]

/-- `ofConnection` gives a name that the cluster takes, and one that stays as it is when a name is
made from it, if and only if it is not cut behind a hyphen. -/
theorem ofConnection_usable_iff {resource : String} (h : isValid resource = true)
    (username database : String) :
    (isValid (ofConnection resource username database) = true ↔
      ¬CutBehindHyphen (resource ++ "-" ++ database ++ "-" ++ username)) ∧
    (normalize (ofConnection resource username database) = ofConnection resource username database ↔
      ¬CutBehindHyphen (resource ++ "-" ++ database ++ "-" ++ username)) := by
  obtain ⟨c, cs, htext, hc⟩ := exists_cons_of_isValid_append h username database
  exact ⟨isValid_normalize_iff htext hc, normalize_normalize_iff htext hc⟩

/-- A `resource` whose name leaves room for one character. -/
def longResource : String := String.ofList (List.replicate 252 'a')

theorem ofConnection_usable_iff_upper :
    isValid (ofConnection "rs" "Ann" "Orders.EU") = true ∧
      normalize (ofConnection "rs" "Ann" "Orders.EU") = "rs-orders-eu-ann" := by
  have hresource : isValid "rs" = true := by decide +kernel
  have hcut : ¬CutBehindHyphen ("rs" ++ "-" ++ "Orders.EU" ++ "-" ++ "Ann") := by decide +kernel
  obtain ⟨hvalid, hfixed⟩ := ofConnection_usable_iff hresource "Ann" "Orders.EU"
  exact ⟨hvalid.mpr hcut, (hfixed.mpr hcut).trans (by decide +kernel)⟩

/-- `ofConnection` may cut a name behind the hyphen that follows the resource. -/
theorem ofConnection_cut :
    ¬∀ resource username database : String, isValid resource = true →
      isValid (ofConnection resource username database) = true ∧
        normalize (ofConnection resource username database) =
          ofConnection resource username database := by
  intro h
  have htext : longResource.toList = List.replicate 252 'a' := String.toList_ofList
  have hresource : isValid longResource = true := by
    rw [isValid_iff, ← String.length_toList, htext, List.length_replicate]
    exact ⟨by decide, by decide +kernel⟩
  have hcut : CutBehindHyphen (longResource ++ "-" ++ "admin" ++ "-" ++ "app") := by
    rw [CutBehindHyphen, uncut]
    simp only [String.toList_append, htext]
    decide +kernel
  obtain ⟨c, cs, hcs, hc⟩ := exists_cons_of_isValid_append hresource "app" "admin"
  exact (isValid_normalize_iff hcs hc).mp (h longResource "app" "admin" hresource).1 hcut

end ReplicaControl.ObjectName
