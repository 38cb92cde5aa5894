import ReplicaControl.Proofs.Document.References
import ReplicaControl.Proofs.Json.Codec
import ReplicaControl.Proofs.Merge.Basic

/-!
# What overrides of a document do

Overrides are applied one by one, each to the first process that it names (specification, section
4.3). What they leave behind is said process by process: the last override of a process decides
whether it is `disabled`, the last one that carries a `logRotation` decides that. An override that
was read from a text says more than the text did: where an entry leaves out whether the process is
disabled, it says that it is not.

- `Process.overridden`: a process as a list of overrides leaves it.
- `Document.getElem?_foldl_overrideProcess`: the processes of any document, names repeated or not.
- `Document.override_by_name`: documents whose processes have distinct names.
- `ProcessOverride.of_decode?`: what an entry of a text says by what it leaves out.
- `Document.override_left_out`: what becomes of a process if its entries leave out `disabled`, and
  if they leave out `logRotate`.
-/

namespace ReplicaControl

variable {os : List ProcessOverride} {ps : List Process} {p : Process}

/-- `p` as the overrides `os` leave it, if it is the first process of its name: the last entry for
`p.name` decides `disabled`, the last one of them with a log rotation decides `logRotation`. -/
def Process.overridden (p : Process) (os : List ProcessOverride) : Process :=
  { p with
    disabled := (lastOf? (·.name) os p.name).elim p.disabled (·.disabled)
    logRotation :=
      ((lastOf? (·.name) (os.filter (·.logRotation.isSome)) p.name).bind (·.logRotation)).or
        p.logRotation }

@[simp] theorem Process.overridden_nil (p : Process) : p.overridden [] = p := rfl

@[simp] theorem Process.name_overridden (p : Process) (os : List ProcessOverride) :
    (p.overridden os).name = p.name :=
  rfl

theorem Process.overridden_concat (p : Process) (os : List ProcessOverride) (o : ProcessOverride) :
    p.overridden (os ++ [o]) =
      if p.name = o.name then (p.overridden os).override o else p.overridden os := by
  by_cases h : p.name = o.name
  · cases hr : o.logRotation <;>
      simp [overridden, Process.override, lastOf?_concat, List.filter_append, h, hr, prefer,
        isVacant]
  · have hne : ¬o.name = p.name := Ne.symm h
    rw [if_neg h]
    cases hr : o.logRotation <;>
      simp [overridden, lastOf?_concat, List.filter_append, hne, hr]

/-- Overrides that have been applied change nothing. -/
theorem Process.overridden_overridden (p : Process) (os : List ProcessOverride) :
    (p.overridden os).overridden os = p.overridden os := by
  unfold overridden
  cases lastOf? (·.name) os p.name <;>
    cases lastOf? (·.name) (os.filter (·.logRotation.isSome)) p.name <;>
    simp [← Option.or_assoc]

namespace Document

variable {d : Document} {o : DocumentOverride}

/-- `o` changes the process at `i` if it names it and none before it. -/
theorem getElem?_overrideProcess (ps : List Process) (o : ProcessOverride) (i : Nat) :
    (overrideProcess ps o)[i]? = ps[i]?.map fun p =>
      if p.name = o.name ∧ o.name ∉ (ps.take i).map (·.name) then p.override o else p := by
  unfold overrideProcess
  induction ps generalizing i with
  | nil => simp [updateFirst]
  | cons p ps ih =>
    by_cases h : p.name = o.name
    · cases i with
      | zero => simp [updateFirst, h]
      | succ i => simp [updateFirst, h]
    · cases i with
      | zero => simp [updateFirst, h]
      | succ i => simp [updateFirst, h, ih, Ne.symm h]

/-- A list of overrides changes the processes that are the first of their name. -/
theorem getElem?_foldl_overrideProcess (ps : List Process) (os : List ProcessOverride) (i : Nat) :
    (os.foldl overrideProcess ps)[i]? = ps[i]?.map fun p =>
      if p.name ∈ (ps.take i).map (·.name) then p else p.overridden os := by
  -- The last override is taken off: it meets the processes as the others left them.
  induction os using List.reverseRecOn with
  | nil => simp
  | append_singleton os o ih =>
    have hnames : ((os.foldl overrideProcess ps).take i).map (·.name) =
        (ps.take i).map (·.name) := by
      rw [List.map_take, List.map_take]
      exact congrArg (List.take i) (processNames_override { processes := ps } ⟨os⟩)
    rw [List.foldl_append, List.foldl_cons, List.foldl_nil, getElem?_overrideProcess, ih, hnames,
      Option.map_map]
    refine congrArg (Option.map · ps[i]?) (funext fun p => ?_)
    by_cases hp : p.name ∈ (ps.take i).map (·.name)
    -- A process that is not the first of its name is named by no override, or an earlier one is.
    · have hno : ¬(p.name = o.name ∧ o.name ∉ (ps.take i).map (·.name)) := fun h => h.2 (h.1 ▸ hp)
      simp only [Function.comp_apply, if_pos hp, if_neg hno]
    · rw [Function.comp_apply, if_neg hp, if_neg hp, Process.overridden_concat]
      refine if_congr ?_ rfl rfl
      exact and_iff_left_of_imp fun h => h ▸ hp

/-- If process names are distinct, every process is the first of its name. -/
theorem foldl_overrideProcess_eq_map (h : (ps.map (·.name)).Nodup) (os : List ProcessOverride) :
    os.foldl overrideProcess ps = ps.map (·.overridden os) := by
  refine List.ext_getElem? fun i => ?_
  rw [getElem?_foldl_overrideProcess, List.getElem?_map]
  cases hp : ps[i]? with
  | none => rfl
  | some p =>
    have hdrop : p.name ∈ (ps.map (·.name)).drop i := by
      refine List.mem_of_getElem? (i := 0) ?_
      rw [List.getElem?_drop, Nat.add_zero, List.getElem?_map, hp, Option.map_some]
    have hfirst : p.name ∉ (ps.take i).map (·.name) := by
      rw [List.map_take]
      exact fun htake => List.disjoint_take_drop h (Nat.le_refl i) htake hdrop
    rw [Option.map_some, if_neg hfirst, Option.map_some]

/-- What a document says of its processes (`extractOverride`) changes none of them. -/
theorem overridden_extractOverride (h : d.processNames.Nodup) (hp : p ∈ d.processes) :
    p.overridden d.extractOverride.processes = p := by
  -- Names are distinct, so whatever the extracted entries say of `p.name` they say of `p`.
  have hsame : ∀ q ∈ d.extractOverride.processes, q.name = p.name →
      q.disabled = p.disabled ∧ q.logRotation = p.logRotation := by
    intro q hq hname
    obtain ⟨p', hp', rfl⟩ := List.mem_map.mp hq
    obtain rfl : p' = p := List.inj_on_of_nodup_map h hp' hp hname
    exact ⟨rfl, rfl⟩
  have hdisabled : (lastOf? (·.name) d.extractOverride.processes p.name).elim p.disabled
      (·.disabled) = p.disabled := by
    cases hlast : lastOf? (·.name) d.extractOverride.processes p.name with
    | none => rfl
    | some q =>
      obtain ⟨hname, hq⟩ := key_of_lastOf? hlast
      exact (hsame q hq hname).1
  have hrotation : ((lastOf? (·.name)
      (d.extractOverride.processes.filter (·.logRotation.isSome)) p.name).bind
        (·.logRotation)).or p.logRotation = p.logRotation := by
    cases hlast : lastOf? (·.name)
        (d.extractOverride.processes.filter (·.logRotation.isSome)) p.name with
    | none => rfl
    | some q =>
      obtain ⟨hname, hq⟩ := key_of_lastOf? hlast
      rw [Option.bind_some, (hsame q (List.mem_of_mem_filter hq) hname).2, Option.or_self]
  rw [Process.overridden, hdisabled, hrotation]

theorem override_eq (h : d.processNames.Nodup) (o : DocumentOverride) :
    d.override o = { d with processes := d.processes.map (·.overridden o.processes) } :=
  congrArg (fun ps => { d with processes := ps }) (foldl_overrideProcess_eq_map h o.processes)

/-- If process names are distinct, `d.override o` changes nothing but `disabled`, as the last entry
for each name says, and `logRotation`, as the last one says that carries a rotation: each process is
`Process.overridden`. Applied again, `o` changes nothing, and neither does `d.extractOverride`. -/
theorem override_by_name (d : Document) (o : DocumentOverride) (h : d.processNames.Nodup) :
    d.override o = { d with processes := d.processes.map (·.overridden o.processes) } ∧
      (d.override o).override o = d.override o ∧ d.override d.extractOverride = d := by
  have hnames : (d.override o).processNames.Nodup := by rwa [processNames_override]
  refine ⟨override_eq h o, ?_, ?_⟩
  · rw [override_eq hnames, override_eq h, List.map_map]
    exact congrArg (fun ps => { d with processes := ps })
      (List.map_congr_left fun p _ => Process.overridden_overridden p o.processes)
  · rw [override_eq h, List.map_congr_left fun p hp => overridden_extractOverride h hp,
      List.map_id']

/-- A process that is disabled and rotates its log, and one that does neither. -/
def suspended : Document where
  processes :=
    [{ name := "rs-0", hostname := "rs-0.svc", args := {}, version := "6.0.5", disabled := true
       logRotation := some ⟨100, 24⟩ },
     { name := "rs-1", hostname := "rs-1.svc", args := {}, version := "6.0.5" }]

/-- Overrides that name a process twice, each time with another member, and name a process that no
document has. -/
def scattered : DocumentOverride where
  processes :=
    [{ name := "rs-1", disabled := true, logRotation := some ⟨500, 12⟩ },
     { name := "rs-9", disabled := true },
     { name := "rs-0", disabled := true },
     { name := "rs-1" }]

theorem override_by_name_scattered :
    suspended.processNames.Nodup ∧
      suspended.override scattered =
        { suspended with
          processes := suspended.processes.map (·.overridden scattered.processes) } ∧
      ((suspended.override scattered).processes.map fun p => (p.name, p.disabled, p.logRotation)) =
        [("rs-0", true, some ⟨100, 24⟩), ("rs-1", false, some ⟨500, 12⟩)] ∧
      (suspended.override scattered).override scattered = suspended.override scattered ∧
      suspended.override suspended.extractOverride = suspended := by
  have hnames : suspended.processNames.Nodup := by decide
  obtain ⟨heach, hagain, hextract⟩ := override_by_name suspended scattered hnames
  exact ⟨hnames, heach, by decide +kernel, hagain, hextract⟩

end Document

/-! ## Members that are left out -/

/-- An entry without `disabled` reads as `disabled = false`, one without `logRotate` as `logRotation
= none`. The places `1` and `2` are those of the members in an array. -/
theorem ProcessOverride.of_decode? {e : Json} {r : ProcessOverride} (h : decode? e = some r) :
    (e.recordMember? "disabled" 1).elim (some false) decode? = some r.disabled ∧
      (e.recordMember? "logRotate" 2).elim (some none) decode? = some r.logRotation := by
  have hread := Codec.readEach?_of_decode? h
  simp only [Members.readEach?, Option.bind_eq_bind, Option.bind_eq_some_iff] at hread
  obtain ⟨_, -, _, hdisabled, _, hrotation, hmake⟩ := hread
  cases hmake
  exact ⟨hdisabled, hrotation⟩

namespace DocumentOverride

variable {j : Json} {o : DocumentOverride}

/-- The entries of the JSON `j` of overrides, one for each of them. -/
def entries (j : Json) : List Json :=
  match j.recordMember? "processes" 0 with
  | some (.array js) => js
  | _ => []

/-- No entry of `j` for the process named `process` has the member `name`, whose place in an array
is `place`. -/
def LeavesOut (j : Json) (process name : String) (place : Nat) : Prop :=
  ∀ e ∈ entries j, ∀ r ∈ (decode? e : Option ProcessOverride), r.name = process →
    e.recordMember? name place = none

instance (j : Json) (process name : String) (place : Nat) :
    Decidable (LeavesOut j process name place) :=
  inferInstanceAs (Decidable (∀ e ∈ _, ∀ r ∈ (decode? e : Option ProcessOverride), _ → _))

/-- Every override that is read of `j` is read of one of its entries. -/
theorem exists_entry (h : decode? j = some o) {r : ProcessOverride} (hr : r ∈ o.processes) :
    ∃ e ∈ entries j, decode? e = some r := by
  have hread := Codec.readEach?_of_decode? h
  simp only [Members.readEach?, Option.bind_eq_bind, Option.bind_eq_some_iff] at hread
  obtain ⟨_, hprocesses, hmake⟩ := hread
  cases hmake
  cases hmember : j.recordMember? "processes" 0 with
  | none =>
    rw [hmember] at hprocesses
    rw [← Option.some.inj hprocesses] at hr
    cases hr
  | some j' =>
    rw [hmember] at hprocesses
    obtain ⟨js, rfl, hjs⟩ := Codec.exists_of_decode?_list hprocesses
    simp only [entries, hmember]
    exact hjs r hr

/-- Overrides whose entries leave out `disabled` say that the process is not disabled. -/
theorem LeavesOut.disabled_eq {process : String} (hout : LeavesOut j process "disabled" 1)
    (h : decode? j = some o) {r : ProcessOverride} (hr : r ∈ o.processes)
    (hname : r.name = process) : r.disabled = false := by
  obtain ⟨e, he, hread⟩ := exists_entry h hr
  have hdisabled := (ProcessOverride.of_decode? hread).1
  rw [hout e he r hread hname] at hdisabled
  exact (Option.some.inj hdisabled).symm

/-- Overrides whose entries leave out `logRotate` carry no log rotation for the process. -/
theorem LeavesOut.logRotation_eq {process : String} (hout : LeavesOut j process "logRotate" 2)
    (h : decode? j = some o) {r : ProcessOverride} (hr : r ∈ o.processes)
    (hname : r.name = process) : r.logRotation = none := by
  obtain ⟨e, he, hread⟩ := exists_entry h hr
  have hrotation := (ProcessOverride.of_decode? hread).2
  rw [hout e he r hread hname] at hrotation
  exact (Option.some.inj hrotation).symm

end DocumentOverride

open DocumentOverride

/-- Overrides that say `disabled = false` of `p` leave it disabled only if none of them names it. -/
theorem Process.disabled_overridden (h : ∀ r ∈ os, r.name = p.name → r.disabled = false) :
    (p.overridden os).disabled = true ↔ p.disabled = true ∧ p.name ∉ os.map (·.name) := by
  show (lastOf? (·.name) os p.name).elim p.disabled (·.disabled) = true ↔ _
  cases hlast : lastOf? (·.name) os p.name with
  | none => exact (and_iff_left (lastOf?_eq_none_iff.mp hlast)).symm
  | some r =>
    obtain ⟨hname, hr⟩ := key_of_lastOf? hlast
    refine iff_of_false ?_ fun hno => hno.2 ?_
    · rw [Option.elim_some, h r hr hname]
      exact Bool.false_ne_true
    · exact List.mem_map.mpr ⟨r, hr, hname⟩

/-- Overrides that carry no log rotation for `p` keep the one that it has. -/
theorem Process.logRotation_overridden (h : ∀ r ∈ os, r.name = p.name → r.logRotation = none) :
    (p.overridden os).logRotation = p.logRotation := by
  have hlast : lastOf? (·.name) (os.filter (·.logRotation.isSome)) p.name = none := by
    rw [lastOf?_eq_none_iff, List.mem_map]
    rintro ⟨r, hr, hname⟩
    obtain ⟨hr, hsome⟩ := List.mem_filter.mp hr
    rw [h r hr hname] at hsome
    cases hsome
  show ((lastOf? (·.name) (os.filter (·.logRotation.isSome)) p.name).bind _).or p.logRotation = _
  rw [hlast, Option.bind_none, Option.none_or]

/-- Let `o` be read from the JSON `j`, let `p` be the process at place `i` of `d` and `q` the one at
`i` after the override. If the entries of `j` for `p.name` leave out `disabled`, then `q` is
disabled exactly when `p` is and no entry reaches it: there is none for `p.name`, or a process
before `i` has that name. If they leave out `logRotate`, then `q` rotates its log as `p` does. -/
theorem Document.override_left_out {j : Json} {o : DocumentOverride} (h : decode? j = some o)
    {d : Document} {i : Nat} (hp : d.processes[i]? = some p) :
    ∃ q, (d.override o).processes[i]? = some q ∧
      (LeavesOut j p.name "disabled" 1 →
        (q.disabled = true ↔ p.disabled = true ∧
          (p.name ∈ o.processes.map (·.name) → p.name ∈ (d.processes.take i).map (·.name)))) ∧
      (LeavesOut j p.name "logRotate" 2 → q.logRotation = p.logRotation) := by
  have hq := getElem?_foldl_overrideProcess d.processes o.processes i
  rw [hp, Option.map_some] at hq
  refine ⟨_, hq, fun hout => ?_, fun hout => ?_⟩
  · by_cases hfirst : p.name ∈ (d.processes.take i).map (·.name)
    · rw [if_pos hfirst]
      exact (and_iff_left fun _ => hfirst).symm
    · rw [if_neg hfirst, Process.disabled_overridden fun r => hout.disabled_eq h]
      simp only [hfirst, imp_false]
  · split
    · rfl
    · exact Process.logRotation_overridden fun r => hout.logRotation_eq h

/-- Overrides that say how the log of `rs-0` is rotated, and nothing else of it. -/
def rotationOnly : Json :=
  .object
    [("processes", .array
      [.object
        [("name", .string "rs-0"),
         ("logRotate", .object
           [("sizeThresholdMB", .ofInt 1000), ("timeThresholdHrs", .ofInt 24)])]])]

theorem decode?_rotationOnly :
    decode? rotationOnly = some (⟨[⟨"rs-0", false, some ⟨1000, 24⟩⟩]⟩ : DocumentOverride) := by
  decide +kernel

theorem Document.override_left_out_rotationOnly :
    ∃ q, (suspended.override ⟨[⟨"rs-0", false, some ⟨1000, 24⟩⟩]⟩).processes[0]? = some q ∧
      LeavesOut rotationOnly "rs-0" "disabled" 1 ∧ q.disabled = false := by
  have hp : suspended.processes[0]? = some suspended.processes[0] := rfl
  have hout : LeavesOut rotationOnly "rs-0" "disabled" 1 := by decide +kernel
  obtain ⟨q, hq, hdisabled, -⟩ := Document.override_left_out decode?_rotationOnly hp
  refine ⟨q, hq, hout, ?_⟩
  rw [← Bool.not_eq_true, hdisabled hout]
  decide

/-- An override that leaves out `disabled` may change whether a process is disabled: it enables one
that was. -/
theorem Document.disabled_left_out :
    ¬∀ (d : Document) (text : String) (j : Json) (o : DocumentOverride) (i : Nat) (p q : Process),
      Json.parse? text = some j → decode? j = some o → d.processes[i]? = some p →
        (d.override o).processes[i]? = some q → LeavesOut j p.name "disabled" 1 →
          q.disabled = p.disabled := by
  intro h
  have hreadable : rotationOnly.IsReadable := by simp [rotationOnly, Json.ofInt]
  have hsame := h suspended rotationOnly.render rotationOnly _ 0 _ _
    (Json.parse?_render hreadable) decode?_rotationOnly rfl rfl (by decide +kernel)
  cases hsame

end ReplicaControl
