import Mathlib.Logic.Relation
import ReplicaControl.Proofs.Auth.Enable
import ReplicaControl.Proofs.Port.Pass
import ReplicaControl.Proofs.Topology.Build

/-!
# References that stay sound

`Document.checkReferences` decides that process names are distinct and that every member names a
process, the invariant of section 3 of the specification. It looks at names and members only, which
no operation on documents touches, so what a topology is built to stays sound through any run of
them.

- `Document.checkReferences_eq_ok_iff`: what the check decides.
- `Document.Edit`: the operations on a document.
- `Document.references_decided_and_kept`: edits keep the outcome of the check, and built documents
  pass it after any run of edits.
-/

namespace ReplicaControl.Document

variable {d d' : Document}

/-! ## What is checked -/

/-- `processNames` are distinct, and every member of a replica set names a process. -/
structure HasSoundReferences (d : Document) : Prop where
  names_nodup : d.processNames.Nodup
  host_mem : ∀ rs ∈ d.replicaSets, ∀ m ∈ rs.members, m.host ∈ d.processNames

/-- No name is repeated if the list has none twice and none of those already `seen`. -/
theorem firstRepeated?_eq_none_iff {seen names : List String} :
    firstRepeated? seen names = none ↔ names.Nodup ∧ ∀ name ∈ names, name ∉ seen := by
  induction names generalizing seen with
  | nil => simp [firstRepeated?]
  | cons name names ih =>
    rw [firstRepeated?]
    split
    · next hseen =>
      refine iff_of_false nofun fun h => ?_
      exact h.2 name List.mem_cons_self (by simpa using hseen)
    · next hseen =>
      have hseen : name ∉ seen := by simpa using hseen
      -- The name read joins `seen`, so no later name is the same.
      rw [ih, List.nodup_cons, List.forall_mem_cons]
      constructor
      · rintro ⟨hnodup, hnames⟩
        refine ⟨⟨fun hname => ?_, hnodup⟩, hseen, fun other hother hmem => ?_⟩
        · exact hnames name hname List.mem_cons_self
        · exact hnames other hother (List.mem_cons_of_mem _ hmem)
      · rintro ⟨⟨hname, hnodup⟩, -, hnames⟩
        refine ⟨hnodup, fun other hother hmem => ?_⟩
        rcases List.mem_cons.mp hmem with rfl | hmem
        · exact hname hother
        · exact hnames other hother hmem

theorem unknownMember?_eq_none_iff {names : List String} {rs : ReplicaSet} :
    unknownMember? names rs = none ↔ ∀ m ∈ rs.members, m.host ∈ names := by
  simp [unknownMember?, List.find?_eq_none]

/-- `checkReferences` succeeds if and only if the references of `d` are sound. -/
theorem checkReferences_eq_ok_iff : d.checkReferences = .ok () ↔ d.HasSoundReferences := by
  have hok : d.checkReferences = .ok () ↔ d.referenceFault? = none := by
    rw [checkReferences]
    cases d.referenceFault? <;> simp
  have hnames : firstRepeated? [] d.processNames = none ↔ d.processNames.Nodup := by
    rw [firstRepeated?_eq_none_iff]
    simp
  rw [hok, referenceFault?]
  cases hrepeated : firstRepeated? [] d.processNames with
  | some name =>
    refine iff_of_false (Option.some_ne_none _) fun h => ?_
    cases hrepeated.symm.trans (hnames.mpr h.names_nodup)
  | none =>
    simp only [List.findSome?_eq_none_iff, unknownMember?_eq_none_iff]
    exact ⟨fun h => ⟨hnames.mp hrepeated, h⟩, fun h => h.host_mem⟩

/-- `checkReferences` looks at `processNames` and `replicaSets` only. -/
theorem checkReferences_congr (hnames : d'.processNames = d.processNames)
    (hreplicaSets : d'.replicaSets = d.replicaSets) : d'.checkReferences = d.checkReferences := by
  rw [checkReferences, checkReferences, referenceFault?, referenceFault?, hnames, hreplicaSets]

/-! ## Operations on documents -/

theorem map_name_overrideProcess (ps : List Process) (o : ProcessOverride) :
    (overrideProcess ps o).map (·.name) = ps.map (·.name) := by
  unfold overrideProcess
  induction ps with
  | nil => rfl
  | cons p ps ih =>
    rw [updateFirst]
    split
    · rfl
    · rw [List.map_cons, ih, List.map_cons]

/-- `override` renames no process. -/
theorem processNames_override (d : Document) (o : DocumentOverride) :
    (d.override o).processNames = d.processNames := by
  show (o.processes.foldl overrideProcess d.processes).map (·.name) = d.processes.map (·.name)
  generalize d.processes = ps
  induction o.processes generalizing ps with
  | nil => rfl
  | cons o os ih => rw [List.foldl_cons, ih, map_name_overrideProcess]

/-- `withPorts` renames no process. -/
theorem processNames_withPorts (d : Document) (ports : Dict String UInt16) :
    (d.withPorts ports).processNames = d.processNames := by
  rw [processNames, processes_withPorts, List.map_map]
  refine List.map_congr_left fun p _ => ?_
  rw [Function.comp_apply]
  cases ports.get? p.name <;> rfl

/-- `Edit d d'`: one of the operations on a document leads from `d` to `d'`. -/
inductive Edit : Document → Document → Prop where
  | override (d : Document) (o : DocumentOverride) : Edit d (d.override o)
  | withPorts (d : Document) (ports : Dict String UInt16) : Edit d (d.withPorts ports)
  | applyTo (d : Document) (a : PortAssignment) : Edit d (a.applyTo d)
  | enableAuth {d d' : Document} {requests : List UserRequest} {o : AuthOptions}
    (h : d.enableAuth requests o = .ok d') : Edit d d'
  | disableAuth (d : Document) : Edit d d.disableAuth
  | versionedAfter (d : Document) (previous : Option Document) :
    Edit d (d.versionedAfter previous)

/-- An `Edit` touches neither `processNames` nor `replicaSets`. -/
theorem Edit.checkReferences_eq (h : Edit d d') : d'.checkReferences = d.checkReferences := by
  cases h with
  | override o => exact checkReferences_congr (processNames_override d o) rfl
  | withPorts ports => exact checkReferences_congr (processNames_withPorts d ports) rfl
  | applyTo a => exact checkReferences_congr (processNames_withPorts d a.toDict) rfl
  | enableAuth h =>
    obtain ⟨cs, -, rfl⟩ := enableAuth_eq_ok_iff.mp h
    exact checkReferences_congr rfl rfl
  | disableAuth => exact checkReferences_congr rfl rfl
  | versionedAfter previous => exact checkReferences_congr rfl rfl

/-- `checkReferences` gives the same after any run of edits, by induction on its steps. -/
theorem checkReferences_eq_of_edits (h : Relation.ReflTransGen Edit d d') :
    d'.checkReferences = d.checkReferences := by
  induction h with
  | refl => rfl
  | tail _ hlast ih => exact hlast.checkReferences_eq.trans ih

/-- A document that `Topology.build` gives passes the check. -/
theorem checkReferences_of_build {t : Topology} (h : t.build = .ok d) :
    d.checkReferences = .ok () := by
  obtain ⟨-, hreferences, rfl⟩ := Topology.build_eq_ok_iff.mp h
  exact (Edit.versionedAfter _ t.previous).checkReferences_eq.trans hreferences

/-- The check decides `HasSoundReferences`. Every edit keeps its outcome, so what a topology is
built to passes it after any run of edits. -/
theorem references_decided_and_kept :
    (∀ d : Document, d.checkReferences = .ok () ↔ d.HasSoundReferences) ∧
      (∀ d d' : Document, Edit d d' → d'.checkReferences = d.checkReferences) ∧
      ∀ (t : Topology) (d d' : Document), t.build = .ok d → Relation.ReflTransGen Edit d d' →
        d'.checkReferences = .ok () := by
  refine ⟨fun d => checkReferences_eq_ok_iff, fun d d' h => h.checkReferences_eq, ?_⟩
  intro t d d' hbuild hedits
  exact (checkReferences_eq_of_edits hedits).trans (checkReferences_of_build hbuild)

/-- Overrides of which two name one process and one names none. -/
def strayOverrides : DocumentOverride :=
  ⟨[{ name := "rs-1", disabled := true }, { name := "rs-7" }, { name := "rs-1" }]⟩

/-- Ports of which two are for one process and one is for none. -/
def strayPorts : PortAssignment := ⟨[("rs-1", 1), ("rs-7", 2), ("rs-1", 3)], .inProgress, 27017⟩

theorem references_decided_and_kept_trio :
    ∃ d d', Topology.trio.build = .ok d ∧ Relation.ReflTransGen Edit d d' ∧
      d'.HasSoundReferences ∧ d'.processNames = ["rs-0", "rs-1", "rs-arb-0"] := by
  have hported : Relation.ReflTransGen Edit (Topology.trio.unversioned.versionedAfter none) _ :=
    ((Relation.ReflTransGen.single (.override _ strayOverrides)).tail
      (.withPorts _ (.ofList [("rs-0", 1), ("rs-9", 2)]))).tail (.applyTo _ strayPorts)
  have henabled := hported.tail
    (.enableAuth (show enableAuth _ mixedRequests mixedOptions = .ok _ from rfl))
  have hedits := (henabled.tail (.disableAuth _)).tail (.versionedAfter _ (some {}))
  obtain ⟨hdecided, -, hkept⟩ := references_decided_and_kept
  have hpass := hkept Topology.trio _ _ Topology.build_trio hedits
  exact ⟨_, _, Topology.build_trio, hedits, (hdecided _).mp hpass, by decide +kernel⟩

end ReplicaControl.Document
