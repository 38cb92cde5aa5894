import ReplicaControl.Proofs.Auth.Enable
import ReplicaControl.Proofs.Cluster.Documents
import ReplicaControl.Proofs.Topology.Build

/-!
# Passes of an unchanged intent

A topology gives its document the version that follows the previous document, and the store gives it
the version that follows the stored one. The two agree if the previous document is the stored one.
A pass of the operator builds that document, enables authentication in it, lays overrides over it,
and gives it the version that follows the previous document, whose settings of authentication it
starts from (specification, section 5).

- **Storing built documents** (`Cluster.ensureDocument_build`): what the store returns for them, and
  what it leaves.
- **One pass** (`Intent.pass`): when it succeeds, and with which document (`Intent.pass_eq_ok_iff`).
- **The passes after it** (`Intent.pass_steady`): they change nothing, not even the version.
-/

namespace ReplicaControl.Cluster

variable {c : Cluster} {namespaceName name : String} {t : Topology} {d : Document}

/-- If the document `d` was built after the stored one (`t.previous`), the store returns it under
the version that it was built with. The store changes nothing if and only if there is a stored
document and it has that version; otherwise it writes the secret of `d` and nothing else. What is
left is as `Stores` says if the numbers of `d` are finite. -/
theorem ensureDocument_build (hserves : c.Serves namespaceName name)
    (hread : c.readDocument namespaceName name = .ok t.previous) (hhooks : t.HooksNumeric)
    (hbuild : t.build = .ok d) :
    ∃ r c', c.ensureDocument namespaceName name d = (.ok r, c') ∧ (r.document == d) = true ∧
      r.document.version = d.version ∧
        (r.changed = false ↔ ∃ p, t.previous = some p ∧ d.version = p.version) ∧
          (c' = if r.changed then c.withDocument namespaceName name r.document else c) ∧
            (d.IsFinite → d.ReadsBack → c.Stores namespaceName name d t.previous r c') := by
  obtain ⟨-, -, rfl⟩ := Topology.build_eq_ok_iff.mp hbuild
  have hspec := ensureDocument_spec c namespaceName name (t.unversioned.versionedAfter t.previous)
  generalize hcall : c.ensureDocument namespaceName name _ = result at hspec ⊢
  -- What is stored is `t.previous`, so the two versions follow the same document: it is kept if its
  -- content is the built one, and followed by the next version otherwise.
  cases hspec with
  | unread hread' => cases hread.symm.trans hread'
  | refused _ _ hwrite => cases hserves.writes.symm.trans hwrite
  | @kept p hread' hsame =>
    have hstores := fun hfinite hback =>
      stores_of_ensureDocument_eq hserves hread hfinite hback hcall
    have hprevious : t.previous = some p := Except.ok.inj (hread.symm.trans hread')
    rw [hprevious] at hsame hstores ⊢
    have hversion : (t.unversioned.versionedAfter (some p)).version = p.version := by
      rw [Document.version_versionedAfter_eq_iff, Document.contentEquals_comm]
      exact hsame
    exact ⟨_, _, rfl, Document.beq_iff.mpr ⟨hversion.symm, hsame⟩, hversion.symm,
      iff_of_true rfl ⟨p, rfl, hversion⟩, rfl, hstores⟩
  | @written stored hread' hnew _ =>
    obtain rfl : t.previous = stored := Except.ok.inj (hread.symm.trans hread')
    rw [Document.versionedAfter_of_version] at hcall ⊢
    have hnumeric := Topology.isNumeric_unversioned hhooks
    refine ⟨_, _, rfl, Document.beq_self_iff.mpr ⟨hnumeric.processes, hnumeric.replicaSets⟩, rfl,
      iff_of_false nofun ?_, rfl, fun hfinite hback =>
        stores_of_ensureDocument_eq hserves hread hfinite hback hcall⟩
    rintro ⟨p, hprevious, hversion⟩
    rw [hprevious, Document.version_versionedAfter_eq_iff, Document.contentEquals_comm] at hversion
    cases hversion.symm.trans (hnew p hprevious)

/-- The first document of `Topology.trio`. -/
def firstTrio : Document := Topology.trio.unversioned.versionedAfter none

/-- `Topology.trio` with a version of the database, to be built after its first document. -/
def trioAfter (version : String) : Topology :=
  { Topology.trio with version, previous := some firstTrio }

/-- A cluster that stores `firstTrio`. -/
def trioStored : Cluster := ({} : Cluster).withDocument "db" "rs" firstTrio

/-- `Topology.trio` built again, and built with another version of the database. -/
theorem ensureDocument_build_trio :
    (∃ d r c', (trioAfter "6.0.5").build = .ok d ∧
      trioStored.ensureDocument "db" "rs" d = (.ok r, c') ∧ (r.document == d) = true ∧
        r.changed = false ∧ r.document.version = 1 ∧ c' = trioStored) ∧
      ∃ d r c', (trioAfter "7.0.1").build = .ok d ∧
        trioStored.ensureDocument "db" "rs" d = (.ok r, c') ∧ (r.document == d) = true ∧
          r.changed = true ∧ r.document.version = 2 ∧
            c'.readDocument "db" "rs" = .ok (some r.document) ∧ c'.secretWrites = 2 := by
  have hserves : trioStored.Serves "db" "rs" := ⟨rfl, rfl⟩
  have hread : trioStored.readDocument "db" "rs" = .ok (some firstTrio) :=
    readDocument_withDocument rfl (by decide +kernel) (by decide +kernel)
  have hhooks : ∀ version, (trioAfter version).HooksNumeric := fun _ =>
    Topology.hooksNumeric_of_hooks_eq rfl (Single.isNaN_round _ _)
  have hvalid : ∀ version, (trioAfter version).validate = .ok () := fun _ => by
    simp [Topology.validate, trioAfter, Topology.trio]
  have hbuild := Topology.build_eq_ok (hvalid "6.0.5") (by decide +kernel)
  have hbuild' := Topology.build_eq_ok (hvalid "7.0.1") (by decide +kernel)
  have hsame : ((trioAfter "6.0.5").unversioned.versionedAfter (some firstTrio)).version = 1 := by
    decide +kernel
  have hnext : ((trioAfter "7.0.1").unversioned.versionedAfter (some firstTrio)).version = 2 := by
    decide +kernel
  obtain ⟨r, c', hcall, hequal, hversion, hchanged, hleft, -⟩ :=
    ensureDocument_build hserves hread (hhooks "6.0.5") hbuild
  obtain ⟨r', c'', hcall', hequal', hversion', hchanged', -, hstores⟩ :=
    ensureDocument_build hserves hread (hhooks "7.0.1") hbuild'
  have hkept : r.changed = false := hchanged.mpr ⟨firstTrio, rfl, hsame⟩
  have hwritten : r'.changed = true := by
    rw [← Bool.not_eq_false, hchanged']
    rintro ⟨_, ⟨⟩, heq⟩
    exact absurd (heq.symm.trans hnext) (by decide)
  replace hstores := hstores (by decide +kernel) (by decide +kernel)
  refine ⟨⟨_, r, c', hbuild, hcall, hequal, hkept, hversion.trans hsame, ?_⟩,
    _, r', c'', hbuild', hcall', hequal', hwritten, hversion'.trans hnext, hstores.left, ?_⟩
  · rw [hleft, hkept]
    rfl
  · rw [hstores.writes, hwritten]
    rfl

end ReplicaControl.Cluster

/-! ## Passes -/

namespace ReplicaControl

/-- What is asked of a deployment. -/
structure Intent where
  topology : Topology
  requests : List UserRequest
  options : AuthOptions
  overrides : DocumentOverride

/-- Why a pass failed. -/
inductive PassError where
  | build (e : BuildError)
  | auth (e : AuthError)

namespace Intent

variable {i : Intent} {p q : Document}

/-- The topology as the document that follows `p` sees it. -/
def topologyAfter (i : Intent) (p : Document) : Topology :=
  { i.topology with previous := some p, auth := p.auth }

/-- One pass: the document that follows `p`. -/
def pass (i : Intent) (p : Document) : Except PassError Document := do
  let built ← (i.topologyAfter p).build.mapError .build
  let enabled ← (built.enableAuth i.requests i.options).mapError .auth
  return (enabled.override i.overrides).versionedAfter (some p)

/-- Passes one after the other, each from the document of the one before. -/
def passes (i : Intent) : Nat → Document → Except PassError Document
  | 0, p => .ok p
  | n + 1, p => do
    let q ← i.pass p
    i.passes n q

/-- The document with the settings `auth`, before it is given a version. -/
def unversioned (i : Intent) (auth : AuthSettings) : Document :=
  { i.topology.unversioned with auth }.override i.overrides

/-- A pass succeeds by the intent alone, and takes nothing from `p` but the settings of
authentication and the version. -/
theorem pass_eq_ok_iff : i.pass p = .ok q ↔
    i.topology.validate = .ok () ∧ i.topology.unversioned.checkReferences = .ok () ∧
      ∃ cs, i.options.contributions i.requests = .ok cs ∧
        q = (i.unversioned (p.auth.enabled i.options.authoritative cs)).versionedAfter (some p) := by
  have hbuild : ∀ built, (i.topologyAfter p).build = .ok built ↔
      i.topology.validate = .ok () ∧ i.topology.unversioned.checkReferences = .ok () ∧
        built = { i.topology.unversioned with auth := p.auth }.versionedAfter (some p) :=
    fun _ => Topology.build_eq_ok_iff
  simp only [pass, bind_eq_ok_iff, mapError_eq_ok_iff, hbuild, Document.enableAuth_eq_ok_iff]
  constructor
  · rintro ⟨_, ⟨hvalid, hreferences, rfl⟩, _, ⟨cs, hcs, rfl⟩, h⟩
    refine ⟨hvalid, hreferences, cs, hcs, ?_⟩
    -- The document has the version of the built one, which the last step replaces.
    rw [← Except.ok.inj h]
    exact Document.versionedAfter_of_version (i.unversioned _) _ _
  · rintro ⟨hvalid, hreferences, cs, hcs, rfl⟩
    refine ⟨_, ⟨hvalid, hreferences, rfl⟩, _, ⟨cs, hcs, rfl⟩, ?_⟩
    exact congrArg Except.ok (Document.versionedAfter_of_version (i.unversioned _) _ _)

theorem isNumeric_unversioned (h : i.topology.HooksNumeric) (auth : AuthSettings) :
    (i.unversioned auth).IsNumeric := by
  obtain ⟨hprocesses, hreplicaSets⟩ := Topology.isNumeric_unversioned h
  have hauth : ({ i.topology.unversioned with auth } : Document).IsNumeric :=
    ⟨hprocesses, hreplicaSets⟩
  exact hauth.override i.overrides

/-- A pass over the document that a pass made gives that document: the settings of authentication
are those that the same contributions leave, and the content has its version already. -/
theorem pass_pass (hhooks : i.topology.HooksNumeric) (h : i.pass p = .ok q) : i.pass q = .ok q := by
  obtain ⟨hvalid, hreferences, cs, hcs, rfl⟩ := pass_eq_ok_iff.mp h
  refine pass_eq_ok_iff.mpr ⟨hvalid, hreferences, cs, hcs, ?_⟩
  have hauth : ((i.unversioned (p.auth.enabled i.options.authoritative cs)).versionedAfter
      (some p)).auth = p.auth.enabled i.options.authoritative cs := rfl
  rw [hauth, AuthSettings.enabled_enabled]
  exact (Document.versionedAfter_versionedAfter (isNumeric_unversioned hhooks _) (some p)).symm

theorem passes_eq_of_pass_eq_self (h : i.pass q = .ok q) (n : Nat) : i.passes n q = .ok q := by
  induction n with
  | zero => rfl
  | succ n ih => exact bind_eq_ok_iff.mpr ⟨q, h, ih⟩

/-- The first pass that succeeds gives the document `q` at which all further passes stay, with its
version, as long as hooks set no cache size that is no number. `q` equals itself. -/
theorem pass_steady (hhooks : i.topology.HooksNumeric) (h : i.pass p = .ok q) :
    i.pass q = .ok q ∧ (q == q) = true ∧ ∀ n, i.passes n q = .ok q := by
  have hagain := pass_pass hhooks h
  refine ⟨hagain, Document.beq_self_iff.mpr ?_, passes_eq_of_pass_eq_self hagain⟩
  obtain ⟨-, -, cs, -, rfl⟩ := pass_eq_ok_iff.mp h
  have hnumeric := isNumeric_unversioned hhooks (p.auth.enabled i.options.authoritative cs)
  exact ⟨hnumeric.processes, hnumeric.replicaSets⟩

/-- Two members and an arbiter of a version that is given a cache size. A hook sets another one for
the first of them, and of two overrides one names no process. -/
def capped : Intent where
  topology :=
    { name := "rs"
      namespaceName := "db"
      members := 2
      arbiters := 1
      version := "4.0.5"
      memoryLimitBytes := some 3000000000
      hooks := [fun index p => if index = 0 then p.withCacheSizeGb (.round false 2) else p] }
  requests := Document.mixedRequests
  options := Document.mixedOptions
  overrides := ⟨[{ name := "rs-1", disabled := true }, { name := "rs-7", disabled := true }]⟩

theorem hooksNumeric_capped : capped.topology.HooksNumeric :=
  Topology.hooksNumeric_of_hooks_eq rfl (Single.isNaN_round _ _)

theorem pass_steady_capped :
    ∃ q, capped.pass { Document.overfull with version := 7 } = .ok q ∧ q.version = 8 ∧
      capped.pass q = .ok q ∧ (q == q) = true ∧ ∀ n, capped.passes n q = .ok q := by
  have hvalid : capped.topology.validate = .ok () := by simp [Topology.validate, capped]
  have hfault : capped.topology.unversioned.referenceFault? = none := by decide +kernel
  have hreferences : capped.topology.unversioned.checkReferences = .ok () := by
    rw [Document.checkReferences, hfault]
  have hpass : capped.pass { Document.overfull with version := 7 } = .ok _ :=
    pass_eq_ok_iff.mpr ⟨hvalid, hreferences, _, rfl, rfl⟩
  exact ⟨_, hpass, by decide +kernel, pass_steady hooksNumeric_capped hpass⟩

end Intent

end ReplicaControl
