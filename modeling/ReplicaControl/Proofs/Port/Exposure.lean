import ReplicaControl.Proofs.Port.Migration

/-!
# The ports of the service during a migration

While pods are moved the service has two ports: the expected one, and the one of the first pod that
has another one (specification, section 4.4). Which ports that leaves without an entry is a question
on the document: how many ports other than the expected one the processes of the pods have
(`Document.HasOneOtherPort`).

- **The service** (`exposes_compute_iff`): the ports that it has in a pass.
- **The pods** (`mem_compute_ports`): a pass gives a pod the port that it has, or the expected one,
  so passes with one expected port lead to no further port, `hasOneOtherPort_passes`.
- `in_use_exposed_iff`: when clients reach every pod during a pass, and that they then do so in
  every later pass with the same expected port.
- `retargeted_port_not_exposed`: a change of the expected port half-way leaves a pod out.
-/

namespace ReplicaControl

namespace Document

/-- The processes of `pods` have at most one port other than `expected`. -/
def HasOneOtherPort (d : Document) (expected : UInt16) (pods : List String) : Prop :=
  ∀ pod ∈ pods, ∀ p ∈ d.process? pod, ∀ pod' ∈ pods, ∀ p' ∈ d.process? pod',
    p.isMisplaced expected = true → p'.isMisplaced expected = true → p.port = p'.port

instance (d : Document) (expected : UInt16) (pods : List String) :
    Decidable (d.HasOneOtherPort expected pods) :=
  inferInstanceAs (Decidable (∀ pod ∈ pods, ∀ p ∈ d.process? pod, ∀ pod' ∈ pods,
    ∀ p' ∈ d.process? pod',
      p.isMisplaced expected = true → p'.isMisplaced expected = true → p.port = p'.port))

/-- `withPorts` leaves each process at its name. -/
theorem process?_withPorts (d : Document) (ports : Dict String UInt16) (name : String) :
    (d.withPorts ports).process? name =
      (d.process? name).map fun p => ((ports.get? name).map p.withPort).getD p := by
  let f : Process → Process := fun p => ((ports.get? p.name).map p.withPort).getD p
  have hname : ((fun p : Process => p.name == name) ∘ f) = fun p => p.name == name := by
    funext p
    simp only [Function.comp, f]
    cases ports.get? p.name <;> rfl
  rw [process?, processes_withPorts, List.find?_map, hname]
  cases hp : d.processes.find? (·.name == name) with
  | none => simp [process?, hp]
  | some p =>
    have hpn : p.name = name := by simpa using List.find?_some hp
    simp only [process?, hp, Option.map_some, hpn]

end Document

namespace PortAssignment

variable {expected : UInt16} {states : List PodState} {d : Document}

/-! ## The ports of the service -/

/-- The service has `port` during the pass `a`. -/
def Exposes (expected : UInt16) (a : PortAssignment) (port : UInt16) : Prop :=
  ∃ s ∈ externalPorts expected a, s.port = portNumber port

theorem portNumber_injective : Function.Injective portNumber := by
  intro p q h
  have toInt_portNumber : ∀ port : UInt16, (portNumber port).toInt = (port.toNat : Int) := by
    intro port
    have hlt := port.toNat_lt
    exact Int32.toInt_ofInt_of_le (Int.le_trans (by decide) (Int.natCast_nonneg _)) (by omega)
  have hpq : (p.toNat : Int) = (q.toNat : Int) := by
    rw [← toInt_portNumber, h, toInt_portNumber]
  exact UInt16.toNat_inj.mp (Int.natCast_inj.mp hpq)

/-- The service has `expected`, and `oldPort` as well unless the pass is `idle`. -/
theorem exposes_iff {a : PortAssignment} {port : UInt16} :
    Exposes expected a port ↔ port = expected ∨ (a.change ≠ .idle ∧ port = a.oldPort) := by
  unfold Exposes externalPorts
  split
  · next h =>
    simp only [List.mem_singleton, exists_eq_left, portNumber_injective.eq_iff]
    constructor
    · rintro rfl
      exact .inl rfl
    · rintro (rfl | ⟨hc, rfl⟩)
      · rfl
      · exact (h.resolve_left hc).symm
  · next h =>
    simp only [List.mem_cons, List.not_mem_nil, or_false, exists_eq_or_imp, exists_eq_left,
      portNumber_injective.eq_iff]
    rw [not_or] at h
    simp only [h.1, ne_eq, not_false_eq_true, true_and, eq_comm]

/-- The `oldPort` of a pass is that of the first misplaced pod, or `expected` if no pod is
misplaced. -/
theorem oldPort_compute (expected : UInt16) (states : List PodState) (d : Document) :
    (compute expected states d).oldPort =
      (((podNames states).find? (d.isMisplaced expected)).map (currentPort expected d)).getD
        expected := by
  rw [compute_eq]
  cases (podNames states).find? (d.isMisplaced expected) with
  | none => rfl
  | some pod => cases isHeld states <;> rfl

/-- The service has exactly `expected` and the `oldPort` of the pass. -/
theorem exposes_compute_iff {port : UInt16} :
    Exposes expected (compute expected states d) port ↔
      port = expected ∨ port = (compute expected states d).oldPort := by
  rw [exposes_iff, oldPort_compute, compute_change]
  cases (podNames states).find? (d.isMisplaced expected) with
  | none => simp
  | some pod => cases isHeld states <;> simp

/-! ## The ports of the pods -/

theorem mem_moveFirst {ports : List (String × UInt16)} {pod : String} {port : UInt16}
    (h : (pod, port) ∈ moveFirst expected ports) :
    (pod, port) ∈ ports ∨ (port = expected ∧ pod ∈ ports.map (·.1)) := by
  induction ports with
  | nil => cases h
  | cons e rest ih =>
    obtain ⟨first, q⟩ := e
    unfold moveFirst at h
    split at h
    · rcases List.mem_cons.mp h with h | h
      · exact .inl (h ▸ List.mem_cons_self)
      · exact (ih h).imp (List.mem_cons_of_mem _) fun h => ⟨h.1, List.mem_cons_of_mem _ h.2⟩
    · rcases List.mem_cons.mp h with h | h
      · obtain ⟨rfl, rfl⟩ := Prod.mk.inj h
        exact .inr ⟨rfl, List.mem_cons_self⟩
      · exact .inl (List.mem_cons_of_mem _ h)

/-- A pass gives `pod` the port that it has, or the expected one. -/
theorem mem_compute_ports {pod : String} {port : UInt16}
    (h : (pod, port) ∈ (compute expected states d).ports) :
    pod ∈ podNames states ∧ (port = expected ∨ port = currentPort expected d pod) := by
  have hports : ∀ {e : String × UInt16},
      e ∈ (podNames states).map (fun pod => (pod, currentPort expected d pod)) →
        e.1 ∈ podNames states ∧ e.2 = currentPort expected d e.1 := by
    intro e he
    obtain ⟨pod, hpod, rfl⟩ := List.mem_map.mp he
    exact ⟨hpod, rfl⟩
  -- Ports differ from the current ones only in a pass that is in progress.
  have hmoved : (pod, port) ∈ (podNames states).map (fun pod => (pod, currentPort expected d pod)) ∨
      (port = expected ∧ pod ∈ podNames states) := by
    rw [compute_eq] at h
    cases hf : (podNames states).find? (d.isMisplaced expected) with
    | none => exact .inl (by simpa [hf] using h)
    | some first =>
      cases hheld : isHeld states with
      | true => exact .inl (by simpa [hf, hheld] using h)
      | false =>
        simp only [hf, hheld, Bool.false_eq_true, if_false] at h
        exact (mem_moveFirst h).imp_right fun h => ⟨h.1, by simpa using h.2⟩
  rcases hmoved with h | ⟨rfl, hpod⟩
  · exact ⟨(hports h).1, .inr (hports h).2⟩
  · exact ⟨hpod, .inl rfl⟩

/-- A pod is misplaced if it has a process whose port is neither `0` nor `expected`. -/
theorem isMisplaced_eq_true_iff {pod : String} :
    d.isMisplaced expected pod = true ↔
      ∃ p ∈ d.process? pod, p.isMisplaced expected = true ∧ currentPort expected d pod = p.port := by
  unfold Document.isMisplaced currentPort
  cases d.process? pod with
  | none => simp
  | some p =>
    simp only [Option.any_some, Option.mem_some_iff, exists_eq_left', Process.isMisplaced,
      Bool.and_eq_true, bne_iff_ne]
    exact ⟨fun h => ⟨h, if_neg h.1⟩, fun h => h.1⟩

/-- A process that is misplaced after a pass had its port before the pass. -/
theorem exists_of_isMisplaced_pass {pod : String} {q : Process}
    (hq : q ∈ (pass expected states d).process? pod) (hmis : q.isMisplaced expected = true) :
    ∃ p ∈ d.process? pod, p.isMisplaced expected = true ∧ p.port = q.port := by
  rw [pass, applyTo, Document.process?_withPorts] at hq
  obtain ⟨p, hp, rfl⟩ := Option.map_eq_some_iff.mp hq
  refine ⟨p, hp, ?_⟩
  cases hg : (compute expected states d).toDict.get? pod with
  | none => exact ⟨by simpa [hg] using hmis, by simp⟩
  | some port =>
    simp only [hg, Option.map_some, Option.getD_some, Process.isMisplaced, Process.port_withPort,
      Bool.and_eq_true, bne_iff_ne] at hmis ⊢
    rw [toDict, Dict.get?_ofList] at hg
    obtain ⟨l₁, l₂, hl, -⟩ := List.lookup_eq_some_iff.mp hg
    have hmem : (pod, port) ∈ (compute expected states d).ports :=
      List.mem_reverse.mp (by rw [hl]; simp)
    -- The expected port is no misplaced one, so the pass gave the pod the port that it had.
    have hcur := (mem_compute_ports hmem).2.resolve_left hmis.2
    rw [currentPort, Option.mem_def.mp hp] at hcur
    by_cases h₀ : p.port = 0
    · exact absurd (hcur.trans (if_pos h₀)) hmis.2
    · have hport : port = p.port := hcur.trans (if_neg h₀)
      exact ⟨hport ▸ hmis, hport.symm⟩

/-- A pass keeps `HasOneOtherPort`: it leads to no further port. -/
theorem hasOneOtherPort_pass {pods : List String} (h : d.HasOneOtherPort expected pods) :
    (pass expected states d).HasOneOtherPort expected pods := by
  intro pod hpod q hq pod' hpod' q' hq' hmis hmis'
  obtain ⟨p, hp, hpm, hpq⟩ := exists_of_isMisplaced_pass hq hmis
  obtain ⟨p', hp', hpm', hpq'⟩ := exists_of_isMisplaced_pass hq' hmis'
  rw [← hpq, ← hpq']
  exact h pod hpod p hp pod' hpod' p' hp' hpm hpm'

/-- Passes with one `expected` port keep `HasOneOtherPort`. -/
theorem hasOneOtherPort_passes {pods : List String} (h : d.HasOneOtherPort expected pods)
    (run : List (List PodState)) : (passes expected d run).HasOneOtherPort expected pods := by
  induction run generalizing d with
  | nil => exact h
  | cons states run ih => exact ih (hasOneOtherPort_pass h)

/-! ## Reaching every pod -/

/-- Clients use `port` around a pass: the pass gives it to a pod, or the process of a pod had it
before. -/
def InUse (expected : UInt16) (states : List PodState) (d : Document) (port : UInt16) : Prop :=
  port ∈ (compute expected states d).ports.map (·.2) ∨
    ∃ pod ∈ podNames states, ∃ p ∈ d.process? pod, p.port = port ∧ port ≠ 0

/-- By `HasOneOtherPort`, a misplaced process has the `oldPort` of the pass. -/
theorem port_eq_oldPort (h : d.HasOneOtherPort expected (podNames states)) {pod : String}
    (hpod : pod ∈ podNames states) {p : Process} (hp : p ∈ d.process? pod)
    (hmis : p.isMisplaced expected = true) : p.port = (compute expected states d).oldPort := by
  rw [oldPort_compute]
  cases hf : (podNames states).find? (d.isMisplaced expected) with
  | none =>
    have hnone := List.find?_eq_none.mp hf pod hpod
    rw [Document.isMisplaced, Option.mem_def.mp hp, Option.any_some] at hnone
    exact absurd hmis hnone
  | some first =>
    obtain ⟨q, hq, hqm, hport⟩ := isMisplaced_eq_true_iff.mp (List.find?_some hf)
    rw [Option.map_some, Option.getD_some, hport]
    exact h pod hpod p hp first (List.mem_of_find?_eq_some hf) q hq hmis hqm

/-- By `HasOneOtherPort`, the service has every port that is `InUse`. -/
theorem exposes_of_inUse (h : d.HasOneOtherPort expected (podNames states)) {port : UInt16}
    (huse : InUse expected states d port) : Exposes expected (compute expected states d) port := by
  rw [exposes_compute_iff]
  have hprocess : ∀ pod ∈ podNames states, ∀ p ∈ d.process? pod, p.port ≠ 0 →
      p.port = expected ∨ p.port = (compute expected states d).oldPort := by
    intro pod hpod p hp h₀
    by_cases he : p.port = expected
    · exact .inl he
    · exact .inr (port_eq_oldPort h hpod hp (by simp [Process.isMisplaced, h₀, he]))
  -- A port that the pass gives is the expected one or that of a process; a port in the document is
  -- the second case itself.
  rcases huse with hport | ⟨pod, hpod, p, hp, rfl, h₀⟩
  · obtain ⟨⟨pod, q⟩, hmem, rfl⟩ := List.mem_map.mp hport
    obtain ⟨hpod, hq | hq⟩ := mem_compute_ports hmem
    · exact .inl hq
    · cases hp : d.process? pod with
      | none =>
        rw [currentPort, hp] at hq
        exact .inl hq
      | some p =>
        rw [currentPort, hp] at hq
        by_cases h₀ : p.port = 0
        · exact .inl (hq.trans (if_pos h₀))
        · have hq : q = p.port := hq.trans (if_neg h₀)
          exact hq ▸ hprocess pod hpod p hp h₀
  · exact hprocess pod hpod p hp h₀

/-- The service has exactly the expected port and the old port of a pass. So it has every port in
use if and only if the processes of the pods have at most one port other than the expected one
(`HasOneOtherPort`), and then it has every port in use in each later pass with the same expected
port, too. -/
theorem in_use_exposed_iff (expected : UInt16) (states : List PodState) (d : Document) :
    (∀ port, Exposes expected (compute expected states d) port ↔
      port = expected ∨ port = (compute expected states d).oldPort) ∧
    ((∀ port, InUse expected states d port → Exposes expected (compute expected states d) port) ↔
      d.HasOneOtherPort expected (podNames states)) ∧
    (d.HasOneOtherPort expected (podNames states) → ∀ (run : List (List PodState))
      (later : List PodState), podNames later = podNames states → ∀ port,
        InUse expected later (passes expected d run) port →
          Exposes expected (compute expected later (passes expected d run)) port) := by
  refine ⟨fun port => exposes_compute_iff, ⟨fun hall => ?_, fun h port => exposes_of_inUse h⟩,
    fun h run later hlater port huse => ?_⟩
  · -- A misplaced process uses its port, which is not the expected one, so it is the old port.
    have hold : ∀ pod ∈ podNames states, ∀ p ∈ d.process? pod, p.isMisplaced expected = true →
        p.port = (compute expected states d).oldPort := by
      intro pod hpod p hp hmis
      simp only [Process.isMisplaced, Bool.and_eq_true, bne_iff_ne] at hmis
      have hexp := hall p.port (.inr ⟨pod, hpod, p, hp, rfl, hmis.1⟩)
      exact (exposes_compute_iff.mp hexp).resolve_left hmis.2
    intro pod hpod p hp pod' hpod' p' hp' hmis hmis'
    rw [hold pod hpod p hp hmis, hold pod' hpod' p' hp' hmis']
  · exact exposes_of_inUse (hlater ▸ hasOneOtherPort_passes h run) huse

/-- Half-way from port 1000 to 2000, with a pod that has no port yet and a process that is not
listed: every port in use is a port of the service, now and after two more passes. -/
theorem in_use_exposed_half_way :
    let d := Document.ofPorts [("rs-0", 2000), ("rs-1", 1000), ("rs-2", 0), ("other", 3000)]
    let states := found false ["rs-0", "rs-1", "rs-2"]
    let later := passes 2000 d [states, found true ["rs-0", "rs-1", "rs-2"]]
    d.HasOneOtherPort 2000 (podNames states) ∧ InUse 2000 states d 1000 ∧
      (∀ port, InUse 2000 states d port → Exposes 2000 (compute 2000 states d) port) ∧
      ∀ port, InUse 2000 states later port → Exposes 2000 (compute 2000 states later) port := by
  intro d states later
  have hone : d.HasOneOtherPort 2000 (podNames states) := by decide +kernel
  have huse : InUse 2000 states d 1000 := .inl (by decide +kernel)
  obtain ⟨-, hall, hlater⟩ := in_use_exposed_iff 2000 states d
  exact ⟨hone, huse, hall.mpr hone, hlater hone _ states rfl⟩

/-- A migration from port 1000 to 2000 that is sent on to 3000 after its first pass: the service has
the ports 3000 and 2000, and the two pods that are still at 1000 are left out. -/
theorem retargeted_port_not_exposed :
    ¬∀ (expected : UInt16) (states : List PodState) (d : Document) (port : UInt16),
      InUse expected states d port → Exposes expected (compute expected states d) port := by
  intro h
  let pods := ["rs-0", "rs-1", "rs-2"]
  let d := passes 2000 (Document.ofPorts (pods.map (·, 1000))) [found true pods]
  have huse : InUse 3000 (found true pods) d 1000 := .inl (by decide +kernel)
  have hold : (compute 3000 (found true pods) d).oldPort = 2000 := by decide +kernel
  rcases exposes_compute_iff.mp (h 3000 (found true pods) d 1000 huse) with he | he
  · exact absurd he (by decide)
  · rw [hold] at he
    exact absurd he (by decide)

end PortAssignment

end ReplicaControl
