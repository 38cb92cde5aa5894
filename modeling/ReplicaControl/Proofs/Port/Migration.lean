import ReplicaControl.Proofs.Port.Pass

/-!
# A port migration

Passes over the same pods with the same expected port, whatever is known of the pods in each of them
(specification, section 4.4). The first misplaced pod is moved in every pass that is not held, so
the migration goes through the pods in their order, never back, and ends.

- **One pass** (`PassEffect`, `passEffect`): all that a pass does to a document.
- **Runs** (`passes`, `changes`): the passes in progress so far and the pods left to move make up
  the pods that were to be moved, `length_misplaced_passes`.
- `migration_converges`: once no pod is left to move, passes are idle and change nothing.
-/

namespace ReplicaControl.PortAssignment

variable {expected : UInt16} {states : List PodState} {d : Document}

/-- The document after the passes of `run`, one after the other. -/
def passes (expected : UInt16) (d : Document) (run : List (List PodState)) : Document :=
  run.foldl (fun d states => pass expected states d) d

/-- The `PortChange` that each pass of a run reports. -/
def changes (expected : UInt16) (d : Document) : List (List PodState) → List PortChange
  | [] => []
  | states :: run =>
    (compute expected states d).change :: changes expected (pass expected states d) run

/-- All that a pass over the pods of `states` does to the document `d`. Processes before and after
the pass stand side by side. -/
structure PassEffect (expected : UInt16) (states : List PodState) (d : Document) : Prop where
  /-- Only `processes` change. -/
  only_processes :
    pass expected states d = { d with processes := (pass expected states d).processes }
  /-- There are as many processes as before. -/
  length_eq : (pass expected states d).processes.length = d.processes.length
  /-- Of a process only the `port` changes. -/
  only_ports : ∀ x ∈ d.processes.zip (pass expected states d).processes,
    x.2 = x.1.withPort x.2.port
  /-- A process that is not among `podNames` does not change. -/
  unlisted : ∀ x ∈ d.processes.zip (pass expected states d).processes,
    x.1.name ∉ podNames states → x.2 = x.1
  /-- A listed process without a port is given `expected`. -/
  unset : ∀ x ∈ d.processes.zip (pass expected states d).processes,
    x.1.name ∈ podNames states → x.1.port = 0 → x.2.port = expected
  /-- A process that had a port keeps it or is given `expected`. -/
  kept_or_expected : ∀ x ∈ d.processes.zip (pass expected states d).processes,
    x.1.port ≠ 0 → x.2.port ≠ x.1.port → x.2.port = expected
  /-- At most one process that had a port is given another one: that of the first misplaced pod, and
  only if every pod that was `found` has converged. -/
  moved : d.moved (pass expected states d) = [] ∨
    ∃ pod, d.moved (pass expected states d) = [pod] ∧
      (podNames states).find? (d.isMisplaced expected) = some pod ∧
      ∀ s ∈ states, s.found = true → s.reachedGoalState = true
  /-- A pass that is `inProgress` leaves one misplaced process fewer. -/
  fewer : (compute expected states d).change = .inProgress →
    ((pass expected states d).misplaced expected (podNames states)).length + 1 =
      (d.misplaced expected (podNames states)).length
  /-- Any other pass leaves as many `misplaced` processes. -/
  as_many : (compute expected states d).change ≠ .inProgress →
    ((pass expected states d).misplaced expected (podNames states)).length =
      (d.misplaced expected (podNames states)).length

theorem passEffect (hd : d.processNames.Nodup) (hpods : (podNames states).Nodup) :
    PassEffect expected states d := by
  have hzip : ∀ x ∈ d.processes.zip (pass expected states d).processes,
      x.1 ∈ d.processes ∧ x.2 = settled expected states d x.1 := by
    intro x hx
    rw [zip_pass hpods] at hx
    obtain ⟨p, hp, rfl⟩ := List.mem_map.mp hx
    exact ⟨hp, rfl⟩
  have hlen := length_misplaced_pass expected hd hpods
  exact
    { only_processes := by rw [pass_eq hpods]
      length_eq := by rw [pass_eq hpods, List.length_map]
      only_ports := fun x hx => by
        rw [(hzip x hx).2]
        exact settled_eq_withPort x.1
      unlisted := fun x hx hpod => by rw [(hzip x hx).2, settled_of_not_mem hpod]
      unset := fun x hx hpod h₀ => by
        rw [(hzip x hx).2, port_settled_of_mem hd (hzip x hx).1 hpod, if_pos (.inl h₀)]
      -- A port that changes is that of a listed process; there `settled` leaves only `expected`.
      kept_or_expected := fun x hx h₀ hne => by
        obtain ⟨hp, hq⟩ := hzip x hx
        rw [hq] at hne ⊢
        by_cases hpod : x.1.name ∈ podNames states
        · rw [port_settled_of_mem hd hp hpod] at hne ⊢
          split at hne
          · next h => exact if_pos h
          · exact absurd rfl hne
        · rw [settled_of_not_mem hpod] at hne
          exact absurd rfl hne
      -- The gate of `movedPod?` is the condition on the pods that were found: a pod that lags would
      -- have held the pass.
      moved := by
        rw [moved_pass hd hpods]
        cases hm : movedPod? expected states d with
        | none => exact .inl rfl
        | some pod =>
          unfold movedPod? at hm
          split at hm
          · cases hm
          · next hheld =>
            refine .inr ⟨pod, rfl, hm, fun s hs hfound => ?_⟩
            by_contra hlag
            exact hheld (List.any_eq_true.mpr ⟨s, hs, by simp [hfound, hlag]⟩)
      fewer := fun hc => by
        obtain ⟨pod, hpod⟩ := Option.isSome_iff_exists.mp (change_eq_inProgress_iff.mp hc)
        rwa [hpod] at hlen
      as_many := fun hc => by
        have hnone : movedPod? expected states d = none := by
          rw [← Option.not_isSome_iff_eq_none]
          exact fun h => hc (change_eq_inProgress_iff.mpr h)
        rwa [hnone] at hlen }

/-- After a pass every listed process has a port, unless the expected port is `0`. -/
theorem port_ne_zero_of_mem_pass (hd : d.processNames.Nodup) (hpods : (podNames states).Nodup)
    {p : Process} (hp : p ∈ (pass expected states d).processes) (hpod : p.name ∈ podNames states)
    (h₀ : p.port = 0) : expected = 0 := by
  rw [pass_eq hpods] at hp
  obtain ⟨q, hq, rfl⟩ := List.mem_map.mp hp
  rw [name_settled] at hpod
  rw [port_settled_of_mem hd hq hpod] at h₀
  split at h₀
  · exact h₀
  · next h => exact absurd (.inl h₀) h

/-- An `idle` pass changes nothing if every listed process has a port. -/
theorem pass_eq_self (hd : d.processNames.Nodup) (hpods : (podNames states).Nodup)
    (hidle : (compute expected states d).change = .idle)
    (hset : ∀ p ∈ d.processes, p.name ∈ podNames states → p.port = 0 → expected = 0) :
    pass expected states d = d := by
  have hsame : d.processes.map (settled expected states d) = d.processes := by
    refine (List.map_congr_left fun p hp => ?_).trans (List.map_id _)
    rw [settled_eq_withPort]
    by_cases hpod : p.name ∈ podNames states
    · have hmis := change_eq_idle_iff.mp hidle p.name hpod
      rw [Document.isMisplaced_name hd expected hp] at hmis
      have hport : (settled expected states d p).port = p.port := by
        rw [port_settled_of_mem hd hp hpod]
        split
        · next h =>
          -- An idle pass gives `expected` to a process without a port, which is no change only if
          -- that is `0`.
          by_cases h₀ : p.port = 0
          · rw [h₀, hset p hp hpod h₀]
          · have : p.port = expected := by simpa [Process.isMisplaced, h₀] using hmis
            exact this.symm
        · rfl
      rw [hport]
      rfl
    · rw [settled_of_not_mem hpod]
      rfl
  rw [pass_eq hpods, hsame]

section Run

variable {pods : List String} {run : List (List PodState)}

theorem passes_concat (expected : UInt16) (d : Document) (run : List (List PodState))
    (states : List PodState) :
    passes expected d (run ++ [states]) = pass expected states (passes expected d run) := by
  simp [passes]

/-- Passes keep `processNames`. -/
theorem processNames_passes (hpods : pods.Nodup) (hrun : ∀ s ∈ run, podNames s = pods) :
    (passes expected d run).processNames = d.processNames := by
  induction run generalizing d with
  | nil => rfl
  | cons states run ih =>
    have hstates : podNames states = pods := hrun states List.mem_cons_self
    calc (passes expected (pass expected states d) run).processNames
        = (pass expected states d).processNames := ih fun s hs => hrun s (List.mem_cons_of_mem _ hs)
      _ = d.processNames := processNames_pass (hstates ▸ hpods)

/-- The passes that were `inProgress` and the processes that are still misplaced make up those that
were misplaced at first. -/
theorem length_misplaced_passes (expected : UInt16) (hd : d.processNames.Nodup) (hpods : pods.Nodup)
    (hrun : ∀ s ∈ run, podNames s = pods) :
    ((passes expected d run).misplaced expected pods).length +
        (changes expected d run).count .inProgress = (d.misplaced expected pods).length := by
  induction run generalizing d with
  | nil => rfl
  | cons states run ih =>
    have hstates : podNames states = pods := hrun states List.mem_cons_self
    have hnodup : (podNames states).Nodup := hstates ▸ hpods
    have heffect : PassEffect expected states d := passEffect hd hnodup
    have hrest := ih (d := pass expected states d) ((processNames_pass hnodup).symm ▸ hd)
      fun s hs => hrun s (List.mem_cons_of_mem _ hs)
    change ((passes expected (pass expected states d) run).misplaced expected pods).length + _ = _
    rw [changes, List.count_cons]
    -- Each pass is in progress and lowers what is left by one, or does neither.
    by_cases hc : (compute expected states d).change = .inProgress
    · have := hstates ▸ heffect.fewer hc
      simp only [hc, beq_self_eq_true, if_true]
      omega
    · have := hstates ▸ heffect.as_many hc
      rw [if_neg (by simpa using hc)]
      omega

/-- A pass is `idle` if and only if no process is misplaced. -/
theorem change_eq_idle_iff_misplaced (hd : d.processNames.Nodup) :
    (compute expected states d).change = .idle ↔ d.misplaced expected (podNames states) = [] := by
  rw [change_eq_idle_iff, Document.misplaced, List.filter_eq_nil_iff]
  constructor
  · intro h p hp
    by_cases hpod : p.name ∈ podNames states
    · have := h p.name hpod
      rw [Document.isMisplaced_name hd expected hp] at this
      simp [this]
    · simp [hpod]
  · intro h pod hpod
    by_contra hmis
    obtain ⟨p, hp, hpm⟩ := (Option.any_eq_true _ _).mp (Bool.not_eq_false _ ▸ hmis)
    obtain ⟨hmem, rfl⟩ := (Document.process?_eq_some_iff hd).mp hp
    exact h p hmem (by simp [hpod, hpm])

/-- Every pass of a run has the effect of a pass (`PassEffect`). After as many passes in progress as
there were misplaced processes every later pass is idle, and it changes nothing, unless it is the
first pass of all and some listed process has no port yet. -/
theorem migration_converges (expected : UInt16) {d : Document} {pods : List String}
    {run : List (List PodState)} {states : List PodState} (hd : d.processNames.Nodup)
    (hpods : pods.Nodup) (hrun : ∀ s ∈ run, podNames s = pods)
    (hstates : podNames states = pods) :
    PassEffect expected states (passes expected d run) ∧
      ((changes expected d run).count .inProgress = (d.misplaced expected pods).length →
        (compute expected states (passes expected d run)).change = .idle ∧
          ((run = [] → ∀ p ∈ d.processes, p.name ∈ pods → p.port ≠ 0) →
            pass expected states (passes expected d run) = passes expected d run)) := by
  subst hstates
  have hnames : (passes expected d run).processNames.Nodup :=
    (processNames_passes hpods hrun).symm ▸ hd
  refine ⟨passEffect hnames hpods, fun hcount => ?_⟩
  have hlen := length_misplaced_passes expected hd hpods hrun
  have hnone : (passes expected d run).misplaced expected (podNames states) = [] :=
    List.length_eq_zero_iff.mp (by omega)
  have hidle := (change_eq_idle_iff_misplaced hnames).mpr hnone
  refine ⟨hidle, fun hset => pass_eq_self hnames hpods hidle fun p hp hpod h₀ => ?_⟩
  -- Without a pass before this one the hypothesis gives the ports; otherwise the last pass gave
  -- them.
  rcases List.eq_nil_or_concat' run with rfl | ⟨run, last, rfl⟩
  · exact absurd h₀ (hset rfl p hp hpod)
  · have hlast : podNames last = podNames states := hrun last (by simp)
    have hinit : ∀ s ∈ run, podNames s = podNames states := fun s hs =>
      hrun s (List.mem_append_left _ hs)
    rw [passes_concat] at hp
    exact port_ne_zero_of_mem_pass ((processNames_passes hpods hinit).symm ▸ hd) (hlast ▸ hpods) hp
      (hlast ▸ hpod) h₀

end Run

/-- What is known of `pods` that all exist. -/
def found (reached : Bool) (pods : List String) : List PodState :=
  pods.map (⟨·, true, reached, false⟩)

/-- Two processes are moved in two passes, both `inProgress`, while a process without a port is
given the expected one at once and one that is not listed stays. -/
theorem migration_converges_two :
    let d := Document.ofPorts [("rs-0", 1000), ("rs-1", 0), ("rs-2", 1000), ("other", 1000)]
    let pods := ["rs-0", "rs-1", "rs-2"]
    let run := [found false pods, found true pods, found true pods]
    let states := found false pods
    d.processNames.Nodup ∧ pods.Nodup ∧ (∀ s ∈ run, podNames s = pods) ∧
      podNames states = pods ∧
      (changes 2000 d run).count .inProgress = (d.misplaced 2000 pods).length ∧
      PassEffect 2000 states (passes 2000 d run) ∧
      (compute 2000 states (passes 2000 d run)).change = .idle ∧
      pass 2000 states (passes 2000 d run) = passes 2000 d run := by
  intro d pods run states
  have hd : d.processNames.Nodup := by decide
  have hpods : pods.Nodup := by decide
  have hrun : ∀ s ∈ run, podNames s = pods := by decide
  have hstates : podNames states = pods := by decide
  have hcount : (changes 2000 d run).count .inProgress = (d.misplaced 2000 pods).length := by
    decide +kernel
  obtain ⟨heffect, hdone⟩ := migration_converges 2000 hd hpods hrun hstates
  obtain ⟨hidle, hsame⟩ := hdone hcount
  exact ⟨hd, hpods, hrun, hstates, hcount, heffect, hidle, hsame (by simp [run])⟩

/-- With no process to move, the first pass of a run is `idle` and may still change the document: it
gives the expected port to a listed process that has none. -/
theorem idle_pass_sets_missing_port :
    ¬∀ (expected : UInt16) (d : Document) (pods : List String) (run : List (List PodState))
      (states : List PodState), d.processNames.Nodup → pods.Nodup →
      (∀ s ∈ run, podNames s = pods) → podNames states = pods →
      (changes expected d run).count .inProgress = (d.misplaced expected pods).length →
      (compute expected states (passes expected d run)).change = .idle ∧
        pass expected states (passes expected d run) = passes expected d run := by
  intro h
  have hsame := (h 2000 (Document.ofPorts [("rs-0", 0)]) ["rs-0"] [] (found true ["rs-0"]) (by decide)
    (by decide) (by decide) (by decide) (by decide)).2
  have hports : [(2000 : UInt16)] = [0] := by
    have := congrArg (fun d : Document => d.processes.map (·.port)) hsame
    exact (by decide +kernel : [(2000 : UInt16)] = (pass 2000 (found true ["rs-0"])
      (Document.ofPorts [("rs-0", 0)])).processes.map (·.port)).trans this
  exact absurd hports (by decide)

end ReplicaControl.PortAssignment
