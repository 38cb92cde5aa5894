import ReplicaControl.Cluster.Documents
import ReplicaControl.Proofs.Cluster.Keys
import ReplicaControl.Proofs.Document.Codec
import ReplicaControl.Proofs.Document.Content

/-!
# Storing documents

`ensureDocument` reads the text that is stored, and writes another one only if the content changes
(specification, section 10.2). What it leaves is read back if the numbers of the document
are finite; otherwise the text that it wrote is no document, and no later call gets past it.

- **One call** (`Ensures`): what it can do, and that it does no more (`ensureDocument_spec`).
- **Reading back** (`ensureDocument_reads_back`): what is read after a call that succeeds. A
  document that is accepted and cannot be read again is in `stored_unreadable`.
- **Documents that can be read** (`Stores`): what a call does to a cluster whose stored text is a
  document (`stores_ensureDocument`).
- **Runs of calls** (`ensureDocuments_versions`): writes and versions count the calls that change
  something.
-/

namespace ReplicaControl

theorem Single.isNaN_of_isFinite {x : Single} (h : x.isFinite = true) : x.isNaN = false := by
  simp only [isFinite, isNaN, decide_eq_true_eq, decide_eq_false_iff_not] at h ⊢
  omega

/-- A document of finite numbers has no NaN, so that it equals itself. -/
theorem Document.IsFinite.isNumeric {d : Document} (h : d.IsFinite) : d.IsNumeric where
  processes p hp x hx := Single.isNaN_of_isFinite (h x (mem_singles.mpr (.inl ⟨p, hp, hx⟩)))
  replicaSets r hr m hm :=
    Single.isNaN_of_isFinite (h m.priority (mem_singles.mpr (.inr ⟨r, hr, m, hm, rfl⟩)))

/-- `versionedAfter` changes nothing but the version, which is not content. -/
theorem Document.versionedAfter_contentEquals {d : Document} (h : d.IsNumeric)
    (p : Option Document) : (d.versionedAfter p).contentEquals d = true :=
  show d.contentEquals d = true from contentEquals_self_iff.mpr h

namespace Cluster

variable {c : Cluster} {namespaceName name : String} {wanted d : Document} {stored : Option Document}

/-! ## Texts -/

/-- The text under `documentKey` in the secret of a document. -/
def documentText? (c : Cluster) (namespaceName name : String) : Option String :=
  (c.secrets.get? (namespaceName, name)).bind (·.get? documentKey)

/-- `readDocument` gives what `documentText?` says, unless look-ups of the secret fail. -/
theorem readDocument_eq (h : c.secretReadFailures.get? (namespaceName, name) = none) :
    c.readDocument namespaceName name =
      match c.documentText? namespaceName name with
      | none => .ok none
      | some text =>
        match Document.ofText? text with
        | some d => .ok (some d)
        | none => .error (.unreadable namespaceName name) := by
  rw [readDocument, secret?_eq_ok_iff.mpr ⟨h, rfl⟩, documentText?]
  cases c.secrets.get? (namespaceName, name) <;> rfl

theorem secretReadFailures_of_readDocument_eq_ok
    (h : c.readDocument namespaceName name = .ok stored) :
    c.secretReadFailures.get? (namespaceName, name) = none := by
  rw [readDocument] at h
  cases hfound : c.secret? namespaceName name with
  | ok found => exact (secret?_eq_ok_iff.mp hfound).1
  | error e =>
    rw [hfound] at h
    cases h

/-- The cluster with `d` written: its text is all that the secret holds. -/
def withDocument (c : Cluster) (namespaceName name : String) (d : Document) : Cluster :=
  { c.insertSecret ⟨namespaceName, name, Dict.empty.insert documentKey d.toText⟩ with
    secretWrites := c.secretWrites + 1 }

theorem get?_secrets_withDocument (c : Cluster) (namespaceName name : String) (d : Document)
    (key : String × String) :
    (c.withDocument namespaceName name d).secrets.get? key =
      if key = (namespaceName, name) then some (Dict.empty.insert documentKey d.toText)
      else c.secrets.get? key :=
  Dict.get?_insert _ _ _ _

@[simp] theorem documentText?_withDocument (c : Cluster) (namespaceName name : String)
    (d : Document) :
    (c.withDocument namespaceName name d).documentText? namespaceName name = some d.toText := by
  rw [documentText?, get?_secrets_withDocument, if_pos rfl, Option.bind_some, Dict.get?_insert,
    if_pos rfl]

/-- `readDocument` reads a document of finite numbers back after `withDocument`. -/
theorem readDocument_withDocument (h : c.secretReadFailures.get? (namespaceName, name) = none)
    (hfinite : d.IsFinite) (hback : d.ReadsBack) :
    (c.withDocument namespaceName name d).readDocument namespaceName name = .ok (some d) := by
  rw [readDocument_eq (c := c.withDocument namespaceName name d) h, documentText?_withDocument]
  simp only [Document.ofText?_toText_eq_some hfinite hback]

/-- `readDocument` fails after `withDocument` of a document with a number that is not finite. -/
theorem readDocument_withDocument_eq_error
    (h : c.secretReadFailures.get? (namespaceName, name) = none) (hfinite : ¬d.IsFinite) :
    (c.withDocument namespaceName name d).readDocument namespaceName name =
      .error (.unreadable namespaceName name) := by
  rw [readDocument_eq (c := c.withDocument namespaceName name d) h, documentText?_withDocument]
  simp only [Document.ofText?_toText_eq_none hfinite]

/-! ## One call -/

/-- What `ensureDocument` can do, with what it returns and the cluster that it leaves: fail to read
the stored text, find the wanted content in it, or write, which may be refused. -/
inductive Ensures (c : Cluster) (namespaceName name : String) (wanted : Document) :
    Except StoreError StoredDocument × Cluster → Prop where
  | unread {e : StoreError} (hread : c.readDocument namespaceName name = .error e) :
    Ensures c namespaceName name wanted (.error e, c)
  | kept {d : Document} (hread : c.readDocument namespaceName name = .ok (some d))
    (hsame : d.contentEquals wanted = true) :
    Ensures c namespaceName name wanted (.ok ⟨d, false⟩, c)
  | refused {stored : Option Document} {message : String}
    (hread : c.readDocument namespaceName name = .ok stored)
    (hnew : ∀ d ∈ stored, d.contentEquals wanted = false)
    (hwrite : c.secretWriteFailures.get? (namespaceName, name) = some message) :
    Ensures c namespaceName name wanted (.error (.client (.api message)), c)
  | written {stored : Option Document} (hread : c.readDocument namespaceName name = .ok stored)
    (hnew : ∀ d ∈ stored, d.contentEquals wanted = false)
    (hwrite : c.secretWriteFailures.get? (namespaceName, name) = none) :
    Ensures c namespaceName name wanted (.ok ⟨wanted.versionedAfter stored, true⟩,
      c.withDocument namespaceName name (wanted.versionedAfter stored))

theorem ensures_writeDocument (hread : c.readDocument namespaceName name = .ok stored)
    (hnew : ∀ d ∈ stored, d.contentEquals wanted = false) :
    Ensures c namespaceName name wanted (c.writeDocument namespaceName name wanted stored) := by
  let secret : Secret := Secret.withEntry { namespaceName, name } documentKey
    (wanted.versionedAfter stored).toText
  cases hwrite : c.secretWriteFailures.get? (namespaceName, name) with
  | none =>
    rw [writeDocument, putSecret_eq_ok (s := secret) hwrite]
    exact .written hread hnew hwrite
  | some message =>
    rw [writeDocument, putSecret_eq_error (s := secret) hwrite]
    exact .refused hread hnew hwrite

/-- Every call is one of `Ensures`. -/
theorem ensureDocument_spec (c : Cluster) (namespaceName name : String) (wanted : Document) :
    Ensures c namespaceName name wanted (c.ensureDocument namespaceName name wanted) := by
  unfold ensureDocument
  -- In the order of the call: what is stored, whether its content is the wanted one, the write.
  cases hread : c.readDocument namespaceName name with
  | error e => exact .unread hread
  | ok stored =>
    cases stored with
    | none => exact ensures_writeDocument hread nofun
    | some d =>
      cases hsame : d.contentEquals wanted with
      | true => simpa [hsame] using Ensures.kept hread hsame
      | false =>
        simp only [hsame, Bool.false_eq_true, if_false]
        refine ensures_writeDocument hread ?_
        rintro _ ⟨⟩
        exact hsame

/-- `ensureDocument` changes nothing if it cannot read the stored text. -/
theorem ensureDocument_of_readDocument_eq_error {e : StoreError}
    (h : c.readDocument namespaceName name = .error e) (wanted : Document) :
    c.ensureDocument namespaceName name wanted = (.error e, c) := by
  rw [ensureDocument, h]

/-- `ensureDocument` changes nothing if the content is the one that is stored. -/
theorem ensureDocument_of_contentEquals (h : c.readDocument namespaceName name = .ok (some d))
    (hsame : d.contentEquals wanted = true) :
    c.ensureDocument namespaceName name wanted = (.ok ⟨d, false⟩, c) := by
  rw [ensureDocument, h]
  simp only [hsame, if_true]

/-- What a call that succeeds returns is stored afterwards, and the same call then changes nothing,
if `r.changed` is `false` or the numbers of `wanted` are finite. A call that writes a number that is
not finite makes the stored text `unreadable` for every later call. -/
theorem ensureDocument_reads_back {r : StoredDocument}
    (h : (c.ensureDocument namespaceName name wanted).1 = .ok r) :
    (r.changed = false ∨ wanted.IsFinite ∧ wanted.ReadsBack →
      (c.ensureDocument namespaceName name wanted).2.readDocument namespaceName name =
          .ok (some r.document) ∧
        (c.ensureDocument namespaceName name wanted).2.ensureDocument namespaceName name wanted =
          (.ok ⟨r.document, false⟩, (c.ensureDocument namespaceName name wanted).2)) ∧
      (r.changed = true → ¬wanted.IsFinite →
        (c.ensureDocument namespaceName name wanted).2.readDocument namespaceName name =
            .error (.unreadable namespaceName name) ∧
          ∀ d, (c.ensureDocument namespaceName name wanted).2.ensureDocument namespaceName name d =
            (.error (.unreadable namespaceName name),
              (c.ensureDocument namespaceName name wanted).2)) := by
  have hspec := ensureDocument_spec c namespaceName name wanted
  generalize c.ensureDocument namespaceName name wanted = result at h hspec ⊢
  cases hspec with
  | unread | refused => cases h
  | kept hread hsame =>
    cases h
    exact ⟨fun _ => ⟨hread, ensureDocument_of_contentEquals hread hsame⟩, nofun⟩
  | @written stored hread hnew hwrite =>
    cases h
    have hserved := secretReadFailures_of_readDocument_eq_ok hread
    -- A version is no number of the document, nor is it content.
    have hfinite' : (wanted.versionedAfter stored).IsFinite ↔ wanted.IsFinite := .rfl
    refine ⟨fun hkept => ?_, fun _ hfinite => ?_⟩
    · obtain ⟨hfinite, hback⟩ := hkept.resolve_left nofun
      have hnext := readDocument_withDocument hserved (hfinite'.mpr hfinite)
        (show (wanted.versionedAfter stored).ReadsBack from hback)
      exact ⟨hnext, ensureDocument_of_contentEquals hnext
        (Document.versionedAfter_contentEquals hfinite.isNumeric stored)⟩
    · have hnext := readDocument_withDocument_eq_error hserved (mt hfinite'.mp hfinite)
      exact ⟨hnext, ensureDocument_of_readDocument_eq_error hnext⟩

/-- A document whose only member has the priority `0.5`. -/
def halfPriority : Document where
  replicaSets :=
    [{ id := "rs"
       members :=
         [{ id := 0, host := "rs-0", priority := ⟨0x3F000000⟩, arbiterOnly := false, votes := 1 }]
       protocolVersion := "1" }]

theorem ensureDocument_reads_back_halfPriority :
    halfPriority.IsFinite ∧ halfPriority.ReadsBack ∧
      ∃ c' r, ({} : Cluster).ensureDocument "db" "rs" halfPriority = (.ok r, c') ∧
        r.document.version = 1 ∧ c'.readDocument "db" "rs" = .ok (some r.document) ∧
          c'.ensureDocument "db" "rs" halfPriority = (.ok ⟨r.document, false⟩, c') := by
  have hfinite : halfPriority.IsFinite := by decide +kernel
  have hback : halfPriority.ReadsBack := by decide +kernel
  have hok : (({} : Cluster).ensureDocument "db" "rs" halfPriority).1 =
      .ok ⟨halfPriority.versionedAfter none, true⟩ := rfl
  exact ⟨hfinite, hback, _, ⟨halfPriority.versionedAfter none, true⟩, rfl, rfl,
    (ensureDocument_reads_back hok).1 (.inr ⟨hfinite, hback⟩)⟩

/-- A document whose only process has a cache of `1e39` GB, which is read as an infinite number. -/
def infiniteCache : Json :=
  .object
    [("processes", .array
      [.object
        [("name", .string "rs-0"),
         ("hostname", .string "rs-0.svc"),
         ("args2_6", .object
           [("storage", .object
             [("dbPath", .string "/data"),
              ("wiredTiger", .object
                [("engineConfig", .object
                  [("cacheSizeGB", .number ⟨false, 1, [], some 39⟩)])])])]),
         ("version", .string "6.0.5")]])]

/-- A document that is read and accepted may leave a text behind that is no document: that of
`infiniteCache`. -/
theorem stored_unreadable :
    ∃ wanted r c', Document.ofText? infiniteCache.render = some wanted ∧
      ({} : Cluster).ensureDocument "ns" "doc" wanted = (.ok r, c') ∧ r.changed = true ∧
        c'.readDocument "ns" "doc" = .error (.unreadable "ns" "doc") ∧
          c'.ensureDocument "ns" "doc" wanted = (.error (.unreadable "ns" "doc"), c') := by
  have hreadable : infiniteCache.IsReadable := by simp [infiniteCache]
  have htext : Document.ofText? infiniteCache.render = Codec.decode? infiniteCache := by
    rw [Document.ofText?, Json.parse?_render hreadable]
    rfl
  -- Only whether the numbers are finite is evaluated; the document itself stays abstract.
  have hread : ((Codec.decode? infiniteCache : Option Document).any fun d => !decide d.IsFinite) =
      true := by
    decide +kernel
  obtain ⟨wanted, hwanted, hfinite⟩ := (Option.any_eq_true _ _).mp hread
  have hnext : (({} : Cluster).withDocument "ns" "doc" (wanted.versionedAfter none)).readDocument
      "ns" "doc" = .error (.unreadable "ns" "doc") :=
    readDocument_withDocument_eq_error rfl
      (show ¬wanted.IsFinite by simpa using hfinite)
  exact ⟨wanted, ⟨wanted.versionedAfter none, true⟩, _, htext.trans hwanted, rfl, rfl, hnext,
    ensureDocument_of_readDocument_eq_error hnext wanted⟩

/-! ## Calls on documents that can be read -/

/-- A cluster that `Serves` a secret has no document for it, or a text, which may be unreadable. -/
theorem Serves.readDocument_cases (h : c.Serves namespaceName name) :
    (c.documentText? namespaceName name = none ∧ c.readDocument namespaceName name = .ok none) ∨
      ∃ text, c.documentText? namespaceName name = some text ∧
        ((∃ d, Document.ofText? text = some d ∧
            c.readDocument namespaceName name = .ok (some d)) ∨
          Document.ofText? text = none ∧
            c.readDocument namespaceName name = .error (.unreadable namespaceName name)) := by
  rw [readDocument_eq h.reads]
  cases c.documentText? namespaceName name with
  | none => exact .inl ⟨rfl, rfl⟩
  | some text =>
    refine .inr ⟨text, rfl, ?_⟩
    cases htext : Document.ofText? text with
    | none => exact .inr ⟨rfl, by simp only [htext]⟩
    | some d => exact .inl ⟨d, rfl, by simp only [htext]⟩

theorem Serves.eq_none_iff (h : c.Serves namespaceName name)
    (hread : c.readDocument namespaceName name = .ok stored) :
    stored = none ↔ c.documentText? namespaceName name = none := by
  obtain ⟨htext, hnone⟩ | ⟨text, htext, ⟨d, -, hsome⟩ | ⟨-, herror⟩⟩ := h.readDocument_cases
  · exact iff_of_true (Except.ok.inj (hread.symm.trans hnone)) htext
  · obtain rfl := Except.ok.inj (hread.symm.trans hsome)
    exact iff_of_false nofun (by simp [htext])
  · cases hread.symm.trans herror

/-- A call that finds a document, or none, and returns `r`: what it does to the cluster. -/
structure Stores (c : Cluster) (namespaceName name : String) (wanted : Document)
    (stored : Option Document) (r : StoredDocument) (c' : Cluster) : Prop where
  call : c.ensureDocument namespaceName name wanted = (.ok r, c')
  found : c.readDocument namespaceName name = .ok stored
  /-- Nothing is `stored` if and only if the secret or its key is missing. -/
  missing : stored = none ↔ c.documentText? namespaceName name = none
  /-- Something is written if and only if no document is stored that, but for its version, equals
  `wanted`. -/
  changed_iff : r.changed = true ↔
    ∀ d ∈ stored, ({ d with version := wanted.version } == wanted) = false
  first : stored = none → r.document.version = 1
  /-- The version rises by one, unless it is the greatest that there is. -/
  next : r.changed = true → ∀ d ∈ stored, d.version.toNat + 1 < 2 ^ 64 →
    r.document.version.toNat = d.version.toNat + 1
  kept : r.changed = false → stored = some r.document ∧ c' = c
  content : ({ r.document with version := wanted.version } == wanted) = true
  left : c'.readDocument namespaceName name = .ok (some r.document)
  writes : c'.secretWrites = c.secretWrites + if r.changed then 1 else 0
  others : ∀ key ≠ (namespaceName, name), c'.secrets.get? key = c.secrets.get? key

/-- A call on a cluster whose stored text is a document, or missing, succeeds as `Stores` says, and
the cluster that it leaves `Serves` the secret as well. -/
theorem stores_ensureDocument (hserves : c.Serves namespaceName name)
    (hread : c.readDocument namespaceName name = .ok stored) (hfinite : wanted.IsFinite)
    (hback : wanted.ReadsBack) :
    ∃ r c', c.Stores namespaceName name wanted stored r c' ∧ c'.Serves namespaceName name := by
  have hspec := ensureDocument_spec c namespaceName name wanted
  generalize hcall : c.ensureDocument namespaceName name wanted = result at hspec
  -- A cluster that `Serves` the secret refuses neither the look-up nor the write.
  cases hspec with
  | unread hread' => cases hread.symm.trans hread'
  | refused _ _ hwrite => cases hserves.writes.symm.trans hwrite
  | @kept d hread' hsame =>
    obtain rfl : stored = some d := Except.ok.inj (hread.symm.trans hread')
    exact ⟨_, _, {
      call := hcall
      found := hread
      missing := hserves.eq_none_iff hread
      changed_iff := by simp [Document.beq_of_version, hsame]
      first := nofun
      next := nofun
      kept := fun _ => ⟨rfl, rfl⟩
      content := (Document.beq_of_version d wanted).trans hsame
      left := hread
      writes := rfl
      others := fun _ _ => rfl }, hserves⟩
  | @written stored' hread' hnew _ =>
    obtain rfl : stored = stored' := Except.ok.inj (hread.symm.trans hread')
    exact ⟨_, _, {
      call := hcall
      found := hread
      missing := hserves.eq_none_iff hread
      changed_iff := iff_of_true rfl fun d hd => (Document.beq_of_version d wanted).trans (hnew d hd)
      first := by rintro rfl; rfl
      next := by
        rintro - d rfl hlt
        exact Document.toNat_version_versionedAfter (hnew d rfl) hlt
      kept := nofun
      content := (Document.beq_of_version _ wanted).trans
        (Document.versionedAfter_contentEquals hfinite.isNumeric stored)
      left := readDocument_withDocument hserves.reads hfinite hback
      writes := rfl
      others := fun key hkey => by rw [get?_secrets_withDocument, if_neg hkey] },
      hserves.reads, hserves.writes⟩

/-- `stores_ensureDocument` for a call that is known to have returned `r`. -/
theorem stores_of_ensureDocument_eq {r : StoredDocument} {c' : Cluster}
    (hserves : c.Serves namespaceName name)
    (hread : c.readDocument namespaceName name = .ok stored) (hfinite : wanted.IsFinite)
    (hback : wanted.ReadsBack)
    (hcall : c.ensureDocument namespaceName name wanted = (.ok r, c')) :
    c.Stores namespaceName name wanted stored r c' := by
  obtain ⟨r', c'', hstores, -⟩ := stores_ensureDocument hserves hread hfinite hback
  obtain ⟨hr, rfl⟩ := Prod.mk.inj (hstores.call.symm.trans hcall)
  obtain rfl := Except.ok.inj hr
  exact hstores

/-- The version of a stored document, and `0` if there is none. -/
def versionNumber (stored : Option Document) : Nat := stored.elim 0 (·.version.toNat)

theorem Stores.versionNumber_eq {r : StoredDocument} {c' : Cluster}
    (h : c.Stores namespaceName name wanted stored r c')
    (hlt : versionNumber stored + (if r.changed then 1 else 0) < 2 ^ 64) :
    versionNumber (some r.document) = versionNumber stored + if r.changed then 1 else 0 := by
  cases hchanged : r.changed with
  | false =>
    rw [(h.kept hchanged).1]
    rfl
  | true =>
    rw [hchanged] at hlt
    cases stored with
    | none =>
      show r.document.version.toNat = _
      rw [h.first rfl]
      rfl
    | some d => exact h.next hchanged d rfl hlt

/-! ## Runs of calls -/

/-- Calls of `ensureDocument` one after the other: what each returns, and the cluster that is left.
-/
def ensureDocuments (c : Cluster) (namespaceName name : String) :
    List Document → List (Except StoreError StoredDocument) × Cluster
  | [] => ([], c)
  | wanted :: rest =>
    let first := c.ensureDocument namespaceName name wanted
    let others := first.2.ensureDocuments namespaceName name rest
    (first.1 :: others.1, others.2)

/-- Calls one after the other that all return a result, each as `Stores` says. -/
inductive Run (namespaceName name : String) :
    Cluster → List Document → List StoredDocument → Cluster → Prop where
  | nil (c : Cluster) : Run namespaceName name c [] [] c
  | cons {c c' c'' : Cluster} {wanted : Document} {stored : Option Document} {r : StoredDocument}
    {ds : List Document} {rs : List StoredDocument}
    (first : c.Stores namespaceName name wanted stored r c')
    (others : Run namespaceName name c' ds rs c'') :
    Run namespaceName name c (wanted :: ds) (r :: rs) c''

namespace Run

variable {c' : Cluster} {ds : List Document} {rs : List StoredDocument}

/-- A `Run` is what `ensureDocuments` does. -/
theorem ensureDocuments_eq (h : Run namespaceName name c ds rs c') :
    c.ensureDocuments namespaceName name ds = (rs.map .ok, c') := by
  induction h with
  | nil => rfl
  | cons first _ ih => rw [ensureDocuments, first.call, ih, List.map_cons]

/-- Every call of a run that is `changed` writes once. -/
theorem secretWrites_eq (h : Run namespaceName name c ds rs c') :
    c'.secretWrites = c.secretWrites + rs.countP (·.changed) := by
  induction h with
  | nil => rfl
  | cons first _ ih =>
    rw [ih, first.writes, List.countP_cons]
    omega

/-- A run leaves the secrets of other names as they are. -/
theorem get?_secrets_eq (h : Run namespaceName name c ds rs c') {key : String × String}
    (hkey : key ≠ (namespaceName, name)) : c'.secrets.get? key = c.secrets.get? key := by
  induction h with
  | nil => rfl
  | cons first _ ih => exact ih.trans (first.others key hkey)

/-- The version rises once for every call that changes something, as long as it is below `2 ^ 64`.
-/
theorem versionNumber_eq (h : Run namespaceName name c ds rs c')
    (hread : c.readDocument namespaceName name = .ok stored) :
    ∃ last, c'.readDocument namespaceName name = .ok last ∧
      (versionNumber stored + rs.countP (·.changed) < 2 ^ 64 →
        versionNumber last = versionNumber stored + rs.countP (·.changed)) := by
  induction h generalizing stored with
  | nil => exact ⟨stored, hread, fun _ => rfl⟩
  | @cons _ _ _ _ stored' r _ rs first _ ih =>
    obtain rfl : stored = stored' := Except.ok.inj (hread.symm.trans first.found)
    obtain ⟨last, hlast, hversion⟩ := ih first.left
    refine ⟨last, hlast, fun hlt => ?_⟩
    rw [List.countP_cons] at hlt ⊢
    have hfirst := first.versionNumber_eq (by omega)
    rw [hversion (by omega), hfirst]
    omega

end Run

/-- Calls for documents of finite numbers make a `Run` if the stored text is a document or missing.
-/
theorem exists_run (hserves : c.Serves namespaceName name)
    (hread : c.readDocument namespaceName name = .ok stored) {ds : List Document}
    (hfinite : ∀ d ∈ ds, d.IsFinite) (hback : ∀ d ∈ ds, d.ReadsBack) :
    ∃ rs c', Run namespaceName name c ds rs c' := by
  induction ds generalizing c stored with
  | nil => exact ⟨[], c, .nil c⟩
  | cons wanted ds ih =>
    obtain ⟨hfirst, hrest⟩ := List.forall_mem_cons.mp hfinite
    obtain ⟨hfirst', hrest'⟩ := List.forall_mem_cons.mp hback
    obtain ⟨r, c', hstores, hserves'⟩ := stores_ensureDocument hserves hread hfirst hfirst'
    obtain ⟨rs, c'', hrun⟩ := ih hserves' hstores.left hrest hrest'
    exact ⟨r :: rs, c'', .cons hstores hrun⟩

/-- `ensureDocuments` changes nothing if the stored text cannot be read. -/
theorem ensureDocuments_of_readDocument_eq_error {e : StoreError}
    (h : c.readDocument namespaceName name = .error e) (ds : List Document) :
    c.ensureDocuments namespaceName name ds = (ds.map fun _ => .error e, c) := by
  induction ds with
  | nil => rfl
  | cons wanted ds ih =>
    rw [ensureDocuments, ensureDocument_of_readDocument_eq_error h, ih, List.map_cons]

/-- Calls for documents of finite numbers, in a cluster that `Serves` their secret. If the stored
text is no document, each call says so and nothing changes. Otherwise the calls make a `Run`, in
which writes and versions count the calls that change something. -/
theorem ensureDocuments_versions (hserves : c.Serves namespaceName name) {ds : List Document}
    (hfinite : ∀ d ∈ ds, d.IsFinite) (hback : ∀ d ∈ ds, d.ReadsBack) :
    ((∃ text ∈ c.documentText? namespaceName name, Document.ofText? text = none) →
      c.ensureDocuments namespaceName name ds =
        (ds.map fun _ => .error (.unreadable namespaceName name), c)) ∧
      ((∀ text ∈ c.documentText? namespaceName name, Document.ofText? text ≠ none) →
        ∃ stored rs last c',
          c.readDocument namespaceName name = .ok stored ∧
          c.ensureDocuments namespaceName name ds = (rs.map .ok, c') ∧
          Run namespaceName name c ds rs c' ∧
          c'.secretWrites = c.secretWrites + rs.countP (·.changed) ∧
          (∀ key ≠ (namespaceName, name), c'.secrets.get? key = c.secrets.get? key) ∧
          c'.readDocument namespaceName name = .ok last ∧
          (versionNumber stored + rs.countP (·.changed) < 2 ^ 64 →
            versionNumber last = versionNumber stored + rs.countP (·.changed))) := by
  refine ⟨fun ⟨text, htext, hnone⟩ => ?_, fun hsome => ?_⟩
  · refine ensureDocuments_of_readDocument_eq_error ?_ ds
    rw [readDocument_eq hserves.reads, Option.mem_def.mp htext]
    simp only [hnone]
  · obtain ⟨stored, hread⟩ : ∃ stored, c.readDocument namespaceName name = .ok stored := by
      obtain ⟨-, hnone⟩ | ⟨text, htext, ⟨d, -, hread⟩ | ⟨hnone, -⟩⟩ := hserves.readDocument_cases
      · exact ⟨none, hnone⟩
      · exact ⟨some d, hread⟩
      · exact absurd hnone (hsome text htext)
    obtain ⟨rs, c', hrun⟩ := exists_run hserves hread hfinite hback
    obtain ⟨last, hlast, hversion⟩ := hrun.versionNumber_eq hread
    exact ⟨stored, rs, last, c', hread, hrun.ensureDocuments_eq, hrun, hrun.secretWrites_eq,
      fun _ hkey => hrun.get?_secrets_eq hkey, hlast, hversion⟩

/-- A cluster with a text that is no document. -/
def garbled : Cluster :=
  ({} : Cluster).insertSecret ⟨"db", "rs", Dict.empty.insert documentKey "not json"⟩

/-- A document, and then another content under a version that is not the next one. -/
def revisions : List Document := [halfPriority, { version := 42 }]

theorem ensureDocuments_versions_revisions :
    (∃ r r' c', Run "db" "rs" {} revisions [r, r'] c' ∧
      r.document.version = 1 ∧ r'.document.version.toNat = 2 ∧ c'.secretWrites = 2) ∧
      garbled.ensureDocuments "db" "rs" revisions =
        ([.error (.unreadable "db" "rs"), .error (.unreadable "db" "rs")], garbled) := by
  have hserves : ({} : Cluster).Serves "db" "rs" := ⟨rfl, rfl⟩
  have hserves' : garbled.Serves "db" "rs" := ⟨rfl, rfl⟩
  have hfinite : ∀ d ∈ revisions, d.IsFinite := by decide +kernel
  have hback : ∀ d ∈ revisions, d.ReadsBack := by decide +kernel
  refine ⟨?_, (ensureDocuments_versions hserves' hfinite hback).1
    ⟨"not json", rfl, by decide +kernel⟩⟩
  obtain ⟨_, rs, _, c', -, -, hrun, hwrites, -⟩ :=
    (ensureDocuments_versions hserves hfinite hback).2 nofun
  have hrun' := hrun
  -- The first call is evaluated, the second one is known from what `Stores` says of it.
  cases hrun with
  | cons first others =>
  cases others with
  | @cons _ _ _ _ stored r' _ _ second others =>
  cases others
  have hcall : ({} : Cluster).ensureDocument "db" "rs" halfPriority =
    (.ok ⟨halfPriority.versionedAfter none, true⟩, _) := rfl
  obtain ⟨⟨⟩, -⟩ := Prod.mk.inj (first.call.symm.trans hcall)
  obtain rfl := Except.ok.inj (first.left.symm.trans second.found)
  have hchanged : r'.changed = true := by
    rw [second.changed_iff]
    rintro _ ⟨⟩
    decide +kernel
  refine ⟨_, r', c', hrun', rfl, second.next hchanged _ rfl (by decide), ?_⟩
  rw [hwrites, List.countP_cons, List.countP_cons, hchanged]
  rfl

end Cluster

end ReplicaControl
