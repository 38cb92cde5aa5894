import Mathlib.Data.List.Induction
import Mathlib.Data.List.Nodup
import ReplicaControl.Auth.Enable

/-!
# Reconciled users

What `AuthSettings.reconcile` leaves in the lists of wanted and of deleted users, whatever stood
there before (specification, sections 4.2 and 10.3). A user is told apart by its `key`.

- **First of each key** (`mem_firstOfEach`, `nodup_firstOfEach`): who is kept of users with one key,
  in which order (`map_key_firstOfEach`).
- **Deletions** (`Drops`): what a list of deletions says of a key, and what recording a deletion
  (`drops_recordDeletion`) and leaving users out (`drops_withoutUsers`) change in it. Lists stay in
  order (`TidyDeletions`).
- **Wanted users** (`mem_reconciledUsers`, `map_key_reconciledUsers`): the first of each key, those
  that were listed before the new ones.
- **Nobody is forgotten** (`listed_reconcile`): who was listed is still wanted, or to be dropped.
- **Idempotence** (`reconcile_reconcile`): a second reconciliation changes nothing.
-/

namespace ReplicaControl

/-! ## The first user of each key -/

variable {us ws : List User} {u w : User}

theorem sameUser?_eq_some (h : sameUser? us u = some w) : w ∈ us ∧ w.key = u.key :=
  ⟨List.mem_of_find?_eq_some h, by simpa using List.find?_some h⟩

/-- `sameUser?` reads nothing of `u` but its key. -/
theorem sameUser?_congr (h : u.key = w.key) : sameUser? us u = sameUser? us w := by
  unfold sameUser?
  rw [h]

theorem sameUser?_eq_none_iff : sameUser? us u = none ↔ u.key ∉ us.map User.key := by
  simp [sameUser?, List.mem_map]

theorem sameUser?_cons (v : User) (us : List User) (u : User) :
    sameUser? (v :: us) u = if v.key = u.key then some v else sameUser? us u := by
  rw [sameUser?, List.find?_cons]
  by_cases h : v.key = u.key <;> simp [h, sameUser?]

/-- `firstOfEach` keeps the users that a look-up of their key finds. -/
theorem mem_firstOfEach : u ∈ firstOfEach us ↔ sameUser? us u = some u := by
  induction us with
  | nil => simp [firstOfEach, sameUser?]
  | cons v us ih =>
    rw [firstOfEach, List.mem_cons, List.mem_filter, ih, sameUser?_cons]
    by_cases hk : v.key = u.key
    · simp [hk, eq_comm]
    · have hne : u ≠ v := fun h => hk (h ▸ rfl)
      simp [hk, hne, Ne.symm hk]

theorem nodup_firstOfEach (us : List User) : ((firstOfEach us).map User.key).Nodup := by
  induction us with
  | nil => exact List.nodup_nil
  | cons v us ih =>
    rw [firstOfEach, List.map_cons, List.nodup_cons]
    refine ⟨fun h => ?_, ih.sublist (List.filter_sublist.map _)⟩
    obtain ⟨w, hw, hk⟩ := List.mem_map.mp h
    simpa [hk] using (List.mem_filter.mp hw).2

theorem key_mem_firstOfEach {k : String × String} :
    k ∈ (firstOfEach us).map User.key ↔ k ∈ us.map User.key := by
  constructor
  · intro h
    obtain ⟨u, hu, rfl⟩ := List.mem_map.mp h
    exact List.mem_map_of_mem (sameUser?_eq_some (mem_firstOfEach.mp hu)).1
  · intro h
    obtain ⟨u, hu, rfl⟩ := List.mem_map.mp h
    cases hw : sameUser? us u with
    | none => exact absurd h (sameUser?_eq_none_iff.mp hw)
    | some w =>
      obtain ⟨-, hk⟩ := sameUser?_eq_some hw
      rw [← hk]
      exact List.mem_map_of_mem (mem_firstOfEach.mpr (sameUser?_congr hk ▸ hw))

/-- `firstOfEach` keeps all users of distinct keys. -/
theorem firstOfEach_eq_self (h : (us.map User.key).Nodup) : firstOfEach us = us := by
  induction us with
  | nil => rfl
  | cons v us ih =>
    obtain ⟨hv, hus⟩ := List.nodup_cons.mp h
    rw [firstOfEach, ih hus, List.filter_eq_self.mpr]
    intro u hu
    have hne : u.key ≠ v.key := fun hk => hv (hk ▸ List.mem_map_of_mem hu)
    simpa using hne

/-- After `us`, only those of `ws` are kept whose keys are new. -/
theorem firstOfEach_append (us ws : List User) :
    firstOfEach (us ++ ws) =
      firstOfEach us ++ (firstOfEach ws).filter (·.key ∉ us.map User.key) := by
  induction us with
  | nil => simp [firstOfEach]
  | cons v us ih =>
    rw [List.cons_append, firstOfEach, firstOfEach, ih, List.filter_append, List.filter_filter,
      List.cons_append]
    congr 2
    refine List.filter_congr fun w _ => ?_
    simp [List.map_cons, not_or]

/-- Of the users of each key, `firstOfEach` leaves the first at its place. -/
theorem map_key_firstOfEach (us : List User) :
    (firstOfEach us).map User.key = (us.map User.key).eraseDups := by
  -- From the end: whether the last user stays depends on those before it only.
  induction us using List.reverseRecOn with
  | nil => rfl
  | append_singleton us u ih =>
    rw [firstOfEach_append, List.map_append, ih, List.map_append, List.eraseDups_append]
    congr 1
    by_cases hu : u.key ∈ us.map User.key <;>
      simp [firstOfEach, List.removeAll, List.eraseDups_cons, -List.mem_map, hu]

/-- Looking `us` up in `ws` keeps their keys as far as they are found. -/
theorem map_key_filterMap_sameUser? (us ws : List User) :
    (us.filterMap (sameUser? ws)).map User.key =
      (us.map User.key).filter (· ∈ ws.map User.key) := by
  induction us with
  | nil => rfl
  | cons u us ih =>
    cases hu : sameUser? ws u with
    | none =>
      have hkey := sameUser?_eq_none_iff.mp hu
      rw [List.filterMap_cons_none hu, ih, List.map_cons,
        List.filter_cons_of_neg (by simpa using hkey)]
    | some w =>
      obtain ⟨hw, hk⟩ := sameUser?_eq_some hu
      have hkey : u.key ∈ ws.map User.key := hk ▸ List.mem_map_of_mem hw
      rw [List.filterMap_cons_some hu, List.map_cons, ih, hk, List.map_cons,
        List.filter_cons_of_pos (by simpa using hkey)]

/-! ## Deletions -/

/-- The user of `key` is to be dropped from the database of `key`. -/
def Drops (ds : List DeletedUser) (key : String × String) : Prop :=
  ∃ d ∈ ds, d.user = key.1 ∧ key.2 ∈ d.dbs

instance (ds : List DeletedUser) (key : String × String) : Decidable (Drops ds key) :=
  inferInstanceAs (Decidable (∃ d ∈ ds, d.user = key.1 ∧ key.2 ∈ d.dbs))

/-- No two deletions of `ds` are of one user, and each is from some databases, none of them twice.
-/
structure TidyDeletions (ds : List DeletedUser) : Prop where
  users_nodup : (ds.map (·.user)).Nodup
  dbs_ne_nil : ∀ d ∈ ds, d.dbs ≠ []
  dbs_nodup : ∀ d ∈ ds, d.dbs.Nodup

variable {ds : List DeletedUser} {k : String × String}

theorem drops_cons {d : DeletedUser} :
    Drops (d :: ds) k ↔ (d.user = k.1 ∧ k.2 ∈ d.dbs) ∨ Drops ds k := by
  simp [Drops]

/-- `recordDeletion` adds the user's key, and nothing else. -/
theorem drops_recordDeletion : Drops (recordDeletion u ds) k ↔ k = u.key ∨ Drops ds k := by
  induction ds with
  | nil => simp [recordDeletion, Drops, User.key, Prod.ext_iff, eq_comm]
  | cons d ds ih =>
    rw [recordDeletion]
    -- The head may be of the user and have the database, be of the user and lack it, or be of
    -- another one.
    split
    · next hd =>
      split
      · next hdb =>
        have hmem : k = u.key → d.user = k.1 ∧ k.2 ∈ d.dbs := by
          rintro rfl
          exact ⟨hd, by simpa [User.key] using hdb⟩
        rw [drops_cons]
        tauto
      · rw [drops_cons, drops_cons, hd, List.mem_append, List.mem_singleton]
        simp only [User.key, Prod.ext_iff]
        rw [eq_comm (a := u.username)]
        tauto
    · rw [drops_cons, drops_cons, ih]
      tauto

/-- The entries that `recordDeletion` leaves: those that stood there, a new one, or one with a
database more. -/
theorem mem_recordDeletion {d' : DeletedUser} (h : d' ∈ recordDeletion u ds) :
    d' ∈ ds ∨ d' = ⟨u.username, [u.database]⟩ ∨
      ∃ d ∈ ds, u.database ∉ d.dbs ∧ d' = { d with dbs := d.dbs ++ [u.database] } := by
  induction ds with
  | nil => exact .inr (.inl (List.mem_singleton.mp h))
  | cons d ds ih =>
    rw [recordDeletion] at h
    split at h
    · rcases List.mem_cons.mp h with rfl | h
      · split
        · exact .inl List.mem_cons_self
        · next hdb => exact .inr (.inr ⟨d, List.mem_cons_self, by simpa using hdb, rfl⟩)
      · exact .inl (List.mem_cons_of_mem _ h)
    · rcases List.mem_cons.mp h with rfl | h
      · exact .inl List.mem_cons_self
      · rcases ih h with h | h | ⟨e, he, h⟩
        · exact .inl (List.mem_cons_of_mem _ h)
        · exact .inr (.inl h)
        · exact .inr (.inr ⟨e, List.mem_cons_of_mem _ he, h⟩)

/-- `recordDeletion` joins a deletion to those of its user, or else puts it last. -/
theorem map_user_recordDeletion (u : User) (ds : List DeletedUser) :
    (recordDeletion u ds).map (·.user) =
      if u.username ∈ ds.map (·.user) then ds.map (·.user)
      else ds.map (·.user) ++ [u.username] := by
  induction ds with
  | nil => rfl
  | cons d ds ih =>
    rw [recordDeletion]
    by_cases hd : d.user = u.username
    · have hmem : u.username ∈ (d :: ds).map (·.user) := hd ▸ List.mem_cons_self
      rw [if_pos hd, if_pos hmem]
      split <;> rfl
    · rw [if_neg hd, List.map_cons, ih, List.map_cons]
      by_cases hu : u.username ∈ ds.map (·.user) <;> simp [hu, Ne.symm hd]

theorem TidyDeletions.recordDeletion (h : TidyDeletions ds) (u : User) :
    TidyDeletions (recordDeletion u ds) where
  users_nodup := by
    rw [map_user_recordDeletion]
    split
    · exact h.users_nodup
    · next hu =>
      exact h.users_nodup.append (List.nodup_singleton _) (List.disjoint_singleton.mpr hu)
  dbs_ne_nil d' hd' := by
    rcases mem_recordDeletion hd' with hd' | rfl | ⟨d, -, -, rfl⟩
    · exact h.dbs_ne_nil d' hd'
    · exact List.cons_ne_nil _ _
    · exact List.append_ne_nil_of_right_ne_nil _ (List.cons_ne_nil _ _)
  dbs_nodup d' hd' := by
    rcases mem_recordDeletion hd' with hd' | rfl | ⟨d, hd, hdb, rfl⟩
    · exact h.dbs_nodup d' hd'
    · exact List.nodup_singleton _
    · exact (h.dbs_nodup d hd).append (List.nodup_singleton _) (List.disjoint_singleton.mpr hdb)

/-- `recordDeletion` for each of `us` adds the keys of all of them. -/
theorem drops_foldl_recordDeletion (us : List User) (ds : List DeletedUser) :
    Drops (us.foldl (fun ds u => recordDeletion u ds) ds) k ↔ Drops ds k ∨ k ∈ us.map User.key := by
  induction us generalizing ds with
  | nil => simp
  | cons u us ih =>
    rw [List.foldl_cons, ih, drops_recordDeletion, List.map_cons, List.mem_cons]
    tauto

theorem TidyDeletions.foldl_recordDeletion (h : TidyDeletions ds) (us : List User) :
    TidyDeletions (us.foldl (fun ds u => ReplicaControl.recordDeletion u ds) ds) := by
  induction us generalizing ds with
  | nil => exact h
  | cons u us ih => exact ih (h.recordDeletion u)

/-- The deletions without those of `us`, and without the entries that are left empty. -/
def withoutUsers (us : List User) (ds : List DeletedUser) : List DeletedUser :=
  (ds.map (·.without us)).filter (!·.dbs.isEmpty)

theorem mem_without {d : DeletedUser} {db : String} :
    db ∈ (d.without us).dbs ↔ db ∈ d.dbs ∧ (d.user, db) ∉ us.map User.key := by
  simp [DeletedUser.without, User.key, List.mem_map]

/-- The keys of `us` are the only ones that are no longer dropped. -/
theorem drops_withoutUsers : Drops (withoutUsers us ds) k ↔ Drops ds k ∧ k ∉ us.map User.key := by
  constructor
  · rintro ⟨d', hd', hk, hdb⟩
    obtain ⟨d, hd, rfl⟩ := List.mem_map.mp (List.mem_filter.mp hd').1
    obtain ⟨hmem, hnot⟩ := mem_without.mp hdb
    have hkey : (d.user, k.2) = k := Prod.ext hk rfl
    exact ⟨⟨d, hd, hk, hmem⟩, hkey ▸ hnot⟩
  · rintro ⟨⟨d, hd, hk, hmem⟩, hnot⟩
    have hkey : (d.user, k.2) = k := Prod.ext hk rfl
    have hdb : k.2 ∈ (d.without us).dbs := mem_without.mpr ⟨hmem, hkey ▸ hnot⟩
    refine ⟨d.without us, List.mem_filter.mpr ⟨List.mem_map_of_mem hd, ?_⟩, hk, hdb⟩
    simpa using List.ne_nil_of_mem hdb

/-- Leaving `us` out once more changes nothing. -/
theorem withoutUsers_withoutUsers (us : List User) (ds : List DeletedUser) :
    withoutUsers us (withoutUsers us ds) = withoutUsers us ds := by
  have hsame : ∀ d ∈ withoutUsers us ds, d.without us = d := by
    intro d hd
    obtain ⟨e, -, rfl⟩ := List.mem_map.mp (List.mem_filter.mp hd).1
    simp [DeletedUser.without, List.filter_filter]
  have hkept : ∀ d ∈ withoutUsers us ds, (!d.dbs.isEmpty) = true := fun d hd =>
    (List.mem_filter.mp hd).2
  conv => lhs; rw [withoutUsers, List.map_congr_left hsame, List.map_id']
  exact List.filter_eq_self.mpr hkept

theorem TidyDeletions.withoutUsers (h : TidyDeletions ds) (us : List User) :
    TidyDeletions (withoutUsers us ds) where
  users_nodup := by
    have hmap : (ds.map (·.without us)).map (·.user) = ds.map (·.user) := by
      rw [List.map_map]
      rfl
    exact (hmap ▸ h.users_nodup).sublist (List.filter_sublist.map _)
  dbs_ne_nil d hd := by simpa using (List.mem_filter.mp hd).2
  dbs_nodup d hd := by
    obtain ⟨e, he, rfl⟩ := List.mem_map.mp (List.mem_filter.mp hd).1
    exact (h.dbs_nodup e he).filter _

/-! ## Reconciliation -/

namespace AuthSettings

variable {a : AuthSettings} {wanted : List User}

/-- Listed users that were looked up among the `wanted` ones hide none of them. -/
theorem sameUser?_reconciling (u : User) :
    sameUser? (a.users.filterMap (sameUser? wanted) ++ wanted) u = sameUser? wanted u := by
  rw [sameUser?, List.find?_append]
  cases hk : (a.users.filterMap (sameUser? wanted)).find? (·.key = u.key) with
  | none => rfl
  | some w =>
    obtain ⟨v, -, hv⟩ := List.mem_filterMap.mp (List.mem_of_find?_eq_some hk)
    have hw : w.key = u.key := by simpa using List.find?_some hk
    -- What was looked up has the key that it was looked up by, so it is what a look-up finds again.
    rw [Option.some_or, ← hv]
    exact sameUser?_congr ((sameUser?_eq_some hv).2.symm.trans hw)

/-- `reconciledUsers` has the wanted users, of each key the first. -/
theorem mem_reconciledUsers : u ∈ a.reconciledUsers wanted ↔ sameUser? wanted u = some u := by
  rw [reconciledUsers, mem_firstOfEach, sameUser?_reconciling]

theorem nodup_reconciledUsers (a : AuthSettings) (wanted : List User) :
    ((a.reconciledUsers wanted).map User.key).Nodup :=
  nodup_firstOfEach _

theorem key_mem_reconciledUsers :
    k ∈ (a.reconciledUsers wanted).map User.key ↔ k ∈ wanted.map User.key := by
  have hfirst : k ∈ (firstOfEach wanted).map User.key ↔ k ∈ wanted.map User.key :=
    key_mem_firstOfEach
  rw [← hfirst, List.mem_map, List.mem_map]
  simp only [mem_reconciledUsers, mem_firstOfEach]

/-- In `reconciledUsers` the users that were listed keep their order, and new ones follow in theirs.
-/
theorem map_key_reconciledUsers (a : AuthSettings) (wanted : List User) :
    (a.reconciledUsers wanted).map User.key =
      ((a.users.map User.key).filter (· ∈ wanted.map User.key) ++ wanted.map User.key).eraseDups := by
  rw [reconciledUsers, map_key_firstOfEach, List.map_append, map_key_filterMap_sameUser?]

/-- The deletions once those of users that are no longer wanted are recorded, if `authoritative`. -/
def recordedDeletions (a : AuthSettings) (wanted : List User) : List DeletedUser :=
  if a.authoritative then
    (a.droppedUsers wanted).foldl (fun ds u => recordDeletion u ds) a.deletedUsers
  else a.deletedUsers

theorem reconciledDeletions_eq (a : AuthSettings) (wanted : List User) :
    a.reconciledDeletions wanted =
      withoutUsers (a.reconciledUsers wanted) (a.recordedDeletions wanted) :=
  rfl

/-- If `authoritative`, listed users that are no longer wanted are to be dropped as well. -/
theorem drops_recordedDeletions (ha : a.authoritative = true) :
    Drops (a.recordedDeletions wanted) k ↔
      Drops a.deletedUsers k ∨ (k ∈ a.users.map User.key ∧ k ∉ wanted.map User.key) := by
  rw [recordedDeletions, if_pos ha, drops_foldl_recordDeletion]
  refine or_congr_right ?_
  constructor
  · intro h
    obtain ⟨u, hu, rfl⟩ := List.mem_map.mp h
    obtain ⟨hu, hnone⟩ := List.mem_filter.mp hu
    exact ⟨List.mem_map_of_mem hu, sameUser?_eq_none_iff.mp (by simpa using hnone)⟩
  · rintro ⟨h, hnot⟩
    obtain ⟨u, hu, rfl⟩ := List.mem_map.mp h
    refine List.mem_map_of_mem (List.mem_filter.mpr ⟨hu, ?_⟩)
    simpa using sameUser?_eq_none_iff.mpr hnot

theorem tidyDeletions_recordedDeletions (h : TidyDeletions a.deletedUsers) (wanted : List User) :
    TidyDeletions (a.recordedDeletions wanted) := by
  rw [recordedDeletions]
  split
  · exact h.foldl_recordDeletion _
  · exact h

theorem tidyDeletions_reconciledDeletions (h : TidyDeletions a.deletedUsers)
    (wanted : List User) : TidyDeletions (a.reconciledDeletions wanted) :=
  (tidyDeletions_recordedDeletions h wanted).withoutUsers _

/-- None of `reconciledUsers` is to be dropped. -/
theorem not_drops_reconciledDeletions (hu : u ∈ a.reconciledUsers wanted) :
    ¬ Drops (a.reconciledDeletions wanted) u.key := by
  rw [reconciledDeletions_eq, drops_withoutUsers]
  exact fun h => h.2 (List.mem_map_of_mem hu)

/-- If `authoritative`, a key that was listed, as wanted or to be dropped, is still listed. -/
theorem listed_reconcile (ha : a.authoritative = true)
    (h : k ∈ a.users.map User.key ∨ Drops a.deletedUsers k) :
    k ∈ (a.reconcile wanted).users.map User.key ∨ Drops (a.reconcile wanted).deletedUsers k := by
  rw [or_iff_not_imp_left]
  intro hk
  have hwanted : k ∉ wanted.map User.key := mt key_mem_reconciledUsers.mpr hk
  refine drops_withoutUsers.mpr ⟨(drops_recordedDeletions ha).mpr ?_, hk⟩
  rcases h with h | h
  · exact .inr ⟨h, hwanted⟩
  · exact .inl h

/-- A second `reconcile` leaves the same users. -/
theorem reconciledUsers_reconcile (a : AuthSettings) (wanted : List User) :
    (a.reconcile wanted).reconciledUsers wanted = a.reconciledUsers wanted := by
  have hkept : (a.reconciledUsers wanted).filterMap (sameUser? wanted) = a.reconciledUsers wanted :=
    (List.filterMap_congr fun u hu => mem_reconciledUsers.mp hu).trans List.filterMap_some
  have hnew : (firstOfEach wanted).filter
      (·.key ∉ (a.reconciledUsers wanted).map User.key) = [] := by
    refine List.filter_eq_nil_iff.mpr fun u hu => ?_
    have hkey := key_mem_reconciledUsers (a := a).mpr
      (key_mem_firstOfEach.mp (List.mem_map_of_mem hu))
    simpa using hkey
  -- Users once kept are kept, and the wanted ones bring no further key.
  calc (a.reconcile wanted).reconciledUsers wanted
      = firstOfEach ((a.reconciledUsers wanted).filterMap (sameUser? wanted) ++ wanted) := rfl
    _ = firstOfEach (a.reconciledUsers wanted ++ wanted) := by rw [hkept]
    _ = firstOfEach (a.reconciledUsers wanted) := by
      rw [firstOfEach_append, hnew, List.append_nil]
    _ = a.reconciledUsers wanted := firstOfEach_eq_self (nodup_reconciledUsers a wanted)

/-- A second `reconcile` drops nobody. -/
theorem droppedUsers_reconcile (a : AuthSettings) (wanted : List User) :
    (a.reconcile wanted).droppedUsers wanted = [] := by
  refine List.filter_eq_nil_iff.mpr fun u hu => ?_
  simp [mem_reconciledUsers.mp hu]

/-- A second `reconcile` with the same users changes nothing. -/
theorem reconcile_reconcile (a : AuthSettings) (wanted : List User) :
    (a.reconcile wanted).reconcile wanted = a.reconcile wanted := by
  have hrecorded : (a.reconcile wanted).recordedDeletions wanted = a.reconciledDeletions wanted := by
    rw [recordedDeletions, droppedUsers_reconcile]
    exact ite_self _
  have hdeletions : (a.reconcile wanted).reconciledDeletions wanted =
      a.reconciledDeletions wanted := by
    rw [reconciledDeletions_eq, reconciledUsers_reconcile, hrecorded, reconciledDeletions_eq]
    exact withoutUsers_withoutUsers _ _
  rw [reconcile, reconciledUsers_reconcile, hdeletions]
  rfl

end AuthSettings

end ReplicaControl
