/-
# A tenant keeps an owner

Before an owner is demoted or revoked the other active owners are counted. The
count does not lock them, so two transactions that take different owners away may
each count the other's. Where every count would still find an owner without those
that open transactions have been cleared to take away, the tenant keeps one.
-/

import BusinessAssistant.Persistence.Administration

namespace BusinessAssistant.Persistence

open BusinessAssistant.Domain BusinessAssistant.Application BusinessAssistant.Foundation

/-- Member and credential operations, from tables with a property. -/
def administration (verify : Text → Text → Bool) (Start : AdministrationDatabase → Prop) :
    System AdministrationState AdministrationLabel where
  init s := s.db.Constraints ∧ Start s.db ∧ ∀ transaction, s.transactions transaction = none
  step := Administers verify

theorem administration_orderly {verify : Text → Text → Bool} {Start : AdministrationDatabase → Prop}
    {s : AdministrationState} (hs : (administration verify Start).Reachable s) : Orderly s := by
  refine System.Reachable.invariant ?_ ?_ hs
  · rintro s ⟨hconstraints, _, hnone⟩
    exact
      { constraints := hconstraints
        apart := fun first _ one _ _ hone => by rw [hnone first] at hone; cases hone
        grounded := fun transaction current hopen => by
          rw [hnone transaction] at hopen
          cases hopen }
  · intro s label s' _ horderly hstep
    exact horderly.step hstep

/-- The tenant has an active owner. -/
def AdministrationDatabase.HasOwner (tenantId : TenantId) (db : AdministrationDatabase) : Prop :=
  ∃ owner ∈ db.members, owner.ActiveOwner tenantId

namespace AdministrationState

variable (s : AdministrationState)

/-- An open transaction has been cleared to take an active owner away. -/
def BeingRemoved (memberId : UUID) : Prop :=
  ∃ transaction change row now phase,
    s.transactions transaction = some (.changing change row now phase) ∧ phase ≠ .locked ∧
      change.RemovesOwner row ∧ row.id = memberId

/-- When the other owners are counted for an owner that is to go, one is there
that no open transaction has been cleared to take away. -/
def OwnersCounted : AdministrationLabel → Prop
  | .requireOtherOwner transaction => ∀ change row now,
      s.transactions transaction = some (.changing change row now .locked) →
        change.RemovesOwner row →
          ∃ other ∈ s.db.members, other.ActiveOwner row.tenantId ∧ other.id ≠ row.id ∧
            ¬ s.BeingRemoved other.id
  | .lockTenant _ _ | .readMember _ | .insertMember _ _ | .revokeMember _ _ _ _
  | .updateCredentials _ | .createCredential _ _ | .rotateCredential _ _ | .insertCredential _ _
  | .revokeCredential _ _ _ _ | .commit _ | .abort _ | .authenticate _ _ => True

/-- An active owner that no open transaction has been cleared to take away. -/
def Stays (tenantId : TenantId) (owner : TenantMemberRow) : Prop :=
  owner ∈ s.db.members ∧ owner.ActiveOwner tenantId ∧ ¬ s.BeingRemoved owner.id

variable {s} {tenantId : TenantId} {owner : TenantMemberRow} {transaction : ℕ}
  {new : Option AdministrationTransaction}

/-- An owner stays when a transaction goes on that does not take it away. -/
theorem Stays.put (h : s.Stays tenantId owner)
    (hnew : ∀ change row now phase, new = some (.changing change row now phase) →
      phase ≠ .locked → change.RemovesOwner row → row.id ≠ owner.id) :
    (s.put transaction new).Stays tenantId owner := by
  refine ⟨h.1, h.2.1, ?_⟩
  rintro ⟨other, change, row, now, phase, hopen, hphase, hremoves, hid⟩
  rcases transactions_put hopen with ⟨_, hsame⟩ | ⟨_, hold⟩
  · exact hnew change row now phase hsame hphase hremoves hid
  · exact h.2.2 ⟨other, change, row, now, phase, hold, hphase, hremoves, hid⟩

/-- An owner stays when a transaction goes on that changes no member, or has just
locked one. -/
theorem Stays.put_other (h : s.Stays tenantId owner)
    (hnew : ∀ change row now phase, new = some (.changing change row now phase) →
      phase = .locked) : (s.put transaction new).Stays tenantId owner := by
  apply h.put
  intro change row now phase hsame hphase
  exact absurd (hnew change row now phase hsame) hphase

/-- An owner stays when other rows are written. -/
theorem Stays.write (h : s.Stays tenantId owner) {db' : AdministrationDatabase}
    {owner' : TenantMemberRow} (howner : owner' ∈ db'.members) (hid : owner'.id = owner.id)
    (hactive : owner'.ActiveOwner tenantId) :
    AdministrationState.Stays { s with db := db' } tenantId owner' := by
  refine ⟨howner, hactive, ?_⟩
  rw [hid]
  exact h.2.2

end AdministrationState

section Owners

variable {verify : Text → Text → Bool} {tenantId : TenantId}

/-- An owner is still there when a transaction commits that was not cleared to
take it away. -/
theorem stays_commit {s : AdministrationState} (horderly : Orderly s) {owner : TenantMemberRow}
    (h : s.Stays tenantId owner) {transaction : ℕ} {current : AdministrationTransaction}
    {db' : AdministrationDatabase} (hopen : s.transactions transaction = some current)
    (hready : current.commit? s.db = some db') :
    ∃ owner', AdministrationState.Stays { s.put transaction none with db := db' } tenantId
      owner' := by
  have hclosed : (s.put transaction none).Stays tenantId owner := by
    apply h.put
    intro change row now phase hnone
    cases hnone
  have hgrounded := horderly.grounded transaction current hopen
  obtain ⟨owner', howner', hid, _, hkept⟩ := (hgrounded.committed hready).members.kept owner h.1
  by_cases hlocked : current.LocksMember owner.id
  · -- The owner itself is written: it is assigned the role it has.
    cases current with
    | changing change row now phase =>
        cases phase with
        | locked => cases hready
        | cleared => cases hready
        | written credentials =>
            have hrow : row = owner :=
              Table.eq_of_key_eq horderly.constraints.members hgrounded.1 h.1 hlocked
            have hkeeps : ¬ change.RemovesOwner row := fun hremoves =>
              h.2.2 ⟨transaction, change, row, now, _, hopen, nofun, hremoves, hlocked⟩
            have hassign : change = .assign .owner := by
              by_contra hother
              exact hkeeps ⟨hrow ▸ h.2.1.2.2, hrow ▸ h.2.1.2.1, hother⟩
            cases hready
            refine ⟨change.apply now owner, hclosed.write ?_ ?_ ?_⟩
            · exact Table.mem_update_of_selected h.1 (congrArg TenantMemberRow.id hrow.symm)
            · rw [hassign]
              rfl
            · rw [hassign]
              exact ⟨h.2.1.1, rfl, rfl⟩
    | upserting call => cases hlocked
    | added row => cases hlocked
    | creating call member => cases hlocked
    | rotating call previous => cases hlocked
    | inserted row now => cases hlocked
    | revoking row now => cases hlocked
  · have hsame := hkept hlocked
    exact ⟨owner', hclosed.write howner' hid (hsame ▸ h.2.1)⟩

/-- One step leaves an owner that stays. -/
theorem stays_step {s s' : AdministrationState} {label : AdministrationLabel}
    (horderly : Orderly s) {owner : TenantMemberRow} (h : s.Stays tenantId owner)
    (hcounted : s.OwnersCounted label) (hstep : Administers verify s label s') :
    ∃ owner', s'.Stays tenantId owner' := by
  cases hstep with
  | lockTenant hnew htenant hfree => exact ⟨owner, h.put_other fun _ _ _ _ => nofun⟩
  | readMember hopen hfound hfree =>
      refine ⟨owner, h.put_other fun _ _ _ phase hsame => ?_⟩
      cases hsame
      rfl
  | insertMember hopen hfound => exact ⟨owner, h.put_other fun _ _ _ _ => nofun⟩
  | revokeMember hnew hfound hactive hfree =>
      refine ⟨owner, h.put_other fun _ _ _ phase hsame => ?_⟩
      cases hsame
      rfl
  | @requireOtherOwner transaction change row now hopen howners =>
      by_cases hremoves : change.RemovesOwner row
      · by_cases htenant : row.tenantId = tenantId
        · -- The count finds an owner that stays.
          obtain ⟨other, hother, hactive, hne, hfree⟩ := hcounted change row now hopen hremoves
          have hstays : s.Stays tenantId other := ⟨hother, htenant ▸ hactive, hfree⟩
          refine ⟨other, hstays.put fun change' row' now' phase hsame _ _ => ?_⟩
          cases hsame
          exact hne.symm
        · refine ⟨owner, h.put fun change' row' now' phase hsame _ _ hid => ?_⟩
          cases hsame
          have hrow : row = owner := Table.eq_of_key_eq horderly.constraints.members
            (horderly.grounded transaction _ hopen).1 h.1 hid
          exact htenant (hrow ▸ h.2.1.1)
      · refine ⟨owner, h.put fun change' row' now' phase hsame _ hremoves' => ?_⟩
        cases hsame
        exact absurd hremoves' hremoves
  | @updateCredentials transaction change row now hopen hfree =>
      refine ⟨owner, h.put fun change' row' now' phase hsame _ hremoves hid => ?_⟩
      cases hsame
      exact h.2.2 ⟨transaction, change, row, now, .cleared, hopen, nofun, hremoves, hid⟩
  | createCredential hnew hexpiry hfound hactive =>
      exact ⟨owner, h.put_other fun _ _ _ _ => nofun⟩
  | rotateCredential hnew hexpiry hfound hunrevoked hfree =>
      exact ⟨owner, h.put_other fun _ _ _ _ => nofun⟩
  | insertCreated hopen hfree => exact ⟨owner, h.put_other fun _ _ _ _ => nofun⟩
  | insertRotated hopen hfree => exact ⟨owner, h.put_other fun _ _ _ _ => nofun⟩
  | revokeCredential hnew hfound hfree => exact ⟨owner, h.put_other fun _ _ _ _ => nofun⟩
  | commit hopen hready hconstraints => exact stays_commit horderly h hopen hready
  | abort => exact ⟨owner, h.put_other fun _ _ _ _ => nofun⟩
  | authenticate hfree haccepted =>
      obtain ⟨credential, member, _, _, _, rfl⟩ := authenticate_eq_some haccepted
      exact ⟨owner, h.write h.1 rfl h.2.1⟩

/-- Where every count finds an owner that stays, a tenant that starts with an
active owner has one in every committed state. -/
theorem tenant_keeps_an_owner {s : AdministrationState}
    (hs : ((administration verify (·.HasOwner tenantId)).restrict
      AdministrationState.OwnersCounted).Reachable s) :
    s.db.HasOwner tenantId := by
  have hstays : ∃ owner, s.Stays tenantId owner := by
    refine System.Reachable.invariant (I := fun s => ∃ owner, s.Stays tenantId owner) ?_ ?_ hs
    · rintro s ⟨_, ⟨owner, howner, hactive⟩, hnone⟩
      refine ⟨owner, howner, hactive, ?_⟩
      rintro ⟨transaction, change, row, now, phase, hopen, _⟩
      rw [hnone transaction] at hopen
      cases hopen
    · rintro s label s' hreachable ⟨owner, hstays⟩ ⟨hcounted, hstep⟩
      exact stays_step (administration_orderly hreachable.of_restrict) hstays hcounted hstep
  obtain ⟨owner, howner, hactive, _⟩ := hstays
  exact ⟨owner, howner, hactive⟩

end Owners

/-! ## Two owners -/

namespace Owners

def tenantId : TenantId := 1#128

def owner (id : UUID) (subject : Text) : TenantMemberRow where
  id := id
  tenantId := tenantId
  subject := subject
  role := .owner
  active := true
  createdAt := 0
  updatedAt := 0

def anna : TenantMemberRow := owner 11#128 ['a']
def berta : TenantMemberRow := owner 12#128 ['b']

/-- The tables when the owners with some ids have been revoked. -/
def shop (revoked : List UUID) : AdministrationDatabase where
  tenants :=
    [{ id := tenantId
       timezone := { key := "UTC", initialOffset := 0, transitions := [] }
       status := .active }]
  members := Table.update (·.id ∈ revoked) (MemberChange.revoke.apply 0) [anna, berta]

/-- Two revocations at their phases, the first of Anna and the second of Berta. -/
def busy (revoked : List UUID) (first second : Option MemberPhase) : AdministrationState :=
  .pair (shop revoked) (first.map (.changing .revoke anna 0))
    (second.map (.changing .revoke berta 0))

theorem constraints_shop (revoked : List UUID) : (shop revoked).Constraints where
  members := Table.nodup_update (by decide) fun _ => rfl
  subjects := Table.nodup_update (by decide) fun _ => rfl
  credentials := List.nodup_nil
  prefixes := List.nodup_nil
  owned _ hrow := absurd hrow List.not_mem_nil

/-- One more owner is revoked. -/
theorem commit_shop (revoked : List UUID) (row : TenantMemberRow) :
    (AdministrationTransaction.changing .revoke row 0 (.written [])).commit? (shop revoked) =
      some (shop (revoked ++ [row.id])) := by
  have hmembers : Table.update (·.id = row.id) (MemberChange.revoke.apply 0)
      (shop revoked).members = (shop (revoked ++ [row.id])).members := by
    simp only [shop, Table.update, List.map_map]
    apply List.map_congr_left
    intro member _
    by_cases hrevoked : member.id ∈ revoked
    · simp [hrevoked, MemberChange.apply]
    · simp [hrevoked]
  exact congrArg (fun members => some { shop revoked with members := members }) hmembers

theorem found_anna : (shop []).member? tenantId 11#128 = some anna := by decide

theorem found_berta : (shop []).member? tenantId 12#128 = some berta := by decide

theorem other_than_anna : (shop []).OtherOwner tenantId anna.id :=
  ⟨berta, by decide, by decide, by decide⟩

theorem other_than_berta : (shop []).OtherOwner tenantId berta.id :=
  ⟨anna, by decide, by decide, by decide⟩

section Steps

variable {verify : Text → Text → Bool} (first second : Option MemberPhase)

theorem free_anna : (busy [] first second).FreeFor 0 fun other =>
    other.LocksMember anna.id ∨ other.RefersMember anna.id := by
  apply AdministrationState.freeFor_first
  intro current hcurrent
  obtain ⟨phase, _, rfl⟩ := Option.map_eq_some_iff.mp hcurrent
  rintro (hlocks | hrefers)
  · exact absurd (show berta.id = anna.id from hlocks) (by decide)
  · cases hrefers

theorem free_berta : (busy [] first second).FreeFor 1 fun other =>
    other.LocksMember berta.id ∨ other.RefersMember berta.id := by
  apply AdministrationState.freeFor_second
  intro current hcurrent
  obtain ⟨phase, _, rfl⟩ := Option.map_eq_some_iff.mp hcurrent
  rintro (hlocks | hrefers)
  · exact absurd (show anna.id = berta.id from hlocks) (by decide)
  · cases hrefers

theorem lock_anna : Administers verify (busy [] none second) (.revokeMember 0 tenantId 11#128 0)
    (busy [] (some .locked) second) :=
  AdministrationState.step_first (.revokeMember rfl found_anna rfl (free_anna none second))

theorem lock_berta : Administers verify (busy [] first none) (.revokeMember 1 tenantId 12#128 0)
    (busy [] first (some .locked)) :=
  AdministrationState.step_second (.revokeMember rfl found_berta rfl (free_berta first none))

theorem count_anna : Administers verify (busy [] (some .locked) second) (.requireOtherOwner 0)
    (busy [] (some .cleared) second) :=
  AdministrationState.step_first (.requireOtherOwner rfl fun _ => other_than_anna)

theorem count_berta : Administers verify (busy [] first (some .locked)) (.requireOtherOwner 1)
    (busy [] first (some .cleared)) :=
  AdministrationState.step_second (.requireOtherOwner rfl fun _ => other_than_berta)

theorem update_anna : Administers verify (busy [] (some .cleared) second) (.updateCredentials 0)
    (busy [] (some (.written [])) second) :=
  AdministrationState.step_first (.updateCredentials rfl fun _ hnone => absurd hnone List.not_mem_nil)

theorem update_berta : Administers verify (busy [] first (some .cleared)) (.updateCredentials 1)
    (busy [] first (some (.written []))) :=
  AdministrationState.step_second (.updateCredentials rfl fun _ hnone => absurd hnone List.not_mem_nil)

theorem commit_anna : Administers verify (busy [] (some (.written [])) second) (.commit 0)
    (busy [11#128] none second) :=
  AdministrationState.commit_first (commit_shop [] anna) (constraints_shop [11#128])

theorem commit_berta : Administers verify (busy [11#128] none (some (.written []))) (.commit 1)
    (busy [11#128, 12#128] none none) :=
  AdministrationState.commit_second (commit_shop [11#128] berta) (constraints_shop [11#128, 12#128])

theorem init_busy : (administration verify (·.HasOwner tenantId)).init (busy [] none none) := by
  refine ⟨constraints_shop [], ⟨anna, by decide, by decide⟩, ?_⟩
  exact AdministrationState.pair_none

/-- One after the other: while Anna is revoked nobody revokes Berta. -/
theorem reachable_one : ((administration verify (·.HasOwner tenantId)).restrict
    AdministrationState.OwnersCounted).Reachable (busy [11#128] none none) := by
  let counted := (administration verify (·.HasOwner tenantId)).restrict
    AdministrationState.OwnersCounted
  have hcounted : (busy [] (some .locked) none).OwnersCounted (.requireOtherOwner 0) := by
    intro change row now hopen _
    cases hopen
    refine ⟨berta, by decide, by decide, by decide, ?_⟩
    rintro ⟨other, change, row, now, phase, hopen, hphase, _⟩
    rcases AdministrationState.open_pair hopen with ⟨_, hcurrent⟩ | ⟨_, hcurrent⟩
    · cases hcurrent
      exact hphase rfl
    · cases hcurrent
  have hlocked : counted.Reachable (busy [] (some .locked) none) :=
    .step (.init (@init_busy verify)) (And.intro (by exact trivial) (lock_anna none))
  have hcleared : counted.Reachable (busy [] (some .cleared) none) :=
    .step hlocked (And.intro hcounted (count_anna none))
  have hwritten : counted.Reachable (busy [] (some (.written [])) none) :=
    .step hcleared (And.intro (by exact trivial) (update_anna none))
  exact .step hwritten (And.intro (by exact trivial) (commit_anna none))

/-- At the same time: each revocation counts the owner that the other takes
away. -/
theorem reachable_both : (administration verify (·.HasOwner tenantId)).Reachable
    (busy [11#128, 12#128] none none) := by
  have hlocked : (administration verify (·.HasOwner tenantId)).Reachable
      (busy [] (some .locked) (some .locked)) :=
    .step (.step (.init (@init_busy verify)) (lock_anna none)) (lock_berta _)
  have hcleared : (administration verify (·.HasOwner tenantId)).Reachable
      (busy [] (some .cleared) (some .cleared)) :=
    .step (.step hlocked (count_anna _)) (count_berta _)
  have hwritten : (administration verify (·.HasOwner tenantId)).Reachable
      (busy [] (some (.written [])) (some (.written []))) :=
    .step (.step hcleared (update_anna _)) (update_berta _)
  exact .step (.step hwritten (commit_anna _)) commit_berta

end Steps

end Owners

/-- After one revocation of two owners. -/
theorem tenant_keeps_an_owner_one :
    (Owners.busy [11#128] none none).db.HasOwner Owners.tenantId := by
  have hreachable := @Owners.reachable_one fun _ _ => false
  exact tenant_keeps_an_owner hreachable

/-- Two revocations of different owners at the same time leave the tenant without
one. -/
theorem owners_revoke_each_other :
    ¬ ∀ (verify : Text → Text → Bool) (tenantId : TenantId) (s : AdministrationState),
      (administration verify (·.HasOwner tenantId)).Reachable s → s.db.HasOwner tenantId := by
  intro hclaim
  have howner := hclaim (fun _ _ => false) Owners.tenantId _ Owners.reachable_both
  have hnone : ¬ (Owners.shop [11#128, 12#128]).HasOwner Owners.tenantId := by
    unfold AdministrationDatabase.HasOwner
    decide
  exact hnone howner

end BusinessAssistant.Persistence
