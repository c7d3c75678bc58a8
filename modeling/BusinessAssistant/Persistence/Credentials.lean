/-
# Revocation is final

`revoke_member` revokes the credentials its `UPDATE` sees. One that
`rotate_credential` inserts cannot slip past it, since the revocation waits for the
previous credential's row and then sees the new one. `create_credential` reads the
member without a lock, so one it inserts after the revocation has committed stays
unrevoked. Where each credential is inserted for a member that is active at that
moment, revocation is final.
-/

import BusinessAssistant.Persistence.Members

namespace BusinessAssistant.Persistence

open BusinessAssistant.Domain BusinessAssistant.Application BusinessAssistant.Foundation

namespace AdministrationDatabase

/-- An inactive member has no unrevoked credential. -/
def Final (db : AdministrationDatabase) : Prop :=
  ∀ member ∈ db.members, member.active = false → ∀ credential ∈ db.credentials,
    credential.memberId = member.id → credential.revokedAt ≠ none

/-- A credential takes the place of at most one other, and that one is revoked. -/
structure Chained (db : AdministrationDatabase) : Prop where
  revoked : ∀ credential ∈ db.credentials, ∀ previous, credential.rotatedFromId = some previous →
    ∃ before ∈ db.credentials, before.id = previous ∧ before.revokedAt ≠ none
  single : ∀ first ∈ db.credentials, ∀ second ∈ db.credentials, first.rotatedFromId ≠ none →
    first.rotatedFromId = second.rotatedFromId → first = second

/-- The member of an id, if there is one, is active. -/
def ActiveMember (db : AdministrationDatabase) (memberId : UUID) : Prop :=
  ∀ member ∈ db.members, member.id = memberId → member.active = true

end AdministrationDatabase

namespace AdministrationState

variable (s : AdministrationState)

/-- When `create_credential` inserts its credential, the member it has read is
still active. -/
def IssuedToActive : AdministrationLabel → Prop
  | .insertCredential transaction _ => ∀ call member,
      s.transactions transaction = some (.creating call member) → s.db.ActiveMember member.id
  | .lockTenant _ _ | .readMember _ | .insertMember _ _ | .revokeMember _ _ _ _
  | .requireOtherOwner _ | .updateCredentials _ | .createCredential _ _ | .rotateCredential _ _
  | .revokeCredential _ _ _ _ | .commit _ | .abort _ | .authenticate _ _ => True

/-- Inactive members have no unrevoked credential and are not about to get one. -/
structure Settled : Prop where
  final : s.db.Final
  inserted : ∀ transaction row now,
    s.transactions transaction = some (.inserted row now) → s.db.ActiveMember row.memberId

end AdministrationState

section Final

open AdministrationTransaction

variable {s s' : AdministrationState} {transaction : ℕ} {current : AdministrationTransaction}
  {db db' : AdministrationDatabase}

/-- A member that the transaction has not locked stays active. -/
theorem activeMember_commit (hgrounded : current.Grounded db)
    (hready : current.commit? db = some db') {memberId : UUID}
    (hfree : ¬ current.LocksMember memberId) (hactive : db.ActiveMember memberId) :
    db'.ActiveMember memberId := by
  intro member' hmember' hid
  rcases (hgrounded.committed hready).members.origin member' hmember' with
    rfl | ⟨member, hmember, hsame, _, hkept⟩
  · exact hgrounded
  · have hmemberId : member.id = memberId := hsame.symm.trans hid
    rw [hkept (hmemberId ▸ hfree)]
    exact hactive member hmember hmemberId

/-- A revocation has revoked the credentials its member has. -/
theorem final_locked {change : MemberChange} {row : TenantMemberRow} {now : Int}
    {phase : MemberPhase} (hconstraints : db.Constraints)
    (hgrounded : (changing change row now phase).Grounded db)
    (hready : (changing change row now phase).commit? db = some db')
    {member' : TenantMemberRow} (hmember' : member' ∈ db'.members) (hid : member'.id = row.id)
    (hinactive : member'.active = false) {credential' : AdministrativeCredentialRow}
    (hcredential' : credential' ∈ db'.credentials) (hrefers : credential'.memberId = row.id) :
    credential'.revokedAt ≠ none := by
  cases phase with
  | locked => cases hready
  | cleared => cases hready
  | written credentials =>
      cases hready
      rcases Table.mem_update.mp hmember' with ⟨old, _, _, rfl⟩ | ⟨_, hother⟩
      · cases change with
        | assign role => cases hinactive
        | revoke =>
            rcases Table.mem_update.mp hcredential' with ⟨before, _, _, rfl⟩ | ⟨hold, hunmatched⟩
            · exact nofun
            · -- A credential it has not matched was revoked before.
              intro hnone
              obtain ⟨member, hmember, howner, htenant⟩ := hconstraints.owned credential' hold
              have hsame : member = row := Table.eq_of_key_eq hconstraints.members hmember
                hgrounded.1 (howner.trans hrefers)
              exact hunmatched ((hgrounded.2 credentials rfl).2 credential' hold
                (hsame ▸ htenant.symm) hrefers hnone)
      · exact absurd hid hother

/-- A commit leaves no unrevoked credential of an inactive member. -/
theorem final_commit (horderly : Orderly s) (h : s.Settled)
    (hopen : s.transactions transaction = some current)
    (hready : current.commit? s.db = some db') : db'.Final := by
  intro member' hmember' hinactive credential' hcredential' hrefers
  have hgrounded := horderly.grounded transaction current hopen
  have hcommitted := hgrounded.committed hready
  by_cases hlocked : current.LocksMember member'.id
  · cases current with
    | changing change row now phase =>
        exact final_locked horderly.constraints hgrounded hready hmember' hlocked.symm hinactive
          hcredential' (hrefers.trans hlocked.symm)
    | upserting call => cases hlocked
    | added row => cases hlocked
    | creating call member => cases hlocked
    | rotating call previous => cases hlocked
    | inserted row now => cases hlocked
    | revoking row now => cases hlocked
  · rcases hcommitted.members.origin member' hmember' with
      rfl | ⟨member, hmember, hid, _, hkept⟩
    · -- The member is new.
      rw [show member'.active = true from hgrounded] at hinactive
      cases hinactive
    · rw [hid] at hlocked
      have hsame : member' = member := hkept hlocked
      subst hsame
      rcases hcommitted.credentials.origin credential' hcredential' with
        ⟨now, rfl⟩ | ⟨credential, hcredential, hbecomes, _⟩
      · -- The credential is new.
        rw [h.inserted transaction credential' now hopen member' hmember hrefers.symm] at hinactive
        cases hinactive
      · have hrevoked := h.final member' hmember hinactive credential hcredential
          (hbecomes.memberId.symm.trans hrefers)
        rw [hbecomes.revokedAt hrevoked]
        exact hrevoked

namespace AdministrationState

/-- A transaction goes on that has not just inserted a credential. -/
theorem Settled.put (h : s.Settled) {new : Option AdministrationTransaction}
    (hnew : ∀ row now, new = some (.inserted row now) → s.db.ActiveMember row.memberId) :
    (s.put transaction new).Settled where
  final := h.final
  inserted other row now hopen := by
    rcases transactions_put hopen with ⟨_, hsame⟩ | ⟨_, hold⟩
    · exact hnew row now hsame
    · exact h.inserted other row now hold

theorem Settled.commit (h : s.Settled) (horderly : Orderly s)
    (hopen : s.transactions transaction = some current)
    (hready : current.commit? s.db = some db') :
    AdministrationState.Settled { s.put transaction none with db := db' } where
  final := final_commit horderly h hopen hready
  inserted other row now hopen' := by
    rcases transactions_put hopen' with ⟨_, hsame⟩ | ⟨hne, hold⟩
    · cases hsame
    · apply activeMember_commit (horderly.grounded transaction current hopen) hready
      · exact (horderly.apart other transaction _ current hne hold hopen).referring row.memberId rfl
      · exact h.inserted other row now hold

/-- A credential that is being rotated belongs to an active member. -/
theorem Settled.rotating (h : s.Settled) (horderly : Orderly s) {call : RotateCredential}
    {previous : AdministrativeCredentialRow}
    (hopen : s.transactions transaction = some (.rotating call previous)) :
    s.db.ActiveMember previous.memberId := by
  intro member hmember hid
  obtain ⟨_, ⟨credential, hcredential, hsame, _, hrefers⟩, hunrevoked⟩ :=
    horderly.grounded transaction _ hopen
  by_contra hinactive
  have hrevoked := h.final member hmember (Bool.not_eq_true _ ▸ hinactive) credential hcredential
    (hrefers.trans hid.symm)
  exact hrevoked (hunrevoked credential hcredential hsame)

/-- One step that inserts no credential for an inactive member. -/
theorem Settled.step (h : s.Settled) (horderly : Orderly s) {verify : Text → Text → Bool}
    {label : AdministrationLabel} (hissued : s.IssuedToActive label)
    (hstep : Administers verify s label s') : s'.Settled := by
  cases hstep with
  | lockTenant hnew htenant hfree => exact h.put fun _ _ => nofun
  | readMember hopen hfound hfree => exact h.put fun _ _ => nofun
  | insertMember hopen hfound => exact h.put fun _ _ => nofun
  | revokeMember hnew hfound hactive hfree => exact h.put fun _ _ => nofun
  | requireOtherOwner hopen howners => exact h.put fun _ _ => nofun
  | updateCredentials hopen hfree => exact h.put fun _ _ => nofun
  | createCredential hnew hexpiry hfound hactive => exact h.put fun _ _ => nofun
  | rotateCredential hnew hexpiry hfound hunrevoked hfree => exact h.put fun _ _ => nofun
  | insertCreated hopen hfree =>
      apply h.put
      intro row now hsame
      cases hsame
      exact hissued _ _ hopen
  | insertRotated hopen hfree =>
      apply h.put
      intro row now hsame
      cases hsame
      have hactive := h.rotating horderly hopen
      exact hactive
  | revokeCredential hnew hfound hfree => exact h.put fun _ _ => nofun
  | commit hopen hready hconstraints => exact h.commit horderly hopen hready
  | abort => exact h.put fun _ _ => nofun
  | authenticate hfree haccepted =>
      obtain ⟨credential, member, _, _, _, rfl⟩ := authenticate_eq_some haccepted
      refine ⟨?_, h.inserted⟩
      intro owner howner hinactive credential' hcredential' hrefers
      rcases Table.mem_update.mp hcredential' with ⟨before, hbefore, _, rfl⟩ | ⟨hold, _⟩
      · exact h.final owner howner hinactive before hbefore hrefers
      · exact h.final owner howner hinactive credential' hold hrefers

end AdministrationState

end Final

/-! ## Rotation -/

/-- The credentials go on, those that are revoked as they were revoked. -/
def AdministrationDatabase.Outlived (db db' : AdministrationDatabase) : Prop :=
  ∀ credential ∈ db.credentials, ∃ credential' ∈ db'.credentials, credential.Becomes credential'

section Chained

variable {db db' : AdministrationDatabase} {current : AdministrationTransaction}
  {first second first' second' : AdministrativeCredentialRow}

theorem outlived_commit (hgrounded : current.Grounded db)
    (hready : current.commit? db = some db') : db.Outlived db' := by
  intro credential hcredential
  obtain ⟨credential', hcredential', hbecomes, _⟩ :=
    (hgrounded.committed hready).credentials.kept credential hcredential
  exact ⟨credential', hcredential', hbecomes⟩

theorem outlived_used (id : UUID) (now : Int) : db.Outlived (db.used id now) := by
  intro credential hcredential
  obtain ⟨credential', hcredential', hbecomes, _⟩ :=
    (evolves_used id now).credentials.kept credential hcredential
  exact ⟨credential', hcredential', hbecomes⟩

/-- The credential that one there before replaces is still revoked. -/
theorem AdministrationDatabase.Chained.revoked_of_becomes (h : db.Chained)
    (houtlived : db.Outlived db') (hfirst : first ∈ db.credentials)
    (hbecomes : first.Becomes first') {previous : UUID}
    (hprevious : first'.rotatedFromId = some previous) :
    ∃ before ∈ db'.credentials, before.id = previous ∧ before.revokedAt ≠ none := by
  obtain ⟨before, hbefore, hid, hrevoked⟩ := h.revoked first hfirst previous
    (hbecomes.rotatedFromId.symm.trans hprevious)
  obtain ⟨before', hbefore', hkept⟩ := houtlived before hbefore
  refine ⟨before', hbefore', hkept.id.trans hid, ?_⟩
  rw [hkept.revokedAt hrevoked]
  exact hrevoked

/-- Of two credentials that were there before, only one replaces another. -/
theorem AdministrationDatabase.Chained.single_of_becomes (h : db.Chained)
    (hconstraints : db'.Constraints) (hfirst : first ∈ db.credentials)
    (hsecond : second ∈ db.credentials) (hfirst' : first' ∈ db'.credentials)
    (hsecond' : second' ∈ db'.credentials) (hbecomes : first.Becomes first')
    (hbecomes' : second.Becomes second') (hrotated : first'.rotatedFromId ≠ none)
    (hsame : first'.rotatedFromId = second'.rotatedFromId) : first' = second' := by
  have hboth : first = second := by
    apply h.single first hfirst second hsecond
    · rw [← hbecomes.rotatedFromId]
      exact hrotated
    · rw [← hbecomes.rotatedFromId, hsame, hbecomes'.rotatedFromId]
  apply Table.eq_of_key_eq hconstraints.credentials hfirst' hsecond'
  rw [hbecomes.id, hbecomes'.id, hboth]

/-- A credential that has been replaced is revoked, so it is not replaced again. -/
theorem AdministrationDatabase.Chained.not_replaced (h : db.Chained)
    {row : AdministrativeCredentialRow} {now : Int}
    (hgrounded : (AdministrationTransaction.inserted row now).Grounded db)
    (hfirst : first ∈ db.credentials) (hrotated : first.rotatedFromId ≠ none) :
    first.rotatedFromId ≠ row.rotatedFromId := by
  intro hsame
  obtain ⟨previous, hprevious⟩ := Option.ne_none_iff_exists'.mp hrotated
  obtain ⟨before, hbefore, hid, hrevoked⟩ := h.revoked first hfirst previous hprevious
  exact hrevoked ((hgrounded.2 previous (hsame.symm.trans hprevious)).2 before hbefore hid)

/-- A commit keeps the chains of rotated credentials. -/
theorem chained_commit (hgrounded : current.Grounded db) (hready : current.commit? db = some db')
    (hconstraints : db'.Constraints) (h : db.Chained) : db'.Chained where
  revoked credential' hcredential' previous hprevious := by
    rcases (hgrounded.committed hready).credentials.origin credential' hcredential' with
      ⟨now, rfl⟩ | ⟨credential, hcredential, hbecomes, _⟩
    · -- The new credential revokes the one it replaces.
      obtain ⟨⟨before, hbefore, hid⟩, _⟩ := hgrounded.2 previous hprevious
      cases hready
      refine ⟨{ before with revokedAt := some now }, ?_, hid, nofun⟩
      apply List.mem_append_left
      exact Table.mem_update_of_selected hbefore ((congrArg some hid).trans hprevious.symm)
    · exact h.revoked_of_becomes (outlived_commit hgrounded hready) hcredential hbecomes hprevious
  single first' hfirst' second' hsecond' hrotated hsame := by
    have hcommitted := hgrounded.committed hready
    rcases hcommitted.credentials.origin first' hfirst' with
      ⟨now, rfl⟩ | ⟨first, hfirst, hbecomes, _⟩
    · rcases hcommitted.credentials.origin second' hsecond' with
        ⟨now', hsecond⟩ | ⟨second, hsecond, hbecomes', _⟩
      · cases hsecond
        rfl
      · have hreplaces : second.rotatedFromId = first'.rotatedFromId :=
          hbecomes'.rotatedFromId.symm.trans hsame.symm
        exact absurd hreplaces (h.not_replaced hgrounded hsecond (hreplaces ▸ hrotated))
    · rcases hcommitted.credentials.origin second' hsecond' with
        ⟨now, rfl⟩ | ⟨second, hsecond, hbecomes', _⟩
      · have hreplaces : first.rotatedFromId = second'.rotatedFromId :=
          hbecomes.rotatedFromId.symm.trans hsame
        exact absurd hreplaces
          (h.not_replaced hgrounded hfirst (hbecomes.rotatedFromId ▸ hrotated))
      · exact h.single_of_becomes hconstraints hfirst hsecond hfirst' hsecond' hbecomes hbecomes'
          hrotated hsame

theorem chained_used (hconstraints : db.Constraints) (h : db.Chained) (id : UUID) (now : Int) :
    (db.used id now).Chained where
  revoked credential' hcredential' previous hprevious := by
    rcases (evolves_used id now).credentials.origin credential' hcredential' with
      ⟨_, hnew⟩ | ⟨credential, hcredential, hbecomes, _⟩
    · exact hnew.elim
    · exact h.revoked_of_becomes (outlived_used id now) hcredential hbecomes hprevious
  single first' hfirst' second' hsecond' hrotated hsame := by
    rcases (evolves_used id now).credentials.origin first' hfirst' with
      ⟨_, hnew⟩ | ⟨first, hfirst, hbecomes, _⟩
    · exact hnew.elim
    · rcases (evolves_used id now).credentials.origin second' hsecond' with
        ⟨_, hnew⟩ | ⟨second, hsecond, hbecomes', _⟩
      · exact hnew.elim
      · exact h.single_of_becomes (hconstraints.used id now) hfirst hsecond hfirst' hsecond'
          hbecomes hbecomes' hrotated hsame

end Chained

section Runs

variable {verify : Text → Text → Bool} {s s' : AdministrationState} {label : AdministrationLabel}

theorem chained_step (horderly : Orderly s) (h : s.db.Chained)
    (hstep : Administers verify s label s') : s'.db.Chained := by
  cases hstep with
  | lockTenant hnew htenant hfree => exact h
  | readMember hopen hfound hfree => exact h
  | insertMember hopen hfound => exact h
  | revokeMember hnew hfound hactive hfree => exact h
  | requireOtherOwner hopen howners => exact h
  | updateCredentials hopen hfree => exact h
  | createCredential hnew hexpiry hfound hactive => exact h
  | rotateCredential hnew hexpiry hfound hunrevoked hfree => exact h
  | insertCreated hopen hfree => exact h
  | insertRotated hopen hfree => exact h
  | revokeCredential hnew hfound hfree => exact h
  | commit hopen hready hconstraints =>
      exact chained_commit (horderly.grounded _ _ hopen) hready hconstraints h
  | abort => exact h
  | authenticate hfree haccepted =>
      obtain ⟨credential, member, _, _, _, rfl⟩ := authenticate_eq_some haccepted
      exact chained_used horderly.constraints h credential.id _

theorem AdministrationDatabase.Outlived.refl (db : AdministrationDatabase) : db.Outlived db :=
  fun credential hcredential => ⟨credential, hcredential, .refl credential⟩

theorem outlived_step (horderly : Orderly s) (hstep : Administers verify s label s') :
    s.db.Outlived s'.db := by
  cases hstep with
  | lockTenant hnew htenant hfree => exact .refl s.db
  | readMember hopen hfound hfree => exact .refl s.db
  | insertMember hopen hfound => exact .refl s.db
  | revokeMember hnew hfound hactive hfree => exact .refl s.db
  | requireOtherOwner hopen howners => exact .refl s.db
  | updateCredentials hopen hfree => exact .refl s.db
  | createCredential hnew hexpiry hfound hactive => exact .refl s.db
  | rotateCredential hnew hexpiry hfound hunrevoked hfree => exact .refl s.db
  | insertCreated hopen hfree => exact .refl s.db
  | insertRotated hopen hfree => exact .refl s.db
  | revokeCredential hnew hfound hfree => exact .refl s.db
  | commit hopen hready hconstraints =>
      exact outlived_commit (horderly.grounded _ _ hopen) hready
  | abort => exact .refl s.db
  | authenticate hfree haccepted =>
      obtain ⟨credential, member, _, _, _, rfl⟩ := authenticate_eq_some haccepted
      exact outlived_used credential.id _

/-- Over a run the credentials go on. -/
theorem outlived_run {Start : AdministrationDatabase → Prop} {labels : List AdministrationLabel}
    (hs : (administration verify Start).Reachable s)
    (hrun : (administration verify Start).Run s labels s') : s.db.Outlived s'.db := by
  refine System.Run.relate (R := fun s s' => s.db.Outlived s'.db) ?_ ?_ ?_ hs hrun
  · intro s
    exact .refl s.db
  · intro s middle last hfirst hsecond credential hcredential
    obtain ⟨credential', hcredential', hbecomes⟩ := hfirst credential hcredential
    obtain ⟨credential'', hcredential'', hbecomes'⟩ := hsecond credential' hcredential'
    exact ⟨credential'', hcredential'', hbecomes.trans hbecomes'⟩
  · intro s label s' hreachable hstep
    exact outlived_step (administration_orderly hreachable) hstep

/-- A key whose credential is revoked opens nothing. -/
theorem authenticate_eq_none_of_revoked {db : AdministrationDatabase}
    (hconstraints : db.Constraints) {credential : AdministrativeCredentialRow}
    (hcredential : credential ∈ db.credentials) (hrevoked : credential.revokedAt ≠ none)
    {key : Text} (hkey : databasePrefix key = credential.keyPrefix) (now : Int) :
    authenticate verify db key now = none := by
  cases haccepted : authenticate verify db key now with
  | none => rfl
  | some result =>
      obtain ⟨principal, db'⟩ := result
      obtain ⟨found, member, hpresented, haccepts, _⟩ := authenticate_eq_some haccepted
      obtain ⟨presented, hfind, hmember⟩ := Option.bind_eq_some_iff.mp hpresented
      obtain ⟨member', _, hpair⟩ := Option.map_eq_some_iff.mp hmember
      cases hpair
      obtain ⟨hstored, hfound⟩ := Table.of_find? hfind
      have hsame : found = credential := Table.eq_of_key_eq hconstraints.prefixes hstored
        hcredential (hfound.trans hkey)
      exact absurd (hsame ▸ haccepts.2.1) hrevoked

/-- Where credentials are inserted for active members only, an inactive member has
no unrevoked credential, a credential replaces at most one other that is revoked,
an authentication yields the subject and the role its member has then, and what is
revoked stays revoked: whatever becomes of an inactive member, no key of a
credential it has opens anything again. -/
theorem revocation_is_final
    (hs : ((administration verify fun db => db.Final ∧ db.Chained).restrict
      AdministrationState.IssuedToActive).Reachable s) :
    s.db.Final ∧ s.db.Chained ∧
      (∀ key now principal db', authenticate verify s.db key now = some (principal, db') →
        ∃ credential member, s.db.presented? key = some (credential, member) ∧
          principal = { subject := member.subject, tenantId := member.tenantId,
                        role := member.role }) ∧
      ∀ labels s', ((administration verify fun db => db.Final ∧ db.Chained).restrict
        AdministrationState.IssuedToActive).Run s labels s' →
          (∀ credential ∈ s.db.credentials, credential.revokedAt ≠ none →
            ∃ later, s'.db.credential? credential.tenantId credential.id = some later ∧
              later.revokedAt = credential.revokedAt) ∧
          ∀ member ∈ s.db.members, member.active = false → ∀ credential ∈ s.db.credentials,
            credential.memberId = member.id → ∀ key now,
              databasePrefix key = credential.keyPrefix →
                authenticate verify s'.db key now = none := by
  have hsettled : s.Settled ∧ s.db.Chained := by
    refine System.Reachable.invariant (I := fun s => s.Settled ∧ s.db.Chained) ?_ ?_ hs
    · intro s hinit
      obtain ⟨_, ⟨hfinal, hchained⟩, hnone⟩ := hinit
      refine ⟨⟨hfinal, ?_⟩, hchained⟩
      intro transaction row now hopen
      rw [hnone transaction] at hopen
      cases hopen
    · intro s label s' hreachable hboth hstep
      have horderly := administration_orderly hreachable.of_restrict
      exact ⟨hboth.1.step horderly hstep.1 hstep.2, chained_step horderly hboth.2 hstep.2⟩
  refine ⟨hsettled.1.final, hsettled.2, ?_, ?_⟩
  · intro key now principal db' haccepted
    obtain ⟨credential, member, hpresented, _, hprincipal, _⟩ := authenticate_eq_some haccepted
    refine ⟨credential, member, hpresented, ?_⟩
    obtain ⟨found, _, hmember⟩ := Option.bind_eq_some_iff.mp hpresented
    obtain ⟨member', hfound, hpair⟩ := Option.map_eq_some_iff.mp hmember
    cases hpair
    rw [hprincipal, (Table.of_find? hfound).2.1]
  · intro labels s' hrun
    have houtlived := outlived_run hs.of_restrict hrun.of_restrict
    have hconstraints := (administration_orderly (hs.run hrun).of_restrict).constraints
    constructor
    · intro credential hcredential hrevoked
      obtain ⟨later, hlater, hbecomes⟩ := houtlived credential hcredential
      refine ⟨later, ?_, hbecomes.revokedAt hrevoked⟩
      apply Table.find?_eq_some_of_unique hlater ⟨hbecomes.tenantId, hbecomes.id⟩
      intro other hother hsame
      exact Table.eq_of_key_eq hconstraints.credentials hother hlater
        (hsame.2.trans hbecomes.id.symm)
    · intro member hmember hinactive credential hcredential hrefers key now hkey
      have hrevoked := hsettled.1.final member hmember hinactive credential hcredential hrefers
      obtain ⟨later, hlater, hbecomes⟩ := houtlived credential hcredential
      apply authenticate_eq_none_of_revoked hconstraints hlater
      · rw [hbecomes.revokedAt hrevoked]
        exact hrevoked
      · rw [hkey, hbecomes.keyPrefix]

end Runs

/-! ## A member that leaves -/

namespace Leaving

def tenantId : TenantId := 1#128

/-- The member, before and after it is revoked. -/
def vera (active : Bool) : TenantMemberRow where
  id := 13#128
  tenantId := tenantId
  subject := ['v']
  role := .viewer
  active := active
  createdAt := 0
  updatedAt := 0

/-- A new key for the member. -/
def call : CreateCredential where
  tenantId := tenantId
  memberId := 13#128
  name := ['k']
  expiresAt := none
  material := { keyPrefix := "atba_k".toList, secretHash := ['h'] }
  now := 0

/-- Its credential, perhaps revoked. -/
def issued (revokedAt : Option Int) : AdministrativeCredentialRow :=
  { createdCredential call (vera true) 21#128 with revokedAt := revokedAt }

def tables (active : Bool) (credentials : List AdministrativeCredentialRow) :
    AdministrationDatabase where
  tenants :=
    [{ id := tenantId
       timezone := { key := "UTC", initialOffset := 0, transitions := [] }
       status := .active }]
  members := [vera active]
  credentials := credentials

/-- The revocation of the member at a phase. -/
def leaving (phase : MemberPhase) : AdministrationTransaction :=
  .changing .revoke (vera true) 0 phase

theorem constraints_none (active : Bool) : (tables active []).Constraints where
  members := List.nodup_singleton _
  subjects := List.nodup_singleton _
  credentials := List.nodup_nil
  prefixes := List.nodup_nil
  owned _ hrow := absurd hrow List.not_mem_nil

theorem constraints_issued (active : Bool) (revokedAt : Option Int) :
    (tables active [issued revokedAt]).Constraints where
  members := List.nodup_singleton _
  subjects := List.nodup_singleton _
  credentials := List.nodup_singleton _
  prefixes := List.nodup_singleton _
  owned row hrow := by
    rw [List.mem_singleton.mp hrow]
    exact ⟨vera active, List.mem_singleton_self _, rfl, rfl⟩

section Steps

variable {verify : Text → Text → Bool} {credentials : List AdministrativeCredentialRow}
  {other : Option AdministrationTransaction}

/-- The system that the member leaves. -/
abbrev shop (verify : Text → Text → Bool) : System AdministrationState AdministrationLabel :=
  administration verify fun db => db.Final ∧ db.Chained

theorem start : (shop verify).init (.pair (tables true []) none none) := by
  refine ⟨constraints_none true, ⟨?_, ?_⟩, AdministrationState.pair_none⟩
  · intro member _ _ credential hcredential
    cases hcredential
  · exact ⟨fun _ => nofun, fun _ => nofun⟩

theorem read_member : Administers verify (.pair (tables true credentials) none other)
    (.createCredential 0 call)
    (.pair (tables true credentials) (some (.creating call (vera true))) other) :=
  AdministrationState.step_first (.createCredential rfl nofun rfl rfl)

/-- The credential is inserted while the member is not being revoked. -/
theorem insert_credential (active : Bool) :
    Administers verify (.pair (tables active []) (some (.creating call (vera true))) none)
      (.insertCredential 0 21#128)
      (.pair (tables active []) (some (.inserted (issued none) 0)) none) :=
  AdministrationState.step_first
    (.insertCreated rfl (AdministrationState.freeFor_first fun _ => nofun))

theorem commit_credential (active : Bool) :
    Administers verify (.pair (tables active []) (some (.inserted (issued none) 0)) none)
      (.commit 0) (.pair (tables active [issued none]) none none) :=
  AdministrationState.commit_first rfl (constraints_issued active none)

/-- The member is revoked while no credential refers to it that is not committed. -/
theorem lock_member
    (hother : ∀ current, other = some current →
      ¬ (current.LocksMember 13#128 ∨ current.RefersMember 13#128)) :
    Administers verify (.pair (tables true credentials) other none)
      (.revokeMember 1 tenantId 13#128 0)
      (.pair (tables true credentials) other (some (leaving .locked))) :=
  AdministrationState.step_second
    (.revokeMember rfl rfl rfl (AdministrationState.freeFor_second hother))

theorem pass_owners : Administers verify
    (.pair (tables true credentials) other (some (leaving .locked))) (.requireOtherOwner 1)
    (.pair (tables true credentials) other (some (leaving .cleared))) :=
  AdministrationState.step_second (.requireOtherOwner rfl fun hremoves => nomatch hremoves.2.1)

theorem match_credentials
    (hother : ∀ current, other = some current → ∀ id, ¬ current.LocksCredential id) :
    Administers verify (.pair (tables true credentials) other (some (leaving .cleared)))
      (.updateCredentials 1)
      (.pair (tables true credentials) other
        (some (leaving (.written (((tables true credentials).unrevoked (vera true)).map (·.id)))))) :=
  AdministrationState.step_second (.updateCredentials rfl fun credential _ =>
    AdministrationState.freeFor_second fun current hcurrent => hother current hcurrent credential.id)

theorem commit_leaving : Administers verify
    (.pair (tables true [issued none]) none (some (leaving (.written [21#128])))) (.commit 1)
    (.pair (tables false [issued (some 0)]) none none) :=
  AdministrationState.commit_second rfl (constraints_issued false (some 0))

theorem commit_leaving_none : Administers verify
    (.pair (tables true []) other (some (leaving (.written [])))) (.commit 1)
    (.pair (tables false []) other none) :=
  AdministrationState.commit_second rfl (constraints_none false)

/-- A key is issued and then the member is revoked. -/
theorem reachable_revoked : ((shop verify).restrict AdministrationState.IssuedToActive).Reachable
    (.pair (tables false [issued (some 0)]) none none) := by
  let system := (shop verify).restrict AdministrationState.IssuedToActive
  have hread : system.Reachable
      (.pair (tables true []) (some (.creating call (vera true))) none) :=
    .step (.init (@start verify)) (And.intro (by exact trivial) read_member)
  have hactive : (AdministrationState.pair (tables true []) (some (.creating call (vera true)))
      none).IssuedToActive (.insertCredential 0 21#128) := by
    intro call member _ member' hmember' _
    rw [List.mem_singleton.mp hmember']
    rfl
  have hinserted : system.Reachable
      (.pair (tables true []) (some (.inserted (issued none) 0)) none) :=
    .step hread (And.intro hactive (insert_credential true))
  have hcreated : system.Reachable (.pair (tables true [issued none]) none none) :=
    .step hinserted (And.intro (by exact trivial) (commit_credential true))
  have hlocked : system.Reachable
      (.pair (tables true [issued none]) none (some (leaving .locked))) :=
    .step hcreated (And.intro (by exact trivial) (lock_member fun _ => nofun))
  have hcleared : system.Reachable
      (.pair (tables true [issued none]) none (some (leaving .cleared))) :=
    .step hlocked (And.intro (by exact trivial) pass_owners)
  have hwritten : system.Reachable
      (.pair (tables true [issued none]) none (some (leaving (.written [21#128])))) :=
    .step hcleared (And.intro (by exact trivial) (match_credentials fun _ => nofun))
  exact .step hwritten (And.intro (by exact trivial) commit_leaving)

/-- The member is revoked between the two statements that issue a key. -/
theorem reachable_unrevoked :
    (shop verify).Reachable (.pair (tables false [issued none]) none none) := by
  have hread : (shop verify).Reachable
      (.pair (tables true []) (some (.creating call (vera true))) none) :=
    .step (.init (@start verify)) read_member
  have hlocked : (shop verify).Reachable
      (.pair (tables true []) (some (.creating call (vera true))) (some (leaving .locked))) := by
    apply hread.step
    apply lock_member
    intro current hcurrent
    cases hcurrent
    rintro (hlocks | hrefers)
    · exact hlocks
    · exact hrefers
  have hcleared : (shop verify).Reachable
      (.pair (tables true []) (some (.creating call (vera true))) (some (leaving .cleared))) :=
    .step hlocked pass_owners
  have hwritten : (shop verify).Reachable
      (.pair (tables true []) (some (.creating call (vera true)))
        (some (leaving (.written [])))) := by
    apply hcleared.step
    apply match_credentials
    intro current hcurrent id
    cases hcurrent
    exact fun hlocks => hlocks
  exact .step (.step (.step hwritten commit_leaving_none) (insert_credential false))
    (commit_credential false)

end Steps

end Leaving

/-- After a member with a key is revoked: the key opens nothing. -/
theorem revocation_is_final_leaving :
    authenticate (fun _ _ => true) (Leaving.tables false [Leaving.issued (some 0)])
      "atba_k.s".toList 1 = none := by
  have hreachable := @Leaving.reachable_revoked fun _ _ => true
  have hlater := (revocation_is_final hreachable).2.2.2 [] _ (.nil _)
  exact hlater.2 (Leaving.vera false) (List.mem_singleton_self _) rfl
    (Leaving.issued (some 0)) (List.mem_singleton_self _) rfl "atba_k.s".toList 1 (by decide)

/-- A key that is issued while its member is being revoked stays unrevoked. -/
theorem key_outlives_its_member :
    ¬ ∀ (verify : Text → Text → Bool) (s : AdministrationState),
      (administration verify fun db => db.Final ∧ db.Chained).Reachable s → s.db.Final := by
  intro hclaim
  have hfinal := hclaim (fun _ _ => false) _ Leaving.reachable_unrevoked
  exact hfinal (Leaving.vera false) (List.mem_singleton_self _) rfl (Leaving.issued none)
    (List.mem_singleton_self _) rfl rfl

end BusinessAssistant.Persistence
