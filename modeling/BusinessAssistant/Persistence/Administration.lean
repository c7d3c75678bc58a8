/-
# What open administration transactions go by

Two open transactions lock different members and different credentials, so what
one of them has read stays as it was until it commits. In particular a revocation
has matched all the credentials its member has, and a credential that is being
rotated is not revoked.
-/

import BusinessAssistant.Persistence.AdministrationStore

namespace BusinessAssistant.Persistence

open BusinessAssistant.Domain BusinessAssistant.Application BusinessAssistant.Foundation

/-! ## Locks -/

namespace AdministrationTransaction

/-- The locks of two transactions do not conflict. -/
structure Apart (one two : AdministrationTransaction) : Prop where
  members : ∀ id, one.LocksMember id → ¬ two.LocksMember id
  referred : ∀ id, one.LocksMember id → ¬ two.RefersMember id
  referring : ∀ id, one.RefersMember id → ¬ two.LocksMember id
  credentials : ∀ id, one.LocksCredential id → ¬ two.LocksCredential id

variable {one two other : AdministrationTransaction}

theorem Apart.symm (h : one.Apart two) : two.Apart one where
  members id htwo hone := h.members id hone htwo
  referred id htwo hone := h.referring id hone htwo
  referring id htwo hone := h.referred id hone htwo
  credentials id htwo hone := h.credentials id hone htwo

/-- A transaction that holds no locks. -/
theorem apart_of_free (hmember : ∀ id, ¬ one.LocksMember id) (hrefers : ∀ id, ¬ one.RefersMember id)
    (hcredential : ∀ id, ¬ one.LocksCredential id) : one.Apart two where
  members id hone := absurd hone (hmember id)
  referred id hone := absurd hone (hmember id)
  referring id hone := absurd hone (hrefers id)
  credentials id hone := absurd hone (hcredential id)

/-- A transaction that locks one member. -/
theorem apart_changing {change : MemberChange} {row : TenantMemberRow} {now : Int}
    (hfree : ¬ (other.LocksMember row.id ∨ other.RefersMember row.id)) :
    (changing change row now .locked).Apart other where
  members id hid hother := by
    cases hid
    exact hfree (.inl hother)
  referred id hid hother := by
    cases hid
    exact hfree (.inr hother)
  referring id hid := by cases hid
  credentials id hid := by cases hid

end AdministrationTransaction

/-! ## What a commit leaves -/

/-- A credential after its columns have been written: who has it and what opens
it stay, and once it is revoked so does when. -/
structure AdministrativeCredentialRow.Becomes (before after : AdministrativeCredentialRow) :
    Prop where
  id : after.id = before.id
  tenantId : after.tenantId = before.tenantId
  memberId : after.memberId = before.memberId
  keyPrefix : after.keyPrefix = before.keyPrefix
  secretHash : after.secretHash = before.secretHash
  rotatedFromId : after.rotatedFromId = before.rotatedFromId
  revokedAt : before.revokedAt ≠ none → after.revokedAt = before.revokedAt

namespace AdministrativeCredentialRow

variable {row before middle after : AdministrativeCredentialRow}

theorem Becomes.refl (row : AdministrativeCredentialRow) : row.Becomes row :=
  ⟨rfl, rfl, rfl, rfl, rfl, rfl, fun _ => rfl⟩

theorem Becomes.trans (h : before.Becomes middle) (h' : middle.Becomes after) :
    before.Becomes after where
  id := h'.id.trans h.id
  tenantId := h'.tenantId.trans h.tenantId
  memberId := h'.memberId.trans h.memberId
  keyPrefix := h'.keyPrefix.trans h.keyPrefix
  secretHash := h'.secretHash.trans h.secretHash
  rotatedFromId := h'.rotatedFromId.trans h.rotatedFromId
  revokedAt hrevoked := by
    have hmiddle := h.revokedAt hrevoked
    rw [h'.revokedAt (hmiddle ▸ hrevoked), hmiddle]

end AdministrativeCredentialRow

/-- A member goes on; unless it is locked it is not written. -/
def TenantMemberRow.GoesOn (Locked : UUID → Prop) (row row' : TenantMemberRow) : Prop :=
  row'.id = row.id ∧ row'.tenantId = row.tenantId ∧ (¬ Locked row.id → row' = row)

/-- A credential goes on; unless it is locked it is not revoked. -/
def AdministrativeCredentialRow.GoesOn (Locked : UUID → Prop)
    (row row' : AdministrativeCredentialRow) : Prop :=
  row.Becomes row' ∧ (¬ Locked row.id → row'.revokedAt = row.revokedAt)

theorem TenantMemberRow.GoesOn.refl {Locked : UUID → Prop} (row : TenantMemberRow) :
    row.GoesOn Locked row :=
  ⟨rfl, rfl, fun _ => rfl⟩

theorem AdministrativeCredentialRow.GoesOn.refl {Locked : UUID → Prop}
    (row : AdministrativeCredentialRow) : row.GoesOn Locked row :=
  ⟨Becomes.refl row, fun _ => rfl⟩

/-- How the tables change when a transaction commits. -/
structure AdministrationDatabase.Committed (current : AdministrationTransaction)
    (db db' : AdministrationDatabase) : Prop where
  members : Table.Written (TenantMemberRow.GoesOn current.LocksMember) (current = .added ·)
    db.members db'.members
  credentials : Table.Written (AdministrativeCredentialRow.GoesOn current.LocksCredential)
    (fun row => ∃ now, current = .inserted row now) db.credentials db'.credentials

/-- The credential of an id, if there is one, is not revoked. -/
def AdministrationDatabase.Unrevoked (db : AdministrationDatabase) (id : UUID) : Prop :=
  ∀ credential ∈ db.credentials, credential.id = id → credential.revokedAt = none

/-- What a transaction has read still holds. -/
def AdministrationTransaction.Grounded (db : AdministrationDatabase) :
    AdministrationTransaction → Prop
  | .upserting _ | .revoking _ _ => True
  | .added row => row.active = true
  | .changing _ row _ phase => row ∈ db.members ∧ ∀ credentials, phase = .written credentials →
      (∀ id ∈ credentials, db.Unrevoked id) ∧
      ∀ credential ∈ db.credentials, credential.tenantId = row.tenantId →
        credential.memberId = row.id → credential.revokedAt = none → credential.id ∈ credentials
  | .creating call member => member.tenantId = call.tenantId
  | .rotating call previous => previous.tenantId = call.tenantId ∧
      (∃ credential ∈ db.credentials, credential.id = previous.id ∧
        credential.tenantId = previous.tenantId ∧ credential.memberId = previous.memberId) ∧
      db.Unrevoked previous.id
  | .inserted row _ => row.revokedAt = none ∧ ∀ previous, row.rotatedFromId = some previous →
      (∃ credential ∈ db.credentials, credential.id = previous) ∧ db.Unrevoked previous

namespace AdministrationTransaction

variable {db db' : AdministrationDatabase} {current other : AdministrationTransaction}

theorem MemberChange.goesOn (change : MemberChange) (now : Int) {row : TenantMemberRow}
    {Locked : UUID → Prop} (hlocked : Locked row.id) :
    row.GoesOn Locked (change.apply now row) := by
  cases change with
  | assign role => exact ⟨rfl, rfl, fun hfree => absurd hlocked hfree⟩
  | revoke => exact ⟨rfl, rfl, fun hfree => absurd hlocked hfree⟩

theorem MemberChange.goesOn_credential (change : MemberChange) (now : Int)
    {row : AdministrativeCredentialRow} {Locked : UUID → Prop} (hlocked : Locked row.id)
    (hunrevoked : row.revokedAt = none) : row.GoesOn Locked (change.applyCredential now row) := by
  cases change with
  | assign role =>
      exact ⟨⟨rfl, rfl, rfl, rfl, rfl, rfl, fun _ => rfl⟩, fun _ => rfl⟩
  | revoke =>
      exact ⟨⟨rfl, rfl, rfl, rfl, rfl, rfl, fun hrevoked => absurd hunrevoked hrevoked⟩,
        fun hfree => absurd hlocked hfree⟩

theorem goesOn_revoke (now : Int) {row : AdministrativeCredentialRow} {Locked : UUID → Prop}
    (hlocked : Locked row.id) : row.GoesOn Locked (row.revoke now) := by
  unfold AdministrativeCredentialRow.revoke
  split
  · rename_i hunrevoked
    exact ⟨⟨rfl, rfl, rfl, rfl, rfl, rfl, fun hrevoked => absurd hunrevoked hrevoked⟩,
      fun hfree => absurd hlocked hfree⟩
  · exact .refl row

/-- What a commit does to the tables. -/
theorem Grounded.committed (h : current.Grounded db) (hready : current.commit? db = some db') :
    db.Committed current db' := by
  cases current with
  | upserting call => cases hready
  | creating call member => cases hready
  | rotating call previous => cases hready
  | added row =>
      cases hready
      exact ⟨(Table.Written.refl TenantMemberRow.GoesOn.refl _).insert rfl,
        .refl AdministrativeCredentialRow.GoesOn.refl _⟩
  | revoking row now =>
      cases hready
      refine ⟨.refl TenantMemberRow.GoesOn.refl _,
        .update AdministrativeCredentialRow.GoesOn.refl ?_⟩
      intro credential _ hselected
      exact goesOn_revoke now hselected.symm
  | inserted row now =>
      cases hready
      refine ⟨.refl TenantMemberRow.GoesOn.refl _,
        (Table.Written.update AdministrativeCredentialRow.GoesOn.refl ?_).insert ⟨now, rfl⟩⟩
      intro credential hcredential hselected
      have hunrevoked := (h.2 credential.id hselected.symm).2 credential hcredential rfl
      exact ⟨⟨rfl, rfl, rfl, rfl, rfl, rfl, fun hrevoked => absurd hunrevoked hrevoked⟩,
        fun hfree => absurd hselected.symm hfree⟩
  | changing change row now phase =>
      cases phase with
      | locked => cases hready
      | cleared => cases hready
      | written credentials =>
          cases hready
          refine ⟨.update TenantMemberRow.GoesOn.refl ?_,
            .update AdministrativeCredentialRow.GoesOn.refl ?_⟩
          · intro member _ hselected
            exact MemberChange.goesOn change now hselected.symm
          · intro credential hcredential hselected
            have hunrevoked := (h.2 credentials rfl).1 credential.id hselected credential
              hcredential rfl
            exact MemberChange.goesOn_credential change now hselected hunrevoked

/-- How the tables change for a transaction that has not locked what is written:
members with other ids stay, credentials with other ids are not revoked, and what
is inserted is not revoked and refers to other members. -/
structure Evolves (member credential : UUID → Prop) (db db' : AdministrationDatabase) : Prop where
  members : ∀ row ∈ db.members, ¬ member row.id → row ∈ db'.members
  credentials : Table.Written (AdministrativeCredentialRow.GoesOn credential)
    (fun row => row.revokedAt = none ∧ member row.memberId) db.credentials db'.credentials

/-- What a transaction locks or refers to. -/
def Touches (current : AdministrationTransaction) (memberId : UUID) : Prop :=
  current.LocksMember memberId ∨ current.RefersMember memberId

theorem Grounded.evolves (h : current.Grounded db) (hready : current.commit? db = some db') :
    Evolves current.Touches current.LocksCredential db db' where
  members row hrow hfree := by
    obtain ⟨row', hrow', _, _, hkept⟩ := (h.committed hready).members.kept row hrow
    rw [← hkept fun hlocks => hfree (.inl hlocks)]
    exact hrow'
  credentials :=
    { kept := (h.committed hready).credentials.kept
      origin := by
        intro row' hrow'
        rcases (h.committed hready).credentials.origin row' hrow' with ⟨now, rfl⟩ | hold
        · exact .inl ⟨h.1, .inr rfl⟩
        · exact .inr hold }

section Evolves

variable {member credential : UUID → Prop}

theorem Evolves.unrevoked (h : Evolves member credential db db') {id : UUID}
    (hfree : ¬ credential id) (hunrevoked : db.Unrevoked id) : db'.Unrevoked id := by
  intro row' hrow' hid
  rcases h.credentials.origin row' hrow' with ⟨hnone, _⟩ | ⟨row, hrow, hbecomes, hkept⟩
  · exact hnone
  · have hsame : row.id = id := hbecomes.id.symm.trans hid
    rw [hkept (hsame ▸ hfree)]
    exact hunrevoked row hrow hsame

/-- What a transaction has read holds after others have written. -/
theorem Grounded.of_evolves (h : other.Grounded db) (hevolves : Evolves member credential db db')
    (hmember : ∀ id, other.LocksMember id → ¬ member id)
    (hcredential : ∀ id, other.LocksCredential id → ¬ credential id) : other.Grounded db' := by
  cases other with
  | upserting call => trivial
  | revoking row now => trivial
  | added row => exact h
  | creating call member => exact h
  | rotating call previous =>
      obtain ⟨htenant, ⟨row, hrow, hid, hrowTenant, hmember⟩, hunrevoked⟩ := h
      refine ⟨htenant, ?_, hevolves.unrevoked (hcredential _ rfl) hunrevoked⟩
      obtain ⟨row', hrow', hbecomes, _⟩ := hevolves.credentials.kept row hrow
      exact ⟨row', hrow', hbecomes.id.trans hid, hbecomes.tenantId.trans hrowTenant,
        hbecomes.memberId.trans hmember⟩
  | inserted inserted now =>
      refine ⟨h.1, ?_⟩
      intro previous hprevious
      obtain ⟨⟨row, hrow, hid⟩, hunrevoked⟩ := h.2 previous hprevious
      refine ⟨?_, hevolves.unrevoked (hcredential _ hprevious) hunrevoked⟩
      obtain ⟨row', hrow', hbecomes, _⟩ := hevolves.credentials.kept row hrow
      exact ⟨row', hrow', hbecomes.id.trans hid⟩
  | changing change locked now phase =>
      obtain ⟨hlocked, hphase⟩ := h
      refine ⟨hevolves.members locked hlocked (hmember _ rfl), ?_⟩
      rintro credentials rfl
      obtain ⟨hunrevoked, hmatched⟩ := hphase credentials rfl
      constructor
      · intro id hid
        exact hevolves.unrevoked (hcredential id hid) (hunrevoked id hid)
      · intro row' hrow' htenant hrefers hnone
        rcases hevolves.credentials.origin row' hrow' with ⟨_, hother⟩ | ⟨row, hrow, hbecomes, _⟩
        · -- A new credential does not refer to the locked member.
          exact absurd (hrefers ▸ hother) (hmember locked.id rfl)
        · rw [hbecomes.id]
          apply hmatched row hrow
          · exact hbecomes.tenantId.symm.trans htenant
          · exact hbecomes.memberId.symm.trans hrefers
          · by_contra hrevoked
            rw [hbecomes.revokedAt hrevoked] at hnone
            exact hrevoked hnone

end Evolves

end AdministrationTransaction

/-! ## Authentication -/

section Authentication

variable {verify : Text → Text → Bool} {db db' : AdministrationDatabase} {key : Text} {now : Int}
  {principal : Principal}

/-- A credential is marked as used. -/
def AdministrationDatabase.used (db : AdministrationDatabase) (id : UUID) (now : Int) :
    AdministrationDatabase :=
  { db with
    credentials :=
      Table.update (·.id = id) (fun row => { row with lastUsedAt := some now }) db.credentials }

/-- What an authentication has found and accepted. -/
theorem authenticate_eq_some (haccepted : authenticate verify db key now = some (principal, db')) :
    ∃ credential member, db.presented? key = some (credential, member) ∧
      Accepts verify key now credential member ∧
      principal = { subject := member.subject, tenantId := credential.tenantId,
                    role := member.role } ∧
      db' = db.used credential.id now := by
  unfold authenticate at haccepted
  rw [if_pos (by by_contra hother; rw [if_neg hother] at haccepted; cases haccepted)] at haccepted
  cases hpresented : db.presented? key with
  | none =>
      rw [hpresented] at haccepted
      cases haccepted
  | some found =>
      obtain ⟨credential, member⟩ := found
      rw [hpresented] at haccepted
      simp only at haccepted
      split at haccepted
      · rename_i haccepts
        cases haccepted
        exact ⟨credential, member, rfl, haccepts, rfl, rfl⟩
      · cases haccepted

theorem evolves_used (id : UUID) (now : Int) :
    AdministrationTransaction.Evolves (fun _ => False) (fun _ => False) db (db.used id now) where
  members row hrow _ := hrow
  credentials := by
    apply Table.Written.update AdministrativeCredentialRow.GoesOn.refl
    intro row _ _
    exact ⟨⟨rfl, rfl, rfl, rfl, rfl, rfl, fun _ => rfl⟩, fun _ => rfl⟩

theorem AdministrationDatabase.Constraints.used (h : db.Constraints) (id : UUID) (now : Int) :
    (db.used id now).Constraints where
  members := h.members
  subjects := h.subjects
  credentials := Table.nodup_update h.credentials fun _ => rfl
  prefixes := Table.nodup_update h.prefixes fun _ => rfl
  owned := Table.forall_update h.owned fun _ howned => howned

end Authentication

/-! ## The invariant -/

/-- The constraints hold, open transactions hold locks that do not conflict, and
what they have read holds. -/
structure Orderly (s : AdministrationState) : Prop where
  constraints : s.db.Constraints
  apart : ∀ first second one two, first ≠ second → s.transactions first = some one →
    s.transactions second = some two → one.Apart two
  grounded : ∀ transaction current, s.transactions transaction = some current →
    current.Grounded s.db

namespace AdministrationState

variable {s : AdministrationState} {transaction other : ℕ}
  {new : Option AdministrationTransaction} {current : AdministrationTransaction}

/-- Whose transaction is open after one of them has gone on. -/
theorem transactions_put (h : (s.put transaction new).transactions other = some current) :
    other = transaction ∧ new = some current ∨
      other ≠ transaction ∧ s.transactions other = some current := by
  simp only [put, Function.update_apply] at h
  split at h
  · next hsame => exact .inl ⟨hsame, h⟩
  · next hother => exact .inr ⟨hother, h⟩

end AdministrationState

namespace Orderly

variable {s : AdministrationState} {transaction : ℕ} {current new : AdministrationTransaction}

/-- A transaction goes on with locks that do not conflict. -/
theorem put (h : Orderly s)
    (hapart : ∀ other two, other ≠ transaction → s.transactions other = some two → new.Apart two)
    (hgrounded : new.Grounded s.db) : Orderly (s.put transaction (some new)) where
  constraints := h.constraints
  apart first second one two hne hone htwo := by
    rcases AdministrationState.transactions_put hone with ⟨rfl, hnew⟩ | ⟨hfirst, hold⟩
    · cases hnew
      rcases AdministrationState.transactions_put htwo with ⟨hsecond, _⟩ | ⟨hsecond, hold'⟩
      · exact absurd hsecond.symm hne
      · exact hapart second two hsecond hold'
    · rcases AdministrationState.transactions_put htwo with ⟨_, hnew⟩ | ⟨_, hold'⟩
      · cases hnew
        exact (hapart first one hfirst hold).symm
      · exact h.apart first second one two hne hold hold'
  grounded other two htwo := by
    rcases AdministrationState.transactions_put htwo with ⟨_, hnew⟩ | ⟨_, hold⟩
    · cases hnew
      exact hgrounded
    · exact h.grounded other two hold

/-- A transaction goes on with the locks it has, or fewer. -/
theorem proceed (h : Orderly s) (hcurrent : s.transactions transaction = some current)
    (hmembers : ∀ id, new.LocksMember id → current.LocksMember id)
    (hrefers : ∀ id, new.RefersMember id → current.RefersMember id)
    (hcredentials : ∀ id, new.LocksCredential id → current.LocksCredential id)
    (hgrounded : new.Grounded s.db) : Orderly (s.put transaction (some new)) := by
  apply h.put _ hgrounded
  intro other two hne htwo
  have hapart := h.apart transaction other current two hne.symm hcurrent htwo
  exact
    { members := fun id hid => hapart.members id (hmembers id hid)
      referred := fun id hid => hapart.referred id (hmembers id hid)
      referring := fun id hid => hapart.referring id (hrefers id hid)
      credentials := fun id hid => hapart.credentials id (hcredentials id hid) }

theorem drop (h : Orderly s) (transaction : ℕ) : Orderly (s.put transaction none) where
  constraints := h.constraints
  apart first second one two hne hone htwo := by
    rcases AdministrationState.transactions_put hone with ⟨_, hnone⟩ | ⟨_, hold⟩
    · cases hnone
    · rcases AdministrationState.transactions_put htwo with ⟨_, hnone⟩ | ⟨_, hold'⟩
      · cases hnone
      · exact h.apart first second one two hne hold hold'
  grounded other two htwo := by
    rcases AdministrationState.transactions_put htwo with ⟨_, hnone⟩ | ⟨_, hold⟩
    · cases hnone
    · exact h.grounded other two hold

/-- A transaction commits. -/
theorem commit (h : Orderly s) {db' : AdministrationDatabase}
    (hcurrent : s.transactions transaction = some current)
    (hready : current.commit? s.db = some db') (hconstraints : db'.Constraints) :
    Orderly { s.put transaction none with db := db' } where
  constraints := hconstraints
  apart := (h.drop transaction).apart
  grounded other two htwo := by
    rcases AdministrationState.transactions_put htwo with ⟨_, hnone⟩ | ⟨hother, hold⟩
    · cases hnone
    · have hapart := h.apart other transaction two current hother hold hcurrent
      refine (h.grounded other two hold).of_evolves
        ((h.grounded transaction current hcurrent).evolves hready) ?_ hapart.credentials
      rintro id hid (hlocks | hrefers)
      · exact hapart.members id hid hlocks
      · exact hapart.referred id hid hrefers

/-- A credential is used. -/
theorem authenticate (h : Orderly s) {verify : Text → Text → Bool} {key : Text} {now : Int}
    {principal : Principal} {db' : AdministrationDatabase}
    (haccepted : Persistence.authenticate verify s.db key now = some (principal, db')) :
    Orderly { s with db := db' } where
  constraints := by
    obtain ⟨credential, member, _, _, _, rfl⟩ := authenticate_eq_some haccepted
    exact h.constraints.used credential.id now
  apart := h.apart
  grounded other two htwo := by
    obtain ⟨credential, member, _, _, _, rfl⟩ := authenticate_eq_some haccepted
    exact (h.grounded other two htwo).of_evolves (evolves_used credential.id now)
      (fun _ _ => id) fun _ _ => id

/-! ### The steps -/

/-- A transaction opens that locks no member and no credential. -/
theorem start (h : Orderly s) (hmembers : ∀ id, ¬ new.LocksMember id)
    (hrefers : ∀ id, ¬ new.RefersMember id) (hcredentials : ∀ id, ¬ new.LocksCredential id)
    (hgrounded : new.Grounded s.db) : Orderly (s.put transaction (some new)) := by
  apply h.put _ hgrounded
  intro other two _ _
  exact AdministrationTransaction.apart_of_free hmembers hrefers hcredentials

/-- A member is locked to be changed. -/
theorem lockMember (h : Orderly s) {row : TenantMemberRow} (hrow : row ∈ s.db.members)
    (hfree : s.FreeFor transaction fun other => other.LocksMember row.id ∨ other.RefersMember row.id)
    (change : MemberChange) (now : Int) :
    Orderly (s.put transaction (some (.changing change row now .locked))) := by
  apply h.put
  case hapart =>
    intro other two hne htwo
    exact AdministrationTransaction.apart_changing (hfree other two hne htwo)
  case hgrounded => exact ⟨hrow, fun _ hphase => by cases hphase⟩

/-- The credentials of a locked member that are not revoked are locked. -/
theorem updateCredentials (h : Orderly s) {change : MemberChange} {row : TenantMemberRow} {now : Int}
    (hopen : s.transactions transaction = some (.changing change row now .cleared))
    (hfree : ∀ credential ∈ s.db.unrevoked row,
      s.FreeFor transaction (AdministrationTransaction.LocksCredential credential.id)) :
    Orderly (s.put transaction
      (some (.changing change row now (.written ((s.db.unrevoked row).map (·.id)))))) := by
  apply h.put
  case hapart =>
    intro other two hne htwo
    have hapart := h.apart _ other _ two hne.symm hopen htwo
    refine ⟨hapart.members, hapart.referred, hapart.referring, ?_⟩
    intro id hid
    obtain ⟨credential, hcredential, rfl⟩ := List.mem_map.mp hid
    exact hfree credential hcredential other two hne htwo
  case hgrounded =>
    refine ⟨(h.grounded _ _ hopen).1, ?_⟩
    intro credentials hphase
    cases hphase
    constructor
    · intro id hid credential hcredential hsame
      obtain ⟨matched, hmatched, rfl⟩ := List.mem_map.mp hid
      obtain ⟨hstored, hselected⟩ := List.mem_filter.mp hmatched
      rw [Table.eq_of_key_eq h.constraints.credentials hcredential hstored hsame]
      exact (of_decide_eq_true hselected).2.2
    · intro credential hcredential htenant hmember hnone
      apply List.mem_map_of_mem
      exact List.mem_filter.mpr ⟨hcredential, decide_eq_true ⟨htenant, hmember, hnone⟩⟩

/-- A transaction opens that locks one credential. -/
theorem lockCredential (h : Orderly s) {credentialId : UUID}
    (hfree : s.FreeFor transaction (AdministrationTransaction.LocksCredential credentialId))
    (hmembers : ∀ id, ¬ new.LocksMember id) (hrefers : ∀ id, ¬ new.RefersMember id)
    (hcredentials : ∀ id, new.LocksCredential id → id = credentialId)
    (hgrounded : new.Grounded s.db) : Orderly (s.put transaction (some new)) := by
  apply h.put _ hgrounded
  intro other two hne htwo
  refine ⟨fun id hid => absurd hid (hmembers id), fun id hid => absurd hid (hmembers id),
    fun id hid => absurd hid (hrefers id), ?_⟩
  intro id hid
  rw [hcredentials id hid]
  exact hfree other two hne htwo

theorem insertCreated (h : Orderly s) {call : CreateCredential} {member : TenantMemberRow}
    (hfree : s.FreeFor transaction (AdministrationTransaction.LocksMember member.id)) (id : UUID) :
    Orderly (s.put transaction
      (some (.inserted (createdCredential call member id) call.now))) := by
  apply h.put
  case hapart =>
    intro other two hne htwo
    refine ⟨fun _ => nofun, fun _ => nofun, ?_, fun _ => nofun⟩
    rintro id rfl
    exact hfree other two hne htwo
  case hgrounded => exact ⟨rfl, fun _ hprevious => by cases hprevious⟩

/-- The previous credential stays locked. -/
theorem insertRotated (h : Orderly s) {call : RotateCredential}
    {previous : AdministrativeCredentialRow}
    (hopen : s.transactions transaction = some (.rotating call previous))
    (hfree : s.FreeFor transaction (AdministrationTransaction.LocksMember previous.memberId))
    (id : UUID) :
    Orderly (s.put transaction
      (some (.inserted (rotatedCredential call previous id) call.now))) := by
  obtain ⟨_, ⟨credential, hcredential, hid, _⟩, hunrevoked⟩ := h.grounded _ _ hopen
  apply h.put
  case hapart =>
    intro other two hne htwo
    have hapart := h.apart _ other _ two hne.symm hopen htwo
    refine ⟨fun _ => nofun, fun _ => nofun, ?_, ?_⟩
    · rintro id rfl
      exact hfree other two hne htwo
    · intro id hprevious
      cases hprevious
      exact hapart.credentials _ rfl
  case hgrounded =>
    refine ⟨rfl, ?_⟩
    intro previous hprevious
    cases hprevious
    exact ⟨⟨credential, hcredential, hid⟩, hunrevoked⟩

/-- Every step keeps the order. -/
theorem step (h : Orderly s) {verify : Text → Text → Bool} {label : AdministrationLabel}
    {s' : AdministrationState} (hstep : Administers verify s label s') : Orderly s' := by
  cases hstep with
  | lockTenant hnew htenant hfree =>
      exact h.start (fun _ => id) (fun _ => id) (fun _ => id) trivial
  | readMember hopen hfound hfree =>
      exact h.lockMember (List.mem_of_find?_eq_some hfound) hfree _ _
  | insertMember hopen hfound =>
      exact h.proceed hopen (fun _ => id) (fun _ => id) (fun _ => id) rfl
  | revokeMember hnew hfound hactive hfree =>
      exact h.lockMember (List.mem_of_find?_eq_some hfound) hfree _ _
  | requireOtherOwner hopen howners =>
      have hgrounded := (h.grounded _ _ hopen).1
      exact h.proceed hopen (fun _ => id) (fun _ => id) (fun _ => id)
        ⟨hgrounded, fun _ hphase => by cases hphase⟩
  | updateCredentials hopen hfree => exact h.updateCredentials hopen hfree
  | createCredential hnew hexpiry hfound hactive =>
      exact h.start (fun _ => id) (fun _ => id) (fun _ => id) (Table.of_find? hfound).2.1
  | rotateCredential hnew hexpiry hfound hunrevoked hfree =>
      obtain ⟨hstored, htenant, hid⟩ := Table.of_find? hfound
      apply h.lockCredential hfree
      case hmembers => exact fun _ => id
      case hrefers => exact fun _ => id
      case hcredentials => exact fun _ hsame => Eq.symm hsame
      case hgrounded =>
        refine ⟨htenant, ⟨_, hstored, rfl, rfl, rfl⟩, ?_⟩
        intro credential hcredential hsame
        rw [Table.eq_of_key_eq h.constraints.credentials hcredential hstored hsame]
        exact hunrevoked
  | insertCreated hopen hfree => exact h.insertCreated hfree _
  | insertRotated hopen hfree => exact h.insertRotated hopen hfree _
  | revokeCredential hnew hfound hfree =>
      apply h.lockCredential hfree
      case hmembers => exact fun _ => id
      case hrefers => exact fun _ => id
      case hcredentials => exact fun _ hsame => Eq.symm hsame
      case hgrounded => trivial
  | commit hopen hready hconstraints => exact h.commit hopen hready hconstraints
  | abort => exact h.drop _
  | authenticate hfree haccepted => exact h.authenticate haccepted

end Orderly

/-! ## Two transactions -/

namespace AdministrationState

/-- The tables with at most two open transactions. -/
def pair (db : AdministrationDatabase) (first second : Option AdministrationTransaction) :
    AdministrationState where
  db := db
  transactions := fun transaction =>
    match transaction with
    | 0 => first
    | 1 => second
    | _ => none

variable {db : AdministrationDatabase} {first second new : Option AdministrationTransaction}

theorem pair_put_first : (pair db first second).put 0 new = pair db new second := by
  unfold put pair
  congr 1
  funext transaction
  rw [Function.update_apply]
  rcases transaction with _ | _ | transaction <;> rfl

theorem pair_put_second : (pair db first second).put 1 new = pair db first new := by
  unfold put pair
  congr 1
  funext transaction
  rw [Function.update_apply]
  rcases transaction with _ | _ | transaction <;> rfl

theorem open_pair {transaction : ℕ} {current : AdministrationTransaction}
    (hopen : (pair db first second).transactions transaction = some current) :
    transaction = 0 ∧ first = some current ∨ transaction = 1 ∧ second = some current := by
  match transaction, hopen with
  | 0, hopen => exact .inl ⟨rfl, hopen⟩
  | 1, hopen => exact .inr ⟨rfl, hopen⟩

theorem pair_none (transaction : ℕ) : (pair db none none).transactions transaction = none := by
  rcases transaction with _ | _ | transaction <;> rfl

/-- Nothing holds the first transaction up when the second does not. -/
theorem freeFor_first {Holds : AdministrationTransaction → Prop}
    (hsecond : ∀ current, second = some current → ¬ Holds current) :
    (pair db first second).FreeFor 0 Holds := by
  intro other current hother hopen
  rcases open_pair hopen with ⟨hzero, _⟩ | ⟨_, hcurrent⟩
  · exact absurd hzero hother
  · exact hsecond current hcurrent

theorem freeFor_second {Holds : AdministrationTransaction → Prop}
    (hfirst : ∀ current, first = some current → ¬ Holds current) :
    (pair db first second).FreeFor 1 Holds := by
  intro other current hother hopen
  rcases open_pair hopen with ⟨_, hcurrent⟩ | ⟨hone, _⟩
  · exact hfirst current hcurrent
  · exact absurd hone hother

section Steps

variable {verify : Text → Text → Bool} {label : AdministrationLabel}
  {current : AdministrationTransaction} {db' : AdministrationDatabase}

theorem step_first (hstep : Administers verify (pair db first second) label
    ((pair db first second).put 0 new)) :
    Administers verify (pair db first second) label (pair db new second) := by
  rw [pair_put_first] at hstep
  exact hstep

theorem step_second (hstep : Administers verify (pair db first second) label
    ((pair db first second).put 1 new)) :
    Administers verify (pair db first second) label (pair db first new) := by
  rw [pair_put_second] at hstep
  exact hstep

theorem commit_first (hready : current.commit? db = some db') (hconstraints : db'.Constraints) :
    Administers verify (pair db (some current) second) (.commit 0) (pair db' none second) := by
  have hcommit := @Administers.commit verify (pair db (some current) second) 0 current db' rfl
    hready hconstraints
  rw [pair_put_first] at hcommit
  exact hcommit

theorem commit_second (hready : current.commit? db = some db') (hconstraints : db'.Constraints) :
    Administers verify (pair db first (some current)) (.commit 1) (pair db' first none) := by
  have hcommit := @Administers.commit verify (pair db first (some current)) 1 current db' rfl
    hready hconstraints
  rw [pair_put_second] at hcommit
  exact hcommit

end Steps

end AdministrationState

end BusinessAssistant.Persistence
