/-
# Members and credentials

Any number of `upsert_member`, `revoke_member`, `create_credential`,
`rotate_credential` and `revoke_credential` transactions, statement by statement,
and authentications between them. A statement sees what is committed. A row read
for update is locked until the transaction ends, so is a row an `UPDATE` matches;
an inserted credential refers to its member and keeps the member's row from being
locked, and waits while it is.
-/

import BusinessAssistant.Application.Administration
import BusinessAssistant.Foundation.System
import BusinessAssistant.Foundation.Table
import BusinessAssistant.Persistence.Rows
import Mathlib.Logic.Function.Basic

namespace BusinessAssistant.Persistence

open BusinessAssistant.Domain BusinessAssistant.Application BusinessAssistant.Foundation

/-! ## Rows -/

structure TenantMemberRow where
  id : UUID
  tenantId : TenantId
  subject : Text
  role : Role
  active : Bool
  createdAt : Int
  updatedAt : Int
  deriving DecidableEq

structure AdministrativeCredentialRow where
  id : UUID
  tenantId : TenantId
  memberId : UUID
  name : Text
  keyPrefix : Text
  secretHash : Text
  role : Role
  expiresAt : Option Int
  revokedAt : Option Int := none
  lastUsedAt : Option Int := none
  rotatedFromId : Option UUID := none
  createdAt : Int
  deriving DecidableEq

/-- The tables the operations read and write. -/
structure AdministrationDatabase where
  tenants : List TenantRow
  members : List TenantMemberRow := []
  credentials : List AdministrativeCredentialRow := []

/-- A member that is an owner and not revoked. -/
def TenantMemberRow.ActiveOwner (row : TenantMemberRow) (tenantId : TenantId) : Prop :=
  row.tenantId = tenantId ∧ row.role = .owner ∧ row.active = true

instance (row : TenantMemberRow) (tenantId : TenantId) : Decidable (row.ActiveOwner tenantId) :=
  inferInstanceAs (Decidable (_ ∧ _ ∧ _))

namespace AdministrationDatabase

variable (db : AdministrationDatabase)

/-- The member of a subject. -/
def memberOf? (tenantId : TenantId) (subject : Text) : Option TenantMemberRow :=
  db.members.find? fun row => row.tenantId = tenantId ∧ row.subject = subject

def member? (tenantId : TenantId) (memberId : UUID) : Option TenantMemberRow :=
  db.members.find? fun row => row.tenantId = tenantId ∧ row.id = memberId

def credential? (tenantId : TenantId) (credentialId : UUID) : Option AdministrativeCredentialRow :=
  db.credentials.find? fun row => row.tenantId = tenantId ∧ row.id = credentialId

/-- `_require_other_owner` -/
def OtherOwner (tenantId : TenantId) (excluded : UUID) : Prop :=
  ∃ row ∈ db.members, row.ActiveOwner tenantId ∧ row.id ≠ excluded

/-- The credentials of a member that are not revoked. -/
def unrevoked (member : TenantMemberRow) : List AdministrativeCredentialRow :=
  db.credentials.filter fun row =>
    row.tenantId = member.tenantId ∧ row.memberId = member.id ∧ row.revokedAt = none

/-- The keys, and the member a credential refers to. -/
structure Constraints : Prop where
  members : (db.members.map (·.id)).Nodup
  subjects : (db.members.map fun row => (row.tenantId, row.subject)).Nodup
  credentials : (db.credentials.map (·.id)).Nodup
  prefixes : (db.credentials.map (·.keyPrefix)).Nodup
  owned : ∀ row ∈ db.credentials, ∃ member ∈ db.members, member.id = row.memberId ∧
    member.tenantId = row.tenantId

end AdministrationDatabase

/-! ## Authentication -/

section Authentication

variable (verify : Text → Text → Bool)

/-- The credential a key presents, with its member. -/
def AdministrationDatabase.presented? (db : AdministrationDatabase) (key : Text) :
    Option (AdministrativeCredentialRow × TenantMemberRow) :=
  (db.credentials.find? fun row => row.keyPrefix = databasePrefix key).bind fun credential =>
    (db.member? credential.tenantId credential.memberId).map fun member => (credential, member)

/-- The tests `authenticate` makes of a credential and its member. -/
def Accepts (key : Text) (now : Int) (credential : AdministrativeCredentialRow)
    (member : TenantMemberRow) : Prop :=
  verify key credential.secretHash = true ∧ credential.revokedAt = none ∧
    (∀ expiry ∈ credential.expiresAt, now < expiry) ∧ member.active = true ∧
    credential.role = member.role

instance (key : Text) (now : Int) (credential : AdministrativeCredentialRow)
    (member : TenantMemberRow) : Decidable (Accepts verify key now credential member) :=
  inferInstanceAs (Decidable (_ ∧ _ ∧ _ ∧ _ ∧ _))

/-- `authenticate` against the tables; `verify` is the comparison with a stored
hash. A key without the prefix of stored credentials is left to the static keys.
The key's credential is marked as used. -/
def authenticate (db : AdministrationDatabase) (key : Text) (now : Int) :
    Option (Principal × AdministrationDatabase) :=
  if HasDatabasePrefix key then
    match db.presented? key with
    | some (credential, member) =>
        if Accepts verify key now credential member then
          some
            ({ subject := member.subject, tenantId := credential.tenantId, role := member.role },
              { db with
                credentials :=
                  Table.update (·.id = credential.id)
                    (fun row => { row with lastUsedAt := some now }) db.credentials })
        else none
    | none => none
  else none

end Authentication

/-! ## Transactions -/

/-- What a transaction does to a member that exists. -/
inductive MemberChange
  /-- `upsert_member` gives it a role and makes it active. -/
  | assign (role : Role)
  /-- `revoke_member` -/
  | revoke
  deriving DecidableEq

/-- The change takes an active owner away. -/
def MemberChange.RemovesOwner (change : MemberChange) (row : TenantMemberRow) : Prop :=
  row.active = true ∧ row.role = .owner ∧ change ≠ .assign .owner

instance (change : MemberChange) (row : TenantMemberRow) : Decidable (change.RemovesOwner row) :=
  inferInstanceAs (Decidable (_ ∧ _ ∧ _))

inductive MemberPhase
  /-- The member's row is locked. -/
  | locked
  /-- Other owners have been counted, if they had to be. -/
  | cleared
  /-- The `UPDATE` of the member's credentials has matched and locked these. -/
  | written (credentials : List UUID)

inductive AdministrationTransaction
  /-- `upsert_member` with the tenant's row locked. -/
  | upserting (call : UpsertMember)
  /-- `upsert_member` of a subject without a member: the row is inserted. -/
  | added (row : TenantMemberRow)
  /-- `upsert_member` or `revoke_member` of a member. -/
  | changing (change : MemberChange) (row : TenantMemberRow) (now : Int) (phase : MemberPhase)
  /-- `create_credential` that has read the active member. -/
  | creating (call : CreateCredential) (member : TenantMemberRow)
  /-- `rotate_credential` with the previous credential's row locked. -/
  | rotating (call : RotateCredential) (previous : AdministrativeCredentialRow)
  /-- A credential is inserted, by `rotate_credential` in the place of another. -/
  | inserted (row : AdministrativeCredentialRow) (now : Int)
  /-- `revoke_credential` with the credential's row locked. -/
  | revoking (row : AdministrativeCredentialRow) (now : Int)

namespace AdministrationTransaction

/-- The tenant's row is locked from the first statement of `upsert_member` on. -/
def LocksTenant (tenantId : TenantId) : AdministrationTransaction → Prop
  | .upserting call => call.tenantId = tenantId
  | .added row => row.tenantId = tenantId
  | .changing (.assign _) row _ _ => row.tenantId = tenantId
  | .changing .revoke _ _ _ | .creating _ _ | .rotating _ _ | .inserted _ _ | .revoking _ _ => False

def LocksMember (memberId : UUID) : AdministrationTransaction → Prop
  | .changing _ row _ _ => row.id = memberId
  | .upserting _ | .added _ | .creating _ _ | .rotating _ _ | .inserted _ _ | .revoking _ _ => False

/-- An inserted credential refers to the member. -/
def RefersMember (memberId : UUID) : AdministrationTransaction → Prop
  | .inserted row _ => row.memberId = memberId
  | .upserting _ | .added _ | .changing _ _ _ _ | .creating _ _ | .rotating _ _
  | .revoking _ _ => False

def LocksCredential (credentialId : UUID) : AdministrationTransaction → Prop
  | .changing _ _ _ (.written credentials) => credentialId ∈ credentials
  | .rotating _ previous => previous.id = credentialId
  | .inserted row _ => row.rotatedFromId = some credentialId
  | .revoking row _ => row.id = credentialId
  | .upserting _ | .added _ | .changing _ _ _ _ | .creating _ _ => False

end AdministrationTransaction

/-- The member `upsert_member` inserts. -/
def newMember (call : UpsertMember) (id : UUID) : TenantMemberRow where
  id := id
  tenantId := call.tenantId
  subject := call.subject
  role := call.role
  active := true
  createdAt := call.now
  updatedAt := call.now

/-- The credential `create_credential` inserts. -/
def createdCredential (call : CreateCredential) (member : TenantMemberRow) (id : UUID) :
    AdministrativeCredentialRow where
  id := id
  tenantId := call.tenantId
  memberId := member.id
  name := Text.strip call.name
  keyPrefix := call.material.keyPrefix
  secretHash := call.material.secretHash
  role := member.role
  expiresAt := call.expiresAt
  createdAt := call.now

/-- The credential `rotate_credential` inserts. -/
def rotatedCredential (call : RotateCredential) (previous : AdministrativeCredentialRow)
    (id : UUID) : AdministrativeCredentialRow where
  id := id
  tenantId := call.tenantId
  memberId := previous.memberId
  name := previous.name
  keyPrefix := call.material.keyPrefix
  secretHash := call.material.secretHash
  role := previous.role
  expiresAt := call.expiresAt
  rotatedFromId := some previous.id
  createdAt := call.now

/-- What a change leaves of the member. -/
def MemberChange.apply (change : MemberChange) (now : Int) (row : TenantMemberRow) :
    TenantMemberRow :=
  match change with
  | .assign role => { row with role := role, active := true, updatedAt := now }
  | .revoke => { row with active := false, updatedAt := now }

/-- What a change leaves of a credential of the member. -/
def MemberChange.applyCredential (change : MemberChange) (now : Int)
    (row : AdministrativeCredentialRow) : AdministrativeCredentialRow :=
  match change with
  | .assign role => { row with role := role }
  | .revoke => { row with revokedAt := some now }

/-- `revoke_credential` of a credential. -/
def AdministrativeCredentialRow.revoke (now : Int) (row : AdministrativeCredentialRow) :
    AdministrativeCredentialRow :=
  if row.revokedAt = none then { row with revokedAt := some now } else row

/-- What a transaction leaves when it commits, if it is ready to. -/
def AdministrationTransaction.commit? (db : AdministrationDatabase) :
    AdministrationTransaction → Option AdministrationDatabase
  | .added row => some { db with members := db.members ++ [row] }
  | .changing change row now (.written credentials) =>
      some
        { db with
          members := Table.update (·.id = row.id) (change.apply now) db.members
          credentials :=
            Table.update (·.id ∈ credentials) (change.applyCredential now) db.credentials }
  | .inserted row now =>
      some
        { db with
          credentials :=
            Table.update (some ·.id = row.rotatedFromId)
              (fun previous => { previous with revokedAt := some now }) db.credentials ++ [row] }
  | .revoking row now =>
      some
        { db with
          credentials := Table.update (·.id = row.id) (·.revoke now) db.credentials }
  | .upserting _ | .changing _ _ _ .locked | .changing _ _ _ .cleared | .creating _ _
  | .rotating _ _ => none

/-! ## The system -/

structure AdministrationState where
  db : AdministrationDatabase
  transactions : ℕ → Option AdministrationTransaction

namespace AdministrationState

variable (s : AdministrationState)

/-- The transaction goes on. -/
def put (transaction : ℕ) (next : Option AdministrationTransaction) : AdministrationState :=
  { s with transactions := Function.update s.transactions transaction next }

/-- No other transaction holds a lock. -/
def FreeFor (transaction : ℕ) (Holds : AdministrationTransaction → Prop) : Prop :=
  ∀ other current, other ≠ transaction → s.transactions other = some current → ¬ Holds current

end AdministrationState

inductive AdministrationLabel
  | lockTenant (transaction : ℕ) (call : UpsertMember)
  | readMember (transaction : ℕ)
  | insertMember (transaction : ℕ) (id : UUID)
  | revokeMember (transaction : ℕ) (tenantId : TenantId) (memberId : UUID) (now : Int)
  | requireOtherOwner (transaction : ℕ)
  | updateCredentials (transaction : ℕ)
  | createCredential (transaction : ℕ) (call : CreateCredential)
  | rotateCredential (transaction : ℕ) (call : RotateCredential)
  | insertCredential (transaction : ℕ) (id : UUID)
  | revokeCredential (transaction : ℕ) (tenantId : TenantId) (credentialId : UUID) (now : Int)
  | commit (transaction : ℕ)
  | abort (transaction : ℕ)
  | authenticate (key : Text) (now : Int)

open AdministrationTransaction in
/-- The steps. A statement that waits for a lock is not taken yet; a transaction
that raises or violates a constraint can only be aborted. -/
inductive Administers (verify : Text → Text → Bool) :
    AdministrationState → AdministrationLabel → AdministrationState → Prop
  | lockTenant {s : AdministrationState} {transaction : ℕ} {call : UpsertMember}
      (hnew : s.transactions transaction = none)
      (htenant : ∃ tenant ∈ s.db.tenants, tenant.id = call.tenantId)
      (hfree : s.FreeFor transaction (LocksTenant call.tenantId)) :
      Administers verify s (.lockTenant transaction call)
        (s.put transaction (some (.upserting call)))
  | readMember {s : AdministrationState} {transaction : ℕ} {call : UpsertMember}
      {row : TenantMemberRow} (hopen : s.transactions transaction = some (.upserting call))
      (hfound : s.db.memberOf? call.tenantId call.subject = some row)
      (hfree : s.FreeFor transaction fun other => other.LocksMember row.id ∨ other.RefersMember row.id) :
      Administers verify s (.readMember transaction)
        (s.put transaction (some (.changing (.assign call.role) row call.now .locked)))
  | insertMember {s : AdministrationState} {transaction : ℕ} {call : UpsertMember} {id : UUID}
      (hopen : s.transactions transaction = some (.upserting call))
      (hfound : s.db.memberOf? call.tenantId call.subject = none) :
      Administers verify s (.insertMember transaction id)
        (s.put transaction (some (.added (newMember call id))))
  | revokeMember {s : AdministrationState} {transaction : ℕ} {tenantId : TenantId} {memberId : UUID}
      {now : Int} {row : TenantMemberRow} (hnew : s.transactions transaction = none)
      (hfound : s.db.member? tenantId memberId = some row) (hactive : row.active = true)
      (hfree : s.FreeFor transaction fun other => other.LocksMember row.id ∨ other.RefersMember row.id) :
      Administers verify s (.revokeMember transaction tenantId memberId now)
        (s.put transaction (some (.changing .revoke row now .locked)))
  | requireOtherOwner {s : AdministrationState} {transaction : ℕ} {change : MemberChange}
      {row : TenantMemberRow} {now : Int}
      (hopen : s.transactions transaction = some (.changing change row now .locked))
      (howners : change.RemovesOwner row → s.db.OtherOwner row.tenantId row.id) :
      Administers verify s (.requireOtherOwner transaction)
        (s.put transaction (some (.changing change row now .cleared)))
  | updateCredentials {s : AdministrationState} {transaction : ℕ} {change : MemberChange}
      {row : TenantMemberRow} {now : Int}
      (hopen : s.transactions transaction = some (.changing change row now .cleared))
      (hfree : ∀ credential ∈ s.db.unrevoked row,
        s.FreeFor transaction (LocksCredential credential.id)) :
      Administers verify s (.updateCredentials transaction)
        (s.put transaction
          (some (.changing change row now (.written ((s.db.unrevoked row).map (·.id))))))
  | createCredential {s : AdministrationState} {transaction : ℕ} {call : CreateCredential}
      {member : TenantMemberRow} (hnew : s.transactions transaction = none)
      (hexpiry : ExpiryValid call.expiresAt call.now)
      (hfound : s.db.member? call.tenantId call.memberId = some member)
      (hactive : member.active = true) :
      Administers verify s (.createCredential transaction call)
        (s.put transaction (some (.creating call member)))
  | rotateCredential {s : AdministrationState} {transaction : ℕ} {call : RotateCredential}
      {previous : AdministrativeCredentialRow} (hnew : s.transactions transaction = none)
      (hexpiry : ExpiryValid call.expiresAt call.now)
      (hfound : s.db.credential? call.tenantId call.credentialId = some previous)
      (hunrevoked : previous.revokedAt = none)
      (hfree : s.FreeFor transaction (LocksCredential previous.id)) :
      Administers verify s (.rotateCredential transaction call)
        (s.put transaction (some (.rotating call previous)))
  | insertCreated {s : AdministrationState} {transaction : ℕ} {call : CreateCredential}
      {member : TenantMemberRow} {id : UUID}
      (hopen : s.transactions transaction = some (.creating call member))
      (hfree : s.FreeFor transaction (LocksMember member.id)) :
      Administers verify s (.insertCredential transaction id)
        (s.put transaction (some (.inserted (createdCredential call member id) call.now)))
  | insertRotated {s : AdministrationState} {transaction : ℕ} {call : RotateCredential}
      {previous : AdministrativeCredentialRow} {id : UUID}
      (hopen : s.transactions transaction = some (.rotating call previous))
      (hfree : s.FreeFor transaction (LocksMember previous.memberId)) :
      Administers verify s (.insertCredential transaction id)
        (s.put transaction (some (.inserted (rotatedCredential call previous id) call.now)))
  | revokeCredential {s : AdministrationState} {transaction : ℕ} {tenantId : TenantId}
      {credentialId : UUID} {now : Int} {row : AdministrativeCredentialRow}
      (hnew : s.transactions transaction = none)
      (hfound : s.db.credential? tenantId credentialId = some row)
      (hfree : s.FreeFor transaction (LocksCredential row.id)) :
      Administers verify s (.revokeCredential transaction tenantId credentialId now)
        (s.put transaction (some (.revoking row now)))
  | commit {s : AdministrationState} {transaction : ℕ} {current : AdministrationTransaction}
      {db' : AdministrationDatabase} (hopen : s.transactions transaction = some current)
      (hready : current.commit? s.db = some db') (hconstraints : db'.Constraints) :
      Administers verify s (.commit transaction) { s.put transaction none with db := db' }
  | abort {s : AdministrationState} {transaction : ℕ} :
      Administers verify s (.abort transaction) (s.put transaction none)
  | authenticate {s : AdministrationState} {key : Text} {now : Int} {principal : Principal}
      {db' : AdministrationDatabase}
      (hfree : ∀ found ∈ s.db.presented? key, ∀ other current,
        s.transactions other = some current → ¬ current.LocksCredential found.1.id)
      (haccepted : authenticate verify s.db key now = some (principal, db')) :
      Administers verify s (.authenticate key now) { s with db := db' }

end BusinessAssistant.Persistence
