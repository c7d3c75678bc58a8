/-
# Administration contracts

Roles, the principal that authentication yields, and the requests of the member
and credential operations with the instant they take as now.
-/

import BusinessAssistant.Domain.Identifiers
import BusinessAssistant.Domain.Text

namespace BusinessAssistant.Application

open BusinessAssistant.Domain

inductive Role
  | owner
  | manager
  | agent
  | knowledgeEditor
  | viewer
  deriving DecidableEq, Repr

structure Principal where
  subject : Text
  tenantId : TenantId
  role : Role
  deriving DecidableEq

/-- A new secret: what is stored of it. -/
structure CredentialMaterial where
  keyPrefix : Text
  secretHash : Text
  deriving DecidableEq

structure UpsertMember where
  tenantId : TenantId
  subject : Text
  role : Role
  now : Int

structure CreateCredential where
  tenantId : TenantId
  memberId : UUID
  name : Text
  expiresAt : Option Int
  material : CredentialMaterial
  now : Int

structure RotateCredential where
  tenantId : TenantId
  credentialId : UUID
  expiresAt : Option Int
  material : CredentialMaterial
  now : Int

/-- `_validate_expiry`: no expiry, or one to come. -/
def ExpiryValid (expiresAt : Option Int) (now : Int) : Prop := ∀ instant ∈ expiresAt, now < instant

/-- What stands before the first dot of a key, if there is one. -/
def databasePrefix (key : Text) : Text := if '.' ∈ key then key.takeWhile (· ≠ '.') else []

/-- `prefix.startswith("atba_")` -/
def HasDatabasePrefix (key : Text) : Prop := "atba_".toList <+: databasePrefix key

instance (key : Text) : Decidable (HasDatabasePrefix key) :=
  inferInstanceAs (Decidable (_ <+: _))

end BusinessAssistant.Application
