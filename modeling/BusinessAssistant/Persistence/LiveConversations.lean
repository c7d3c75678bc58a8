/-
# The live conversations of anonymized customers

An anonymized customer has no live conversation, unless it is anonymized between a resolve's
reading of its identity and the resolve's insert of a conversation. Nothing rules that out:
anonymization does not take the lock of the resolve, and closes the conversations there are.
-/

import BusinessAssistant.Persistence.IdentityRuns

namespace BusinessAssistant.Persistence

open BusinessAssistant.Domain BusinessAssistant.Application BusinessAssistant.Foundation

/-! ## Anonymized customers -/

/-- A resolve that has read its identity and not yet settled on a conversation. -/
def Resolution.Unsettled (resolution : Resolution) (identity : ChannelIdentityRow) : Prop :=
  resolution.phase = .identified identity .found ∨
    resolution.phase = .selected identity .found none

/-- No anonymization commits while a resolve that has read the identity of its customer has
not settled on a conversation. -/
def Undisturbed (s : IdentityState) : IdentityStep → Prop
  | .commit transaction => ∀ tenantId customerId,
      s.transactions transaction = some (.anonymize tenantId customerId) →
        ∀ other resolution identity, s.Runs other resolution → resolution.Unsettled identity →
          ¬ (resolution.request.tenantId = tenantId ∧ identity.customerId = customerId)
  | .lock _ _ | .checkTenant _ | .identify _ _ _ | .select _ _ | .insert _ _ _ | .anonymize _ _ _
  | .abort _ => True

/-- A resolve that goes by an identity for which it may open, or has opened, a conversation. -/
def Resolution.Relies (resolution : Resolution) (identity : ChannelIdentityRow) : Prop :=
  resolution.Unsettled identity ∨
    ∃ conversation, resolution.phase = .inserted identity .found conversation

/-- The customer of the identity a resolve goes by is not anonymized. -/
def Resolution.Free (resolution : Resolution) (db : IdentityDatabase) : Prop :=
  ∀ identity, resolution.Relies identity → ∀ customer ∈ db.customers,
    customer.tenantId = resolution.request.tenantId → customer.id = identity.customerId →
      customer.status ≠ .anonymized

/-- No anonymized customer has a live conversation or gets one from an open resolve. -/
structure Quiet (s : IdentityState) : Prop where
  silent : s.db.Silent
  free : ∀ transaction resolution, s.Runs transaction resolution → resolution.Free s.db
  held : ∀ transaction resolution identity origin conversation, s.Runs transaction resolution →
    resolution.phase = .inserted identity origin conversation →
      ¬ s.CustomerLocked resolution.request.tenantId identity.customerId

namespace Resolution

variable {resolution : Resolution} {db db' : IdentityDatabase}

/-- A resolve adds no customer but an active one. -/
theorem customers_of_identified {identity : ChannelIdentityRow} {origin : IdentityOrigin}
    (hstems : Stems db resolution.request identity origin) {customer : CustomerRow}
    (hcustomer : customer ∈ (resolution.identified db identity origin).customers)
    (hstatus : customer.status = .anonymized) : customer ∈ db.customers := by
  rcases mem_identified_customers hcustomer with hold | horigin
  · exact hold
  · rw [horigin] at hstems
    obtain ⟨customerId, id, hnew, _⟩ := hstems
    rw [hnew] at hstatus
    cases hstatus

/-- The tables a resolve has committed have the customers of its identity. -/
theorem customers_of_commit (hcommit : resolution.commit? db = some db') :
    ∃ identity origin, resolution.identity? = some (identity, origin) ∧
      db'.customers = (resolution.identified db identity origin).customers := by
  obtain ⟨identity, origin, conversation, ⟨hphase, rfl⟩ | ⟨hphase, rfl⟩⟩ := commit?_eq_some hcommit
  · exact ⟨identity, origin, by rw [identity?, hphase], rfl⟩
  · exact ⟨identity, origin, by rw [identity?, hphase], rfl⟩

/-- A resolve that has read no identity is free. -/
theorem free_of_not_has (hnot : ∀ identity, ¬ resolution.Has identity) : resolution.Free db := by
  intro identity hrelies
  apply absurd _ (hnot identity)
  rw [Has, identity?]
  rcases hrelies with (hphase | hphase) | ⟨_, hphase⟩
  · rw [hphase]
  · rw [hphase]
  · rw [hphase]

/-- What is free stays free when a resolve commits. -/
theorem Free.of_commit {other : Resolution} (h : other.Free db)
    (hgrounded : resolution.Grounded db) (hcommit : resolution.commit? db = some db') :
    other.Free db' := by
  intro identity hrelies customer hcustomer htenant hid hstatus
  obtain ⟨mine, origin, hidentity, hcustomers⟩ := customers_of_commit hcommit
  rw [hcustomers] at hcustomer
  have hold := customers_of_identified (hgrounded.stems mine origin hidentity) hcustomer hstatus
  exact h identity hrelies customer hold htenant hid hstatus

/-- A resolve whose customer is not anonymized gives no anonymized customer a conversation. -/
theorem silent_of_commit (hsilent : db.Silent) (hgrounded : resolution.Grounded db)
    (hfree : resolution.Free db) (hcommit : resolution.commit? db = some db')
    (hconstraints : db'.Constraints) : db'.Silent := by
  intro customer hcustomer hstatus row hrow htenant hid
  obtain ⟨mine, origin, hidentity, hcustomers⟩ := customers_of_commit hcommit
  have hstems := hgrounded.stems mine origin hidentity
  have hmem := hcustomer
  rw [hcustomers] at hmem
  have hold := customers_of_identified hstems hmem hstatus
  obtain ⟨identity, origin', conversation, ⟨hphase, hdb⟩ | ⟨hphase, hdb⟩⟩ :=
    commit?_eq_some hcommit
  · rw [hdb] at hrow
    obtain ⟨before, hbefore, rfl⟩ := List.mem_map.mp hrow
    rw [identified_conversations] at hbefore
    by_cases htouched : before.id = conversation.id
    · rw [if_pos htouched] at htenant hid ⊢
      exact hsilent customer hold hstatus before hbefore htenant hid
    · rw [if_neg htouched] at htenant hid ⊢
      exact hsilent customer hold hstatus before hbefore htenant hid
  · rw [hdb] at hrow
    rcases Table.mem_append_row.mp hrow with hbefore | hnew
    · rw [identified_conversations] at hbefore
      exact hsilent customer hold hstatus row hbefore htenant hid
    · rw [identity?, hphase] at hidentity
      cases hidentity
      obtain ⟨id, created, hdraft⟩ := hgrounded.drafted mine origin conversation hphase
      rw [hnew, hdraft] at htenant hid
      cases origin with
      | found =>
          exact absurd hstatus
            (hfree mine (.inr ⟨conversation, hphase⟩) customer hold htenant.symm hid.symm)
      | created new =>
          -- The customer is the new one.
          obtain ⟨customerId, identityId, hactive, hmine⟩ := hstems
          have hadded : new ∈ db'.customers := by
            rw [hcustomers]
            exact List.mem_append_right _ (List.mem_singleton_self _)
          have hsame : customer = new := by
            apply Table.eq_of_key_eq hconstraints.customers hcustomer hadded
            rw [hactive, ← hid, hmine]
            rfl
          rw [hsame, hactive] at hstatus
          cases hstatus

end Resolution

/-- Anonymizing a customer closes its conversations. -/
theorem IdentityDatabase.silent_anonymized {db : IdentityDatabase} (hsilent : db.Silent)
    (tenantId : TenantId) (customerId : CustomerId) :
    (db.anonymized tenantId customerId).Silent := by
  intro customer hcustomer hstatus row hrow htenant hid
  obtain ⟨old, hold, rfl⟩ := List.mem_map.mp hrow
  by_cases hmine : old.tenantId = tenantId ∧ old.customerId = customerId
  · rw [if_pos hmine]
  · rw [if_neg hmine] at htenant hid ⊢
    obtain ⟨before, hbefore, rfl⟩ := List.mem_map.mp hcustomer
    by_cases hchanged : before.tenantId = tenantId ∧ before.id = customerId
    · rw [if_pos hchanged] at htenant hid
      exact absurd ⟨htenant.trans hchanged.1, hid.trans hchanged.2⟩ hmine
    · rw [if_neg hchanged] at hstatus htenant hid
      exact hsilent before hbefore hstatus old hold htenant hid

/-- A transaction that does not anonymize locks no customer. -/
theorem IdentityState.CustomerLocked.of_put {s : IdentityState} {transaction : ℕ}
    {next : Option IdentityTransaction} {tenantId : TenantId} {customerId : CustomerId}
    (h : (s.put transaction next).CustomerLocked tenantId customerId)
    (hnext : next ≠ some (.anonymize tenantId customerId)) :
    s.CustomerLocked tenantId customerId := by
  obtain ⟨other, hother⟩ := h
  rcases IdentityState.transactions_put hother with ⟨_, hnew⟩ | ⟨_, hold⟩
  · exact absurd hnew hnext
  · exact ⟨other, hold⟩

namespace Quiet

variable {s : IdentityState}

/-- A transaction goes on. -/
theorem put (h : Quiet s) {transaction : ℕ} {next : Option IdentityTransaction}
    (hlocked : ∀ tenantId customerId, next = some (.anonymize tenantId customerId) →
      ¬ s.CustomerReferred tenantId customerId)
    (hfree : ∀ resolution, next = some (.resolve resolution) → resolution.Free s.db)
    (hheld : ∀ resolution identity origin conversation, next = some (.resolve resolution) →
      resolution.phase = .inserted identity origin conversation →
        ¬ s.CustomerLocked resolution.request.tenantId identity.customerId) :
    Quiet (s.put transaction next) where
  silent := h.silent
  free other resolution hruns := by
    rcases IdentityState.transactions_put hruns with ⟨_, hnew⟩ | ⟨_, hold⟩
    · exact hfree resolution hnew
    · exact h.free other resolution hold
  held other resolution identity origin conversation hruns hphase hlock := by
    by_cases hnext : next = some (.anonymize resolution.request.tenantId identity.customerId)
    · rcases IdentityState.transactions_put hruns with ⟨_, hnew⟩ | ⟨_, hold⟩
      · rw [hnext] at hnew
        cases hnew
      · apply hlocked _ _ hnext
        exact ⟨other, resolution, identity, origin, conversation, hold, hphase, rfl, rfl⟩
    · have hbefore := hlock.of_put hnext
      rcases IdentityState.transactions_put hruns with ⟨_, hnew⟩ | ⟨_, hold⟩
      · exact hheld resolution identity origin conversation hnew hphase hbefore
      · exact h.held other resolution identity origin conversation hold hphase hbefore

/-- A resolve goes on without inserting a conversation. -/
theorem proceed (h : Quiet s) {transaction : ℕ} {new : Resolution} (hfree : new.Free s.db)
    (hphase : ∀ identity origin conversation, new.phase ≠ .inserted identity origin conversation) :
    Quiet (s.put transaction (some (.resolve new))) := by
  apply h.put
  case hlocked =>
    intro tenantId customerId hnext
    cases hnext
  case hfree =>
    intro resolution hnext
    cases hnext
    exact hfree
  case hheld =>
    intro resolution identity origin conversation hnext hinserted
    cases hnext
    exact absurd hinserted (hphase identity origin conversation)

theorem drop (h : Quiet s) (transaction : ℕ) : Quiet (s.put transaction none) := by
  apply h.put
  case hlocked => exact fun _ _ => nofun
  case hfree => exact fun _ => nofun
  case hheld => exact fun _ _ _ _ => nofun

/-- What is committed. -/
theorem write (h : Quiet s) {db' : IdentityDatabase} (hsilent : db'.Silent)
    (hfree : ∀ transaction resolution, s.Runs transaction resolution → resolution.Free db') :
    Quiet { s with db := db' } where
  silent := hsilent
  free := hfree
  held := h.held

/-- A resolve that has read its identity: no anonymized customer has the identity of a user. -/
theorem identify (h : Quiet s) (hsound : s.db.Sound) {transaction : ℕ} {request : ResolveRequest}
    {identity : ChannelIdentityRow}
    (hfound : s.db.identity? request.tenantId request.externalUserId = some identity) :
    Quiet (s.put transaction (some (.resolve ⟨request, .identified identity .found⟩))) := by
  rw [IdentityDatabase.identity?] at hfound
  have hrow : identity ∈ s.db.channelIdentities := List.mem_of_find?_eq_some hfound
  have hmatch := List.find?_some hfound
  obtain ⟨htenant, huser⟩ := of_decide_eq_true hmatch
  apply h.proceed
  case hfree =>
    rintro mine ((hphase | hphase) | ⟨_, hphase⟩) customer hcustomer hcustomerTenant hid hstatus
    · cases hphase
      have hgone := hsound.rewritten customer hcustomer hstatus identity hrow
        (htenant.trans hcustomerTenant.symm) hid.symm
      exact externalUserId_ne_anonymizedUser request identity.id (huser.symm.trans hgone)
    · cases hphase
    · cases hphase
  case hphase => exact fun _ _ _ habsurd => by cases habsurd

/-- A conversation has been looked for. -/
theorem select (h : Quiet s) {transaction : ℕ} {request : ResolveRequest}
    {identity : ChannelIdentityRow} {origin : IdentityOrigin}
    (hcurrent : s.Runs transaction ⟨request, .identified identity origin⟩)
    (conversation : Option TelegramConversationRow) :
    Quiet (s.put transaction
      (some (.resolve ⟨request, .selected identity origin conversation⟩))) := by
  apply h.proceed
  case hfree =>
    rintro mine ((hphase | hphase) | ⟨_, hphase⟩)
    · cases hphase
    · cases hphase
      exact h.free transaction _ hcurrent identity (.inl (.inl rfl))
    · cases hphase
  case hphase => exact fun _ _ _ => nofun

/-- A conversation is inserted for a customer no anonymization has locked. -/
theorem insert (h : Quiet s) {transaction : ℕ} {request : ResolveRequest}
    {identity : ChannelIdentityRow} {origin : IdentityOrigin}
    (hcurrent : s.Runs transaction ⟨request, .selected identity origin none⟩)
    (hunlocked : ¬ s.CustomerLocked request.tenantId identity.customerId)
    (conversation : TelegramConversationRow) :
    Quiet (s.put transaction
      (some (.resolve ⟨request, .inserted identity origin conversation⟩))) := by
  apply h.put
  case hlocked => exact fun _ _ => nofun
  case hfree =>
    intro resolution hnext
    cases hnext
    rintro mine ((hphase | hphase) | ⟨_, hphase⟩)
    · cases hphase
    · cases hphase
    · cases hphase
      exact h.free transaction _ hcurrent identity (.inl (.inr rfl))
  case hheld =>
    intro resolution identity' origin' conversation' hnext hphase
    cases hnext
    cases hphase
    exact hunlocked

/-- A resolve commits. -/
theorem settle (h : Quiet s) {transaction : ℕ} {resolution : Resolution}
    (hcurrent : s.Runs transaction resolution) (hgrounded : resolution.Grounded s.db)
    {db' : IdentityDatabase} (hcommit : resolution.commit? s.db = some db')
    (hconstraints : db'.Constraints) : Quiet { s.put transaction none with db := db' } := by
  have hleft := h.drop transaction
  apply hleft.write
  case hsilent =>
    exact Resolution.silent_of_commit h.silent hgrounded (h.free transaction resolution hcurrent)
      hcommit hconstraints
  case hfree =>
    intro other held hruns
    exact (hleft.free other held hruns).of_commit hgrounded hcommit

/-- An anonymization commits that disturbs no resolve. -/
theorem anonymize (h : Quiet s) {transaction : ℕ} {tenantId : TenantId} {customerId : CustomerId}
    (hcurrent : s.transactions transaction = some (.anonymize tenantId customerId))
    (hundisturbed : Undisturbed s (.commit transaction)) :
    Quiet { s.put transaction none with db := s.db.anonymized tenantId customerId } := by
  have hleft := h.drop transaction
  apply hleft.write
  case hsilent => exact IdentityDatabase.silent_anonymized h.silent tenantId customerId
  case hfree =>
    intro other held hruns identity hrelies customer hcustomer htenant hid hstatus
    have hopen : s.Runs other held := by
      rcases IdentityState.transactions_put hruns with ⟨_, hnew⟩ | ⟨_, hold⟩
      · cases hnew
      · exact hold
    obtain ⟨before, hbefore, rfl⟩ := List.mem_map.mp hcustomer
    by_cases hchanged : before.tenantId = tenantId ∧ before.id = customerId
    · rw [if_pos hchanged] at htenant hid
      have hmine : held.request.tenantId = tenantId ∧ identity.customerId = customerId :=
        ⟨htenant.symm.trans hchanged.1, hid.symm.trans hchanged.2⟩
      rcases hrelies with hunsettled | ⟨conversation, hphase⟩
      · exact hundisturbed tenantId customerId hcurrent other held identity hopen hunsettled hmine
      · apply h.held other held identity .found conversation hopen hphase
        rw [hmine.1, hmine.2]
        exact ⟨transaction, hcurrent⟩
    · rw [if_neg hchanged] at htenant hid hstatus
      exact h.free other held hopen identity hrelies before hbefore htenant hid hstatus

/-- Every step but an anonymization that disturbs a resolve keeps the customers quiet. -/
theorem next (h : Quiet s) (hresolving : Resolving s) {step : IdentityStep}
    (hundisturbed : Undisturbed s step) (hallows : s.Allows step) : Quiet (s.next step) := by
  cases step with
  | lock transaction request =>
      apply h.proceed
      case hfree =>
        apply Resolution.free_of_not_has
        intro identity hhas
        cases hhas
      case hphase => exact fun _ _ _ habsurd => by cases habsurd
  | checkTenant transaction =>
      obtain ⟨request, hcurrent, _⟩ := hallows
      simp only [IdentityState.next, hcurrent]
      apply h.proceed
      case hfree =>
        apply Resolution.free_of_not_has
        intro identity hhas
        cases hhas
      case hphase => exact fun _ _ _ habsurd => by cases habsurd
  | identify transaction customerId identityId =>
      obtain ⟨request, hcurrent⟩ := hallows
      simp only [IdentityState.next, hcurrent]
      cases hfound : s.db.identity? request.tenantId request.externalUserId with
      | none =>
          apply h.proceed
          case hfree =>
            apply Resolution.free_of_not_has
            intro identity hhas
            cases hhas
          case hphase => exact fun _ _ _ habsurd => by cases habsurd
      | some identity => exact h.identify hresolving.sound hfound
  | select transaction conversation =>
      obtain ⟨request, identity, origin, hcurrent, _⟩ := hallows
      simp only [IdentityState.next, hcurrent]
      exact h.select hcurrent conversation
  | insert transaction id created =>
      obtain ⟨request, identity, origin, hcurrent, hunlocked⟩ := hallows
      simp only [IdentityState.next, hcurrent]
      exact h.insert hcurrent hunlocked _
  | anonymize transaction tenantId customerId =>
      apply h.put
      case hlocked =>
        intro tenantId' customerId' hnext
        cases hnext
        exact hallows.2.2.2
      case hfree => exact fun _ habsurd => by cases habsurd
      case hheld => exact fun _ _ _ _ habsurd => by cases habsurd
  | commit transaction =>
      obtain ⟨current, db', hcurrent, hcommit, hconstraints⟩ := hallows
      simp only [IdentityState.next, hcurrent, Option.bind_some, hcommit, Option.getD_some]
      cases current with
      | resolve resolution =>
          exact h.settle hcurrent (hresolving.grounded transaction resolution hcurrent) hcommit
            hconstraints
      | anonymize tenantId customerId =>
          cases hcommit
          exact h.anonymize hcurrent hundisturbed
  | abort transaction => exact h.drop transaction

end Quiet

/-- Where no anonymization disturbs a resolve, nothing disturbs the quiet. -/
theorem quiet_of_reachable {s : IdentityState} {results : ResolveResults}
    (hs : (recordedIdentities.restrict fun s => Undisturbed s.1).Reachable (s, results)) :
    Quiet s := by
  apply System.Reachable.invariant
    (S := recordedIdentities.restrict fun s => Undisturbed s.1) (I := fun p => Quiet p.1) _ _ hs
  · rintro ⟨s, results⟩ ⟨hinit, _⟩
    have hidle : ∀ transaction resolution, ¬ s.Runs transaction resolution := by
      intro transaction resolution hruns
      rw [IdentityState.Runs, hinit.2.2 transaction] at hruns
      cases hruns
    constructor
    case silent => exact hinit.2.1
    case free => exact fun transaction resolution hruns => absurd hruns (hidle transaction resolution)
    case held =>
      exact fun transaction resolution _ _ _ hruns => absurd hruns (hidle transaction resolution)
  · rintro ⟨s, results⟩ step ⟨s', results'⟩ hreachable hquiet ⟨hundisturbed, ⟨hallows, hnext⟩, _⟩
    cases hnext
    exact hquiet.next (resolving_of_reachable hreachable.of_restrict).1 hundisturbed hallows

/-- Where no anonymization disturbs a resolve, no anonymized customer has a live conversation
either. -/
theorem one_live_conversation {s : IdentityState} {results : ResolveResults}
    (hs : (recordedIdentities.restrict fun s => Undisturbed s.1).Reachable (s, results)) :
    (s.db.channelIdentities.map fun row => (row.tenantId, row.externalUserId)).Nodup ∧
      (∀ tenantId identityId, (s.db.live tenantId identityId).length ≤ 1) ∧
      (∀ entry ∈ results, Resolved s.db entry.1 entry.2) ∧
      ∀ customer ∈ s.db.customers, customer.status = .anonymized →
        ∀ row ∈ s.db.conversations, row.tenantId = customer.tenantId →
          row.customerId = customer.id → row.status = .closed := by
  obtain ⟨husers, hsingle, hresults⟩ := identities_in_every_run hs.of_restrict
  exact ⟨husers, hsingle, hresults, (quiet_of_reachable hs).silent⟩

/-! ## A customer that returns -/

/-- The transaction that takes a step. -/
def IdentityStep.transaction : IdentityStep → ℕ
  | .lock transaction _ | .checkTenant transaction | .identify transaction _ _
  | .select transaction _ | .insert transaction _ _ | .anonymize transaction _ _
  | .commit transaction | .abort transaction => transaction

namespace Returning

def request : ResolveRequest where
  tenantId := 1#128
  userId := 42
  chatId := 42
  now := 0
  userPositive := by decide
  chatNonzero := by decide

def customer : CustomerRow := newCustomer request 1#128

def identity : ChannelIdentityRow := newIdentity request 1#128 1#128

def conversation : TelegramConversationRow := newConversation request identity 1#128 0

/-- A customer has written before. -/
def known : IdentityDatabase where
  tenants := [{ id := 1#128, timezone := ⟨"UTC", 0, []⟩, status := .active }]
  customers := [customer]
  channelIdentities := [identity]
  conversations := [conversation]

/-- What the steps lead to. -/
def after (steps : List IdentityStep) : IdentityState × ResolveResults :=
  steps.foldl (fun s step => (s.1.next step, s.1.results step ++ s.2))
    (⟨known, fun _ => none⟩, [])

/-- The customer writes again, and its identity is read. -/
def writes : List IdentityStep := [.lock 0 request, .checkTenant 0, .identify 0 2#128 2#128]

/-- Its conversation is found. Then it is anonymized, and writes once more: the identity is no
longer its own, and a new customer gets a conversation. -/
def isRenewed : List IdentityStep :=
  writes ++ [.select 0 (some conversation), .commit 0, .anonymize 0 1#128 1#128, .commit 0] ++
    writes ++ [.select 0 none, .insert 0 3#128 1, .commit 0]

/-- It is anonymized before its conversation is looked for. -/
def isForgotten : List IdentityStep :=
  writes ++
    [.anonymize 1 1#128 1#128, .commit 1, .select 0 none, .insert 0 2#128 1, .commit 0]

theorem init_known : identities.init ⟨known, fun _ => none⟩ := by
  have hsound : known.Sound := by
    constructor
    case constraints => decide +kernel
    case owned =>
      intro row hrow id hid
      cases List.mem_singleton.mp hrow
      cases hid
      exact ⟨identity, List.mem_singleton_self _, rfl, rfl, rfl⟩
    case single => exact fun tenantId identityId => List.length_filter_le _ _
    case rewritten => decide +kernel
  have hsilent : known.Silent := by
    intro row hrow hstatus
    cases List.mem_singleton.mp hrow
    cases hstatus
  exact ⟨hsound, hsilent, fun _ => rfl⟩

/-- Steps that can be taken and meet a condition lead to a reachable state. -/
theorem reachable (condition : IdentityState → IdentityStep → Prop) (steps : List IdentityStep)
    (hfollows : System.Follows (fun s step => condition s.1 step ∧ s.1.Allows step)
      (fun s step => (s.1.next step, s.1.results step ++ s.2)) (⟨known, fun _ => none⟩, [])
      steps) :
    (recordedIdentities.restrict fun s => condition s.1).Reachable (after steps) := by
  have hstart : (recordedIdentities.restrict fun s => condition s.1).Reachable
      (⟨known, fun _ => none⟩, []) :=
    .init ⟨init_known, rfl⟩
  have hstep : ∀ (s : IdentityState × ResolveResults) step,
      condition s.1 step ∧ s.1.Allows step →
        (recordedIdentities.restrict fun s => condition s.1).step s step
          (s.1.next step, s.1.results step ++ s.2) :=
    fun s step hallowed => ⟨hallowed.1, ⟨hallowed.2, rfl⟩, rfl⟩
  exact System.Reachable.of_follows hstep hstart hfollows

/-- No transaction but a resolve is open, and it has inserted nothing. -/
def Harmless (s : IdentityState) : Prop :=
  ∀ transaction current, s.transactions transaction = some current →
    ∃ resolution, current = .resolve resolution ∧
      ∀ identity origin conversation, resolution.phase ≠ .inserted identity origin conversation

theorem harmless_start : Harmless ⟨known, fun _ => none⟩ := fun _ _ => nofun

theorem Harmless.put {s : IdentityState} (h : Harmless s) (transaction : ℕ)
    (resolution : Resolution) (hphase : ∀ identity origin conversation,
      resolution.phase ≠ .inserted identity origin conversation) :
    Harmless (s.put transaction (some (.resolve resolution))) := by
  intro other current hother
  rcases IdentityState.transactions_put hother with ⟨_, hnew⟩ | ⟨_, hold⟩
  · cases hnew
    exact ⟨resolution, rfl, hphase⟩
  · exact h other current hold

/-- A transaction that has opened and closed leaves the others as they were. -/
theorem Harmless.passed {s : IdentityState} (h : Harmless s) (transaction : ℕ)
    (between : Option IdentityTransaction) (db : IdentityDatabase) :
    Harmless { (s.put transaction between).put transaction none with db := db } := by
  intro other current hother
  rcases IdentityState.transactions_put hother with ⟨_, hnew⟩ | ⟨hne, hold⟩
  · cases hnew
  · rcases IdentityState.transactions_put hold with ⟨hsame, _⟩ | ⟨_, hbefore⟩
    · exact absurd hsame hne
    · exact h other current hbefore

theorem Harmless.not_locked {s : IdentityState} (h : Harmless s) (tenantId : TenantId)
    (customerId : CustomerId) : ¬ s.CustomerLocked tenantId customerId := by
  intro ⟨transaction, hlocked⟩
  obtain ⟨resolution, hresolve, _⟩ := h transaction _ hlocked
  cases hresolve

theorem Harmless.not_referred {s : IdentityState} (h : Harmless s) (tenantId : TenantId)
    (customerId : CustomerId) : ¬ s.CustomerReferred tenantId customerId := by
  intro ⟨transaction, resolution, identity, origin, conversation, hruns, hphase, _⟩
  obtain ⟨other, hresolve, hnone⟩ := h transaction _ hruns
  cases hresolve
  exact hnone identity origin conversation hphase

/-- The state when the identity has been read. -/
def reading : IdentityState :=
  (((⟨known, fun _ => none⟩ : IdentityState).put 0 (some (.resolve ⟨request, .locked⟩))).put 0
    (some (.resolve ⟨request, .admitted⟩))).put 0
      (some (.resolve ⟨request, .identified identity .found⟩))

theorem harmless_reading : Harmless reading := by
  have hlocked := harmless_start.put 0 ⟨request, .locked⟩ fun _ _ _ => nofun
  have hadmitted := hlocked.put 0 ⟨request, .admitted⟩ fun _ _ _ => nofun
  exact hadmitted.put 0 ⟨request, .identified identity .found⟩ fun _ _ _ => nofun

/-- No transaction is open but the first. -/
def Lone (s : IdentityState) : Prop := ∀ transaction ≠ 0, s.transactions transaction = none

theorem lone_start : Lone ⟨known, fun _ => none⟩ := fun _ _ => rfl

theorem Lone.put {s : IdentityState} (h : Lone s) (next : Option IdentityTransaction) :
    Lone (s.put 0 next) := by
  intro transaction hne
  exact (Function.update_of_ne hne _ _).trans (h transaction hne)

theorem Lone.eq_zero {s : IdentityState} (h : Lone s) {transaction : ℕ}
    {current : IdentityTransaction} (hopen : s.transactions transaction = some current) :
    transaction = 0 := by
  by_contra hne
  rw [h transaction hne] at hopen
  cases hopen

/-- Between two transactions none is open. -/
theorem Lone.idle {s : IdentityState} (h : Lone s) (hzero : s.transactions 0 = none)
    (transaction : ℕ) (current : IdentityTransaction) :
    s.transactions transaction ≠ some current := by
  intro hopen
  rw [h.eq_zero hopen, hzero] at hopen
  cases hopen

theorem Lone.not_locked {s : IdentityState} (h : Lone s) {resolution : Resolution}
    (hruns : s.Runs 0 resolution) (tenantId : TenantId) (customerId : CustomerId) :
    ¬ s.CustomerLocked tenantId customerId := by
  intro ⟨transaction, hlocked⟩
  rw [h.eq_zero hlocked, hruns] at hlocked
  cases hlocked

/-- A lone transaction disturbs none. -/
theorem Lone.undisturbed {s : IdentityState} (h : Lone s) (step : IdentityStep) :
    Undisturbed s step := by
  cases step with
  | commit transaction =>
      intro tenantId customerId hanonymize other resolution identity hruns
      have hsame := h.eq_zero hruns
      rw [h.eq_zero hanonymize] at hanonymize
      rw [hsame, IdentityState.Runs, hanonymize] at hruns
      cases hruns
  | _ => trivial

/-- The first transaction takes a step. -/
theorem Lone.next {s : IdentityState} (h : Lone s) {step : IdentityStep}
    (hfirst : step.transaction = 0) : Lone (s.next step) := by
  cases step with
  | lock transaction request =>
      cases hfirst
      exact h.put _
  | checkTenant transaction =>
      cases hfirst
      rw [IdentityState.next]
      split
      · exact h.put _
      · exact h
  | identify transaction customerId identityId =>
      cases hfirst
      rw [IdentityState.next]
      split
      · split
        · exact h.put _
        · exact h.put _
      · exact h
  | select transaction conversation =>
      cases hfirst
      rw [IdentityState.next]
      split
      · exact h.put _
      · exact h
  | insert transaction id created =>
      cases hfirst
      rw [IdentityState.next]
      split
      · exact h.put _
      · exact h
  | anonymize transaction tenantId customerId =>
      cases hfirst
      exact h.put _
  | commit transaction =>
      cases hfirst
      exact h.put none
  | abort transaction =>
      cases hfirst
      exact h.put none

theorem Lone.follows {s : IdentityState × ResolveResults} (h : Lone s.1) {step : IdentityStep}
    {rest : List IdentityStep} (hfirst : step.transaction = 0) (hallows : s.1.Allows step)
    (hrest : Lone (s.1.next step) →
      System.Follows (fun s step => Undisturbed s.1 step ∧ s.1.Allows step)
        (fun s step => (s.1.next step, s.1.results step ++ s.2))
        (s.1.next step, s.1.results step ++ s.2) rest) :
    System.Follows (fun s step => Undisturbed s.1 step ∧ s.1.Allows step)
      (fun s step => (s.1.next step, s.1.results step ++ s.2)) s (step :: rest) :=
  ⟨⟨h.undisturbed step, hallows⟩, hrest (h.next hfirst)⟩

theorem reachable_isRenewed : (recordedIdentities.restrict fun s => Undisturbed s.1).Reachable
    (after isRenewed) := by
  apply reachable
  have hadmitted : ∃ tenant ∈ known.tenants, tenant.id = request.tenantId ∧
      tenant.status = .active := by
    decide +kernel
  refine Lone.follows lone_start rfl ⟨rfl, fun _ _ => nofun⟩ fun hlocked => ?_
  refine hlocked.follows rfl ⟨request, rfl, hadmitted⟩ fun hadmits => ?_
  refine hadmits.follows rfl ⟨request, rfl⟩ fun hidentified => ?_
  refine hidentified.follows rfl ⟨request, _, _, rfl, by decide +kernel⟩ fun hselected => ?_
  refine hselected.follows rfl ⟨_, _, rfl, rfl, by decide +kernel⟩ fun hidle => ?_
  refine hidle.follows rfl ⟨rfl, ⟨_, List.mem_singleton_self _, rfl, rfl⟩, ?_, ?_⟩
    fun hanonymizes => ?_
  · intro ⟨transaction, hlocks⟩
    exact hidle.idle rfl transaction _ hlocks
  · intro ⟨transaction, _, _, _, _, hruns, _⟩
    exact hidle.idle rfl transaction _ hruns
  -- The customer has been anonymized.
  refine hanonymizes.follows rfl ⟨_, _, rfl, rfl, by decide +kernel⟩ fun hidle => ?_
  refine hidle.follows rfl ⟨rfl, fun other resolution hruns => ?_⟩ fun hlocked => ?_
  · exact absurd hruns (hidle.idle rfl other _)
  refine hlocked.follows rfl ⟨request, rfl, hadmitted⟩ fun hadmits => ?_
  refine hadmits.follows rfl ⟨request, rfl⟩ fun hidentified => ?_
  refine hidentified.follows rfl ⟨request, _, _, rfl, by decide +kernel⟩ fun hselected => ?_
  refine hselected.follows rfl ⟨request, _, _, rfl, hselected.not_locked rfl _ _⟩
    fun hinserted => ?_
  exact hinserted.follows rfl ⟨_, _, rfl, rfl, by decide +kernel⟩ fun _ => trivial

theorem reachable_isForgotten : (recordedIdentities.restrict fun _ _ => True).Reachable
    (after isForgotten) := by
  apply reachable (fun _ _ => True)
  have hadmitted : ∃ tenant ∈ known.tenants, tenant.id = request.tenantId ∧
      tenant.status = .active := by
    decide +kernel
  have hcustomer : ∃ row ∈ known.customers, row.tenantId = 1#128 ∧ row.id = 1#128 :=
    ⟨customer, List.mem_singleton_self _, rfl, rfl⟩
  have hselects : (known.anonymized 1#128 1#128).Selects request.tenantId identity.id none := by
    decide +kernel
  have hunlocked := (harmless_reading.passed 1 (some (.anonymize 1#128 1#128))
    (known.anonymized 1#128 1#128)).put 0 ⟨request, .selected identity .found none⟩
      fun _ _ _ => nofun
  refine ⟨⟨trivial, rfl, fun _ _ => nofun⟩, ⟨trivial, request, rfl, hadmitted⟩,
    ⟨trivial, request, rfl⟩,
    ⟨trivial, rfl, hcustomer, harmless_reading.not_locked _ _, harmless_reading.not_referred _ _⟩,
    ⟨trivial, _, _, rfl, rfl, by decide +kernel⟩,
    ⟨trivial, request, identity, .found, rfl, hselects⟩,
    ⟨trivial, request, identity, .found, rfl, hunlocked.not_locked _ _⟩,
    ⟨trivial, _, _, rfl, rfl, by decide +kernel⟩, trivial⟩

end Returning

/-- The anonymized customer's conversation is closed, and the new one's is live. -/
theorem one_live_conversation_returning :
    (∃ customer ∈ (Returning.after Returning.isRenewed).1.db.customers,
        customer.status = .anonymized ∧
          ∀ row ∈ (Returning.after Returning.isRenewed).1.db.conversations,
            row.tenantId = customer.tenantId → row.customerId = customer.id →
              row.status = .closed) ∧
      (Returning.request, TelegramIdentity.mk 1#128 2#128 3#128) ∈
        (Returning.after Returning.isRenewed).2 ∧
      Resolved (Returning.after Returning.isRenewed).1.db Returning.request ⟨1#128, 2#128, 3#128⟩ := by
  obtain ⟨customer, hcustomer, hstatus⟩ :
      ∃ customer ∈ (Returning.after Returning.isRenewed).1.db.customers,
        customer.status = .anonymized := by
    decide +kernel
  have hentry : (Returning.request, TelegramIdentity.mk 1#128 2#128 3#128) ∈
      (Returning.after Returning.isRenewed).2 := by
    decide +kernel
  obtain ⟨-, -, hresolved, hclosed⟩ := one_live_conversation Returning.reachable_isRenewed
  exact ⟨⟨customer, hcustomer, hstatus, hclosed customer hcustomer hstatus⟩, hentry,
    hresolved _ hentry⟩

/-- The customer is anonymized and has a live conversation. -/
theorem live_conversation_of_anonymized_customer :
    recordedIdentities.Reachable (Returning.after Returning.isForgotten) ∧
      ∃ customer ∈ (Returning.after Returning.isForgotten).1.db.customers,
        customer.status = .anonymized ∧
          ∃ row ∈ (Returning.after Returning.isForgotten).1.db.conversations,
            row.tenantId = customer.tenantId ∧ row.customerId = customer.id ∧
              row.status ≠ .closed :=
  ⟨Returning.reachable_isForgotten.of_restrict, by decide +kernel⟩

end BusinessAssistant.Persistence
