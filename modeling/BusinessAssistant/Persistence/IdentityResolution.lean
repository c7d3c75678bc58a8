/-
# Identities and their live conversations

A user has one identity and an identity one live conversation, whatever the resolves and
anonymizations do: the constraint and the lock see to that. What nothing sees to is that a
customer is not anonymized between a resolve's reading of the identity and its insert of a
conversation. Where that does not happen an anonymized customer has no live conversation.
-/

import BusinessAssistant.Persistence.IdentityStore

namespace BusinessAssistant.Persistence

open BusinessAssistant.Domain BusinessAssistant.Application BusinessAssistant.Foundation

/-! ## What holds of the tables -/

/-- The id an anonymized identity has instead of its user's. -/
def anonymizedUser (id : UUID) : Text := "anonymized:".toList ++ UUID.str id

/-- No number is written like an anonymized user. -/
theorem externalUserId_ne_anonymizedUser (request : ResolveRequest) (id : UUID) :
    request.externalUserId ≠ anonymizedUser id := by
  intro hsame
  have hdigit : 'a' ∈ Nat.toDigits 10 request.userId := by
    have hmem : 'a' ∈ anonymizedUser id := List.mem_append_left _ (by decide)
    rw [← hsame] at hmem
    exact hmem
  have hletter := Nat.isDigit_of_mem_toDigits (by decide) (by decide) hdigit
  exact absurd hletter (by decide)

namespace IdentityDatabase

/-- The tables as the resolves and anonymizations keep them. -/
structure Sound (db : IdentityDatabase) : Prop where
  constraints : db.Constraints
  owned : ∀ row ∈ db.conversations, ∀ id ∈ row.channelIdentityId,
    ∃ identity ∈ db.channelIdentities, identity.id = id ∧ identity.tenantId = row.tenantId ∧
      identity.customerId = row.customerId
  single : ∀ tenantId identityId, (db.live tenantId identityId).length ≤ 1
  rewritten : ∀ customer ∈ db.customers, customer.status = .anonymized →
    ∀ identity ∈ db.channelIdentities, identity.tenantId = customer.tenantId →
      identity.customerId = customer.id → identity.externalUserId = anonymizedUser identity.id

/-- No anonymized customer has a live conversation. -/
def Silent (db : IdentityDatabase) : Prop :=
  ∀ customer ∈ db.customers, customer.status = .anonymized →
    ∀ row ∈ db.conversations, row.tenantId = customer.tenantId → row.customerId = customer.id →
      row.status = .closed

/-- Rows stay what they are to each other; only the user of an identity may be rewritten. -/
structure Grows (db db' : IdentityDatabase) : Prop where
  identities : ∀ row ∈ db.channelIdentities, ∃ row' ∈ db'.channelIdentities, row'.id = row.id ∧
    row'.tenantId = row.tenantId ∧ row'.customerId = row.customerId ∧
      (row'.externalUserId = row.externalUserId ∨ row'.externalUserId = anonymizedUser row.id)
  conversations : ∀ row ∈ db.conversations, ∃ row' ∈ db'.conversations, row'.id = row.id ∧
    row'.tenantId = row.tenantId ∧ row'.customerId = row.customerId ∧
      row'.channelIdentityId = row.channelIdentityId

variable {db db' db'' : IdentityDatabase}

theorem Grows.trans (h : db.Grows db') (h' : db'.Grows db'') : db.Grows db'' where
  identities row hrow := by
    obtain ⟨row', hrow', hid, htenant, hcustomer, huser⟩ := h.identities row hrow
    obtain ⟨row'', hrow'', hid', htenant', hcustomer', huser'⟩ := h'.identities row' hrow'
    refine ⟨row'', hrow'', hid'.trans hid, htenant'.trans htenant, hcustomer'.trans hcustomer, ?_⟩
    rcases huser' with hsame | hgone
    · rw [hsame]
      exact huser
    · rw [hgone, hid]
      exact .inr rfl
  conversations row hrow := by
    obtain ⟨row', hrow', hid, htenant, hcustomer, hidentity⟩ := h.conversations row hrow
    obtain ⟨row'', hrow'', hid', htenant', hcustomer', hidentity'⟩ := h'.conversations row' hrow'
    exact ⟨row'', hrow'', hid'.trans hid, htenant'.trans htenant, hcustomer'.trans hcustomer,
      hidentity'.trans hidentity⟩

/-! ## What a transaction does to the tables -/

theorem live_congr (hsame : db'.conversations = db.conversations) (tenantId : TenantId)
    (identityId : UUID) : db'.live tenantId identityId = db.live tenantId identityId := by
  rw [live, hsame]
  rfl

theorem grows_touched (request : ResolveRequest) (id : ConversationId) :
    db.Grows (db.touched request id) where
  identities row hrow := ⟨row, hrow, rfl, rfl, rfl, .inl rfl⟩
  conversations row hrow := by
    refine ⟨_, List.mem_map_of_mem hrow, ?_⟩
    split
    · exact ⟨rfl, rfl, rfl, rfl⟩
    · exact ⟨rfl, rfl, rfl, rfl⟩

theorem grows_opened (conversation : TelegramConversationRow) :
    db.Grows (db.opened conversation) where
  identities row hrow := ⟨row, hrow, rfl, rfl, rfl, .inl rfl⟩
  conversations row hrow := ⟨row, List.mem_append_left _ hrow, rfl, rfl, rfl, rfl⟩

theorem grows_enrolled (customer : CustomerRow) (identity : ChannelIdentityRow) :
    db.Grows (db.enrolled customer identity) where
  identities row hrow := ⟨row, List.mem_append_left _ hrow, rfl, rfl, rfl, .inl rfl⟩
  conversations row hrow := ⟨row, hrow, rfl, rfl, rfl, rfl⟩

theorem grows_greeted (request : ResolveRequest) (identity : ChannelIdentityRow) :
    db.Grows (db.greeted request identity) := by
  rw [greeted]
  split
  · exact ⟨fun row hrow => ⟨row, hrow, rfl, rfl, rfl, .inl rfl⟩,
      fun row hrow => ⟨row, hrow, rfl, rfl, rfl, rfl⟩⟩
  · constructor
    case identities =>
      intro row hrow
      refine ⟨_, List.mem_map_of_mem hrow, ?_⟩
      split
      · exact ⟨rfl, rfl, rfl, .inl rfl⟩
      · exact ⟨rfl, rfl, rfl, .inl rfl⟩
    case conversations => exact fun row hrow => ⟨row, hrow, rfl, rfl, rfl, rfl⟩

theorem grows_anonymized (tenantId : TenantId) (customerId : CustomerId) :
    db.Grows (db.anonymized tenantId customerId) where
  identities row hrow := by
    refine ⟨_, List.mem_map_of_mem hrow, ?_⟩
    split
    · exact ⟨rfl, rfl, rfl, .inr rfl⟩
    · exact ⟨rfl, rfl, rfl, .inl rfl⟩
  conversations row hrow := by
    refine ⟨_, List.mem_map_of_mem hrow, ?_⟩
    split
    · exact ⟨rfl, rfl, rfl, rfl⟩
    · exact ⟨rfl, rfl, rfl, rfl⟩

theorem greeted_conversations (request : ResolveRequest) (identity : ChannelIdentityRow) :
    (db.greeted request identity).conversations = db.conversations := by
  rw [greeted]
  split
  · rfl
  · rfl

theorem greeted_customers (request : ResolveRequest) (identity : ChannelIdentityRow) :
    (db.greeted request identity).customers = db.customers := by
  rw [greeted]
  split
  · rfl
  · rfl

/-- Greeting writes no user. -/
theorem mem_greeted {request : ResolveRequest} {identity row : ChannelIdentityRow}
    (hrow : row ∈ (db.greeted request identity).channelIdentities) :
    ∃ old ∈ db.channelIdentities, row.id = old.id ∧ row.tenantId = old.tenantId ∧
      row.customerId = old.customerId ∧ row.externalUserId = old.externalUserId := by
  rw [greeted] at hrow
  split at hrow
  · exact ⟨row, hrow, rfl, rfl, rfl, rfl⟩
  · obtain ⟨old, hold, rfl⟩ := List.mem_map.mp hrow
    refine ⟨old, hold, ?_⟩
    split
    · exact ⟨rfl, rfl, rfl, rfl⟩
    · exact ⟨rfl, rfl, rfl, rfl⟩

/-- Touching a conversation leaves it as live as it was. -/
theorem length_live_touched (request : ResolveRequest) (id : ConversationId) (tenantId : TenantId)
    (identityId : UUID) :
    ((db.touched request id).live tenantId identityId).length =
      (db.live tenantId identityId).length := by
  simp only [live, touched, Table.update, List.filter_map, List.length_map]
  congr 1
  apply List.filter_congr
  intro row _
  simp only [Function.comp_apply]
  split
  · rfl
  · rfl

theorem live_opened (conversation : TelegramConversationRow) (tenantId : TenantId)
    (identityId : UUID) :
    (db.opened conversation).live tenantId identityId =
      db.live tenantId identityId ++
        if conversation.tenantId = tenantId ∧ conversation.channelIdentityId = some identityId ∧
            conversation.status ≠ .closed then [conversation]
        else [] := by
  simp only [live, opened, List.filter_append, List.filter_singleton]
  congr 1
  simp

/-- Anonymizing makes no conversation live. -/
theorem length_live_anonymized (tenant : TenantId) (customer : CustomerId) (tenantId : TenantId)
    (identityId : UUID) :
    ((db.anonymized tenant customer).live tenantId identityId).length ≤
      (db.live tenantId identityId).length := by
  simp only [live, anonymized, Table.update, List.filter_map, List.length_map]
  apply List.Sublist.length_le
  apply List.monotone_filter_right
  intro row hrow
  simp only [Function.comp_apply] at hrow
  split at hrow
  · simp at hrow
  · exact hrow

/-- Anonymizing a customer keeps the tables sound. -/
theorem Sound.anonymized (h : db.Sound) {tenantId : TenantId} {customerId : CustomerId}
    (hconstraints : (db.anonymized tenantId customerId).Constraints) :
    (db.anonymized tenantId customerId).Sound where
  constraints := hconstraints
  owned := by
    intro row hrow id hid
    obtain ⟨old, hold, rfl⟩ := List.mem_map.mp hrow
    have hsame : id ∈ old.channelIdentityId := by
      split at hid
      · exact hid
      · exact hid
    obtain ⟨identity, hidentity, hidentityId, htenant, hcustomer⟩ := h.owned old hold id hsame
    obtain ⟨identity', hidentity', hid', htenant', hcustomer', _⟩ :=
      (grows_anonymized tenantId customerId).identities identity hidentity
    refine ⟨identity', hidentity', hid'.trans hidentityId, ?_, ?_⟩
    · rw [htenant', htenant]
      split
      · rfl
      · rfl
    · rw [hcustomer', hcustomer]
      split
      · rfl
      · rfl
  single tenant identity :=
    Nat.le_trans (length_live_anonymized tenantId customerId tenant identity)
      (h.single tenant identity)
  rewritten := by
    intro customer hcustomer hstatus identity hidentity htenant hid
    obtain ⟨old, hold, rfl⟩ := List.mem_map.mp hidentity
    by_cases hmine : old.tenantId = tenantId ∧ old.customerId = customerId
    · rw [if_pos hmine]
      rfl
    · rw [if_neg hmine] at htenant hid ⊢
      obtain ⟨before, hbefore, rfl⟩ := List.mem_map.mp hcustomer
      by_cases hchanged : before.tenantId = tenantId ∧ before.id = customerId
      · rw [if_pos hchanged] at htenant hid
        exact absurd ⟨htenant.trans hchanged.1, hid.trans hchanged.2⟩ hmine
      · rw [if_neg hchanged] at hstatus htenant hid
        exact h.rewritten before hbefore hstatus old hold htenant hid

end IdentityDatabase

/-! ## What an open resolve goes by -/

/-- Where a resolve has its identity from: the tables still have it, be it anonymized since;
or it is the resolve's own. -/
def Stems (db : IdentityDatabase) (request : ResolveRequest) (identity : ChannelIdentityRow) :
    IdentityOrigin → Prop
  | .found => ∃ row ∈ db.channelIdentities, row.id = identity.id ∧
      row.tenantId = request.tenantId ∧ row.customerId = identity.customerId ∧
        (row.externalUserId = request.externalUserId ∨
          row.externalUserId = anonymizedUser row.id)
  | .created customer => ∃ customerId id, customer = newCustomer request customerId ∧
      identity = newIdentity request customerId id

namespace Resolution

/-- The identity a resolve has, and where from. -/
def identity? (resolution : Resolution) : Option (ChannelIdentityRow × IdentityOrigin) :=
  match resolution.phase with
  | .identified identity origin | .selected identity origin _ | .inserted identity origin _ =>
      some (identity, origin)
  | .locked | .admitted => none

/-- A resolve that has read its identity. -/
def Has (resolution : Resolution) (identity : ChannelIdentityRow) : Prop :=
  resolution.identity? = some (identity, .found)

/-- A resolve that has found no conversation for the identity it has read. -/
def Opens (resolution : Resolution) (identity : ChannelIdentityRow) : Prop :=
  resolution.phase = .selected identity .found none ∨
    ∃ conversation, resolution.phase = .inserted identity .found conversation

/-- What an open resolve has read still holds, as far as it matters. -/
structure Grounded (resolution : Resolution) (db : IdentityDatabase) : Prop where
  stems : ∀ identity origin, resolution.identity? = some (identity, origin) →
    Stems db resolution.request identity origin
  clear : ∀ identity, resolution.Opens identity →
    db.live resolution.request.tenantId identity.id = []
  chosen : ∀ identity origin conversation,
    resolution.phase = .selected identity origin (some conversation) →
      ∃ row ∈ db.conversations, row.id = conversation.id ∧
        row.tenantId = resolution.request.tenantId ∧ row.channelIdentityId = some identity.id
  drafted : ∀ identity origin conversation,
    resolution.phase = .inserted identity origin conversation →
      ∃ id created, conversation = newConversation resolution.request identity id created

theorem Opens.has {resolution : Resolution} {identity : ChannelIdentityRow}
    (h : resolution.Opens identity) : resolution.Has identity := by
  rw [Has, identity?]
  rcases h with hphase | ⟨conversation, hphase⟩
  · rw [hphase]
  · rw [hphase]

variable {resolution : Resolution} {db db' : IdentityDatabase}

/-- Growing tables do not take anything away from a resolve. -/
theorem Grounded.grows (h : resolution.Grounded db) (hgrows : db.Grows db')
    (hclear : ∀ identity, resolution.Opens identity →
      db'.live resolution.request.tenantId identity.id = []) : resolution.Grounded db' where
  stems identity origin hidentity := by
    have hstems := h.stems identity origin hidentity
    cases origin with
    | found =>
        obtain ⟨row, hrow, hid, htenant, hcustomer, huser⟩ := hstems
        obtain ⟨row', hrow', hid', htenant', hcustomer', huser'⟩ := hgrows.identities row hrow
        refine ⟨row', hrow', hid'.trans hid, htenant'.trans htenant, hcustomer'.trans hcustomer, ?_⟩
        rcases huser' with hsame | hgone
        · rw [hsame, hid']
          exact huser
        · rw [hgone, hid']
          exact .inr rfl
    | created customer => exact hstems
  clear := hclear
  chosen identity origin conversation hphase := by
    obtain ⟨row, hrow, hid, htenant, hidentity⟩ := h.chosen identity origin conversation hphase
    obtain ⟨row', hrow', hid', htenant', _, hidentity'⟩ := hgrows.conversations row hrow
    exact ⟨row', hrow', hid'.trans hid, htenant'.trans htenant, hidentity'.trans hidentity⟩
  drafted := h.drafted

/-! ## What a resolve leaves -/

theorem grows_identified (db : IdentityDatabase) (identity : ChannelIdentityRow)
    (origin : IdentityOrigin) : db.Grows (resolution.identified db identity origin) := by
  cases origin with
  | found => exact IdentityDatabase.grows_greeted resolution.request identity
  | created customer => exact IdentityDatabase.grows_enrolled customer identity

theorem identified_conversations (db : IdentityDatabase) (identity : ChannelIdentityRow)
    (origin : IdentityOrigin) :
    (resolution.identified db identity origin).conversations = db.conversations := by
  cases origin with
  | found => exact IdentityDatabase.greeted_conversations resolution.request identity
  | created customer => rfl

/-- A resolve adds no identity but its own. -/
theorem mem_identified {identity row : ChannelIdentityRow} {origin : IdentityOrigin}
    (hrow : row ∈ (resolution.identified db identity origin).channelIdentities) :
    (∃ old ∈ db.channelIdentities, row.id = old.id ∧ row.tenantId = old.tenantId ∧
        row.customerId = old.customerId ∧ row.externalUserId = old.externalUserId) ∨
      row = identity ∧ ∃ customer, origin = .created customer := by
  cases origin with
  | found => exact .inl (IdentityDatabase.mem_greeted hrow)
  | created customer =>
      rcases Table.mem_append_row.mp hrow with hold | hnew
      · exact .inl ⟨row, hold, rfl, rfl, rfl, rfl⟩
      · exact .inr ⟨hnew, customer, rfl⟩

/-- A resolve adds no customer but its own. -/
theorem mem_identified_customers {identity : ChannelIdentityRow} {origin : IdentityOrigin}
    {customer : CustomerRow}
    (hcustomer : customer ∈ (resolution.identified db identity origin).customers) :
    customer ∈ db.customers ∨ origin = .created customer := by
  cases origin with
  | found =>
      rw [identified, IdentityDatabase.greeted_customers] at hcustomer
      exact .inl hcustomer
  | created new =>
      rcases Table.mem_append_row.mp hcustomer with hold | hnew
      · exact .inl hold
      · exact .inr (by rw [hnew])

/-- The identity of a resolve is among the identities it leaves. -/
theorem exists_identified {identity : ChannelIdentityRow} {origin : IdentityOrigin}
    (hstems : Stems db resolution.request identity origin) :
    ∃ row ∈ (resolution.identified db identity origin).channelIdentities, row.id = identity.id ∧
      row.tenantId = resolution.request.tenantId ∧ row.customerId = identity.customerId ∧
        (row.externalUserId = resolution.request.externalUserId ∨
          row.externalUserId = anonymizedUser row.id) := by
  have hgrows := @grows_identified resolution db identity origin
  cases origin with
  | found =>
      obtain ⟨row, hrow, hid, htenant, hcustomer, huser⟩ := hstems
      obtain ⟨row', hrow', hid', htenant', hcustomer', huser'⟩ := hgrows.identities row hrow
      refine ⟨row', hrow', hid'.trans hid, htenant'.trans htenant, hcustomer'.trans hcustomer, ?_⟩
      rcases huser' with hsame | hgone
      · rw [hsame, hid']
        exact huser
      · rw [hgone, hid']
        exact .inr rfl
  | created customer =>
      obtain ⟨customerId, id, _, hidentity⟩ := hstems
      refine ⟨identity, List.mem_append_right _ (List.mem_singleton_self _), rfl, ?_⟩
      rw [hidentity]
      exact ⟨rfl, rfl, .inl rfl⟩

/-- The identities a resolve leaves are rewritten where their customers are anonymized. -/
theorem rewritten_identified (h : db.Sound) {identity : ChannelIdentityRow}
    {origin : IdentityOrigin} (hstems : Stems db resolution.request identity origin)
    (hcustomers : ((resolution.identified db identity origin).customers.map (·.id)).Nodup) :
    ∀ customer ∈ (resolution.identified db identity origin).customers,
      customer.status = .anonymized →
        ∀ row ∈ (resolution.identified db identity origin).channelIdentities,
          row.tenantId = customer.tenantId → row.customerId = customer.id →
            row.externalUserId = anonymizedUser row.id := by
  intro customer hcustomer hstatus row hrow htenant hid
  have hcreated : ∀ new, origin = .created new → new.status ≠ .anonymized ∧
      new ∈ (resolution.identified db identity origin).customers ∧ identity.customerId = new.id := by
    intro new horigin
    rw [horigin] at hstems ⊢
    obtain ⟨customerId, id, hnew, hidentity⟩ := hstems
    refine ⟨?_, List.mem_append_right _ (List.mem_singleton_self _), ?_⟩
    · rw [hnew]
      exact nofun
    · rw [hnew, hidentity]
      rfl
  rcases mem_identified_customers hcustomer with hold | hnew
  · rcases mem_identified hrow with ⟨old, holdRow, hrowId, hrowTenant, hrowCustomer, hrowUser⟩ |
      ⟨hown, new, horigin⟩
    · rw [hrowUser, hrowId]
      exact h.rewritten customer hold hstatus old holdRow (hrowTenant.symm.trans htenant)
        (hrowCustomer.symm.trans hid)
    · -- The customer of the new identity is the new one.
      obtain ⟨hactive, hmem, howner⟩ := hcreated new horigin
      have hsame : customer = new :=
        Table.eq_of_key_eq hcustomers hcustomer hmem
          (hid.symm.trans ((congrArg (·.customerId) hown).trans howner))
      rw [hsame] at hstatus
      exact absurd hstatus hactive
  · exact absurd hstatus (hcreated customer hnew).1

end Resolution

/-- A result that belongs together: its customer has the identity of the request's user, if
it is not anonymized since, and its conversation is one of that identity and customer. -/
def Resolved (db : IdentityDatabase) (request : ResolveRequest) (result : TelegramIdentity) : Prop :=
  ∃ identity ∈ db.channelIdentities, identity.tenantId = request.tenantId ∧
    (identity.externalUserId = request.externalUserId ∨
      identity.externalUserId = anonymizedUser identity.id) ∧
    identity.customerId = result.customerId ∧
    ∃ row ∈ db.conversations, row.id = result.conversationId ∧ row.tenantId = request.tenantId ∧
      row.customerId = result.customerId ∧ row.channelIdentityId = some identity.id

theorem Resolved.grows {db db' : IdentityDatabase} {request : ResolveRequest}
    {result : TelegramIdentity} (h : Resolved db request result) (hgrows : db.Grows db') :
    Resolved db' request result := by
  obtain ⟨identity, hidentity, htenant, huser, hcustomer, row, hrow, hid, hrowTenant, hrowCustomer,
    hrowIdentity⟩ := h
  obtain ⟨identity', hidentity', hid', htenant', hcustomer', huser'⟩ :=
    hgrows.identities identity hidentity
  obtain ⟨row', hrow', hrowId', hrowTenant', hrowCustomer', hrowIdentity'⟩ :=
    hgrows.conversations row hrow
  refine ⟨identity', hidentity', htenant'.trans htenant, ?_, hcustomer'.trans hcustomer, row',
    hrow', hrowId'.trans hid, hrowTenant'.trans hrowTenant, hrowCustomer'.trans hrowCustomer, ?_⟩
  · rcases huser' with hsame | hgone
    · rw [hsame, hid']
      exact huser
    · rw [hgone, hid']
      exact .inr rfl
  · rw [hrowIdentity', hrowIdentity, hid']

namespace Resolution

variable {resolution : Resolution} {db db' : IdentityDatabase}

/-- What a resolve leaves when it commits. -/
structure Leaves (resolution : Resolution) (db db' : IdentityDatabase) : Prop where
  grows : db.Grows db'
  sound : db'.Sound
  result : ∃ result, resolution.result? = some result ∧ Resolved db' resolution.request result
  live : ∀ tenantId identityId, db.live tenantId identityId = [] →
    (∀ identity origin, resolution.identity? = some (identity, origin) →
      identity.id ≠ identityId) → db'.live tenantId identityId = []
  fresh : ∀ identity customer, resolution.identity? = some (identity, .created customer) →
    ∀ row ∈ db.channelIdentities, row.id ≠ identity.id

/-- The id of a new identity is new. -/
theorem fresh_identified {identity : ChannelIdentityRow} {origin : IdentityOrigin}
    (hidentity : resolution.identity? = some (identity, origin))
    (hids : ((resolution.identified db identity origin).channelIdentities.map (·.id)).Nodup) :
    ∀ identity customer, resolution.identity? = some (identity, .created customer) →
      ∀ row ∈ db.channelIdentities, row.id ≠ identity.id := by
  intro mine customer hmine row hrow
  rw [hidentity] at hmine
  cases hmine
  simp only [identified, IdentityDatabase.enrolled, List.map_append, List.nodup_append] at hids
  exact hids.2.2 _ (List.mem_map_of_mem hrow) _ (List.mem_singleton_self _)

/-- A resolve that returns to a conversation. -/
theorem leaves_touched (h : db.Sound) (hgrounded : resolution.Grounded db)
    {identity : ChannelIdentityRow} {origin : IdentityOrigin}
    {conversation : TelegramConversationRow}
    (hphase : resolution.phase = .selected identity origin (some conversation))
    (hconstraints : ((resolution.identified db identity origin).touched resolution.request
      conversation.id).Constraints) :
    resolution.Leaves db
      ((resolution.identified db identity origin).touched resolution.request conversation.id) := by
  have hidentity : resolution.identity? = some (identity, origin) := by rw [identity?, hphase]
  have hstems := hgrounded.stems identity origin hidentity
  have hgrows := (@grows_identified resolution db identity origin).trans
    (IdentityDatabase.grows_touched resolution.request conversation.id)
  have hlive : ∀ tenantId identityId, (((resolution.identified db identity origin).touched
      resolution.request conversation.id).live tenantId identityId).length =
        (db.live tenantId identityId).length := by
    intro tenantId identityId
    rw [IdentityDatabase.length_live_touched,
      IdentityDatabase.live_congr (identified_conversations db identity origin)]
  have howned : ∀ row ∈ ((resolution.identified db identity origin).touched resolution.request
      conversation.id).conversations, ∀ id ∈ row.channelIdentityId,
      ∃ other ∈ (resolution.identified db identity origin).channelIdentities, other.id = id ∧
        other.tenantId = row.tenantId ∧ other.customerId = row.customerId := by
    intro row hrow id hid
    obtain ⟨old, hold, rfl⟩ := List.mem_map.mp hrow
    rw [identified_conversations] at hold
    have hsame : id ∈ old.channelIdentityId := by
      split at hid
      · exact hid
      · exact hid
    obtain ⟨other, hother, hotherId, htenant, hcustomer⟩ := h.owned old hold id hsame
    obtain ⟨other', hother', hid', htenant', hcustomer', _⟩ :=
      (@grows_identified resolution db identity origin).identities other hother
    refine ⟨other', hother', hid'.trans hotherId, ?_, ?_⟩
    · rw [htenant', htenant]
      split
      · rfl
      · rfl
    · rw [hcustomer', hcustomer]
      split
      · rfl
      · rfl
  constructor
  case grows => exact hgrows
  case sound =>
    constructor
    case constraints => exact hconstraints
    case owned => exact howned
    case single =>
      intro tenantId identityId
      rw [hlive]
      exact h.single tenantId identityId
    case rewritten => exact rewritten_identified h hstems hconstraints.customers
  case result =>
    refine ⟨_, by rw [result?, hphase], ?_⟩
    obtain ⟨mine, hmine, hid, htenant, hcustomer, huser⟩ := exists_identified hstems
    obtain ⟨row, hrow, hrowId, hrowTenant, hrowIdentity⟩ :=
      hgrounded.chosen identity origin conversation hphase
    obtain ⟨row', hrow', hrowId', hrowTenant', _, hrowIdentity'⟩ := hgrows.conversations row hrow
    have hreferred := hrowIdentity'.trans hrowIdentity
    obtain ⟨other, hother, hotherId, _, hotherCustomer⟩ := howned row' hrow' identity.id hreferred
    have hsame : other = mine :=
      Table.eq_of_key_eq hconstraints.identities hother hmine (hotherId.trans hid.symm)
    refine ⟨mine, hmine, htenant, huser, hcustomer, row', hrow', hrowId'.trans hrowId,
      hrowTenant'.trans hrowTenant, ?_, ?_⟩
    · rw [← hotherCustomer, hsame, hcustomer]
    · rw [hreferred, hid]
  case live =>
    intro tenantId identityId hnone _
    apply List.eq_nil_of_length_eq_zero
    rw [hlive, hnone]
    rfl
  case fresh => exact fresh_identified hidentity hconstraints.identities

/-- A resolve that opens a conversation. -/
theorem leaves_opened (h : db.Sound) (hgrounded : resolution.Grounded db)
    {identity : ChannelIdentityRow} {origin : IdentityOrigin}
    {conversation : TelegramConversationRow}
    (hphase : resolution.phase = .inserted identity origin conversation)
    (hconstraints : ((resolution.identified db identity origin).opened conversation).Constraints) :
    resolution.Leaves db ((resolution.identified db identity origin).opened conversation) := by
  have hidentity : resolution.identity? = some (identity, origin) := by rw [identity?, hphase]
  have hstems := hgrounded.stems identity origin hidentity
  obtain ⟨id, created, hdraft⟩ := hgrounded.drafted identity origin conversation hphase
  obtain ⟨mine, hmine, hmineId, hmineTenant, hmineCustomer, hmineUser⟩ := exists_identified hstems
  have hlive : ∀ tenantId identityId, ((resolution.identified db identity origin).opened
      conversation).live tenantId identityId = db.live tenantId identityId ++
        if conversation.tenantId = tenantId ∧ conversation.channelIdentityId = some identityId ∧
            conversation.status ≠ .closed then [conversation]
        else [] := by
    intro tenantId identityId
    rw [IdentityDatabase.live_opened,
      IdentityDatabase.live_congr (identified_conversations db identity origin)]
  -- The identity had no live conversation: it was looked for, or the identity is new.
  have hclear : db.live resolution.request.tenantId identity.id = [] := by
    cases origin with
    | found => exact hgrounded.clear identity (.inr ⟨conversation, hphase⟩)
    | created customer =>
        apply List.filter_eq_nil_iff.mpr
        intro row hrow hselected
        obtain ⟨_, hreferred, _⟩ := of_decide_eq_true hselected
        obtain ⟨other, hother, hotherId, _⟩ := h.owned row hrow identity.id hreferred
        exact fresh_identified hidentity hconstraints.identities identity customer hidentity other
          hother hotherId
  have hgrows := (@grows_identified resolution db identity origin).trans
    (IdentityDatabase.grows_opened conversation)
  constructor
  case grows => exact hgrows
  case sound =>
    constructor
    case constraints => exact hconstraints
    case owned =>
      intro row hrow other hother
      rcases Table.mem_append_row.mp hrow with hold | rfl
      · rw [identified_conversations] at hold
        obtain ⟨owner, howner, hownerId, htenant, hcustomer⟩ := h.owned row hold other hother
        obtain ⟨owner', howner', hid', htenant', hcustomer', _⟩ := hgrows.identities owner howner
        exact ⟨owner', howner', hid'.trans hownerId, htenant'.trans htenant,
          hcustomer'.trans hcustomer⟩
      · rw [hdraft] at hother ⊢
        cases hother
        exact ⟨mine, hmine, hmineId, hmineTenant, hmineCustomer⟩
    case single =>
      intro tenantId identityId
      rw [hlive]
      split
      · next hmatch =>
          rw [hdraft] at hmatch
          obtain ⟨htenant, hid, _⟩ := hmatch
          cases hid
          rw [← htenant, show (newConversation resolution.request identity id created).tenantId =
            resolution.request.tenantId from rfl, hclear]
          exact Nat.le_refl 1
      · rw [List.append_nil]
        exact h.single tenantId identityId
    case rewritten => exact rewritten_identified h hstems hconstraints.customers
  case result =>
    refine ⟨_, by rw [result?, hphase], mine, hmine, hmineTenant, hmineUser, hmineCustomer,
      conversation, List.mem_append_right _ (List.mem_singleton_self _), rfl, ?_⟩
    rw [hdraft, hmineId]
    exact ⟨rfl, rfl, rfl⟩
  case live =>
    intro tenantId identityId hnone hother
    rw [hlive, hnone, if_neg]
    · rfl
    · rintro ⟨_, hid, _⟩
      rw [hdraft] at hid
      cases hid
      exact hother identity origin hidentity rfl
  case fresh => exact fresh_identified hidentity hconstraints.identities

/-- A resolve is ready to commit once it has a conversation. -/
theorem commit?_eq_some (hcommit : resolution.commit? db = some db') :
    ∃ identity origin conversation,
      resolution.phase = .selected identity origin (some conversation) ∧
          db' = (resolution.identified db identity origin).touched resolution.request
            conversation.id ∨
        resolution.phase = .inserted identity origin conversation ∧
          db' = (resolution.identified db identity origin).opened conversation := by
  cases hphase : resolution.phase with
  | locked => simp [commit?, hphase] at hcommit
  | admitted => simp [commit?, hphase] at hcommit
  | identified identity origin => simp [commit?, hphase] at hcommit
  | selected identity origin conversation =>
      cases conversation with
      | none => simp [commit?, hphase] at hcommit
      | some conversation =>
          simp only [commit?, hphase, Option.some.injEq] at hcommit
          exact ⟨identity, origin, conversation, .inl ⟨rfl, hcommit.symm⟩⟩
  | inserted identity origin conversation =>
      simp only [commit?, hphase, Option.some.injEq] at hcommit
      exact ⟨identity, origin, conversation, .inr ⟨rfl, hcommit.symm⟩⟩

/-- What a resolve leaves when it commits. -/
theorem leaves_of_commit (h : db.Sound) (hgrounded : resolution.Grounded db)
    (hcommit : resolution.commit? db = some db') (hconstraints : db'.Constraints) :
    resolution.Leaves db db' := by
  obtain ⟨identity, origin, conversation, ⟨hphase, rfl⟩ | ⟨hphase, rfl⟩⟩ := commit?_eq_some hcommit
  · exact leaves_touched h hgrounded hphase hconstraints
  · exact leaves_opened h hgrounded hphase hconstraints

end Resolution

end BusinessAssistant.Persistence
