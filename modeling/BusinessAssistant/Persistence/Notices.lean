/-
# Notifications and what they are about

Every event a store commits is about a booking, a lead or a case, and the claims projected
from it are rendered with the identifiers of that row. A lead's event does not carry the
priority, so a lead is always said to be of normal priority; a case is said to be of the
priority it is stored with, if that is one of the four.
-/

import BusinessAssistant.Application.Notices
import BusinessAssistant.Persistence.BackgroundStore
import BusinessAssistant.Persistence.Placement
import BusinessAssistant.Persistence.Runs
import BusinessAssistant.Persistence.SubmittedLeads

namespace BusinessAssistant.Persistence

open BusinessAssistant.Domain BusinessAssistant.Application BusinessAssistant.Foundation

/-! ## From an event to its claims -/

/-- The deliveries of an event, as they are inserted and after claims and outcomes. -/
inductive DeliveredFor (event : OutboxRow) : NotificationDeliveryRow → Prop
  | inserted (subscription : NotificationSubscriptionRow) (id : UUID) (now : Int) :
      DeliveredFor event (newDelivery event subscription id now)
  | claimed {row : NotificationDeliveryRow} (now : Int) (hrow : DeliveredFor event row) :
      DeliveredFor event (row.claimed now)
  | finished {row : NotificationDeliveryRow} (call : FinishingCall)
      (hrow : DeliveredFor event row) : DeliveredFor event (row.finished call)

/-- A claim projected from an event, whatever state the event's row was in. -/
def Projected (event : OutboxEventRow) (claim : DeliveryClaim) : Prop :=
  ∃ row delivery now, row.eventType = event.eventType ∧ row.payload = event.payload ∧
    DeliveredFor row delivery ∧ claim = (delivery.claimed now).toClaim

/-- A delivery carries the type and the payload of its event. -/
theorem DeliveredFor.carries {event : OutboxRow} {row : NotificationDeliveryRow}
    (h : DeliveredFor event row) :
    row.eventType = event.eventType ∧ row.payload = event.payload := by
  induction h with
  | inserted subscription id now => exact ⟨rfl, rfl⟩
  | claimed now _ ih => exact ih
  | finished call _ ih =>
      cases call with
      | markDelivered time => exact ih
      | retryDelivery time errorCode => exact ih
      | deadLetter time errorCode => exact ih

theorem Projected.carries {event : OutboxEventRow} {claim : DeliveryClaim}
    (h : Projected event claim) :
    claim.eventType = event.eventType ∧ claim.payload = event.payload.dict := by
  obtain ⟨row, delivery, now, htype, hpayload, hdelivered, hclaim⟩ := h
  obtain ⟨hsameType, hsamePayload⟩ := hdelivered.carries
  rw [hclaim]
  exact ⟨hsameType.trans htype, congrArg EventPayload.dict (hsamePayload.trans hpayload)⟩

/-! ## Leads and cases -/

section Workflow

variable [PythonText]

/-- A claim tells the truth about the lead or the case of its event. -/
def WorkflowDatabase.Tells (db : WorkflowDatabase) (event : OutboxEventRow)
    (claim : DeliveryClaim) : Prop :=
  (event.aggregateType = "lead" → ∃ lead ∈ db.leads, lead.id = event.aggregateId ∧
    ∃ priority, lead.priority = some priority ∧
      render claim = .ok (leadNotice lead.id.str priority.value.toList)) ∧
  (event.aggregateType ≠ "lead" → ∃ case ∈ db.handoffCases, case.id = event.aggregateId ∧
    render claim = .ok (handoffNotice case.id.str case.priority))

/-- The priority a call gives the case it opens. -/
def casePriority? : WorkflowCall → Option Text
  | .complete _ _ _ _ trigger _ _ => trigger.map (·.priority)
  | .createOrGet _ request _ => some request.priority
  | _ => none

/-- The priority of the lead a call completes. -/
def leadPriority? : WorkflowCall → Option (Option LeadPriority)
  | .complete _ _ lead _ _ _ _ => some lead.priority
  | _ => none

/-- The priority that goes with an event is one its notification states. -/
def PriorityStated (call : WorkflowCall) (event : OutboxEventRow) : Prop :=
  (event.aggregateType = "lead" → ∀ priority ∈ leadPriority? call, priority = some .normal) ∧
    (event.aggregateType ≠ "lead" → ∀ priority ∈ casePriority? call, priority ∈ statedPriorities)

/-- The events of a call, with the rows they are about. -/
inductive Emitted (db : WorkflowDatabase) (call : WorkflowCall) : OutboxEventRow → Prop
  | lead {event : OutboxEventRow} {priority : Option LeadPriority} {score : Int} {grade : Text}
      (haggregate : event.aggregateType = "lead")
      (htype : event.eventType = "lead.qualified")
      (hpayload : event.payload = .lead event.aggregateId score grade)
      (hcall : leadPriority? call = some priority)
      (hstored : ∃ lead ∈ db.leads, lead.id = event.aggregateId)
      (hpriority : ∀ lead ∈ db.leads, lead.id = event.aggregateId → lead.priority = priority) :
      Emitted db call event
  | handoff {event : OutboxEventRow} {priority reasonCode : Text}
      (haggregate : event.aggregateType = "handoff")
      (htype : event.eventType = "handoff.queued")
      (hpayload : event.payload = .handoff event.aggregateId reasonCode priority)
      (hcall : casePriority? call = some priority)
      (hstored : ∃ case ∈ db.handoffCases, case.id = event.aggregateId)
      (hpriority : ∀ case ∈ db.handoffCases, case.id = event.aggregateId →
        case.priority = priority) :
      Emitted db call event

omit [PythonText] in
theorem str_presentable (id : UUID) : UUID.str id ≠ [] ∧ (UUID.str id).length ≤ 100 := by
  have hlength := UUID.str_length id
  constructor
  · intro hempty
    rw [hempty] at hlength
    cases hlength
  · omega

omit [PythonText] in
/-- Only the normal priority is written so. -/
theorem priority_normal_iff {priority : LeadPriority} :
    "normal".toList = priority.value.toList ↔ priority = .normal := by
  cases priority with
  | low => decide
  | normal => decide
  | high => decide
  | urgent => decide

/-- An emitted event is told truly exactly if its priority is stated. -/
theorem Emitted.tells_iff {db : WorkflowDatabase} {call : WorkflowCall} {event : OutboxEventRow}
    (h : Emitted db call event) {claim : DeliveryClaim} (hclaim : Projected event claim) :
    db.Tells event claim ↔ PriorityStated call event := by
  obtain ⟨htypeClaim, hpayloadClaim⟩ := hclaim.carries
  cases h with
  | @lead priority score grade haggregate htype hpayload hcall hstored hpriority =>
      have hid : claim.payload.lookup "lead_id" = some (.text (UUID.str event.aggregateId)) := by
        rw [hpayloadClaim, hpayload]
        rfl
      have hmissing : claim.payload.lookup "priority" = none := by
        rw [hpayloadClaim, hpayload]
        rfl
      obtain ⟨hpresent, hlength⟩ := str_presentable event.aggregateId
      have htext := render_lead (htypeClaim.trans htype) hid hpresent hlength
      rw [choice_of_lookup_eq_none hmissing] at htext
      constructor
      · intro htells
        refine ⟨?_, fun hother => absurd haggregate hother⟩
        intro _ asked hasked
        rw [hcall] at hasked
        cases hasked
        obtain ⟨lead, hlead, hleadId, told, htold, hrendered⟩ := htells.1 haggregate
        rw [htext, hleadId] at hrendered
        have hnormal := priority_normal_iff.mp (leadNotice_inj.mp (Except.ok.inj hrendered))
        rw [← hpriority lead hlead hleadId, htold, hnormal]
      · intro hstated
        refine ⟨?_, fun hother => absurd haggregate hother⟩
        intro _
        obtain ⟨lead, hlead, hleadId⟩ := hstored
        refine ⟨lead, hlead, hleadId, .normal, ?_, ?_⟩
        · rw [hpriority lead hlead hleadId]
          exact hstated.1 haggregate priority hcall
        · rw [htext, hleadId]
          rfl
  | @handoff priority reasonCode haggregate htype hpayload hcall hstored hpriority =>
      have hcase : event.aggregateType ≠ "lead" := by
        rw [haggregate]
        decide
      have hid : claim.payload.lookup "handoff_id" = some (.text (UUID.str event.aggregateId)) := by
        rw [hpayloadClaim, hpayload]
        rfl
      have hchosen : claim.payload.lookup "priority" = some (.text priority) := by
        rw [hpayloadClaim, hpayload]
        rfl
      have hiff : choice claim.payload "priority" statedPriorities = priority ↔
          priority ∈ statedPriorities := choice_eq_iff hchosen (by decide)
      obtain ⟨hpresent, hlength⟩ := str_presentable event.aggregateId
      have htext := render_handoff (htypeClaim.trans htype) hid hpresent hlength
      constructor
      · intro htells
        refine ⟨fun hlead => absurd hlead hcase, ?_⟩
        intro _ asked hasked
        rw [hcall] at hasked
        cases hasked
        obtain ⟨case, hmem, hcaseId, hrendered⟩ := htells.2 hcase
        rw [htext, hcaseId, hpriority case hmem hcaseId] at hrendered
        exact hiff.mp (handoffNotice_inj.mp (Except.ok.inj hrendered))
      · intro hstated
        refine ⟨fun hlead => absurd hlead hcase, ?_⟩
        intro _
        obtain ⟨case, hmem, hcaseId⟩ := hstored
        refine ⟨case, hmem, hcaseId, ?_⟩
        rw [htext, hcaseId, hpriority case hmem hcaseId,
          hiff.mpr (hstated.2 hcase priority hcall)]

variable {env : Environment} {db db' : WorkflowDatabase} {call : WorkflowCall}

omit [PythonText] in
theorem outboxEvents_writeLead (existing : Option LeadRow) (replacement : LeadRow) :
    (db.writeLead existing replacement).outboxEvents = db.outboxEvents := by
  cases existing with
  | none => rfl
  | some lead => rfl

omit [PythonText] in
/-- The lead `complete` has written, with the priority it was given. -/
theorem lead_writeLead {identity : TelegramIdentity} {schemaCode : Text} {replacement : LeadRow}
    {leadId : LeadId}
    (hleadId : leadId = ((db.replaceableLead? identity schemaCode).map (·.id)).getD replacement.id)
    (hfresh : db.replaceableLead? identity schemaCode = none →
      ∀ row ∈ db.leads, row.id ≠ replacement.id) :
    (∃ lead ∈ (db.writeLead (db.replaceableLead? identity schemaCode) replacement).leads,
        lead.id = leadId) ∧
      ∀ lead ∈ (db.writeLead (db.replaceableLead? identity schemaCode) replacement).leads,
        lead.id = leadId → lead.priority = replacement.priority := by
  cases hexisting : db.replaceableLead? identity schemaCode with
  | none =>
      rw [hexisting] at hleadId
      refine ⟨⟨replacement, List.mem_append_right _ (List.mem_singleton_self _), hleadId.symm⟩, ?_⟩
      intro lead hlead hid
      rcases Table.mem_append_row.mp hlead with hold | hnew
      · exact absurd (hid.trans hleadId) (hfresh hexisting lead hold)
      · rw [hnew]
  | some existing =>
      rw [hexisting] at hleadId
      have hmem := WorkflowDatabase.mem_of_replaceableLead? hexisting
      constructor
      · refine ⟨replacement.replaceBy existing, ?_, hleadId.symm⟩
        apply List.mem_map.mpr
        exact ⟨existing, hmem, if_pos rfl⟩
      · intro lead hlead hid
        rcases Table.mem_update.mp hlead with ⟨old, _, _, rfl⟩ | ⟨_, hother⟩
        · rfl
        · exact absurd (hid.trans hleadId) hother

omit [PythonText] in
/-- The case that has been queued is the only one with its id. -/
theorem case_queueCase (db : WorkflowDatabase) (case : HandoffCaseRow) (event : OutboxEventRow)
    (hfresh : ∀ row ∈ db.handoffCases, row.id ≠ case.id) :
    (∃ row ∈ (db.queueCase case event).handoffCases, row.id = case.id) ∧
      ∀ row ∈ (db.queueCase case event).handoffCases, row.id = case.id →
        row.priority = case.priority := by
  refine ⟨⟨case, List.mem_append_right _ (List.mem_singleton_self _), rfl⟩, ?_⟩
  intro row hrow hid
  rcases Table.mem_append_row.mp hrow with hold | hnew
  · exact absurd hid (hfresh row hold)
  · rw [hnew]

/-- A new event of a call is about a lead or a case the call has written. -/
theorem WorkflowChange.emitted (hchange : WorkflowChange env db call db') {event : OutboxEventRow}
    (hnew : event ∈ db'.outboxEvents) (hold : event ∉ db.outboxEvents) :
    Emitted db' call event := by
  cases hchange with
  | expireSession => exact absurd hnew hold
  | start hbase =>
      cases hbase with
      | none => exact absurd hnew hold
      | expired => exact absurd hnew hold
  | @decideConsent identity row schema decision =>
      cases decision with
      | accepted => exact absurd hnew hold
      | declined => exact absurd hnew hold
  | recordAnswer => exact absurd hnew hold
  | edit => exact absurd hnew hold
  | showReview => exact absurd hnew hold
  | @complete identity row schema lead score trigger now updateKey replacement leadId after hrow
      howner hschema hkey hstatus hreplacement hleadId hfresh hconversation hevent hafter =>
      obtain ⟨hstored, hpriority⟩ := lead_writeLead hleadId hfresh
      have hsame : replacement.priority = lead.priority := (leadToRow_ok hreplacement).2.2.2
      have hlead : event = outboxEvent identity.tenantId "lead" leadId "lead.qualified"
          (leadQualifiedKey row.id) (.lead leadId score.score score.grade) now →
          db'.leads = (db.writeLead (db.replaceableLead? identity schema.code) replacement).leads →
            Emitted db' (.complete identity row.id lead score trigger now updateKey) event := by
        intro hmine hleads
        rw [hmine]
        rw [← hleads] at hstored hpriority
        exact .lead rfl rfl rfl rfl hstored fun other hother hid =>
          (hpriority other hother hid).trans hsame
      have hkept : event ∈
          (db.writeLead (db.replaceableLead? identity schema.code) replacement).outboxEvents →
            event ∈ db.outboxEvents := by
        rw [outboxEvents_writeLead]
        exact id
      cases trigger with
      | none =>
          rw [hafter] at hnew hlead ⊢
          rcases Table.mem_append_row.mp hnew with hbefore | hmine
          · exact absurd (hkept hbefore) hold
          · exact hlead hmine rfl
      | some result =>
          obtain ⟨schedule, due, _, hfreshCase, _, hqueued⟩ := hafter
          rw [hqueued] at hnew hlead ⊢
          rcases Table.mem_append_row.mp hnew with hbefore | hmine
          · rcases Table.mem_append_row.mp hbefore with hearlier | hmine
            · exact absurd (hkept hearlier) hold
            · exact hlead hmine rfl
          · rw [hmine]
            obtain ⟨hcase, hcasePriority⟩ := case_queueCase _
              (triggeredCase env identity row.id leadId result schedule due) _ hfreshCase
            exact .handoff rfl rfl rfl rfl hcase hcasePriority
  | cancel => exact absurd hnew hold
  | addSchema => exact absurd hnew hold
  | publishSchema => exact absurd hnew hold
  | @createCase identity request now hnone hconversation hfresh =>
      rcases Table.mem_append_row.mp hnew with hbefore | hmine
      · exact absurd hbefore hold
      · rw [hmine]
        obtain ⟨hcase, hcasePriority⟩ := case_queueCase db
          (HandoffStore.newCase env identity request) _ hfresh
        exact .handoff rfl rfl rfl rfl hcase hcasePriority
  | @transition row moved action =>
      cases action with
      | claim => exact absurd hnew hold
      | resolve => exact absurd hnew hold
      | reopen => exact absurd hnew hold
      | returnToBot => exact absurd hnew hold
  | anonymize => exact absurd hnew hold

/-- Every claim projected from an event a call has committed tells the truth, exactly if the
priority that goes with the event is stated. -/
theorem workflow_notices {cfg : WorkflowCatalogue} (call : WorkflowCall) (env : Environment)
    (s : WorkflowState) {event : OutboxEventRow}
    (hnew : event ∈ (serve cfg call env s).2.db.outboxEvents) (hold : event ∉ s.db.outboxEvents)
    {claim : DeliveryClaim} (hclaim : Projected event claim) :
    (serve cfg call env s).2.db.Tells event claim ↔ PriorityStated call event := by
  rcases changes_of_serve call env s with hsame | hchange
  · rw [hsame] at hnew
    exact absurd hnew hold
  · exact (hchange.emitted hnew hold).tells_iff hclaim

end Workflow

/-! ## Bookings -/

/-- A claim tells the truth about the booking of its event. -/
def Database.Tells (db : Database) (event : OutboxEventRow) (claim : DeliveryClaim) : Prop :=
  ∃ booking ∈ db.bookings, booking.id = event.aggregateId ∧ ∃ reference,
    booking.publicReference = some reference ∧
      render claim = .ok (bookingNotice (bookingAction event.eventType) reference
        (Instant.isoformat booking.startAt))

/-- A booking under the reference of its id, no later than a year after the clock. -/
def BookingRow.Announced (clock : Int) (booking : BookingRow) : Prop :=
  booking.publicReference = some (Persistence.publicReference booking.id) ∧
    booking.startAt ≤ clock + days 365

/-- Holds and bookings begin no later than a year after the clock. -/
structure Database.Foreseen (db : Database) (clock : Int) : Prop where
  holds : ∀ hold ∈ db.slotHolds, hold.startAt ≤ clock + days 365
  bookings : ∀ booking ∈ db.bookings, booking.Announced clock

section Bookings

variable {cfg : Catalogue} {env : Environment} {db db' : Database}

theorem Database.Foreseen.mono {clock later : Int} (h : db.Foreseen clock)
    (hclock : clock ≤ later) : db.Foreseen later where
  holds hold hhold := Int.le_trans (h.holds hold hhold) (Int.add_le_add_right hclock _)
  bookings booking hbooking :=
    ⟨(h.bookings booking hbooking).1,
      Int.le_trans (h.bookings booking hbooking).2 (Int.add_le_add_right hclock _)⟩

/-- What a change does to the holds and bookings it foresees. -/
theorem Change.foreseen {call : Call} (hchange : Change cfg env db call db')
    (h : db.Foreseen env.now) : db'.Foreseen env.now := by
  cases hchange with
  | startDraft => exact ⟨Table.forall_update h.holds fun _ hstart => hstart, h.bookings⟩
  | getActiveDraft => exact ⟨Table.forall_update h.holds fun _ hstart => hstart, h.bookings⟩
  | selectDate => exact ⟨h.holds, h.bookings⟩
  | @createHold draft selectedDate slotIndex key service policyRow policy slots slot hdraft hstatus
      hdate hservice hpolicyRow hpolicy hslots hslot =>
      obtain ⟨row, htaken⟩ := slotTaken_of_mem hservice hpolicy hslots hslot
      constructor
      case holds =>
        have hstart : slot.startAt ≤ env.now + days 365 := by
          have hhorizon := htaken.horizon
          have hdays := policyRow.horizonValid.2
          simp only [days] at hhorizon ⊢
          omega
        exact Table.forall_append_row (Table.forall_update h.holds fun _ hstart => hstart) hstart
      case bookings => exact h.bookings
  | updateContact => exact ⟨h.holds, h.bookings⟩
  | getHold => exact ⟨Table.forall_update h.holds fun _ hstart => hstart, h.bookings⟩
  | cancelDraft => exact ⟨Table.forall_update h.holds fun _ hstart => hstart, h.bookings⟩
  | book hdraft hstatus hreschedule hhold =>
      constructor
      case holds => exact Table.forall_update h.holds fun _ hstart => hstart
      case bookings => exact Table.forall_append_row h.bookings ⟨rfl, h.holds _ hhold⟩
  | move hdraft hstatus hhold =>
      constructor
      case holds => exact Table.forall_update h.holds fun _ hstart => hstart
      case bookings =>
        exact Table.forall_update h.bookings fun _ hannounced =>
          ⟨hannounced.1, h.holds _ hhold⟩
  | cancelBooking => exact ⟨h.holds, Table.forall_update h.bookings fun _ hannounced => hannounced⟩
  | expireHolds => exact ⟨Table.forall_update h.holds fun _ hstart => hstart, h.bookings⟩

theorem foreseen_of_reachable {s : State} (hs : (bookingSystem cfg).Reachable s) :
    s.db.Foreseen s.clock := by
  apply hs.invariant (I := fun s => s.db.Foreseen s.clock)
  · rintro s ⟨_, hholds, hbookings, _⟩
    constructor
    case holds =>
      rw [hholds]
      exact fun _ => nofun
    case bookings =>
      rw [hbookings]
      exact fun _ => nofun
  · rintro s invocation _ _ hforeseen ⟨hclock, rfl⟩
    have hlater := hforeseen.mono hclock
    rcases invocation.execute_change cfg s.db with hsame | hchange
    · rw [hsame]
      exact hlater
    · exact hchange.foreseen hlater

/-- A new event is the event of a booking that has been written. -/
theorem Change.announces {call : Call} (hchange : Change cfg env db call db') {event : OutboxEventRow}
    (hnew : event ∈ db'.outboxEvents) (hold : event ∉ db.outboxEvents) :
    ∃ booking ∈ db'.bookings, event.aggregateId = booking.id ∧
      event.payload = .booking booking.id booking.publicReference booking.serviceId
        booking.startAt ∧
        event.eventType ∈ ["booking.confirmed", "booking.cancelled", "booking.rescheduled"] := by
  cases hchange with
  | startDraft => exact absurd hnew hold
  | getActiveDraft => exact absurd hnew hold
  | selectDate => exact absurd hnew hold
  | createHold => exact absurd hnew hold
  | updateContact => exact absurd hnew hold
  | getHold => exact absurd hnew hold
  | cancelDraft => exact absurd hnew hold
  | @book draft hold' service key =>
      rcases Table.mem_append_row.mp hnew with hbefore | hmine
      · exact absurd hbefore hold
      · rw [hmine]
        exact ⟨newBooking env.newId draft hold' service key,
          List.mem_append_right _ (List.mem_singleton_self _), rfl, rfl,
          List.mem_cons_self⟩
  | @move draft hold' service booking key hdraft hstatus hhold hholdId hholdTenant hunexpired
      hservice hbooking =>
      rcases Table.mem_append_row.mp hnew with hbefore | hmine
      · exact absurd hbefore hold
      · rw [hmine]
        refine ⟨booking.movedTo hold' service, ?_, rfl, rfl,
          List.mem_cons_of_mem _ (List.mem_cons_of_mem _ List.mem_cons_self)⟩
        exact List.mem_map.mpr ⟨booking, hbooking, if_pos rfl⟩
  | @cancelBooking booking hbooking =>
      rcases Table.mem_append_row.mp hnew with hbefore | hmine
      · exact absurd hbefore hold
      · rw [hmine]
        refine ⟨{ booking with status := .cancelled }, ?_, rfl, rfl,
          List.mem_cons_of_mem _ List.mem_cons_self⟩
        exact List.mem_map.mpr ⟨booking, hbooking, if_pos rfl⟩
  | expireHolds => exact absurd hnew hold

theorem reference_presentable (id : BookingId) :
    publicReference id ≠ [] ∧ (publicReference id).length ≤ 100 := by
  have hprefix : "NSA-".toList.length = 4 := by decide
  have hlength : (publicReference id).length = 12 := by
    rw [publicReference, List.length_append, List.length_map, List.length_take, UUID.hex_length,
      hprefix]
    rfl
  constructor
  · intro hempty
    rw [hempty] at hlength
    cases hlength
  · omega

/-- Every claim projected from an event a booking call has committed tells the truth. -/
theorem booking_notices {s : State} (hs : (bookingSystem cfg).Reachable s)
    {invocation : Invocation} (hclock : s.clock ≤ invocation.env.now)
    (hdatetime : invocation.env.now ≤ Instant.latest) {event : OutboxEventRow}
    (hnew : event ∈ (s.next cfg invocation).db.outboxEvents) (hold : event ∉ s.db.outboxEvents)
    {claim : DeliveryClaim} (hclaim : Projected event claim) :
    (s.next cfg invocation).db.Tells event claim := by
  have hforeseen := foreseen_of_reachable (hs.step ⟨hclock, rfl⟩ :
    (bookingSystem cfg).Reachable (s.next cfg invocation))
  rcases invocation.execute_change cfg s.db with hsame | hchange
  · exact absurd (hsame ▸ hnew) hold
  · obtain ⟨booking, hbooking, hid, hpayload, htype⟩ := hchange.announces hnew hold
    obtain ⟨htypeClaim, hpayloadClaim⟩ := hclaim.carries
    obtain ⟨hreference, hstart⟩ := hforeseen.bookings booking hbooking
    obtain ⟨hpresent, hlength⟩ := reference_presentable booking.id
    refine ⟨booking, hbooking, hid.symm, _, hreference, ?_⟩
    rw [← htypeClaim]
    apply render_booking
    case htype =>
      rw [htypeClaim]
      exact htype
    case hreference =>
      rw [hpayloadClaim, hpayload, hreference]
      rfl
    case hreferencePresent => exact hpresent
    case hreferenceLength => exact hlength
    case hstart =>
      rw [hpayloadClaim, hpayload, hreference]
      rfl
    case hstartPresent => exact Instant.isoformat_ne_nil booking.startAt
    case hstartLength =>
      apply Instant.length_isoformat_le
      have hclockNow : (s.next cfg invocation).clock = invocation.env.now := rfl
      rw [hclockNow] at hstart
      simp only [days] at hstart
      omega

end Bookings

/-- Notifications tell the truth: about bookings always, and about leads and cases exactly if
the priority that goes with the event is stated. -/
theorem notices_tell_the_truth [PythonText] :
    (∀ (cfg : Catalogue) (s : State), (bookingSystem cfg).Reachable s →
      ∀ invocation : Invocation, s.clock ≤ invocation.env.now →
        invocation.env.now ≤ Instant.latest →
          ∀ event ∈ (s.next cfg invocation).db.outboxEvents, event ∉ s.db.outboxEvents →
            ∀ claim, Projected event claim → (s.next cfg invocation).db.Tells event claim) ∧
    ∀ (cfg : WorkflowCatalogue) (call : WorkflowCall) (env : Environment) (s : WorkflowState),
      ∀ event ∈ (serve cfg call env s).2.db.outboxEvents, event ∉ s.db.outboxEvents →
        ∀ claim, Projected event claim →
          ((serve cfg call env s).2.db.Tells event claim ↔ PriorityStated call event) := by
  constructor
  · intro cfg s hs invocation hclock hdatetime event hnew hold claim hclaim
    exact booking_notices hs hclock hdatetime hnew hold hclaim
  · intro cfg call env s event hnew hold claim hclaim
    exact workflow_notices call env s hnew hold hclaim

/-! ## In the small shop -/

section Shop

open Shop

/-- Staff listen to every event of the shop. -/
def Shop.staff (event : OutboxEventRow) : NotificationSubscriptionRow where
  id := 1#128
  tenantId := tenantId
  channel := .telegram
  recipientId := "1".toList
  eventTypes := [event.eventType]
  enabled := true

/-- What staff are told of an event. -/
def Shop.claimFor (event : OutboxEventRow) : DeliveryClaim :=
  ((newDelivery { event with lockedAt := some 0 } (staff event) 2#128 0).claimed 0).toClaim

theorem Shop.projected_claimFor (event : OutboxEventRow) : Projected event (claimFor event) :=
  ⟨{ event with lockedAt := some 0 }, _, 0, rfl, rfl, .inserted (staff event) 2#128 0, rfl⟩

/-- A customer has taken a slot and not confirmed it yet. -/
def Shop.choosing : State := opened.after (catalogue 0 0) ((takesFirstSlot 0 1 none 3 0).take 4)

/-- The confirmation of the slot. -/
def Shop.confirming : Invocation :=
  asks 0 0 5 (.confirm (BitVec.ofNat 128 1) (confirmKey (BitVec.ofNat 128 1)))

/-- Staff are told of a booking, and that a customer asks for a person. -/
theorem notices_tell_the_truth_in_shop :
    (∃ event ∈ (choosing.next (catalogue 0 0) confirming).db.outboxEvents,
        (choosing.next (catalogue 0 0) confirming).db.Tells event (claimFor event)) ∧
      ∃ event ∈ (serve workflowCatalogue (asksForHelp 0 "help" 1 1).call
          (asksForHelp 0 "help" 1 1).env welcomed).2.db.outboxEvents,
        ((serve workflowCatalogue (asksForHelp 0 "help" 1 1).call
          (asksForHelp 0 "help" 1 1).env welcomed).2.db.Tells event (claimFor event) ↔
            PriorityStated (asksForHelp 0 "help" 1 1).call event) := by
  have hreachable : (bookingSystem (catalogue 0 0)).Reachable choosing :=
    reachable_after opened_fresh (by decide +kernel)
  have hbooked : ∃ event ∈ (choosing.next (catalogue 0 0) confirming).db.outboxEvents,
      event ∉ choosing.db.outboxEvents := by
    decide +kernel
  have hasked : ∃ event ∈ (serve workflowCatalogue (asksForHelp 0 "help" 1 1).call
      (asksForHelp 0 "help" 1 1).env welcomed).2.db.outboxEvents,
        event ∉ welcomed.db.outboxEvents := by
    decide +kernel
  obtain ⟨booked, hbookedNew, hbookedOld⟩ := hbooked
  obtain ⟨asked, haskedNew, haskedOld⟩ := hasked
  exact ⟨⟨booked, hbookedNew, notices_tell_the_truth.1 (catalogue 0 0) choosing hreachable
      confirming (by decide +kernel) (by decide +kernel) booked hbookedNew hbookedOld _
        (projected_claimFor booked)⟩,
    asked, haskedNew, notices_tell_the_truth.2 workflowCatalogue (asksForHelp 0 "help" 1 1).call
      (asksForHelp 0 "help" 1 1).env welcomed asked haskedNew haskedOld _
        (projected_claimFor asked)⟩

/-- A lead of high priority is said to be of normal priority. -/
theorem high_priority_told_as_normal :
    ∃ pool call, (requestSystem workflowCatalogue intake).Reachable pool ∧
      pool.nextCall? 4 = some call ∧
        ∃ event ∈ (serve workflowCatalogue call completing pool.store).2.db.outboxEvents,
          event ∉ pool.store.db.outboxEvents ∧ Projected event (claimFor event) ∧
            ¬ (serve workflowCatalogue call completing pool.store).2.db.Tells event
              (claimFor event) := by
  have hreachable : (requestSystem workflowCatalogue intake).Reachable (after submits) :=
    pool_reachable (by decide +kernel)
  have hhigh : ∃ call ∈ (after submits).nextCall? 4, leadPriority? call = some (some .high) ∧
      ∃ event ∈ (serve workflowCatalogue call completing (after submits).store).2.db.outboxEvents,
        event ∉ (after submits).store.db.outboxEvents ∧ event.aggregateType = "lead" := by
    decide +kernel
  obtain ⟨call, hcall, hpriority, event, hnew, hold, hlead⟩ := hhigh
  refine ⟨after submits, call, hreachable, hcall, event, hnew, hold, projected_claimFor event, ?_⟩
  rw [workflow_notices call completing (after submits).store hnew hold (projected_claimFor event)]
  intro hstated
  have hnormal := hstated.1 hlead (some .high) hpriority
  cases hnormal

end Shop

end BusinessAssistant.Persistence
