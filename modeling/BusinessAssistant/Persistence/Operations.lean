/-
# The store as a transition system

A call is one operation of the store with its arguments; an invocation adds what
it takes from outside. A step commits one invocation, or rolls it back, at a
clock that never runs backwards. Runs start without drafts, holds and bookings,
over any configuration and any conversations.
-/

import BusinessAssistant.Foundation.System
import BusinessAssistant.Persistence.BookingStore

namespace BusinessAssistant.Persistence

open BusinessAssistant.Domain BusinessAssistant.Application BusinessAssistant.Foundation

/-- An operation the store performs for one customer. -/
inductive Request
  | startDraft (conversationId : ConversationId) (serviceId : ServiceId)
      (rescheduleBookingId : Option BookingId)
  | getActiveDraft (conversationId : ConversationId)
  | selectDate (draftId : BookingDraftId) (selectedDate : Int)
  | createHold (draftId : BookingDraftId) (slotIndex : Int) (key : Text)
  | updateContact (draftId : BookingDraftId) (name phone note : Option Text)
  | getHold (draftId : BookingDraftId)
  | cancelDraft (conversationId : ConversationId)
  | confirm (draftId : BookingDraftId) (key : Text)
  | latestBooking
  | getBooking (bookingId : BookingId)
  | cancelBooking (bookingId : BookingId)
  | bookingHistory (bookingId : BookingId)
  deriving DecidableEq

/-- What an operation returns. -/
inductive Response
  | draft (draft : BookingDraft)
  | activeDraft (draft : Option BookingDraft)
  | hold (hold : SlotHold)
  | currentHold (hold : Option SlotHold)
  | abandoned (any : Bool)
  | booking (booking : BookingResult)
  | foundBooking (booking : Option BookingResult)
  | history (rows : List (BookingStatus × BookingStatus × Int))
  | expired (count : Nat)
  deriving DecidableEq

/-- The transaction a request runs. -/
def Request.transaction (cfg : Catalogue) (env : Environment) (tenantId : TenantId)
    (customerId : CustomerId) : Request → Tx Database Failure Response
  | .startDraft conversationId serviceId rescheduleBookingId =>
      .draft <$> BookingStore.startDraft cfg env tenantId customerId conversationId serviceId
        rescheduleBookingId
  | .getActiveDraft conversationId =>
      .activeDraft <$> BookingStore.getActiveDraft env tenantId customerId conversationId
  | .selectDate draftId selectedDate =>
      .draft <$> BookingStore.selectDate cfg env tenantId customerId draftId selectedDate
  | .createHold draftId slotIndex key =>
      .hold <$> BookingStore.createHold cfg env tenantId customerId draftId slotIndex key
  | .updateContact draftId name phone note =>
      .draft <$> BookingStore.updateContact cfg env tenantId customerId draftId name phone note
  | .getHold draftId => .currentHold <$> BookingStore.getHold env tenantId customerId draftId
  | .cancelDraft conversationId =>
      .abandoned <$> BookingStore.cancelDraft tenantId customerId conversationId
  | .confirm draftId key =>
      .booking <$> BookingStore.confirm cfg env tenantId customerId draftId key
  | .latestBooking => .foundBooking <$> BookingStore.latestBooking cfg env tenantId customerId
  | .getBooking bookingId =>
      .foundBooking <$> BookingStore.getBooking cfg tenantId customerId bookingId
  | .cancelBooking bookingId =>
      .booking <$> BookingStore.cancelBooking cfg env tenantId customerId bookingId
  | .bookingHistory bookingId =>
      .history <$> BookingStore.bookingHistory tenantId customerId bookingId

/-- A call of the store: a request of a customer, or the maintenance run. -/
inductive Call
  | customer (tenantId : TenantId) (customerId : CustomerId) (request : Request)
  | expireHolds (limit : Int)
  deriving DecidableEq

def Call.transaction (cfg : Catalogue) (env : Environment) : Call → Tx Database Failure Response
  | .customer tenantId customerId request => request.transaction cfg env tenantId customerId
  | .expireHolds limit => .expired <$> BookingStore.expireHolds cfg env limit

/-- A call together with what it takes from outside. -/
structure Invocation where
  call : Call
  env : Environment
  deriving DecidableEq

/-- The committed rows and the latest clock reading of a transaction. -/
structure State where
  db : Database
  clock : Int
  deriving DecidableEq

/-- The outcome of an invocation and the rows it leaves. -/
def Invocation.execute (cfg : Catalogue) (invocation : Invocation) (db : Database) :
    Except Failure Response × Database :=
  (invocation.call.transaction cfg invocation.env).commit db

/-- An invocation that returns committed the rows it leaves. -/
theorem Invocation.execute_ok {cfg : Catalogue} {invocation : Invocation} {db : Database}
    {response : Response} (hok : (invocation.execute cfg db).1 = .ok response) :
    (invocation.call.transaction cfg invocation.env).run db =
      .ok (response, (invocation.execute cfg db).2) :=
  Tx.run_of_commit_ok hok

/-- A database before the store's first transaction. -/
def Database.Fresh (db : Database) : Prop :=
  db.bookingDrafts = [] ∧ db.slotHolds = [] ∧ db.bookings = [] ∧
    db.bookingStatusHistory = [] ∧ db.outboxEvents = [] ∧ (db.conversations.map (·.id)).Nodup

instance (db : Database) : Decidable db.Fresh :=
  inferInstanceAs (Decidable (_ ∧ _ ∧ _ ∧ _ ∧ _ ∧ _))

/-- The booking store over a configuration. -/
def bookingSystem (cfg : Catalogue) : System State Invocation where
  init s := s.db.Fresh
  step s invocation s' :=
    s.clock ≤ invocation.env.now ∧
      s' = { db := (invocation.execute cfg s.db).2, clock := invocation.env.now }

/-- `f"telegram-hold:{draft_id}:{slot_choice}"` -/
def holdKey (draftId : BookingDraftId) (slotChoice : Text) : Text :=
  "telegram-hold:".toList ++ draftId.str ++ ':' :: slotChoice

/-- `f"telegram-confirm:{draft_id}"` -/
def confirmKey (draftId : BookingDraftId) : Text := "telegram-confirm:".toList ++ draftId.str

theorem holdKey_eq_append (draftId : BookingDraftId) (slotChoice : Text) :
    holdKey draftId slotChoice = holdKey draftId [] ++ slotChoice := by
  unfold holdKey
  rw [List.append_assoc _ _ slotChoice, List.cons_append, List.nil_append]

/-- A hold key determines the draft it was built for. -/
theorem holdKey_injective {first second : BookingDraftId} {slotChoice other : Text}
    (hkey : holdKey first slotChoice = holdKey second other) : first = second := by
  have happend : "telegram-hold:".toList ++ UUID.str first ++ ':' :: slotChoice =
      "telegram-hold:".toList ++ UUID.str second ++ ':' :: other := hkey
  rw [List.append_assoc, List.append_assoc] at happend
  obtain ⟨hid, _⟩ := List.append_inj (List.append_cancel_left happend)
    ((UUID.str_length first).trans (UUID.str_length second).symm)
  exact UUID.str_injective hid

/-- A key the navigation builds for a hold of a draft. -/
def HoldKeyOf (draftId : BookingDraftId) (key : Text) : Prop :=
  ∃ slotChoice, key = holdKey draftId slotChoice

theorem holdKeyOf_iff (draftId : BookingDraftId) (key : Text) :
    HoldKeyOf draftId key ↔ holdKey draftId [] <+: key := by
  constructor
  · rintro ⟨slotChoice, rfl⟩
    exact ⟨slotChoice, (holdKey_eq_append draftId slotChoice).symm⟩
  · rintro ⟨slotChoice, hkey⟩
    exact ⟨slotChoice, hkey.symm.trans (holdKey_eq_append draftId slotChoice).symm⟩

instance (draftId : BookingDraftId) (key : Text) : Decidable (HoldKeyOf draftId key) :=
  decidable_of_iff' _ (holdKeyOf_iff draftId key)

/-- The draft and the key of a request for a hold. -/
def Request.holdKey? : Request → Option (BookingDraftId × Text)
  | .createHold draftId _ key => some (draftId, key)
  | _ => none

/-- The draft and the key of a confirmation. -/
def Request.confirmKey? : Request → Option (BookingDraftId × Text)
  | .confirm draftId key => some (draftId, key)
  | _ => none

/-- A request for a hold carries a key the navigation builds for the draft it
names. -/
def Request.UsesHoldKey (request : Request) : Prop :=
  ∀ pair ∈ request.holdKey?, HoldKeyOf pair.1 pair.2

instance (request : Request) : Decidable request.UsesHoldKey :=
  inferInstanceAs (Decidable (∀ _ ∈ _, _))

/-- A confirmation carries the key the navigation builds for the draft it names. -/
def Request.UsesConfirmKey (request : Request) : Prop :=
  ∀ pair ∈ request.confirmKey?, pair.2 = confirmKey pair.1

instance (request : Request) : Decidable request.UsesConfirmKey :=
  inferInstanceAs (Decidable (∀ _ ∈ _, _))

/-- What a call asks for on behalf of a customer. -/
def Call.request? : Call → Option Request
  | .customer _ _ request => some request
  | .expireHolds _ => none

/-- The store when holds are taken under the navigation's keys. -/
def holdKeySystem (cfg : Catalogue) : System State Invocation :=
  (bookingSystem cfg).restrict fun _ invocation =>
    ∀ request ∈ invocation.call.request?, request.UsesHoldKey

/-- The store as the navigation calls it. -/
def navigationSystem (cfg : Catalogue) : System State Invocation :=
  (bookingSystem cfg).restrict fun _ invocation =>
    ∀ request ∈ invocation.call.request?, request.UsesHoldKey ∧ request.UsesConfirmKey

end BusinessAssistant.Persistence
