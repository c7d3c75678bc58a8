/-
# Who controls a conversation

While a case of a conversation is open, the bot must stay out. A conversation has
one status and may have many cases, and each action on a case writes the status
without looking at the others. The status says the truth as long as control is
returned to the bot only when no case of the conversation is open.
-/

import BusinessAssistant.Persistence.HandoffDesk
import BusinessAssistant.Persistence.WorkflowRuns

namespace BusinessAssistant.Persistence

open BusinessAssistant.Domain BusinessAssistant.Application BusinessAssistant.Foundation

/-! ## The invariant -/

/-- The two halves of the law, by the statuses alone. -/
structure DeskCoherent (statuses : Statuses) (cases : List HandoffCaseRow)
    (returned : List HandoffId) : Prop where
  caseIds : (cases.map (·.id)).Nodup
  paused : ∀ case ∈ cases, case.Open → ∀ status, (case.conversationId, status) ∈ statuses →
    status = .handoffQueued ∨ status = .humanActive
  attended : ∀ id, (id, .humanActive) ∈ statuses → ∃ case ∈ cases, case.conversationId = id ∧
    (case.status = .claimed ∨ case.status = .resolved ∧ case.id ∉ returned)

variable {statuses : Statuses} {cases : List HandoffCaseRow} {returned : List HandoffId}

/-- Queueing a case keeps the law: its conversation waits for staff. -/
theorem DeskCoherent.queue (hdesk : DeskCoherent statuses cases returned) {case : HandoffCaseRow}
    (hfresh : ∀ row ∈ cases, row.id ≠ case.id) :
    DeskCoherent (setStatus case.conversationId .handoffQueued statuses) (cases ++ [case])
      returned where
  caseIds := Table.nodup_append_row hdesk.caseIds hfresh
  paused := by
    intro other hother hopen status hstatus
    rcases mem_setStatus hstatus with ⟨_, hqueued, _⟩ | ⟨hne, hold⟩
    · exact .inl hqueued
    · rcases Table.mem_append_row.mp hother with hother | rfl
      · exact hdesk.paused other hother hopen status hold
      · exact absurd rfl hne
  attended := by
    intro id hactive
    rcases mem_setStatus hactive with ⟨_, hqueued, _⟩ | ⟨_, hold⟩
    · cases hqueued
    · obtain ⟨other, hother, hrest⟩ := hdesk.attended id hold
      exact ⟨other, List.mem_append_left _ hother, hrest⟩

/-- A case moved to a status. -/
def HandoffCaseRow.move (row : HandoffCaseRow) (status : HandoffStatus)
    (assigneeId : Option Text) : HandoffCaseRow :=
  { row with status := status, assigneeId := assigneeId }

section Move

variable {row : HandoffCaseRow} {status : HandoffStatus} {assigneeId : Option Text}

/-- The cases with one of them moved. -/
def moveIn (cases : List HandoffCaseRow) (row : HandoffCaseRow) (status : HandoffStatus)
    (assigneeId : Option Text) : List HandoffCaseRow :=
  Table.update (fun old => old.id = row.id) (·.move status assigneeId) cases

theorem DeskCoherent.mem_moveIn (hdesk : DeskCoherent statuses cases returned) (hrow : row ∈ cases)
    {other : HandoffCaseRow} :
    other ∈ moveIn cases row status assigneeId ↔
      other = row.move status assigneeId ∨ other ∈ cases ∧ other.id ≠ row.id :=
  Table.mem_update_key hdesk.caseIds hrow

theorem DeskCoherent.nodup_moveIn (hdesk : DeskCoherent statuses cases returned) :
    ((moveIn cases row status assigneeId).map (·.id)).Nodup :=
  Table.nodup_update hdesk.caseIds fun _ => rfl

/-- Moving a case leaves the cases of other conversations. -/
theorem DeskCoherent.attended_move (hdesk : DeskCoherent statuses cases returned)
    (hrow : row ∈ cases) {id : ConversationId} (hactive : (id, .humanActive) ∈ statuses)
    (hother : id ≠ row.conversationId) :
    ∃ case ∈ moveIn cases row status assigneeId, case.conversationId = id ∧ case.id ≠ row.id ∧
      (case.status = .claimed ∨ case.status = .resolved ∧ case.id ∉ returned) := by
  obtain ⟨case, hcase, rfl, hstatus⟩ := hdesk.attended id hactive
  have hne : case.id ≠ row.id := by
    intro heq
    exact hother (congrArg _ (Table.eq_of_key_eq hdesk.caseIds hcase hrow heq))
  exact ⟨case, (hdesk.mem_moveIn hrow).mpr (.inr ⟨hcase, hne⟩), rfl, hne, hstatus⟩

/-- Moving a case to an open status and its conversation to a paused one keeps the
bot out. -/
theorem DeskCoherent.paused_move (hdesk : DeskCoherent statuses cases returned)
    (hrow : row ∈ cases) {given : ConversationStatus}
    (hgiven : given = .handoffQueued ∨ given = .humanActive) :
    ∀ case ∈ moveIn cases row status assigneeId, case.Open → ∀ status,
      (case.conversationId, status) ∈ setStatus row.conversationId given statuses →
        status = .handoffQueued ∨ status = .humanActive := by
  intro case hcase hopen status hstatus
  rcases mem_setStatus hstatus with ⟨_, rfl, _⟩ | ⟨hne, hold⟩
  · exact hgiven
  · rcases (hdesk.mem_moveIn hrow).mp hcase with rfl | ⟨hcase, _⟩
    · exact absurd rfl hne
    · exact hdesk.paused case hcase hopen status hold

theorem DeskCoherent.claim (hdesk : DeskCoherent statuses cases returned) (hrow : row ∈ cases) :
    DeskCoherent (setStatus row.conversationId .humanActive statuses)
      (moveIn cases row .claimed assigneeId) returned where
  caseIds := hdesk.nodup_moveIn
  paused := hdesk.paused_move hrow (.inr rfl)
  attended := by
    intro id hactive
    rcases mem_setStatus hactive with ⟨rfl, _, _⟩ | ⟨hne, hold⟩
    · exact ⟨_, (hdesk.mem_moveIn hrow).mpr (.inl rfl), rfl, .inl rfl⟩
    · obtain ⟨case, hcase, hid, _, hstatus⟩ := hdesk.attended_move hrow hold hne
      exact ⟨case, hcase, hid, hstatus⟩

/-- Resolving a case leaves the conversation with staff until it is returned. -/
theorem DeskCoherent.resolve (hdesk : DeskCoherent statuses cases returned) (hrow : row ∈ cases) :
    DeskCoherent statuses (moveIn cases row .resolved assigneeId)
      (returned.filter (· ≠ row.id)) where
  caseIds := hdesk.nodup_moveIn
  paused := by
    intro case hcase hopen status hstatus
    rcases (hdesk.mem_moveIn hrow).mp hcase with rfl | ⟨hcase, _⟩
    · simp [HandoffCaseRow.Open, HandoffCaseRow.move] at hopen
    · exact hdesk.paused case hcase hopen status hstatus
  attended := by
    intro id hactive
    obtain ⟨case, hcase, hid, hstatus⟩ := hdesk.attended id hactive
    by_cases hsame : case.id = row.id
    · have hcaseRow := Table.eq_of_key_eq hdesk.caseIds hcase hrow hsame
      refine ⟨_, (hdesk.mem_moveIn hrow).mpr (.inl rfl), hcaseRow ▸ hid, .inr ⟨rfl, ?_⟩⟩
      simp [HandoffCaseRow.move]
    · refine ⟨case, (hdesk.mem_moveIn hrow).mpr (.inr ⟨hcase, hsame⟩), hid, ?_⟩
      rcases hstatus with hclaimed | ⟨hresolved, hkept⟩
      · exact .inl hclaimed
      · exact .inr ⟨hresolved, fun hmem => hkept (List.mem_filter.mp hmem).1⟩

theorem DeskCoherent.reopen (hdesk : DeskCoherent statuses cases returned) (hrow : row ∈ cases) :
    DeskCoherent (setStatus row.conversationId .handoffQueued statuses)
      (moveIn cases row .reopened assigneeId) returned where
  caseIds := hdesk.nodup_moveIn
  paused := hdesk.paused_move hrow (.inl rfl)
  attended := by
    intro id hactive
    rcases mem_setStatus hactive with ⟨_, hqueued, _⟩ | ⟨hne, hold⟩
    · cases hqueued
    · obtain ⟨case, hcase, hid, _, hstatus⟩ := hdesk.attended_move hrow hold hne
      exact ⟨case, hcase, hid, hstatus⟩

/-- Returning control keeps the law when no case of the conversation is open. -/
theorem DeskCoherent.returnToBot (hdesk : DeskCoherent statuses cases returned)
    (hrow : row ∈ cases)
    (hlast : ∀ other ∈ cases, other.conversationId = row.conversationId → ¬ other.Open) :
    DeskCoherent (setStatus row.conversationId .activeBot statuses)
      (moveIn cases row .resolved assigneeId) (row.id :: returned) where
  caseIds := hdesk.nodup_moveIn
  paused := by
    intro case hcase hopen status hstatus
    rcases (hdesk.mem_moveIn hrow).mp hcase with rfl | ⟨hcase, _⟩
    · simp [HandoffCaseRow.Open, HandoffCaseRow.move] at hopen
    · rcases mem_setStatus hstatus with ⟨hconversation, _, _⟩ | ⟨_, hold⟩
      · exact absurd hopen (hlast case hcase hconversation)
      · exact hdesk.paused case hcase hopen status hold
  attended := by
    intro id hactive
    rcases mem_setStatus hactive with ⟨_, hbot, _⟩ | ⟨hne, hold⟩
    · cases hbot
    · obtain ⟨case, hcase, hid, hother, hstatus⟩ := hdesk.attended_move hrow hold hne
      refine ⟨case, hcase, hid, ?_⟩
      rcases hstatus with hclaimed | ⟨hresolved, hkept⟩
      · exact .inl hclaimed
      · refine .inr ⟨hresolved, ?_⟩
        rw [List.mem_cons]
        rintro (heq | hmem)
        · exact hother heq
        · exact hkept hmem

end Move

/-! ## The system -/

section Runs

variable [PythonText] {cfg : WorkflowCatalogue}

/-- The rows, and the cases returned to the bot since they were last resolved. -/
structure Desk where
  state : WorkflowState
  returned : List HandoffId

/-- What a committed call does to the record of the returned cases. -/
def returnedBy (returned : List HandoffId) : WorkflowCall → List HandoffId
  | .transition _ handoffId .returnToBot _ => handoffId :: returned
  | .transition _ handoffId .resolve _ => returned.filter (· ≠ handoffId)
  | _ => returned

/-- While a case of a conversation is open, the conversation waits for staff or is
with staff; and it is with staff only when staff claimed a case of it, or resolved
one that was not returned yet. -/
def Desk.BotKeptOut (desk : Desk) : Prop :=
  ∀ conversation ∈ desk.state.db.conversations,
    ((∃ case ∈ desk.state.db.handoffCases, case.conversationId = conversation.id ∧ case.Open) →
      conversation.status = .handoffQueued ∨ conversation.status = .humanActive) ∧
    (conversation.status = .humanActive →
      ∃ case ∈ desk.state.db.handoffCases, case.conversationId = conversation.id ∧
        (case.status = .claimed ∨ case.status = .resolved ∧ case.id ∉ desk.returned))

/-- Anonymization, which ends what it finds of a customer. -/
def anonymizes : WorkflowCall → Bool
  | .anonymize _ _ _ => true
  | _ => false

/-- A call that returns control from a case. -/
def returnsToBot (row : HandoffCaseRow) : WorkflowCall → Bool
  | .transition tenantId handoffId .returnToBot _ => row.tenantId = tenantId && row.id = handoffId
  | _ => false

/-- Control is returned only when no case of the conversation is open. -/
def ReturnsLast (desk : Desk) (transaction : Transaction) : Prop :=
  ∀ row ∈ desk.state.db.handoffCases, returnsToBot row transaction.call = true →
    row.status = .resolved → ∀ other ∈ desk.state.db.handoffCases,
      other.conversationId = row.conversationId → ¬ other.Open

instance (desk : Desk) : DecidablePred (ReturnsLast desk) := fun _ =>
  inferInstanceAs (Decidable (∀ _ ∈ _, _))

/-- The desk after a transaction. -/
def Desk.next (cfg : WorkflowCatalogue) (desk : Desk) (transaction : Transaction) : Desk where
  state := desk.state.next cfg transaction
  returned :=
    match (serve cfg transaction.call transaction.env desk.state).1 with
    | .ok _ => returnedBy desk.returned transaction.call
    | .error _ => desk.returned

/-- The transactions of the qualification and handoff stores in any order. -/
def deskSystem (cfg : WorkflowCatalogue) : System Desk Transaction where
  init desk := desk.state.db.Fresh ∧ desk.returned = []
  step desk transaction desk' :=
    anonymizes transaction.call = false ∧ desk' = desk.next cfg transaction

def Desk.Coherent (desk : Desk) : Prop :=
  DeskCoherent desk.state.db.statuses desk.state.db.handoffCases desk.returned

omit [PythonText] in
/-- Before the first transaction nothing waits and nobody attends. -/
theorem Desk.coherent_of_fresh {desk : Desk} (hfresh : desk.state.db.Fresh) : desk.Coherent := by
  obtain ⟨_, _, _, _, hcases, _, _, _, hstatuses⟩ := hfresh
  refine ⟨by rw [hcases]; exact List.nodup_nil, ?_, ?_⟩
  · intro case hcase
    rw [hcases] at hcase
    cases hcase
  · intro id hactive
    obtain ⟨row, hrow, _, hstatus⟩ := WorkflowDatabase.mem_statuses.mp hactive
    rcases hstatuses row hrow with hbot | hclosed
    · rw [hstatus] at hbot
      cases hbot
    · rw [hstatus] at hclosed
      cases hclosed

/-- One transaction keeps the law when it returns control only from the last case. -/
theorem Desk.coherent_next {desk : Desk} {transaction : Transaction} (hdesk : desk.Coherent)
    (hcall : anonymizes transaction.call = false) (hlast : ReturnsLast desk transaction) :
    (desk.next cfg transaction).Coherent := by
  unfold Desk.Coherent Desk.next WorkflowState.next
  rcases serve_cases transaction.call transaction.env desk.state with
    ⟨error, herror, hsame⟩ | ⟨reply, hreply, hrun⟩
  · rw [herror, WorkflowDatabase.statuses, hsame]
    exact hdesk
  · rw [hreply]
    have hchange := desk_of_run hrun
    obtain ⟨call, env⟩ := transaction
    cases hchange with
    | kept htransition hstatuses hcases =>
        have hreturned : returnedBy desk.returned call = desk.returned := by
          unfold returnedBy
          split
          · exact absurd rfl (htransition _ _ _ _)
          · exact absurd rfl (htransition _ _ _ _)
          · rfl
        rw [hstatuses, hcases, hreturned]
        exact hdesk
    | created _ _ _ hfresh hcases hstatuses =>
        rw [hstatuses, hcases]
        exact hdesk.queue hfresh
    | escalated _ _ _ _ _ _ hfresh hcases hstatuses =>
        rw [hstatuses, hcases]
        exact hdesk.queue hfresh
    | @moved row action actorId status assigneeId hrow _ hmoves hcases hstatuses =>
        rw [hstatuses, hcases]
        cases action with
        | claim =>
            obtain ⟨_, rfl⟩ := hmoves
            exact hdesk.claim hrow
        | resolve =>
            obtain ⟨_, rfl⟩ := hmoves
            exact hdesk.resolve hrow
        | reopen =>
            obtain ⟨_, rfl⟩ := hmoves
            exact hdesk.reopen hrow
        | returnToBot =>
            obtain ⟨hresolved, rfl⟩ := hmoves
            have hreturns : returnsToBot row
                (.transition row.tenantId row.id .returnToBot actorId) = true := by
              simp [returnsToBot]
            exact hdesk.returnToBot hrow (hlast row hrow hreturns hresolved)
    | anonymized => cases hcall

theorem Desk.coherent_of_reachable {desk : Desk}
    (hdesk : ((deskSystem cfg).restrict ReturnsLast).Reachable desk) : desk.Coherent := by
  apply hdesk.invariant
  · intro start hinit
    exact Desk.coherent_of_fresh hinit.1
  · rintro before transaction after _ hcoherent ⟨hlast, hcall, rfl⟩
    exact Desk.coherent_next hcoherent hcall hlast

/-! ## The law -/

/-- The bot stays out of every conversation with an open case, in every run that
returns control only when no case of the conversation is open. -/
theorem bot_kept_out {desk : Desk}
    (hdesk : ((deskSystem cfg).restrict ReturnsLast).Reachable desk) : desk.BotKeptOut := by
  have hcoherent := Desk.coherent_of_reachable hdesk
  intro conversation hconversation
  have hmem : (conversation.id, conversation.status) ∈ desk.state.db.statuses :=
    WorkflowDatabase.mem_statuses.mpr ⟨conversation, hconversation, rfl, rfl⟩
  constructor
  · rintro ⟨case, hcase, hid, hopen⟩
    exact hcoherent.paused case hcase hopen conversation.status (hid ▸ hmem)
  · intro hactive
    exact hcoherent.attended conversation.id (hactive ▸ hmem)

end Runs

/-! ## In the small shop -/

section Shop

open Shop

/-- No case yet. -/
def Shop.desk : Desk where
  state := welcomed
  returned := []

/-- A case is worked on, resolved and returned, and then a second one is opened. -/
def Shop.returnsFirst : List Transaction :=
  [asksForHelp 0 "first" 10 1, acts .claim 1 20, acts .resolve 1 30, acts .returnToBot 1 40,
    asksForHelp 0 "second" 50 2]

/-- The same, but control is returned after the second case was opened. -/
def Shop.returnsLate : List Transaction :=
  [asksForHelp 0 "first" 10 1, acts .claim 1 20, acts .resolve 1 30,
    asksForHelp 0 "second" 40 2, acts .returnToBot 1 50]

theorem Shop.desk_next {condition : Desk → Transaction → Prop} {desk : Desk}
    {transaction : Transaction}
    (hallowed : condition desk transaction ∧ anonymizes transaction.call = false) :
    ((deskSystem workflowCatalogue).restrict condition).step desk transaction
      (desk.next workflowCatalogue transaction) :=
  ⟨hallowed.1, hallowed.2, rfl⟩

theorem Shop.desk_reachable {condition : Desk → Transaction → Prop} {transactions : List Transaction}
    (hfollows : System.Follows
      (fun desk transaction => condition desk transaction ∧ anonymizes transaction.call = false)
      (Desk.next workflowCatalogue) Shop.desk transactions) :
    ((deskSystem workflowCatalogue).restrict condition).Reachable
      (transactions.foldl (Desk.next workflowCatalogue) Shop.desk) :=
  (System.Reachable.init (S := (deskSystem workflowCatalogue).restrict condition)
    ⟨welcomed_fresh, rfl⟩).of_follows (fun _ _ => Shop.desk_next) hfollows

theorem bot_kept_out_in_shop :
    (Shop.returnsFirst.foldl (Desk.next workflowCatalogue) Shop.desk).BotKeptOut :=
  bot_kept_out (Shop.desk_reachable (by decide +kernel))

/-- Without the condition the bot gets a conversation back whose second case still
waits for staff. -/
theorem bot_gets_conversation_with_open_case :
    ∃ desk, (deskSystem workflowCatalogue).Reachable desk ∧ ¬ desk.BotKeptOut := by
  have hfollows : System.Follows
      (fun _ transaction => True ∧ anonymizes transaction.call = false)
      (Desk.next workflowCatalogue) Shop.desk Shop.returnsLate := by
    decide +kernel
  refine ⟨_, (Shop.desk_reachable hfollows).of_restrict, ?_⟩
  unfold Desk.BotKeptOut
  decide +kernel

end Shop

end BusinessAssistant.Persistence
