/-
# Executing concurrent requests

The small shop asks its customers two questions before it calls back: what they
need, and whether it is urgent, which staff want to know at once. The programs of
the requests are served event by event from a fixed list.
-/

import BusinessAssistant.Persistence.RequestSafety
import BusinessAssistant.Persistence.WorkflowRuns

namespace BusinessAssistant.Persistence

open BusinessAssistant.Domain BusinessAssistant.Application BusinessAssistant.Foundation

/-- The server of the requests: the committed rows, and the requests on their way. -/
abbrev RequestPool [PythonText] :=
  Pool WorkflowState WorkflowCall WorkflowCall.Reply Failure Outcome

/-- What an event makes of the server. -/
abbrev RequestPool.next [PythonText] (cfg : WorkflowCatalogue) (schemaCode : Text)
    (pool : RequestPool) (event : Event Operation Environment) : RequestPool :=
  Pool.next (Operation.program schemaCode) (serve cfg) pool event

/-- The state an operation served alone leads to; one whose environments do not fit its
calls is passed over. -/
def Execution.next [PythonText] (cfg : WorkflowCatalogue) (schemaCode : Text) (s : WorkflowState)
    (e : Execution) : WorkflowState :=
  match e.run cfg schemaCode s with
  | some (_, s') => s'
  | none => s

/-- An execution whose environments fit its calls, read by a clock that does not run
backwards. -/
def Execution.Ready [PythonText] (cfg : WorkflowCatalogue) (schemaCode : Text) (s : WorkflowState)
    (e : Execution) : Prop :=
  Program.Admitted (serve cfg) InOrder (e.operation.program schemaCode) e.envs s ∧
    (e.run cfg schemaCode s).isSome = true

instance Execution.decidableReady [PythonText] (cfg : WorkflowCatalogue) (schemaCode : Text)
    (s : WorkflowState) (e : Execution) : Decidable (e.Ready cfg schemaCode s) :=
  inferInstanceAs (Decidable (_ ∧ _))

theorem Execution.step_next [PythonText] {cfg : WorkflowCatalogue} {schemaCode : Text}
    {s : WorkflowState} {e : Execution} (hready : e.Ready cfg schemaCode s) :
    (operationSystem cfg schemaCode).step s e (e.next cfg schemaCode s) := by
  obtain ⟨hadmitted, hsome⟩ := hready
  obtain ⟨⟨outcome, s'⟩, hrun⟩ := Option.isSome_iff_exists.mp hsome
  refine ⟨hadmitted, outcome, ?_⟩
  rw [Execution.next, hrun]

namespace Shop

/-! ## The schema -/

def intake : Text := "intake".toList

def schemaId : QualificationSchemaId := BitVec.ofNat 128 5

/-- A field without bounds, options or a pattern. -/
def fieldDefinition (key : String) (fieldType : String) (order : Int) : FieldDefinition where
  key := key.toList
  label := key.toList
  prompt := key.toList
  fieldType := fieldType
  validation :=
    { minLength := none
      maxLength := none
      minimum := none
      maximum := none
      options := []
      pattern := none }
  required := true
  order := order
  sensitivity := "public"
  scoreRules := []
  handoffTriggers := []

theorem responseTime_valid : (1 : Int) ≤ 30 ∧ (30 : Int) ≤ 10080 := by decide

/-- What do you need, and is it urgent? -/
def schemaRow : QualificationSchemaRow where
  id := schemaId
  tenantId := tenantId
  code := intake
  version := 1
  title := "Intake".toList
  consentVersion := "1".toList
  consentPurpose := "To call you back.".toList
  definition :=
    [{ fieldDefinition "need" "short_text" 0 with
        scoreRules :=
          [{ code := "roof".toList
             operator := "contains"
             expected := .text "roof".toList
             points := 60 }] },
      { fieldDefinition "urgent" "boolean" 1 with
        handoffTriggers :=
          [{ code := "hurry".toList
             operator := "equals"
             expected := .bool true
             reasonCode := "urgent_need".toList
             priority := "high".toList }] }]
  gradeBands :=
    [{ minimumScore := 0, grade := "C".toList }, { minimumScore := 50, grade := "A".toList }]
  sessionTtlMinutes := 60
  handoffResponseMinutes := 30
  published := true
  active := true
  versionPositive := by decide
  sessionTtlValid := by decide
  handoffResponseValid := responseTime_valid

/-- The shop before its first customer is asked. -/
def asking : WorkflowState :=
  { welcomed with db := { welcomed.db with qualificationSchemas := [schemaRow] } }

theorem asking_fresh : asking.db.Fresh := by
  decide +kernel

/-! ## Events -/

/-- No request has arrived. -/
def idle : RequestPool where
  store := asking
  requests := []

/-- The next call of a request is served at a time, and draws an id if it needs one. -/
def serves (index : Nat) (now : Int) (newId : Nat) : Event Operation Environment :=
  .serve index { now := now, serverNow := now, newId := BitVec.ofNat 128 newId }

/-- A request arrives and some of its calls are served at once. -/
def arrives (index calls : Nat) (operation : Operation) (now : Int) (newId : Nat) :
    List (Event Operation Environment) :=
  .arrive operation :: List.replicate calls (serves index now newId)

/-- The request at a place makes a call, and it commits. -/
def Commits (pool : RequestPool) (index : Nat) (env : Environment) : Prop :=
  ∃ call ∈ pool.nextCall? index, (serve workflowCatalogue call env pool.store).1.isOk = true

instance decidableCommits (pool : RequestPool) (index : Nat) (env : Environment) :
    Decidable (Commits pool index env) :=
  inferInstanceAs (Decidable (∃ call ∈ pool.nextCall? index,
    (serve workflowCatalogue call env pool.store).1.isOk = true))

theorem reply_of_commits {pool : RequestPool} {index : Nat} {env : Environment}
    (hcommits : Commits pool index env) :
    ∃ call, pool.nextCall? index = some call ∧
      ∃ reply, (serve workflowCatalogue call env pool.store).1 = .ok reply := by
  obtain ⟨call, hcall, hok⟩ := hcommits
  refine ⟨call, hcall, ?_⟩
  cases hreply : (serve workflowCatalogue call env pool.store).1 with
  | error error =>
      rw [hreply] at hok
      cases hok
  | ok reply => exact ⟨reply, rfl⟩

/-- Where the server is after some events. -/
def after (events : List (Event Operation Environment)) : RequestPool :=
  events.foldl (RequestPool.next workflowCatalogue intake) idle

theorem after_append (first second : List (Event Operation Environment)) :
    after (first ++ second) =
      second.foldl (RequestPool.next workflowCatalogue intake) (after first) := by
  rw [after, List.foldl_append]
  rfl

/-- Events that can happen one after the other. -/
abbrev Happens (pool : RequestPool) (events : List (Event Operation Environment)) : Prop :=
  System.Follows (Pool.Ready fun _ _ => True) (RequestPool.next workflowCatalogue intake) pool
    events

theorem pool_reachable {events : List (Event Operation Environment)}
    (hevents : Happens idle events) :
    (requestSystem workflowCatalogue intake).Reachable (after events) := by
  have hidle : (requestSystem workflowCatalogue intake).Reachable idle :=
    .init ⟨asking_fresh, rfl⟩
  refine hidle.of_follows ?_ hevents
  intro pool event hready
  exact Pool.step_next hready

/-- An operation all of whose calls are served at one time, and draw an id if they need
one. -/
def performs (operation : Operation) (calls : Nat) (now : Int) (newId : Nat) : Execution where
  operation := operation
  envs := List.replicate calls { now := now, serverNow := now, newId := BitVec.ofNat 128 newId }

/-- Where the shop is after some operations. -/
def served (executions : List Execution) : WorkflowState :=
  executions.foldl (fun s e => e.next workflowCatalogue intake s) asking

/-- Operations that can be served one after the other, each under a condition. -/
abbrev Serves (condition : WorkflowState → Execution → Prop) (executions : List Execution) : Prop :=
  System.Follows (fun s e => condition s e ∧ e.Ready workflowCatalogue intake s)
    (fun s e => e.next workflowCatalogue intake s) asking executions

theorem served_reachable {condition : WorkflowState → Execution → Prop}
    {executions : List Execution} (hserves : Serves condition executions) :
    ((operationSystem workflowCatalogue intake).restrict condition).Reachable
      (served executions) := by
  refine System.Reachable.of_follows ?_ (.init asking_fresh) hserves
  intro s e hready
  exact ⟨hready.1, Execution.step_next hready.2⟩

end Shop

end BusinessAssistant.Persistence
