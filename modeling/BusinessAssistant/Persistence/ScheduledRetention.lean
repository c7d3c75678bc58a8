/-
# Scheduled retention

`run_scheduled_retention`: the policies of active tenants that ask for it are ordered by
tenant and cut to a limit, and each is run in a transaction of its own, under a key that
names the date and the version. The first error leaves the loop.
-/

import BusinessAssistant.Domain.Calendar
import BusinessAssistant.Persistence.RetentionRun
import Mathlib.Data.List.Sort

namespace BusinessAssistant.Persistence.Retention

open BusinessAssistant.Domain BusinessAssistant.Application BusinessAssistant.Foundation

/-! ## The key -/

/-- `date.isoformat()` of a day counted from 1970-01-01 -/
def dayText (day : Int) : Text :=
  let (year, month, day) := Instant.civil day
  Date.padded 4 year ++ '-' :: Date.padded 2 month ++ '-' :: Date.padded 2 day

/-- `f"scheduled-retention:{at.date().isoformat()}:v{policy.version}"` -/
def scheduledKey (day : Int) (version : Nat) : Text :=
  "scheduled-retention:".toList ++ dayText day ++ ":v".toList ++ Text.ofNat version

/-! ## A call -/

/-- A call: its time, the server's clock at each tenant's run, and the action each adds. -/
structure ScheduledCall where
  time : Int
  serverNow : TenantId → Int
  newId : TenantId → UUID

/-- What a tenant's run reads from outside. -/
def ScheduledCall.env (call : ScheduledCall) (tenantId : TenantId) : Environment where
  now := call.time
  serverNow := call.serverNow tenantId
  newId := call.newId tenantId

/-- Who asked for automation, in the order the query gives. -/
def automaticPolicies (db : RetentionDatabase) : List RetentionPolicy :=
  (db.retentionPolicies.filter fun policy => policy.automaticExecutionEnabled = true ∧
    ∃ tenant ∈ db.tenants, tenant.id = policy.tenantId ∧ tenant.status = .active).insertionSort
      fun first second => first.tenantId ≤ second.tenantId

section Loop

variable (fails : TenantId → Option Failure) (call : ScheduledCall)

/-- A turn of the loop; a tenant whose run cannot be carried out has its failure. -/
def runPolicy (policy : RetentionPolicy) (db : RetentionDatabase) :
    Except Failure PrivacyResult × RetentionDatabase :=
  match fails policy.tenantId with
  | some failure => (.error failure, db)
  | none =>
      (runRetention (call.env policy.tenantId) policy.tenantId policy
        (scheduledKey (Wall.date call.time) policy.version) "phase10-worker".toList).commit db

/-- The loop of `run_scheduled_retention`, and the database it leaves -/
def runPolicies (completed : Nat) : List RetentionPolicy → RetentionDatabase →
    Except Failure Nat × RetentionDatabase
  | [], db => (.ok completed, db)
  | policy :: policies, db =>
      match runPolicy fails call policy db with
      | (.error failure, rest) => (.error failure, rest)
      | (.ok _, rest) => runPolicies (completed + 1) policies rest

/-- `run_scheduled_retention` -/
def runScheduledRetention (limit : Nat) (db : RetentionDatabase) :
    Except Failure Nat × RetentionDatabase :=
  runPolicies fails call 0 ((automaticPolicies db).take limit) db

end Loop

/-- One call after another, whatever each of them returns. -/
def runScheduledCalls (fails : TenantId → Option Failure) (limit : Nat)
    (calls : List ScheduledCall) (db : RetentionDatabase) : RetentionDatabase :=
  calls.foldl (fun db call => (runScheduledRetention fails call limit db).2) db

/-! ## Executions -/

/-- How often a policy was executed on a day. -/
def executions (day : Int) (policy : RetentionPolicy) (db : RetentionDatabase) : Nat :=
  db.privacyActions.countP fun row => row.tenantId = policy.tenantId ∧
    row.idempotencyKey = scheduledKey day policy.version ∧ row.actionType = "retention_execution" ∧
      row.targetId = none

/-- The run of a policy raises: it cannot be carried out, or its key names something else. -/
def Raises (fails : TenantId → Option Failure) (day : Int) (db : RetentionDatabase)
    (policy : RetentionPolicy) : Prop :=
  (fails policy.tenantId).isSome = true ∨
    ∃ row ∈ db.privacyActions, row.tenantId = policy.tenantId ∧
      row.idempotencyKey = scheduledKey day policy.version ∧
        (row.actionType ≠ "retention_execution" ∨ row.targetId ≠ none)

instance (fails : TenantId → Option Failure) (day : Int) (db : RetentionDatabase) :
    DecidablePred (Raises fails day db) :=
  fun _ => inferInstanceAs (Decidable (_ ∨ ∃ _ ∈ _, _))

/-- The unique keys of the tables a call reads -/
structure ScheduleKeyed (db : RetentionDatabase) : Prop where
  retentionPolicies : (db.retentionPolicies.map (·.tenantId)).Nodup
  privacyActions : (db.privacyActions.map fun row => (row.tenantId, row.idempotencyKey)).Nodup

/-! ## What a run keeps -/

section Keep

variable {tenantId : TenantId} {time : Int} {customerIds : List CustomerId}

/-- The loop over customers has no part in who asked for automation. -/
theorem anonymizeCustomers_config (db : RetentionDatabase) :
    (anonymizeCustomers tenantId time customerIds db).tenants = db.tenants ∧
      (anonymizeCustomers tenantId time customerIds db).retentionPolicies =
        db.retentionPolicies := by
  induction customerIds generalizing db with
  | nil => exact ⟨rfl, rfl⟩
  | cons customerId customerIds ih =>
      rw [anonymizeCustomers]
      split
      · exact ih db
      · exact ih (anonymizeCustomerRows tenantId time customerId db)

end Keep

section

variable {fails : TenantId → Option Failure} {call : ScheduledCall} {day : Int}
  {db rest : RetentionDatabase} {policy : RetentionPolicy}

/-- What a part of a call does: the policies of `done` are executed by now, and all else that
the calls go by is as it was. -/
structure Swept (fails : TenantId → Option Failure) (day : Int) (done : List RetentionPolicy)
    (db rest : RetentionDatabase) : Prop where
  tenants : rest.tenants = db.tenants
  retentionPolicies : rest.retentionPolicies = db.retentionPolicies
  keyed : ScheduleKeyed rest
  raises : ∀ policy ∈ db.retentionPolicies, Raises fails day rest policy ↔ Raises fails day db policy
  executions : ∀ policy ∈ db.retentionPolicies,
    executions day policy rest = if policy ∈ done then 1 else executions day policy db

theorem Swept.refl (hdb : ScheduleKeyed db) : Swept fails day [] db db where
  tenants := rfl
  retentionPolicies := rfl
  keyed := hdb
  raises _ _ := Iff.rfl
  executions _ _ := by simp

theorem Swept.trans {first second : List RetentionPolicy} {mid : RetentionDatabase}
    (hfirst : Swept fails day first db mid) (hsecond : Swept fails day second mid rest) :
    Swept fails day (first ++ second) db rest where
  tenants := hsecond.tenants.trans hfirst.tenants
  retentionPolicies := hsecond.retentionPolicies.trans hfirst.retentionPolicies
  keyed := hsecond.keyed
  raises policy hpolicy :=
    (hsecond.raises policy (hfirst.retentionPolicies ▸ hpolicy)).trans
      (hfirst.raises policy hpolicy)
  executions policy hpolicy := by
    rw [hsecond.executions policy (hfirst.retentionPolicies ▸ hpolicy),
      hfirst.executions policy hpolicy]
    by_cases hmem : policy ∈ second
    · simp [hmem]
    · simp [hmem]

/-- A policy of one tenant was executed at most once under one key. -/
theorem executions_le_one (hdb : ScheduleKeyed db) : executions day policy db ≤ 1 := by
  apply Table.countP_le_one hdb.privacyActions
  intro first _ second _ hfirst hsecond
  simp only [decide_eq_true_eq] at hfirst hsecond
  rw [hfirst.1, hfirst.2.1, hsecond.1, hsecond.2.1]

theorem executions_eq_zero (hunused : KeyUnused policy.tenantId (scheduledKey day policy.version) db) :
    executions day policy db = 0 := by
  rw [executions, List.countP_eq_zero]
  intro row hrow hcounted
  simp only [decide_eq_true_eq] at hcounted
  exact hunused row hrow hcounted.1 hcounted.2.1

/-- A key that names an execution was executed once. -/
theorem executions_of_replay {result : PrivacyResult} (hdb : ScheduleKeyed db)
    (hreplay : replay db.privacyActions policy.tenantId (scheduledKey day policy.version)
      "retention_execution" none = .ok (some result)) :
    executions day policy db = 1 := by
  have hpositive : 0 < executions day policy db := by
    rw [replay] at hreplay
    split at hreplay
    · simp [except_pure_eq_ok] at hreplay
    · next row hfound =>
        obtain ⟨hrow, htenant, hkey⟩ := Table.of_find? hfound
        split at hreplay
        · cases hreplay
        · next hsame =>
            rw [executions, List.countP_pos_iff]
            simp only [ne_eq, not_or, not_not] at hsame
            exact ⟨row, hrow, decide_eq_true ⟨htenant, hkey, hsame.1, hsame.2⟩⟩
  have hone := @executions_le_one day db policy hdb
  omega

theorem not_raises_of_replay {result : Option PrivacyResult} (hdb : ScheduleKeyed db)
    (hfails : fails policy.tenantId = none)
    (hreplay : replay db.privacyActions policy.tenantId (scheduledKey day policy.version)
      "retention_execution" none = .ok result) :
    ¬ Raises fails day db policy := by
  rintro (hfailure | ⟨row, hrow, htenant, hkey, hwrong⟩)
  · rw [hfails] at hfailure
    cases hfailure
  · have hfound : db.privacyActions.find? (fun row => row.tenantId = policy.tenantId ∧
        row.idempotencyKey = scheduledKey day policy.version) = some row := by
      apply Table.find?_eq_some_of_unique hrow ⟨htenant, hkey⟩
      intro other hother hsame
      apply Table.eq_of_key_eq hdb.privacyActions hother hrow
      rw [hsame.1, hsame.2, htenant, hkey]
    rw [replay, hfound] at hreplay
    simp only [if_pos hwrong] at hreplay
    cases hreplay

theorem raises_of_replay {failure : Failure}
    (hreplay : replay db.privacyActions policy.tenantId (scheduledKey day policy.version)
      "retention_execution" none = .error failure) :
    Raises fails day db policy := by
  rw [replay] at hreplay
  split at hreplay
  · cases hreplay
  · next row hfound =>
      obtain ⟨hrow, htenant, hkey⟩ := Table.of_find? hfound
      split at hreplay
      · next hwrong => exact .inr ⟨row, hrow, htenant, hkey, hwrong⟩
      · cases hreplay

/-- An execution is one more of its policy. -/
theorem swept_executed {env : Environment} {actorId : Text} (hdb : ScheduleKeyed db)
    (hpolicy : policy ∈ db.retentionPolicies) (hraises : ¬ Raises fails day db policy)
    (hunused : KeyUnused policy.tenantId (scheduledKey day policy.version) db) :
    Swept fails day [policy] db
      (executed env policy.tenantId policy (scheduledKey day policy.version) actorId db) where
  tenants := (anonymizeCustomers_config db).1
  retentionPolicies := (anonymizeCustomers_config db).2
  keyed :=
    { retentionPolicies := by
        have hsame := (@anonymizeCustomers_config policy.tenantId env.now
          (dueCustomerIds policy.tenantId policy env.now db) db).2
        exact (congrArg (fun rows => (rows.map (·.tenantId)).Nodup) hsame).mpr hdb.retentionPolicies
      privacyActions := by
        apply Table.nodup_append_row hdb.privacyActions
        intro row hrow hsame
        obtain ⟨htenant, hkey⟩ := Prod.mk.injEq _ _ _ _ ▸ hsame
        exact hunused row hrow htenant hkey }
  raises other hother := by
    apply or_congr_right
    constructor
    · rintro ⟨row, hrow, htenant, hkey, hwrong⟩
      rcases Table.mem_append_row.mp hrow with hold | rfl
      · exact ⟨row, hold, htenant, hkey, hwrong⟩
      · -- The row that is added names what it should.
        rcases hwrong with hwrong | hwrong
        · exact absurd rfl hwrong
        · exact absurd rfl hwrong
    · rintro ⟨row, hrow, hwrong⟩
      exact ⟨row, List.mem_append_left _ hrow, hwrong⟩
  executions other hother := by
    have hadded : executions day other
        (executed env policy.tenantId policy (scheduledKey day policy.version) actorId db) =
          executions day other db + if policy.tenantId = other.tenantId ∧
            scheduledKey day policy.version = scheduledKey day other.version then 1 else 0 := by
      simp only [executions, executed, List.countP_append, List.countP_singleton, executionAction,
        and_true, decide_eq_true_eq]
    rw [hadded]
    by_cases hsame : other = policy
    · subst hsame
      simp [executions_eq_zero hunused]
    · have hnot : ¬ policy.tenantId = other.tenantId := fun htenant =>
        hsame (Table.eq_of_key_eq hdb.retentionPolicies hother hpolicy htenant.symm)
      simp [hnot, hsame]

theorem runPolicy_of_run {result : PrivacyResult} (hfails : fails policy.tenantId = none)
    (hrun : (runRetention (call.env policy.tenantId) policy.tenantId policy
      (scheduledKey (Wall.date call.time) policy.version) "phase10-worker".toList).run db =
        .ok (result, rest)) :
    runPolicy fails call policy db = (.ok result, rest) := by
  rw [runPolicy, hfails]
  exact Tx.commit_of_ok hrun

/-- A key that names something else is no key to run under. -/
theorem runPolicy_of_replay_error {failure : Failure} (hfails : fails policy.tenantId = none)
    (hreplay : replay db.privacyActions policy.tenantId
      (scheduledKey (Wall.date call.time) policy.version) "retention_execution" none =
        .error failure) :
    ∃ failure, runPolicy fails call policy db = (.error failure, db) := by
  rw [runPolicy, hfails]
  cases hrun : (runRetention (call.env policy.tenantId) policy.tenantId policy
      (scheduledKey (Wall.date call.time) policy.version) "phase10-worker".toList).run db with
  | error failure => exact ⟨failure, Tx.commit_of_error hrun⟩
  | ok outcome =>
      rcases runRetention_eq_ok.mp hrun with ⟨hok, _⟩ | ⟨hunused, _⟩
      · rw [hreplay] at hok
        cases hok
      · rw [replay_eq_none_iff.mpr hunused] at hreplay
        cases hreplay

/-- A turn of the loop raises and changes nothing, or has its policy executed. -/
theorem runPolicy_cases (hdb : ScheduleKeyed db) (hpolicy : policy ∈ db.retentionPolicies)
    (hday : Wall.date call.time = day) :
    (Raises fails day db policy ∧ ∃ failure, runPolicy fails call policy db = (.error failure, db)) ∨
      ¬ Raises fails day db policy ∧ ∃ result rest,
        runPolicy fails call policy db = (.ok result, rest) ∧ Swept fails day [policy] db rest := by
  subst hday
  cases hfails : fails policy.tenantId with
  | some failure =>
      refine .inl ⟨.inl (by rw [hfails]; rfl), failure, ?_⟩
      rw [runPolicy, hfails]
  | none =>
      cases hreplay : replay db.privacyActions policy.tenantId
          (scheduledKey (Wall.date call.time) policy.version) "retention_execution" none with
      | error failure =>
          exact .inl ⟨raises_of_replay hreplay, runPolicy_of_replay_error hfails hreplay⟩
      | ok found =>
          have hraises := not_raises_of_replay hdb hfails hreplay
          refine .inr ⟨hraises, ?_⟩
          cases found with
          | some result =>
              have hone := executions_of_replay hdb hreplay
              refine ⟨result, db,
                runPolicy_of_run hfails (runRetention_eq_ok.mpr (.inl ⟨hreplay, rfl⟩)), ?_⟩
              exact
                { Swept.refl hdb with
                  executions := fun other hother => by
                    by_cases hsame : other = policy
                    · simp [hsame, hone]
                    · simp [hsame] }
          | none =>
              have hunused := replay_eq_none_iff.mp hreplay
              have hstored : PolicyStored policy.tenantId policy db := ⟨policy, hpolicy, rfl, rfl⟩
              exact ⟨_, _, runPolicy_of_run hfails
                (runRetention_eq_ok.mpr (.inr ⟨hunused, hstored, rfl, rfl⟩)),
                swept_executed hdb hpolicy hraises hunused⟩

/-! ## A call and many -/

/-- The policies before the first that raises -/
def beforeRaise (fails : TenantId → Option Failure) (day : Int) (db : RetentionDatabase)
    (policies : List RetentionPolicy) : List RetentionPolicy :=
  policies.takeWhile fun policy => ¬ Raises fails day db policy

/-- The loop executes what is before the first policy that raises, and nothing after it. -/
theorem swept_runPolicies {start : RetentionDatabase} {policies : List RetentionPolicy}
    {completed : Nat} (hdb : ScheduleKeyed db) (hday : Wall.date call.time = day)
    (hpolicies : ∀ policy ∈ policies, policy ∈ db.retentionPolicies)
    (hraises : ∀ policy ∈ policies, Raises fails day db policy ↔ Raises fails day start policy) :
    Swept fails day (beforeRaise fails day start policies) db
      (runPolicies fails call completed policies db).2 := by
  induction policies generalizing db completed with
  | nil => exact Swept.refl hdb
  | cons policy policies ih =>
      have hpolicy := hpolicies policy List.mem_cons_self
      have hhead := hraises policy List.mem_cons_self
      rw [beforeRaise, List.takeWhile_cons, runPolicies]
      rcases @runPolicy_cases fails call day db policy hdb hpolicy hday with
        ⟨hraise, failure, hrun⟩ | ⟨hraise, result, rest, hrun, hswept⟩
      · rw [hrun]
        simp only [hhead.mp hraise, not_true, decide_false, Bool.false_eq_true, if_false]
        exact Swept.refl hdb
      · rw [hrun]
        simp only [hhead.not.mp hraise, not_false_eq_true, decide_true, if_true]
        apply hswept.trans
        apply ih hswept.keyed
        · intro other hother
          rw [hswept.retentionPolicies]
          exact hpolicies other (List.mem_cons_of_mem _ hother)
        · intro other hother
          have hmem := List.mem_cons_of_mem policy hother
          exact (hswept.raises other (hpolicies other hmem)).trans (hraises other hmem)

theorem mem_retentionPolicies (hpolicy : policy ∈ automaticPolicies db) :
    policy ∈ db.retentionPolicies := by
  rw [automaticPolicies, List.mem_insertionSort] at hpolicy
  exact (List.mem_filter.mp hpolicy).1

/-- The policies a call executes -/
def reached (fails : TenantId → Option Failure) (day : Int) (limit : Nat) (db : RetentionDatabase) :
    List RetentionPolicy :=
  beforeRaise fails day db ((automaticPolicies db).take limit)

/-- Every call goes by the same policies, and reaches the same of them. -/
theorem swept_runScheduledCalls {start : RetentionDatabase} {done : List RetentionPolicy}
    {calls : List ScheduledCall} {limit : Nat} (hswept : Swept fails day done start db)
    (hday : ∀ call ∈ calls, Wall.date call.time = day) :
    Swept fails day
      (done ++ (List.replicate calls.length (reached fails day limit start)).flatten) start
      (runScheduledCalls fails limit calls db) := by
  induction calls generalizing db done with
  | nil => simpa [runScheduledCalls] using hswept
  | cons call calls ih =>
      have hautomatic : automaticPolicies db = automaticPolicies start := by
        rw [automaticPolicies, automaticPolicies, hswept.tenants, hswept.retentionPolicies]
      have hmem : ∀ policy ∈ (automaticPolicies start).take limit,
          policy ∈ start.retentionPolicies :=
        fun policy hpolicy => mem_retentionPolicies (List.mem_of_mem_take hpolicy)
      have hcall : Swept fails day (reached fails day limit start) db
          (runScheduledRetention fails call limit db).2 := by
        rw [runScheduledRetention, hautomatic, reached]
        apply swept_runPolicies hswept.keyed (hday call List.mem_cons_self)
        · intro policy hpolicy
          rw [hswept.retentionPolicies]
          exact hmem policy hpolicy
        · intro policy hpolicy
          exact hswept.raises policy (hmem policy hpolicy)
      have hrest := ih (hswept.trans hcall) fun other hother =>
        hday other (List.mem_cons_of_mem _ hother)
      rw [List.length_cons, List.replicate_succ, List.flatten_cons, ← List.append_assoc]
      exact hrest

/-- Calls on one day execute, each policy once, what the first of them reaches. -/
theorem executions_runScheduledCalls {calls : List ScheduledCall} {limit : Nat}
    (hdb : ScheduleKeyed db) (hday : ∀ call ∈ calls, Wall.date call.time = day)
    (hpolicy : policy ∈ db.retentionPolicies) :
    executions day policy (runScheduledCalls fails limit calls db) =
      if calls ≠ [] ∧ policy ∈ reached fails day limit db then 1 else executions day policy db := by
  have hswept := @swept_runScheduledCalls fails day db db [] calls limit (Swept.refl hdb) hday
  have hmem : policy ∈ [] ++ (List.replicate calls.length (reached fails day limit db)).flatten ↔
      calls ≠ [] ∧ policy ∈ reached fails day limit db := by
    rw [List.nil_append, List.mem_flatten]
    constructor
    · rintro ⟨policies, hpolicies, hmem⟩
      obtain ⟨hlength, rfl⟩ := List.mem_replicate.mp hpolicies
      exact ⟨fun hnil => hlength (by rw [hnil]; rfl), hmem⟩
    · rintro ⟨hcalls, hmem⟩
      have hlength : calls.length ≠ 0 := fun hzero => hcalls (List.length_eq_zero_iff.mp hzero)
      exact ⟨_, List.mem_replicate.mpr ⟨hlength, rfl⟩, hmem⟩
  rw [hswept.executions policy hpolicy]
  simp only [hmem]

/-- After as many calls on one day as there are batches, every tenant whose run does not raise
was executed once if and only if each of them had been before, or is among the first of the
order that the limit admits, before the first of these whose run raises. -/
theorem scheduled_covers_iff {calls : List ScheduledCall} {limit : Nat} (hdb : ScheduleKeyed db)
    (hlimit : 1 ≤ limit) (hday : ∀ call ∈ calls, Wall.date call.time = day)
    (hcalls : calls.length = ((automaticPolicies db).length + limit - 1) / limit) :
    (∀ policy ∈ automaticPolicies db, ¬ Raises fails day db policy →
        executions day policy (runScheduledCalls fails limit calls db) = 1) ↔
      ∀ policy ∈ automaticPolicies db, ¬ Raises fails day db policy →
        executions day policy db = 1 ∨
          policy ∈ ((automaticPolicies db).take limit).takeWhile fun policy =>
            ¬ Raises fails day db policy := by
  apply forall_congr'
  intro policy
  apply forall_congr'
  intro hpolicy
  apply forall_congr'
  intro _
  have hnonempty : calls ≠ [] := by
    rintro rfl
    have hlength := List.length_pos_of_mem hpolicy
    have hbatches := Nat.div_pos (by omega : limit ≤ (automaticPolicies db).length + limit - 1)
      hlimit
    rw [List.length_nil] at hcalls
    omega
  rw [executions_runScheduledCalls hdb hday (mem_retentionPolicies hpolicy)]
  by_cases hreached : policy ∈ reached fails day limit db
  · simp only [hnonempty, hreached, ne_eq, not_false_eq_true, and_self, if_true, true_iff]
    exact .inr hreached
  · simp only [hreached, and_false, if_false]
    exact (or_iff_left hreached).symm

end

/-! ### Two tenants -/

namespace TwoTenants

def utc : ZoneInfo where
  key := "UTC"
  initialOffset := 0
  transitions := []

def tenant (id : TenantId) : TenantRow where
  id := id
  timezone := utc
  status := .active

theorem version_pos : 1 ≤ 1 := le_rfl

theorem periods_valid : ∀ period ∈ [30, 90, 365, 730, 365, 90], 1 ≤ period ∧ period ≤ 3650 := by
  decide

def policy (tenantId : TenantId) : RetentionPolicy where
  tenantId := tenantId
  version := 1
  operationalMetadataDays := 30
  messageContentDays := 90
  customerContactDays := 365
  workflowRecordsDays := 730
  knowledgeArchiveDays := 365
  aiTelemetryDays := 90
  automaticExecutionEnabled := true
  versionPositive := version_pos
  periodsValid := periods_valid

def db : RetentionDatabase where
  tenants := [tenant 1, tenant 2]
  retentionPolicies := [policy 2, policy 1]

/-- A call 1000 days into the epoch -/
def call : ScheduledCall where
  time := days 1000
  serverNow _ := days 1000
  newId tenantId := tenantId + 2

/-- Every run can be carried out. -/
def noFailure : TenantId → Option Failure := fun _ => none

theorem scheduleKeyed_db : ScheduleKeyed db := by
  constructor <;> decide

theorem day_call {calls : List ScheduledCall} (hcalls : ∀ other ∈ calls, other = call) :
    ∀ other ∈ calls, Wall.date other.time = 1000 := by
  intro other hother
  rw [hcalls other hother]
  decide

end TwoTenants

open TwoTenants in
/-- One call that admits two tenants is enough for two. -/
theorem covered_within_limit :
    (automaticPolicies db).length = 2 ∧
      ∀ policy ∈ automaticPolicies db, ¬ Raises noFailure 1000 db policy →
        executions 1000 policy (runScheduledCalls noFailure 2 [call] db) = 1 :=
  ⟨by decide +kernel,
    (scheduled_covers_iff scheduleKeyed_db (by decide) (day_call (by simp)) (by decide +kernel)).mpr
      (by decide +kernel)⟩

open TwoTenants in
/-- Two calls that admit one tenant each are both for the first. -/
theorem not_covered_beyond_limit :
    [call, call].length = ((automaticPolicies db).length + 1 - 1) / 1 ∧
      ¬ ∀ policy ∈ automaticPolicies db, ¬ Raises noFailure 1000 db policy →
        executions 1000 policy (runScheduledCalls noFailure 1 [call, call] db) = 1 := by
  refine ⟨by decide +kernel, fun hcovered => ?_⟩
  have hone := hcovered (policy 2) (by decide +kernel) (by decide +kernel)
  rw [executions_runScheduledCalls scheduleKeyed_db (day_call (by simp)) (by decide)] at hone
  have hnot : policy 2 ∉ reached noFailure 1000 1 db := by decide +kernel
  simp only [hnot, and_false, if_false] at hone
  exact absurd hone (by decide)

end BusinessAssistant.Persistence.Retention
