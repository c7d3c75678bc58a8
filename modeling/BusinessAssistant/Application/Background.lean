/-
# Background delivery

The models of `application.background` and the parts of `BackgroundApplication` that
decide: the text of a notification, read from the untyped payload of its event, and
what is done with a claimed delivery after the gateway was called.
-/

import BusinessAssistant.Domain.Identifiers
import BusinessAssistant.Domain.Text
import BusinessAssistant.Domain.Time

namespace BusinessAssistant.Application

open BusinessAssistant.Domain

/-! ## Models -/

inductive NotificationChannel
  | telegram
  deriving DecidableEq, Repr

/-- What the payload of an event keeps under a key. -/
inductive PayloadValue
  | null
  | text (value : Text)
  | int (value : Int)
  deriving DecidableEq

/-- The payload of an event, as the dictionary the notifications are read from. -/
abbrev Payload := List (String × PayloadValue)

/-- A subscription. Its event types are a set; they are listed in order. -/
structure NotificationSubscription where
  id : UUID
  tenantId : TenantId
  channel : NotificationChannel
  recipientId : Text
  eventTypes : List String
  enabled : Bool
  deriving DecidableEq

/-- A delivery as it was when a worker claimed it. -/
structure DeliveryClaim where
  id : UUID
  tenantId : TenantId
  eventType : String
  channel : NotificationChannel
  recipientId : Text
  payload : Payload
  attempts : Nat
  deriving DecidableEq

/-- Two claims of one delivery with the same number are the same claim. -/
def DeliveryClaim.token (claim : DeliveryClaim) : UUID × Nat := (claim.id, claim.attempts)

structure NotificationDeliveryError where
  code : String
  retryable : Bool
  deriving DecidableEq

structure RetryPolicy where
  maxAttempts : Nat
  baseDelaySeconds : Nat
  maximumDelaySeconds : Nat
  maxAttemptsValid : 1 ≤ maxAttempts ∧ maxAttempts ≤ 20
  delayValid : 1 ≤ baseDelaySeconds ∧ baseDelaySeconds ≤ maximumDelaySeconds

/-- `next_attempt_at`: the delay doubles with the attempts, and the digits of the claim's
id spread the retries. -/
def RetryPolicy.nextAttemptAt (policy : RetryPolicy) (claimId : UUID) (attempts : Nat)
    (now : Int) : Int :=
  let delay := min policy.maximumDelaySeconds (policy.baseDelaySeconds * 2 ^ (attempts - 1))
  let jitter := claimId.toNat % max 1 (min delay 17)
  now + seconds (min policy.maximumDelaySeconds (delay + jitter) : Nat)

/-! ## The delay before a retry -/

/-- The seconds `next_attempt_at` waits. -/
def RetryPolicy.waitSeconds (policy : RetryPolicy) (claimId : UUID) (attempts : Nat) : Nat :=
  let delay := min policy.maximumDelaySeconds (policy.baseDelaySeconds * 2 ^ (attempts - 1))
  min policy.maximumDelaySeconds (delay + claimId.toNat % max 1 (min delay 17))

theorem RetryPolicy.nextAttemptAt_sub (policy : RetryPolicy) (claimId : UUID) (attempts : Nat)
    (now : Int) : policy.nextAttemptAt claimId attempts now - now =
      seconds (policy.waitSeconds claimId attempts : Nat) := by
  simp only [nextAttemptAt, waitSeconds]
  omega

section Waiting

variable (policy : RetryPolicy) (claimId : UUID)

/-- The delay without its jitter is at least the base delay. -/
theorem RetryPolicy.baseDelay_le (attempts : Nat) : policy.baseDelaySeconds ≤
    min policy.maximumDelaySeconds (policy.baseDelaySeconds * 2 ^ (attempts - 1)) :=
  le_min policy.delayValid.2 (Nat.le_mul_of_pos_right _ (Nat.two_pow_pos _))

theorem RetryPolicy.baseDelay_le_waitSeconds (attempts : Nat) :
    policy.baseDelaySeconds ≤ policy.waitSeconds claimId attempts :=
  le_min policy.delayValid.2 ((policy.baseDelay_le attempts).trans (Nat.le_add_right _ _))

theorem RetryPolicy.waitSeconds_le_maximumDelay (attempts : Nat) :
    policy.waitSeconds claimId attempts ≤ policy.maximumDelaySeconds :=
  Nat.min_le_left _ _

/-- The jitter never more than doubles the delay it is added to. -/
theorem RetryPolicy.waitSeconds_le_double (attempts : Nat) :
    policy.waitSeconds claimId attempts ≤ policy.baseDelaySeconds * 2 ^ (attempts - 1) * 2 := by
  have hbase := policy.baseDelay_le attempts
  have hpositive := policy.delayValid.1
  simp only [waitSeconds]
  generalize policy.baseDelaySeconds * 2 ^ (attempts - 1) = doubled at hbase ⊢
  have hjitter : claimId.toNat % max 1 (min (min policy.maximumDelaySeconds doubled) 17) <
      max 1 (min (min policy.maximumDelaySeconds doubled) 17) :=
    Nat.mod_lt _ (by omega)
  omega

/-- The next attempt's delay already reaches twice this one's, so jitter cannot make a later
wait the shorter one. -/
theorem RetryPolicy.waitSeconds_mono {earlier later : Nat} (hearlier : 1 ≤ earlier)
    (hle : earlier ≤ later) :
    policy.waitSeconds claimId earlier ≤ policy.waitSeconds claimId later := by
  rcases Nat.eq_or_lt_of_le hle with rfl | hlt
  · exact le_rfl
  · have hdoubles : policy.baseDelaySeconds * 2 ^ (earlier - 1) * 2 ≤
        policy.baseDelaySeconds * 2 ^ (later - 1) := by
      rw [Nat.mul_assoc, ← Nat.pow_succ]
      exact Nat.mul_le_mul_left _ (Nat.pow_le_pow_right Nat.two_pos (by omega))
    have hwait := (policy.waitSeconds_le_double claimId earlier).trans hdoubles
    have hmaximum := policy.waitSeconds_le_maximumDelay claimId earlier
    exact le_min hmaximum ((le_min hmaximum hwait).trans (Nat.le_add_right _ _))

/-- The delay of a retry lies between the base and the maximum, and it does not shrink from
one attempt to a later one. -/
theorem RetryPolicy.delay_bounded_and_monotone (now : Int) :
    (∀ attempts, 1 ≤ attempts →
      seconds policy.baseDelaySeconds ≤ policy.nextAttemptAt claimId attempts now - now ∧
        policy.nextAttemptAt claimId attempts now - now ≤ seconds policy.maximumDelaySeconds) ∧
    ∀ earlier later, 1 ≤ earlier → earlier ≤ later →
      policy.nextAttemptAt claimId earlier now - now ≤
        policy.nextAttemptAt claimId later now - now := by
  have hseconds : ∀ {shorter longer : Nat}, shorter ≤ longer →
      seconds (shorter : Int) ≤ seconds (longer : Int) := by
    intro shorter longer hle
    unfold seconds
    omega
  refine ⟨?_, ?_⟩
  · intro attempts _
    rw [policy.nextAttemptAt_sub]
    exact ⟨hseconds (policy.baseDelay_le_waitSeconds claimId attempts),
      hseconds (policy.waitSeconds_le_maximumDelay claimId attempts)⟩
  · intro earlier later hearlier hle
    rw [policy.nextAttemptAt_sub, policy.nextAttemptAt_sub]
    exact hseconds (policy.waitSeconds_mono claimId hearlier hle)

end Waiting

theorem RetryPolicy.standard_attempts : 1 ≤ 6 ∧ 6 ≤ 20 := by decide

theorem RetryPolicy.standard_bounds : 1 ≤ 5 ∧ 5 ≤ 900 := by decide

/-- The policy of a worker that is given none. -/
def RetryPolicy.standard : RetryPolicy where
  maxAttempts := 6
  baseDelaySeconds := 5
  maximumDelaySeconds := 900
  maxAttemptsValid := standard_attempts
  delayValid := standard_bounds

theorem RetryPolicy.standard_delay :
    seconds 5 ≤ standard.nextAttemptAt 19 1 0 - 0 ∧
      standard.nextAttemptAt 19 1 0 - 0 ≤ standard.nextAttemptAt 19 3 0 - 0 :=
  ⟨((standard.delay_bounded_and_monotone 19 0).1 1 (by decide)).1,
    (standard.delay_bounded_and_monotone 19 0).2 1 3 (by decide) (by decide)⟩

/-! ## The text of a notification -/

/-- `_identifier` -/
def identifier (payload : Payload) (key : String) : Except NotificationDeliveryError Text :=
  match payload.lookup key with
  | some (.text value) =>
      if value = [] ∨ 100 < value.length then
        throw { code := "delivery.invalid_payload", retryable := false }
      else pure value
  | some .null | some (.int _) | none => throw { code := "delivery.invalid_payload", retryable := false }

/-- `_choice` -/
def choice (payload : Payload) (key : String) (choices : List Text) : Text :=
  match payload.lookup key with
  | some (.text value) => if value ∈ choices then value else "normal".toList
  | some .null | some (.int _) | none => "normal".toList

/-- The priorities a notification can state. -/
def statedPriorities : List Text :=
  ["low".toList, "normal".toList, "high".toList, "urgent".toList]

/-- `_render` -/
def render (claim : DeliveryClaim) : Except NotificationDeliveryError Text :=
  if claim.eventType = "lead.qualified" then do
    let leadId ← identifier claim.payload "lead_id"
    let priority := choice claim.payload "priority" statedPriorities
    pure ("A lead has qualified. ".toList ++ "Lead ID: ".toList ++ leadId ++ ". ".toList ++
      "Priority: ".toList ++ priority ++ ".".toList)
  else if claim.eventType = "handoff.queued" then do
    let handoffId ← identifier claim.payload "handoff_id"
    let priority := choice claim.payload "priority" statedPriorities
    pure ("A staff handoff is queued. ".toList ++ "Case ID: ".toList ++ handoffId ++
      ". ".toList ++ "Priority: ".toList ++ priority ++ ".".toList)
  else if claim.eventType ∈ ["booking.confirmed", "booking.cancelled", "booking.rescheduled"]
      then do
    let reference ← identifier claim.payload "public_reference"
    let start ← identifier claim.payload "start_at"
    pure ("An appointment was ".toList ++ claim.eventType.toList.drop "booking.".length ++
      ". ".toList ++ "Reference: ".toList ++ reference ++ ". ".toList ++ "Start: ".toList ++
      start ++ ".".toList)
  else throw { code := "delivery.unsupported_event", retryable := false }

/-! ## After the gateway -/

/-- How the gateway's `send` ended. -/
inductive GatewayResult
  | delivered
  | failed (error : NotificationDeliveryError)
  | unexpected
  deriving DecidableEq

/-- The store call that finishes a claim. -/
inductive FinishingCall
  | markDelivered (time : Int)
  | retryDelivery (time : Int) (errorCode : String)
  | deadLetter (time : Int) (errorCode : String)
  deriving DecidableEq

/-- The call `deliver_notifications` makes for a claim, by how its send ended. `now` is
the time the whole batch was claimed at. -/
def finishingCall (policy : RetryPolicy) (claim : DeliveryClaim) (now : Int) :
    GatewayResult → FinishingCall
  | .delivered => .markDelivered now
  | .failed error =>
      if error.retryable = true ∧ claim.attempts < policy.maxAttempts then
        .retryDelivery (policy.nextAttemptAt claim.id claim.attempts now) error.code
      else .deadLetter now error.code
  | .unexpected =>
      if claim.attempts < policy.maxAttempts then
        .retryDelivery (policy.nextAttemptAt claim.id claim.attempts now) "delivery.unexpected"
      else .deadLetter now "delivery.unexpected"

end BusinessAssistant.Application
