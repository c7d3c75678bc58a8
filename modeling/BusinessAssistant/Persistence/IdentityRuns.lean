/-
# Runs of resolves and anonymizations

Two resolves that are open at once have read different identities, so what one of them has
found or not found stays so until it commits. In every run a user has one identity, an
identity has one live conversation, and what a resolve returns belongs together.
-/

import BusinessAssistant.Persistence.IdentityResolution

namespace BusinessAssistant.Persistence

open BusinessAssistant.Domain BusinessAssistant.Application BusinessAssistant.Foundation

/-! ## The system -/

/-- Any number of resolves and anonymizations, over tables that are sound and silent. -/
def identities : System IdentityState IdentityStep where
  init s := s.db.Sound ∧ s.db.Silent ∧ ∀ transaction, s.transactions transaction = none
  step s label s' := s.Allows label ∧ s' = s.next label

/-- The results of the committed resolves are kept. -/
def recordedIdentities : System (IdentityState × ResolveResults) IdentityStep :=
  identities.noting [] fun s step results => s.results step ++ results

/-! ## Open resolves -/

namespace Resolution

theorem SameUser.symm {first second : ResolveRequest} (h : SameUser first second) :
    SameUser second first :=
  ⟨h.1.symm, h.2.symm⟩

variable {request : ResolveRequest} {db : IdentityDatabase} {identity : ChannelIdentityRow}
  {origin : IdentityOrigin}

/-- A resolve that has no identity yet goes by nothing. -/
theorem grounded_of_identity?_eq_none {resolution : Resolution}
    (hnone : resolution.identity? = none) : resolution.Grounded db where
  stems identity origin hidentity := by
    rw [hnone] at hidentity
    cases hidentity
  clear identity hopens := by
    have hhas : resolution.identity? = some (identity, .found) := hopens.has
    rw [hnone] at hhas
    cases hhas
  chosen identity origin conversation hphase := by
    rw [identity?, hphase] at hnone
    cases hnone
  drafted identity origin conversation hphase := by
    rw [identity?, hphase] at hnone
    cases hnone

theorem grounded_identified (hstems : Stems db request identity origin) :
    Grounded ⟨request, .identified identity origin⟩ db where
  stems identity' origin' hidentity := by
    cases hidentity
    exact hstems
  clear identity' hopens := by
    rcases hopens with hphase | ⟨conversation, hphase⟩
    · cases hphase
    · cases hphase
  chosen identity' origin' conversation hphase := by cases hphase
  drafted identity' origin' conversation hphase := by cases hphase

/-- A conversation has been looked for among those there are. -/
theorem Grounded.select (h : Grounded ⟨request, .identified identity origin⟩ db)
    {conversation : Option TelegramConversationRow}
    (hselects : db.Selects request.tenantId identity.id conversation) :
    Grounded ⟨request, .selected identity origin conversation⟩ db where
  stems identity' origin' hidentity := by
    cases hidentity
    exact h.stems identity origin rfl
  clear identity' hopens := by
    rcases hopens with hphase | ⟨conversation, hphase⟩
    · cases hphase
      exact hselects
    · cases hphase
  chosen identity' origin' conversation' hphase := by
    cases hphase
    obtain ⟨hrow, hlive⟩ := List.mem_filter.mp hselects.1
    obtain ⟨htenant, hidentity, _⟩ := of_decide_eq_true hlive
    exact ⟨conversation', hrow, rfl, htenant, hidentity⟩
  drafted identity' origin' conversation' hphase := by cases hphase

/-- A conversation is inserted where none was found. -/
theorem Grounded.insert (h : Grounded ⟨request, .selected identity origin none⟩ db)
    (id : ConversationId) (created : Int) :
    Grounded ⟨request, .inserted identity origin (newConversation request identity id created)⟩
      db where
  stems identity' origin' hidentity := by
    cases hidentity
    exact h.stems identity origin rfl
  clear identity' hopens := by
    rcases hopens with hphase | ⟨conversation, hphase⟩
    · cases hphase
    · cases hphase
      exact h.clear identity (.inl rfl)
  chosen identity' origin' conversation hphase := by cases hphase
  drafted identity' origin' conversation hphase := by
    cases hphase
    exact ⟨id, created, rfl⟩

end Resolution

/-! ## The invariant -/

/-- An open resolve. -/
def IdentityState.Runs (s : IdentityState) (transaction : ℕ) (resolution : Resolution) : Prop :=
  s.transactions transaction = some (.resolve resolution)

/-- The tables are sound, no two open resolves have one user or have read one identity, and
what they have read holds. -/
structure Resolving (s : IdentityState) : Prop where
  sound : s.db.Sound
  locks : ∀ first second one two, s.Runs first one → s.Runs second two → first ≠ second →
    ¬ Resolution.SameUser one.request two.request
  apart : ∀ first second one two mine other, s.Runs first one → s.Runs second two →
    first ≠ second → one.Has mine → two.Has other → mine.id ≠ other.id
  grounded : ∀ transaction resolution, s.Runs transaction resolution → resolution.Grounded s.db

/-- Whose transaction is open after one of them has gone on. -/
theorem IdentityState.transactions_put {s : IdentityState} {transaction other : ℕ}
    {next : Option IdentityTransaction} {current : IdentityTransaction}
    (h : (s.put transaction next).transactions other = some current) :
    other = transaction ∧ next = some current ∨
      other ≠ transaction ∧ s.transactions other = some current := by
  simp only [IdentityState.put, Function.update_apply] at h
  split at h
  · next hsame => exact .inl ⟨hsame, h⟩
  · next hother => exact .inr ⟨hother, h⟩

namespace Resolving

variable {s : IdentityState}

/-- A resolve goes on. -/
theorem put (h : Resolving s) {transaction : ℕ} {new : Resolution}
    (hlocks : ∀ other resolution, other ≠ transaction → s.Runs other resolution →
      ¬ Resolution.SameUser resolution.request new.request)
    (hapart : ∀ other resolution identity mine, other ≠ transaction → s.Runs other resolution →
      resolution.Has identity → new.Has mine → identity.id ≠ mine.id)
    (hgrounded : new.Grounded s.db) : Resolving (s.put transaction (some (.resolve new))) where
  sound := h.sound
  locks first second one two hone htwo hne hsame := by
    rcases IdentityState.transactions_put hone with ⟨hfirst, hnew⟩ | ⟨hfirst, hold⟩
    · cases hnew
      rcases IdentityState.transactions_put htwo with ⟨hsecond, _⟩ | ⟨hsecond, hold'⟩
      · exact hne (hfirst.trans hsecond.symm)
      · exact hlocks second two hsecond hold' hsame.symm
    · rcases IdentityState.transactions_put htwo with ⟨_, hnew⟩ | ⟨_, hold'⟩
      · cases hnew
        exact hlocks first one hfirst hold hsame
      · exact h.locks first second one two hold hold' hne hsame
  apart first second one two mine other hone htwo hne hmine hother hsame := by
    rcases IdentityState.transactions_put hone with ⟨hfirst, hnew⟩ | ⟨hfirst, hold⟩
    · cases hnew
      rcases IdentityState.transactions_put htwo with ⟨hsecond, _⟩ | ⟨hsecond, hold'⟩
      · exact hne (hfirst.trans hsecond.symm)
      · exact hapart second two other mine hsecond hold' hother hmine hsame.symm
    · rcases IdentityState.transactions_put htwo with ⟨_, hnew⟩ | ⟨_, hold'⟩
      · cases hnew
        exact hapart first one mine other hfirst hold hmine hother hsame
      · exact h.apart first second one two mine other hold hold' hne hmine hother hsame
  grounded other resolution hruns := by
    rcases IdentityState.transactions_put hruns with ⟨_, hnew⟩ | ⟨_, hold⟩
    · cases hnew
      exact hgrounded
    · exact h.grounded other resolution hold

/-- A resolve goes on with the request it has. -/
theorem advance (h : Resolving s) {transaction : ℕ} {current new : Resolution}
    (hcurrent : s.Runs transaction current) (hrequest : new.request = current.request)
    (hapart : ∀ other resolution identity mine, other ≠ transaction → s.Runs other resolution →
      resolution.Has identity → new.Has mine → identity.id ≠ mine.id)
    (hgrounded : new.Grounded s.db) : Resolving (s.put transaction (some (.resolve new))) := by
  apply h.put _ hapart hgrounded
  intro other resolution hother hruns
  rw [hrequest]
  exact h.locks other transaction resolution current hruns hcurrent hother

/-- A resolve goes on with the identity it has. -/
theorem proceed (h : Resolving s) {transaction : ℕ} {current new : Resolution}
    (hcurrent : s.Runs transaction current) (hrequest : new.request = current.request)
    (hidentity : new.identity? = current.identity?) (hgrounded : new.Grounded s.db) :
    Resolving (s.put transaction (some (.resolve new))) := by
  apply h.advance hcurrent hrequest _ hgrounded
  intro other resolution identity mine hother hruns hhas hmine
  have hcurrentHas : current.Has mine := hidentity.symm.trans hmine
  exact h.apart other transaction resolution current identity mine hruns hcurrent hother hhas
    hcurrentHas

/-- A transaction that is not, or no longer, a resolve. -/
theorem leave (h : Resolving s) {transaction : ℕ} {next : Option IdentityTransaction}
    (hnext : ∀ resolution, next ≠ some (.resolve resolution)) :
    Resolving (s.put transaction next) := by
  have hold : ∀ {other resolution}, (s.put transaction next).Runs other resolution →
      s.Runs other resolution := by
    intro other resolution hruns
    rcases IdentityState.transactions_put hruns with ⟨_, hnew⟩ | ⟨_, hold⟩
    · exact absurd hnew (hnext resolution)
    · exact hold
  constructor
  case sound => exact h.sound
  case locks =>
    intro first second one two hone htwo
    exact h.locks first second one two (hold hone) (hold htwo)
  case apart =>
    intro first second one two mine other hone htwo
    exact h.apart first second one two mine other (hold hone) (hold htwo)
  case grounded =>
    intro other resolution hruns
    exact h.grounded other resolution (hold hruns)

theorem drop (h : Resolving s) (transaction : ℕ) : Resolving (s.put transaction none) := by
  apply h.leave
  intro resolution
  exact nofun

/-- What is committed leaves the resolves what they have read. -/
theorem write (h : Resolving s) {db' : IdentityDatabase} (hsound : db'.Sound)
    (hgrows : s.db.Grows db')
    (hclear : ∀ transaction resolution identity, s.Runs transaction resolution →
      resolution.Opens identity → db'.live resolution.request.tenantId identity.id = []) :
    Resolving { s with db := db' } where
  sound := hsound
  locks := h.locks
  apart := h.apart
  grounded transaction resolution hruns :=
    (h.grounded transaction resolution hruns).grows hgrows fun identity hopens =>
      hclear transaction resolution identity hruns hopens

/-- A resolve that reads its identity reads none that another has read: only its own user has
it, unless it is anonymized, and then it has no user. -/
theorem identify (h : Resolving s) {transaction : ℕ} {request : ResolveRequest}
    (hcurrent : s.Runs transaction ⟨request, .admitted⟩) {identity : ChannelIdentityRow}
    (hfound : s.db.identity? request.tenantId request.externalUserId = some identity) :
    Resolving (s.put transaction (some (.resolve ⟨request, .identified identity .found⟩))) := by
  rw [IdentityDatabase.identity?] at hfound
  have hrow : identity ∈ s.db.channelIdentities := List.mem_of_find?_eq_some hfound
  have hmatch := List.find?_some hfound
  obtain ⟨htenant, huser⟩ := of_decide_eq_true hmatch
  apply h.advance hcurrent
  case hrequest => rfl
  case hapart =>
    intro other resolution mine mine' hother hruns hhas hmine hsame
    cases hmine
    obtain ⟨row, hmem, hid, hrowTenant, _, hrowUser⟩ :=
      (h.grounded other resolution hruns).stems mine .found hhas
    have heq : row = identity :=
      Table.eq_of_key_eq h.sound.constraints.identities hmem hrow (hid.trans hsame)
    rw [heq, huser] at hrowUser
    rcases hrowUser with hboth | hgone
    · apply h.locks other transaction resolution _ hruns hcurrent hother
      exact ⟨by rw [← hrowTenant, heq, htenant], hboth.symm⟩
    · exact externalUserId_ne_anonymizedUser request identity.id hgone
  case hgrounded =>
    apply Resolution.grounded_identified
    exact ⟨identity, hrow, rfl, htenant, rfl, .inl huser⟩

/-- A resolve that adds its identity. -/
theorem enrol (h : Resolving s) {transaction : ℕ} {request : ResolveRequest}
    (hcurrent : s.Runs transaction ⟨request, .admitted⟩) (customerId : CustomerId)
    (identityId : UUID) :
    Resolving (s.put transaction (some (.resolve
      ⟨request, .identified (newIdentity request customerId identityId)
        (.created (newCustomer request customerId))⟩))) := by
  apply h.advance hcurrent
  case hrequest => rfl
  case hapart =>
    intro other resolution mine mine' _ _ _ hmine
    cases hmine
  case hgrounded =>
    apply Resolution.grounded_identified
    exact ⟨customerId, identityId, rfl, rfl⟩

/-- A resolve commits. -/
theorem settle (h : Resolving s) {transaction : ℕ} {resolution : Resolution}
    (hcurrent : s.Runs transaction resolution) {db' : IdentityDatabase}
    (hleaves : resolution.Leaves s.db db') :
    Resolving { s.put transaction none with db := db' } := by
  have hleft := h.drop transaction
  apply hleft.write hleaves.sound hleaves.grows
  intro other held identity hruns hopens
  rcases IdentityState.transactions_put hruns with ⟨_, hnew⟩ | ⟨hother, hold⟩
  · cases hnew
  have hgrounded := h.grounded other held hold
  apply hleaves.live
  · exact hgrounded.clear identity hopens
  · intro mine origin hmine hsame
    cases origin with
    | found =>
        exact h.apart transaction other resolution held mine identity hcurrent hold (Ne.symm hother)
          hmine hopens.has hsame
    | created customer =>
        -- The tables have the other's identity already.
        obtain ⟨row, hrow, hid, _⟩ := hgrounded.stems identity .found hopens.has
        exact hleaves.fresh mine customer hmine row hrow (hid.trans hsame.symm)

/-- An anonymization commits. -/
theorem anonymize (h : Resolving s) (transaction : ℕ) {tenantId : TenantId}
    {customerId : CustomerId} (hconstraints : (s.db.anonymized tenantId customerId).Constraints) :
    Resolving { s.put transaction none with db := s.db.anonymized tenantId customerId } := by
  have hleft := h.drop transaction
  apply hleft.write (h.sound.anonymized hconstraints)
  case hgrows => exact IdentityDatabase.grows_anonymized tenantId customerId
  case hclear =>
    intro other held identity hruns hopens
    have hnone := (hleft.grounded other held hruns).clear identity hopens
    have hlength := @IdentityDatabase.length_live_anonymized s.db tenantId customerId
      held.request.tenantId identity.id
    apply List.eq_nil_of_length_eq_zero
    apply Nat.le_zero.mp
    exact Nat.le_trans hlength (Nat.le_of_eq (congrArg List.length hnone))

/-- Every step keeps the resolves together. -/
theorem next (h : Resolving s) {step : IdentityStep} (hallows : s.Allows step) :
    Resolving (s.next step) := by
  cases step with
  | lock transaction request =>
      apply h.put
      case hlocks =>
        intro other resolution _ hruns
        exact hallows.2 other resolution hruns
      case hapart =>
        intro other resolution identity mine _ _ _ hmine
        cases hmine
      case hgrounded => exact Resolution.grounded_of_identity?_eq_none rfl
  | checkTenant transaction =>
      obtain ⟨request, hcurrent, _⟩ := hallows
      simp only [IdentityState.next, hcurrent]
      apply h.proceed hcurrent
      case hrequest => rfl
      case hidentity => rfl
      case hgrounded => exact Resolution.grounded_of_identity?_eq_none rfl
  | identify transaction customerId identityId =>
      obtain ⟨request, hcurrent⟩ := hallows
      simp only [IdentityState.next, hcurrent]
      cases hfound : s.db.identity? request.tenantId request.externalUserId with
      | none => exact h.enrol hcurrent customerId identityId
      | some identity => exact h.identify hcurrent hfound
  | select transaction conversation =>
      obtain ⟨request, identity, origin, hcurrent, hselects⟩ := hallows
      simp only [IdentityState.next, hcurrent]
      apply h.proceed hcurrent
      case hrequest => rfl
      case hidentity => rfl
      case hgrounded => exact (h.grounded transaction _ hcurrent).select hselects
  | insert transaction id created =>
      obtain ⟨request, identity, origin, hcurrent, _⟩ := hallows
      simp only [IdentityState.next, hcurrent]
      apply h.proceed hcurrent
      case hrequest => rfl
      case hidentity => rfl
      case hgrounded => exact (h.grounded transaction _ hcurrent).insert id created
  | anonymize transaction tenantId customerId => exact h.leave fun _ => nofun
  | commit transaction =>
      obtain ⟨current, db', hcurrent, hcommit, hconstraints⟩ := hallows
      simp only [IdentityState.next, hcurrent, Option.bind_some, hcommit, Option.getD_some]
      cases current with
      | resolve resolution =>
          exact h.settle hcurrent (Resolution.leaves_of_commit h.sound
            (h.grounded transaction resolution hcurrent) hcommit hconstraints)
      | anonymize tenantId customerId =>
          cases hcommit
          exact h.anonymize transaction hconstraints
  | abort transaction => exact h.drop transaction

end Resolving

/-! ## What the resolves return -/

/-- The tables grow with every step. -/
theorem Resolving.grows_next {s : IdentityState} (h : Resolving s) {step : IdentityStep}
    (hallows : s.Allows step) : s.db.Grows (s.next step).db := by
  have hrefl : s.db.Grows s.db :=
    ⟨fun row hrow => ⟨row, hrow, rfl, rfl, rfl, .inl rfl⟩,
      fun row hrow => ⟨row, hrow, rfl, rfl, rfl, rfl⟩⟩
  cases step with
  | lock transaction request => exact hrefl
  | checkTenant transaction =>
      obtain ⟨request, hcurrent, _⟩ := hallows
      simp only [IdentityState.next, hcurrent]
      exact hrefl
  | identify transaction customerId identityId =>
      obtain ⟨request, hcurrent⟩ := hallows
      simp only [IdentityState.next, hcurrent]
      cases s.db.identity? request.tenantId request.externalUserId with
      | none => exact hrefl
      | some identity => exact hrefl
  | select transaction conversation =>
      obtain ⟨request, identity, origin, hcurrent, _⟩ := hallows
      simp only [IdentityState.next, hcurrent]
      exact hrefl
  | insert transaction id created =>
      obtain ⟨request, identity, origin, hcurrent, _⟩ := hallows
      simp only [IdentityState.next, hcurrent]
      exact hrefl
  | anonymize transaction tenantId customerId => exact hrefl
  | commit transaction =>
      obtain ⟨current, db', hcurrent, hcommit, hconstraints⟩ := hallows
      simp only [IdentityState.next, hcurrent, Option.bind_some, hcommit, Option.getD_some]
      cases current with
      | resolve resolution =>
          exact (Resolution.leaves_of_commit h.sound (h.grounded transaction resolution hcurrent)
            hcommit hconstraints).grows
      | anonymize tenantId customerId =>
          cases hcommit
          exact IdentityDatabase.grows_anonymized tenantId customerId
  | abort transaction => exact hrefl

/-- What a step returns belongs together. -/
theorem Resolving.resolved_results {s : IdentityState} (h : Resolving s) {step : IdentityStep}
    (hallows : s.Allows step) : ∀ entry ∈ s.results step,
      Resolved (s.next step).db entry.1 entry.2 := by
  intro entry hentry
  cases step with
  | commit transaction =>
      obtain ⟨current, db', hcurrent, hcommit, hconstraints⟩ := hallows
      cases current with
      | resolve resolution =>
          obtain ⟨result, hresult, hresolved⟩ := (Resolution.leaves_of_commit h.sound
            (h.grounded transaction resolution hcurrent) hcommit hconstraints).result
          simp only [IdentityState.results, hcurrent, hresult, Option.map_some, Option.toList_some,
            List.mem_singleton] at hentry
          simp only [IdentityState.next, hcurrent, Option.bind_some, hcommit, Option.getD_some]
          rw [hentry]
          exact hresolved
      | anonymize tenantId customerId =>
          simp only [IdentityState.results, hcurrent] at hentry
          cases hentry
  | lock transaction request => cases hentry
  | checkTenant transaction => cases hentry
  | identify transaction customerId identityId => cases hentry
  | select transaction conversation => cases hentry
  | insert transaction id created => cases hentry
  | anonymize transaction tenantId customerId => cases hentry
  | abort transaction => cases hentry

theorem resolving_of_init {s : IdentityState} (hinit : identities.init s) : Resolving s := by
  have hidle : ∀ transaction resolution, ¬ s.Runs transaction resolution := by
    intro transaction resolution hruns
    rw [IdentityState.Runs, hinit.2.2 transaction] at hruns
    cases hruns
  constructor
  case sound => exact hinit.1
  case locks => exact fun first _ one _ hone => absurd hone (hidle first one)
  case apart => exact fun first _ one _ _ _ hone => absurd hone (hidle first one)
  case grounded => exact fun transaction resolution hruns => absurd hruns (hidle transaction resolution)

/-- In every run what has been returned belongs together. -/
theorem resolving_of_reachable {s : IdentityState} {results : ResolveResults}
    (hs : recordedIdentities.Reachable (s, results)) :
    Resolving s ∧ ∀ entry ∈ results, Resolved s.db entry.1 entry.2 := by
  apply System.Reachable.invariant (S := recordedIdentities)
    (I := fun p => Resolving p.1 ∧ ∀ entry ∈ p.2, Resolved p.1.db entry.1 entry.2) _ _ hs
  · rintro ⟨s, results⟩ ⟨hinit, hnone⟩
    cases hnone
    exact ⟨resolving_of_init hinit, fun _ => nofun⟩
  · rintro ⟨s, results⟩ step ⟨s', results'⟩ _ ⟨h, hresults⟩ ⟨⟨hallows, hnext⟩, hnote⟩
    cases hnext
    cases hnote
    refine ⟨h.next hallows, ?_⟩
    intro entry hentry
    rcases List.mem_append.mp hentry with hnew | hold
    · exact h.resolved_results hallows entry hnew
    · exact (hresults entry hold).grows (h.grows_next hallows)

/-- In every run a user has one identity, an identity one live conversation, and what is
returned belongs together. -/
theorem identities_in_every_run {s : IdentityState} {results : ResolveResults}
    (hs : recordedIdentities.Reachable (s, results)) :
    (s.db.channelIdentities.map fun row => (row.tenantId, row.externalUserId)).Nodup ∧
      (∀ tenantId identityId, (s.db.live tenantId identityId).length ≤ 1) ∧
        ∀ entry ∈ results, Resolved s.db entry.1 entry.2 := by
  obtain ⟨hresolving, hresults⟩ := resolving_of_reachable hs
  exact ⟨hresolving.sound.constraints.users, hresolving.sound.single, hresults⟩

end BusinessAssistant.Persistence
