/-
# Expiry that an operation observes

Six operations mark what they find run out as expired and then return nothing or raise.
A transaction that raises is rolled back, so the mark is stored only where the operation
returns.
-/

import BusinessAssistant.Persistence.Coherence

namespace BusinessAssistant.Persistence

open BusinessAssistant.Domain BusinessAssistant.Application BusinessAssistant.Foundation

/-! ## Statement -/

/-- A row that is still active after its time is over. -/
inductive RunOut
  | draft (row : BookingDraftRow)
  | hold (row : SlotHoldRow)
  deriving DecidableEq

/-- The draft of a customer with an id, where it is still active. -/
def Database.activeDraft? (db : Database) (tenantId : TenantId) (customerId : CustomerId)
    (draftId : BookingDraftId) : Option BookingDraftRow :=
  (db.bookingDrafts.find? fun row =>
    row.tenantId = tenantId ∧ row.customerId = customerId ∧ row.id = draftId).filter
      fun row => row.status = .active

/-- The draft an operation names or its hold, where it is found to have run out. `confirm`
looks at the hold once the draft is found to be good. -/
def Request.runOut? (db : Database) (now : Int) (tenantId : TenantId) (customerId : CustomerId) :
    Request → Option RunOut
  | .getActiveDraft conversationId =>
      ((BookingStore.latestDraft? db tenantId customerId conversationId).filter
        fun row => row.expiresAt ≤ now).map .draft
  | .getHold draftId =>
      ((db.slotHolds.find? fun row => row.tenantId = tenantId ∧ row.customerId = customerId ∧
        row.draftId = draftId ∧ row.status = .active).filter fun row => row.expiresAt ≤ now).map
          .hold
  | .selectDate draftId _ | .createHold draftId _ _ | .updateContact draftId _ _ _ =>
      ((db.activeDraft? tenantId customerId draftId).filter fun row => row.expiresAt ≤ now).map
        .draft
  | .confirm draftId _ =>
      match db.activeDraft? tenantId customerId draftId with
      | none => none
      | some draft =>
          if draft.expiresAt ≤ now then some (.draft draft)
          else ((db.slotHolds.find? fun row => row.tenantId = tenantId ∧
            row.customerId = customerId ∧ draft.holdId = some row.id).filter fun row =>
              row.status = .active ∧ row.expiresAt ≤ now).map .hold
  | _ => none

/-- The operation returns nothing, or raises `BookingExpiredError`. -/
def EndsExpired (outcome : Except Failure Response) : Prop :=
  outcome = .ok (.activeDraft none) ∨ outcome = .ok (.currentHold none) ∨
    outcome = .error .bookingExpired

/-- What has run out is stored as expired, a draft together with its active holds, and
nothing else of the drafts, holds and bookings has changed. -/
def RunOut.RecordedIn (db db' : Database) : RunOut → Prop
  | .draft row =>
      db'.bookingDrafts = Table.update (fun other => other.id = row.id)
        (fun other => { other with status := .expired }) db.bookingDrafts ∧
      db'.slotHolds = Table.update (fun hold => hold.draftId = row.id ∧ hold.status = .active)
        (fun hold => { hold with status := .expired }) db.slotHolds ∧
      db'.bookings = db.bookings
  | .hold row =>
      db'.bookingDrafts = db.bookingDrafts ∧
      db'.slotHolds = Table.update (fun other => other.id = row.id)
        (fun other => { other with status := .expired }) db.slotHolds ∧
      db'.bookings = db.bookings

/-- The operations that return `None` where they find something run out. -/
def Request.LooksUp : Request → Prop
  | .getActiveDraft _ | .getHold _ => True
  | _ => False

instance (request : Request) : Decidable request.LooksUp := by
  cases request <;> unfold Request.LooksUp <;> infer_instance

/-! ## What is found -/

section Proof

variable {cfg : Catalogue} {db : Database} {tenantId : TenantId} {customerId : CustomerId}
  {env : Environment} {request : Request}

theorem Database.mem_of_activeDraft? {draftId : BookingDraftId} {row : BookingDraftRow}
    (hfound : db.activeDraft? tenantId customerId draftId = some row) :
    row ∈ db.bookingDrafts ∧ row.status = .active := by
  obtain ⟨hfind, hactive⟩ := Option.filter_eq_some_iff.mp hfound
  exact ⟨List.mem_of_find?_eq_some hfind, of_decide_eq_true hactive⟩

/-- What is found to have run out is a stored row that is still active. -/
def RunOut.StoredActive (db : Database) : RunOut → Prop
  | .draft row => row ∈ db.bookingDrafts ∧ row.status = .active
  | .hold row => row ∈ db.slotHolds ∧ row.status = .active

theorem Request.storedActive_of_runOut? {now : Int} {found : RunOut}
    (hfound : request.runOut? db now tenantId customerId = some found) :
    found.StoredActive db := by
  have hdraft : ∀ draftId, ((db.activeDraft? tenantId customerId draftId).filter fun row =>
      row.expiresAt ≤ now).map RunOut.draft = some found → found.StoredActive db := by
    intro draftId hmap
    obtain ⟨row, hrow, rfl⟩ := Option.map_eq_some_iff.mp hmap
    exact Database.mem_of_activeDraft? (Option.filter_eq_some_iff.mp hrow).1
  cases request with
  | getActiveDraft conversationId =>
      obtain ⟨row, hrow, rfl⟩ := Option.map_eq_some_iff.mp hfound
      obtain ⟨hmem, _, hactive⟩ :=
        BookingStore.mem_of_latestDraft? (Option.filter_eq_some_iff.mp hrow).1
      exact ⟨hmem, hactive⟩
  | getHold draftId =>
      obtain ⟨row, hrow, rfl⟩ := Option.map_eq_some_iff.mp hfound
      obtain ⟨hmem, _, _, _, hactive⟩ := Table.of_find? (Option.filter_eq_some_iff.mp hrow).1
      exact ⟨hmem, hactive⟩
  | selectDate draftId selectedDate => exact hdraft draftId hfound
  | createHold draftId slotIndex key => exact hdraft draftId hfound
  | updateContact draftId name phone note => exact hdraft draftId hfound
  | confirm draftId key =>
      simp only [Request.runOut?] at hfound
      cases hactive : db.activeDraft? tenantId customerId draftId with
      | none =>
          rw [hactive] at hfound
          cases hfound
      | some draft =>
          rw [hactive] at hfound
          by_cases hexpired : draft.expiresAt ≤ now
          · simp only [if_pos hexpired] at hfound
            cases hfound
            exact Database.mem_of_activeDraft? hactive
          · simp only [if_neg hexpired] at hfound
            obtain ⟨row, hrow, rfl⟩ := Option.map_eq_some_iff.mp hfound
            obtain ⟨hfind, hactive⟩ := Option.filter_eq_some_iff.mp hrow
            exact ⟨List.mem_of_find?_eq_some hfind, (of_decide_eq_true hactive).1⟩
  | startDraft | cancelDraft | latestBooking | getBooking | cancelBooking | bookingHistory =>
      cases hfound

/-! ## What is stored -/

/-- Where nothing is written, nothing is recorded. -/
theorem RunOut.not_recordedIn_self {found : RunOut} (hcoherent : Coherent db)
    (hstored : found.StoredActive db) : ¬ found.RecordedIn db db := by
  cases found with
  | draft row =>
      rintro ⟨hdrafts, _⟩
      obtain ⟨hrow, hactive⟩ := hstored
      have hexpired : ({ row with status := .expired } : BookingDraftRow) ∈ db.bookingDrafts := by
        rw [hdrafts]
        exact Table.mem_update_of_selected hrow rfl
      have hsame := hcoherent.draft_eq hexpired hrow rfl
      rw [← hsame] at hactive
      cases hactive
  | hold row =>
      rintro ⟨_, hholds, _⟩
      obtain ⟨hrow, hactive⟩ := hstored
      have hexpired : ({ row with status := .expired } : SlotHoldRow) ∈ db.slotHolds := by
        rw [hholds]
        exact Table.mem_update_of_selected hrow rfl
      have hsame := hcoherent.hold_eq hexpired hrow rfl
      rw [← hsame] at hactive
      cases hactive

/-- The holds that `get_active_draft` expires are the active ones of the draft. -/
theorem RunOut.recordedIn_expireDraft {row : BookingDraftRow} (hcoherent : Coherent db)
    (hrow : row ∈ db.bookingDrafts) : (RunOut.draft row).RecordedIn db (db.expireDraft row) := by
  refine ⟨rfl, ?_, rfl⟩
  refine List.map_congr_left fun hold hhold => if_congr ?_ rfl rfl
  refine and_congr_left fun hactive => ⟨?_, ?_⟩
  · rintro ⟨_, hnamed⟩
    exact (hcoherent.takenOn_of_holdId hhold hrow hnamed).draftId
  · intro hdraft
    exact ⟨(hcoherent.takenOn hhold hrow hdraft).tenantId,
      (hcoherent.activeHold hold hhold row hrow hdraft hactive).2⟩

/-- The rows an invocation leaves whose transaction returns. -/
theorem Invocation.execute_of_run {α : Type} {call : Call} {wrap : α → Response}
    {transaction : Tx Database Failure α} {value : α} {db' : Database}
    (hcall : call.transaction cfg env = wrap <$> transaction)
    (hrun : transaction.run db = .ok (value, db')) :
    (Invocation.execute cfg ⟨call, env⟩ db).2 = db' := by
  have hcommit : (call.transaction cfg env).run db = .ok (wrap value, db') := by
    rw [hcall]
    exact Tx.run_map_eq_ok.mpr ⟨value, db', hrun, rfl⟩
  rw [Invocation.execute, Tx.commit_of_ok hcommit]

/-- A lookup that finds something run out records it. -/
theorem Request.recorded_of_looksUp {found : RunOut} (hcoherent : Coherent db)
    (hlooksUp : request.LooksUp)
    (hfound : request.runOut? db env.now tenantId customerId = some found) :
    found.RecordedIn db
      (Invocation.execute cfg ⟨.customer tenantId customerId request, env⟩ db).2 := by
  have hstored := Request.storedActive_of_runOut? hfound
  cases request with
  | getActiveDraft conversationId =>
      obtain ⟨row, hrow, rfl⟩ := Option.map_eq_some_iff.mp hfound
      obtain ⟨hlatest, hexpired⟩ := Option.filter_eq_some_iff.mp hrow
      have hrun : (BookingStore.getActiveDraft env tenantId customerId conversationId).run db =
          .ok (none, db.expireDraft row) := by
        rw [BookingStore.getActiveDraft, Tx.run_get_bind]
        simp only [hlatest, if_pos (of_decide_eq_true hexpired)]
        rfl
      rw [Invocation.execute_of_run rfl hrun]
      exact RunOut.recordedIn_expireDraft hcoherent hstored.1
  | getHold draftId =>
      obtain ⟨row, hrow, rfl⟩ := Option.map_eq_some_iff.mp hfound
      obtain ⟨hactive, hexpired⟩ := Option.filter_eq_some_iff.mp hrow
      have hrun : (BookingStore.getHold env tenantId customerId draftId).run db =
          .ok (none, db.updateHold row.id fun row => { row with status := .expired }) := by
        rw [BookingStore.getHold, Tx.run_get_bind]
        simp only [hactive, if_pos (of_decide_eq_true hexpired)]
        rfl
      rw [Invocation.execute_of_run rfl hrun]
      exact ⟨rfl, rfl, rfl⟩
  | _ => cases hlooksUp

/-- The other operations return something else than nothing. -/
theorem Request.raises_of_endsExpired {found : RunOut} (hlooksUp : ¬ request.LooksUp)
    (hfound : request.runOut? db env.now tenantId customerId = some found)
    (hends : EndsExpired (Invocation.execute cfg ⟨.customer tenantId customerId request, env⟩ db).1) :
    ∃ failure,
      (Invocation.execute cfg ⟨.customer tenantId customerId request, env⟩ db).1 =
        .error failure := by
  have hraises : ∀ response,
      (Invocation.execute cfg ⟨.customer tenantId customerId request, env⟩ db).1 = .ok response →
        response ≠ .activeDraft none ∧ response ≠ .currentHold none := by
    intro response hok
    have hrun := Invocation.execute_ok hok
    cases request with
    | getActiveDraft | getHold => exact absurd trivial hlooksUp
    | selectDate | createHold | updateContact | confirm =>
        obtain ⟨_, _, _, hpair⟩ := Tx.run_map_eq_ok.mp hrun
        cases hpair
        exact ⟨nofun, nofun⟩
    | startDraft | cancelDraft | latestBooking | getBooking | cancelBooking | bookingHistory =>
        cases hfound
  rcases hends with hnone | hnone | herror
  · exact absurd rfl (hraises _ hnone).1
  · exact absurd rfl (hraises _ hnone).2
  · exact ⟨_, herror⟩

/-- In every reachable state, what an operation finds run out and therefore returns nothing
or raises is stored as expired exactly where the operation returns: by `get_active_draft`
and `get_hold`, and never by `select_date`, `create_hold`, `update_contact` and `confirm`. -/
theorem observed_expiry_recorded_iff {s : State} (hs : (bookingSystem cfg).Reachable s)
    {found : RunOut} (hfound : request.runOut? s.db env.now tenantId customerId = some found)
    (hends : EndsExpired
      (Invocation.execute cfg ⟨.customer tenantId customerId request, env⟩ s.db).1) :
    found.RecordedIn s.db
        (Invocation.execute cfg ⟨.customer tenantId customerId request, env⟩ s.db).2 ↔
      request.LooksUp := by
  have hcoherent := coherent_of_reachable hs
  by_cases hlooksUp : request.LooksUp
  · exact iff_of_true (Request.recorded_of_looksUp hcoherent hlooksUp hfound) hlooksUp
  · obtain ⟨failure, hfailed⟩ := Request.raises_of_endsExpired hlooksUp hfound hends
    rw [Invocation.execute_of_error _ hfailed]
    exact iff_of_false
      (RunOut.not_recordedIn_self hcoherent (Request.storedActive_of_runOut? hfound)) hlooksUp

end Proof

/-! ## In the small shop -/

section Shop

open Shop

/-- A customer holds a slot and leaves contact details; the hold lasts five minutes. -/
def Shop.holdsSlot : List Invocation := (takesFirstSlot 0 1000 none 0 (time 0 8 0)).take 4

/-- The hold is looked up when it has run out. -/
theorem expired_hold_recorded_in_shop :
    ∃ hold ∈ (opened.after (catalogue 0 0) holdsSlot).db.slotHolds, hold.status = .active ∧
      (RunOut.hold hold).RecordedIn (opened.after (catalogue 0 0) holdsSlot).db
        (Invocation.execute (catalogue 0 0)
          (asks 0 (time 0 8 5) 0 (.getHold (BitVec.ofNat 128 1000)))
          (opened.after (catalogue 0 0) holdsSlot).db).2 := by
  have hreachable : (bookingSystem (catalogue 0 0)).Reachable
      (opened.after (catalogue 0 0) holdsSlot) :=
    reachable_after opened_fresh (by decide +kernel)
  have hholds : ∃ hold ∈ (opened.after (catalogue 0 0) holdsSlot).db.slotHolds,
      hold.status = .active ∧
        (Request.getHold (BitVec.ofNat 128 1000)).runOut?
          (opened.after (catalogue 0 0) holdsSlot).db (time 0 8 5) tenantId (customerId 0) =
            some (.hold hold) := by
    decide +kernel
  obtain ⟨hold, hhold, hactive, hfound⟩ := hholds
  refine ⟨hold, hhold, hactive, ?_⟩
  refine (observed_expiry_recorded_iff hreachable hfound ?_).mpr trivial
  have hends : (Invocation.execute (catalogue 0 0)
      (asks 0 (time 0 8 5) 0 (.getHold (BitVec.ofNat 128 1000)))
      (opened.after (catalogue 0 0) holdsSlot).db).1 = .ok (.currentHold none) := by
    decide +kernel
  exact .inr (.inl hends)

/-- A confirmation after the hold has run out raises, and the hold stays active. -/
theorem expired_hold_kept_by_confirm :
    ∃ s tenantId customerId request env found,
      (bookingSystem (catalogue 0 0)).Reachable s ∧
      request.runOut? s.db env.now tenantId customerId = some found ∧
      EndsExpired
        (Invocation.execute (catalogue 0 0) ⟨.customer tenantId customerId request, env⟩ s.db).1 ∧
      ¬ found.RecordedIn s.db
        (Invocation.execute (catalogue 0 0) ⟨.customer tenantId customerId request, env⟩
          s.db).2 := by
  have hreachable : (bookingSystem (catalogue 0 0)).Reachable
      (opened.after (catalogue 0 0) holdsSlot) :=
    reachable_after opened_fresh (by decide +kernel)
  let late : Environment := ⟨time 0 8 5, time 0 8 5, BitVec.ofNat 128 0⟩
  let confirms : Request :=
    .confirm (BitVec.ofNat 128 1000) (confirmKey (BitVec.ofNat 128 1000))
  have hholds : ∃ hold ∈ (opened.after (catalogue 0 0) holdsSlot).db.slotHolds,
      confirms.runOut? (opened.after (catalogue 0 0) holdsSlot).db late.now tenantId
        (customerId 0) = some (.hold hold) := by
    decide +kernel
  obtain ⟨hold, _, hfound⟩ := hholds
  have hraises : (Invocation.execute (catalogue 0 0)
      ⟨.customer tenantId (customerId 0) confirms, late⟩
      (opened.after (catalogue 0 0) holdsSlot).db).1 = .error .bookingExpired := by
    decide +kernel
  refine ⟨_, tenantId, customerId 0, confirms, late, _, hreachable, hfound, .inr (.inr hraises), ?_⟩
  rw [Invocation.execute_of_error _ hraises]
  exact RunOut.not_recordedIn_self (coherent_of_reachable hreachable)
    (Request.storedActive_of_runOut? hfound)

end Shop

end BusinessAssistant.Persistence
