/-
# What the slots of a date are

The starts on offer are exactly the admissible starts of some resource with
capacity left, in increasing order, each on the first resource that can take it.
-/

import BusinessAssistant.Application.EffectiveDays
import BusinessAssistant.Application.Offers
import BusinessAssistant.Foundation.FirstCome
import Mathlib.Tactic.Linarith

namespace BusinessAssistant.Application

open BusinessAssistant.Domain BusinessAssistant.Foundation.FirstCome

/-- Which readings an opening interval offers as starts. -/
abbrev Grid := TimeOfDay × TimeOfDay → Int → Prop

/-- A start that an interval of a resource's day admits, on a grid of readings. -/
structure StartsIn (grid : Grid) (context : AvailabilityContext) (localDate now : Int)
    (resource : AvailableResource) (interval : TimeOfDay × TimeOfDay) (start : Int) : Prop where
  onGrid : ∃ reading, grid interval reading ∧ resource.schedule.timezone.Denotes reading start
  notice : now + context.policy.minimumNotice ≤ start
  horizon : start ≤ now + context.policy.bookingHorizon
  sameDay : Wall.date (resource.schedule.timezone.astimezone
    (start + context.duration + context.cleanupBuffer)).naive = localDate
  closes : (resource.schedule.timezone.astimezone
    (start + context.duration + context.cleanupBuffer)).naive ≤ Wall.combine localDate interval.2

/-- A start that passes every test of a resource but that of its capacity. -/
structure Admissible (grid : Grid) (context : AvailabilityContext) (localDate now : Int)
    (resource : AvailableResource) (start : Int) : Prop where
  active : resource.active = true
  scheduleActive : resource.schedule.active = true
  opening : ∃ day, effectiveDay resource.schedule localDate = .ok day ∧
    ∃ interval ∈ day.intervals, StartsIn grid context localDate now resource interval start

/-- A start that a resource can take. -/
structure Eligible (grid : Grid) (context : AvailabilityContext) (localDate now : Int)
    (resource : AvailableResource) (start : Int) : Prop extends
    Admissible grid context localDate now resource start where
  capacity : usedCapacity resource.busyPeriods (context.occupied start) < resource.capacity

/-- Grids that agree on the intervals of a resource's day admit the same starts. -/
theorem Eligible.congr {grid grid' : Grid} {context : AvailabilityContext} {localDate now : Int}
    {resource : AvailableResource} {start : Int}
    (hgrids : ∀ day, effectiveDay resource.schedule localDate = .ok day →
      ∀ interval ∈ day.intervals, ∀ reading, grid interval reading → grid' interval reading)
    (h : Eligible grid context localDate now resource start) :
    Eligible grid' context localDate now resource start := by
  obtain ⟨day, hday, interval, hinterval, hstarts⟩ := h.opening
  obtain ⟨reading, hreading, hdenotes⟩ := hstarts.onGrid
  exact
    { active := h.active
      scheduleActive := h.scheduleActive
      opening := ⟨day, hday, interval, hinterval,
        { hstarts with
          onGrid := ⟨reading, hgrids day hday interval hinterval reading hreading, hdenotes⟩ }⟩
      capacity := h.capacity }

/-- The readings the `while` loop over an interval visits. -/
def visitedGrid (context : AvailabilityContext) (localDate : Int) : Grid :=
  fun interval reading =>
    let cursor := alignedStart localDate interval.1 (context.policy.slotInterval / 1000000)
    let closing := Wall.combine localDate interval.2
    reading ∈ cursors context.policy.slotInterval closing (closing - cursor).toNat cursor

/-- The readings in an interval that are a whole number of slot intervals after
midnight. -/
def alignedGrid (context : AvailabilityContext) (localDate : Int) : Grid :=
  fun interval reading =>
    Wall.combine localDate interval.1 ≤ reading ∧ reading < Wall.combine localDate interval.2 ∧
      context.policy.slotInterval ∣ reading - Wall.combine localDate 0

/-! ## The grid of one interval -/

/-- The loop visits every multiple of the interval after its start that precedes
the closing time, when its turns suffice. -/
theorem mem_cursors_iff {interval closing : Int} (hinterval : 0 < interval) {fuel : Nat}
    {start cursor : Int} (hfuel : closing - start ≤ fuel) :
    cursor ∈ cursors interval closing fuel start ↔
      cursor < closing ∧ ∃ turns : Nat, cursor = start + turns * interval := by
  induction fuel generalizing start with
  | zero =>
      simp only [cursors, List.not_mem_nil, false_iff]
      rintro ⟨hclosing, turns, rfl⟩
      have hturns : 0 ≤ turns * interval := Int.mul_nonneg (Int.natCast_nonneg _) hinterval.le
      omega
  | succ fuel ih =>
      rw [cursors]
      split
      · rename_i hstart
        rw [List.mem_cons, ih (by push_cast at hfuel; omega)]
        constructor
        · rintro (rfl | ⟨hclosing, turns, rfl⟩)
          · exact ⟨hstart, 0, by simp⟩
          · exact ⟨hclosing, turns + 1, by push_cast; ring⟩
        · rintro ⟨hclosing, turns, rfl⟩
          cases turns with
          | zero => exact .inl (by simp)
          | succ turns =>
              right
              exact ⟨hclosing, turns, by push_cast; ring⟩
      · rename_i hstart
        simp only [List.not_mem_nil, false_iff]
        rintro ⟨hclosing, turns, rfl⟩
        have hturns : 0 ≤ turns * interval := Int.mul_nonneg (Int.natCast_nonneg _) hinterval.le
        omega

/-- The aligned start is the least multiple of the interval at or after an
opening on a whole second. -/
theorem alignedStart_eq (localDate : Int) {opening : TimeOfDay} (hwhole : WholeSecond opening)
    {intervalSeconds : Int} (hpositive : 0 < intervalSeconds) :
    ∃ turns : Int,
      alignedStart localDate opening intervalSeconds =
        Wall.combine localDate 0 + turns * (intervalSeconds * 1000000) ∧
      (opening.val : Int) ≤ turns * (intervalSeconds * 1000000) ∧
      (turns - 1) * (intervalSeconds * 1000000) < opening.val := by
  obtain ⟨whole, hval⟩ := hwhole
  have hdivide : 1000000 * whole / 1000000 = whole := by omega
  have hsplit := Int.mul_ediv_add_emod whole intervalSeconds
  have hlow := Int.emod_nonneg whole hpositive.ne'
  have hhigh := Int.emod_lt_of_pos whole hpositive
  have hmidnight : Wall.combine localDate opening = Wall.combine localDate 0 + opening.val := by
    simp [Wall.combine]
  unfold alignedStart seconds
  simp only [hmidnight, hval, hdivide]
  by_cases hremainder : whole % intervalSeconds = 0
  · refine ⟨whole / intervalSeconds, ?_, ?_, ?_⟩
    · rw [if_neg (not_not.mpr hremainder)]
      linarith
    · linarith
    · linarith
  · refine ⟨whole / intervalSeconds + 1, ?_, ?_, ?_⟩
    · rw [if_pos hremainder]
      linarith
    · linarith
    · have hremains : 0 < whole % intervalSeconds := by omega
      linarith

/-- On whole seconds the loop over an interval visits the aligned readings. -/
theorem visitedGrid_iff {context : AvailabilityContext} {localDate : Int}
    (hwholeStep : (1000000 : Int) ∣ context.policy.slotInterval)
    {interval : TimeOfDay × TimeOfDay} (hwhole : WholeSecond interval.1) {reading : Int} :
    visitedGrid context localDate interval reading ↔
      alignedGrid context localDate interval reading := by
  have hstep := context.policy.slotIntervalPositive
  unfold visitedGrid alignedGrid
  generalize context.policy.slotInterval = slotInterval at hstep hwholeStep ⊢
  simp only
  rw [mem_cursors_iff hstep (Int.self_le_toNat _)]
  have hseconds : slotInterval / 1000000 * 1000000 = slotInterval :=
    Int.ediv_mul_cancel hwholeStep
  have hpositive : 0 < slotInterval / 1000000 := by omega
  obtain ⟨turns, haligned, hfrom, hleast⟩ := alignedStart_eq localDate hwhole hpositive
  rw [hseconds] at haligned hfrom hleast
  have hopening : Wall.combine localDate interval.1 =
      Wall.combine localDate 0 + interval.1.val := by
    simp [Wall.combine]
  rw [haligned]
  constructor
  · rintro ⟨hclosing, more, rfl⟩
    have hmore : 0 ≤ more * slotInterval := Int.mul_nonneg (Int.natCast_nonneg _) hstep.le
    refine ⟨by omega, hclosing, turns + more, by ring⟩
  · rintro ⟨hopened, hclosing, count, hcount⟩
    have hlast : turns - 1 < count := by
      have hbelow : (turns - 1) * slotInterval < count * slotInterval := by
        rw [mul_comm count]
        omega
      exact lt_of_mul_lt_mul_right hbelow hstep.le
    refine ⟨hclosing, (count - turns).toNat, ?_⟩
    rw [Int.toNat_of_nonneg (by omega)]
    linarith

/-! ## The loops -/

section Loops

variable {context : AvailabilityContext} {localDate now : Int}

/-- A slot the loops add for a resource. -/
def Made (context : AvailabilityContext) (localDate : Int) (resource : AvailableResource)
    (slot : AvailableSlot) : Prop :=
  slot = context.slot resource localDate slot.startAt
    (resource.schedule.timezone.astimezone slot.startAt).naive

theorem serves_offerStart {resource : AvailableResource} {closing cursor start : Int}
    (hactive : resource.active = true)
    (hreading : (resource.schedule.timezone.astimezone start).naive = cursor)
    (candidates : List AvailableSlot) :
    Serves AvailableSlot.startAt
      (fun instant => instant = start ∧
        fitsInterval context resource localDate closing now start = true ∧
        usedCapacity resource.busyPeriods (context.occupied start) < resource.capacity)
      (Made context localDate resource) candidates
      (offerStart context resource localDate closing now cursor candidates start) := by
  unfold offerStart
  split
  · rename_i hfits
    apply Serves.refl
    rintro instant ⟨-, hfits', -⟩
    rw [hfits] at hfits'
    cases hfits'
  rename_i hfits
  rw [Bool.not_eq_false] at hfits
  split
  · rename_i htaken
    apply Serves.refl
    rintro instant ⟨rfl, -, hfree⟩
    have hcapacity : hasCapacity resource (context.occupied instant) = true := by
      simp [hasCapacity, hactive, hfree]
    simpa [hcapacity] using htaken
  · rename_i hnew
    simp only [Bool.or_eq_true, List.any_eq_true, decide_eq_true_eq, Bool.not_eq_true',
      not_or, not_exists, not_and, Bool.not_eq_false] at hnew
    obtain ⟨huntaken, hcapacity⟩ := hnew
    have hfree : usedCapacity resource.busyPeriods (context.occupied start) <
        resource.capacity := by
      rw [hasCapacity, Bool.and_eq_true, decide_eq_true_eq] at hcapacity
      exact hcapacity.2
    have hmade : Made context localDate resource
        (context.slot resource localDate start cursor) := by
      subst hreading
      rfl
    have hslot : Serves AvailableSlot.startAt (· = start) (Made context localDate resource)
        candidates (candidates ++ [context.slot resource localDate start cursor]) :=
      Serves.append huntaken hmade
    apply hslot.congr
    intro instant
    exact ⟨fun h => ⟨h, hfits, hfree⟩, And.left⟩

theorem fitsInterval_iff {resource : AvailableResource} {interval : TimeOfDay × TimeOfDay}
    {start : Int} :
    fitsInterval context resource localDate (Wall.combine localDate interval.2) now start = true ↔
      now + context.policy.minimumNotice ≤ start ∧
        start ≤ now + context.policy.bookingHorizon ∧
        Wall.date (resource.schedule.timezone.astimezone
          (start + context.duration + context.cleanupBuffer)).naive = localDate ∧
        (resource.schedule.timezone.astimezone
          (start + context.duration + context.cleanupBuffer)).naive ≤
            Wall.combine localDate interval.2 := by
  simp only [fitsInterval, Bool.and_eq_true, and_assoc]
  exact and_congr decide_eq_true_iff (and_congr decide_eq_true_iff
    (and_congr decide_eq_true_iff decide_eq_true_iff))

/-- The loop over an interval serves the starts the interval admits and the
resource has capacity for. -/
theorem serves_scanInterval {resource : AvailableResource} (hactive : resource.active = true)
    {interval : TimeOfDay × TimeOfDay} {candidates found : List AvailableSlot}
    (hscan : scanInterval context resource localDate now candidates interval = .ok found) :
    Serves AvailableSlot.startAt
      (fun start => StartsIn (visitedGrid context localDate) context localDate now resource interval
          start ∧
        usedCapacity resource.busyPeriods (context.occupied start) < resource.capacity)
      (Made context localDate resource) candidates found := by
  unfold scanInterval at hscan
  simp only at hscan
  split at hscan
  · cases hscan
  cases hscan
  have hturn : ∀ cursor values, Serves AvailableSlot.startAt
      (fun instant => ∃ start ∈ ZoneInfo.localCandidates cursor resource.schedule.timezone,
        instant = start ∧ fitsInterval context resource localDate
          (Wall.combine localDate interval.2) now start = true ∧
        usedCapacity resource.busyPeriods (context.occupied start) < resource.capacity)
      (Made context localDate resource) values
      ((ZoneInfo.localCandidates cursor resource.schedule.timezone).foldl
        (offerStart context resource localDate (Wall.combine localDate interval.2) now cursor)
        values) := by
    intro cursor values
    apply Serves.foldl
    intro earlier start hstart
    exact serves_offerStart hactive (ZoneInfo.astimezone_of_mem_localCandidates hstart) earlier
  apply (Serves.foldl _ (fun values cursor _ => hturn cursor values) candidates).congr
  intro start
  constructor
  · rintro ⟨cursor, hcursor, instant, hinstant, rfl, hfits, hfree⟩
    obtain ⟨hnotice, hhorizon, hdate, hcloses⟩ := fitsInterval_iff.mp hfits
    exact ⟨{ onGrid := ⟨cursor, hcursor, ZoneInfo.mem_localCandidates.mp hinstant⟩
             notice := hnotice
             horizon := hhorizon
             sameDay := hdate
             closes := hcloses }, hfree⟩
  · rintro ⟨h, hfree⟩
    obtain ⟨reading, hvisited, hdenotes⟩ := h.onGrid
    refine ⟨reading, hvisited, start, ZoneInfo.mem_localCandidates.mpr hdenotes, rfl, ?_, hfree⟩
    exact fitsInterval_iff.mpr ⟨h.notice, h.horizon, h.sameDay, h.closes⟩

/-- One turn of the loop over resources serves the starts the resource can take. -/
theorem serves_scanResource {resource : AvailableResource} {candidates found : List AvailableSlot}
    (hscan : scanResource context localDate now candidates resource = .ok found) :
    Serves AvailableSlot.startAt
      (Eligible (visitedGrid context localDate) context localDate now resource)
      (Made context localDate resource) candidates found := by
  unfold scanResource at hscan
  split at hscan
  · rename_i hinactive
    cases hscan
    apply Serves.refl
    intro start h
    rcases hinactive with hinactive | hinactive
    · exact absurd h.active (by rw [hinactive]; decide)
    · exact absurd h.scheduleActive (by rw [hinactive]; decide)
  rename_i hactive
  rw [not_or, Bool.not_eq_false, Bool.not_eq_false] at hactive
  cases hday : effectiveDay resource.schedule localDate with
  | error failure =>
      rw [hday] at hscan
      cases hscan
  | ok day =>
      rw [hday] at hscan
      have hloop : ∀ values, ∀ interval ∈ day.intervals, ∀ next,
          scanInterval context resource localDate now values interval = .ok next →
          Serves AvailableSlot.startAt
            (fun start => StartsIn (visitedGrid context localDate) context localDate now resource interval
          start ∧
              usedCapacity resource.busyPeriods (context.occupied start) < resource.capacity)
            (Made context localDate resource) values next := by
        intro values interval _ next hnext
        exact serves_scanInterval hactive.1 hnext
      apply (Serves.foldlM day.intervals hloop hscan).congr
      intro start
      constructor
      · rintro ⟨interval, hinterval, hstarts, hfree⟩
        exact { active := hactive.1
                scheduleActive := hactive.2
                opening := ⟨day, hday, interval, hinterval, hstarts⟩
                capacity := hfree }
      · intro h
        obtain ⟨day', hday', interval, hinterval, hstarts⟩ := h.opening
        rw [hday] at hday'
        cases hday'
        exact ⟨interval, hinterval, hstarts, h.capacity⟩

end Loops

/-! ## The list -/

instance : Std.Total byResourceId where
  total := fun first second => BitVec.le_total first.id second.id

instance : IsTrans AvailableResource byResourceId where
  trans := fun _ _ _ hfirst hsecond => BitVec.le_trans hfirst hsecond

instance : Std.Total slotLe where
  total := by
    intro first second
    rcases lt_trichotomy first.startAt second.startAt with hlt | heq | hgt
    · exact .inl (.inl hlt)
    · rcases BitVec.le_total first.resourceId second.resourceId with hle | hle
      · exact .inl (.inr ⟨heq, hle⟩)
      · exact .inr (.inr ⟨heq.symm, hle⟩)
    · exact .inr (.inl hgt)

instance : IsTrans AvailableSlot slotLe where
  trans := by
    rintro first second third (hfirst | ⟨hfirst, hid⟩) (hsecond | ⟨hsecond, hid'⟩)
    · exact .inl (hfirst.trans hsecond)
    · exact .inl (hsecond ▸ hfirst)
    · exact .inl (hfirst ▸ hsecond)
    · exact .inr ⟨hfirst.trans hsecond, BitVec.le_trans hid hid'⟩

/-- Slots in order whose starts differ increase strictly. -/
theorem startAt_increasing {candidates : List AvailableSlot}
    (hdistinct : (candidates.map AvailableSlot.startAt).Nodup) :
    (candidates.insertionSort slotLe).Pairwise fun first second => first.startAt < second.startAt := by
  have hsorted := List.pairwise_insertionSort slotLe candidates
  have hperm := (List.perm_insertionSort slotLe candidates).map AvailableSlot.startAt
  have hdiffer := List.pairwise_map.mp (hperm.nodup_iff.mpr hdistinct)
  refine (hsorted.and hdiffer).imp ?_
  rintro first second ⟨hlt | ⟨heq, -⟩, hne⟩
  · exact hlt
  · exact absurd heq hne

section Specification

variable {context : AvailabilityContext} {localDate now : Int}

/-- Before they are sorted, the slots are first come, first served, in the order
of the resources. -/
theorem firstServed_resources {candidates : List AvailableSlot}
    (hfold : (context.resources.insertionSort byResourceId).foldlM
      (scanResource context localDate now) [] = .ok candidates) :
    FirstServed AvailableSlot.startAt byResourceId
      (Eligible (visitedGrid context localDate) context localDate now)
      (Made context localDate) (context.resources.insertionSort byResourceId) candidates := by
  have hnone : FirstServed AvailableSlot.startAt byResourceId
      (Eligible (visitedGrid context localDate) context localDate now)
      (Made context localDate) [] [] :=
    { served := fun _ hresource => by cases hresource
      first := fun _ hslot => by cases hslot
      distinct := List.nodup_nil }
  have hordered : ([] ++ context.resources.insertionSort byResourceId).Pairwise byResourceId :=
    List.pairwise_insertionSort byResourceId context.resources
  have hrefl : ∀ resource, byResourceId resource resource := fun resource =>
    BitVec.le_refl resource.id
  apply firstServed_foldlM hrefl hordered _ hnone hfold
  intro values resource _ next hnext
  exact serves_scanResource hnext

/-- What a list of slots is, on a grid of readings: its starts increase strictly;
a start is on it if and only if the service is active and bookable and some
resource can take it; and its slot is on the first such resource, for the
duration of the service. -/
structure SlotsOf (grid : Grid) (context : AvailabilityContext) (localDate now : Int)
    (slots : List AvailableSlot) : Prop where
  increasing : slots.Pairwise fun first second => first.startAt < second.startAt
  starts : ∀ start, (∃ slot ∈ slots, slot.startAt = start) ↔
    context.active = true ∧ context.bookable = true ∧
      ∃ resource ∈ context.resources, Eligible grid context localDate now resource start
  endAt : ∀ slot ∈ slots, slot.endAt = slot.startAt + context.duration
  assigned : ∀ slot ∈ slots,
    (∃ resource ∈ context.resources, slot.resourceId = resource.id ∧
      Eligible grid context localDate now resource slot.startAt) ∧
    ∀ other ∈ context.resources, Eligible grid context localDate now other slot.startAt →
      slot.resourceId.str ≤ other.id.str

/-- The list holds the starts of the readings the loops visit. -/
theorem slots_of_visited {slots : List AvailableSlot}
    (hslots : calculateAvailability context localDate now = .ok slots) :
    SlotsOf (visitedGrid context localDate) context localDate now slots := by
  unfold calculateAvailability at hslots
  split at hslots
  · rename_i hnone
    cases hslots
    apply SlotsOf.mk List.Pairwise.nil
    case endAt =>
      intro slot hslot
      cases hslot
    case assigned =>
      intro slot hslot
      cases hslot
    case starts =>
      intro start
      constructor
      · rintro ⟨slot, hslot, -⟩
        cases hslot
      · rintro ⟨hactive, hbookable, resource, hresource, -⟩
        rcases hnone with hinactive | hunbookable | hempty
        · rw [hactive] at hinactive
          cases hinactive
        · rw [hbookable] at hunbookable
          cases hunbookable
        · rw [hempty] at hresource
          cases hresource
  rename_i hsome
  rw [not_or, not_or, Bool.not_eq_false, Bool.not_eq_false] at hsome
  cases hfold : (context.resources.insertionSort byResourceId).foldlM
      (scanResource context localDate now) [] with
  | error failure =>
      rw [hfold] at hslots
      cases hslots
  | ok candidates =>
      rw [hfold] at hslots
      cases hslots
      have hfirst := firstServed_resources hfold
      apply SlotsOf.mk (startAt_increasing hfirst.distinct)
      case starts =>
        intro start
        constructor
        · rintro ⟨slot, hslot, rfl⟩
          rw [List.mem_insertionSort] at hslot
          obtain ⟨resource, hresource, heligible, -, -⟩ := hfirst.first slot hslot
          rw [List.mem_insertionSort] at hresource
          exact ⟨hsome.1, hsome.2.1, resource, hresource, heligible⟩
        · rintro ⟨-, -, resource, hresource, heligible⟩
          obtain ⟨slot, hslot, hstart⟩ := hfirst.served resource
            ((List.mem_insertionSort _).mpr hresource) start heligible
          exact ⟨slot, (List.mem_insertionSort _).mpr hslot, hstart⟩
      case endAt =>
        intro slot hslot
        rw [List.mem_insertionSort] at hslot
        obtain ⟨resource, -, -, hmade, -⟩ := hfirst.first slot hslot
        rw [hmade]
        rfl
      case assigned =>
        intro slot hslot
        rw [List.mem_insertionSort] at hslot
        obtain ⟨resource, hresource, heligible, hmade, hleast⟩ := hfirst.first slot hslot
        rw [List.mem_insertionSort] at hresource
        have hid : slot.resourceId = resource.id := by
          rw [hmade]
          rfl
        refine ⟨⟨resource, hresource, hid, heligible⟩, ?_⟩
        intro other hother hother'
        rw [hid, UUID.str_le_iff]
        exact hleast other ((List.mem_insertionSort _).mpr hother) hother'

/-- On whole seconds the list holds the starts of the aligned readings. -/
theorem slots_are_eligible_starts
    (hwhole : ∀ resource ∈ context.resources, resource.schedule.Bounded WholeSecond)
    (hwholeStep : (1000000 : Int) ∣ context.policy.slotInterval) {slots : List AvailableSlot}
    (hslots : calculateAvailability context localDate now = .ok slots) :
    SlotsOf (alignedGrid context localDate) context localDate now slots := by
  have hvisited := slots_of_visited hslots
  have hgrids : ∀ resource ∈ context.resources, ∀ start,
      Eligible (visitedGrid context localDate) context localDate now resource start ↔
        Eligible (alignedGrid context localDate) context localDate now resource start := by
    intro resource hresource start
    have hreadings : ∀ day, effectiveDay resource.schedule localDate = .ok day →
        ∀ interval ∈ day.intervals, ∀ reading, visitedGrid context localDate interval reading ↔
          alignedGrid context localDate interval reading := by
      intro day hday interval hinterval reading
      exact visitedGrid_iff hwholeStep
        (bounded_effectiveDay (hwhole resource hresource) hday interval hinterval).1
    constructor
    · apply Eligible.congr
      intro day hday interval hinterval reading
      exact (hreadings day hday interval hinterval reading).mp
    · apply Eligible.congr
      intro day hday interval hinterval reading
      exact (hreadings day hday interval hinterval reading).mpr
  apply SlotsOf.mk hvisited.increasing
  case endAt => exact hvisited.endAt
  case starts =>
    intro start
    rw [hvisited.starts start]
    refine and_congr_right' (and_congr_right' (exists_congr fun resource => ?_))
    exact and_congr_right fun hresource => hgrids resource hresource start
  case assigned =>
    intro slot hslot
    obtain ⟨⟨resource, hresource, hid, heligible⟩, hleast⟩ := hvisited.assigned slot hslot
    refine ⟨⟨resource, hresource, hid, (hgrids resource hresource _).mp heligible⟩, ?_⟩
    intro other hother hother'
    exact hleast other hother ((hgrids other hother _).mpr hother')

end Specification

/-! ## A shop of one resource -/

namespace SmallShop

/-- Slots every half hour, a minute's notice, a week ahead. -/
def policy : BookingPolicy where
  slotInterval := minutes 30
  bookingHorizon := days 7
  minimumNotice := minutes 1
  holdDuration := minutes 10
  draftDuration := minutes 30
  changeCutoff := 0
  customerNameMaxLength := 100
  customerPhoneMaxLength := 32
  customerNoteMaxLength := 500
  slotIntervalPositive := by decide
  bookingHorizonPositive := by decide
  minimumNoticePositive := by decide
  holdDurationPositive := by decide
  draftDurationPositive := by decide
  changeCutoffNonnegative := by decide
  nameLimitValid := by decide
  phoneLimitValid := by decide
  noteLimitValid := by decide

/-- Open every week on one interval. -/
def schedule (zone : ZoneInfo) (interval : ScheduleInterval)
    (hvalid : validateIntervals [interval] = true) : BusinessSchedule where
  id := 1
  tenantId := 1
  timezone := zone
  intervals := [interval]
  overrides := []
  active := true
  intervalsValid := hvalid

/-- The resource, with what occupies it. -/
def resource (schedule : BusinessSchedule) (capacity : Nat) (busy : List BusyPeriod) :
    AvailableResource where
  id := 1
  schedule := schedule
  capacity := capacity
  active := true
  busyPeriods := busy

/-- A service of an hour on the resource. -/
def context (active : Bool) (resource : AvailableResource) : AvailabilityContext where
  tenantId := 1
  serviceId := 1
  serviceName := []
  duration := minutes 60
  cleanupBuffer := 0
  active := active
  bookable := true
  policy := policy
  resources := [resource]
  durationPositive := by decide
  cleanupBufferNonnegative := by decide

def utc : ZoneInfo := { key := "UTC", initialOffset := 0, transitions := [] }

/-- Thursdays from nine to ten. -/
def morning : ScheduleInterval where
  weekday := 3
  startLocal := 32400000000
  endLocal := 36000000000
  intervalType := .open
  startPrecedesEnd := by decide

def mornings : BusinessSchedule := schedule utc morning (by decide)

theorem mornings_wholeSeconds : mornings.Bounded WholeSecond where
  weekly := by
    intro interval hinterval
    rw [List.mem_singleton.mp hinterval]
    exact ⟨by decide, by decide⟩
  overrides := by
    intro override hoverride
    cases hoverride

/-- Nine o'clock can be taken on 1970-01-01, a Thursday, though the service is
not active. -/
theorem eligible_nine :
    Eligible (alignedGrid (context false (resource mornings 1 [])) 0)
      (context false (resource mornings 1 [])) 0 0 (resource mornings 1 []) 32400000000 where
  active := rfl
  scheduleActive := rfl
  opening := by
    refine ⟨{ localDate := 0, intervals := [(32400000000, 36000000000)], source := "weekly",
              reason := none }, by decide +kernel, _, List.mem_singleton.mpr rfl, ?_⟩
    exact
      { onGrid := ⟨32400000000, ⟨by decide, by decide, by decide⟩, by decide, false, by decide⟩
        notice := by decide
        horizon := by decide
        sameDay := by decide
        closes := by decide }
  capacity := by decide

end SmallShop

/-- A morning with its single slot. -/
theorem slots_are_eligible_starts_morning :
    let resource := SmallShop.resource SmallShop.mornings 1 []
    let context := SmallShop.context true resource
    SlotsOf (alignedGrid context 0) context 0 0
      [context.slot resource 0 32400000000 32400000000] := by
  intro resource context
  have hwhole : ∀ resource ∈ context.resources, resource.schedule.Bounded WholeSecond := by
    intro other hother
    rw [List.mem_singleton.mp hother]
    exact SmallShop.mornings_wholeSeconds
  exact slots_are_eligible_starts hwhole (by decide) (by decide +kernel)

/-- A resource that can take a start does not put it on the list of a service
that is not active. -/
theorem inactive_service_has_no_slots :
    ¬ ∀ (context : AvailabilityContext) (localDate now : Int) (slots : List AvailableSlot),
      (∀ resource ∈ context.resources, resource.schedule.Bounded WholeSecond) →
      (1000000 : Int) ∣ context.policy.slotInterval →
      calculateAvailability context localDate now = .ok slots →
      ∀ start, (∃ slot ∈ slots, slot.startAt = start) ↔
        ∃ resource ∈ context.resources,
          Eligible (alignedGrid context localDate) context localDate now resource start := by
  intro hclaim
  have hwhole : ∀ resource ∈ (SmallShop.context false
      (SmallShop.resource SmallShop.mornings 1 [])).resources,
      resource.schedule.Bounded WholeSecond := by
    intro other hother
    rw [List.mem_singleton.mp hother]
    exact SmallShop.mornings_wholeSeconds
  obtain ⟨slot, hslot, -⟩ := (hclaim _ 0 0 [] hwhole (by decide) rfl 32400000000).mpr
    ⟨_, List.mem_singleton.mpr rfl, SmallShop.eligible_nine⟩
  cases hslot

end BusinessAssistant.Application
