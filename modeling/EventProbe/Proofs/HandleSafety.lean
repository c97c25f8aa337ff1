import EventProbe.Proofs.DriverExtraction
import EventProbe.Proofs.Process

/-! Handles of events over whole runs. The invariant of a driver ties its current event to the latest
step in the log and bounds the positions of all handles it gave out by the next number. -/
namespace EventProbe

def Exchange.issued (x : Exchange π) : Option EventHandle :=
  match x.call, x.reply with
  | .next, .stepped (.ok (.ok, handle)) => some handle
  | _, _ => none

def latestStep (i : Nat) (log : List (Exchange π)) : Option (Exchange π) :=
  log.find? fun x => x.driver == i && x.call.isNext

/-- The handles that a driver gave out with events, newest first. -/
def issuedBy (i : Nat) (log : List (Exchange π)) : List EventHandle :=
  log.filterMap fun x => if x.driver = i then x.issued else none

def EventHandle.Later (a b : EventHandle) : Prop :=
  ∃ m n, a.seq = some m ∧ b.seq = some n ∧ n < m

namespace Exchange
variable {x : Exchange π} {handle : EventHandle}

/-- The answer of a logged step names the driver and the delivered event, and the step is a success
exactly if there is one. -/
def Faithful (x : Exchange π) : Prop :=
  x.call.isNext = true → ∃ outcome : Except Panic Status,
    x.reply = .stepped (outcome.map fun s => (s, ⟨x.driver + 1, x.delivered.map Event.num⟩)) ∧
    (outcome = .ok .ok ↔ x.delivered.isSome = true)

theorem issued_of_not_next (rest : x.call.isNext = false) : x.issued = none := by
  unfold issued
  cases call : x.call with
  | next => simp [call, DriverCall.isNext] at rest
  | _ => rfl

theorem issued_of_next (step : x.call.isNext = true) :
    x.issued = some handle ↔ x.reply = .stepped (.ok (.ok, handle)) := by
  unfold issued
  cases call : x.call with
  | next =>
    cases x.reply with
    | stepped result =>
      rcases result with p | ⟨status, named⟩
      · simp
      · cases status <;> simp
    | _ => simp
  | _ => simp [call, DriverCall.isNext] at step

theorem Faithful.issued_iff (faithful : x.Faithful) (step : x.call.isNext = true) :
    x.issued = some handle ↔ ∃ e, x.delivered = some e ∧ handle = ⟨x.driver + 1, some e.num⟩ := by
  obtain ⟨outcome, reply, success⟩ := faithful step
  rw [issued_of_next step, reply]
  cases delivered : x.delivered with
  | none =>
    have barren : outcome ≠ .ok .ok := by simp [success, delivered]
    rcases outcome with p | status <;> simp_all [Except.map]
  | some e =>
    have good : outcome = .ok .ok := by simp [success, delivered]
    simp [good, Except.map, eq_comm]

end Exchange

section Logs
variable {log : List (Exchange π)} {x : Exchange π} {i : Nat}

theorem issuedBy_other (other : x.driver ≠ i) : issuedBy i (x :: log) = issuedBy i log := by
  simp only [issuedBy, List.filterMap_cons, if_neg other]

theorem latestStep_other (other : x.driver ≠ i) : latestStep i (x :: log) = latestStep i log := by
  simp [latestStep, other]

theorem issuedBy_rest (rest : x.call.isNext = false) :
    issuedBy i (x :: log) = issuedBy i log := by
  simp only [issuedBy, List.filterMap_cons, x.issued_of_not_next rest, ite_self]

theorem latestStep_rest (rest : x.call.isNext = false) :
    latestStep i (x :: log) = latestStep i log := by
  simp only [latestStep, List.find?_cons, rest, Bool.and_false]

theorem issuedBy_own (own : x.driver = i) :
    issuedBy i (x :: log) = x.issued.toList ++ issuedBy i log := by
  simp only [issuedBy, List.filterMap_cons, if_pos own]
  cases x.issued <;> rfl

theorem latestStep_own (own : x.driver = i) (step : x.call.isNext = true) :
    latestStep i (x :: log) = some x := by
  simp only [latestStep, List.find?_cons, own, step, beq_self_eq_true, Bool.and_self]

theorem latestStep_spec (latest : latestStep i log = some x) :
    x ∈ log ∧ x.driver = i ∧ x.call.isNext = true := by
  have found := List.find?_some latest
  simp only [Bool.and_eq_true, beq_iff_eq] at found
  exact ⟨List.mem_of_find?_eq_some latest, found⟩

theorem mem_issuedBy {handle : EventHandle} :
    handle ∈ issuedBy i log ↔ ∃ x ∈ log, x.driver = i ∧ x.issued = some handle := by
  simp only [issuedBy, List.mem_filterMap]
  constructor
  · rintro ⟨x, logged, issued⟩
    by_cases own : x.driver = i
    · exact ⟨x, logged, own, by rwa [if_pos own] at issued⟩
    · rw [if_neg own] at issued
      contradiction
  · rintro ⟨x, logged, own, issued⟩
    exact ⟨x, logged, by rwa [if_pos own]⟩

end Logs

/-- What holds of the driver at a place after the logged calls. -/
structure Driver.Tracked (i : Nat) (log : List (Exchange π)) (d : Driver ι) : Prop where
  id : d.id = i + 1
  ends : d.engine.EndsWell
  idle : d.state = .idle → d.engine.current = none ∧ issuedBy i log = []
  current : d.engine.current = (latestStep i log).bind Exchange.delivered
  below : ∀ handle ∈ issuedBy i log, ∃ n, handle.seq = some n ∧ n < d.engine.nextNum

namespace Driver
variable {d d' : Driver ι} {i : Nat} {log log' : List (Exchange π)}

theorem Tracked.congr (tracked : Tracked i log d) (issued : issuedBy i log' = issuedBy i log)
    (latest : latestStep i log' = latestStep i log) : Tracked i log' d where
  id := tracked.id
  ends := tracked.ends
  idle := issued ▸ tracked.idle
  current := latest ▸ tracked.current
  below := issued ▸ tracked.below

/-- An operation other than a step keeps the current event. If it resets the numbers, the driver was
idle and has given out no handle. -/
theorem Tracked.effect (tracked : Tracked i log d) (effect : Effect d d') : Tracked i log d' := by
  cases effect with
  | kept registry extractors collector =>
    exact ⟨tracked.id, tracked.ends, tracked.idle, tracked.current, tracked.below⟩
  | opened source platform idle closed =>
    obtain ⟨unset, none⟩ := tracked.idle idle
    refine ⟨tracked.id, ?_, ?_, ?_, ?_⟩
    · intro status ended
      cases ended
    · intro idle
      cases idle
    · rw [← tracked.current, unset]
      rfl
    · simp [none]

variable [Plugin π ι]

def stepEntry (d : Driver ι) (h : Host π) (i : Nat) : Exchange π :=
  ⟨i, .next, .stepped (d.next h).1, d.delivery h⟩

theorem Tracked.faithful (tracked : Tracked i log d) (h : Host π) : (d.stepEntry h i).Faithful := by
  intro _
  cases state : d.state with
  | idle =>
    refine ⟨.ok .error, ?_, ?_⟩
    · simp only [stepEntry, next_of_idle state, delivery, state, tracked.id]
      rfl
    · simp [stepEntry, delivery, state]
  | capturing =>
    refine ⟨(d.engine.next h).1, ?_, ?_⟩
    · simp only [stepEntry, next_of_capturing state, delivery, state, tracked.id]
    · simp only [stepEntry, delivery, state]
      exact (d.engine.next_advances h).ok_iff_delivers tracked.ends

theorem Tracked.issued_eq (tracked : Tracked i log d) (h : Host π) :
    (d.stepEntry h i).issued = (d.delivery h).map fun e => ⟨i + 1, some e.num⟩ := by
  apply Option.ext
  intro handle
  rw [(tracked.faithful h).issued_iff rfl, Option.map_eq_some_iff]
  simp only [stepEntry, eq_comm]

theorem Tracked.step (tracked : Tracked i log d) (h : Host π) :
    Tracked i (d.stepEntry h i :: log) (d.next h).2.1 := by
  have issued := tracked.issued_eq h
  have latest : latestStep i (d.stepEntry h i :: log) = some (d.stepEntry h i) :=
    latestStep_own rfl rfl
  have handles : issuedBy i (d.stepEntry h i :: log) =
      (d.stepEntry h i).issued.toList ++ issuedBy i log := issuedBy_own rfl
  cases state : d.state with
  | idle =>
    have barren : d.delivery h = none := by simp only [delivery, state]
    have same : issuedBy i (d.stepEntry h i :: log) = issuedBy i log := by
      simp [handles, issued, barren]
    obtain ⟨unset, none⟩ := tracked.idle state
    rw [next_of_idle state]
    refine ⟨tracked.id, tracked.ends, fun _ => ⟨unset, same.trans none⟩, ?_, same ▸ tracked.below⟩
    rw [latest, unset]
    exact barren.symm
  | capturing =>
    have step := d.engine.next_advances h
    have delivers : d.delivery h = d.engine.delivery h := by simp only [delivery, state]
    rw [next_of_capturing state]
    refine ⟨tracked.id, step.endsWell tracked.ends, ?_, ?_, ?_⟩
    · intro idle
      cases state.symm.trans idle
    · rw [latest]
      exact step.current_eq.trans delivers.symm
    · intro handle given
      rw [handles, issued, delivers] at given
      rcases List.mem_append.mp given with new | old
      · obtain ⟨e, delivered, rfl⟩ := Option.map_eq_some_iff.mp (Option.mem_toList.mp new)
        rw [delivered] at step
        obtain ⟨num, next⟩ := step.delivered_num
        exact ⟨e.num, rfl, by rw [num]; exact next ▸ Nat.lt_succ_self _⟩
      · obtain ⟨n, seq, below⟩ := tracked.below handle old
        exact ⟨n, seq, Nat.lt_of_lt_of_le below step.nextNum_le⟩

/-- A new handle names a later event than all handles before it. -/
theorem Tracked.issued_later (tracked : Tracked i log d) (h : Host π) :
    ∀ handle ∈ (d.stepEntry h i).issued, ∀ old ∈ issuedBy i log, handle.Later old := by
  intro handle issued old given
  rw [tracked.issued_eq h] at issued
  obtain ⟨e, delivered, rfl⟩ := Option.map_eq_some_iff.mp issued
  obtain ⟨n, seq, below⟩ := tracked.below old given
  cases state : d.state with
  | idle => simp [delivery, state] at delivered
  | capturing =>
    have step := d.engine.next_advances h
    rw [show d.engine.delivery h = some e by simpa only [delivery, state] using delivered] at step
    exact ⟨e.num, n, rfl, seq, step.delivered_num.1 ▸ below⟩

end Driver

namespace Process
variable [Plugin π ι]

/-- What holds of a process after the logged calls. -/
structure Sound (p : Process π ι) (log : List (Exchange π)) : Prop where
  count : p.host.drivers = p.drivers.length
  logged : ∀ x ∈ log, x.driver < p.drivers.length
  tracked : ∀ i d, p.driver? i = some d → d.Tracked i log
  faithful : ∀ x ∈ log, x.Faithful
  ordered : ∀ i, (issuedBy i log).Pairwise EventHandle.Later

variable {p : Process π ι} {log : List (Exchange π)} {d : Driver ι}

/-- A call of a driver leaves the other drivers and their part of the log alone. -/
theorem Sound.call (sound : Sound p log) (there : p.driver? i = some d) (c : DriverCall π) :
    Sound (p.update i (d.perform p.host c).2.1 (d.perform p.host c).2.2)
      (⟨i, c, (d.perform p.host c).1, d.delivered p.host c⟩ :: log) := by
  have tracked := sound.tracked i d there
  have size : (p.update i (d.perform p.host c).2.1 (d.perform p.host c).2.2).drivers.length =
      p.drivers.length := List.length_set
  refine ⟨?_, ?_, ?_, ?_, ?_⟩
  · rw [size, ← sound.count]
    exact (d.perform_continues p.host c).drivers
  · rw [size]
    exact List.forall_mem_cons.mpr ⟨driver?_lt there, sound.logged⟩
  · intro j e alive
    by_cases own : j = i
    · subst own
      rw [driver?_update_self there] at alive
      cases alive
      cases c with
      | next => exact tracked.step p.host
      | _ =>
        exact (tracked.effect (d.perform_effect p.host (by simp [DriverCall.isNext]))).congr
          (issuedBy_rest rfl) (latestStep_rest rfl)
    · rw [driver?_update_ne own] at alive
      exact (sound.tracked j e alive).congr (issuedBy_other (Ne.symm own))
        (latestStep_other (Ne.symm own))
  · refine List.forall_mem_cons.mpr ⟨?_, sound.faithful⟩
    cases c with
    | next => exact tracked.faithful p.host
    | _ => exact fun step => absurd step (by simp [DriverCall.isNext])
  · intro j
    by_cases own : i = j
    · subst own
      rw [issuedBy_own (i := i) rfl, List.pairwise_append]
      refine ⟨?_, sound.ordered i, ?_⟩
      · cases Exchange.issued _ <;> simp
      · intro handle new
        cases c with
        | next => exact tracked.issued_later p.host handle (Option.mem_toList.mp new)
        | _ => simp [Exchange.issued] at new
    · rw [issuedBy_other own]
      exact sound.ordered j

omit [Plugin π ι] in
/-- A new driver has an id that no other driver has, and nothing is logged for its place. -/
theorem Sound.create (sound : Sound p log) (settings : Config.Settings) :
    Sound (p.create settings) log := by
  rcases p.create_cases settings with same | ⟨flags, hostname, made⟩
  · rw [same]
    exact sound
  · rw [made]
    refine ⟨?_, ?_, ?_, sound.faithful, sound.ordered⟩
    · simp [sound.count]
    · intro x logged
      have := sound.logged x logged
      simp only [List.length_append, List.length_singleton]
      omega
    · intro j e alive
      rw [← made] at alive
      obtain old | ⟨rfl, flags, hostname, rfl⟩ := driver?_create alive
      · exact sound.tracked j e old
      · have fresh : ∀ x ∈ log, ¬ x.driver = p.drivers.length := fun x logged =>
          Nat.ne_of_lt (sound.logged x logged)
        have issued : issuedBy p.drivers.length log = [] := by
          exact List.filterMap_eq_nil_iff.mpr fun x logged => if_neg (fresh x logged)
        have latest : latestStep p.drivers.length log = none := by
          exact List.find?_eq_none.mpr fun x logged => by simp [fresh x logged]
        refine ⟨by rw [sound.count], ?_, fun _ => ⟨rfl, issued⟩, ?_, ?_⟩
        · intro status ended
          simp [Engine.fresh] at ended
        · rw [latest]
          rfl
        · simp [issued]

theorem Sound.drop (sound : Sound p log) (there : p.driver? i = some d) :
    Sound (p.update i none (d.drop p.host).2) log := by
  have size : (p.update i none (d.drop p.host).2).drivers.length = p.drivers.length :=
    List.length_set
  refine ⟨?_, ?_, ?_, sound.faithful, sound.ordered⟩
  · rw [size, ← sound.count]
    exact (d.drop_continues p.host).drivers
  · rw [size]
    exact sound.logged
  · intro j e alive
    by_cases own : j = i
    · subst own
      rw [driver?_update_self there] at alive
      contradiction
    · rw [driver?_update_ne own] at alive
      exact sound.tracked j e alive

theorem Run.sound (run : Run p log) : Sound p log := by
  induction run with
  | start environment => exact ⟨rfl, by simp, by simp [driver?], by simp, by simp [issuedBy]⟩
  | elapse environment now run ih =>
    exact ⟨ih.count, ih.logged, ih.tracked, ih.faithful, ih.ordered⟩
  | create settings run ih => exact ih.create settings
  | call c run there ih => exact ih.call there c
  | drop run there ih => exact ih.drop there

omit [Plugin π ι] in
/-- The handle of the current event is the one that the latest step gave out, with this event. -/
theorem Sound.current_iff (sound : Sound p log) (alive : p.driver? i = some d) :
    (d.engine.current = some e ∧ handle = ⟨d.id, some e.num⟩) ↔
      ∃ y, latestStep i log = some y ∧ y.issued = some handle ∧ y.delivered = some e := by
  have tracked := sound.tracked i d alive
  rw [tracked.current, tracked.id]
  cases latest : latestStep i log with
  | none => simp
  | some y =>
    obtain ⟨logged, own, step⟩ := latestStep_spec latest
    simp only [Option.bind_some, Option.some.injEq, exists_eq_left', own,
      (sound.faithful y logged).issued_iff step]
    constructor
    · rintro ⟨delivered, rfl⟩
      exact ⟨⟨e, delivered, rfl⟩, delivered⟩
    · rintro ⟨⟨other, found, rfl⟩, delivered⟩
      cases Option.some.inj (found.symm.trans delivered)
      exact ⟨delivered, rfl⟩

def Refused (p : Process π ι) (d : Driver ι) (field : String) (handle : EventHandle)
    (fault : DriverFault) : Prop :=
  (d.extractText p.host field handle).1 = .failed fault ∧
    (d.extractWithOffsets p.host field handle).1 = .failed fault

/-- What handles are good for after the logged calls, for a driver at a place and a field that
resolves. -/
structure HandlesRead (p : Process π ι) (log : List (Exchange π)) (i : Nat) (d : Driver ι)
    (field : String) (x : Extractor) : Prop where
  /-- An event is read exactly with the handle that the latest step gave out. -/
  reads : ∀ handle, (∃ e, d.Reads field handle e) ↔
    ∃ y, latestStep i log = some y ∧ y.issued = some handle
  /-- It is the event which that step delivered. -/
  event : ∀ handle e, d.Reads field handle e →
    (∃ y, latestStep i log = some y ∧ y.delivered = some e) ∧
      (d.extractText p.host field handle).1 = Driver.readText p.host x field e ∧
      (d.extractWithOffsets p.host field handle).1 = Driver.readLocated p.host x field e
  null : ∀ handle, handle.isNull = true → p.Refused d field handle .nullEvent
  stale : ∀ handle, handle.isNull = false →
    (∀ y, latestStep i log = some y → y.issued ≠ some handle) → p.Refused d field handle .staleEvent
  /-- A handle that another driver gave out is stale. -/
  foreign : ∀ j handle, j ≠ i → handle ∈ issuedBy j log → p.Refused d field handle .staleEvent
  /-- After the next step of the driver, a handle stays stale. -/
  retired : ∀ newer y older handle, log = newer ++ y :: older → y.driver = i →
    y.issued = some handle → (∃ z ∈ newer, z.driver = i ∧ z.call.isNext = true) →
    p.Refused d field handle .staleEvent

variable {field : String} {x : Extractor} {fault : DriverFault} {handle : EventHandle} {i j : Nat}

theorem refused_of_event (resolved : (d.extractors.resolve field).1 = .ok x)
    (refused : d.event handle = .error fault) : p.Refused d field handle fault := by
  have prepared : (d.prepare field handle).1 = .error fault := by
    rw [Driver.prepare_of_ok resolved, refused]
    rfl
  exact ⟨Driver.extractText_of_error prepared, Driver.extractWithOffsets_of_error prepared⟩

theorem Sound.refused_of_stale (sound : Sound p log) (alive : p.driver? i = some d)
    (resolved : (d.extractors.resolve field).1 = .ok x) (named : handle.isNull = false)
    (other : ∀ y, latestStep i log = some y → y.issued ≠ some handle) :
    p.Refused d field handle .staleEvent := by
  refine refused_of_event resolved (Driver.event_stale named ?_)
  intro e current same
  obtain ⟨y, latest, issued, _⟩ := (sound.current_iff alive).mp ⟨current, same⟩
  exact other y latest issued

omit [Plugin π ι] in
/-- The handles of a driver carry its id and a position. -/
theorem Sound.issued_shape (sound : Sound p log) (given : handle ∈ issuedBy i log) :
    handle.driver = i + 1 ∧ handle.isNull = false := by
  obtain ⟨y, logged, own, issued⟩ := mem_issuedBy.mp given
  cases step : y.call.isNext with
  | false =>
    rw [y.issued_of_not_next step] at issued
    contradiction
  | true =>
    obtain ⟨e, _, rfl⟩ := ((sound.faithful y logged).issued_iff step).mp issued
    exact ⟨congrArg (· + 1) own, rfl⟩

omit [Plugin π ι] in
theorem latestStep_issued (latest : latestStep i log = some y) (issued : y.issued = some handle) :
    handle ∈ issuedBy i log :=
  mem_issuedBy.mpr ⟨y, (latestStep_spec latest).1, (latestStep_spec latest).2.1, issued⟩

theorem Sound.refused_of_foreign (sound : Sound p log) (alive : p.driver? i = some d)
    (resolved : (d.extractors.resolve field).1 = .ok x) (other : j ≠ i)
    (given : handle ∈ issuedBy j log) : p.Refused d field handle .staleEvent := by
  refine sound.refused_of_stale alive resolved (sound.issued_shape given).2 ?_
  intro y latest issued
  have own := (sound.issued_shape (latestStep_issued latest issued)).1
  have foreign := (sound.issued_shape given).1
  omega

/-- A later step of the driver gave out a later handle, or none. -/
theorem Sound.refused_of_retired {newer older : List (Exchange π)} {y : Exchange π}
    (sound : Sound p (newer ++ y :: older)) (alive : p.driver? i = some d)
    (resolved : (d.extractors.resolve field).1 = .ok x) (own : y.driver = i)
    (issued : y.issued = some handle)
    (stepped : ∃ z ∈ newer, z.driver = i ∧ z.call.isNext = true) :
    p.Refused d field handle .staleEvent := by
  have old : handle ∈ issuedBy i (y :: older) :=
    mem_issuedBy.mpr ⟨y, List.mem_cons_self, own, issued⟩
  have split : issuedBy i (newer ++ y :: older) = issuedBy i newer ++ issuedBy i (y :: older) :=
    List.filterMap_append
  have given : handle ∈ issuedBy i (newer ++ y :: older) := by
    rw [split]
    exact List.mem_append_right _ old
  refine sound.refused_of_stale alive resolved (sound.issued_shape given).2 ?_
  intro w latest again
  have recent : latestStep i newer = some w := by
    obtain ⟨z, logged, driver, step⟩ := stepped
    have hit : (latestStep i newer).isSome = true := by
      rw [latestStep, List.find?_isSome]
      exact ⟨z, logged, by simp [driver, step]⟩
    rw [← latest]
    simp only [latestStep, List.find?_append] at hit ⊢
    rw [Option.or_of_isSome hit]
  have ordered := sound.ordered i
  rw [split, List.pairwise_append] at ordered
  obtain ⟨m, n, seq, seq', less⟩ :=
    ordered.2.2 handle (latestStep_issued recent again) handle old
  cases seq.symm.trans seq'
  exact Nat.lt_irrefl _ less

theorem Sound.handlesRead (sound : Sound p log) (alive : p.driver? i = some d)
    (resolved : (d.extractors.resolve field).1 = .ok x) : p.HandlesRead log i d field x where
  reads handle := by
    simp only [Driver.reads_iff resolved, sound.current_iff alive]
    constructor
    · rintro ⟨e, y, latest, issued, _⟩
      exact ⟨y, latest, issued⟩
    · rintro ⟨y, latest, issued⟩
      obtain ⟨logged, _, step⟩ := latestStep_spec latest
      obtain ⟨e, delivered, _⟩ := ((sound.faithful y logged).issued_iff step).mp issued
      exact ⟨e, y, latest, issued, delivered⟩
  event handle e read := by
    obtain ⟨current, same⟩ := (Driver.reads_iff resolved).mp read
    obtain ⟨y, latest, _, delivered⟩ := (sound.current_iff alive).mp ⟨current, same⟩
    have prepared : (d.prepare field handle).1 = .ok (x, e) := by
      rw [Driver.prepare_of_ok resolved, Driver.event_eq_ok_iff.mpr ⟨current, same⟩]
      rfl
    exact ⟨⟨y, latest, delivered⟩, Driver.extractText_of_ok prepared,
      Driver.extractWithOffsets_of_ok prepared⟩
  null handle null := refused_of_event resolved (Driver.event_null null)
  stale handle := sound.refused_of_stale alive resolved
  foreign j handle := sound.refused_of_foreign alive resolved
  retired newer y older handle split := by
    subst split
    exact sound.refused_of_retired alive resolved

omit [Plugin π ι] in
theorem Sound.answer_null_iff (sound : Sound p log) (logged : y ∈ log) (step : y.call.isNext = true)
    (reply : y.reply = .stepped (.ok (status, handle))) :
    handle.isNull = false ↔ status = .ok := by
  obtain ⟨outcome, answer, success⟩ := sound.faithful y logged step
  rw [reply] at answer
  rcases outcome with p | s
  · simp [Except.map] at answer
  · cases Reply.stepped.inj answer
    cases delivered : y.delivered <;> simp_all [EventHandle.isNull]

/-- Handles are safe in every run: on a driver, a handle leads to an event only if the latest step of
this driver gave it out, and then to the event which that step delivered. -/
theorem Run.handles_safe (run : Run p log) :
    (∀ i d field x, p.driver? i = some d → (d.extractors.resolve field).1 = .ok x →
      p.HandlesRead log i d field x) ∧
    (∀ y ∈ log, ∀ status handle, y.call.isNext = true →
      y.reply = .stepped (.ok (status, handle)) → (handle.isNull = false ↔ status = .ok)) ∧
    ∀ i, (issuedBy i log).Pairwise EventHandle.Later :=
  ⟨fun _ _ _ _ => run.sound.handlesRead, fun _ logged _ _ => run.sound.answer_null_iff logged,
    run.sound.ordered⟩

/-- Each of two drivers reads its own first event, with its own handle only. -/
theorem ticking_handles_safe : ∃ d x, ticking.1.driver? 0 = some d ∧
    ticking.1.HandlesRead ticking.2 0 d "evt.data" x ∧
    (d.extractText ticking.1.host "evt.data" ⟨1, some 0⟩).1 = .ok "tick=0" ∧
    ticking.1.Refused d "evt.data" ⟨2, some 0⟩ .staleEvent := by
  have ready : ∃ d ∈ ticking.1.driver? 0,
      (d.extractors.resolve "evt.data").1.isOk = true ∧
      (d.extractText ticking.1.host "evt.data" ⟨1, some 0⟩).1 = .ok "tick=0" := by decide +kernel
  obtain ⟨d, there, resolves, text⟩ := ready
  cases resolved : (d.extractors.resolve "evt.data").1 with
  | error fault =>
    rw [resolved] at resolves
    contradiction
  | ok x =>
    have safe := ticking_run.handles_safe.1 0 d "evt.data" x there resolved
    exact ⟨d, x, there, safe, text, safe.foreign 1 _ (by decide) (by decide +kernel)⟩

end Process

end EventProbe
