import EventProbe.Dump
import EventProbe.Proofs.Process

/-! Streams of bundled plugins end. These plugins neither fail nor panic while they generate and parse
events, so a step of a driver delivers the next event, waits or finds the end of the stream, and each
step before the end uses up one of finitely many attempts. -/
namespace EventProbe

/-! ## Sources -/

/-- A plugin whose sources never generate empty batches for ever. -/
def Bundled.Sound : Bundled → Prop
  | .inl p => p.batchSize ≠ 0
  | _ => True

namespace BundledSource

def Sound : BundledSource → Prop
  | .inl stream => stream.batchSize ≠ 0
  | _ => True

/-- At most how often a source can be asked before it is exhausted. -/
def attempts : BundledSource → Nat
  | .inl stream => stream.remaining
  | .inr (.inr (.inr (.inl ticks))) => 2 * (ticks.count - ticks.next) - if ticks.idle then 0 else 1
  | _ => 0

/-- A source gives some events, waits, or is exhausted. -/
inductive Gives (i : BundledSource) : Except Panic Batch → BundledSource → Prop where
  | events (list : List BatchEvent) : Sound j → list ≠ [] → list.length + attempts j ≤ attempts i →
      Gives i (.ok (.events list)) j
  | nothing : Sound j → attempts j < attempts i → Gives i (.ok (.events [])) j
  | exhausted : Gives i (.ok .endOfStream) j

end BundledSource

section Countdown
variable {s : Countdown.Stream}

theorem Countdown.Stream.length_batch (s : Countdown.Stream) :
    s.batch.length = min s.remaining s.batchSize := by
  simp [batch]

theorem Countdown.Stream.gives (p : Countdown) (sound : s.batchSize ≠ 0) :
    BundledSource.Gives (.inl s) (Plugin.nextBatch p s).1 (.inl (Plugin.nextBatch p s).2.2) := by
  by_cases spent : s.remaining = 0
  · simp only [Plugin.nextBatch, spent, if_true]
    exact .exhausted
  · simp only [Plugin.nextBatch, spent, if_false]
    have length := s.length_batch
    refine .events s.batch sound ?_ ?_
    · intro nothing
      rw [nothing, List.length_nil] at length
      omega
    · rw [length]
      simp only [BundledSource.attempts]
      omega

end Countdown

theorem TestSource.Ticks.gives (p : TestSource) (s : TestSource.Ticks) :
    BundledSource.Gives (.inr (.inr (.inr (.inl s)))) (Plugin.nextBatch p s).1
      (.inr (.inr (.inr (.inl (Plugin.nextBatch p s).2.2)))) := by
  by_cases spent : s.count ≤ s.next
  · simp only [Plugin.nextBatch, spent, if_true]
    exact .exhausted
  · simp only [Plugin.nextBatch, spent, if_false]
    cases idle : s.idle with
    | true =>
      simp only [if_true]
      refine .nothing trivial ?_
      simp only [BundledSource.attempts, idle, if_true, Bool.false_eq_true, if_false]
      omega
    | false =>
      simp only [Bool.false_eq_true, if_false]
      refine .events _ trivial (by simp) ?_
      simp only [BundledSource.attempts, idle, Bool.false_eq_true, if_true, if_false,
        List.length_singleton]
      omega

namespace Plugin

theorem nextBatch_bundled (p : Bundled) {i : BundledSource} (sound : i.Sound) :
    i.Gives (Plugin.nextBatch p i).1 (Plugin.nextBatch p i).2.2 := by
  rcases p with p | p | p | p | p
  all_goals rcases i with i | i | i | i | i
  case inl.inl => exact i.gives p sound
  case inr.inr.inr.inl.inr.inr.inr.inl => exact i.gives p
  all_goals exact .exhausted

theorem openSource_bundled {p : Bundled} (sound : p.Sound) {params : String} {i : BundledSource}
    (opened : (Plugin.openSource p params).1 = .ok i) : i.Sound := by
  rcases p with p | p | p | p | p
  · cases opened
    exact sound
  · cases opened
  · simp only [Plugin.openSource] at opened
    split at opened <;> cases opened
    trivial
  · cases opened
    trivial
  · cases opened

theorem parse_bundled (p : Bundled) (e : Event) : (Plugin.parse p e).1 = .ok () := by
  rcases p with p | p | p | p | p <;> rfl

end Plugin

namespace Source

def Sound : Source BundledSource → Prop
  | .capture _ => True
  | .plugin stream => stream.state.Sound

/-- At most how often a source is asked for an event before it is exhausted. -/
def attempts : Source BundledSource → Nat
  | .capture records => records.length
  | .plugin stream => stream.pending.length + stream.state.attempts

/-- A source gives an event, waits or is exhausted. -/
inductive Supplies (s : Source BundledSource) : Except Panic Pulled → Source BundledSource → Prop where
  | event : Sound s' → attempts s' < attempts s → Supplies s (.ok (.event raw)) s'
  | timeout : Sound s' → attempts s' < attempts s → Supplies s (.ok .timeout) s'
  | eof : Supplies s (.ok .eof) s'

theorem attempts_lt_steps (s : Source BundledSource) : s.attempts < Dump.steps s := by
  cases s with
  | capture records => exact Nat.lt_succ_self _
  | plugin stream =>
    have bound : stream.state.attempts ≤ Dump.sourceSteps stream.state := by
      rcases stream.state with i | i | i | i | i
      case inr.inr.inr.inl => exact Nat.sub_le _ _
      all_goals exact Nat.le_refl _
    exact Nat.lt_succ_of_le (Nat.add_le_add_left bound _)

end Source

section Steps
variable {s : Source BundledSource} {h : Host Bundled}

theorem Host.nextBatch_bundled (h : Host Bundled) (p : Handle) {i : BundledSource} (sound : i.Sound) :
    i.Gives (h.nextBatch p i).1 (h.nextBatch p i).2.1 := by
  unfold Host.nextBatch Host.call
  cases h.slots[p.slot]? with
  | none => exact .exhausted
  | some slot => exact Plugin.nextBatch_bundled slot.state sound

theorem Host.openSource_bundled {p : Handle} {params : String} {i : BundledSource}
    (sound : ∀ slot ∈ h.slots, slot.state.Sound) (opened : (h.openSource p params).1 = .ok i) :
    i.Sound := by
  unfold Host.openSource Host.call at opened
  split at opened
  · cases opened
  · rename_i slot found
    exact Plugin.openSource_bundled (sound slot (List.mem_of_getElem? found)) opened

theorem Source.Sound.supplies (sound : s.Sound) (h : Host Bundled) :
    s.Supplies (s.pull h).1 (s.pull h).2.1 := by
  cases s with
  | capture records =>
    cases records with
    | nil => exact .eof
    | cons r rest => exact .event trivial (Nat.lt_succ_self _)
  | plugin stream =>
    obtain ⟨owner, source, state, pending⟩ := stream
    cases pending with
    | cons e rest =>
      refine .event sound ?_
      simp only [pull, PluginStream.pull, attempts, List.length_cons]
      omega
    | nil =>
      have gives := h.nextBatch_bundled owner (i := state) sound
      rcases asked : h.nextBatch owner state with ⟨batch, state', h'⟩
      simp only [asked] at gives
      simp only [pull, PluginStream.pull, asked]
      cases gives with
      | @events j list sound' some bound =>
        cases list with
        | nil => exact absurd rfl some
        | cons e rest =>
          refine .event sound' ?_
          simp only [attempts, List.length_cons, List.length_nil] at bound ⊢
          omega
      | nothing sound' less =>
        refine .timeout sound' ?_
        simpa [attempts] using less
      | exhausted => exact .eof

theorem Host.parse_bundled (h : Host Bundled) (p : Handle) (e : Event) :
    (h.parse p e).1 = .ok () := by
  unfold Host.parse Host.call
  cases h.slots[p.slot]? with
  | none => rfl
  | some slot => exact Plugin.parse_bundled slot.state e

theorem Engine.offer_bundled (h : Host Bundled) (e : Event) (plugins : List Handle) :
    (offer h e plugins).1 = .ok () := by
  induction plugins generalizing h with
  | nil => rfl
  | cons p rest ih =>
    have accepts := h.parse_bundled p e
    unfold offer
    split
    · rcases parsed : h.parse p e with ⟨answer, h'⟩
      rw [parsed] at accepts
      cases accepts
      exact ih h'
    · exact ih h

/-! ## Drivers -/

structure Driver.Streaming (d : Driver BundledSource) (s : Source BundledSource) : Prop where
  capturing : d.state = .capturing
  unfinished : d.engine.finished = none
  source : d.engine.source = some s
  sound : s.Sound

/-- A step of a driver delivers the event with the next number, waits, or finds the stream exhausted. -/
inductive Driver.Proceeds (d : Driver BundledSource) (s : Source BundledSource) :
    Except Panic (Status × EventHandle) → Driver BundledSource → Prop where
  | event : d'.Streaming s' → s'.attempts < s.attempts →
      d'.engine.nextNum = d.engine.nextNum + 1 →
      Proceeds d s (.ok (.ok, ⟨d.id, some d.engine.nextNum⟩)) d'
  | timeout : d'.Streaming s' → s'.attempts < s.attempts → d'.engine.nextNum = d.engine.nextNum →
      Proceeds d s (.ok (.timeout, ⟨d.id, none⟩)) d'
  | eof : Proceeds d s (.ok (.eof, ⟨d.id, none⟩)) d'

theorem Driver.Streaming.next {d : Driver BundledSource} (streaming : d.Streaming s)
    (h : Host Bundled) : d.Proceeds s (d.next h).1 (d.next h).2.1 := by
  obtain ⟨capturing, unfinished, source, sound⟩ := streaming
  have step := d.engine.next_advances h
  have supplies := sound.supplies h
  rw [next_of_capturing capturing h]
  generalize d.engine.delivery h = delivered at step
  rcases stepped : d.engine.next h with ⟨result, g, h'⟩
  rw [stepped] at step
  cases step with
  | ended finished => cases unfinished.symm.trans finished
  | closed _ closed => cases source.symm.trans closed
  | interrupted _ opened pulled | failed _ opened pulled =>
    cases source.symm.trans opened
    rw [pulled] at supplies
    cases supplies
  | timeout _ opened pulled =>
    cases source.symm.trans opened
    rw [pulled] at supplies
    cases supplies with
    | timeout sound' less => exact .timeout ⟨capturing, unfinished, rfl, sound'⟩ less rfl
  | eof _ opened pulled => exact .eof
  | delivered _ opened pulled _ =>
    cases source.symm.trans opened
    rw [pulled] at supplies
    cases supplies with
    | event sound' less => exact .event ⟨capturing, unfinished, rfl, sound'⟩ less rfl
  | refused _ _ _ offered | parsePanicked _ _ _ offered =>
    cases (congrArg Prod.fst offered).symm.trans (Engine.offer_bundled _ _ _)

theorem Driver.Streaming.proceeds {d d' : Driver BundledSource} {h' : Host Bundled}
    {answer : Except Panic (Status × EventHandle)} (streaming : d.Streaming s)
    (stepped : d.next h = (answer, d', h')) : d.Proceeds s answer d' := by
  have proceeds := streaming.next h
  rwa [stepped] at proceeds

end Steps

end EventProbe
