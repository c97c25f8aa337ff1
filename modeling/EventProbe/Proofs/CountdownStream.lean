import EventProbe.Proofs.CountdownSettings
import EventProbe.Proofs.OpenedSources
import EventProbe.Plugins.Bundled
import Mathlib.Algebra.Order.Floor.Div

/-! Engines that count down. After every number of steps it is known how many batches the plugin was asked
for, how many events it produced, and which of them wait in the source. -/
namespace EventProbe

/-! ## Batches -/

section Batches
variable {k m : Nat}

theorem ceilDiv_succ_of_lt (positive : 0 < m) (inside : k < m * (k ⌈/⌉ m)) :
    (k + 1) ⌈/⌉ m = k ⌈/⌉ m := by
  apply Nat.le_antisymm
  · exact (ceilDiv_le_iff_le_mul positive).mpr inside
  · rw [ceilDiv_le_iff_le_mul positive]
    exact Nat.le_trans (Nat.le_succ k) (le_smul_ceilDiv positive)

theorem ceilDiv_succ_of_eq (positive : 0 < m) (edge : m * (k ⌈/⌉ m) = k) :
    (k + 1) ⌈/⌉ m = k ⌈/⌉ m + 1 := by
  apply Nat.le_antisymm
  · rw [ceilDiv_le_iff_le_mul positive, Nat.mul_add, edge]
    omega
  · by_contra short
    have covers : k + 1 ≤ m * ((k + 1) ⌈/⌉ m) := le_smul_ceilDiv positive
    have most := Nat.mul_le_mul_left m (Nat.le_of_lt_succ (Nat.lt_of_not_le short))
    omega

end Batches

namespace Countdown

/-- How many of `n` events were produced, in batches of `m`, when `k` steps were taken. -/
def producedBy (n m k : Nat) : Nat := min n (m * (k ⌈/⌉ m))

/-- How often a source was asked for a batch. It is asked once more when it is exhausted. -/
def asksBy (n m k : Nat) : Nat :=
  if k ≤ n then k ⌈/⌉ m else n ⌈/⌉ m + 1

/-- The plugin after `k` steps of a source. -/
def since (n m k : Nat) : Countdown := ⟨n, m, asksBy n m k, producedBy n m k⟩

/-- The event that a step after `k` others delivers. -/
def delivered (owner : Handle) (platform : Option Platform) (now n k : Nat) : Event :=
  ⟨k, now, "countdown", pluginEventType, Utf8.encode s!"{n - 1 - k} events remaining", platform,
    some owner⟩

/-- The events of a source that wait when so many were produced and `k` of them taken. -/
def waiting (n produced k : Nat) : List BatchEvent :=
  (List.range' k (produced - k)).map fun j => event (n - 1 - j)

section Steps
variable {n m k : Nat}

theorem le_producedBy (positive : 0 < m) (within : k ≤ n) : k ≤ producedBy n m k :=
  Nat.le_min.mpr ⟨within, le_smul_ceilDiv positive⟩

theorem producedBy_of_le (past : n ≤ k) (positive : 0 < m) : producedBy n m k = n :=
  Nat.min_eq_left (Nat.le_trans past (le_smul_ceilDiv positive))

theorem waiting_of_le {produced : Nat} (taken : produced ≤ k) : waiting n produced k = [] := by
  rw [waiting, Nat.sub_eq_zero_of_le taken]
  rfl

/-- While events wait, a step takes the first and asks for none. -/
theorem since_succ_of_waiting (positive : 0 < m) (waits : k < producedBy n m k) :
    since n m (k + 1) = since n m k ∧
      waiting n (producedBy n m k) k =
        event (n - 1 - k) :: waiting n (producedBy n m (k + 1)) (k + 1) := by
  obtain ⟨within, inside⟩ := Nat.lt_min.mp waits
  have ceil := ceilDiv_succ_of_lt positive inside
  have produced : producedBy n m (k + 1) = producedBy n m k := by rw [producedBy, ceil, producedBy]
  constructor
  · rw [since, since, produced, asksBy, asksBy, if_pos (by omega), if_pos (by omega), ceil]
  · have size : producedBy n m k - k = producedBy n m k - (k + 1) + 1 := by omega
    rw [waiting, size, List.range'_succ, List.map_cons, waiting, produced]

/-- When all are taken, a step asks for the next batch. -/
theorem since_succ_of_taken (positive : 0 < m) (within : k < n) (taken : producedBy n m k = k) :
    (since n m (k + 1)).batches = (since n m k).batches + 1 ∧
      producedBy n m (k + 1) = k + min (n - k) m := by
  have edge : m * (k ⌈/⌉ m) = k := by
    unfold producedBy at taken
    omega
  have ceil := ceilDiv_succ_of_eq positive edge
  constructor
  · simp only [since, asksBy, ceil, if_pos (show k + 1 ≤ n by omega), if_pos (show k ≤ n by omega)]
  · rw [producedBy, ceil, Nat.mul_add, edge]
    omega

/-- Once the stream is over, no step changes the plugin. -/
theorem since_succ_of_past (positive : 0 < m) (past : n < k) : since n m (k + 1) = since n m k := by
  rw [since, since, producedBy_of_le (by omega) positive, producedBy_of_le (Nat.le_of_lt past) positive,
    asksBy, asksBy, if_neg (by omega), if_neg (by omega)]

/-- A batch goes on where the events that were taken end. -/
theorem batch_eq (positive : 0 < m) (within : k < n) :
    (Stream.mk (n - k) m).batch = event (n - 1 - k) :: waiting n (k + min (n - k) m) (k + 1) := by
  obtain ⟨size, some⟩ : ∃ size, min (n - k) m = size + 1 := ⟨min (n - k) m - 1, by omega⟩
  have rest : k + (size + 1) - (k + 1) = size := by omega
  have batch : (Stream.mk (n - k) m).batch =
      (List.range' k (min (n - k) m)).map fun j => event (n - 1 - j) := by
    rw [List.range'_eq_map_range, List.map_map]
    apply List.map_congr_left
    intro i _
    simp only [Function.comp_apply]
    congr 1
    omega
  rw [batch, some, List.range'_succ, List.map_cons, waiting, rest]

end Steps

end Countdown

/-! ## Engines -/

section Engines
variable [Plugin ρ κ] {g : Engine (BundledSource ⊕ κ)} {h h' : Host (Bundled ⊕ ρ)} {c : Handle}
  {n m k : Nat}

namespace Countdown

def status (n k : Nat) : Status := if k < n then .ok else .eof

def due (owner : Handle) (platform : Option Platform) (now n k : Nat) : Option Event :=
  if k < n then some (delivered owner platform now n k) else none

/-- The source after `k` steps, with the events that wait in it. -/
def feed (owner : Handle) (n m k : Nat) (pending : List BatchEvent) : Source (BundledSource ⊕ κ) :=
  .plugin ⟨owner, "countdown", .inl (.inl ⟨n - producedBy n m k, m⟩), pending⟩

/-- The batch that a source hands out when all events before it were taken. -/
theorem nextBatch_since (positive : 0 < m) (within : k < n) (taken : producedBy n m k = k) :
    Plugin.nextBatch (.inl (.inl (since n m k)) : Bundled ⊕ ρ)
        (.inl (.inl ⟨n - producedBy n m k, m⟩) : BundledSource ⊕ κ) =
      (.ok (.events (event (n - 1 - k) :: waiting n (producedBy n m (k + 1)) (k + 1))),
        .inl (.inl (since n m (k + 1))), .inl (.inl ⟨n - producedBy n m (k + 1), m⟩)) := by
  obtain ⟨asked, produced⟩ := since_succ_of_taken positive within taken
  have left : n - k ≠ 0 := by omega
  have after : n - k - min (n - k) m = n - (k + min (n - k) m) := by omega
  simp only [since] at asked
  simp only [Plugin.nextBatch, since, taken, left, if_false, batch_eq positive within, produced, asked,
    after]

/-- A source that is exhausted stays so, and the call is counted. -/
theorem nextBatch_exhausted (positive : 0 < m) :
    Plugin.nextBatch (.inl (.inl (since n m n)) : Bundled ⊕ ρ)
        (.inl (.inl ⟨n - producedBy n m n, m⟩) : BundledSource ⊕ κ) =
      (.ok .endOfStream, .inl (.inl (since n m (n + 1))),
        .inl (.inl ⟨n - producedBy n m (n + 1), m⟩)) := by
  have all := producedBy_of_le (Nat.le_refl n) positive
  have all' := producedBy_of_le (Nat.le_succ n) positive
  have past : ¬ n + 1 ≤ n := by omega
  simp only [Plugin.nextBatch, since, all, all', Nat.sub_self, if_true, asksBy, past, if_false,
    Nat.le_refl]

/-- While there are events, a step takes the first that waits, or else asks for a batch. -/
theorem pull_feed (positive : 0 < m) (within : k < n) (keeps : h.Keeps c (.inl (.inl (since n m k)))) :
    ∃ h', h'.Keeps c (.inl (.inl (since n m (k + 1)))) ∧
      (feed c n m k (waiting n (producedBy n m k) k) : Source (BundledSource ⊕ κ)).pull h =
        (.ok (.event ⟨h.now, "countdown", pluginEventType, (event (n - 1 - k)).data, some c⟩),
          feed c n m (k + 1) (waiting n (producedBy n m (k + 1)) (k + 1)), h') := by
  obtain taken | waits := Nat.eq_or_lt_of_le (le_producedBy positive (Nat.le_of_lt within))
  · rw [waiting_of_le (Nat.le_of_eq taken.symm)]
    exact keeps.pull "countdown" (nextBatch_since positive within taken.symm)
  · obtain ⟨same, first⟩ := since_succ_of_waiting positive waits
    rw [← same] at keeps
    have produced : producedBy n m (k + 1) = producedBy n m k := congrArg Countdown.produced same
    refine ⟨h, keeps, ?_⟩
    simp only [feed, Source.pull, PluginStream.pull, first, PluginStream.raw, event, Option.getD_none,
      produced]

end Countdown

open Countdown

/-- An engine that took `k` steps since it opened a source of a countdown. -/
structure Engine.Counts (c : Handle) (n m k : Nat) (g : Engine (BundledSource ⊕ κ))
    (h : Host (Bundled ⊕ ρ)) : Prop where
  keeps : h.Keeps c (.inl (.inl (since n m k)))
  current : (∃ j now, k = j + 1 ∧ j < n ∧ g.current = some (delivered c g.platform now n j)) ∨
    (k = 0 ∨ n < k) ∧ g.current = none
  opened : ∃ pending, g.source = some (feed c n m k pending) ∧
    (k ≤ n ∧ g.finished = none ∧ g.nextNum = k ∧ pending = waiting n (producedBy n m k) k ∨
      n < k ∧ g.finished = some .eof)

namespace Engine.Counts

theorem kept (counts : g.Counts c n m k h) (registry : Registry)
    (leaves : h.Leaves c.slot h') : Engine.Counts c n m k { g with registry } h' where
  keeps := counts.keeps.later (Plugin.still_bundled _) leaves
  current := counts.current
  opened := counts.opened

/-- What is known of a step after `k` others. -/
structure Next (c : Handle) (n m k : Nat) (g : Engine (BundledSource ⊕ κ)) (h : Host (Bundled ⊕ ρ)) :
    Prop where
  status : (g.next h).1 = .ok (status n k)
  delivery : g.delivery h = due c g.platform h.now n k
  counts : (g.next h).2.1.Counts c n m (k + 1) (g.next h).2.2

/-- While there are events, a step delivers the next. -/
theorem next_of_lt (positive : 0 < m) (keeps : h.Keeps c (.inl (.inl (since n m k)))) (inside : k < n)
    (opened : g.source = some (feed c n m k (waiting n (producedBy n m k) k)))
    (going : g.finished = none) (count : g.nextNum = k)
    (quiet : ∀ p ∈ g.registry.plugins, p.manifest.can .eventParsing = false) : Next c n m k g h := by
  obtain ⟨h', after, pulled⟩ := pull_feed positive inside keeps
  obtain ⟨stepped, delivers⟩ := Engine.next_event going opened pulled quiet
  subst count
  constructor
  · rw [stepped, status, if_pos inside]
  · rw [delivers, due, if_pos inside]
    rfl
  · rw [stepped]
    exact ⟨after, .inl ⟨_, h.now, rfl, inside, rfl⟩, _, rfl, .inl ⟨inside, going, rfl, rfl⟩⟩

/-- The first step without an event asks for one more batch. -/
theorem next_at_end (positive : 0 < m) (keeps : h.Keeps c (.inl (.inl (since n m n))))
    (opened : g.source = some (feed c n m n [])) (going : g.finished = none) : Next c n m n g h := by
  obtain ⟨h', after, pulled⟩ := keeps.pull "countdown" (nextBatch_exhausted positive)
  obtain ⟨stepped, delivers⟩ := Engine.next_eof going opened pulled
  constructor
  · rw [stepped, status, if_neg (Nat.lt_irrefl n)]
  · rw [delivers, due, if_neg (Nat.lt_irrefl n)]
  · rw [stepped]
    exact ⟨after, .inr ⟨.inr (Nat.lt_succ_self n), rfl⟩, _, rfl, .inr ⟨Nat.lt_succ_self n, rfl⟩⟩

theorem next (positive : 0 < m) (counts : g.Counts c n m k h)
    (quiet : ∀ p ∈ g.registry.plugins, p.manifest.can .eventParsing = false) : Next c n m k g h := by
  obtain ⟨pending, opened, ⟨within, going, count, rfl⟩ | ⟨past, ended⟩⟩ := counts.opened
  · obtain inside | rfl := Nat.lt_or_eq_of_le within
    · exact next_of_lt positive counts.keeps inside opened going count quiet
    · rw [producedBy_of_le (Nat.le_refl k) positive, waiting_of_le (Nat.le_refl k)] at opened
      exact next_at_end positive counts.keeps opened going
  · -- The stream is over, and nothing is asked for any more.
    obtain ⟨stepped, delivers⟩ := Engine.next_ended ended h
    have past' : ¬ k < n := by omega
    have keeps := counts.keeps
    rw [← since_succ_of_past positive past] at keeps
    have same : producedBy n m (k + 1) = producedBy n m k :=
      congrArg Countdown.produced (since_succ_of_past positive past)
    constructor
    · rw [stepped, status, if_neg past']
    · rw [delivers, due, if_neg past']
    · rw [stepped]
      refine ⟨keeps, .inr ⟨.inr (by omega), rfl⟩, pending, ?_, .inr ⟨by omega, ended⟩⟩
      rw [feed, same]
      exact opened

end Engine.Counts

end Engines

end EventProbe
