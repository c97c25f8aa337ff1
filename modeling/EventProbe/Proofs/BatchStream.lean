import EventProbe.Event
import EventProbe.Status

/-! The stream that the batches of a source stand for: a flat list of items, one for each call that
asks for an event. The cuts between batches do not show in it. -/
namespace EventProbe

/-- What one call of `next` meets in the batches of a source. -/
inductive Item where
  | event (e : BatchEvent)
  | pause
  /-- The stream is over. -/
  | stop (status : Status)

namespace Item

def isEvent : Item → Bool
  | .event _ => true
  | _ => false

def isStop : Item → Bool
  | .stop _ => true
  | _ => false

def status : Item → Status
  | .event _ => .ok
  | .pause => .timeout
  | .stop s => s

def seen (make : BatchEvent → Event) : Item → Option Event
  | .event e => some (make e)
  | _ => none

end Item

/-- The items of a batch. An empty batch is a pause. -/
def Batch.items : Batch → List Item
  | .events [] => [.pause]
  | .events list => list.map .event
  | .timeout => [.pause]
  | .endOfStream => [.stop .eof]
  | .failed _ => [.stop .error]

def Batch.first : Batch → Item
  | .events (e :: _) => .event e
  | .events [] => .pause
  | .timeout => .pause
  | .endOfStream => .stop .eof
  | .failed _ => .stop .error

theorem Batch.items_eq (b : Batch) : b.items = b.first :: b.items.tail := by
  cases b with
  | events list => cases list <;> rfl
  | _ => rfl

def flatten (batches : List Batch) : List Item :=
  batches.flatMap Batch.items

/-- The item that a call meets after `k` other calls. What ends the stream is met again and again. -/
def meets (items : List Item) (k : Nat) : Option Item :=
  ((items.take k).find? Item.isStop).or items[k]?

theorem flatten_append (batches batches' : List Batch) :
    flatten (batches ++ batches') = flatten batches ++ flatten batches' :=
  List.flatMap_append

theorem flatten_cons (b : Batch) (batches : List Batch) :
    flatten (b :: batches) = b.items ++ flatten batches :=
  List.flatMap_cons

section Lists
variable {items ahead rest : List Item} {item : Item} {k num : Nat}

/-- So many items were met, none of them ended the stream, and `num` of them are events. -/
structure Met (items : List Item) (k num : Nat) (ahead : List Item) : Prop where
  ahead : items.drop k = ahead
  going : (items.take k).find? Item.isStop = none
  count : (items.take k).countP Item.isEvent = num

theorem take_succ_of_drop {list rest : List α} {a : α} (ahead : list.drop k = a :: rest) :
    list.take (k + 1) = list.take k ++ [a] := by
  have bound : k < list.length := by
    have := congrArg List.length ahead
    simp only [List.length_drop, List.length_cons] at this
    omega
  rw [List.drop_eq_getElem_cons bound, List.cons.injEq] at ahead
  rw [List.take_succ_eq_append_getElem bound, ahead.1]

theorem drop_succ_of_drop {list rest : List α} {a : α} (ahead : list.drop k = a :: rest) :
    list.drop (k + 1) = rest := by
  rw [← List.drop_drop, ahead]
  rfl

theorem Met.meets_eq (met : Met items k num (item :: rest)) : meets items k = some item := by
  have here : items[k]? = some item := by
    rw [← List.head?_drop, met.ahead]
    rfl
  simp only [meets, met.going, here, Option.none_or]

theorem Met.meets_none (met : Met items k num []) : meets items k = none := by
  have here : items[k]? = none := by
    rw [← List.head?_drop, met.ahead]
    rfl
  simp only [meets, met.going, here, Option.none_or]

theorem Met.event (met : Met items k num (.event e :: rest)) :
    Met items (k + 1) (num + 1) rest where
  ahead := drop_succ_of_drop met.ahead
  going := by simp [take_succ_of_drop met.ahead, List.find?_append, met.going, Item.isStop]
  count := by simp [take_succ_of_drop met.ahead, met.count, Item.isEvent]

theorem Met.pause (met : Met items k num (.pause :: rest)) : Met items (k + 1) num rest where
  ahead := drop_succ_of_drop met.ahead
  going := by simp [take_succ_of_drop met.ahead, List.find?_append, met.going, Item.isStop]
  count := by simp [take_succ_of_drop met.ahead, met.count, Item.isEvent]

theorem Met.stop (met : Met items k num (.stop s :: rest)) :
    (items.take (k + 1)).find? Item.isStop = some (.stop s) := by
  simp [take_succ_of_drop met.ahead, List.find?_append, met.going, Item.isStop]

theorem meets_of_stop (ended : (items.take k).find? Item.isStop = some item) :
    meets items k = some item := by
  simp only [meets, ended, Option.some_or]

theorem find?_take_succ (ended : (items.take k).find? Item.isStop = some item) :
    (items.take (k + 1)).find? Item.isStop = some item := by
  rw [List.take_add_one, List.find?_append, ended, Option.some_or]

/-- Where the cuts are does not show in the items, as long as no batch is empty. -/
theorem flatten_cuts (cuts : List (List BatchEvent)) (full : ∀ cut ∈ cuts, cut ≠ []) :
    flatten (cuts.map .events) = cuts.flatten.map .event := by
  induction cuts with
  | nil => rfl
  | cons cut rest ih =>
    obtain ⟨nonempty, full⟩ := List.forall_mem_cons.mp full
    have here : (Batch.events cut).items = cut.map .event := by
      cases cut with
      | nil => exact absurd rfl nonempty
      | cons e es => rfl
    simp only [flatten, List.map_cons, List.flatMap_cons, here] at ih ⊢
    rw [ih full, List.flatten_cons, List.map_append]

theorem meets_of_succ (met : meets items (k + 1) = some item) :
    ∃ earlier, meets items k = some earlier := by
  cases before : meets items k with
  | some earlier => exact ⟨earlier, rfl⟩
  | none =>
    obtain ⟨going, past⟩ := Option.or_eq_none_iff.mp before
    have bound : items.length ≤ k := List.getElem?_eq_none_iff.mp past
    rw [List.take_of_length_le bound] at going
    have nothing : meets items (k + 1) = none := by
      rw [meets, List.take_of_length_le (Nat.le_succ_of_le bound), going,
        List.getElem?_eq_none (Nat.le_succ_of_le bound)]
      rfl
    rw [nothing] at met
    cases met

end Lists

/-- The same events in the same order between the same other batches, but cut into batches in
another way; no batch of the cut events is empty. -/
inductive Recut : List Batch → List Batch → Prop where
  | nil : Recut [] []
  | same (b : Batch) : Recut rest rest' → Recut (b :: rest) (b :: rest')
  | cut {cuts cuts' : List (List BatchEvent)} : (∀ cut ∈ cuts, cut ≠ []) →
      (∀ cut ∈ cuts', cut ≠ []) → cuts.flatten = cuts'.flatten →
      Recut rest rest' → Recut (cuts.map .events ++ rest) (cuts'.map .events ++ rest')

theorem Recut.flatten_eq (recut : Recut batches batches') : flatten batches = flatten batches' := by
  induction recut with
  | nil => rfl
  | same b _ ih => exact congrArg (b.items ++ ·) ih
  | cut full full' events _ ih =>
    rw [flatten_append, flatten_append, flatten_cuts _ full, flatten_cuts _ full', events, ih]

end EventProbe
