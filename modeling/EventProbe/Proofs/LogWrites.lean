import EventProbe.Log.Subscriber

/-! What is seen of the writes of a run. The texts of the program itself do not depend on its log; when
the log warns of nothing and its filter lets only warnings pass, they are all that is seen. -/
namespace EventProbe

namespace Log

def Entry.isWarning (e : Entry) : Bool :=
  Level.warn.rank ≤ e.level.rank

def Quiet (entries : List Entry) : Prop :=
  ∀ e ∈ entries, e.isWarning = false

section Entries
variable {e : Entry} {entries more : List Entry}

@[simp] theorem isWarning_debug (part : Part) (message : String) :
    (Entry.debug part message).isWarning = false :=
  rfl

@[simp] theorem isWarning_info (part : Part) (message : String) :
    (Entry.info part message).isWarning = false :=
  rfl

@[simp] theorem quiet_nil : Quiet [] :=
  List.forall_mem_nil _

@[simp] theorem quiet_cons : Quiet (e :: entries) ↔ e.isWarning = false ∧ Quiet entries :=
  List.forall_mem_cons

@[simp] theorem quiet_append : Quiet (entries ++ more) ↔ Quiet entries ∧ Quiet more :=
  List.forall_mem_append

end Entries

end Log

namespace Write

def logged (writes : List Write) : List Log.Entry :=
  writes.filterMap fun
    | .text _ => none
    | .log e => some e

section Writes
variable {writes more : List Write}

@[simp] theorem texts_append : texts (writes ++ more) = texts writes ++ texts more :=
  List.filterMap_append

@[simp] theorem logged_append : logged (writes ++ more) = logged writes ++ logged more :=
  List.filterMap_append

@[simp] theorem texts_ofLog (entries : List Log.Entry) : texts (ofLog entries) = [] := by
  simp only [texts, ofLog, List.filterMap_map, List.filterMap_eq_nil_iff]
  intro e _
  rfl

@[simp] theorem logged_ofLog (entries : List Log.Entry) : logged (ofLog entries) = entries := by
  simp only [logged, ofLog, List.filterMap_map]
  exact List.filterMap_some

end Writes

end Write

namespace Log.Subscriber
variable {s : Subscriber} {filter : s.Filter} {writes : List Write}

/-- No entry below a warning passes the filter. -/
def WarnsOnly (s : Subscriber) (filter : s.Filter) : Prop :=
  ∀ e, e.isWarning = false → s.passes filter e = false

theorem mute_of_off (s : Subscriber) {environment : Environment} (level : String)
    (off : environment.lookup "INSPECT_LOG" = some "off") (e : Entry) :
    s.passes (s.filter environment level) e = false := by
  obtain ⟨filter, parsed, mutes⟩ := s.off
  simp only [Subscriber.filter, off, Option.bind_some, parsed, Option.getD_some]
  exact mutes e

theorem warnsOnly_of_off {environment : Environment} (level : String)
    (off : environment.lookup "INSPECT_LOG" = some "off") :
    s.WarnsOnly (s.filter environment level) :=
  fun e _ => s.mute_of_off level off e

/-- Where no entry passes, the texts of the program are all that is seen. -/
theorem shown_eq_texts (mute : ∀ e ∈ Write.logged writes, s.passes filter e = false) (n : Nat) :
    s.shown filter n writes = Write.texts writes := by
  induction writes generalizing n with
  | nil => rfl
  | cons w rest ih =>
    cases w with
    | text t => exact congrArg (t :: ·) (ih mute n)
    | log e =>
      obtain ⟨here, later⟩ := List.forall_mem_cons.mp mute
      simp only [shown, here, Bool.false_eq_true, if_false]
      exact ih later (n + 1)

theorem WarnsOnly.shown_eq (only : s.WarnsOnly filter) (quiet : Quiet (Write.logged writes)) (n : Nat) :
    s.shown filter n writes = Write.texts writes :=
  shown_eq_texts (fun e told => only e (quiet e told)) n

end Log.Subscriber

end EventProbe
