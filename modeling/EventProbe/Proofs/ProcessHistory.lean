import EventProbe.Proofs.HandleSafety

/-! What the log of a process tells of its drivers. A property of a driver and its part of the log is
carried over a run by the driver's own calls; every logged call was made in a state of the run that
has the older calls as its log. -/
namespace EventProbe.Process
variable [Plugin π ι] {p : Process π ι} {log : List (Exchange π)} {d : Driver ι} {i : Nat}

omit [Plugin π ι] in
theorem create_slots (p : Process π ι) (settings : Config.Settings) :
    (p.create settings).host.slots = p.host.slots := by
  obtain kept | ⟨flags, hostname, made⟩ := p.create_cases settings
  · rw [kept]
  · rw [made]

/-- What holds of a new driver, for which nothing is logged, and is carried on by its own calls, by the
log entries of others and by the growth of the process, holds of every driver. -/
theorem Run.tracks_in (holds : Nat → List (Exchange π) → Host π → Driver ι → Prop)
    (fresh : ∀ i log h id hostname flags, (∀ x ∈ log, x.driver ≠ i) →
      holds i log h ⟨id, Engine.fresh hostname, Extractors.fresh, Collector.fresh flags, .idle⟩)
    (later : ∀ i log h h' d, h.slots.map Slot.manifest <+: h'.slots.map Slot.manifest →
      holds i log h d → holds i log h' d)
    (own : ∀ i p log d c, Run p log → p.driver? i = some d → holds i log p.host d →
      holds i (⟨i, c, (d.perform p.host c).1, d.delivered p.host c⟩ :: log)
        (d.perform p.host c).2.2 (d.perform p.host c).2.1)
    (other : ∀ i log h d (x : Exchange π), x.driver ≠ i → holds i log h d → holds i (x :: log) h d)
    (run : Run p log) (there : p.driver? i = some d) : holds i log p.host d := by
  induction run generalizing i d with
  | start environment => simp [driver?] at there
  | @elapse p log environment now run ih =>
    exact later i log p.host _ d List.prefix_rfl (ih there)
  | @create p log settings run ih =>
    have grows : p.host.slots.map Slot.manifest <+:
        (p.create settings).host.slots.map Slot.manifest := by
      simp only [p.create_slots settings, List.prefix_rfl]
    obtain old | ⟨rfl, flags, hostname, rfl⟩ := driver?_create there
    · exact later i log p.host _ d grows (ih old)
    · apply fresh
      intro x logged
      exact Nat.ne_of_lt (run.sound.logged x logged)
  | @call p log j e c run alive ih =>
    by_cases same : i = j
    · subst same
      rw [driver?_update_self alive] at there
      cases there
      exact own i p log e c run alive (ih alive)
    · rw [driver?_update_ne same] at there
      apply other
      · exact Ne.symm same
      · exact later i log _ _ d (e.perform_continues p.host c).manifests (ih there)
  | @drop p log j e run alive ih =>
    by_cases same : i = j
    · subst same
      rw [driver?_update_self alive] at there
      cases there
    · rw [driver?_update_ne same] at there
      exact later i log _ _ d (e.drop_continues p.host).manifests (ih there)

/-- What holds of a driver and its part of the log, whatever else there is in the process. -/
theorem Run.tracks (holds : Nat → List (Exchange π) → Driver ι → Prop)
    (fresh : ∀ i log id hostname flags, (∀ x ∈ log, x.driver ≠ i) →
      holds i log ⟨id, Engine.fresh hostname, Extractors.fresh, Collector.fresh flags, .idle⟩)
    (own : ∀ i log d h c, holds i log d →
      holds i (⟨i, c, (d.perform h c).1, d.delivered h c⟩ :: log) (d.perform h c).2.1)
    (other : ∀ i log d (x : Exchange π), x.driver ≠ i → holds i log d → holds i (x :: log) d)
    (run : Run p log) (there : p.driver? i = some d) : holds i log d := by
  refine Run.tracks_in (fun i log _ d => holds i log d) ?_ ?_ ?_ ?_ run there
  · intro i log h
    exact fresh i log
  · intro i log h h' d later held
    exact held
  · intro i p log d c run alive held
    exact own i log d p.host c held
  · intro i log h
    exact other i log

theorem Run.exchange {newer older : List (Exchange π)} {x : Exchange π} (run : Run p log)
    (split : log = newer ++ x :: older) :
    ∃ q d, Run q older ∧ q.driver? x.driver = some d ∧ x.reply = (d.perform q.host x.call).1 ∧
      x.delivered = d.delivered q.host x.call := by
  induction run generalizing newer with
  | start environment => simp at split
  | elapse environment now run ih => exact ih split
  | create settings run ih => exact ih split
  | @call p log j d c run alive ih =>
    cases newer with
    | nil =>
      obtain ⟨rfl, rfl⟩ := List.cons.inj split
      exact ⟨p, d, run, alive, rfl, rfl⟩
    | cons y newer => exact ih (List.cons.inj split).2
  | drop run alive ih => exact ih split

end EventProbe.Process
