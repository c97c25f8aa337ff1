import EventProbe.Proofs.EventOrigins
import EventProbe.Proofs.StillPlugins

/-! Runs with the states in which calls were made. Between two calls of a driver others may call, but
the plugins of drivers are different ones, so that still plugins of the driver stay as they are. -/
namespace EventProbe

structure Stage (π ι : Type) where
  /-- The place of the driver among all drivers of the process. -/
  place : Nat
  driver : Driver ι
  host : Host π
  call : DriverCall π

section Stages
variable [Plugin π ι]

def Stage.exchange (s : Stage π ι) : Exchange π :=
  ⟨s.place, s.call, (s.driver.perform s.host s.call).1, s.driver.delivered s.host s.call⟩

namespace Process

/-- A run of a process, with the states of its calls, newest first. -/
inductive Trail : Process π ι → List (Stage π ι) → Prop where
  | start (environment : Environment) : Trail ⟨Host.fresh environment, []⟩ []
  | elapse (environment : Environment) (now : Nat) : Trail p stages →
      Trail { p with host := { p.host with environment, now } } stages
  | create (settings : Config.Settings) : Trail p stages → Trail (p.create settings) stages
  | call (c : DriverCall π) : Trail p stages → p.driver? i = some d →
      Trail (p.update i (d.perform p.host c).2.1 (d.perform p.host c).2.2)
        (⟨i, d, p.host, c⟩ :: stages)
  | drop : Trail p stages → p.driver? i = some d → Trail (p.update i none (d.drop p.host).2) stages

variable {p : Process π ι} {log : List (Exchange π)} {stages newer older : List (Stage π ι)}
  {d e : Driver ι} {i j : Nat} {s : Stage π ι}

theorem Trail.run (trail : Trail p stages) : Run p (stages.map Stage.exchange) := by
  induction trail with
  | start environment => exact .start environment
  | elapse environment now _ ih => exact ih.elapse environment now
  | create settings _ ih => exact ih.create settings
  | call c _ there ih => exact ih.call c there
  | drop _ there ih => exact ih.drop there

theorem Run.trail (run : Run p log) : ∃ stages, Trail p stages ∧ stages.map Stage.exchange = log := by
  induction run with
  | start environment => exact ⟨[], .start environment, rfl⟩
  | elapse environment now _ ih =>
    obtain ⟨stages, trail, rfl⟩ := ih
    exact ⟨stages, trail.elapse environment now, rfl⟩
  | create settings _ ih =>
    obtain ⟨stages, trail, rfl⟩ := ih
    exact ⟨stages, trail.create settings, rfl⟩
  | call c _ there ih =>
    obtain ⟨stages, trail, rfl⟩ := ih
    exact ⟨_, trail.call c there, rfl⟩
  | drop _ there ih =>
    obtain ⟨stages, trail, rfl⟩ := ih
    exact ⟨stages, trail.drop there, rfl⟩

/-- Makes calls one after the other, and keeps the states in which they are made. -/
def follow (p : Process π ι) (stages : List (Stage π ι)) :
    List (Nat × DriverCall π) → Process π ι × List (Stage π ι)
  | [] => (p, stages)
  | (i, c) :: rest =>
    match p.driver? i with
    | none => follow p stages rest
    | some d =>
      follow (p.update i (d.perform p.host c).2.1 (d.perform p.host c).2.2)
        (⟨i, d, p.host, c⟩ :: stages) rest

theorem Trail.follow (trail : Trail p stages) (calls : List (Nat × DriverCall π)) :
    Trail (p.follow stages calls).1 (p.follow stages calls).2 := by
  induction calls generalizing p stages with
  | nil => exact trail
  | cons call rest ih =>
    obtain ⟨i, c⟩ := call
    unfold Process.follow
    split
    · exact ih trail
    · exact ih (trail.call c ‹_›)

theorem follow_cons (there : p.driver? i = some d) (c : DriverCall π)
    (rest : List (Nat × DriverCall π)) : p.follow stages ((i, c) :: rest) =
      (p.update i (d.perform p.host c).2.1 (d.perform p.host c).2.2).follow
        (⟨i, d, p.host, c⟩ :: stages) rest := by
  rw [Process.follow, there]

/-- The new calls come before those that there were. -/
theorem follow_extends (p : Process π ι) (stages : List (Stage π ι))
    (calls : List (Nat × DriverCall π)) : ∃ newer, (p.follow stages calls).2 = newer ++ stages := by
  induction calls generalizing p stages with
  | nil => exact ⟨[], rfl⟩
  | cons call rest ih =>
    obtain ⟨i, c⟩ := call
    unfold Process.follow
    split
    · exact ih p stages
    · obtain ⟨newer, split⟩ := ih _ _
      exact ⟨newer ++ [_], by rw [split, List.append_assoc]; rfl⟩

/-- A call was made in a state of the run. -/
theorem Trail.stage (trail : Trail p (newer ++ s :: older)) : ∃ q, Trail q older ∧
    q.driver? s.place = some s.driver ∧ q.host = s.host := by
  generalize split : newer ++ s :: older = stages at trail
  induction trail generalizing newer with
  | start environment => simp at split
  | elapse environment now _ ih => exact ih split
  | create settings _ ih => exact ih split
  | @call p stages j d c trail there ih =>
    cases newer with
    | nil =>
      obtain ⟨rfl, rfl⟩ := List.cons.inj split
      exact ⟨p, trail, there, rfl⟩
    | cons t newer => exact ih (List.cons.inj split).2
  | drop _ there ih => exact ih split

end Process

/-! ## Plugins of different drivers -/

/-- A plugin that an operation makes known has the next slot of the process. -/
theorem Driver.perform_new {d : Driver ι} {h : Host π} {c : DriverCall π} {r : Handle}
    (known : r ∈ (d.perform h c).2.1.engine.registry.plugins) :
    r ∈ d.engine.registry.plugins ∨ r.slot = h.slots.length := by
  obtain ⟨reply, registers⟩ := (d.perform_registers h c).2
  generalize (d.perform h c).2.1.engine.registry.plugins = plugins at known registers
  cases registers with
  | kept => exact .inl known
  | cleared => simp at known
  | added p slot _ =>
    obtain old | new := List.mem_append.mp known
    · exact .inl old
    · rw [List.mem_singleton.mp new]
      exact .inr slot

namespace Process
variable {p : Process π ι} {log : List (Exchange π)} {d e : Driver ι} {i j : Nat} {r : Handle}

theorem Run.slot_lt (run : Run p log) (there : p.driver? i = some d)
    (known : r ∈ d.engine.registry.plugins) : r.slot < p.host.slots.length := by
  rw [run.plugins_eq there] at known
  exact ((run.houses there).held r known).lt

/-- Two drivers have no plugin in common. -/
theorem Run.apart (run : Run p log) (there : p.driver? i = some d) (there' : p.driver? j = some e)
    (ne : i ≠ j) :
    ∀ q ∈ d.engine.registry.plugins, ∀ r ∈ e.engine.registry.plugins, q.slot ≠ r.slot := by
  induction run generalizing i j d e with
  | start environment => simp [driver?] at there
  | elapse environment now _ ih => exact ih there there' ne
  | create settings run ih =>
    obtain old | ⟨_, _, _, rfl⟩ := driver?_create there
    · obtain old' | ⟨_, _, _, rfl⟩ := driver?_create there'
      · exact ih old old' ne
      · simp [Engine.fresh, Registry.empty]
    · simp [Engine.fresh, Registry.empty]
  | @call p log k f c run alive ih =>
    intro q known r known'
    by_cases first : i = k
    · subst first
      rw [driver?_update_self alive] at there
      rw [driver?_update_ne (Ne.symm ne)] at there'
      cases there
      obtain old | new := Driver.perform_new known
      · exact ih alive there' ne q old r known'
      · have := run.slot_lt there' known'
        omega
    · rw [driver?_update_ne first] at there
      by_cases second : j = k
      · subst second
        rw [driver?_update_self alive] at there'
        cases there'
        obtain old | new := Driver.perform_new known'
        · exact ih there alive ne q known r old
        · have := run.slot_lt there known
          omega
      · rw [driver?_update_ne second] at there'
        exact ih there there' ne q known r known'
  | @drop p log k f run alive ih =>
    have kept : ∀ {l g}, (p.update k none (f.drop p.host).2).driver? l = some g →
        p.driver? l = some g := by
      intro l g left
      by_cases own : l = k
      · subst own
        rw [driver?_update_self alive] at left
        cases left
      · rwa [driver?_update_ne own] at left
    exact ih (kept there) (kept there') ne

/-- A driver spares the plugins of another. -/
theorem Run.spares (run : Run p log) (there : p.driver? i = some d) (there' : p.driver? j = some e)
    (ne : i ≠ j) (known : r ∈ d.engine.registry.plugins) : e.engine.Spares r.slot where
  source s opened := by
    cases s with
    | capture records => trivial
    | plugin stream =>
      obtain ⟨events, fed, _⟩ := (run.sourced there').stream stream opened
      have owner := fed.owner.1
      rw [← run.plugins_eq there'] at owner
      exact (run.apart there there' ne r known stream.owner owner).symm
  parsers q known' _ := (run.apart there there' ne r known q known').symm

/-! ## One driver -/

/-- What holds of a new driver, for which there are no stages, and is carried on by its own calls, by the
calls of others and by whatever leaves its still plugins as they are, holds of a driver. -/
theorem Trail.tracks {stages : List (Stage π ι)}
    (holds : List (Stage π ι) → Host π → Driver ι → Prop)
    (fresh : ∀ stages h id hostname flags, (∀ s ∈ stages, s.place ≠ i) →
      holds stages h ⟨id, Engine.fresh hostname, Extractors.fresh, Collector.fresh flags, .idle⟩)
    (later : ∀ stages h h' d, (∀ r ∈ d.engine.registry.plugins, h.Leaves r.slot h') →
      holds stages h d → holds stages h' d)
    (own : ∀ p stages d c, Trail p stages → p.driver? i = some d → holds stages p.host d →
      holds (⟨i, d, p.host, c⟩ :: stages) (d.perform p.host c).2.2 (d.perform p.host c).2.1)
    (other : ∀ stages h d s, s.place ≠ i → holds stages h d → holds (s :: stages) h d)
    (trail : Trail p stages) (there : p.driver? i = some d) : holds stages p.host d := by
  induction trail generalizing d with
  | start environment => simp [driver?] at there
  | @elapse p stages environment now _ ih =>
    exact later stages p.host _ d (fun r _ => .of_slots rfl) (ih there)
  | @create p stages settings trail ih =>
    obtain old | ⟨rfl, flags, hostname, rfl⟩ := driver?_create there
    · refine later _ _ _ d (fun r _ => .of_slots ?_) (ih old)
      rw [create_slots]
    · apply fresh
      intro s noted
      exact Nat.ne_of_lt (trail.run.sound.logged _ (List.mem_map_of_mem noted))
  | @call p stages j e c trail alive ih =>
    by_cases same : i = j
    · subst same
      rw [driver?_update_self alive] at there
      cases there
      exact own p stages e c trail alive (ih alive)
    · rw [driver?_update_ne same] at there
      refine other _ _ d _ (Ne.symm same) (later _ _ _ d ?_ (ih there))
      intro r known
      exact Driver.perform_leaves (trail.run.spares there alive same known) p.host c
  | @drop p stages j e trail alive ih =>
    by_cases same : i = j
    · subst same
      rw [driver?_update_self alive] at there
      cases there
    · rw [driver?_update_ne same] at there
      refine later _ _ _ d ?_ (ih there)
      intro r known
      exact Driver.drop_leaves (trail.run.spares there alive same known) p.host

/-- The same for the part of the log. -/
theorem Run.tracks_still {log : List (Exchange π)}
    (holds : List (Exchange π) → Host π → Driver ι → Prop)
    (fresh : ∀ log h id hostname flags, (∀ x ∈ log, x.driver ≠ i) →
      holds log h ⟨id, Engine.fresh hostname, Extractors.fresh, Collector.fresh flags, .idle⟩)
    (later : ∀ log h h' d, (∀ r ∈ d.engine.registry.plugins, h.Leaves r.slot h') →
      holds log h d → holds log h' d)
    (own : ∀ p log d c, Run p log → p.driver? i = some d → holds log p.host d →
      holds (⟨i, c, (d.perform p.host c).1, d.delivered p.host c⟩ :: log) (d.perform p.host c).2.2
        (d.perform p.host c).2.1)
    (other : ∀ log h d (x : Exchange π), x.driver ≠ i → holds log h d → holds (x :: log) h d)
    (run : Run p log) (there : p.driver? i = some d) : holds log p.host d := by
  obtain ⟨stages, trail, rfl⟩ := run.trail
  refine Trail.tracks (fun stages => holds (stages.map Stage.exchange)) ?_ ?_ ?_ ?_ trail there
  · intro stages h id hostname flags unnoted
    apply fresh
    intro x logged
    obtain ⟨s, noted, rfl⟩ := List.mem_map.mp logged
    exact unnoted s noted
  · intro stages
    exact later _
  · intro p stages d c trail there
    exact own p _ d c trail.run there
  · intro stages h d s elsewhere
    exact other _ h d s.exchange elsewhere

end Process

end Stages

end EventProbe
