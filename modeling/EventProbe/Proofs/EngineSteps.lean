import EventProbe.Engine

/-! What an engine may do when it is opened or takes a step. `Advance` lists the outcomes of `next`
once, with the event that the step took from the source and delivered; what a step preserves is read
off this account. -/
namespace EventProbe.Engine

variable [Plugin π ι] {g : Engine ι} {h : Host π}

omit [Plugin π ι] in
/-- An engine refuses a capture file and stays as it is, or starts with its records. -/
theorem openCapture_cases (g : Engine ι) (file : Except IoFault (List UInt8)) :
    (∃ fault, g.openCapture file = (.error fault, g)) ∨
      g.source = none ∧ ∃ bytes contents, file = .ok bytes ∧ Capture.read bytes = .ok contents ∧
        g.openCapture file = (.ok (), g.start (.capture contents.records) none) := by
  unfold openCapture isCapturing
  cases opened : g.source with
  | some s => exact .inl ⟨_, rfl⟩
  | none =>
    cases file with
    | error fault => exact .inl ⟨_, rfl⟩
    | ok bytes =>
      cases answer : Capture.read bytes with
      | error fault => exact .inl ⟨_, by simp only [answer]; rfl⟩
      | ok contents => exact .inr ⟨rfl, bytes, contents, rfl, answer, by simp only [answer]; rfl⟩

/-- An engine does not open a source and stays as it is, or starts with the source that the plugin of
this name has opened. -/
theorem openPlugin_cases (g : Engine ι) (h : Host π) (name params : String) (platform : Bool) :
    ((g.openPlugin h name params platform).1 ≠ .ok () ∧
      (g.openPlugin h name params platform).2.1 = g) ∨
      g.source = none ∧ ∃ owner source state h',
        g.registry.find? name = some owner ∧ owner.manifest.generates = some source ∧
        h.openSource owner params = (.ok state, h') ∧
        g.openPlugin h name params platform =
          (.ok (), g.start (.plugin ⟨owner, source, state, []⟩)
            (if platform then some (Platform.detect h'.environment g.hostname) else none), h') := by
  unfold openPlugin isCapturing
  cases opened : g.source with
  | some s => exact .inl ⟨by simp, rfl⟩
  | none =>
    cases found : g.registry.find? name with
    | none => exact .inl ⟨by simp, rfl⟩
    | some owner =>
      cases generates : owner.manifest.generates with
      | none => exact .inl ⟨by simp [generates], by simp [generates]⟩
      | some source =>
        rcases answer : h.openSource owner params with ⟨state | reason | p, h'⟩
        · exact .inr ⟨rfl, owner, source, state, h', rfl, generates, answer, by
            simp only [generates, answer]; rfl⟩
        · exact .inl ⟨by simp [generates, answer], by simp [generates, answer]⟩
        · exact .inl ⟨by simp [generates, answer], by simp [generates, answer]⟩

/-- An engine that is asked to open a plugin calls none, or the one of this name to open a source. -/
theorem openPlugin_host (g : Engine ι) (h : Host π) (name params : String) (platform : Bool) :
    (g.openPlugin h name params platform).2.2 = h ∨
      ∃ owner source, g.source = none ∧ g.registry.find? name = some owner ∧
        owner.manifest.generates = some source ∧
        ((∃ state, (h.openSource owner params).1 = .ok state) →
          (g.openPlugin h name params platform).1 = .ok ()) ∧
        (g.openPlugin h name params platform).2.2 = (h.openSource owner params).2 := by
  unfold openPlugin isCapturing
  cases opened : g.source with
  | some s => exact .inl rfl
  | none =>
    cases found : g.registry.find? name with
    | none => exact .inl rfl
    | some owner =>
      cases generates : owner.manifest.generates with
      | none => exact .inl (by simp [generates])
      | some source =>
        refine .inr ⟨owner, source, rfl, rfl, generates, ?_, ?_⟩ <;>
          rcases answer : h.openSource owner params with ⟨_ | _ | _, h'⟩ <;> simp [generates, answer]

/-- When an engine does not open a source, no plugin was called, or one that did not open it either. -/
theorem openPlugin_refused_host {name params : String} {platform : Bool}
    (refused : (g.openPlugin h name params platform).1 ≠ .ok ()) :
    (g.openPlugin h name params platform).2.2 = h ∨
      ∃ owner, (∀ state, (h.openSource owner params).1 ≠ .ok state) ∧
        (g.openPlugin h name params platform).2.2 = (h.openSource owner params).2 := by
  obtain same | ⟨owner, _, _, _, _, opens, called⟩ := g.openPlugin_host h name params platform
  · exact .inl same
  · exact .inr ⟨owner, fun state made => refused (opens ⟨state, made⟩), called⟩

/-- What holds across every call to parse an event also holds across showing it to all plugins. -/
theorem offer_relates (later : Host π → Host π → Prop) (refl : ∀ h, later h h)
    (trans : ∀ {h h' h''}, later h h' → later h' h'' → later h h'') {e : Event}
    {plugins : List Handle} (parse : ∀ p ∈ plugins, p.manifest.can .eventParsing = true →
      p.manifest.reads e.source = true → ∀ h : Host π, later h (h.parse p e).2) (h : Host π) :
    later h (offer h e plugins).2 := by
  induction plugins generalizing h with
  | nil => exact refl h
  | cons p rest ih =>
    obtain ⟨here, parse⟩ := List.forall_mem_cons.mp parse
    unfold offer
    split
    · rename_i parses
      obtain ⟨can, reads⟩ := Bool.and_eq_true_iff.mp parses
      have shown := here can reads h
      split <;> rename_i answer <;> rw [answer] at shown
      · exact trans shown (ih parse _)
      · exact shown
      · exact shown
    · exact ih parse h

omit [Plugin π ι] in
theorem openCapture_starts {file : Except IoFault (List UInt8)} {g' : Engine ι}
    (opens : g.openCapture file = (.ok (), g')) :
    ∃ bytes contents, file = .ok bytes ∧ Capture.read bytes = .ok contents ∧
      g' = g.start (.capture contents.records) none := by
  obtain ⟨fault, refused⟩ | ⟨_, bytes, contents, given, accepted, started⟩ := g.openCapture_cases file
  · cases opens.symm.trans refused
  · cases opens.symm.trans started
    exact ⟨bytes, contents, given, accepted, rfl⟩

theorem openPlugin_starts {name params : String} {platform : Bool} {g' : Engine ι} {h' : Host π}
    (opens : g.openPlugin h name params platform = (.ok (), g', h')) :
    ∃ owner source state detected, g.registry.find? name = some owner ∧
      owner.manifest.generates = some source ∧ h.openSource owner params = (.ok state, h') ∧
      g' = g.start (.plugin ⟨owner, source, state, []⟩) detected := by
  obtain ⟨refused, _⟩ | ⟨_, owner, source, state, h'', found, generates, answer, started⟩ :=
    g.openPlugin_cases h name params platform
  · rw [opens] at refused
    exact absurd rfl refused
  · cases opens.symm.trans started
    exact ⟨owner, source, state, _, found, generates, answer, rfl⟩

omit [Plugin π ι] in
theorem openCapture_ok_iff {file : Except IoFault (List UInt8)} (closed : g.source = none) :
    (g.openCapture file).1 = .ok () ↔
      ∃ bytes contents, file = .ok bytes ∧ Capture.read bytes = .ok contents := by
  simp only [openCapture, isCapturing, closed, Option.isSome_none, Bool.false_eq_true, if_false]
  cases file with
  | error fault => simp
  | ok bytes => cases answer : Capture.read bytes <;> simp [answer]

theorem openPlugin_ok_iff {name params : String} (closed : g.source = none)
    (platform : Bool) : (g.openPlugin h name params platform).1 = .ok () ↔
      ∃ owner source state, g.registry.find? name = some owner ∧
        owner.manifest.generates = some source ∧ (h.openSource owner params).1 = .ok state := by
  simp only [openPlugin, isCapturing, closed, Option.isSome_none, Bool.false_eq_true, if_false]
  cases found : g.registry.find? name with
  | none => simp
  | some owner =>
    cases generates : owner.manifest.generates with
    | none => simp [generates]
    | some source =>
      rcases answer : h.openSource owner params with ⟨_ | _ | _, h'⟩ <;> simp [generates, answer]

/-- The event that the next step will deliver: it comes from the source in this step, carries the
next number, and no plugin refuses it. -/
def delivery (g : Engine ι) (h : Host π) : Option Event :=
  match g.finished, g.source with
  | none, some s =>
    match s.pull h with
    | (.ok (.event raw), _, h) =>
      match offer h (g.number raw) g.registry.plugins with
      | (.ok _, _) => some (g.number raw)
      | _ => none
    | _ => none
  | _, _ => none

/-- A step, by what the source gave and what the parsing plugins made of it: the delivered event, the
outcome, and the state afterwards. Every step begins by giving up the current event. -/
inductive Advance (g : Engine ι) (h : Host π) :
    Option Event → Except Panic Status → Engine ι → Host π → Prop where
  | ended : g.finished = some status → Advance g h none (.ok status) { g with current := none } h
  | closed : g.finished = none → g.source = none →
      Advance g h none (.ok .error) { g with current := none } h
  | interrupted : g.finished = none → g.source = some s → s.pull h = (.error p, s', h') →
      Advance g h none (.error p) { g with current := none, source := some s' } h'
  | timeout : g.finished = none → g.source = some s → s.pull h = (.ok .timeout, s', h') →
      Advance g h none (.ok .timeout) { g with current := none, source := some s' }.countTimeout h'
  | eof : g.finished = none → g.source = some s → s.pull h = (.ok .eof, s', h') →
      Advance g h none (.ok .eof)
        { g with current := none, source := some s', finished := some .eof } h'
  | failed : g.finished = none → g.source = some s → s.pull h = (.ok (.failed reason), s', h') →
      Advance g h none (.ok .error)
        { g with current := none, source := some s', finished := some .error } h'
  | delivered : g.finished = none → g.source = some s → s.pull h = (.ok (.event raw), s', h') →
      offer h' (g.number raw) g.registry.plugins = (.ok (), h'') →
      Advance g h (some (g.number raw)) (.ok .ok)
        (countEvent { g with current := none, source := some s', nextNum := g.nextNum + 1 }
          (g.number raw)) h''
  | refused : g.finished = none → g.source = some s → s.pull h = (.ok (.event raw), s', h') →
      offer h' (g.number raw) g.registry.plugins = (.failed reason, h'') →
      Advance g h none (.ok .timeout)
        { g with current := none, source := some s', nextNum := g.nextNum + 1 }.countDrop h''
  | parsePanicked : g.finished = none → g.source = some s → s.pull h = (.ok (.event raw), s', h') →
      offer h' (g.number raw) g.registry.plugins = (.panicked p, h'') →
      Advance g h none (.error p)
        { g with current := none, source := some s', nextNum := g.nextNum + 1 } h''

theorem next_advances (g : Engine ι) (h : Host π) :
    Advance g h (g.delivery h) (g.next h).1 (g.next h).2.1 (g.next h).2.2 := by
  obtain ⟨hostname, registry, source, platform, current, nextNum, finished, counters⟩ := g
  cases finished with
  | some status => exact .ended rfl
  | none =>
    cases source with
    | none => exact .closed rfl rfl
    | some s =>
      rcases pulled : s.pull h with ⟨result, s', h'⟩
      simp only [Engine.next, delivery, pulled]
      rcases result with p | (raw | _ | _ | reason)
      · exact .interrupted rfl rfl pulled
      · simp only [deliver, number]
        -- The event does not depend on the fields that the step has changed so far.
        rcases offered : offer h' ⟨nextNum, raw.ts, raw.source, raw.eventType, raw.data, platform,
          raw.plugin⟩ registry.plugins with ⟨_ | reason | p, h''⟩
        · exact .delivered rfl rfl pulled offered
        · exact .refused rfl rfl pulled offered
        · exact .parsePanicked rfl rfl pulled offered
      · exact .timeout rfl rfl pulled
      · exact .eof rfl rfl pulled
      · exact .failed rfl rfl pulled

/-- A stream that is over ended with one of the statuses that end streams. -/
def EndsWell (g : Engine ι) : Prop :=
  ∀ status, g.finished = some status → status.isTerminal = true

namespace Advance

theorem current_eq (step : Advance g h e outcome g' h') : g'.current = e := by
  cases step <;> rfl

/-- Only a step that delivers an event is a success. -/
theorem ok_iff_delivers (step : Advance g h e outcome g' h') (ends : g.EndsWell) :
    outcome = .ok .ok ↔ e.isSome = true := by
  cases step with
  | ended finished =>
    constructor
    · intro ok
      cases Except.ok.inj ok
      exact absurd (ends .ok finished) (by decide)
    · intro delivers
      cases delivers
  | _ => simp

/-- A delivered event carries the next number, which is then used up. -/
theorem delivered_num (step : Advance g h (some e) outcome g' h') :
    e.num = g.nextNum ∧ g'.nextNum = g.nextNum + 1 := by
  cases step with
  | delivered => exact ⟨rfl, rfl⟩

/-- A delivered event carries the platform that was asked for when the source was opened. -/
theorem delivered_platform (step : Advance g h (some e) outcome g' h') : e.platform = g.platform := by
  cases step
  rfl

theorem platform_eq (step : Advance g h e outcome g' h') : g'.platform = g.platform := by
  cases step <;> rfl

theorem nextNum_le (step : Advance g h e outcome g' h') : g.nextNum ≤ g'.nextNum := by
  cases step <;> first | exact Nat.le_refl _ | exact Nat.le_succ _

theorem registry_eq (step : Advance g h e outcome g' h') : g'.registry = g.registry := by
  cases step <;> rfl

/-- A step neither opens nor closes a source. -/
theorem source_isSome (step : Advance g h e outcome g' h') :
    g'.source.isSome = g.source.isSome := by
  cases step with
  | ended | closed => rfl
  | interrupted _ opened | timeout _ opened | eof _ opened | failed _ opened | delivered _ opened
  | refused _ opened | parsePanicked _ opened =>
    rw [opened]
    rfl

theorem endsWell (step : Advance g h e outcome g' h') (ends : g.EndsWell) : g'.EndsWell := by
  cases step with
  | eof | failed =>
    intro status ended
    cases Option.some.inj ended
    rfl
  | _ => exact ends

end Advance

end EventProbe.Engine
