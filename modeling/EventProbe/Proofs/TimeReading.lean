import EventProbe.Proofs.InstantText
import EventProbe.Proofs.TimeText

/-! Times read back from their texts. The text of a time is that of an instant, which is read from it;
and so the time is found again. -/
namespace EventProbe

namespace Stamp
variable {t t' : Nat}

theorem read_timeText (fits : t < wordLimit) :
    Instant.read (timeText t) = .ok (Instant.ofNanos t) := by
  have found := timeInstant?_eq fits
  rw [timeText_of_instant found]
  exact (Instant.exists_of_ofTimestamp found).read_text .nanos

/-- A text says exactly what a time is: it has thirty characters, which write the moment that the time
names, and the time is read back from it. -/
structure Renders (t : Nat) (text : String) : Prop where
  length : text.length = 30
  moment : ∃ m : Stamp, m.Names t ∧ m.Written text.toList
  readBack : ∃ i, Instant.read text = .ok i ∧ i.second * Instant.nanosPerSecond + i.nano = t
  /-- There is such a date, so the number is not shown in its place. -/
  dated : timeInstant? t = some (Instant.ofNanos t) ∧ text ≠ toString t

theorem renders (fits : t < wordLimit) : Renders t (timeText t) := by
  have written := timeText_written fits
  have names := after_names t
  have short := Numeral.length_toDigits_le fits
  constructor
  · exact length_timeText fits
  · exact ⟨after t, names, written⟩
  · refine ⟨_, read_timeText fits, ?_⟩
    have whole := Nat.div_add_mod' t Instant.nanosPerSecond
    rw [ofNanos_eq]
    dsimp only
    exact_mod_cast whole
  · refine ⟨timeInstant?_eq fits, ?_⟩
    intro same
    have length := length_timeText fits
    rw [same, ← String.length_toList, Nat.toString_eq_ofList_toDigits, String.toList_ofList] at length
    omega

theorem timeText_strictMono : StrictMonoOn timeText (Set.Iio wordLimit) :=
  fun _ fits _ fits' less => timeText_lt fits fits' less

/-- Every time of a word is rendered exactly, as the time of an event is too; and texts are equal, and
ordered, as the times are. -/
theorem times_render_exactly [Plugin π ι] (fits : t < wordLimit) :
    Renders t (FieldValue.time t).shown ∧
      (∀ t' < wordLimit, (FieldValue.time t).shown = (FieldValue.time t').shown → t = t') ∧
      (∀ t' < wordLimit, (FieldValue.time t).shown < (FieldValue.time t').shown ↔ t < t') ∧
      ∀ (p : Process π ι) (log : List (Exchange π)) (i : Nat) (d : Driver ι) (e : Event),
        Process.Run p log → p.driver? i = some d → d.engine.current = some e → e.ts = t →
          d.Shows p.host ⟨d.id, some e.num⟩ "evt.time" (FieldValue.time t).shown ⟨0, 0⟩ := by
  refine ⟨renders fits, ?_, ?_, ?_⟩
  · intro t' fits' same
    exact timeText_strictMono.injOn fits fits' same
  · intro t' fits'
    exact timeText_strictMono.lt_iff_lt fits fits'
  · rintro p log i d e run there current rfl
    have offers := (run.stocked there).offers (run.coherent there)
    have value : ∀ field offsets, (Extractor.generic field .time).extract p.host e offsets =
        (.ok [.plain (.time e.ts)], p.host) := fun _ _ => rfl
    have shows := Driver.shows_value (offers.resolve_path rfl) current (value _)
    exact shows

example : (FieldValue.time (wordLimit - 1)).shown = "2554-07-21T23:34:33.709551615Z" := by decide +kernel

/-- The record of a replayed file that was taken seven nanoseconds after the beginning of 1970. -/
theorem seventh_nano_renders : 7 < wordLimit ∧ Renders 7 "1970-01-01T00:00:00.000000007Z" ∧
    ∃ d e, Process.replaying.1.driver? 0 = some d ∧ d.engine.current = some e ∧ e.ts = 7 ∧
      d.Shows Process.replaying.1.host ⟨d.id, some e.num⟩ "evt.time" "1970-01-01T00:00:00.000000007Z"
        ⟨0, 0⟩ := by
  have fits : 7 < wordLimit := by decide
  have text : (FieldValue.time 7).shown = "1970-01-01T00:00:00.000000007Z" := by decide +kernel
  have run : Process.Run Process.replaying.1 Process.replaying.2 :=
    .play (.create .default (.start .bare)) _
  obtain ⟨e, current, ts⟩ : ∃ e, (Process.replaying.1.driver? 0).bind (·.engine.current) = some e ∧
      e.ts = 7 := by
    rw [← Option.map_eq_some_iff]
    decide +kernel
  obtain ⟨d, there, current⟩ := Option.bind_eq_some_iff.mp current
  obtain ⟨renders, _, _, shows⟩ := times_render_exactly (π := Scripted) (ι := Scripted.Stream) fits
  have shown := shows _ _ 0 d e run there current ts
  rw [text] at renders shown
  exact ⟨fits, renders, d, e, there, current, ts, shown⟩

end Stamp

end EventProbe
