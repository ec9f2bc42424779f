import ChatFlow.Proofs.Node.Conduct
import ChatFlow.Proofs.Number.Signs
import ChatFlow.Proofs.Value.Rendering

/-!
# Delays on clocks of any zone

A delay adds its span to the time that nodes see, on the wall clock of their zone, and waits for the
moment which the sum names. `Clock.later` is the clock set on by a span: its wall clock shows the
sum (`Clock.add_seen`), and the moment named is the one it shows (`Clock.instant_seen`), as long as
no date leaves the calendar. So the moment does not depend on the zone, and neither does the span,
which is read from the configuration alone (`delaySpan`). It is not negative
(`micros_nonneg_of_delaySpan`).
-/

namespace ChatFlow

/-! ## Spans that are not negative -/

theorem Binary.truncate_nonneg {b : Binary} (h : b.negative = false) : 0 ≤ b.truncate := by
  unfold truncate signed
  rw [h]
  exact Int.natCast_nonneg _

theorem roundSum_nonneg {whole : Int} {part : Binary} (hwhole : 0 ≤ whole)
    (hpart : part.negative = false) : 0 ≤ roundSum whole part := by
  have hsum : 0 ≤ whole * part.denominator + part.signed part.numerator := by
    unfold Binary.signed
    rw [hpart]
    exact Int.add_nonneg (Int.mul_nonneg hwhole (Int.natCast_nonneg _)) (Int.natCast_nonneg _)
  unfold roundSum
  dsimp only
  rw [if_neg (Int.not_lt_of_ge hsum)]
  exact Int.natCast_nonneg _

/-- A span has the microseconds of which it was made. -/
theorem Span.micros_ofMicros {micros : Int} {span : Span} (h : ofMicros micros = .ok span) :
    span.micros = micros := by
  unfold ofMicros at h
  dsimp only at h
  split at h
  · cases h
  · split at h
    · cases h
    · cases h
      rfl

/-- A count without a sign makes no negative span. -/
theorem Span.micros_nonneg_ofUnits {unit : Nat} {count : Float} {span : Span}
    (h : ofUnits unit count = .ok span) (hcount : HasNoSign count) : 0 ≤ span.micros := by
  unfold ofUnits at h
  split at h
  · cases h
  · next b hb =>
    have hnegative := hcount.negative_eq_false hb
    dsimp only at h
    split at h
    · cases h
    · next part hpart =>
      have hfraction : HasNoSign
          (Binary.toFloat ⟨b.negative, b.numerator % b.denominator, min b.exponent 0⟩) :=
        Binary.hasNoSign_toFloat hnegative
      have hwhole := Int.mul_nonneg (Binary.truncate_nonneg hnegative) (Int.natCast_nonneg unit)
      rw [micros_ofMicros h]
      exact roundSum_nonneg hwhole (((hasNoSign_ofNat unit).mul hfraction).negative_eq_false hpart)

/-- The span of a delay. -/
def delaySpan (configured : Value) : Except Fault Span := do
  Span.ofUnits microsPerSecond (← (← delaySeconds configured).toNumber)

/-- The seconds of a delay have no sign. -/
theorem hasNoSign_of_delaySeconds {configured seconds : Value}
    (h : delaySeconds configured = .ok seconds) {count : Float}
    (hcount : seconds.toNumber = .ok count) : HasNoSign count := by
  obtain ⟨number, -, hseconds⟩ := bind_eq_ok_iff.1 h
  replace hseconds : (if number ≤ 0 then Value.int 1 else .float number) = seconds :=
    Except.ok.inj hseconds
  split at hseconds
  · subst hseconds
    cases hcount
    exact hasNoSign_ofNat 1
  · next hpositive =>
    subst hseconds
    cases hcount
    exact hasNoSign_of_not_le hpositive

/-- **A delay is not negative.** -/
theorem micros_nonneg_of_delaySpan {configured : Value} {delay : Span}
    (h : delaySpan configured = .ok delay) : 0 ≤ delay.micros := by
  obtain ⟨seconds, hseconds, hspan⟩ := bind_eq_ok_iff.1 h
  obtain ⟨count, hcount, hspan⟩ := bind_eq_ok_iff.1 hspan
  exact Span.micros_nonneg_ofUnits hspan (hasNoSign_of_delaySeconds hseconds hcount)

/-! ## Clocks -/

/-- Whether a moment lies in the years that dates may lie in. -/
def Moment.IsDate (moment : Moment) : Prop :=
  firstDay ≤ moment.dayNumber ∧ moment.dayNumber < endDay

instance (moment : Moment) : Decidable moment.IsDate :=
  inferInstanceAs (Decidable (_ ∧ _))

namespace Clock

/-- A clock set on by a span. -/
def later (clock : Clock) (span : Span) : Clock :=
  { clock with now := ⟨clock.now.micros + span.micros⟩ }

/-- A time later on the wall clock is what the wall clock shows later. -/
theorem add_seen {clock : Clock} {span : Span} (h : (clock.later span).seen.wall.IsDate) :
    clock.seen.add span = .ok (clock.later span).seen := by
  have hwall : clock.seen.wall.add span = .ok (clock.later span).seen.wall := by
    have hsum : clock.seen.wall.micros + span.micros = (clock.later span).seen.wall.micros := by
      simp only [seen, later]
      omega
    rw [Moment.add, hsum]
    exact if_pos h
  rw [ZonedMoment.add, hwall]
  rfl

/-- **What a clock shows names its moment**, in any zone. -/
theorem instant_seen {clock : Clock} (h : clock.now.IsDate) :
    clock.seen.instant = .ok clock.now := by
  obtain ⟨⟨now⟩, zone⟩ := clock
  cases zone with
  | none =>
    show Except.ok (Moment.mk (now + 0 * 60 * microsPerSecond)) = _
    rw [show now + 0 * 60 * microsPerSecond = now by omega]
  | some offset =>
    show Moment.inRange ⟨now + offset.micros - offset.micros⟩ = _
    rw [Int.add_sub_cancel]
    exact if_pos h

end Clock

/-! ## The work of a delay -/

theorem Act.run_time (scene : Scene) :
    Act.time.run.run scene = (.ok scene.outside.clock.seen, scene) := rfl

section

variable {configured : Value} {scene : Scene}

/-- A delay waits for what the clock will show. -/
theorem run_waitSeconds {delay : Span} (h : delaySpan configured = .ok delay)
    (hdate : (scene.outside.clock.later delay).seen.wall.IsDate) :
    ∃ notes, (waitSeconds configured).run.run scene =
      (.ok ⟨.wait timerReason (some (scene.outside.clock.later delay).seen), notes⟩, scene) := by
  obtain ⟨seconds, hseconds, hspan⟩ := bind_eq_ok_iff.1 h
  obtain ⟨count, hcount, hspan⟩ := bind_eq_ok_iff.1 hspan
  refine ⟨[("delay_seconds", seconds)], ?_⟩
  rw [waitSeconds, Act.run_bind, Act.run_lift, hseconds]
  dsimp only [Except.mapError]
  rw [Act.run_bind, Act.run_lift, hcount]
  dsimp only [Except.mapError]
  rw [Act.run_bind, Act.run_lift, hspan]
  dsimp only [Except.mapError]
  rw [Act.run_bind, Act.run_time]
  dsimp only
  rw [Act.run_bind, Act.run_lift, Clock.add_seen hdate]
  rfl

/-- A delay whose span cannot be told fails. -/
theorem run_waitSeconds_error {fault : Fault} (h : delaySpan configured = .error fault) :
    (waitSeconds configured).run.run scene = (.error (.fault fault), scene) := by
  rw [waitSeconds, Act.run_bind, Act.run_lift]
  rcases bind_eq_error_iff.1 h with hseconds | ⟨seconds, hseconds, h⟩
  · rw [hseconds]
    rfl
  rw [hseconds]
  dsimp only [Except.mapError]
  rw [Act.run_bind, Act.run_lift]
  rcases bind_eq_error_iff.1 h with hcount | ⟨count, hcount, hspan⟩
  · rw [hcount]
    rfl
  rw [hcount]
  dsimp only [Except.mapError]
  rw [Act.run_bind, Act.run_lift, hspan]
  rfl

/-- This is the work of a delay node. -/
theorem FlowNode.act_delay {node : FlowNode} (hd : node.configured? = some (.delay configured))
    (recipient : Recipient) : node.act recipient = waitSeconds configured :=
  FlowNode.act_of_configured recipient hd

end

end ChatFlow
