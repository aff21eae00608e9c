import Errand.Proofs.Backoff.Cap

/-!
The jitter of a backoff. Whatever is drawn, the used part of the jitter is a span and no longer than
the jitter (`offset?_le`), although the jitter as a double may be longer than it is. So a draw moves
the delay up or down by no more than the jitter, stopping at the ends of the range of spans, from
the delay that the backoff has without jitter and that no draw moves (`delay_of_jitter_zero`,
`delay_within_jitter`).
-/

set_option autoImplicit false

namespace Errand

namespace Duration

theorem eq_of_nanos {d e : Duration} (h : d.nanos = e.nanos) : d = e := by
  obtain ⟨nanos, hlt⟩ := d
  subst h
  rfl

end Duration

namespace Backoff

variable (b : Backoff) (retries : ℕ) (draw : Draw)

/-- Without jitter all draws come to the same delay. -/
theorem delay_of_jitter_zero (hjitter : b.jitter = .zero) (hretries : retries < b.maxRetries) :
    b.delay retries draw = .retryAfter (b.steady retries) := by
  obtain ⟨d, hdelay, hlow, hhigh⟩ := b.delay_near retries draw hretries
  rw [hjitter] at hlow hhigh
  rw [Duration.add_zero_nanos] at hhigh
  rw [hdelay, Duration.eq_of_nanos (hhigh.antisymm hlow)]

/-- The jitter is used in part, up or down, and moves a delay by at most its own span. -/
theorem delay_within_jitter (hretries : retries < b.maxRetries) :
    ∃ offset middle d, b.offset? draw = some offset ∧
      (∀ still, { b with jitter := .zero : Backoff }.delay retries still = .retryAfter middle) ∧
      b.delay retries draw = .retryAfter d ∧
      d = (if draw.upward then middle.add offset else middle.sub offset) ∧
      (middle.sub b.jitter).nanos ≤ d.nanos ∧ d.nanos ≤ (middle.add b.jitter).nanos := by
  obtain ⟨offset, hoffset, -⟩ := b.offset?_le draw
  obtain ⟨d, hdelay, hlow, hhigh⟩ := b.delay_near retries draw hretries
  refine ⟨offset, b.steady retries, d, hoffset, fun still ↦ ?still, hdelay, ?moved, hlow, hhigh⟩
  case still => exact delay_of_jitter_zero { b with jitter := .zero } retries still rfl hretries
  case moved =>
    rw [delay, if_neg (not_le.mpr hretries), hoffset] at hdelay
    exact (Retry.Strategy.retryAfter.inj hdelay).symm

/-- The longest jitter is too long for a span once it is a double, but no draw uses all of it. -/
theorem delay_within_jitter_of_longest :
    let b : Backoff := { initial := .saturated 1, factor := .ofNat 3, jitter := .longest }
    let draw : Draw := ⟨Fin.last _, false⟩
    Duration.ofSeconds? b.jitter.toSeconds = none ∧ 1 < b.maxRetries ∧
      ∃ offset d, b.offset? draw = some offset ∧ b.delay 1 draw = .retryAfter d ∧
        d.nanos = 3 - offset.nanos := by
  intro b draw
  have hretries : 1 < b.maxRetries := by decide
  obtain ⟨offset, middle, d, hoffset, hmiddle, hdelay, hmoved, -⟩ :=
    delay_within_jitter b 1 draw hretries
  have hstill : { b with jitter := .zero : Backoff }.delay 1 .still = .retryAfter (.saturated 3) :=
    by decide +kernel
  obtain rfl : .saturated 3 = middle :=
    Retry.Strategy.retryAfter.inj (hstill.symm.trans (hmiddle .still))
  refine ⟨by decide +kernel, hretries, offset, d, hoffset, hdelay, ?_⟩
  rw [hmoved]
  rfl

end Backoff

end Errand
