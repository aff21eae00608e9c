import Errand.Backoff
import Errand.Proofs.Duration.Seconds

/-!
The cap of a backoff. The delay before the jitter has a value unless the factor is not a number, or
an infinite power of it meets a first delay of nothing (`Indefinite`, `scaled_eq_nan_iff`). Where it
has one it is at most the cap (`steady_le_cap`), rounding or not; where it has none no cap can be
told to be below it, and it is the longest span (`steady_of_indefinite`). The jitter moves it by at
most its own span (`offset?_le`).

`delay_within_cap` joins these: a delay ends where the retries do, and is at most the cap and the
jitter unless it is indefinite.
-/

set_option autoImplicit false

namespace Errand

namespace Duration

theorem add_nanos (d e : Duration) : (d.add e).nanos = min (d.nanos + e.nanos) (limit - 1) := by
  rw [add, saturated, ofNanos?]
  split_ifs with hlt
  · exact (min_eq_left (Nat.le_sub_one_of_lt hlt)).symm
  · exact (min_eq_right ((Nat.sub_le ..).trans (not_lt.mp hlt))).symm

theorem add_le_add {d e d' e' : Duration} (hd : d.nanos ≤ d'.nanos) (he : e.nanos ≤ e'.nanos) :
    (d.add e).nanos ≤ (d'.add e').nanos := by
  rw [add_nanos, add_nanos]
  exact min_le_min_right _ (Nat.add_le_add hd he)

theorem le_add (d e : Duration) : d.nanos ≤ (d.add e).nanos := by
  rw [add_nanos]
  exact le_min (Nat.le_add_right ..) (Nat.le_sub_one_of_lt d.nanos_lt)

theorem add_zero_nanos (d : Duration) : (d.add zero).nanos = d.nanos := by
  rw [add_nanos]
  exact min_eq_left (Nat.le_sub_one_of_lt d.nanos_lt)

theorem sub_le (d e : Duration) : (d.sub e).nanos ≤ d.nanos := Nat.sub_le ..

end Duration

namespace Backoff

open Binary64 (Fits Unsigned one roundUnits finite infinite nan overflow ofUnits)

-- Both are too great to be written out.
attribute [local irreducible] Binary64.one Binary64.overflow

/-- Whether nothing tells how long a delay is: the factor is not a number, or infinity times
nothing is called for. -/
def Indefinite (b : Backoff) (retries : ℕ) : Prop :=
  b.factor = nan ∧ 0 < retries ∨
    b.initial = .zero ∧ b.factor.abs.pow (min retries maxExponent) = infinite false

instance (b : Backoff) (retries : ℕ) : Decidable (b.Indefinite retries) :=
  inferInstanceAs (Decidable (_ ∧ _ ∨ _ ∧ _))

section Scaled

variable (b : Backoff) (retries : ℕ)

theorem factor_pow_eq_nan_iff :
    b.factor.abs.pow (min retries maxExponent) = nan ↔ b.factor = nan ∧ 0 < retries := by
  constructor
  · intro hpow
    refine ⟨by_contra fun hfactor ↦ Binary64.pow_abs_ne_nan hfactor _ hpow, ?_⟩
    rcases Nat.eq_zero_or_pos retries with rfl | hsome
    · rw [Nat.zero_min, Binary64.pow_zero, Binary64.ofNat_one] at hpow
      cases hpow
    · exact hsome
  · rintro ⟨hfactor, hsome⟩
    rw [hfactor]
    exact Binary64.pow_nan (lt_min hsome (by decide))

theorem scaled_eq_nan_iff : b.scaled retries = nan ↔ b.Indefinite retries := by
  rw [scaled, Duration.toSeconds_eq, Binary64.finite_mul_eq_nan_iff _ (Binary64.abs_pow_abs ..),
    factor_pow_eq_nan_iff, Duration.units_eq_zero_iff, Indefinite]

theorem unsigned_scaled : Unsigned (b.scaled retries) := by
  have hinitial : b.initial.toSeconds.abs = b.initial.toSeconds := by
    rw [Duration.toSeconds_eq, Binary64.abs]
  rw [scaled, ← hinitial, ← Binary64.abs_pow_abs]
  exact Binary64.unsigned_mul_abs ..

end Scaled

section Steady

variable {b : Backoff} {retries : ℕ}

/-- The delay before the jitter is at most the cap, if anything tells how long it is. -/
theorem steady_le_cap {cap : Duration} (hcap : b.cap = some cap)
    (hdefinite : ¬b.Indefinite retries) : (b.steady retries).nanos ≤ cap.nanos := by
  rw [← scaled_eq_nan_iff] at hdefinite
  have hunsigned := b.unsigned_scaled retries
  rw [steady, hcap]
  dsimp only
  rw [Duration.toSeconds_eq]
  generalize b.scaled retries = scaled at hdefinite hunsigned ⊢
  split_ifs with hreached
  · exact le_rfl
  · cases hunsigned with
    | nan => exact absurd rfl hdefinite
    | infinite => exact absurd rfl hreached
    | @finite units hfits =>
      have hbelow : units < cap.units := by rwa [Binary64.le_finite_iff, not_le] at hreached
      obtain ⟨d, hd, hle⟩ := Duration.ofSeconds?_of_lt hfits hbelow
      rwa [orLongest, hd]

/-- A delay of which nothing tells how long it is is the longest, whatever the cap. -/
theorem steady_of_indefinite (hindefinite : b.Indefinite retries) :
    b.steady retries = .longest := by
  rw [← scaled_eq_nan_iff] at hindefinite
  rw [steady, hindefinite]
  cases b.cap with
  | none => rfl
  | some cap =>
    dsimp only
    rw [Duration.toSeconds_eq]
    rfl

end Steady

section Jitter

variable (b : Backoff) (draw : Draw)

/-- The fraction is exact. -/
theorem fraction_eq :
    ∃ units, draw.fraction = finite false units ∧ units * 2 ^ 53 = draw.steps * one := by
  obtain ⟨t, hone⟩ : ∃ t, one = 2 ^ t * 2 ^ 53 :=
    ⟨1074 - 53, Binary64.one_eq_mul (by decide)⟩
  have hexact : draw.steps.val * 2 ^ t * 2 ^ 53 = draw.steps * one := by
    rw [Nat.mul_assoc, ← hone]
  have hlt : draw.steps.val * 2 ^ t < overflow := by
    calc draw.steps.val * 2 ^ t ≤ draw.steps.val * 2 ^ t * 2 ^ 53 :=
          Nat.le_mul_of_pos_right _ (Nat.two_pow_pos _)
      _ ≤ 2 ^ 53 * one := hexact.trans_le (Nat.mul_le_mul_right _ draw.steps.isLt.le)
      _ < overflow := Binary64.two_pow_mul_one_lt_overflow (by decide)
  refine ⟨draw.steps.val * 2 ^ t, ?_, hexact⟩
  have hround := Binary64.ofUnits_of_fits false (Nat.two_pow_pos 53)
    ((Binary64.fits_of_lt draw.steps.isLt).mul_two_pow t) hlt
  rwa [hexact] at hround

/-- The jitter moves a delay by no more than its own span. -/
theorem offset?_le : ∃ offset, b.offset? draw = some offset ∧ offset.nanos ≤ b.jitter.nanos := by
  obtain ⟨fraction, hfraction, hexact⟩ := fraction_eq draw
  have hless : fraction * 2 ^ 53 + one ≤ 2 ^ 53 * one := by
    rw [hexact, ← Nat.succ_mul]
    exact Nat.mul_le_mul_right _ draw.steps.isLt
  rw [offset?, hfraction, Duration.toSeconds_eq, Binary64.mul_finite]
  rcases b.jitter.eq_zero_or_le_units with hnone | hsome
  · rw [hnone, Duration.units_zero, Nat.mul_zero, Binary64.ofUnits_zero]
    exact ⟨.zero, Duration.ofSeconds?_zero, Nat.zero_le _⟩
  · have hlt := Binary64.roundUnits_mul_lt Binary64.one_pos hless
      (lt_of_lt_of_le (by decide) hsome)
    have hfinite : ofUnits false (fraction * b.jitter.units) one
        = finite false (roundUnits (fraction * b.jitter.units) one) := by
      rw [ofUnits, if_pos]
      exact hlt.trans b.jitter.units_lt_overflow
    change ∃ offset, Duration.ofSeconds? (ofUnits false (fraction * b.jitter.units) one)
      = some offset ∧ offset.nanos ≤ b.jitter.nanos
    rw [hfinite]
    exact Duration.ofSeconds?_of_lt (Binary64.fits_roundUnits _ Binary64.one_pos) hlt

end Jitter

variable (b : Backoff) (retries : ℕ) (draw : Draw)

/-- A draw moves a delay by at most the jitter. -/
theorem delay_near (hretries : retries < b.maxRetries) :
    ∃ d, b.delay retries draw = .retryAfter d ∧
      ((b.steady retries).sub b.jitter).nanos ≤ d.nanos ∧
      d.nanos ≤ ((b.steady retries).add b.jitter).nanos := by
  obtain ⟨offset, hoffset, hle⟩ := b.offset?_le draw
  rw [delay, if_neg (not_le.mpr hretries), hoffset]
  refine ⟨_, rfl, ?_⟩
  rw [Option.getD_some]
  split
  · exact ⟨(Duration.sub_le ..).trans (Duration.le_add ..), Duration.add_le_add le_rfl hle⟩
  · exact ⟨Nat.sub_le_sub_left hle _, (Duration.sub_le ..).trans (Duration.le_add ..)⟩

/-- A delay fails where the retries end. It is at most the cap and the jitter, if anything tells how
long it is; where nothing does it is the longest, but for the jitter. -/
theorem delay_within_cap :
    (b.delay retries draw = .fail ↔ b.maxRetries ≤ retries) ∧
      (retries < b.maxRetries → ∃ d, b.delay retries draw = .retryAfter d ∧
        (b.Indefinite retries → (Duration.longest.sub b.jitter).nanos ≤ d.nanos) ∧
        (¬b.Indefinite retries → ∀ cap, b.cap = some cap →
          d.nanos ≤ (cap.add b.jitter).nanos ∧ (b.jitter = .zero → d.nanos ≤ cap.nanos))) := by
  refine ⟨⟨fun hfail ↦ ?_, fun hretries ↦ by rw [delay, if_pos hretries]⟩, fun hretries ↦ ?_⟩
  · by_contra hretries
    obtain ⟨d, hdelay, -⟩ := b.delay_near retries draw (not_le.mp hretries)
    exact Retry.Strategy.noConfusion (hfail.symm.trans hdelay)
  · obtain ⟨d, hdelay, hlow, hhigh⟩ := b.delay_near retries draw hretries
    refine ⟨d, hdelay, fun hindefinite ↦ ?_, fun hdefinite cap hcap ↦ ?_⟩
    · rwa [steady_of_indefinite hindefinite] at hlow
    · have hcapped : d.nanos ≤ (cap.add b.jitter).nanos :=
        hhigh.trans (Duration.add_le_add (steady_le_cap hcap hdefinite) le_rfl)
      refine ⟨hcapped, fun hjitter ↦ ?_⟩
      rwa [hjitter, Duration.add_zero_nanos] at hcapped

/-- Ten milliseconds doubled, up to thirty. -/
theorem delay_within_cap_of_doubling :
    let b : Backoff :=
      { initial := .saturated 10000000, factor := .ofNat 2, cap := some (.saturated 30000000),
        maxRetries := 4 }
    3 < b.maxRetries ∧ ¬b.Indefinite 3 ∧
      ∃ d, b.delay 3 .still = .retryAfter d ∧ d.nanos ≤ 30000000 := by
  intro b
  have hretries : 3 < b.maxRetries := by decide
  have hdefinite : ¬b.Indefinite 3 := by decide +kernel
  obtain ⟨d, hdelay, -, hcapped⟩ := (delay_within_cap b 3 .still).2 hretries
  exact ⟨hretries, hdefinite, d, hdelay, (hcapped hdefinite _ rfl).2 rfl⟩

/-- A backoff from nothing comes to wait for ever, whatever its cap. -/
theorem delay_beyond_cap :
    let b : Backoff := { initial := .zero, factor := .ofNat 2, cap := some .zero }
    b.Indefinite 1024 ∧ b.delay 1024 .still = .retryAfter .longest := by
  decide +kernel

end Backoff

end Errand
