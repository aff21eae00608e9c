import Errand.Duration.Words
import Errand.Json.Codec
import Errand.Retry

/-!
Backing off: how long to wait before each retry. The wait starts at a first delay and is multiplied
by a factor with every retry, up to a cap; a random offset moves it up or down by at most the
jitter, and never out of the range of spans. `Backoff.delay` takes the random draw as an argument.

`Backoff.codec` is the form of a backoff in settings, with its spans in words.
-/

set_option autoImplicit false

namespace Errand

structure Backoff where
  initial : Duration
  factor : Binary64 := .ofNat 1
  jitter : Duration := .zero
  cap : Option Duration := none
  maxRetries : Nat := Nat.pow 2 64 - 1
  deriving DecidableEq

namespace Backoff

/-- A random draw: how much of the jitter is used, in steps of `2 ^ -53`, and which way. -/
structure Draw where
  steps : Fin (Nat.pow 2 53)
  upward : Bool

/-- The draw that makes no use of the jitter. -/
def Draw.still : Draw := ⟨⟨0, by decide⟩, true⟩

/-- The used part of the jitter, from zero to below one. -/
def Draw.fraction (draw : Draw) : Binary64 := .ofRatio false draw.steps (Nat.pow 2 53)

/-- The greatest exponent that the factor is raised to. -/
def maxExponent : Nat := Nat.pow 2 31 - 1

/-- The number of seconds before the cap and the jitter. -/
def scaled (b : Backoff) (retries : Nat) : Binary64 :=
  b.initial.toSeconds.mul (b.factor.abs.pow (min retries maxExponent))

/-- The span that a number of seconds stands for; one that cannot be told is the longest. -/
def orLongest (seconds : Binary64) : Duration := (Duration.ofSeconds? seconds).getD .longest

/-- The delay before the jitter: at most the cap, if there is one. -/
def steady (b : Backoff) (retries : Nat) : Duration :=
  match b.cap with
  | some cap =>
    if cap.toSeconds.le (b.scaled retries) then cap else orLongest (b.scaled retries)
  | none => orLongest (b.scaled retries)

/-- How far the jitter moves the delay. -/
def offset? (b : Backoff) (draw : Draw) : Option Duration :=
  Duration.ofSeconds? (draw.fraction.mul b.jitter.toSeconds)

/-- What to do after so many retries. -/
def delay (b : Backoff) (retries : Nat) (draw : Draw) : Retry.Strategy :=
  if b.maxRetries ≤ retries then .fail
  else
    let steady := b.steady retries
    let offset := (b.offset? draw).getD .longest
    .retryAfter (if draw.upward then steady.add offset else steady.sub offset)

/-- The draws that use most of the jitter, and the one that uses none. -/
def Draw.extremes : List Draw := [.still, ⟨Fin.last _, true⟩, ⟨Fin.last _, false⟩]

/-- Whether the delay stays within the jitter of what it would be without, for the draws at the
ends of the range; `none` where there is no retry. -/
def keepsJitter? (b : Backoff) (retries : Nat) : Option Bool :=
  let within (middle : Duration) (draw : Draw) : Bool :=
    match b.delay retries draw with
    | .fail => false
    | .retryAfter d =>
      (middle.sub b.jitter).nanos ≤ d.nanos && d.nanos ≤ (middle.add b.jitter).nanos
  match { b with jitter := .zero : Backoff }.delay retries .still with
  | .fail => none
  | .retryAfter middle => some (Draw.extremes.all (within middle))

/-- The policy that retries rate limits only. -/
def policy (b : Backoff) (draw : Retry.Occasion → Draw) : Retry.Policy where
  recover occasion
    | .rateLimited .. => b.delay occasion.retries (draw occasion)
    | _ => .fail
  timeout := none

/-! ### Settings -/

/-- A span of time in words. -/
def durationCodec : Json.Codec Duration :=
  .converted "a duration"
    (fun text ↦
      match Duration.read text with
      | .ok d => .ok d
      | .error .overflow => .error .durationOverflow
      | .error .notASpan => .error (.wrongValue (.string text) "a duration"))
    fun d ↦ .string d.words

def codec : Json.Codec Backoff :=
  .record "Backoff"
    (.cons "initial_delay" durationCodec none <|
      .cons "factor" .real (some (.ofNat 1)) <|
      .cons "jitter" durationCodec (some .zero) <|
      .cons "max_delay" (.optional durationCodec) (some none) <|
      .cons "max_retries" (.natural "usize" (Nat.pow 2 64)) (some (Nat.pow 2 64 - 1)) .nil)
    (fun (initial, factor, jitter, cap, maxRetries, ()) ↦
      ⟨initial, factor, jitter, cap, maxRetries⟩)
    (fun b ↦ (b.initial, b.factor, b.jitter, b.cap, b.maxRetries, ()))

/-- Equality of backoffs, factors compared as numbers. -/
def same (b c : Backoff) : Bool :=
  b.initial = c.initial && b.factor.eq c.factor && b.jitter = c.jitter && b.cap = c.cap
    && b.maxRetries = c.maxRetries

end Backoff

end Errand
