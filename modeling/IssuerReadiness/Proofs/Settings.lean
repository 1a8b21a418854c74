import IssuerReadiness.Settings

/-!
# The limits of the settings

A numeric setting is within its limits whatever its variable holds: a number that was
read is moved to the nearest limit, and the default, which counts when no number was
read, is within them too.

* `Limits.Sound`: the default is within the limits.
* `bounds_ofVariable`: the number of a setting is.
* `bounds_eventCapacity`: so there is always room for an event.
* `bounds_timeouts`: and there are always seconds to wait, and not too many.
-/

namespace IssuerReadiness
namespace Settings

/-- The default is within the limits. -/
structure Limits.Sound (l : Limits) : Prop where
  least : l.least ≤ l.default
  greatest : l.default ≤ l.greatest

variable {l : Limits}

theorem Limits.bounds_clamp (h : l.Sound) (n : Int) :
    l.least ≤ l.clamp n ∧ l.clamp n ≤ l.greatest := by
  have hlimits : l.least ≤ l.greatest := Int.le_trans h.least h.greatest
  unfold Limits.clamp
  split
  · exact ⟨Int.le_refl _, hlimits⟩
  · split
    · exact ⟨hlimits, Int.le_refl _⟩
    · omega

theorem Limits.bounds_read (h : l.Sound) (s : String) :
    l.least ≤ (l.read s).1 ∧ (l.read s).1 ≤ l.greatest := by
  unfold Limits.read
  dsimp only
  split
  · exact Limits.bounds_clamp h _
  · exact ⟨h.least, h.greatest⟩

/-- The number of a setting is within the limits, whatever its variable holds. -/
theorem Limits.bounds_ofVariable (h : l.Sound) (value : Option String) :
    l.least ≤ (l.ofVariable value).1 ∧ (l.ofVariable value).1 ≤ l.greatest := by
  cases value with
  | none => exact ⟨h.least, h.greatest⟩
  | some s => exact Limits.bounds_read h s

theorem sound_setupTimeout : setupTimeout.Sound :=
  ⟨by decide, by decide⟩

theorem sound_connectTimeout : connectTimeout.Sound :=
  ⟨by decide, by decide⟩

theorem sound_eventCapacityLimits : eventCapacityLimits.Sound :=
  ⟨by decide, by decide⟩

/-- No environment leaves the recorder without room for an event. -/
theorem bounds_eventCapacity (environment : String → Option String) :
    1 ≤ (ofEnvironment environment).1.eventCapacity ∧
      (ofEnvironment environment).1.eventCapacity ≤ 10000 :=
  Limits.bounds_ofVariable sound_eventCapacityLimits
    ((environment "EVENT_BUFFER_SIZE").map Text.beforeNul)

/-- No environment leaves a time without bounds. -/
theorem bounds_timeouts (environment : String → Option String) :
    (1 ≤ (ofEnvironment environment).1.setupTimeoutSeconds ∧
      (ofEnvironment environment).1.setupTimeoutSeconds ≤ 600) ∧
    (1 ≤ (ofEnvironment environment).1.connectTimeoutSeconds ∧
      (ofEnvironment environment).1.connectTimeoutSeconds ≤ 120) :=
  ⟨Limits.bounds_ofVariable sound_setupTimeout
      ((environment "SETUP_TIMEOUT_SECONDS").map Text.beforeNul),
    Limits.bounds_ofVariable sound_connectTimeout
      ((environment "HTTP_CONNECT_TIMEOUT_SECONDS").map Text.beforeNul)⟩

end Settings
end IssuerReadiness
