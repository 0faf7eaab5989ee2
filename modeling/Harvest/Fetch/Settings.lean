/-!
# Harvest.Fetch.Settings

The knobs applied to every download attempt, with their defaults.

Durations are counted in nanoseconds. The compression ratio is the expected inflation factor of
compressed bodies: an encoded body is abandoned once its raw size passes the ceiling divided by
the ratio.
-/

namespace Harvest

/-- One second in nanoseconds. -/
def second : Int := 1000000000

/-- Download settings. -/
structure Settings where
  connectTimeout : Int := 10 * second
  readTimeout : Int := 16 * second
  /-- The bound on a whole attempt, body included; zero or less disables it. -/
  overallTimeout : Int := 60 * second
  /-- Extra attempts after the first. -/
  maxRetries : Int := 0
  /-- Whether compressed bodies are asked for. -/
  compression : Bool := true
  compressionRatio : Float := 1
  userAgent : String := "Mozilla/5.0 (compatible; docfetch/1.0)"
  referer : String := "http://www.google.com"
  deriving Inhabited

/-- The default settings. -/
def Settings.defaults : Settings := {}

end Harvest
