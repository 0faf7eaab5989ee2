import Harvest.Fetch.Outcome
import Harvest.Proxy.Endpoint
import Harvest.Text.Decimal
/-!
# Harvest.Fetch.Retry

The attempt loop around single downloads, moving through the proxy ring on failure.

A fetch makes up to `max(0, maxRetries) + 1` attempts, each through the ring's head at that
moment (direct when the ring is empty). That budget is computed in 64-bit machine integers: the
largest setting wraps round to the least integer, and then no attempt is made at all and the
fetch fails at once as "failed after" that many attempts, with no last failure. A success is reported to the ring through the endpoint it
used and ends the loop; a terminal failure (filtered or too large) ends it at once and is
returned as it is. Any other failure rotates the ring away from the endpoint used and the loop
goes on; when no attempt is left, the last failure is wrapped as "failed after `n` attempts". A
cancelled caller gets no attempt at all.
-/

namespace Harvest

/-- What the attempt loop needs from the world it runs in. -/
structure RetryHooks (σ : Type) where
  /-- The endpoint the next attempt goes through. -/
  head : σ → Option Endpoint
  /-- One attempt. -/
  attempt : σ → Option Endpoint → σ × Except FetchError Outcome
  /-- Reports a success through an endpoint. -/
  succeeded : σ → Endpoint → σ
  /-- Reports a failure through an endpoint. -/
  failed : σ → Endpoint → σ

namespace Retry

/-- The attempt budget for a retry setting: one more than the retries, negative retries counting
as none. The controller adds in 64-bit machine integers, where one more than the greatest value
wraps round to the least; a setting beyond that range cannot reach the controller, and is taken as
the greatest. -/
def attempts (maxRetries : Int) : Int :=
  let retries := max maxRetries 0
  if retries < Decimal.int64Max then retries + 1 else Decimal.int64Min

/-- Attempts number `n` on, `fuel` attempts being left; `last` is the failure before. When no
attempt was made there is no last failure, and the message shows it as `<nil>`. -/
def loop {σ : Type} (h : RetryHooks σ) (url : String) (total : Int) :
    Nat → Nat → Option FetchError → σ → σ × Outcome × Option FetchError
  | 0, _, last, s =>
    let err := FetchError.exhausted url total (last.getD (.other "<nil>"))
    (s, { Outcome.failed url err with attempts := total }, some err)
  | fuel + 1, n, _, s =>
    let via := h.head s
    match h.attempt s via with
    | (s, .ok out) =>
      let s := match via with
        | some e => h.succeeded s e
        | none => s
      (s, { out with attempts := n }, none)
    | (s, .error err) =>
      if err.isTerminal then (s, { Outcome.failed url err with attempts := n }, some err)
      else
        let s := match via with
          | some e => h.failed s e
          | none => s
        loop h url total fuel (n + 1) (some err) s

/-- Fetches a locator with retries. -/
def fetch {σ : Type} (h : RetryHooks σ) (maxRetries : Int) (canceled : Bool) (url : String)
    (s : σ) : σ × Outcome × Option FetchError :=
  if canceled then (s, Outcome.failed url .canceled, some (.about url .canceled))
  else loop h url (attempts maxRetries) (attempts maxRetries).toNat 1 none s

end Retry

end Harvest
