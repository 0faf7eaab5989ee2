/-!
# Harvest.Fetch.Error

Why a fetch failed, as a chain of causes.

A failure is one of: the filter refused the locator; the body exceeded the ceiling; the
transport failed (with the HTTP status when one was received); all attempts failed (with the last
cause); the batch was aborted after too many failures; the caller cancelled (a single fetch, or
a whole batch); or a cause wrapped with the locator it concerns. Two failures are *terminal*,
that is retrying cannot help: a filtered locator and a body that is too large. The questions the
callers ask of a failure (is it filtered, is it a transport failure, what was the status) look
through the whole chain.
-/

namespace Harvest

/-- Why a fetch failed. -/
inductive FetchError where
  /-- The filter refused the locator. -/
  | filtered (url : String)
  /-- The body exceeded the ceiling `limit`; `read` bytes had been read when that was seen. -/
  | tooLarge (url : String) (limit read : Int)
  /-- The transport failed; `status` is the HTTP status received, or 0. -/
  | transport (url : String) (status : Int) (detail : String)
  /-- Every attempt failed; `last` is the failure of the last one. -/
  | exhausted (url : String) (attempts : Int) (last : FetchError)
  /-- The batch stopped after `failures` failures, its ceiling being `limit`. -/
  | aborted (failures limit : Int)
  /-- The caller cancelled. -/
  | canceled
  /-- A batch stopped because its caller cancelled; `cause` says why. -/
  | batchCanceled (cause : FetchError)
  /-- A failure concerning a locator, reported with it. -/
  | about (url : String) (inner : FetchError)
  /-- A failure of another part, by its message. -/
  | other (msg : String)
  deriving DecidableEq, Repr, Inhabited

namespace FetchError

/-- The message of a failure. -/
def message : FetchError → String
  | .filtered url => "filtered " ++ url
  | .tooLarge url limit read =>
    url ++ " exceeded " ++ toString limit ++ " bytes (read " ++ toString read ++ ")"
  | .transport url status detail =>
    if status != 0 then "transport " ++ url ++ ": status " ++ toString status ++ ": " ++ detail
    else "transport " ++ url ++ ": " ++ detail
  | .exhausted url attempts last =>
    url ++ " failed after " ++ toString attempts ++ " attempts: " ++ last.message
  | .aborted failures limit =>
    "batch aborted after " ++ toString failures ++ " failures (limit " ++ toString limit ++ ")"
  | .canceled => "context canceled"
  | .batchCanceled cause => "batch canceled: " ++ cause.message
  | .about url inner => "fetch " ++ url ++ ": " ++ inner.message
  | .other msg => msg

/-- The chain of causes, outermost first. -/
def chain : FetchError → List FetchError
  | e@(.exhausted _ _ last) => e :: chain last
  | e@(.about _ inner) => e :: chain inner
  | e@(.batchCanceled cause) => e :: chain cause
  | e => [e]

/-- Whether the filter refused the locator. -/
def isFiltered (e : FetchError) : Bool :=
  e.chain.any fun c => match c with
    | .filtered _ => true
    | _ => false

/-- Whether the body was too large. -/
def isTooLarge (e : FetchError) : Bool :=
  e.chain.any fun c => match c with
    | .tooLarge .. => true
    | _ => false

/-- Whether the batch was aborted. -/
def isAborted (e : FetchError) : Bool :=
  e.chain.any fun c => match c with
    | .aborted .. => true
    | _ => false

/-- Whether the caller cancelled. -/
def isCanceled (e : FetchError) : Bool :=
  e.chain.any fun c => match c with
    | .canceled => true
    | _ => false

/-- The first transport failure of the chain: its status. -/
def transportStatus? (e : FetchError) : Option Int :=
  e.chain.findSome? fun c => match c with
    | .transport _ status _ => some status
    | _ => none

/-- Whether the transport failed. -/
def isTransport (e : FetchError) : Bool := e.transportStatus?.isSome

/-- Whether retrying cannot help. -/
def isTerminal (e : FetchError) : Bool := e.isFiltered || e.isTooLarge

/-- The ceiling and bytes read of the first too-large failure of the chain. -/
def tooLarge? (e : FetchError) : Option (Int × Int) :=
  e.chain.findSome? fun c => match c with
    | .tooLarge _ limit read => some (limit, read)
    | _ => none

/-- The attempt count of the first exhausted failure of the chain. -/
def attempts? (e : FetchError) : Option Int :=
  e.chain.findSome? fun c => match c with
    | .exhausted _ n _ => some n
    | _ => none

/-- The failures and ceiling of the first abort of the chain. -/
def aborted? (e : FetchError) : Option (Int × Int) :=
  e.chain.findSome? fun c => match c with
    | .aborted f l => some (f, l)
    | _ => none

end FetchError

end Harvest
