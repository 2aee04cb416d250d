import NodeVolumes.Text.Quoted

/-! # Failures

Every call that can fail does so with an `Error`, which names its cause.

* `Error.message` words an error for the log and the user.
* `Error.isRetryable`: the same request may succeed later, without a change to it.
* `Error.isTransient`: the cluster, not the request, is at fault.
* `Error.ofApi` sorts the failures of the API by their code. -/

namespace NodeVolumes

/-- A failure that the API server reports. -/
structure ApiFailure where
  code : Nat
  message : String
  reason : String
  deriving DecidableEq, Repr, Inhabited

namespace ApiFailure

/-- The failure in words: message and reason, then all of its fields. -/
def describe (f : ApiFailure) : String :=
  "ApiError: " ++ f.message ++ ": " ++ f.reason ++ " (ErrorResponse \x7b status: \"Failure\", " ++
    "message: " ++ Text.quoted f.message ++ ", reason: " ++ Text.quoted f.reason ++
    ", code: " ++ toString f.code ++ " \x7d)"

end ApiFailure

/-- Why a call of the API fails. -/
inductive ApiError where
  /-- The server reports a failure. -/
  | reported (failure : ApiFailure)
  /-- The address would hold a character that no address can hold, so that no request is made. -/
  | unwritten
  /-- What the server sends is not of the right shape. -/
  | unreadable
  deriving DecidableEq, Repr

/-- The error in words. -/
def ApiError.describe : ApiError → String
  | reported failure => failure.describe
  | unwritten => "Failed to build request: failed to build request: invalid uri character"
  | unreadable => "Error deserializing response"

/-- Tells the failures whose reason is that the object does not exist, whatever their code. -/
def ApiError.saysNotFound : ApiError → Bool
  | reported failure => failure.reason = "NotFound"
  | unwritten | unreadable => false

/-- The causes of failure of a provision or delete call. -/
inductive Error where
  | internal (detail : String)
  | configuration (detail : String)
  | cancelled (activity : String)
  | invalidConfigLayer (layer reason : String)
  | deprecatedOption (key replacement : String)
  | unsupportedStorageType (name : String)
  | unsafePath (path reason : String)
  | invalidQuotaFormat (grace : String)
  | quotaLimitOrder (soft hard : String)
  | invalidHelperOptions (detail : String)
  | helperTimeout (task : String) (polls : Nat)
  | helperFailed (task reason : String)
  | noBlockDeviceFound (claim volume : String)
  | blockDeviceClaim (claim reason : String)
  | invalidRequest (detail : String)
  | noSelectedNode
  | nodeLookup (labels reason : String)
  | api (cause : ApiError)
  | resourceNotFound (kind name : String)
  | resourceExists (kind name : String)
  | capacityParse (detail : String)
  deriving DecidableEq, Repr

/-- What the scheduler is told about a failed provision call. -/
inductive ProvisioningState where
  | finished
  | reschedule
  deriving DecidableEq, Repr

namespace Error

/-- An error in words. -/
def message : Error → String
  | internal detail => "Internal error: " ++ detail
  | configuration detail => "Configuration error: " ++ detail
  | cancelled activity => "Operation cancelled: " ++ activity
  | invalidConfigLayer layer reason => "Invalid " ++ layer ++ " config: " ++ reason
  | deprecatedOption key replacement =>
    "Cannot use deprecated \"" ++ key ++ "\" config option, use \"" ++ replacement ++ "\" instead"
  | unsupportedStorageType name => "PV with StorageType " ++ name ++ " is not supported"
  | unsafePath path reason => "Unsafe volume path " ++ path ++ ": " ++ reason
  | invalidQuotaFormat grace => "Invalid format for limit grace: " ++ Text.quoted grace
  | quotaLimitOrder soft hard =>
    "Hard limit " ++ hard ++ " cannot be smaller than soft limit " ++ soft
  | invalidHelperOptions detail => "Invalid helper task options: " ++ detail
  | helperTimeout task polls =>
    "Helper task " ++ task ++ " did not complete after " ++ toString polls ++ " polls"
  | helperFailed task reason => "Helper task " ++ task ++ " failed: " ++ reason
  | noBlockDeviceFound claim volume =>
    "Unable to find BD for BDC " ++ claim ++ " associated with PV " ++ volume
  | blockDeviceClaim claim reason => "Block device claim " ++ claim ++ " error: " ++ reason
  | invalidRequest detail => "Invalid volume request: " ++ detail
  | noSelectedNode => "Configuration error, no node was specified"
  | nodeLookup labels reason => "Unable to determine node for labels " ++ labels ++ ": " ++ reason
  | api cause => "Kubernetes API error: " ++ cause.describe
  | resourceNotFound kind name => "Resource not found: " ++ kind ++ "/" ++ name
  | resourceExists kind name => "Resource already exists: " ++ kind ++ "/" ++ name
  | capacityParse detail => "Capacity parse error: " ++ detail

/-- Only a missing node lets the scheduler place the claim anew. -/
def provisioningState : Error → ProvisioningState
  | noSelectedNode => .reschedule
  | _ => .finished

/-- Tells the errors that may clear without a change to the request. -/
def isRetryable : Error → Bool
  | configuration _ | invalidConfigLayer .. | deprecatedOption .. | unsupportedStorageType _
  | unsafePath .. | invalidQuotaFormat _ | quotaLimitOrder .. | invalidHelperOptions _
  | invalidRequest _ | capacityParse _ => false
  | _ => true

/-- Tells the errors that lie with the cluster and pass by themselves. -/
def isTransient : Error → Bool
  | api _ | helperTimeout .. | noBlockDeviceFound .. => true
  | _ => false

/-- Tells the errors that say that an object does not exist. -/
def isNotFound : Error → Bool
  | resourceNotFound .. => true
  | _ => false

/-- Tells the errors that say that an object exists already. -/
def isExists : Error → Bool
  | resourceExists .. => true
  | _ => false

/-- The error for a failed call of the API about one object: the codes 404 and 409 of the server name
a missing and an existing object. -/
def ofApi (cause : ApiError) (kind name : String) : Error :=
  match cause with
  | .reported failure =>
    if failure.code = 404 then resourceNotFound kind name
    else if failure.code = 409 then resourceExists kind name
    else api cause
  | .unwritten | .unreadable => api cause

/-- A transient error may be retried. -/
theorem isRetryable_of_isTransient {e : Error} (h : e.isTransient = true) :
    e.isRetryable = true := by
  cases e <;> simp_all [isTransient, isRetryable]

theorem isTransient_ofApi_iff {f : ApiFailure} {kind name : String} :
    (ofApi (.reported f) kind name).isTransient = true ↔ f.code ≠ 404 ∧ f.code ≠ 409 := by
  simp only [ofApi]
  split <;> (try split) <;> simp_all [isTransient]

end Error
end NodeVolumes
