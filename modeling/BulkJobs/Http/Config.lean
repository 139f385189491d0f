import BulkJobs.Http.Failure
import BulkJobs.Http.Header
import BulkJobs.Http.Proxy

/-!
# Settings of the HTTP layer
-/

set_option autoImplicit false
set_option relaxedAutoImplicit false

namespace BulkJobs.Http

/-- Whether replies may be compressed: compression is enabled and the compressed forms are
accepted. -/
structure Compression where
  enabled : Bool
  accepted : Bool
deriving DecidableEq, Repr

namespace Compression

def switched (on : Bool) : Compression :=
  { enabled := on, accepted := on }

/-- Whether requests say that replies may be compressed. -/
def isOffered (compression : Compression) : Bool :=
  compression.enabled && compression.accepted

end Compression

/-- Settings of the HTTP layer, as they are given; `check` says whether they can be used. -/
structure Config where
  compression : Compression := .switched true
  timeout : Span := .ofSeconds 120
  connectTimeout : Span := .ofSeconds 10
  idleTimeout : Span := .ofSeconds 90
  maxIdlePerHost : Nat := 10
  userAgent : String := "bulkline/0.1.0"
  tracing : Bool := true
  proxy : Option Proxy := none
deriving DecidableEq, Repr

namespace Config

/-- The endpoint of the proxy that takes effect; a proxy without host or port takes none. -/
def proxyEndpoint? (config : Config) : Option String :=
  config.proxy.bind Proxy.endpoint?

/-- Check that requests can be made with these settings: the proxy must be the URL of a host, and
the user agent must be fit for a header. -/
def check (config : Config) : Except Failure Unit :=
  let proxyUsable := match config.proxyEndpoint? with
    | some endpoint => Proxy.isUsableEndpoint endpoint
    | none => true
  if proxyUsable && Header.isValue config.userAgent then .ok ()
  else .error (.dueTo (.config "builder error"))

end Config

end BulkJobs.Http
