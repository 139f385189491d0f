import BulkJobs.Text.Blank
import BulkJobs.Text.Quoted
import BulkJobs.Url.Parse

/-!
# Proxies

A proxy takes effect only when both its host and its port are given.
-/

set_option autoImplicit false
set_option relaxedAutoImplicit false

namespace BulkJobs.Http

/-- Settings of a proxy, each of which may be missing. -/
structure Proxy where
  host : Option String := none
  port : Option Nat := none
  username : Option String := none
  password : Option String := none
deriving DecidableEq, Repr

namespace Proxy

/-- Whether a text holds the mark between a scheme and an authority. -/
def hasSchemeMark : List Char → Bool
  | [] => false
  | c :: rest => [':', '/', '/'].isPrefixOf (c :: rest) || hasSchemeMark rest

/-- The URL of the proxy, if host and port are given: `http` is put before a host that has no
scheme. -/
def endpoint? (proxy : Proxy) : Option String :=
  match proxy.host.map Text.trim, proxy.port with
  | some host, some port =>
    if host.isEmpty then none
    else if hasSchemeMark host.toList then
      some (Text.trimEndChars ['/'] host ++ ":" ++ toString port)
    else some ("http://" ++ host ++ ":" ++ toString port)
  | _, _ => none

/-- Whether something is given, but not enough for the proxy to take effect. -/
def isPartial (proxy : Proxy) : Bool :=
  proxy.endpoint?.isNone && (proxy.host.isSome || proxy.port.isSome)

/-- Whether a text is the URL of a host, with `http` for a missing scheme. -/
def isUsableEndpoint (endpoint : String) : Bool :=
  let names := fun (text : String) ↦ match Url.parse text with
    | .ok url => url.host?.isSome
    | .error _ => false
  match Url.parse endpoint with
  | .ok url => url.host?.isSome || names ("http://" ++ endpoint)
  | .error .relativeWithoutBase => names ("http://" ++ endpoint)
  | .error _ => false

/-- The settings for diagnostics, in which a password only shows that there is one. -/
def describe (proxy : Proxy) : String :=
  let port := match proxy.port with
    | some port => "Some(" ++ toString port ++ ")"
    | none => "None"
  "ProxyConfig \x7b host: " ++ Text.quotedOption proxy.host ++ ", port: " ++ port ++
    ", username: " ++ Text.quotedOption proxy.username ++
    ", password: " ++ Text.quotedOption (proxy.password.map fun _ ↦ "[REDACTED]") ++ " \x7d"

end Proxy

end BulkJobs.Http
