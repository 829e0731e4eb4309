import ChainGateway.Web.Request
import ChainGateway.Web.Reply

/-!
# Reads from other origins

Pages of every origin may read replies. Before a request that is not simple, a browser
asks with the method `OPTIONS` whether it may be sent. The gateway itself only answers
requests that read.
-/

namespace ChainGateway.Web

def Request.isRead (r : Request) : Bool := r.method = "GET" || r.method = "HEAD"

namespace Reply

def allowedMethods : String × String := ("allow", "GET,HEAD")

/-- The reply to a request that reads nothing, for a path that can be read. -/
def methodNotAllowed : Reply := (empty 405).addHeaders [allowedMethods]

/-- The request headers on which replies depend. -/
def varyHeader : String × String :=
  ("vary", "origin, access-control-request-method, access-control-request-headers")

def anyOrigin : String × String := ("access-control-allow-origin", "*")

/-- The reply, open to pages of every origin. -/
def shared (r : Reply) : Reply :=
  r.addHeaders [anyOrigin, ("access-control-expose-headers", "retry-after"), varyHeader]

/-- The reply to a question whether a request may be sent; `known` says whether its path
can be read. -/
def preflight (known : Bool) : Reply :=
  (empty 200).addHeaders ([
    anyOrigin,
    ("access-control-allow-headers", "*"),
    ("access-control-allow-methods", "GET,HEAD,POST,PUT,OPTIONS"),
    ("access-control-max-age", "86400"),
    varyHeader] ++ if known then [allowedMethods] else [])

end Reply
end ChainGateway.Web
