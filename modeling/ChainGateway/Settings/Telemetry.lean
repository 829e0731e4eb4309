import ChainGateway.Settings.Environment
import ChainGateway.Web.Problem

/-!
# Telemetry settings

How a gateway names itself in its logs. Only one log subscriber can be installed; a
second installation is an internal problem.
-/

namespace ChainGateway

structure Telemetry where
  serviceName : String
  serviceVersion : String
  environment : String
  /-- Whether logs are lines of data instead of text for readers. -/
  jsonLogs : Bool
  deriving DecidableEq, Repr

/-- The version of this gateway. -/
def version : String := "0.4.0"

namespace Telemetry

def ofEnvironment (env : Environment) : Telemetry where
  serviceName := (env.get? "LEDGERLINE_SERVICE_NAME").getD "ledgerline-api"
  serviceVersion := (env.get? "LEDGERLINE_SERVICE_VERSION").getD version
  environment := (env.get? "LEDGERLINE_ENVIRONMENT").getD "development"
  jsonLogs :=
    match env.get? "LEDGERLINE_JSON_LOGS" with
    | some s => s ≠ "false" && s ≠ "0"
    | none => true

/-- Installs the subscriber, unless one is installed. -/
def install (_ : Telemetry) (installed : Bool) : Except Web.Problem Unit :=
  if installed then
    .error (.new .internalError
      "Failed to init subscriber: a global default trace dispatcher has already been set")
  else .ok ()

end Telemetry
end ChainGateway
