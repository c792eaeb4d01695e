import ChargeController.Service.File

/-!
# Starting the service

The service starts with a configuration that could be loaded and holds up to the checks, unless it
is switched off, and only if its serial port can be opened.

* `configFlag?` — the configuration file that the arguments name.
* `startUp` — everything up to the open port.
-/

namespace ChargeController

/-- The text after the first equals sign of a flag. -/
def flagValue? (arg : String) : Option String :=
  let flag := "--config=".toList
  if flag.isPrefixOf arg.toList then some (String.ofList (arg.toList.drop flag.length)) else none

/-- The file that the arguments name, given what the arguments before them have named.  The last
flag decides, and it decides for none if its value is missing. -/
def scanFlags (named : Option String) : List String → Option String
  | [] => named
  | arg :: rest =>
      match flagValue? arg with
      | some value => scanFlags (some value) rest
      | none => scanFlags (if arg = "--config" then rest.head? else named) rest

/-- The configuration file that the arguments name. -/
def configFlag? (args : List String) : Option String :=
  scanFlags none args

/-- What the service finds around it when it is started. -/
structure Surroundings where
  arguments : List String
  environment : Environment
  files : Files
  /-- Whether a serial port can be opened. -/
  hasPort : String → Bool

/-- Why the service does not start. -/
inductive StartupFault where
  | load (fault : LoadFault)
  | invalid (fault : ConfigFault)
  | connect (fault : BusFault)
deriving DecidableEq

namespace StartupFault

/-- What the service was about to do. -/
def summary : StartupFault → String
  | load _ => "load config failed"
  | invalid _ => "config validation failed"
  | connect _ => "serial connect failed"

/-- Why it could not. -/
def cause : StartupFault → String
  | load fault => fault.message
  | invalid fault => fault.message
  | connect fault => fault.message

end StartupFault

/-- Opens the serial port of a link. -/
def openPort (hasPort : String → Bool) (s : LinkSettings) : Except BusFault Unit :=
  if hasPort s.serialPort then .ok () else .error (.portMissing s.serialPort)

/-- Starts the service up to the open port; without a configuration it is switched off. -/
def startUp (s : Surroundings) : Except StartupFault (Option ServiceConfig) := do
  let config ← (loadConfig (configFlag? s.arguments) s.environment s.files).mapError .load
  config.check.mapError .invalid
  if config.enabled then
    (openPort s.hasPort config.link).mapError .connect
    return some config
  else
    return none

end ChargeController
