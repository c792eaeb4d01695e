import ChargeController.Service.Startup

/-!
# The command line

Starts the service: reads the configuration file that the arguments or the environment name, checks
the configuration, and opens the serial port.
-/

namespace ChargeController

/-- The variables that the configuration is read from. -/
def variableNames : List String :=
  ["SOLAR_CONFIG", "SOLAR_ENABLED", "SOLAR_DEVICE_ID", "SOLAR_CONTROLLER_TYPE",
    "SOLAR_SERIAL_PORT", "SOLAR_BAUD_RATE", "SOLAR_SLAVE_ID", "SOLAR_MODBUS_TIMEOUT_MS",
    "SOLAR_RETRY_ATTEMPTS", "SOLAR_RETRY_DELAY_MS", "SOLAR_POLL_INTERVAL_MS",
    "SOLAR_COLLECTION_TIMEOUT_MS", "SOLAR_BATCHED_READS", "SOLAR_READ_RECOVERY_MS",
    "SOLAR_CACHE_TTL_SECS", "SOLAR_TOPIC_PREFIX"]

/-- The variables of the environment that are set. -/
def readEnvironment : IO Environment := do
  let values ← variableNames.filterMapM fun name => do
    return (← IO.getEnv name).map (name, ·)
  return fun name => values.lookup name

/-- The contents of a file, if it can be read. -/
def readContents (path : String) : IO (Option ByteArray) := do
  try
    return some (← IO.FS.readBinFile path)
  catch _ =>
    return none

/-- Whether a port can be opened. -/
def probePort (path : String) : IO Bool := do
  try
    let _ ← IO.FS.Handle.mk path .readWrite
    return true
  catch _ =>
    return false

/-- The serial port of the configuration, if there is one. -/
def portOf (s : Surroundings) : Option String :=
  (loadConfig (configFlag? s.arguments) s.environment s.files).toOption.map (·.link.serialPort)

/-- What the service finds around it, as far as it will ask for it. -/
def readSurroundings (arguments : List String) : IO Surroundings := do
  let environment ← readEnvironment
  let path := configPath? (configFlag? arguments) environment
  let content ← match path with
    | some path => readContents path
    | none => pure none
  let files : Files := fun name => if path = some name then content else none
  let blind : Surroundings := ⟨arguments, environment, files, fun _ => false⟩
  let found ← match portOf blind with
    | some port => probePort port
    | none => pure false
  return { blind with hasPort := fun _ => found }

end ChargeController

open ChargeController in
/-- Starts the service, and tells why if it does not start. -/
def main (arguments : List String) : IO UInt32 := do
  match startUp (← readSurroundings arguments) with
  | .ok (some config) =>
      IO.println ("connected to charge controller on " ++ config.link.serialPort)
      return 0
  | .ok none =>
      IO.println "controller disabled via configuration"
      return 0
  | .error fault =>
      IO.eprintln ("Error: " ++ fault.summary ++ "\n\nCaused by:\n    " ++ fault.cause)
      return 1
