import VehicleTelemetry.Directory
import VehicleTelemetry.Settings.Basic
import VehicleTelemetry.Settings.Document
import VehicleTelemetry.Settings.Environment

/-!
Loading settings: the defaults, over them a document if there is one, over it the environment.
-/

namespace VehicleTelemetry

/-- A setting that is given, or its default. A value that does not suit the setting is refused. -/
def settingOr? {α : Type} (given : Option SettingValue) (view : SettingValue → Option α)
    (default : α) : Option α :=
  match given with
  | none => some default
  | some value => view value

/-- The vehicle's settings, where `given` is what is given under a name or in a place. -/
def VehicleConfig.ofGiven? (given : String → Nat → Option SettingValue) : Option VehicleConfig := do
  let base : VehicleConfig := {}
  let queryTimeout ←
    settingOr? (given "query_timeout_ms" 0) (·.toNat? UInt64.size) base.queryTimeout
  let queryAttempts ←
    settingOr? (given "max_query_attempts" 1) (·.toNat? UInt32.size) base.queryAttempts
  let wakeMargin ← settingOr? (given "wake_voltage_margin" 2) (·.toFloat?) base.wakeMargin
  let chargePortLifetime ←
    settingOr? (given "chargeport_auto_stale_secs" 3) (·.toNat? UInt32.size)
      base.chargePortLifetime
  some { queryTimeout, queryAttempts, wakeMargin, chargePortLifetime }

/-- The vehicle's settings in a value: by name in a table, by place in an array. -/
def VehicleConfig.ofValue? : SettingValue → Option VehicleConfig
  | .table members => ofGiven? fun name _ => List.lookup name members
  | .array items => ofGiven? fun _ place => items[place]?
  | _ => none

namespace Settings

/-- The settings in a table. -/
def ofTable? (table : SettingTable) : Option Settings := do
  let base : Settings := {}
  let given name := List.lookup name table
  let capture ← settingOr? (given "capture") (·.toText?) base.capture
  let logLevel ← settingOr? (given "log_level") (·.toText?) base.logLevel
  let jsonLogs ← settingOr? (given "json_logs") (·.toBool?) base.jsonLogs
  let realtime ← settingOr? (given "realtime") (·.toBool?) base.realtime
  let slowTickSeconds ←
    settingOr? (given "slow_tick_secs") (·.toNat? UInt64.size) base.slowTickSeconds
  let vehicle ← settingOr? (given "vehicle") VehicleConfig.ofValue? base.vehicle
  some { capture, logLevel, jsonLogs, realtime, slowTickSeconds, vehicle }

/-- The settings in an optional document, of which the format is known, and the environment. -/
def load (document : Option (DocumentFormat × List UInt8)) (environment : List (String × String)) :
    Except SettingsError Settings :=
  let members? := match document with
    | none => some []
    | some (format, bytes) =>
      (String.fromUTF8? ⟨bytes.toArray⟩).bind (SettingTable.parse? format)
  match members?.bind fun members =>
      ofTable? (Environment.apply environment (SettingTable.layer [] members)) with
  | none => .error .unreadable
  | some settings =>
    match settings.refusal? with
    | some error => .error error
    | none => .ok settings

/-! ### The file of a document -/

/-- The first of some files that is there. -/
def findFirst {m : Type → Type} [Monad m] (read : String → m (Option (List UInt8))) :
    List (DocumentFormat × String) → m (Option (DocumentFormat × List UInt8))
  | [] => return none
  | (format, path) :: rest => do
    match ← read path with
    | some bytes => return some (format, bytes)
    | none => findFirst read rest

/-- The files that a path may mean if there is none at the path itself: those with an extension
added to its name. -/
def candidates (path : String) : List (DocumentFormat × String) :=
  DocumentFormat.all.flatMap fun format =>
    format.extensions.filterMap fun extension =>
      (Path.addExtension? path extension).map fun path => (format, path)

/-- The document at a path and its format. A file whose extension stands for no format is no
document. -/
def find {m : Type → Type} [Monad m] (read : String → m (Option (List UInt8))) (path : String) :
    m (Option (DocumentFormat × List UInt8)) := do
  match ← read path with
  | some bytes =>
    let format? := (Path.extension? path).bind DocumentFormat.ofExtension?
    return format?.map fun format => (format, bytes)
  | none => findFirst read (candidates path)

/-- The settings in the document of a path, if a path is given, and the environment. -/
def loadFrom {m : Type → Type} [Monad m] (read : String → m (Option (List UInt8)))
    (path : Option String) (environment : List (String × String)) :
    m (Except SettingsError Settings) := do
  match path with
  | none => return load none environment
  | some path =>
    match ← find read path with
    | none => return .error .unreadable
    | some document => return load (some document) environment

end Settings

end VehicleTelemetry
