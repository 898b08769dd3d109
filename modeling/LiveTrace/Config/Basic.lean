import LiveTrace.Session.Basic
import LiveTrace.Trace.Tree
/-!
# LiveTrace.Config.Basic

The configuration of the program: where to connect, how to use the monitoring API, what to keep
and how to print it. It is read from a document of five sections, each an object or an array of its
entries; entries that are left out take their defaults.
-/

namespace LiveTrace

/-- Where to connect. -/
structure ConnectionConfig where
  /-- Host and port. -/
  host : String
  /-- Access token. -/
  token : Option String
  deriving DecidableEq, Inhabited

/-- How to use the monitoring API. -/
structure MonitorConfig where
  /-- Name of the monitoring API. -/
  api : String
  /-- Whether to show trace events that the monitoring API caused. -/
  showMonitorEvents : Bool
  /-- Whether to print who may use an operation. -/
  showPermissions : Bool
  deriving DecidableEq, Inhabited

/-- The log. -/
structure LogConfig where
  /-- Whether entries are recorded. -/
  enabled : Bool
  /-- How many entries are kept. -/
  maxEntries : Nat
  deriving DecidableEq, Inhabited

/-- Trace events. -/
structure TraceConfig where
  /-- How many trace events are kept. -/
  maxEvents : Nat
  /-- Depth to which descriptors are opened. -/
  descriptorDepth : Nat
  /-- Depth to which payloads are opened. -/
  dataDepth : Nat
  deriving DecidableEq, Inhabited

/-- Colors, by name. -/
structure StyleConfig where
  /-- Whether to use colors on a terminal. -/
  enabled : Bool
  number : String
  string : String
  boolean : String
  null : String
  /-- Containers that are not opened. -/
  json : String
  /-- Keys and names. -/
  key : String
  /-- Tags of events and log entries. -/
  tag : String
  error : String
  deriving DecidableEq, Inhabited

/-- The configuration of the program. -/
structure Config where
  connection : ConnectionConfig
  monitor : MonitorConfig
  log : LogConfig
  trace : TraceConfig
  style : StyleConfig
  deriving DecidableEq, Inhabited

/-! ## Defaults -/

/-- The daemon on this machine, without a token. -/
def ConnectionConfig.default : ConnectionConfig := ⟨"localhost:1234", none⟩

/-- The usual name, and nothing more than is needed. -/
def MonitorConfig.default : MonitorConfig := ⟨defaultMonitorApi, false, false⟩

/-- No log. -/
def LogConfig.default : LogConfig := ⟨false, LogFeed.defaultCapacity⟩

/-- The usual number of events and the usual depths. -/
def TraceConfig.default : TraceConfig :=
  ⟨SessionConfig.defaultMaxTraceEvents, RenderDepths.default.descriptor, RenderDepths.default.data⟩

/-- A color for each kind of text. -/
def StyleConfig.default : StyleConfig :=
  ⟨true, "dark_yellow", "green", "blue", "magenta", "gray", "cyan", "yellow", "red"⟩

/-- Every section at its defaults. -/
def Config.default : Config := ⟨.default, .default, .default, .default, .default⟩

/-! ## Reading -/

/-- The entries of the section of connections. -/
def ConnectionConfig.rules : List FieldRule := [.string "host", .optionalString "token"]

/-- Read the section of connections. -/
def ConnectionConfig.ofJson (v : Json) : Except Mismatch ConnectionConfig :=
  (Record.fields? "ConnectionConfig" rules v).map fun f =>
    ⟨Record.string f "host" default.host, Record.string? f "token"⟩

/-- The entries of the section of the monitoring API. -/
def MonitorConfig.rules : List FieldRule :=
  [.string "api", .bool "show_monitor_events", .bool "show_permissions"]

/-- Read the section of the monitoring API. -/
def MonitorConfig.ofJson (v : Json) : Except Mismatch MonitorConfig :=
  (Record.fields? "MonitorConfig" rules v).map fun f =>
    ⟨Record.string f "api" default.api,
      Record.bool f "show_monitor_events" default.showMonitorEvents,
      Record.bool f "show_permissions" default.showPermissions⟩

/-- The entries of the section of the log. -/
def LogConfig.rules : List FieldRule := [.bool "enabled", .nat "max_entries"]

/-- Read the section of the log. -/
def LogConfig.ofJson (v : Json) : Except Mismatch LogConfig :=
  (Record.fields? "LogConfig" rules v).map fun f =>
    ⟨Record.bool f "enabled" default.enabled, Record.nat f "max_entries" default.maxEntries⟩

/-- The entries of the section of trace events. -/
def TraceConfig.rules : List FieldRule :=
  [.nat "max_events", .nat "descriptor_depth", .nat "data_depth"]

/-- Read the section of trace events. -/
def TraceConfig.ofJson (v : Json) : Except Mismatch TraceConfig :=
  (Record.fields? "TraceConfig" rules v).map fun f =>
    ⟨Record.nat f "max_events" default.maxEvents,
      Record.nat f "descriptor_depth" default.descriptorDepth,
      Record.nat f "data_depth" default.dataDepth⟩

/-- The entries of the section of colors. -/
def StyleConfig.rules : List FieldRule :=
  [.bool "enabled", .string "number", .string "string", .string "boolean", .string "null",
    .string "json", .string "key", .string "tag", .string "error"]

/-- Read the section of colors. -/
def StyleConfig.ofJson (v : Json) : Except Mismatch StyleConfig :=
  (Record.fields? "StyleConfig" rules v).map fun f =>
    { enabled := Record.bool f "enabled" default.enabled
      number := Record.string f "number" default.number
      string := Record.string f "string" default.string
      boolean := Record.string f "boolean" default.boolean
      null := Record.string f "null" default.null
      json := Record.string f "json" default.json
      key := Record.string f "key" default.key
      tag := Record.string f "tag" default.tag
      error := Record.string f "error" default.error }

namespace Config

/-- A section as a field of the document. -/
def sectionRule {α : Type} (name : String) (read : Json → Except Mismatch α) : FieldRule :=
  ⟨name, fun v => (read v).map fun _ => (), false⟩

/-- A section of the document, or its default. -/
def readSection {α : Type} (fields : List (String × Json)) (name : String)
    (read : Json → Except Mismatch α) (default : α) : α :=
  match (Entries.lookup? name fields).map read with
  | some (.ok a) => a
  | _ => default

/-- The sections of the document. -/
def rules : List FieldRule :=
  [sectionRule "connection" ConnectionConfig.ofJson,
   sectionRule "monitor" MonitorConfig.ofJson,
   sectionRule "log" LogConfig.ofJson,
   sectionRule "trace" TraceConfig.ofJson,
   sectionRule "style" StyleConfig.ofJson]

/-- Read a configuration. -/
def ofJson (v : Json) : Except Mismatch Config :=
  (Record.fields? "Config" rules v).map fun f =>
    { connection := readSection f "connection" ConnectionConfig.ofJson .default
      monitor := readSection f "monitor" MonitorConfig.ofJson .default
      log := readSection f "log" LogConfig.ofJson .default
      trace := readSection f "trace" TraceConfig.ofJson .default
      style := readSection f "style" StyleConfig.ofJson .default }

/-- The configuration as an object of sections; no token is `null`. -/
def toJson (c : Config) : Json :=
  .object [
    ("connection", .object [("host", .string c.connection.host),
      ("token", (c.connection.token.map Json.string).getD .null)]),
    ("monitor", .object [("api", .string c.monitor.api),
      ("show_monitor_events", .bool c.monitor.showMonitorEvents),
      ("show_permissions", .bool c.monitor.showPermissions)]),
    ("log", .object [("enabled", .bool c.log.enabled), ("max_entries", .int c.log.maxEntries)]),
    ("trace", .object [("max_events", .int c.trace.maxEvents),
      ("descriptor_depth", .int c.trace.descriptorDepth), ("data_depth", .int c.trace.dataDepth)]),
    ("style", .object [("enabled", .bool c.style.enabled), ("number", .string c.style.number),
      ("string", .string c.style.string), ("boolean", .string c.style.boolean),
      ("null", .string c.style.null), ("json", .string c.style.json), ("key", .string c.style.key),
      ("tag", .string c.style.tag), ("error", .string c.style.error)])]

/-- Settings of a session. -/
def session (c : Config) : SessionConfig where
  monitorApi := c.monitor.api
  showMonitorEvents := c.monitor.showMonitorEvents
  logEnabled := c.log.enabled
  maxLogEntries := c.log.maxEntries
  maxTraceEvents := c.trace.maxEvents

/-- Depths to which trace events are opened. -/
def depths (c : Config) : RenderDepths := ⟨c.trace.descriptorDepth, c.trace.dataDepth⟩

end Config

end LiveTrace
