import LiveTrace.Config.Basic
import LiveTrace.Toml.Document
import LiveTrace.Toml.Writer
/-!
# LiveTrace.Config.File

The configuration as a file: its text (`Config.text`), the configuration that a text stands for
(`Config.parse`), and what is made of whatever stands at the path of the file (`Config.load`). A
file that does not exist is created with the defaults.
-/

namespace LiveTrace

/-! ## Writing -/

/-- The settings of connections; a token is written only if there is one. -/
def ConnectionConfig.settings (c : ConnectionConfig) : List (String × Toml.Setting) :=
  ("host", .text c.host) :: (c.token.map fun token => ("token", Toml.Setting.text token)).toList

/-- The settings of the monitoring API. -/
def MonitorConfig.settings (c : MonitorConfig) : List (String × Toml.Setting) :=
  [("api", .text c.api), ("show_monitor_events", .flag c.showMonitorEvents),
    ("show_permissions", .flag c.showPermissions)]

/-- The settings of the log. -/
def LogConfig.settings (c : LogConfig) : List (String × Toml.Setting) :=
  [("enabled", .flag c.enabled), ("max_entries", .count c.maxEntries)]

/-- The settings of trace events. -/
def TraceConfig.settings (c : TraceConfig) : List (String × Toml.Setting) :=
  [("max_events", .count c.maxEvents), ("descriptor_depth", .count c.descriptorDepth),
    ("data_depth", .count c.dataDepth)]

/-- The settings of colors. -/
def StyleConfig.settings (c : StyleConfig) : List (String × Toml.Setting) :=
  [("enabled", .flag c.enabled), ("number", .text c.number), ("string", .text c.string),
    ("boolean", .text c.boolean), ("null", .text c.null), ("json", .text c.json),
    ("key", .text c.key), ("tag", .text c.tag), ("error", .text c.error)]

namespace Config

/-- The sections of a configuration. -/
def sections (c : Config) : List Toml.Section :=
  [⟨"connection", c.connection.settings⟩, ⟨"monitor", c.monitor.settings⟩,
    ⟨"log", c.log.settings⟩, ⟨"trace", c.trace.settings⟩, ⟨"style", c.style.settings⟩]

/-- The text of a configuration. -/
def text (c : Config) : String := Toml.write c.sections

end Config

/-! ## Reading -/

/-- What can go wrong with the file of a configuration. -/
inductive ConfigError
  /-- The file cannot be read, or is no text. -/
  | unreadable
  /-- The text is not that of a configuration. -/
  | malformed
  /-- The file cannot be written. -/
  | unwritable
  deriving DecidableEq, Inhabited

/-- What the operator is told. -/
def ConfigError.message : ConfigError → String
  | unreadable => "Failed to read config file"
  | malformed => "Failed to parse config file as TOML"
  | unwritable => "Failed to write config file"

/-- What stands at a path. -/
inductive FileContent
  /-- Nothing. -/
  | absent
  /-- Something that cannot be read. -/
  | unreadable
  /-- A file. -/
  | bytes (content : ByteArray)
  deriving Inhabited

/-- The text of a file, if it is one. -/
def FileContent.text? : FileContent → Option String
  | bytes content => String.fromUTF8? content
  | absent | unreadable => none

namespace Config

/-- How many entries each section has. -/
def sectionSizes : List (String × Nat) :=
  [("connection", ConnectionConfig.rules.length), ("monitor", MonitorConfig.rules.length),
    ("log", LogConfig.rules.length), ("trace", TraceConfig.rules.length),
    ("style", StyleConfig.rules.length)]

/-- A section that is an array is looked at as far as there are entries; other values stay. -/
def withoutSurplus (e : String × Toml.Value) : String × Toml.Value :=
  match sectionSizes.lookup e.1, e.2 with
  | some n, .array items => (e.1, .array (items.take n))
  | _, _ => e

/-- The configuration that the entries of a document stand for. -/
def ofEntries (entries : List (String × Toml.Value)) : Except ConfigError Config :=
  match Toml.entriesToJson? (entries.map withoutSurplus) with
  | none => .error .malformed
  | some fields => (ofJson (.object fields)).mapError fun _ => .malformed

/-- The configuration that a text stands for. -/
def parse (text : String) : Except ConfigError Config :=
  match Toml.read? text with
  | none => .error .malformed
  | some entries => ofEntries entries

/-- What reading a configuration comes to. -/
structure Loaded where
  config : Config
  /-- The text of the file to create, if there was none. -/
  created : Option String

/-- The configuration at a path; the defaults where there is none. -/
def load : FileContent → Except ConfigError Loaded
  | .absent => .ok ⟨default, some default.text⟩
  | file =>
    match file.text? with
    | none => .error .unreadable
    | some text => (parse text).map fun config => ⟨config, none⟩

end Config

end LiveTrace
