import Dashboard.Decimal.Text
import Dashboard.Duration

/-! # Session configuration

Every setting has a default. Settings that a session cannot work with are
refused, the first one in a fixed order. -/

namespace Dashboard

/-- Form of the program's own log lines. -/
inductive LogFormat where
  /-- For people. -/
  | pretty
  /-- One JSON object a line. -/
  | json
deriving DecidableEq

namespace LogFormat

/-- Name in documents. -/
def name : LogFormat → String
  | pretty => "pretty"
  | json => "json"

/-- The format of a name. -/
def ofName? (text : String) : Option LogFormat :=
  [pretty, json].find? fun format => format.name == text

end LogFormat

/-- What the program logs about itself. -/
structure LogConfig where
  /-- Level filter. -/
  level : String := "warn"
  format : LogFormat := .pretty
deriving DecidableEq

/-- Limits of the historical log query. -/
structure BackfillConfig where
  /-- Most entries the query may return. -/
  limit : UInt64 := 500
  /-- How far back the query looks. -/
  windowSeconds : UInt64 := 3600
  /-- Time after which the query is given up. -/
  timeoutMillis : UInt64 := 5000
deriving DecidableEq

namespace BackfillConfig

/-- How far back the query looks. -/
def window (config : BackfillConfig) : Duration :=
  Duration.ofSeconds config.windowSeconds

/-- Time after which the query is given up. -/
def timeout (config : BackfillConfig) : Duration :=
  Duration.ofMillis config.timeoutMillis.toNat

end BackfillConfig

/-- Settings of a session. -/
structure SessionConfig where
  /-- Samples kept of each metric of each entity. -/
  metricHistory : UInt64 := 300
  /-- Entries kept in each log view. -/
  logHistory : UInt64 := 1000
  backfill : BackfillConfig := {}
  /-- Processor limit in percent. -/
  cpuLimit : Option Float := none
  /-- Memory limit in bytes. -/
  memoryLimit : Option Float := none
  logging : LogConfig := {}

/-- Why there is no configuration. -/
inductive ConfigError where
  /-- The file could not be read. -/
  | unreadable (path detail : String)
  /-- The text is no document of the expected shape. -/
  | malformed
  /-- A setting that has to be positive is zero. -/
  | zero (field : String)
  /-- A limit is not positive and finite. -/
  | badLimit (field : String) (limit : Float)

namespace ConfigError

/-- Text of an error. -/
def message : ConfigError → String
  | unreadable path detail => s!"failed to read config {path}: {detail}"
  | malformed => "invalid config"
  | zero field => s!"invalid value for {field}: must be greater than zero"
  | badLimit field limit =>
    let shown := Decimal.floatText Decimal.messageLayout limit
    s!"invalid value for {field}: {shown} is not a positive number"

end ConfigError

namespace SessionConfig

/-- Refuse a setting of zero. -/
def checkPositive (field : String) (value : UInt64) : Except ConfigError Unit :=
  if value = 0 then throw (.zero field) else pure ()

/-- Refuse a limit that is not positive and finite. -/
def checkLimit (field : String) : Option Float → Except ConfigError Unit
  | some limit =>
    if limit.isFinite && 0.0 < limit then pure () else throw (.badLimit field limit)
  | none => pure ()

/-- Refuse settings that a session cannot work with. -/
def validate (config : SessionConfig) : Except ConfigError Unit := do
  checkPositive "metric_history" config.metricHistory
  checkPositive "log_history" config.logHistory
  checkPositive "backfill.limit" config.backfill.limit
  checkPositive "backfill.timeout_ms" config.backfill.timeoutMillis
  checkLimit "cpu_limit" config.cpuLimit
  checkLimit "memory_limit" config.memoryLimit

/-- Whether two configurations agree in every setting. Limits are compared as
numbers. -/
def agrees (a b : SessionConfig) : Bool :=
  a.metricHistory == b.metricHistory && a.logHistory == b.logHistory && a.backfill == b.backfill &&
    a.cpuLimit == b.cpuLimit && a.memoryLimit == b.memoryLimit && a.logging == b.logging

end SessionConfig

end Dashboard
