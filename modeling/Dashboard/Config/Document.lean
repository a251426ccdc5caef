import Dashboard.Config
import Dashboard.Text.Blank
import Dashboard.Yaml.ScalarText

/-! # Configuration documents

Reading a configuration from a YAML document and writing it as one. Settings
that are not given keep their defaults, unknown ones are ignored, and a setting
given twice is an error. -/

namespace Dashboard

open Yaml

/-- The value a field gives, read by `read`, or a default. -/
def fieldOr {α : Type} (fields : List (String × Node)) (name : String) (read : Node → Option α)
    (default : α) : Option α := do
  match ← field? fields name with
  | some node => read node
  | none => some default

namespace LogConfig

/-- Logging settings of a node. -/
def ofNode? (document : Document) (node : Node) : Option LogConfig := do
  let fields ← document.fields? node
  return {
    level := ← fieldOr fields "level" Node.text? ({} : LogConfig).level
    format := ← fieldOr fields "format" (fun node => node.choice?.bind LogFormat.ofName?)
      ({} : LogConfig).format }

end LogConfig

namespace BackfillConfig

/-- Query settings of a node. -/
def ofNode? (document : Document) (node : Node) : Option BackfillConfig := do
  let fields ← document.fields? node
  let default : BackfillConfig := {}
  return {
    limit := ← fieldOr fields "limit" Node.word? default.limit
    windowSeconds := ← fieldOr fields "window_secs" Node.word? default.windowSeconds
    timeoutMillis := ← fieldOr fields "timeout_ms" Node.word? default.timeoutMillis }

end BackfillConfig

namespace SessionConfig

/-- Settings of a document; nothing written leaves all defaults. -/
def ofDocument? (document : Document) : Option SessionConfig := do
  let root ← document.resolve? (document.root.getD Node.absent)
  let fields ← document.fields? root
  let default : SessionConfig := {}
  return {
    metricHistory := ← fieldOr fields "metric_history" Node.word? default.metricHistory
    logHistory := ← fieldOr fields "log_history" Node.word? default.logHistory
    backfill := ← fieldOr fields "backfill" (BackfillConfig.ofNode? document) default.backfill
    cpuLimit := ← fieldOr fields "cpu_limit" Node.optionalFloat? default.cpuLimit
    memoryLimit := ← fieldOr fields "memory_limit" Node.optionalFloat? default.memoryLimit
    logging := ← fieldOr fields "logging" (LogConfig.ofNode? document) default.logging }

/-- Read and check the configuration in a text. A blank text has all
defaults. -/
def ofYaml (text : String) : Except ConfigError SessionConfig := do
  let config ←
    if (Text.trim text.toList).isEmpty then pure {}
    else
      match (Document.read? text).bind ofDocument? with
      | some config => pure config
      | none => throw .malformed
  config.validate
  return config

/-- Content of a file: missing, or its bytes. -/
inductive FileContent where
  | missing
  | bytes (content : ByteArray)

/-- Read and check the configuration in a file. -/
def load (path : String) : FileContent → Except ConfigError SessionConfig
  | .missing => throw (.unreadable path "No such file or directory (os error 2)")
  | .bytes content =>
    match String.fromUTF8? content with
    | some text => ofYaml text
    | none => throw (.unreadable path "stream did not contain valid UTF-8")

/-- A key and the text of its value on a line. -/
def line (indent : Nat) (key : String) (value : String) : List Char :=
  List.replicate indent ' ' ++ key.toList ++ ": ".toList ++ value.toList ++ ['\n']

/-- Text of an optional number. -/
def limitText : Option Float → String
  | some limit => Decimal.floatText Decimal.documentLayout limit
  | none => "null"

/-- Columns by which each level of a document is indented. -/
def indentStep : Nat := 2

/-- The document of a configuration, every setting in it. -/
def toYaml (config : SessionConfig) : String :=
  String.ofList (
    line 0 "metric_history" (toString config.metricHistory) ++
    line 0 "log_history" (toString config.logHistory) ++
    "backfill:\n".toList ++
    line indentStep "limit" (toString config.backfill.limit) ++
    line indentStep "window_secs" (toString config.backfill.windowSeconds) ++
    line indentStep "timeout_ms" (toString config.backfill.timeoutMillis) ++
    line 0 "cpu_limit" (limitText config.cpuLimit) ++
    line 0 "memory_limit" (limitText config.memoryLimit) ++
    "logging:\n".toList ++
    List.replicate indentStep ' ' ++ "level: ".toList ++
    scalarLine (2 * indentStep) indentStep config.logging.level ++
    line indentStep "format" config.logging.format.name)

end SessionConfig

end Dashboard
