import Dashboard.Json
import Std.Data.TreeMap

/-! # Monitored entities and metrics -/

namespace Dashboard

/-- Identifier of a container, or of the host itself. -/
structure EntityId where
  name : String
deriving DecidableEq, Hashable

namespace EntityId

/-- Reserved name the samples of the host are filed under. -/
def hostName : String := "__host__"

/-- The host. -/
def host : EntityId := ⟨hostName⟩

/-- Whether an identifier names the host rather than a container. -/
def isHost (id : EntityId) : Bool :=
  id.name == hostName

/-- Name shown on screen. -/
def displayName (id : EntityId) : String :=
  if id.isHost then "host" else id.name

/-- Identifiers are ordered by name, code point by code point. -/
instance : Ord EntityId where
  compare a b := compare a.name b.name

instance : Std.TransOrd EntityId where
  eq_swap := Std.OrientedOrd.eq_swap (α := String)
  isLE_trans := Std.TransOrd.isLE_trans (α := String)

instance : Std.LawfulEqOrd EntityId where
  compare_self := Std.ReflOrd.compare_self (α := String)
  eq_of_compare {a b} h := by
    have : a.name = b.name := Std.LawfulEqOrd.eq_of_compare h
    cases a
    cases b
    simp_all

end EntityId

/-- A numeric series kept for every entity. -/
inductive Metric where
  /-- Processor usage in percent of one core. -/
  | cpu
  /-- Resident memory in bytes. -/
  | memory
  /-- Network bytes received a second. -/
  | netRx
  /-- Network bytes sent a second. -/
  | netTx
  /-- Bytes read from block devices a second. -/
  | blockRead
  /-- Bytes written to block devices a second. -/
  | blockWrite
deriving DecidableEq

namespace Metric

/-- Every metric, in display order. -/
def all : List Metric :=
  [cpu, memory, netRx, netTx, blockRead, blockWrite]

/-- Position in display order. -/
def index : Metric → Fin 6
  | cpu => 0
  | memory => 1
  | netRx => 2
  | netTx => 3
  | blockRead => 4
  | blockWrite => 5

/-- Short label for panel titles. -/
def label : Metric → String
  | cpu => "CPU"
  | memory => "MEM"
  | netRx => "RX"
  | netTx => "TX"
  | blockRead => "READ"
  | blockWrite => "WRITE"

/-- Name in texts exchanged with other programs. -/
def name : Metric → String
  | cpu => "cpu"
  | memory => "memory"
  | netRx => "net_rx"
  | netTx => "net_tx"
  | blockRead => "block_read"
  | blockWrite => "block_write"

/-- The metric of a name. -/
def ofName? (text : String) : Option Metric :=
  all.find? fun metric => metric.name == text

/-- The metric a JSON text names. -/
def ofJsonText? (text : String) : Option Metric := do
  ofName? (← (← Json.read? text).variant?)

theorem index_injective {a b : Metric} (h : a.index = b.index) : a = b := by
  cases a <;> cases b <;> first | rfl | exact absurd h (by decide)

end Metric

end Dashboard
