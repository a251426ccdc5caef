import Dashboard.Json
import Dashboard.Scale

/-! # Recorded policies

A policy is recorded in JSON as an object with its mode and, for a limit, a
value. -/

namespace Dashboard.Scale.Policy

/-- Mode of a policy in a record. -/
def mode : Policy → String
  | auto => "auto"
  | limit _ => "limit"

/-- The policy of a mode and a value. An automatic scale has no value, or
null. -/
def ofParts? (mode : String) (value : Option Json) : Option Policy :=
  match mode, value with
  | "auto", none => some auto
  | "auto", some .null => some auto
  | "limit", some value => value.float?.map limit
  | _, _ => none

/-- The policy a JSON value records: an object with the mode once and the value
at most once, among other fields, or an array of the two. -/
def ofJson? : Json → Option Policy
  | .array [mode, value] => do
    ofParts? (← mode.variant?) (some value)
  | .object fields => do
    let fields ← Json.named? fields
    let mode ← (← Json.once? fields "mode").variant?
    match fields.filter fun field => field.1 == "value" with
    | [] => ofParts? mode none
    | [(_, value)] => ofParts? mode (some value)
    | _ => none
  | _ => none

/-- The policy a JSON text records. -/
def ofJsonText? (text : String) : Option Policy := do
  ofJson? (← Json.read? text)

end Dashboard.Scale.Policy
