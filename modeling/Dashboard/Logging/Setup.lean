import Dashboard.Config
import Dashboard.Logging.Directive
import Dashboard.Text.Quoted

/-! # Logging setup

Where the program's own log lines go is decided once for a process. A failed
attempt leaves everything as it was. -/

namespace Dashboard.Logging

/-- Receiver of the log lines of a process. -/
inductive Receiver where
  | none
  /-- Installed by someone else; cannot be replaced. -/
  | foreign
  /-- Installed here. -/
  | own
deriving DecidableEq

/-- Why logging was not set up. -/
inductive SetupError where
  | alreadyDone
  /-- The configured level is no filter. -/
  | badFilter (filter : String)
  /-- Another receiver is installed. -/
  | receiverTaken
deriving DecidableEq

/-- Text of an error. What is wrong with a filter, and why a receiver could not be
installed, is worded by those who found out: `cause` is what they report. -/
def SetupError.message (error : SetupError) (cause : String := "") : String :=
  match error with
  | alreadyDone => "logging already initialized"
  | badFilter filter => "invalid log filter " ++ Text.quoted filter ++ ": " ++ cause
  | receiverTaken => "failed to set global subscriber: " ++ cause

/-- The filter in force: the one the environment sets, if it is a filter,
otherwise the configured level. -/
def chosenFilter (isFilter : String → Bool) (environment : Option String) (level : String) :
    Except SetupError String :=
  match environment.filter isFilter with
  | some filter => pure filter
  | none => if isFilter level then pure level else throw (.badFilter level)

/-- Set up logging. Returns the receiver afterwards and how the attempt
ended. -/
def setUp (isFilter : String → Bool) (environment : Option String) (receiver : Receiver)
    (config : LogConfig) : Receiver × Except SetupError Unit :=
  if receiver = .own then (receiver, throw .alreadyDone)
  else
    match chosenFilter isFilter environment config.level with
    | .error error => (receiver, throw error)
    | .ok _ => if receiver = .foreign then (receiver, throw .receiverTaken) else (.own, pure ())

/-- Set up logging several times in one process, and list how each attempt
ended. -/
def setUpAll (isFilter : String → Bool) (environment : Option String) (receiver : Receiver) :
    List LogConfig → List (Except SetupError Unit)
  | [] => []
  | config :: rest =>
    let (receiver, outcome) := setUp isFilter environment receiver config
    outcome :: setUpAll isFilter environment receiver rest

end Dashboard.Logging
