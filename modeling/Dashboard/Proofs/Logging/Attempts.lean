import Dashboard.Logging.Setup
import Mathlib.Data.List.InsertIdx
import Mathlib.Data.Nat.Notation
import Mathlib.Tactic.Common

/-! # Attempts at logging setup

A process may try several times to set up its logging. The flag that says it was done, the
choice of a filter and the receiver of log lines are looked at one after the other, and
each is changed at its own point of an attempt. However the attempts are mixed, one at most
succeeds, and a failed one leaves no trace. -/

namespace Dashboard.Logging

/-- What the environment sets during an attempt, and the configuration it is made with. -/
structure Attempt where
  environment : Option String
  config : LogConfig

/-- Whether an attempt succeeded. -/
def isSuccess : Except SetupError Unit → Bool
  | .ok () => true
  | .error _ => false

section

variable (isFilter : String → Bool)

/-- How several attempts in one process end. -/
def outcomes (receiver : Receiver) : List Attempt → List (Except SetupError Unit)
  | [] => []
  | attempt :: rest =>
    let (receiver, outcome) := setUp isFilter attempt.environment receiver attempt.config
    outcome :: outcomes receiver rest

/-! ## Single steps -/

/-- The parts of a process that an attempt looks at. -/
structure Process where
  /-- Whether logging was set up before. -/
  isDone : Bool
  /-- Whether log lines have a receiver, whoever installed it. -/
  hasReceiver : Bool

namespace Process

/-- Install a receiver, unless there is one. -/
def install : ExceptT SetupError (StateM Process) Unit := do
  if (← get).hasReceiver then throw .receiverTaken
  modify fun process => { process with hasReceiver := true }

/-- An attempt in single steps: the flag is read first and written last. -/
def setUp (attempt : Attempt) : ExceptT SetupError (StateM Process) Unit := do
  if (← get).isDone then throw .alreadyDone
  match chosenFilter isFilter attempt.environment attempt.config.level with
  | .error error => throw error
  | .ok _ =>
    install
    modify fun process => { process with isDone := true }

/-- How several attempts end, each made in single steps. -/
def outcomes (process : Process) : List Attempt → List (Except SetupError Unit)
  | [] => []
  | attempt :: rest =>
    let (outcome, process) := (setUp isFilter attempt).run.run process
    outcome :: outcomes process rest

end Process

/-- The parts of a process whose log lines go to a receiver. -/
def Receiver.process : Receiver → Process
  | none => ⟨false, false⟩
  | foreign => ⟨false, true⟩
  | own => ⟨true, true⟩

/-- Single steps do what an attempt does. -/
theorem run_setUp_process (receiver : Receiver) (attempt : Attempt) :
    (Process.setUp isFilter attempt).run.run receiver.process =
      let (receiver, outcome) := setUp isFilter attempt.environment receiver attempt.config
      (outcome, receiver.process) := by
  cases hfilter : chosenFilter isFilter attempt.environment attempt.config.level with
  | error error =>
      cases receiver <;> simp only [Process.setUp, setUp, hfilter] <;> rfl
  | ok filter =>
      cases receiver <;> simp only [Process.setUp, setUp, hfilter] <;> rfl

theorem outcomes_process (receiver : Receiver) (attempts : List Attempt) :
    receiver.process.outcomes isFilter attempts = outcomes isFilter receiver attempts := by
  induction attempts generalizing receiver with
  | nil => rfl
  | cons attempt attempts ih =>
      rw [Process.outcomes, run_setUp_process, outcomes]
      simp only [ih]

/-- Attempts of which all find the same environment. -/
theorem setUpAll_eq_outcomes (environment : Option String) (receiver : Receiver)
    (configs : List LogConfig) :
    setUpAll isFilter environment receiver configs =
      outcomes isFilter receiver (configs.map (Attempt.mk environment)) := by
  induction configs generalizing receiver with
  | nil => rfl
  | cons config configs ih =>
      rw [setUpAll, List.map_cons, outcomes]
      simp only [ih]

/-! ## One attempt -/

/-- Whether the environment or the configuration gives a filter. -/
def Attempt.hasFilter (attempt : Attempt) : Bool :=
  attempt.environment.any isFilter || isFilter attempt.config.level

/-- How an attempt ends if none before it succeeded. -/
def freshOutcome (preinstalled : Bool) (attempt : Attempt) : Except SetupError Unit :=
  if !attempt.hasFilter isFilter then .error (.badFilter attempt.config.level)
  else if preinstalled then .error .receiverTaken
  else .ok ()

theorem filter_eq_none_iff_any (environment : Option String) :
    environment.filter isFilter = none ↔ environment.any isFilter = false := by
  cases environment <;> simp

theorem chosenFilter_of_not_hasFilter {attempt : Attempt}
    (h : attempt.hasFilter isFilter = false) :
    chosenFilter isFilter attempt.environment attempt.config.level =
      .error (.badFilter attempt.config.level) := by
  obtain ⟨henvironment, hlevel⟩ := Bool.or_eq_false_iff.mp h
  rw [chosenFilter, (filter_eq_none_iff_any isFilter _).mpr henvironment]
  simp only [hlevel, Bool.false_eq_true, if_false]
  rfl

theorem exists_chosenFilter {attempt : Attempt} (h : attempt.hasFilter isFilter = true) :
    ∃ filter, chosenFilter isFilter attempt.environment attempt.config.level = .ok filter := by
  rw [chosenFilter]
  cases henvironment : attempt.environment.filter isFilter with
  | some filter => exact ⟨filter, rfl⟩
  | none =>
      have hlevel : isFilter attempt.config.level = true := by
        simpa [Attempt.hasFilter, (filter_eq_none_iff_any isFilter _).mp henvironment] using h
      simp only [hlevel, if_true]
      exact ⟨attempt.config.level, rfl⟩

theorem setUp_own (environment : Option String) (config : LogConfig) :
    setUp isFilter environment .own config = (.own, .error .alreadyDone) :=
  rfl

/-- Until one succeeds, only a successful attempt changes the receiver. -/
theorem setUp_eq (attempt : Attempt) {receiver : Receiver} (h : receiver ≠ .own) :
    let outcome := freshOutcome isFilter (receiver == .foreign) attempt
    setUp isFilter attempt.environment receiver attempt.config =
      (if isSuccess outcome then .own else receiver, outcome) := by
  rw [setUp, if_neg h, freshOutcome]
  cases hfilter : attempt.hasFilter isFilter with
  | false =>
      rw [chosenFilter_of_not_hasFilter isFilter hfilter]
      rfl
  | true =>
      obtain ⟨filter, hchosen⟩ := exists_chosenFilter isFilter hfilter
      rw [hchosen]
      cases receiver with
      | none | foreign => rfl
      | own => exact absurd rfl h

/-! ## Runs of attempts -/

theorem outcomes_cons (attempt : Attempt) (attempts : List Attempt) {receiver : Receiver}
    (h : receiver ≠ .own) :
    let outcome := freshOutcome isFilter (receiver == .foreign) attempt
    outcomes isFilter receiver (attempt :: attempts) =
      outcome :: outcomes isFilter (if isSuccess outcome then .own else receiver) attempts := by
  rw [outcomes, setUp_eq isFilter attempt h]

/-- After a success every attempt is refused. -/
theorem outcomes_own (attempts : List Attempt) :
    outcomes isFilter .own attempts = attempts.map fun _ => .error .alreadyDone := by
  induction attempts with
  | nil => rfl
  | cons attempt attempts ih =>
      rw [outcomes, setUp_own, List.map_cons]
      simp only [ih]

theorem countP_isSuccess_own (attempts : List Attempt) :
    (outcomes isFilter .own attempts).countP isSuccess = 0 := by
  rw [outcomes_own, List.countP_map, List.countP_eq_zero]
  intro attempt _
  exact Bool.false_ne_true

theorem countP_isSuccess_le_one (receiver : Receiver) (attempts : List Attempt) :
    (outcomes isFilter receiver attempts).countP isSuccess ≤ 1 := by
  induction attempts with
  | nil => exact Nat.zero_le _
  | cons attempt attempts ih =>
      by_cases hown : receiver = .own
      · rw [hown, countP_isSuccess_own]
        exact Nat.zero_le _
      · rw [outcomes_cons isFilter attempt attempts hown, List.countP_cons]
        cases hsuccess : isSuccess (freshOutcome isFilter (receiver == .foreign) attempt) with
        | false => simpa using ih
        | true => simp [countP_isSuccess_own]

theorem getElem?_outcomes {receiver : Receiver} (hreceiver : receiver ≠ .own)
    {attempts : List Attempt} {i : ℕ} {attempt : Attempt} (h : attempts[i]? = some attempt) :
    let results := outcomes isFilter receiver attempts
    results[i]? = some (if (results.take i).any isSuccess then .error .alreadyDone
      else freshOutcome isFilter (receiver == .foreign) attempt) := by
  induction attempts generalizing i with
  | nil => cases h
  | cons first attempts ih =>
      rw [outcomes_cons isFilter first attempts hreceiver]
      cases i with
      | zero =>
          obtain rfl : first = attempt := by simpa using h
          rfl
      | succ i =>
          have hnext : attempts[i]? = some attempt := by simpa using h
          cases hsuccess : isSuccess (freshOutcome isFilter (receiver == .foreign) first) with
          | false => simpa [hsuccess] using ih hnext
          | true =>
              have hrest : (outcomes isFilter .own attempts)[i]? = some (.error .alreadyDone) := by
                rw [outcomes_own, List.getElem?_map, hnext]
                rfl
              simp [hsuccess, hrest]

/-- Leaving out a failed attempt changes nothing for the others. -/
theorem outcomes_eraseIdx {receiver : Receiver} (hreceiver : receiver ≠ .own)
    {attempts : List Attempt} {i : ℕ} {error : SetupError}
    (h : (outcomes isFilter receiver attempts)[i]? = some (.error error)) :
    outcomes isFilter receiver (attempts.eraseIdx i) =
      (outcomes isFilter receiver attempts).eraseIdx i := by
  induction attempts generalizing i with
  | nil => cases h
  | cons first attempts ih =>
      rw [outcomes_cons isFilter first attempts hreceiver] at h ⊢
      cases i with
      | zero =>
          have hfailed : freshOutcome isFilter (receiver == .foreign) first = .error error := by
            simpa using h
          rw [hfailed]
          rfl
      | succ i =>
          rw [List.eraseIdx_cons_succ, List.eraseIdx_cons_succ,
            outcomes_cons isFilter first _ hreceiver]
          cases hsuccess : isSuccess (freshOutcome isFilter (receiver == .foreign) first) with
          | false =>
              simp only [hsuccess, Bool.false_eq_true, if_false, List.getElem?_cons_succ] at h ⊢
              rw [ih h]
          | true =>
              simp only [if_true]
              rw [outcomes_own, outcomes_own, List.eraseIdx_map]

/-- A process starts without a receiver of its own. -/
def Receiver.atStart (preinstalled : Bool) : Receiver :=
  if preinstalled then foreign else none

/-- Whatever the attempts in a process are, one at most succeeds, and all after it find logging
set up already. Before that an attempt fails exactly if neither the environment nor the
configuration gives a filter, for want of one, or else if someone else's receiver is installed.
Without a failed attempt the others end as with it. All this holds as well if the flag, the
filter and the receiver are dealt with one after the other. -/
theorem outcomes_oneShot (preinstalled : Bool) (attempts : List Attempt) :
    let start := Receiver.atStart preinstalled
    let results := outcomes isFilter start attempts
    results.countP isSuccess ≤ 1 ∧
    (∀ i attempt, attempts[i]? = some attempt →
      results[i]? = some (
        if (results.take i).any isSuccess then .error .alreadyDone
        else if attempt.environment.all (!isFilter ·) && !isFilter attempt.config.level then
          .error (.badFilter attempt.config.level)
        else if preinstalled then .error .receiverTaken
        else .ok ())) ∧
    (∀ (i : ℕ) error, results[i]? = some (.error error) →
      outcomes isFilter start (attempts.eraseIdx i) = results.eraseIdx i) ∧
    start.process.outcomes isFilter attempts = results ∧
    ∀ environment configs, attempts = configs.map (Attempt.mk environment) →
      setUpAll isFilter environment start configs = results := by
  intro start results
  have hstart : start ≠ .own := by cases preinstalled <;> decide
  have hforeign : (start == .foreign) = preinstalled := by cases preinstalled <;> rfl
  refine ⟨countP_isSuccess_le_one isFilter start attempts, ?_,
    fun i error h => outcomes_eraseIdx isFilter hstart h,
    outcomes_process isFilter start attempts, ?_⟩
  · intro i attempt h
    have hfilter : (attempt.environment.all (!isFilter ·) && !isFilter attempt.config.level) =
        !attempt.hasFilter isFilter := by
      rw [Attempt.hasFilter, Bool.not_or]
      cases attempt.environment <;> rfl
    rw [hfilter, ← hforeign]
    exact getElem?_outcomes isFilter hstart h
  · rintro environment configs rfl
    exact setUpAll_eq_outcomes isFilter environment start configs

end

end Dashboard.Logging
