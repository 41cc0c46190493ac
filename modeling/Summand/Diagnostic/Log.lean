import Summand.Diagnostic.Basic

/-!
# Collected diagnostics

`Log` collects remarks in the order in which they are made.  `Channel` is the way in which a stage
of the language passes its remarks on: a closed channel drops them, an open one adds them to a log.
What a stage computes never depends on its channel.
-/

namespace Summand

/-- Remarks in the order in which they were made. -/
structure Log where
  entries : Array Diagnostic := #[]
deriving DecidableEq, Inhabited

namespace Log

/-- The log without remarks. -/
def empty : Log := {}

/-- Adds a remark at the end. -/
def report (log : Log) (d : Diagnostic) : Log :=
  ⟨log.entries.push d⟩

/-- Adds remarks at the end, in their order. -/
def reportAll (log : Log) (ds : List Diagnostic) : Log :=
  ds.foldl report log

/-- The number of remarks. -/
def size (log : Log) : Nat :=
  log.entries.size

/-- No remark has been made, or all have been taken. -/
def isEmpty (log : Log) : Bool :=
  log.entries.isEmpty

/-- The remarks, oldest first. -/
def toList (log : Log) : List Diagnostic :=
  log.entries.toList

/-- The kinds of the remarks, oldest first. -/
def kinds (log : Log) : List Diagnostic.Kind :=
  log.toList.map (·.kind)

/-- Hands the remarks over and leaves the log empty. -/
def take (log : Log) : List Diagnostic × Log :=
  (log.toList, empty)

/-- The log as a list of warnings, one to a line. -/
def text (log : Log) : String :=
  String.join (log.toList.map fun d => "warning: " ++ d.text ++ "\n")

@[simp] theorem toList_empty : empty.toList = [] := rfl

@[simp] theorem toList_report (log : Log) (d : Diagnostic) :
    (log.report d).toList = log.toList ++ [d] := by
  simp [report, toList]

@[simp] theorem toList_reportAll (log : Log) (ds : List Diagnostic) :
    (log.reportAll ds).toList = log.toList ++ ds := by
  induction ds generalizing log with
  | nil => simp [reportAll]
  | cons d ds ih =>
    have := ih (log.report d)
    simp_all [reportAll]

end Log

/-- Where a stage sends its remarks. -/
inductive Channel where
  /-- Remarks are dropped. -/
  | closed
  /-- Remarks are added to a log. -/
  | open (log : Log)
deriving DecidableEq, Inhabited

namespace Channel

/-- A channel into an empty log. -/
def fresh : Channel := .open .empty

/-- Sends remarks, in their order. -/
def send : Channel → List Diagnostic → Channel
  | .closed, _ => .closed
  | .open log, ds => .open (log.reportAll ds)

/-- The remarks that wait in the channel. -/
def pending : Channel → List Diagnostic
  | .closed => []
  | .open log => log.toList

/-- Hands over the remarks that wait in the channel. -/
def take : Channel → List Diagnostic × Channel
  | .closed => ([], .closed)
  | .open log => (log.toList, .fresh)

@[simp] theorem pending_fresh : fresh.pending = [] := rfl

@[simp] theorem pending_send_closed (ds : List Diagnostic) : (closed.send ds).pending = [] := rfl

@[simp] theorem pending_send_open (log : Log) (ds : List Diagnostic) :
    ((Channel.open log).send ds).pending = (Channel.open log).pending ++ ds := by
  simp [send, pending]

@[simp] theorem pending_send_fresh (ds : List Diagnostic) : (fresh.send ds).pending = ds := by
  simp [fresh, send, pending]

@[simp] theorem send_nil (channel : Channel) : channel.send [] = channel := by
  cases channel <;> rfl

/-- Sending twice is sending the two lists one after the other. -/
theorem send_append (channel : Channel) (first second : List Diagnostic) :
    channel.send (first ++ second) = (channel.send first).send second := by
  cases channel <;> simp [send, Log.reportAll]

end Channel

end Summand
