import TableBrowser.Failure.Fault
import TableBrowser.Failure.Files
import TableBrowser.Failure.Session
/-!
# Failures

A `Failure` is a mistake of a command, an expression, a query or a file that is
reported to the user. `Problem` is whatever can stop work: a failure, with the
position of the pipeline step at fault when it is known, or a fault.
-/

namespace TableBrowser

inductive Failure where
  | table (problem : TableProblem)
  | expression (error : ExpressionError)
  | step (problem : StepProblem)
  | load (problem : LoadProblem)
  | export (problem : ExportProblem)
  | document (problem : DocumentProblem)
  | settings (problem : SettingsProblem)
  | search (problem : SearchProblem)
  | command (problem : CommandProblem)
  | tab (problem : TabProblem)
  /-- A fault of background work. -/
  | unexpected (fault : Fault)
deriving DecidableEq

namespace Failure

def report : Failure → Report
  | .table problem => problem.report
  | .expression error => error.report
  | .step problem => problem.report
  | .load problem => problem.report
  | .export problem => problem.report
  | .document problem => problem.report
  | .settings problem => problem.report
  | .search problem => problem.report
  | .command problem => problem.report
  | .tab problem => problem.report
  | .unexpected fault => {
      category := .general
      code := "E_INTERNAL"
      message := "Unexpected " ++ fault.className ++ ": " ++ fault.message
      hint := some "See the log file for the traceback." }

def statusText (failure : Failure) : String := failure.report.statusText

end Failure

/-- What stops work. -/
inductive Problem where
  | failure (cause : Failure) (stepIndex : Option Nat)
  | fault (cause : Fault)
deriving DecidableEq

namespace Problem

instance : Coe Failure Problem := ⟨fun failure => .failure failure none⟩

def atStep (index : Nat) : Problem → Problem
  | .failure cause _ => .failure cause (some index)
  | .fault cause => .fault cause

/-- What background work tells of a problem: a failure, and the step at fault. -/
def reported : Problem → Failure × Option Nat
  | .failure cause stepIndex => (cause, stepIndex)
  | .fault cause => (.unexpected cause, none)

end Problem

abbrev Outcome := Except Problem

namespace Outcome

def fail {α : Type} (failure : Failure) : Outcome α := .error (.failure failure none)

def fault {α : Type} (fault : Fault) : Outcome α := .error (.fault fault)

end Outcome

end TableBrowser
