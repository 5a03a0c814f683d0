import TableBrowser.Workspace.Basic
/-!
# Delivery of messages

A message changes only the tab that it names, and none when that tab has been
closed. A load that failed takes its tab away. An evaluation counts only while
its generation is the latest of its pipeline; when it failed, the steps before
the failing one are evaluated again unless their result is shown.
-/

namespace TableBrowser.Act

/-- A tab whose source could not be loaded is taken away. -/
def loadFailed (id : Nat) (failure : Failure) : Act Unit := do
  setStatus failure.statusText
  modify fun workspace =>
    match workspace.tabs.findIdx? (·.id = id) with
    | some index => workspace.removeTab index
    | none => workspace
  activated

/-- Applies steps to a pipeline whose table has just been loaded; a failure is only shown. -/
def applyQueued (id : Nat) (steps : List Step) : Act Unit := do
  let some tab := (← get).tabOf? id | return
  tryCatch (edited id (tab.pipeline.replace steps)) fun
    | .failure cause _ => setStatus cause.statusText
    | .fault fault => throw (.fault fault)

def loaded (id : Nat) (result : JobResult) : Act Bool := do
  let some tab := (← get).tabOf? id | return false
  modify (·.updateTab id fun tab => { tab with isLoading := false })
  match result with
  | .table table =>
      modify fun workspace => workspace.updateTab id fun tab =>
        { tab with pipeline := workspace.newPipeline table [], queuedSteps := [] }
      viewChanged id
      if !tab.queuedSteps.isEmpty then applyQueued id tab.queuedSteps
  | result => loadFailed id (result.failure .loading).1
  return true

/-- The steps from the failing one on are dropped; the others may have to be evaluated again. -/
def evaluationFailed (id : Nat) (rejected : Pipeline) (failure : Failure) : Act Unit := do
  modify (·.updateTab id fun tab => { tab with pipeline := rejected })
  setStatus failure.statusText
  if ← ofFaulty rejected.isDirty then edited id rejected.request

def evaluated (id generation : Nat) (steps : List Step) (result : JobResult) : Act Bool := do
  let some tab := (← get).tabOf? id | return false
  match result with
  | .table table =>
      match tab.pipeline.install? generation steps table with
      | some pipeline =>
          modify (·.updateTab id fun tab => { tab with pipeline })
          viewChanged id
          return true
      | none => return false
  | result =>
      let (failure, stepIndex) := result.failure .evaluation
      match tab.pipeline.reject? generation stepIndex with
      | some pipeline =>
          evaluationFailed id pipeline failure
          return true
      | none => return false

/-- Handles a message, and tells whether anything changed. -/
def receive : Message → Act Bool
  | .loaded tab result => loaded tab result
  | .evaluated tab generation steps result => evaluated tab generation steps result

def receiveAll : List Message → Act Bool
  | [] => return false
  | message :: messages => do
      let first ← receive message
      let others ← receiveAll messages
      return first || others

/-- Handles the messages that have come; a problem with one of them drops those after it. -/
def receiveBatch : Act Bool := do
  let messages := (← get).messages
  modify fun workspace => { workspace with messages := [] }
  receiveAll messages

/-- Handles batches of messages until none has come in the meantime. -/
def receiveBatches : (batches : Nat) → Act Bool
  | 0 => return false
  | batches + 1 => do
      if (← get).messages.isEmpty then return false
      let first ← receiveBatch
      let others ← receiveBatches batches
      return first || others

end TableBrowser.Act

namespace TableBrowser

/-- A bound on the messages that can still come without another command. -/
def Workspace.workLeft (workspace : Workspace) : Nat :=
  workspace.messages.length + workspace.jobs.length +
    workspace.tabs.foldr (fun tab left =>
      tab.pipeline.steps.length + 2 * tab.queuedSteps.length + left) 0

/-- Handles all messages, also those that come in the meantime. -/
def Act.drain : Act Bool := do
  Act.receiveBatches ((← get).workLeft + 1)

end TableBrowser
