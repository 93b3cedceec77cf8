import SocketLoop.Run.Finish

/-!
# Transcripts

The history of a run is flat: steps and calls of handlers are brackets in it. A transcript folds the
brackets up: a step becomes a report with its reply and with what happened during it, and a call of
a handler during a step becomes one entry that holds the reports of the handler's own steps.
-/

namespace SocketLoop

mutual

/-- Something that happened during a step. -/
inductive Entry
  /-- A call, or a change of a registration. -/
  | event (event : Event)
  /-- A handler was called, and took steps of its own. -/
  | handled (label : String) (notice : Notice) (reports : List Report)

/-- A step that has ended. -/
inductive Report
  | step (reply : Reply) (status : Option Status) (entries : List Entry)

end

/-- A bracket that is still open. -/
inductive OpenBracket
  | step (entries : List Entry)
  | handler (label : String) (notice : Notice) (reports : List Report)

/-- A transcript that is being made: the reports of the program itself, and the open brackets, the
innermost first. -/
structure Transcript where
  reports : List Report
  opened : List OpenBracket

namespace Transcript

/-- The transcript of nothing. -/
def empty : Transcript :=
  ⟨[], []⟩

/-- Puts an entry into the innermost open step. -/
def addEntry (t : Transcript) (entry : Entry) : Transcript :=
  match t.opened with
  | .step entries :: outer => { t with opened := .step (entries ++ [entry]) :: outer }
  | _ => t

/-- Puts a report into the innermost open handler, or into the program. -/
def addReport (t : Transcript) (report : Report) : Transcript :=
  match t.opened with
  | .handler label notice reports :: outer =>
    { t with opened := .handler label notice (reports ++ [report]) :: outer }
  | _ => { t with reports := t.reports ++ [report] }

/-- Takes one more event in. A closing event without its bracket is left out. -/
def add (t : Transcript) (event : Event) : Transcript :=
  match event with
  | .began => { t with opened := .step [] :: t.opened }
  | .entered _ label notice => { t with opened := .handler label notice [] :: t.opened }
  | .ended reply status =>
    match t.opened with
    | .step entries :: outer => { t with opened := outer }.addReport (.step reply status entries)
    | _ => t
  | .left =>
    match t.opened with
    | .handler label notice reports :: outer =>
      { t with opened := outer }.addEntry (.handled label notice reports)
    | _ => t
  | event => t.addEntry (.event event)

end Transcript

/-- The reports of the steps that a program took by itself. -/
def reportsOf (history : History) : List Report :=
  (history.foldl Transcript.add .empty).reports

/-- Runs a program and reports on its steps. -/
def runProgram (kind : ReactorKind) (program : List Step) : List Report :=
  reportsOf (historyOf kind program)

end SocketLoop
