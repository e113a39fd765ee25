import CommentBot.Forge.Codec
import CommentBot.Workflow.Report

/-!
# Commands and reports as JSON
-/

namespace CommentBot

open Json Forge

/-- A command as a record of its name and, if it is not recognised, its token. -/
def Command.encode : Command → Value
  | .createBranch => .object [("command", .string "create_branch")]
  | .createPr => .object [("command", .string "create_pr")]
  | .testPr => .object [("command", .string "test_pr")]
  | .unrecognized token => .object [("command", .string "unrecognized"), ("token", .string token)]
  | .absent => .object [("command", .string "none")]

/-- Reads a command. -/
def Command.decode : Decoder Command :=
  .tagged ⟨"adjacently tagged enum Command", "command", "token"⟩ [
    ("create_branch", .bare "unit variant Command::CreateBranch" .createBranch),
    ("create_pr", .bare "unit variant Command::CreatePr" .createPr),
    ("test_pr", .bare "unit variant Command::TestPr" .testPr),
    ("unrecognized", .carrying (.map .unrecognized .string)),
    ("none", .bare "unit variant Command::None" .absent)]

namespace Workflow

/-- A workflow as its name. -/
def encode (w : Workflow) : Value := .string w.name

/-- Reads a workflow. -/
def decode : Decoder Workflow := .name (all.map fun w => (w.name, w))

/-- A step as its name. -/
def Step.encode (s : Step) : Value := .string s.name

/-- Reads a step. -/
def Step.decode : Decoder Step := .name (Step.all.map fun s => (s.name, s))

/-- A completed step as a record. -/
def Completed.encode (c : Completed) : Value :=
  .object [("step", c.step.encode), ("output", c.output.encode)]

/-- Reads a completed step. -/
def Completed.decode : Decoder Completed :=
  Fields.record "struct CompletedStep" <|
    Completed.mk <$> .required "step" Step.decode <*> .required "output" Response.decode

/-- A failure as a record. -/
def Failure.encode (f : Failure) : Value :=
  .object [("step", f.step.encode), ("kind", f.kind.encode),
    ("status_code", .ofOption (fun code => .nat code.toNat) f.status), ("message", .string f.message)]

/-- Reads a failure. -/
def Failure.decode : Decoder Failure :=
  Fields.record "struct StepFailure" <|
    Failure.mk <$> .required "step" Step.decode <*> .required "kind" ErrorKind.decode
      <*> .optional "status_code" .uint16 <*> .required "message" .string

/-- A report as a record. -/
def Report.encode (r : Report) : Value :=
  .object [("workflow", r.workflow.encode), ("completed", .ofList Completed.encode r.completed),
    ("failure", .ofOption Failure.encode r.failure)]

/-- Reads a report. -/
def Report.decode : Decoder Report :=
  Fields.record "struct WorkflowReport" <|
    Report.mk <$> .required "workflow" Workflow.decode <*> .required "completed" (.list Completed.decode)
      <*> .optional "failure" Failure.decode

end Workflow

end CommentBot
