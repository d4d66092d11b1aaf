import ThreatModel.Command.Files

/-!
The two jobs of the command line: mapping content, and verifying a model against a template. A
verification maps both documents by one scheme or takes them as they were mapped before.
-/

namespace ThreatModel.Command

structure MapJob where
  scheme : String
  input : String
  pretty : Bool
deriving DecidableEq, Repr

structure VerifyJob where
  config : String
  scheme : Option String
  input : Option String
  templateInput : Option String
  model : Option String
  template : Option String
  pretty : Bool
deriving DecidableEq, Repr

inductive Job
  | map (job : MapJob)
  | verify (job : VerifyJob)
deriving DecidableEq, Repr

/-- What a run of the program shows: the exit code and the standard output. -/
structure Shown where
  exitCode : Nat
  output : String
deriving DecidableEq, Repr

def MapJob.run (job : MapJob) (files : Files) : Except Failure Json :=
  (files.mapContent job.scheme job.input).map Node.toJson

namespace VerifyJob

/-- The model and the template. -/
def documents (job : VerifyJob) (files : Files) : Except Failure (Node × Node) :=
  match job.scheme, job.input, job.templateInput with
  | some scheme, some input, some templateInput => do
      let model ← files.mapContent scheme input
      let template ← files.mapContent scheme templateInput
      .ok (model, template)
  | _, _, _ =>
      match job.model, job.template with
      | none, _ => .error ⟨"either --scheme with inputs or --model is required", none⟩
      | some _, none => .error ⟨"--template is required with --model", none⟩
      | some model, some template => do
          let modelNode ← atPlace ("failed to load model " ++ model) (files.loadContent model)
          let templateNode ←
            atPlace ("failed to load template " ++ template) (files.loadContent template)
          .ok (modelNode, templateNode)

def run (job : VerifyJob) (files : Files) : Except Failure Verified := do
  let setup ← atPlace ("invalid config " ++ job.config) (files.loadSetup job.config)
  let (model, template) ← job.documents files
  .ok (setup.verify (.ofNode model) (.ofNode template))

end VerifyJob

/-- Everything went well. -/
def succeeded : Nat := 0

/-- The verification found errors. -/
def foundErrors : Nat := 1

/-- The job could not be done, or the arguments make no job. -/
def failed : Nat := 2

namespace Job

/-- The paths that a job may read. -/
def paths : Job → List String
  | .map job => [job.scheme, job.input]
  | .verify job =>
      job.config :: [job.scheme, job.input, job.templateInput, job.model, job.template].filterMap id

/-- Do a job and show its result on one line or indented. -/
def run (job : Job) (files : Files) : Shown :=
  match job with
  | .map job =>
      match job.run files with
      | .ok value => ⟨succeeded, value.render job.pretty ++ "\n"⟩
      | .error _ => ⟨failed, ""⟩
  | .verify job =>
      match job.run files with
      | .ok verified =>
          ⟨if (Summary.ofIssues verified.issues).hasErrors then foundErrors else succeeded,
            verified.report.render job.pretty ++ "\n"⟩
      | .error _ => ⟨failed, ""⟩

end Job

end ThreatModel.Command
