import Clinker.Compile
import Clinker.Link

/-!
# Building one artifact from many sources

A plan lists sources and settings for one artifact. Every source becomes a compile job whose
outputs are named after it; two sources whose objects would be the same file make the plan
unusable. The jobs are compiled in batches, as many at a time as there are workers, and the
artifact is linked once all of them have succeeded. What is out of date is for the caller to
decide: every source is compiled.
-/

namespace Clinker.Build

open Dependency (Record)

variable {σ : Type}

/-- Sources and settings for one artifact. -/
structure Plan where
  sources : List Path
  /-- Where objects and dependency files go. -/
  outDir : Path
  macros : List String
  includeDirs : List Path
  runtime : Runtime
  target : Path
  options : LinkOptions
  libDirs : List Path
  libs : List String
  extraLinkArgs : List String
deriving DecidableEq, Repr

/-- What a build leaves. -/
structure Outcome where
  /-- One record per source, in order. -/
  records : List Record
  artifact : Path
deriving DecidableEq, Repr

/-! ## Names of outputs -/

/-- The object of a source in some directory. -/
def objectPath (outDir source : Path) (ext : String) : Path :=
  outDir.join ⟨source.stem?.getD "" ++ "." ++ ext⟩

/-- The dependency file of an object. -/
def depFile (object : Path) : Path := object.suffixed ".d"

namespace Plan

/-- The object of one of the sources. -/
def objectOf (plan : Plan) (source : Path) : Path :=
  objectPath plan.outDir source (SourceKind.ofPath source).objectExtension

/-- The compile job of one of the sources. -/
def jobFor (plan : Plan) (source : Path) : CompileJob :=
  { source := source
    object := plan.objectOf source
    depFile := depFile (plan.objectOf source)
    macros := plan.macros
    includeDirs := plan.includeDirs
    frameworkPaths := []
    runtime := plan.runtime }

/-- Two sources that would be compiled to one object. -/
def collision (previous source object : Path) : BuildError :=
  .badConfiguration
    s!"{previous.text} and {source.text} would both compile to {object.text}"

/-- The compile jobs of some sources, when `earlier` are the sources before them. -/
def jobsAfter (plan : Plan) (earlier : List Path) : List Path → Except BuildError (List CompileJob)
  | [] => .ok []
  | source :: rest =>
    match earlier.find? fun e => (plan.objectOf e).same (plan.objectOf source) with
    | some previous => .error (collision previous source (plan.objectOf source))
    | none => do return plan.jobFor source :: (← plan.jobsAfter (earlier ++ [source]) rest)

/-- One compile job per source, in order. -/
def compileJobs (plan : Plan) : Except BuildError (List CompileJob) :=
  plan.jobsAfter [] plan.sources

/-- The link job for some compiled sources. A type library is an output and no input of the
linker. -/
def linkJob (plan : Plan) (jobs : List CompileJob) : LinkJob :=
  { target := plan.target
    objects := (jobs.filter fun job => job.kind != .interfaceDefinition).map (·.object)
    libDirs := plan.libDirs
    libs := plan.libs
    frameworks := []
    frameworkPaths := []
    extraArgs := plan.extraLinkArgs
    options := plan.options }

end Plan

/-! ## Batches of compiles -/

/-- A list in pieces of `n + 1` items, the last of which may be shorter. -/
def chunks {α : Type} (n : Nat) (xs : List α) : List (List α) :=
  match xs with
  | [] => []
  | x :: rest => (x :: rest.take n) :: chunks n (rest.drop n)
termination_by xs.length
decreasing_by simp only [List.length_cons, List.length_drop]; omega

/-- The jobs that are compiled at the same time. Without a limit on the workers all are. -/
def batches (workers : Option Nat) (jobs : List CompileJob) : List (List CompileJob) :=
  match workers with
  | none | some 0 => [jobs]
  | some (n + 1) => chunks n jobs

/-- Compile the jobs of a batch, each to its end. -/
def compileBatch (s : Session) (runner : ToolRunner σ) :
    List CompileJob → Workshop σ → List (Except BuildError Record) × Workshop σ
  | [], w => ([], w)
  | job :: jobs, w =>
    let (result, w) := Compile.compile s runner s.arch job w
    let (results, w) := compileBatch s runner jobs w
    (result :: results, w)

/-- The values of some results, or the first error among them. -/
def collect {α : Type} : List (Except BuildError α) → Except BuildError (List α)
  | [] => .ok []
  | .error e :: _ => .error e
  | .ok a :: rest => (collect rest).map (a :: ·)

/-- Compile batch after batch, stopping after one with an error. -/
def compileBatches (s : Session) (runner : ToolRunner σ) :
    List (List CompileJob) → Workshop σ → Except BuildError (List Record) × Workshop σ
  | [], w => (.ok [], w)
  | batch :: rest, w =>
    let (results, w) := compileBatch s runner batch w
    match collect results with
    | .error e => (.error e, w)
    | .ok records =>
      let (more, w) := compileBatches s runner rest w
      (more.map (records ++ ·), w)

/-! ## The build -/

/-- Compile every source of a plan, then link once. -/
def build (s : Session) (runner : ToolRunner σ) (workers : Option Nat) (plan : Plan)
    (w : Workshop σ) : Except BuildError Outcome × Workshop σ :=
  match plan.compileJobs with
  | .error e => (.error e, w)
  | .ok jobs =>
    match compileBatches s runner (batches workers jobs) w with
    | (.error e, w) => (.error e, w)
    | (.ok records, w) =>
      let (artifact, w) := Link.link s runner s.arch (plan.linkJob jobs) w
      (artifact.map fun target => ⟨records, target⟩, w)

end Clinker.Build
