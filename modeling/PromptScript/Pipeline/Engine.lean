import PromptScript.Cancellation
import PromptScript.Item.Facets
import PromptScript.Pattern.Search
import PromptScript.Pipeline.Basic
import PromptScript.Pipeline.Order

/-!
# Pipeline.Engine

Running pipelines. The verbs of an action are run in order over a list of candidates, and the text
after the last one is the result. What `xargs` does with one candidate is up to an `Invoker`; one
candidate that fails does not keep the others from being handled. Cancellation is looked for before
each verb and before each candidate of an `xargs`.
-/

namespace PromptScript

inductive PipelineError where
  | invalidPattern (pattern : String) (fault : PatternFault)
  | invalidArgument (argument : String)
  | cancelled
  deriving DecidableEq, Repr

def PipelineError.message : PipelineError → String
  | .invalidPattern pattern fault => "invalid pattern '" ++ pattern ++ "': " ++ fault.message
  | .invalidArgument argument =>
    "invalid argument '" ++ argument
      ++ "' for sort: expected name, path or extension, optionally prefixed with '-'"
  | .cancelled => "pipeline cancelled"

/-- Why one candidate could not be handled. -/
inductive InvokeError where
  | unresolved (item : String)
  | failed (message : String)
  deriving DecidableEq, Repr

def InvokeError.message : InvokeError → String
  | .unresolved item => "cannot resolve '" ++ item ++ "'"
  | .failed message => message

/-- One candidate that `xargs` hands over, with the facets bound to its variables. -/
structure Invocation where
  item : String
  bindings : NameMap String

/-- The invocation for an item: each variable is bound to the facet in its position. -/
def Invocation.ofItem (names : List String) (item : String) : Invocation :=
  ⟨item, .ofList (names.zip (Facets.ofItem item).toList)⟩

/-- What handles the candidates of `xargs`. -/
structure Invoker (ε : Type) where
  /-- What the log shows of an invocation that is started. -/
  event : Invocation → ε
  /-- Handles a candidate, after what the log shows. -/
  invoke : List ε → Invocation → Work (Except InvokeError String)

/-- A candidate that could not be handled. -/
structure ItemFailure where
  item : String
  message : String
  deriving DecidableEq, Repr

/-- Where a pipeline stands between two verbs, and at its end. -/
structure PipelineOutput where
  text : String := ""
  candidates : List String
  failures : List ItemFailure := []
  deriving DecidableEq, Repr

/-- What stands between two candidates in the text of `grep` and `sort`. -/
def candidateSeparator : String := ", "

/-- What stands between two results in the text of `xargs`. -/
def resultSeparator : String := "\n"

def readPattern (pattern : String) : Except PipelineError Pattern :=
  match Pattern.read pattern with
  | .ok p => .ok p
  | .error fault => .error (.invalidPattern pattern fault)

def selectCandidates (trigger : String) (items : List String) :
    Except PipelineError (List String) :=
  match readPattern trigger with
  | .error e => .error e
  | .ok p => .ok (items.filter p.found)

/-- Reads all patterns of a `grep`. -/
def readPatterns : List String → Except PipelineError (List Pattern)
  | [] => .ok []
  | pattern :: rest =>
    match readPattern pattern with
    | .error e => .error e
    | .ok p =>
      match readPatterns rest with
      | .error e => .error e
      | .ok ps => .ok (p :: ps)

/-- Reads all arguments of a `sort`. -/
def readOrders : List String → Except PipelineError (List SortOrder)
  | [] => .ok []
  | argument :: rest =>
    match SortOrder.ofArgument? argument with
    | none => .error (.invalidArgument argument)
    | some o =>
      match readOrders rest with
      | .error e => .error e
      | .ok os => .ok (o :: os)

def grepItems (patterns : List Pattern) (items : List String) : List String :=
  items.filter fun item => patterns.any fun p => p.found item

/-- What `xargs` has gathered. -/
structure Gathered where
  results : List String := []
  failures : List ItemFailure := []
  deriving DecidableEq, Repr

/-- What is gathered with the outcome of one more candidate, which comes first. -/
def Gathered.add (g : Gathered) (item : String) : Except InvokeError String → Gathered
  | .ok result => { g with results := result :: g.results }
  | .error e => { g with failures := ⟨item, e.message⟩ :: g.failures }

/-- Hands each candidate to the invoker; `none` if that was cancelled. -/
def gather {ε : Type} (invoker : Invoker ε) (names : List String) (p : Progress ε) :
    List String → Option Gathered × Progress ε
  | [] => (some {}, p)
  | item :: rest =>
    let i := Invocation.ofItem names item
    match p.attempt [invoker.event i] (invoker.invoke · i) with
    | (none, p) => (none, p)
    | (some outcome, p) =>
      match gather invoker names p rest with
      | (none, p) => (none, p)
      | (some g, p) => (some (g.add item outcome), p)

namespace PipelineOutput

/-- Whether some candidate could not be handled. -/
def hasFailures (o : PipelineOutput) : Bool := !o.failures.isEmpty

def listing (o : PipelineOutput) (candidates : List String) : PipelineOutput :=
  { o with text := joinTexts candidateSeparator candidates, candidates := candidates }

end PipelineOutput

def runVerb {ε : Type} (invoker : Invoker ε) (o : PipelineOutput) (p : Progress ε) :
    Verb → Except PipelineError PipelineOutput × Progress ε
  | .prompt message => (.ok { o with text := message }, p)
  | .grep patterns =>
    match readPatterns patterns with
    | .error e => (.error e, p)
    | .ok ps => (.ok (o.listing (grepItems ps o.candidates)), p)
  | .sort arguments =>
    match readOrders arguments with
    | .error e => (.error e, p)
    | .ok os => (.ok (o.listing (sortItems os o.candidates)), p)
  | .xargs names =>
    match gather invoker names p o.candidates with
    | (none, p) => (.error .cancelled, p)
    | (some g, p) =>
      (.ok { o with text := joinTexts resultSeparator g.results,
                    failures := o.failures ++ g.failures }, p)

/-- Runs verbs in order. -/
def runVerbs {ε : Type} (invoker : Invoker ε) (o : PipelineOutput) (p : Progress ε) :
    List Verb → Except PipelineError PipelineOutput × Progress ε
  | [] => (.ok o, p)
  | v :: rest =>
    if p.cancelled then (.error .cancelled, p)
    else
      match runVerb invoker o p v with
      | (.error e, p) => (.error e, p)
      | (.ok o, p) => runVerbs invoker o p rest

def runPipeline {ε : Type} (invoker : Invoker ε) (action : Action) (candidates : List String)
    (p : Progress ε) : Except PipelineError PipelineOutput × Progress ε :=
  runVerbs invoker { candidates := candidates } p action.verbs

end PromptScript
