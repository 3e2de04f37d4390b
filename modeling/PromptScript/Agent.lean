import PromptScript.Item.Source
import PromptScript.NameMap
import PromptScript.Text.Lines

/-!
# Agent

Agents answer prompts. The response comes in chunks, which are printed as they come; all chunks that
were sent are printed, also when the agent fails or hangs after them.
-/

namespace PromptScript

inductive AgentError where
  | unknown (name : String)
  | failed (agent message : String)
  | disconnected (name : String)
  deriving DecidableEq, Repr

def AgentError.message : AgentError → String
  | .unknown name => "unknown agent '" ++ name ++ "'"
  | .failed agent message => "agent '" ++ agent ++ "' failed: " ++ message
  | .disconnected name => "agent '" ++ name ++ "' stopped reading chunks"

structure Reply where
  chunks : List String
  ending : Work (Except AgentError Unit)
  deriving Repr

/-- An agent, by its reply to each prompt. -/
abbrev Agent := String → Reply

namespace Agent

def echoName : String := "echo"

/-- The agent that sends the prompt back line by line. -/
def echo : Agent := fun prompt =>
  ⟨(linesWithEnds prompt.toList).map String.ofList, .finishes (.ok ())⟩

/-- What a reply comes to: its chunks in one text, or the error at its end. -/
def response (r : Reply) : Work (Except AgentError String) :=
  r.ending.map fun ending => ending.map fun _ => String.join r.chunks

/-- Runs an agent on a prompt; `none` if that was cancelled. -/
def run (p : Progress Event) (name : String) (agent : Agent) (prompt : String) :
    Option (Except AgentError String) × Progress Event :=
  let reply := agent prompt
  p.attempt (.started name prompt :: reply.chunks.map .printed) fun _ => response reply

end Agent

abbrev AgentRegistry := NameMap Agent

/-- The registry with the built-in agent alone. -/
def AgentRegistry.withEcho : AgentRegistry := NameMap.empty.insert Agent.echoName Agent.echo

/-- The last response for each script. -/
abbrev ResponseCache := NameMap String

end PromptScript
