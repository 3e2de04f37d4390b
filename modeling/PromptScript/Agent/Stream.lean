import PromptScript.Agent

/-!
# Agent.Stream

How a response comes from an agent to the console. The agent and a reader run side by side with a
channel between them that has room for so many chunks: the agent sends into it, and the reader
prints what it takes out and puts the response together.
-/

namespace PromptScript

/-- How far a response has come. -/
structure Stream where
  /-- What the agent has yet to send. -/
  unsent : List String
  /-- How the agent ended; the end of the channel is dropped with it. -/
  ending? : Option (Except AgentError Unit) := none
  /-- The chunks in the channel, the next one to be taken out first. -/
  buffer : List String := []
  printed : List String := []
  response : String := ""
  /-- The reader has seen the end of the channel. -/
  drained : Bool := false

namespace Stream

/-- The agent sends a chunk or ends, or the reader takes out a chunk or sees that there will be no
more. The rest waits. -/
inductive Step (capacity : Nat) (ending : Except AgentError Unit) : Stream → Stream → Prop where
  /-- Sending waits until there is room. What is sent comes behind what is in the channel already,
  and none of that is lost. -/
  | send {s : Stream} {chunk : String} {unsent : List String} :
      s.unsent = chunk :: unsent → s.buffer.length < capacity →
        Step capacity ending s { s with unsent := unsent, buffer := s.buffer ++ [chunk] }
  /-- An agent that ends drops its side of the channel, which closes it. -/
  | finish {s : Stream} : s.unsent = [] → s.ending? = none →
      Step capacity ending s { s with ending? := some ending }
  /-- Chunks are taken out in the order in which they were sent, and also from a channel that is
  closed. Each is printed and put behind the response in one go. -/
  | receive {s : Stream} {chunk : String} {buffer : List String} : s.buffer = chunk :: buffer →
      Step capacity ending s { s with
        buffer := buffer, printed := s.printed ++ [chunk], response := s.response ++ chunk }
  /-- Taking out waits while the channel is empty and open. Only of one that is empty and closed
  does the reader see the end. -/
  | drain {s : Stream} : s.buffer = [] → s.ending?.isSome = true → s.drained = false →
      Step capacity ending s { s with drained := true }

/-- What the stream comes to, once both sides are done: the text that was put together, or the error
that the agent ended with. -/
def answer? (s : Stream) : Option (Except AgentError String) :=
  if s.drained then s.ending?.map fun ending => ending.map fun _ => s.response else none

end Stream

end PromptScript
