import ServiceClient.Service.Memory

/-!
# A service beside the table of its options

A service takes its options from a table that goes on to exist beside it. A session is a memory with
both, and its steps are what can be tried afterwards: changing the table, writing into the options
of the service, assigning a field of the service, and reading. Each step gives an answer: the
options that the service then has, or the fault with which the step is rejected.
-/

namespace ServiceClient.Service

/-- A service and the table that its options were taken from, in one memory. -/
structure Session where
  /-- The memory. -/
  memory : Memory
  /-- Where the table is. -/
  source : Address
  /-- Where the service is. -/
  service : Address

/-- Something that can be tried on a session. -/
inductive Step
  /-- Puts a value into the table. -/
  | setSource (key : Json) (value : Json)
  /-- Deletes a key from the table. -/
  | deleteSource (key : Json)
  /-- Writes a value into the options of the service. -/
  | setService (key : Json) (value : Json)
  /-- Assigns a field of the service. -/
  | assignField (name : String) (value : Json)
  /-- Reads. -/
  | read

namespace Session

/-- The session that begins when a service is made from a table of options. -/
def start (made : Service) (options : Options) : Outcome Session := do
  let (m, source) := Memory.add [] (.table options)
  let (m, service) ← m.construct made source
  return { memory := m, source, service }

/-- What a step does to the memory, and whether it is rejected. -/
def perform (s : Session) : Step → Memory × Outcome Unit
  | .setSource key value => s.memory.setItem s.source key value
  | .deleteSource key => s.memory.deleteItem s.source key
  | .setService key value =>
    match s.memory.optionsOf s.service with
    | .ok options => s.memory.setItem options key value
    | .error fault => (s.memory, .error fault)
  | .assignField name value => s.memory.setField s.service name value
  | .read => (s.memory, .ok ())

/-- The options of the service as they are read. -/
def options (s : Session) : Outcome Options := do
  s.memory.entries (← s.memory.optionsOf s.service)

/-- The session after a step, and the answer to the step. -/
def step (s : Session) (step : Step) : Session × Outcome Options :=
  let (memory, done) := s.perform step
  let next := { s with memory }
  (next, done >>= fun _ ↦ next.options)

/-- The answers to some steps, one after another. -/
def run (s : Session) : List Step → List (Outcome Options)
  | [] => []
  | step :: rest => (s.step step).2 :: (s.step step).1.run rest

end Session

end ServiceClient.Service
