/-!
# Target languages

A client is generated for Elixir or for Erlang. Compiling a spec accepts any other name as well:
each decision that depends on the language asks whether it is one of the two, and gives every other
language the treatment of the opposite side. Names are made in the Erlang way for Erlang alone;
documentation, method atoms and paths are written in the Elixir way for Elixir alone.
-/

namespace ServiceClient

/-- A target language, by name. -/
inductive Language
  /-- Elixir. -/
  | elixir
  /-- Erlang. -/
  | erlang
  /-- A language for which there is no client module. -/
  | other (name : String)
  deriving DecidableEq

namespace Language

/-- The language that a name stands for. -/
def ofName (name : String) : Language :=
  if name = "elixir" then .elixir else if name = "erlang" then .erlang else .other name

/-- The name of a language. -/
def name : Language → String
  | .elixir => "elixir"
  | .erlang => "erlang"
  | .other name => name

/-- The languages for which there are client modules. -/
def supported : List Language := [.elixir, .erlang]

/-- A language keeps the name it was given. -/
@[simp] theorem name_ofName (s : String) : (ofName s).name = s := by
  unfold ofName
  split
  · simp [name, *]
  · split <;> simp [name, *]

end Language

end ServiceClient
