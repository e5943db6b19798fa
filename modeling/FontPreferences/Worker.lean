import FontPreferences.Catalog

/-
The worker that reads the font catalog.

It takes commands in order and answers each request once, until it is told to stop or its commands
end.
-/
namespace FontPreferences

/-- A request for the font and encoding lists.  The values to select go along, so that the answer
says all there is to show. -/
structure FetchRequest where
  selected : List String
deriving DecidableEq, Repr

/-- A command to the worker. -/
inductive WorkerCommand where
  | fetch (request : FetchRequest)
  | shutdown
deriving DecidableEq, Repr

/-- An answer of the worker. -/
inductive WorkerResponse where
  | fonts (families encodings : List Choice) (selected : List String)
  | failure (message context : String)
deriving DecidableEq, Repr

namespace Worker

/-- The answer to a request. -/
def answer (catalog : Catalog) (request : FetchRequest) : WorkerResponse :=
  match catalog.families with
  | .ok families => .fonts families catalog.encodings request.selected
  | .error e => .failure e.message "font catalog"

/-- The answers to a run of commands. -/
def serve (catalog : Catalog) : List WorkerCommand → List WorkerResponse
  | [] => []
  | .shutdown :: _ => []
  | .fetch request :: rest => answer catalog request :: serve catalog rest

end Worker
end FontPreferences
