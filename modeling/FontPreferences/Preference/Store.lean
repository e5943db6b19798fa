import FontPreferences.KeyTable
import FontPreferences.Preference.Value

/-
The preference store: three layers of values, and observers of the effective ones.

The effective value of a key is the managed value, else the user's, else the default.

* `set`, `setManaged` and `clear` change one layer at one key, or refuse and change nothing;
* each of them tells the observers when, and only when, the effective value of its key changes;
* `entries` lists every registered key with its effective value and the layer it comes from.

Design note: an observer is the queue of the changes it has not taken yet, so a store is a value
and its history needs no channel.
-/
namespace FontPreferences
namespace Preference

/-- The layer that an effective value comes from. -/
inductive Source where
  | default
  | user
  | policy
deriving DecidableEq, Repr

/-- The name of a layer in listings. -/
def Source.label : Source → String
  | .default => "default"
  | .user => "user"
  | .policy => "policy"

/-- Why the store refuses an operation. -/
inductive StoreError where
  | unknown (key : String)
  | managed (key : String)
  | kindMismatch (key : String) (expected : Kind)
deriving DecidableEq, Repr

/-- The message shown for a refused operation. -/
def StoreError.message : StoreError → String
  | .unknown key => "unknown preference '" ++ key ++ "'"
  | .managed key => "preference '" ++ key ++ "' is managed by policy"
  | .kindMismatch key expected =>
    "preference '" ++ key ++ "' expects " ++ expected.phrase ++ " value"

/-- A change of an effective value. -/
structure Change where
  key : String
  value : Value
  /-- The tag that the writer gave. -/
  origin : String
deriving DecidableEq, Repr

/-- One subscription to the changes of a store. -/
inductive Observer where
  /-- The changes not taken yet, oldest first. -/
  | listening (pending : List Change)
  /-- The receiver went away. -/
  | gone
deriving DecidableEq, Repr

/-- The observer after it has been told of a change. -/
def Observer.tell (c : Change) : Observer → Observer
  | .listening pending => .listening (pending ++ [c])
  | .gone => .gone

/-- One row of a listing. -/
structure Entry where
  key : String
  value : Value
  source : Source
deriving DecidableEq, Repr

/-- The layers of values, and the observers in the order they subscribed. -/
structure Store where
  defaults : KeyTable Value
  user : KeyTable Value
  managed : KeyTable Value
  observers : List Observer
deriving DecidableEq, Repr

namespace Store

/-- The store without any preference. -/
def empty : Store :=
  ⟨.empty, .empty, .empty, []⟩

instance : Inhabited Store := ⟨empty⟩

/-- Adds a preference with its default. -/
def register (s : Store) (key : String) (value : Value) : Store :=
  { s with defaults := s.defaults.insert key value }

/-- The store with the preferences of the page at their defaults. -/
def withFontDefaults : Store :=
  fontDefaults.foldl (fun s e => s.register e.1 e.2) empty

/-- Whether a key is registered. -/
def isRegistered (s : Store) (key : String) : Bool :=
  s.defaults.contains key

/-- Whether policy locks a key. -/
def isManaged (s : Store) (key : String) : Bool :=
  s.managed.contains key

/-- The default of a key. -/
def default? (s : Store) (key : String) : Option Value :=
  s.defaults.get? key

/-- The effective value of a key. -/
def get? (s : Store) (key : String) : Option Value :=
  (s.managed.get? key).or ((s.user.get? key).or (s.defaults.get? key))

/-- The effective value of a key, if it is an integer. -/
def getInteger? (s : Store) (key : String) : Option Int32 :=
  (s.get? key).bind Value.asInteger?

/-- The effective value of a key, if it is a text. -/
def getText? (s : Store) (key : String) : Option String :=
  (s.get? key).bind Value.asText?

/-- The layer that the effective value of a key comes from. -/
def source? (s : Store) (key : String) : Option Source :=
  if s.managed.contains key then some .policy
  else if s.user.contains key then some .user
  else if s.defaults.contains key then some .default
  else none

/-- Every registered preference with its effective value, in the order of the keys. -/
def entries (s : Store) : List Entry :=
  s.defaults.keys.filterMap fun key =>
    match s.get? key, s.source? key with
    | some value, some source => some ⟨key, value, source⟩
    | _, _ => none

/-- Why a value cannot stand at a key: the key is not registered, or its default is of another
kind. -/
def fault? (s : Store) (key : String) (value : Value) : Option StoreError :=
  match s.default? key with
  | none => some (.unknown key)
  | some d => if d.kind = value.kind then none else some (.kindMismatch key d.kind)

/-- Tells every observer of a change. -/
def notify (s : Store) (c : Change) : Store :=
  { s with observers := s.observers.map (·.tell c) }

/-- Tells every observer of the effective value of a key, if `before` was another one. -/
def notifyIfChanged (s : Store) (key : String) (before : Option Value) (origin : String) : Store :=
  match s.get? key with
  | none => s
  | some value => if before = some value then s else s.notify ⟨key, value, origin⟩

/-- Sets the user's value of a key. -/
def set (s : Store) (key : String) (value : Value) (origin : String) : Except StoreError Store :=
  match s.fault? key value with
  | some e => .error e
  | none =>
    if s.isManaged key then .error (.managed key)
    else
      .ok ({ s with user := s.user.insert key value }.notifyIfChanged key (s.get? key) origin)

/-- Forces a key to a value and locks it against the user. -/
def setManaged (s : Store) (key : String) (value : Value) : Except StoreError Store :=
  match s.fault? key value with
  | some e => .error e
  | none =>
    .ok ({ s with managed := s.managed.insert key value }.notifyIfChanged key (s.get? key) "policy")

/-- Drops the user's value of a key. -/
def clear (s : Store) (key : String) : Except StoreError Store :=
  if s.isRegistered key then
    .ok ({ s with user := s.user.erase key }.notifyIfChanged key (s.get? key) "")
  else .error (.unknown key)

/-- Subscribes a new observer, and answers with its index. -/
def observe (s : Store) : Store × Nat :=
  ({ s with observers := s.observers ++ [.listening []] }, s.observers.length)

/-- The changes that an observer has not taken yet; none for one that is gone. -/
def pending? (s : Store) (observer : Nat) : Option (List Change) :=
  match s.observers[observer]? with
  | some (.listening pending) => some pending
  | _ => none

/-- Takes the changes that wait for an observer. -/
def drain (s : Store) (observer : Nat) : Store × Option (List Change) :=
  match s.pending? observer with
  | none => (s, none)
  | some pending => ({ s with observers := s.observers.set observer (.listening []) }, some pending)

/-- Lets an observer go. -/
def drop (s : Store) (observer : Nat) : Store :=
  { s with observers := s.observers.set observer .gone }

end Store
end Preference
end FontPreferences
