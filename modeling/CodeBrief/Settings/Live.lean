import CodeBrief.Settings.Keys

/-!
# Live settings

The context settings of a session can be changed while it runs, and listeners
are told of every change. The registrations are a list: a listener may stand in
it several times and is told once for each, and ending a registration takes away
the first one of an equal listener.
-/

namespace CodeBrief.Settings

open Json (Value)
open Text (Wide)

/-- Context settings in use, and the listeners to their changes in the order of registration. -/
structure Live (α : Type) where
  context : Context
  listeners : List α

namespace Live

variable {α : Type}

/-- The settings with one more registration. -/
def subscribe (l : Live α) (listener : α) : Live α :=
  { l with listeners := l.listeners ++ [listener] }

/-- The settings without the first registration of a listener. -/
def unsubscribe [DecidableEq α] (l : Live α) (listener : α) : Live α :=
  { l with listeners := l.listeners.erase listener }

/-- The first changed name that is no setting. -/
def unknownName? (c : Context) (changes : List (String × Value)) : Option String :=
  (changes.map (·.1)).find? fun name => (Json.get? (name : Wide) c.members).isNone

/-- The settings after changes by name. -/
def changed (c : Context) (changes : List (String × Value)) : Except Refusal Context :=
  match unknownName? c changes with
  | some name => .error (.unknownKey name)
  | none =>
      match Context.check (changes.foldl (fun ms m => Json.put (m.1 : Wide) m.2 ms) c.members) with
      | .ok c => .ok c
      | .error issues => .error (.invalidContext issues)

/-- The settings after changes by name, with what each listener is told in order. -/
def update (l : Live α) (changes : List (String × Value)) :
    Except Refusal (Live α × List (α × Context)) :=
  match changed l.context changes with
  | .ok c => .ok ({ l with context := c }, l.listeners.map fun x => (x, c))
  | .error r => .error r

end Live
end CodeBrief.Settings
