import TableIndex.Service.Basic

/-!
# Watched services

A watched connector counts the attempts to connect, and refuses them while it is told to. What is behind
it is reached as before. A watched service is one with such a connector.
-/

namespace TableIndex

/-- A state, the attempts made so far to connect to it, and why attempts are refused. -/
structure Watched (σ : Type) where
  remote : σ
  connects : Nat := 0
  refusal : Option ClientError := none

namespace Watched

variable {σ ε α : Type}

/-- Acts on the state that is watched. -/
def onRemote (act : EStateM ε σ α) : EStateM ε (Watched σ) α := fun w =>
  match act w.remote with
  | .ok a r => .ok a { w with remote := r }
  | .error e r => .error e { w with remote := r }

/-- Counts an attempt to connect, and refuses it if attempts are refused. -/
def attempt (connect : EStateM ClientError σ α) : EStateM ClientError (Watched σ) α := fun w =>
  let w := { w with connects := w.connects + 1 }
  match w.refusal with
  | some cause => .error cause w
  | none => onRemote connect w

end Watched

variable {σ η : Type}

/-- The gateway on a state that is watched. -/
def Gateway.watched (g : Gateway σ) : Gateway (Watched σ) where
  perform := fun call => Watched.onRemote (g.perform call)
  close := Watched.onRemote g.close

/-- The connector with its attempts watched. -/
def Connector.watched (c : Connector σ η) : Connector (Watched σ) η where
  connect := Watched.attempt c.connect
  gateway := fun h => (c.gateway h).watched

/-- The service with its attempts to connect watched. -/
def Service.watched (s : Service σ η) : Service (Watched σ) η where
  naming := s.naming
  baseConfigSet := s.baseConfigSet
  connector := s.connector.watched

end TableIndex
