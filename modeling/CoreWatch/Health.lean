set_option autoImplicit false

namespace CoreWatch

inductive Health
  | healthy
  | degraded
  | unhealthy
deriving DecidableEq, Repr

namespace Health

def name : Health → String
  | healthy => "healthy"
  | degraded => "degraded"
  | unhealthy => "unhealthy"

def ofName? (name : String) : Option Health :=
  [healthy, degraded, unhealthy].find? (·.name == name)

def isOperational : Health → Bool
  | unhealthy => false
  | _ => true

def severity : Health → Nat
  | healthy => 0
  | degraded => 1
  | unhealthy => 2

/-- The worst of those still to come and of those before them, none of which was unhealthy. -/
def worstFrom (seenDegraded : Bool) : List Health → Health
  | [] => if seenDegraded then degraded else healthy
  | unhealthy :: _ => unhealthy
  | degraded :: rest => worstFrom true rest
  | healthy :: rest => worstFrom seenDegraded rest

/--
The worst of all; healthy when there are none. They are gone through in the order in which they
come, and the first unhealthy one settles it.
-/
def worst (healths : List Health) : Health :=
  worstFrom false healths

end Health
end CoreWatch
