import SecurityGuard.Define
import SecurityGuard.Foundation.SortedMap

/-!
# The service seen from an application

The library in an application finds the object of the service anew for each call and watches it
with a death recipient.  The recipient is made once and kept; the classes of the library share
the helper that makes and registers it.
-/

namespace SecurityGuard

/-- `RECONNECT_RETRY_DELAY_SECONDS`. -/
def reconnectRetryDelaySeconds : List Nat := [1, 5, 15, 30, 60, 60, 60, 60, 60]

/-- What the search for the service comes to: the registry of abilities can be missing, or it
has no object from which a proxy can be made. -/
inductive ServiceSearch where
  | noRegistry
  | noProxy
  | proxy (object : Address)
  deriving DecidableEq, Repr

/-- The death recipient of an object of the library, with the service objects on which it is
registered. -/
structure DeathWatch where
  /-- Whether `deathRecipient_` is set. -/
  recipient : Bool := false
  registered : SortedSet Address := .empty

namespace DeathWatch

variable (watch : DeathWatch)

/-- `AddDeathRecipient`, which fails on an object that has died. -/
def add (object : Address) (alive : Bool) : DeathWatch :=
  if alive then { watch with registered := watch.registered.insert object () } else watch

/-- Watch an object no longer. -/
def remove (object : Address) : DeathWatch :=
  { watch with registered := watch.registered.erase object }

/-- `SetDeathRecipient`: the recipient is registered only when it is made, and a registration
that fails is passed over. -/
def setDeathRecipient (refused : Code) (object : Address) (allocated alive : Bool) :
    Code × DeathWatch :=
  if watch.recipient then (.success, watch)
  else if allocated then (.success, { watch with recipient := true }.add object alive)
  else (refused, watch)

variable {watch}

theorem setDeathRecipient_of_recipient (made : watch.recipient = true) (refused : Code)
    (object : Address) (allocated alive : Bool) :
    watch.setDeathRecipient refused object allocated alive = (.success, watch) := by
  rw [setDeathRecipient, if_pos made]

end DeathWatch

end SecurityGuard
