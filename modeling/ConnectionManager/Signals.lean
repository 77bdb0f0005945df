/-!
Requests to stop a manager or to let it look at its manifest again. A request to stop stays; those
to reload are counted, and an observer compares the count with the one it saw last, so several
requests between two looks are one.
-/

namespace ConnectionManager

structure Signals where
  shuttingDown : Bool := false
  reloads : Nat := 0
deriving DecidableEq, Repr

structure ReloadWatch where
  seen : Nat
deriving DecidableEq, Repr

namespace Signals

def requestShutdown (signals : Signals) : Signals := { signals with shuttingDown := true }

def requestReload (signals : Signals) : Signals := { signals with reloads := signals.reloads + 1 }

def watchReloads (signals : Signals) : ReloadWatch := ⟨signals.reloads⟩

def poll (signals : Signals) (watch : ReloadWatch) : Bool × ReloadWatch :=
  (watch.seen != signals.reloads, signals.watchReloads)

end Signals

end ConnectionManager
