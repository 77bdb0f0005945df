/-!
Events and those who listen to them. Everything announced is kept in order; a subscription is a
place in that order, so listeners never disturb each other.
-/

namespace ConnectionManager

structure Journal (ε : Type) where
  /-- Everything announced so far, oldest first. -/
  entries : List ε := []
  /-- How many subscriptions have not been revoked. -/
  listeners : Nat := 0
deriving Repr

/-- How many entries a listener has passed over or read. -/
structure Subscription where
  position : Nat

namespace Journal

variable {ε : Type}

def emit (journal : Journal ε) (event : ε) : Journal ε :=
  { journal with entries := journal.entries ++ [event] }

def subscribe (journal : Journal ε) : Subscription × Journal ε :=
  (⟨journal.entries.length⟩, { journal with listeners := journal.listeners + 1 })

def revoke (journal : Journal ε) : Journal ε :=
  { journal with listeners := journal.listeners - 1 }

def unread (journal : Journal ε) (subscription : Subscription) : List ε :=
  journal.entries.drop subscription.position

def drain (journal : Journal ε) (subscription : Subscription) : List ε × Subscription :=
  (journal.unread subscription, ⟨max subscription.position journal.entries.length⟩)

def receive? (journal : Journal ε) (subscription : Subscription) : Option ε × Subscription :=
  match journal.unread subscription with
  | [] => (none, subscription)
  | event :: _ => (some event, ⟨subscription.position + 1⟩)

end Journal

end ConnectionManager
