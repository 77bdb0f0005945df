import ConnectionManager.Catalog
import ConnectionManager.Journal
import ConnectionManager.Text.Quoted

/-!
A message bus. Every client has a unique name that is never given out again, and may own
well-known names; a name has one owner at a time, and every change of owner is announced.
-/

namespace ConnectionManager

/-- A name changed hands. The empty text stands for nobody. -/
structure OwnerChange where
  name : String
  oldOwner : String
  newOwner : String
deriving DecidableEq, Repr

/-- How the bus answers a request for a name. -/
inductive NameReply
  | primaryOwner
  | inQueue
  | exists
  | alreadyOwner
deriving DecidableEq, Repr

def NameReply.number : NameReply → Nat
  | .primaryOwner => 1
  | .inQueue => 2
  | .exists => 3
  | .alreadyOwner => 4

structure Bus where
  ownName : String
  owners : Catalog String String := .empty
  clients : List String := []
  nextClient : Nat := 0
  changes : Journal OwnerChange := {}

namespace Bus

def uniqueName (number : Nat) : String := s!":1.{number}"

def start : Bus := { ownName := uniqueName 1, clients := [uniqueName 1], nextClient := 1 }

def announce (bus : Bus) (name oldOwner newOwner : String) : Bus :=
  { bus with changes := bus.changes.emit ⟨name, oldOwner, newOwner⟩ }

def connectClient (bus : Bus) : String × Bus :=
  let number := bus.nextClient + 1
  let name := uniqueName number
  let grown := { bus with nextClient := number, clients := bus.clients ++ [name] }
  (name, grown.announce name "" name)

def dropName (bus : Bus) (owner name : String) : Bus :=
  ({ bus with owners := bus.owners.erase name }).announce name owner ""

def namesOf (bus : Bus) (client : String) : List String :=
  (bus.owners.filter fun _ owner => owner = client).keys

/-- Disconnects a client: it loses its names in a given order, then its unique name disappears. -/
def disconnectIn (bus : Bus) (client : String) (order : List String) : Bus :=
  if bus.clients.contains client then
    let left := { bus with clients := bus.clients.filter fun other => other ≠ client }
    let released := order.foldl (fun current name => current.dropName client name) left
    released.announce client client ""
  else bus

def disconnectClient (bus : Bus) (client : String) : Bus :=
  bus.disconnectIn client (bus.namesOf client)

/-- Requests a name for a client, without waiting behind another owner. -/
def requestNameFor (bus : Bus) (client name : String) : NameReply × Bus :=
  match bus.owners.find? name with
  | some owner => (if owner = client then .alreadyOwner else .exists, bus)
  | none =>
      (.primaryOwner, ({ bus with owners := bus.owners.insert name client }).announce name "" client)

def requestName (bus : Bus) (name : String) : NameReply × Bus :=
  bus.requestNameFor bus.ownName name

/-- Gives a name back; refused if this process does not own it. -/
def releaseName (bus : Bus) (name : String) : Bool × Bus :=
  if bus.owners.find? name = some bus.ownName then (true, bus.dropName bus.ownName name)
  else (false, bus)

def nameOwner? (bus : Bus) (name : String) : Option String :=
  if bus.clients.contains name then some name else bus.owners.find? name

def ownedNames (bus : Bus) : List String := bus.owners.keys

def description (bus : Bus) : String :=
  "InMemoryBus \x7b own_name: " ++ Text.quoted bus.ownName ++ ", .. \x7d"

end Bus

/-- Whether the bus decides a request for a name at once or only ever queues it. -/
inductive Arbitration
  | immediate
  | queueing
deriving DecidableEq, Repr

/-- What the manager and all its connections share: the bus, and the counter behind the names of
connections without a name of their own. The counter is a machine word. -/
structure Context where
  bus : Bus
  anonymous : UInt64 := 0
  arbitration : Arbitration := .immediate

namespace Context

def start : Context := { bus := .start }

def nextAnonymous (context : Context) : Nat × Context :=
  (context.anonymous.toNat, { context with anonymous := context.anonymous + 1 })

def requestName (context : Context) (name : String) : NameReply × Context :=
  match context.arbitration with
  | .queueing => (.inQueue, context)
  | .immediate =>
      let (reply, bus) := context.bus.requestName name
      (reply, { context with bus })

def description (context : Context) : String :=
  "Context \x7b unique_name: " ++ Text.quoted context.bus.ownName ++ ", anonymous: "
    ++ toString context.anonymous ++ " \x7d"

end Context

end ConnectionManager
