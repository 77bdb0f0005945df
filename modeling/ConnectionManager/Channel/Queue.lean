import ConnectionManager.Channel.Basic

/-!
Requests that wait for an answer, oldest first. Taking a request out of the queue is the only way
to answer it, so each is answered at most once.
-/

namespace ConnectionManager

structure PendingRequest where
  token : Token
  request : ChannelRequest
  /-- Unique bus name of the requester. -/
  sender : String
  /-- The number under which the requester waits for its reply. -/
  reply : Nat
deriving DecidableEq

structure RequestQueue where
  pending : List PendingRequest := []

namespace RequestQueue

def enqueue (queue : RequestQueue) (request : PendingRequest) : RequestQueue :=
  ⟨queue.pending ++ [request]⟩

def size (queue : RequestQueue) : Nat := queue.pending.length

def isEmpty (queue : RequestQueue) : Bool := queue.pending.isEmpty

def contains (queue : RequestQueue) (token : Token) : Bool :=
  queue.pending.any fun request => request.token = token

/-- Whether a channel answers a queued request. A channel without a target answers only the one
it was made for. -/
def isAnswered (channel : Channel) (made : Option Token) (request : PendingRequest) : Bool :=
  some request.token = made || (channel.kind ≠ .none && channel.satisfies request.request)

def takeMatching (queue : RequestQueue) (channel : Channel) (made : Option Token) :
    List PendingRequest × RequestQueue :=
  let (answered, rest) := queue.pending.partition (isAnswered channel made)
  (answered, ⟨rest⟩)

def take (queue : RequestQueue) (token : Token) : Option (PendingRequest × RequestQueue) :=
  (queue.pending.find? fun request => request.token = token).map fun request =>
    (request, ⟨queue.pending.eraseP fun other => other.token = token⟩)

def takeAll (queue : RequestQueue) : List PendingRequest × RequestQueue := (queue.pending, ⟨[]⟩)

end RequestQueue

end ConnectionManager
