import ConnectionManager.Handle.Basic
import ConnectionManager.ObjectPath

/-!
Channels and requests for them. A channel is of a type and has a target: a handle of some kind, or
none. It answers every request for the same type and target.
-/

namespace ConnectionManager

/-- The number of a request: without an upper bound, not a word of sixty-four bits. What is read as a
token is below `Token.limit`. -/
abbrev Token := Nat

def Token.limit : Nat := 0x10000000000000000

structure ChannelRequest where
  channelType : String
  kind : HandleKind
  handle : Handle
  /-- The requester will handle the channel itself. -/
  suppressHandler : Bool
deriving DecidableEq

structure Channel where
  path : ObjectPath
  channelType : String
  kind : HandleKind
  handle : Handle
deriving DecidableEq

namespace Channel

def satisfies (channel : Channel) (request : ChannelRequest) : Bool :=
  channel.channelType = request.channelType && channel.kind = request.kind
    && channel.handle = request.handle

end Channel

end ConnectionManager
