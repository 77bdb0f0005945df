import ConnectionManager.Connection.Basic

/-!
Channels of a connection. A request goes to the factories in turn until one takes it. Reports of a
factory are acted on when its call is over: a new channel is announced before the requests that it
answers get their replies.
-/

namespace ConnectionManager.Connection

variable {φ : Type}

def surroundings (connection : Connection φ) : Surroundings :=
  ⟨connection.names.objectPath, connection.selfHandle, connection.status⟩

def announceChannel (connection : Connection φ) (channel : Channel) (token : Option Token) :
    Connection φ :=
  let (answered, queue) := connection.queue.takeMatching channel token
  let suppressed := answered.any fun request => request.request.suppressHandler
  (({ connection with queue }).announceEvent (.newChannel channel suppressed)).reply
    (.ok channel.path) answered

/-- Answers the requests that a channel satisfies without announcing it. -/
def answerMatching (connection : Connection φ) (channel : Channel) (token : Option Token)
    (outcome : Outcome ObjectPath) : Connection φ :=
  let (answered, queue) := connection.queue.takeMatching channel token
  ({ connection with queue }).reply outcome answered

def answerToken (connection : Connection φ) (token : Token) (outcome : Outcome ObjectPath) :
    Connection φ :=
  match connection.queue.take token with
  | some (request, queue) => ({ connection with queue }).reply outcome [request]
  | none => connection

/-- Acts on a report. No channel is announced any more once the connection is disconnected. -/
def applyReport (connection : Connection φ) : Report → Connection φ
  | .newChannel channel token =>
      if connection.status = .disconnected then connection
      else connection.announceChannel channel token
  | .channelError channel failure token =>
      connection.answerMatching channel token (.error failure)
  | .channelClosed path => connection.announceEvent (.channelClosed path)

def applyCall {α : Type} (connection : Connection φ) (index : Nat) (call : FactoryCall φ α) :
    Connection φ :=
  call.reports.foldl applyReport { connection with
    factories := connection.factories.set index call.factory
    repositories := call.repositories }

/-- Calls one factory; `none` if there is none at that place or it is of another sort. -/
def withFactory {α : Type} (connection : Connection φ) (index : Nat)
    (call : φ → Surroundings → Repositories → Option (FactoryCall φ α)) :
    Option (α × Connection φ) := do
  let factory ← connection.factories[index]?
  let result ← call factory connection.surroundings connection.repositories
  some (result.answer, (connection.record (.called index)).applyCall index result)

def wrongFactory (index : Nat) (expected : String) : Failure :=
  ⟨.invalidArgument, s!"factory {index} is not a {expected}"⟩

variable [ChannelFactory φ]

def hookFactory (hook : FactoryHook) (connection : Connection φ) (index : Nat) : Connection φ :=
  match connection.factories[index]? with
  | none => connection
  | some factory =>
      (connection.record (.hooked index hook)).applyCall index
        (ChannelFactory.hook factory hook connection.surroundings connection.repositories)

def hookAll (connection : Connection φ) (hook : FactoryHook) : Connection φ :=
  (List.range connection.factories.length).foldl (hookFactory hook) connection

def openChannels (connection : Connection φ) : List Channel :=
  connection.factories.flatMap ChannelFactory.channels

def listChannels (connection : Connection φ) : Outcome (List Channel) := do
  connection.requireConnected
  .ok connection.openChannels

/-- A request without a target has no handle; any other one needs a valid handle of its kind. -/
def checkTarget (connection : Connection φ) (request : ChannelRequest) : Outcome Unit :=
  if request.kind = .none then
    if Handle.isNone request.handle then .ok ()
    else .error ⟨.invalidArgument, "a channel without a target must use handle 0"⟩
  else do (← connection.repositories.get request.kind).validate false [request.handle]

/-- Asks factories in turn. The first answer that is no refusal settles the request; if all
refuse, the best of the refusals does. -/
def askFactories (request : ChannelRequest) (token : Token) :
    List Nat → Option RequestAnswer → Connection φ → Connection φ
  | [], refusal, connection =>
      connection.answerToken token (.error (refusal.getD .notImplemented).failure)
  | index :: rest, refusal, connection =>
      match connection.factories[index]? with
      | none => askFactories request token rest refusal connection
      | some factory =>
          let call := ChannelFactory.request factory request token connection.surroundings
            connection.repositories
          let after := (connection.record (.asked index token)).applyCall index call
          match call.answer with
          | .existing channel => after.answerMatching channel (some token) (.ok channel.path)
          | .created channel =>
              if after.queue.contains token then after.announceChannel channel (some token)
              else after
          | .queued => after
          | .failed failure => after.answerToken token (.error failure)
          | declined =>
              askFactories request token rest (some (RequestAnswer.stronger refusal declined)) after

def requestChannel (connection : Connection φ) (request : ChannelRequest) (sender : String) :
    Outcome (Token × Connection φ) := do
  connection.requireConnected
  connection.checkTarget request
  let token := connection.nextToken
  let queued := { connection with
    nextToken := token + 1
    queue := connection.queue.enqueue ⟨token, request, sender, token⟩ }
  .ok (token, askFactories request token (List.range connection.factories.length) none queued)

end ConnectionManager.Connection
