import ConnectionManager.Channel.Factory

/-!
A stand-in for factories that follows rules. Every request is answered by the first rule that
matches it, and every hook runs a list of prepared reports. What the factory notices on the way is
noted call by call.
-/

namespace ConnectionManager.Rehearsal

/-- Where a prepared channel is: at a path, or below the connection. -/
inductive Place
  | path (path : String)
  | elements (elements : List String)

/-- A prepared channel. What it leaves open comes from the request. -/
structure ChannelSketch where
  place : Place
  channelType : Option String := none
  kind : Option HandleKind := none
  handle : Option Handle := none

/-- The request that a prepared report names. -/
inductive SketchToken
  | absent
  | current
  | number (token : Token)

inductive Step
  | newChannel (channel : ChannelSketch) (token : SketchToken)
  | channelError (channel : ChannelSketch) (failure : Failure) (token : SketchToken)
  | closed (path : String)
  | intern (kind : HandleKind) (id : String)
  | peek

inductive RuleAnswer
  | notImplemented
  | notAvailable
  | invalidHandle
  | queued
  | failed (failure : Failure)
  | existing
  | created
  /-- An open channel that satisfies the request, or else a new one. -/
  | openOrCreated

structure Rule where
  channelType : Option String := none
  kind : Option HandleKind := none
  handle : Option Handle := none
  before : List Step := []
  answer : RuleAnswer
  channel : ChannelSketch

namespace Rule

def matchesRequest (rule : Rule) (request : ChannelRequest) : Bool :=
  (rule.channelType.getD request.channelType == request.channelType)
    && (rule.kind.getD request.kind == request.kind)
    && (rule.handle.getD request.handle == request.handle)

end Rule

/-- Something that a stand-in noticed. -/
inductive Remark
  | hooked (hook : FactoryHook)
  | interned (outcome : Outcome Handle)
  | seen (selfHandle : Handle) (status : ConnectionStatus) (path : ObjectPath) (hasRooms : Bool)

structure RuleFactory where
  rules : List Rule
  connecting : List Step := []
  connected : List Step := []
  disconnected : List Step := []
  closing : List Step := []
  opened : List Channel := []
  /-- One list of remarks for every call. -/
  remarks : List (List Remark) := []

structure Scene where
  opened : List Channel
  repositories : Repositories
  reports : List Report := []
  remarks : List Remark := []

namespace ChannelSketch

def draw (sketch : ChannelSketch) (request : Option ChannelRequest)
    (surroundings : Surroundings) : Outcome Channel := do
  let path ← match sketch.place with
    | .path path => ObjectPath.ofString path
    | .elements elements => surroundings.channelPath elements
  let channelType := sketch.channelType.or (request.map ChannelRequest.channelType)
  let kind := sketch.kind.or (request.map ChannelRequest.kind)
  let handle := sketch.handle.or (request.map ChannelRequest.handle)
  .ok ⟨path, channelType.getD "", kind.getD .none, handle.getD Handle.none⟩

end ChannelSketch

def SketchToken.resolve (token : SketchToken) (current : Option Token) : Option Token :=
  match token with
  | .absent => none
  | .current => current
  | .number token => some token

namespace Scene

def report (scene : Scene) (report : Report) : Scene :=
  { scene with reports := scene.reports ++ [report] }

def remark (scene : Scene) (remark : Remark) : Scene :=
  { scene with remarks := scene.remarks ++ [remark] }

/-- Remembers an open channel, unless there is one at its path. -/
def remember (scene : Scene) (channel : Channel) : Scene :=
  if scene.opened.any fun other => other.path = channel.path then scene
  else { scene with opened := scene.opened ++ [channel] }

def forget (scene : Scene) (path : ObjectPath) : Scene :=
  { scene with opened := scene.opened.filter fun other => other.path ≠ path }

def internIn (scene : Scene) (kind : HandleKind) (id : String) : Outcome Handle × Scene :=
  match scene.repositories.get kind with
  | .error failure => (.error failure, scene)
  | .ok repository =>
      match repository.intern id with
      | .error failure => (.error failure, scene)
      | .ok (handle, next) =>
          (.ok handle, { scene with repositories := scene.repositories.set kind next })

def play (surroundings : Surroundings) (request : Option ChannelRequest) (token : Option Token)
    (scene : Scene) : Step → Outcome Scene
  | .newChannel sketch named => do
      let channel ← sketch.draw request surroundings
      .ok ((scene.remember channel).report (.newChannel channel (named.resolve token)))
  | .channelError sketch failure named => do
      let channel ← sketch.draw request surroundings
      .ok (scene.report (.channelError channel failure (named.resolve token)))
  | .closed path => do
      let path ← ObjectPath.ofString path
      .ok ((scene.forget path).report (.channelClosed path))
  | .intern kind id =>
      let (outcome, next) := scene.internIn kind id
      .ok (next.remark (.interned outcome))
  | .peek => .ok (scene.remark (.seen surroundings.selfHandle surroundings.status
      surroundings.connectionPath (scene.repositories.supports .room)))

/-- Plays steps in turn, up to one that cannot be played. -/
def playAll (surroundings : Surroundings) (request : Option ChannelRequest)
    (token : Option Token) : List Step → Scene → Outcome Unit × Scene
  | [], scene => (.ok (), scene)
  | step :: rest, scene =>
      match scene.play surroundings request token step with
      | .error failure => (.error failure, scene)
      | .ok next => playAll surroundings request token rest next

end Scene

namespace RuleFactory

def finish {α : Type} (factory : RuleFactory) (scene : Scene) (answer : α) :
    FactoryCall RuleFactory α :=
  ⟨{ factory with opened := scene.opened, remarks := factory.remarks ++ [scene.remarks] },
    scene.repositories, scene.reports, answer⟩

def reportSteps (factory : RuleFactory) (steps : List Step) (surroundings : Surroundings)
    (repositories : Repositories) : FactoryCall RuleFactory (Outcome Unit) :=
  let (outcome, scene) := Scene.playAll surroundings none none steps
    { opened := factory.opened, repositories }
  factory.finish scene outcome

def answerRule (rule : Rule) (request : ChannelRequest) (surroundings : Surroundings)
    (scene : Scene) : RequestAnswer × Scene :=
  let create (channel : Channel) : RequestAnswer × Scene := (.created channel, scene.remember channel)
  match rule.answer with
  | .notImplemented => (.notImplemented, scene)
  | .notAvailable => (.notAvailable, scene)
  | .invalidHandle => (.invalidHandle, scene)
  | .queued => (.queued, scene)
  | .failed failure => (.failed failure, scene)
  | .existing =>
      match rule.channel.draw (some request) surroundings with
      | .ok channel => (.existing channel, scene)
      | .error failure => (.failed failure, scene)
  | .created =>
      match rule.channel.draw (some request) surroundings with
      | .ok channel => create channel
      | .error failure => (.failed failure, scene)
  | .openOrCreated =>
      match scene.opened.find? fun channel => channel.satisfies request with
      | some channel => (.existing channel, scene)
      | none =>
          match rule.channel.draw (some request) surroundings with
          | .ok channel => create channel
          | .error failure => (.failed failure, scene)

def request (factory : RuleFactory) (request : ChannelRequest) (token : Token)
    (surroundings : Surroundings) (repositories : Repositories) :
    FactoryCall RuleFactory RequestAnswer :=
  let scene : Scene := { opened := factory.opened, repositories }
  match factory.rules.find? fun rule => rule.matchesRequest request with
  | none => factory.finish scene .notImplemented
  | some rule =>
      match Scene.playAll surroundings (some request) (some token) rule.before scene with
      | (.error failure, played) => factory.finish played (.failed failure)
      | (.ok (), played) =>
          let (answer, final) := answerRule rule request surroundings played
          factory.finish final answer

def stepsOf (factory : RuleFactory) : FactoryHook → List Step
  | .connecting => factory.connecting
  | .connected => factory.connected
  | .disconnected => factory.disconnected
  | .closeAll => factory.closing

def hook (factory : RuleFactory) (hook : FactoryHook) (surroundings : Surroundings)
    (repositories : Repositories) : FactoryCall RuleFactory Unit :=
  let start : Scene := { opened := factory.opened, repositories, remarks := [.hooked hook] }
  let played := (Scene.playAll surroundings none none (factory.stepsOf hook) start).2
  let ended := if hook = .closeAll then
      { played with
        opened := []
        reports := played.reports ++ played.opened.map fun channel => .channelClosed channel.path }
    else played
  factory.finish ended ()

end RuleFactory

end ConnectionManager.Rehearsal
