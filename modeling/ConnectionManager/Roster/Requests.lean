import ConnectionManager.Roster.Groups
import ConnectionManager.Roster.Lists

/-!
The roster as a factory. It makes the channels of its views and no others. Until the roster is
there, requests that may succeed later are queued; the first batch answers all of them, by the
channels that it announces or with an error.
-/

namespace ConnectionManager

namespace RosterCall

variable {β : Type} [RosterBackend β]

/-- Answers a request for a group by its name, creating the group if that can be done. -/
def answerGroup (surroundings : Surroundings) (call : RosterCall β) (name : String) :
    RequestAnswer × RosterCall β :=
  match call.roster.groups.find? name with
  | some view => (.existing view.channel, call)
  | none =>
      if RosterBackend.groupsEditable call.roster.backend then
        match call.ensureGroup surroundings name with
        | (.error failure, next) => (.failed failure, next)
        | (.ok _, next) =>
            let announced := next.emit (.groupsCreated [name])
            match announced.roster.groups.find? name with
            | some view => (.created view.channel, announced)
            | none => (.notAvailable, announced)
      else (.notAvailable, call)

def answer (surroundings : Surroundings) (call : RosterCall β) (request : ChannelRequest) :
    RequestAnswer × RosterCall β :=
  match request.kind with
  | .list =>
      match ListName.ofHandle? request.handle with
      | none => (.invalidHandle, call)
      | some list =>
          match call.roster.lists.find? list with
          | some view => (.existing view.channel, call)
          | none => (.notAvailable, call)
  | .group =>
      match call.repositories.get .group >>= fun repository => repository.inspect request.handle with
      | .error failure => (.failed failure, call)
      | .ok id =>
          match call.roster.normalizeGroup id with
          | none => (.invalidHandle, call)
          | some name => call.answerGroup surroundings name
  | .none | .contact | .room => (.notImplemented, call)

/-- Answers a request that waited for the roster. One that an announced channel satisfies is
answered by its announcement. -/
def finishQueued (surroundings : Surroundings) (call : RosterCall β)
    (entry : Token × ChannelRequest) : RosterCall β :=
  let (token, request) := entry
  if call.roster.channels.any fun channel => channel.satisfies request then call
  else
    let (answer, next) := call.answer surroundings request
    match answer with
    | .existing _ | .created _ | .queued => next
    | refusal =>
        let channel : Channel :=
          ⟨surroundings.connectionPath, request.channelType, request.kind, request.handle⟩
        next.report (.channelError channel refusal.failure (some token))

/-- The groups of the backend with their members, by normalized name. -/
def groupsOf (source : GroupSource) (contacts : List Handle) : Catalog String (List Handle) :=
  let named := (source.names.filterMap source.normalize).foldl
    (fun catalog name => catalog.insert name []) Catalog.empty
  let memberships := contacts.flatMap fun contact =>
    (source.ofContact contact).filterMap fun group =>
      (source.normalize group).map fun name => (name, contact)
  memberships.foldl
    (fun catalog (name, contact) => catalog.insert name ((catalog.find? name).getD [] ++ [contact]))
    named

def receiveGroup (surroundings : Surroundings) (call : RosterCall β)
    (entry : String × List Handle) : RosterCall β :=
  match call.ensureGroup surroundings entry.1 with
  | (.error _, next) => next
  | (.ok _, next) => next.changeGroup entry.1 entry.2 [] true

def receiveLists (call : RosterCall β) : RosterCall β :=
  let contacts := RosterBackend.contacts call.roster.backend
  let blocked := if call.roster.canBlock then call.roster.blocked else []
  ListName.all.foldl (fun current list =>
    current.updateList true (if list = .deny then blocked else contacts) list) call

def reportLists (call : RosterCall β) : RosterCall β :=
  call.roster.lists.values.foldl (fun current view => current.report (.newChannel view.channel none))
    call

def receiveGroups (surroundings : Surroundings) (contacts : List Handle) (call : RosterCall β) :
    RosterCall β :=
  if call.repositories.supports .group then
    match RosterBackend.groups call.roster.backend with
    | none => call
    | some source => (groupsOf source contacts).entries.foldl (receiveGroup surroundings) call
  else call

def finishAll (surroundings : Surroundings) (call : RosterCall β) : RosterCall β :=
  call.roster.queued.foldl (finishQueued surroundings)
    { call with roster := { call.roster with queued := [] } }

/-- Publishes the whole roster. Only the first call does anything. -/
def listReceived (surroundings : Surroundings) (call : RosterCall β) : RosterCall β :=
  if call.roster.phase ≠ .waiting then call
  else
    let received := { call with roster := { call.roster with phase := .received } }
    match createLists surroundings ListName.all received with
    | (false, created) => created
    | (true, created) =>
        let contacts := RosterBackend.contacts call.roster.backend
        (created.receiveLists.reportLists.receiveGroups surroundings contacts).finishAll surroundings

/-- Queues a request until the roster is there, or refuses it at once. -/
def request (surroundings : Surroundings) (call : RosterCall β) (request : ChannelRequest)
    (token : Token) : RequestAnswer × RosterCall β :=
  let queued := { call with
    roster := { call.roster with queued := call.roster.queued ++ [(token, request)] } }
  if request.channelType ≠ contactListType then (.notImplemented, call)
  else match call.roster.phase with
    | .gone => (.failed Roster.gone, call)
    | .received => call.answer surroundings request
    | .waiting =>
        match request.kind with
        | .list =>
            match ListName.ofHandle? request.handle with
            | none => (.invalidHandle, call)
            | some list => if call.roster.hasView list then (.queued, queued) else (.notAvailable, call)
        | .group => (.queued, queued)
        | .none | .contact | .room => (.notImplemented, call)

def closeAll (call : RosterCall β) : RosterCall β :=
  let forgotten := { call with roster := { call.roster with queued := [], lists := .empty } }
  let closed := call.roster.lists.values.foldl (fun current view =>
    (current.withContacts (view.clear current.repositories.contacts)).report
      (.channelClosed view.channel.path)) forgotten
  closed.roster.groups.keys.foldl (fun current name => (current.dropGroup name).2) closed

end RosterCall

namespace Roster

variable {β : Type}

def run {α : Type} (roster : Roster β) (repositories : Repositories)
    (operation : RosterCall β → α × RosterCall β) : FactoryCall (Roster β) α :=
  let (answer, call) := operation { roster, repositories }
  ⟨call.roster, call.repositories, call.reports, answer⟩

variable [RosterBackend β]

def hook (roster : Roster β) (hook : FactoryHook) (repositories : Repositories) :
    FactoryCall (Roster β) Unit :=
  match hook with
  | .connecting | .connected => .idle roster repositories ()
  | .disconnected => .idle { roster with phase := .gone } repositories ()
  | .closeAll => roster.run repositories fun call => ((), call.closeAll)

instance : ChannelFactory (Roster β) where
  request roster request token surroundings repositories :=
    roster.run repositories fun call => call.request surroundings request token
  channels := channels
  hook roster moment _ repositories := roster.hook moment repositories

end Roster

end ConnectionManager
