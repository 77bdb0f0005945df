import ConnectionManager.Connection.Basic
import ConnectionManager.Datum.Basic

/-!
Channels, requests and what connections announce as data.
-/

namespace ConnectionManager

instance : ToDatum Channel where
  datum channel := .list [datum channel.path, datum channel.channelType, datum channel.kind,
    datum channel.handle]

instance : ToDatum PendingRequest where
  datum pending := .list [datum pending.token, datum pending.sender,
    datum pending.request.channelType, datum pending.request.kind, datum pending.request.handle,
    datum pending.request.suppressHandler]

instance : ToDatum RequestAnswer where
  datum
    | .notImplemented => .text "not_implemented"
    | .notAvailable => .text "not_available"
    | .invalidHandle => .text "invalid_handle"
    | .queued => .text "queued"
    | .existing channel => .record [("existing", datum channel)]
    | .created channel => .record [("created", datum channel)]
    | .failed failure => datum failure

instance : ToDatum ConnectionEvent where
  datum
    | .statusChanged status reason =>
        .list [.text "status", datum status.name, datum reason.number]
    | .newChannel channel suppressed =>
        .list [.text "new_channel", datum channel, datum suppressed]
    | .channelClosed path => .list [.text "closed", datum path]
    | .shutdownFinished => .list [.text "shutdown_finished"]

namespace Datum

def toChannel (data : Datum) : Outcome Channel := do
  .ok ⟨← ObjectPath.ofString (data.stringAt "path"), data.stringAt "type", data.kindAt "kind",
    data.naturalAt "handle"⟩

def toRequest (data : Datum) : ChannelRequest :=
  ⟨data.stringAt "type", data.kindAt "kind", data.naturalAt "handle", data.booleanAt "suppress"⟩

def naturalBelow? (limit : Nat) (data : Datum) : Option Nat :=
  data.natural?.filter fun number => number < limit

def handle? (data : Datum) : Option Handle := data.naturalBelow? Handle.limit

def name? : Datum → Option String
  | .text name | .record [(name, .nothing)] => some name
  | _ => none

def kind? (data : Datum) : Option HandleKind := data.name?.bind HandleKind.ofName?

/-- The fields of a record in order, given by name or by position. -/
def fields? (names : List String) (data : Datum) : Option (List Datum) :=
  match data with
  | .list values => if values.length = names.length then some values else none
  | .record fields => names.mapM fun name => fields.lookup name
  | _ => none

def request? (data : Datum) : Option ChannelRequest := do
  match ← data.fields? ["channel_type", "handle_type", "handle", "suppress_handler"] with
  | [channelType, kind, handle, suppress] =>
      some ⟨← channelType.string?, ← kind.kind?, ← handle.handle?, ← suppress.boolean?⟩
  | _ => none

def channel? (data : Datum) : Option Channel := do
  match ← data.fields? ["object_path", "channel_type", "handle_type", "handle"] with
  | [path, channelType, kind, handle] =>
      some ⟨← path.string?.bind ObjectPath.ofString?, ← channelType.string?, ← kind.kind?,
        ← handle.handle?⟩
  | _ => none

def ofRequest (request : ChannelRequest) : Datum :=
  .record [("channel_type", datum request.channelType), ("handle_type", datum request.kind),
    ("handle", datum request.handle), ("suppress_handler", datum request.suppressHandler)]

def ofChannel (channel : Channel) : Datum :=
  .record [("object_path", datum channel.path), ("channel_type", datum channel.channelType),
    ("handle_type", datum channel.kind), ("handle", datum channel.handle)]

/-- Reads a datum strictly as one of the types that are exchanged, and writes it again, with
something that follows from it. -/
def exchange? (type : String) (data : Datum) : Option (Datum × Datum) := do
  match type with
  | "handle" =>
      let handle ← data.handle?
      some (datum handle, datum (Handle.isNone handle))
  | "handle_type" =>
      let kind ← data.kind?
      some (datum kind, datum kind.number)
  | "list_name" =>
      let list ← ListName.ofName? (← data.name?)
      some (datum list.name, datum list.handle)
  | "status" =>
      let status ← ConnectionStatus.ofName? (← data.name?)
      some (datum status.name,
        .list [datum status.number, datum status.name, datum status.visible.name])
  | "reason" =>
      let reason ← StatusReason.ofName? (← data.name?)
      some (datum reason.name, datum reason.number)
  | "object_path" =>
      let path ← ObjectPath.ofString? (← data.string?)
      some (datum path, datum path)
  | "token" =>
      let token ← data.naturalBelow? Token.limit
      some (datum token, datum ("#" ++ toString token))
  | "channel_request" => some (ofRequest (← data.request?), .nothing)
  | "channel_info" =>
      let channel ← data.channel?
      some (ofChannel channel, datum channel)
  | _ => none

end Datum

end ConnectionManager
