import ConnectionManager.Datum.Channels
import ConnectionManager.Roster.Notifications

/-!
Rosters as data: what they announce, what clients write, and what can be seen of them.
-/

namespace ConnectionManager

instance : ToDatum RosterView where
  datum
    | .list name => datum ["list", name.name]
    | .group name => datum ["group", name]

instance : ToDatum RosterEvent where
  datum
    | .membersChanged change =>
        .record [("view", datum change.view), ("added", datum change.added),
          ("removed", datum change.removed), ("local", datum change.localPending),
          ("remote", datum change.remotePending), ("message", datum change.message),
          ("actor", datum change.actor), ("empty", datum change.isEmpty)]
    | .groupsCreated names => .record [("created", datum names)]
    | .groupsRemoved names => .record [("removed_groups", datum names)]
    | .groupRenamed old new members =>
        .record [("renamed", .list [datum old, datum new, datum members])]

instance : ToDatum RosterWrite where
  datum
    | .requestSubscription contacts message =>
        .list [.text "request_subscription", datum contacts, datum message]
    | .authorizePublication contacts => .list [.text "authorize_publication", datum contacts]
    | .storeContacts contacts => .list [.text "store_contacts", datum contacts]
    | .removeContacts contacts => .list [.text "remove_contacts", datum contacts]
    | .unsubscribe contacts => .list [.text "unsubscribe", datum contacts]
    | .unpublish contacts => .list [.text "unpublish", datum contacts]
    | .blockContacts contacts => .list [.text "block_contacts", datum contacts]
    | .unblockContacts contacts => .list [.text "unblock_contacts", datum contacts]
    | .createGroups names => .list [.text "create_groups", datum names]
    | .addToGroup group contacts => .list [.text "add_to_group", datum group, datum contacts]
    | .removeFromGroup group contacts =>
        .list [.text "remove_from_group", datum group, datum contacts]
    | .setGroupMembers group contacts =>
        .list [.text "set_group_members", datum group, datum contacts]
    | .removeGroup group => .list [.text "remove_group", datum group]
    | .renameGroup old new => .list [.text "rename_group", datum old, datum new]

def Roster.view {β : Type} [RosterBackend β] (roster : Roster β) : Datum :=
  .record [("received", datum roster.isReceived), ("disjoint", datum roster.disjointGroups),
    ("cached", datum (RosterBackend.contacts roster.backend).length),
    ("lists", datum (ListName.all.map fun name => (name.name, roster.listMembers name))),
    ("groups", datum (roster.groupNames.map fun name => (name, roster.groupMembers name))),
    ("unknown", datum (roster.groupMembers "")), ("channels", datum roster.channels)]

namespace Datum

def write? (data : Datum) (name : String) : Option RosterWrite :=
  let contacts := data.naturalsAt "contacts"
  let group := data.stringAt "group"
  match name with
  | "request_subscription" => some (.requestSubscription contacts (data.stringAt "message"))
  | "authorize_publication" => some (.authorizePublication contacts)
  | "store_contacts" => some (.storeContacts contacts)
  | "remove_contacts" => some (.removeContacts contacts)
  | "unsubscribe" => some (.unsubscribe contacts)
  | "unpublish" => some (.unpublish contacts)
  | "block_contacts" => some (.blockContacts contacts)
  | "unblock_contacts" => some (.unblockContacts contacts)
  | "create_groups" => some (.createGroups (data.stringsAt "groups"))
  | "add_to_group" => some (.addToGroup group contacts)
  | "remove_from_group" => some (.removeFromGroup group contacts)
  | "set_group_members" => some (.setGroupMembers group contacts)
  | "remove_group" => some (.removeGroup group)
  | "rename_group" => some (.renameGroup group (data.stringAt "name"))
  | _ => none

def notification? {β : Type} [RosterBackend β] (data : Datum) (name : String)
    (surroundings : Surroundings) : Option (RosterCall β → RosterCall β) :=
  let contacts := data.naturalsAt "contacts"
  match name with
  | "list_received" => some fun call => call.listReceived surroundings
  | "contacts_changed" => some (RosterCall.contactsChanged contacts (data.naturalsAt "removed"))
  | "blocking_changed" => some (RosterCall.blockingChanged contacts)
  | "groups_created" => some (RosterCall.groupsCreated surroundings (data.stringsAt "groups"))
  | "groups_removed" => some (RosterCall.groupsRemoved (data.stringsAt "groups"))
  | "group_renamed" =>
      some (RosterCall.groupRenamed surroundings (data.stringAt "group") (data.stringAt "name"))
  | "groups_changed" =>
      some (RosterCall.groupsChanged surroundings contacts (data.stringsAt "added")
        (data.stringsAt "left"))
  | _ => none

def toSubscription (data : Datum) : SubscriptionState :=
  match data.string with
  | "yes" => .yes
  | "ask" => .ask
  | _ => .no

def toContactStates (data : Datum) : ContactStates :=
  ⟨(data.field "subscribe").toSubscription, (data.field "publish").toSubscription,
    data.stringAt "request"⟩

end Datum

end ConnectionManager
