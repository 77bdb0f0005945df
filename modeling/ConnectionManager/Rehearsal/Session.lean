import ConnectionManager.Channel.Reply
import ConnectionManager.Rehearsal.StandIn

/-!
A connection that is tried out step by step. After every step the news are collected: what was
announced, answered, written and noticed since the step before.
-/

namespace ConnectionManager.Rehearsal

structure Session where
  connection : Connection StandIn
  context : Context
  /-- The requests whose replies someone waits for. -/
  awaited : List Token := []

structure News where
  events : List ConnectionEvent
  replies : List (Token × Outcome ObjectPath)
  rosterEvents : List RosterEvent
  writes : List RosterWrite
  log : List LogLine

def newInRosters {α : Type} (entries : Roster StandInBackend → List α) :
    List StandIn → List StandIn → List α
  | .roster before :: earlier, .roster after :: later =>
      (entries after).drop (entries before).length ++ newInRosters entries earlier later
  | _ :: earlier, _ :: later => newInRosters entries earlier later
  | _, _ => []

def isSubscriptionWrite : RosterWrite → Bool
  | .requestSubscription .. | .authorizePublication _ | .storeContacts _ | .removeContacts _
  | .unsubscribe _ | .unpublish _ => true
  | .blockContacts _ | .unblockContacts _ | .createGroups _ | .addToGroup .. | .removeFromGroup ..
  | .setGroupMembers .. | .removeGroup _ | .renameGroup .. => false

namespace Session

/-- The new replies that are awaited, in the order of the requests. -/
def newReplies (before after : Session) : List (Token × Outcome ObjectPath) :=
  ((after.connection.replies.drop before.connection.replies.length).filter fun reply =>
    after.awaited.contains reply.1).mergeSort fun left right => left.1 ≤ right.1

/-- The news of a step. Writes about subscriptions come before the others. -/
def news (before after : Session) : News :=
  let earlier := before.connection.factories
  let later := after.connection.factories
  let (subscriptions, others) := (newInRosters (fun roster => roster.backend.writes) earlier later).partition
    isSubscriptionWrite
  { events := after.connection.events.drop before.connection.events.length
    replies := newReplies before after
    rosterEvents := newInRosters (fun roster => roster.events.entries) earlier later
    writes := subscriptions ++ others
    log := (log after.connection).drop (log before.connection).length }

def withoutAnswered (session : Session) (news : News) : Session :=
  { session with awaited := session.awaited.filter fun token =>
      !news.replies.any fun reply => reply.1 = token }

/-- What those find who still wait when the connection is gone. -/
def unanswered (session : Session) : List (Token × Outcome ObjectPath) :=
  session.awaited.map fun token => (token, .error Reply.dropped)

def finalContext (session : Session) : Context := session.connection.discard session.context

end Session

end ConnectionManager.Rehearsal
