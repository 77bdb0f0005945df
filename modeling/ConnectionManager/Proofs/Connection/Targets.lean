import ConnectionManager.Proofs.Connection.Completions
import ConnectionManager.Proofs.Connection.Repositories

/-!
Targets of queued requests. A request waits with the number of its target and keeps nothing alive,
so what the number stands for can change while it waits. It cannot change as long as the handle is
live at every moment.
-/

namespace ConnectionManager.Connection

variable {φ : Type}

/-- A run during which a handle is live at every moment. -/
inductive Uninterrupted (kind : HandleKind) (handle : Handle) : Connection φ → Connection φ → Prop
  | start (connection : Connection φ) (live : connection.repositories.Live kind handle) :
      Uninterrupted kind handle connection connection
  | next {before middle after : Connection φ} (run : Uninterrupted kind handle before middle)
      (move : Move middle after) (live : after.repositories.Live kind handle) :
      Uninterrupted kind handle before after

variable {before after : Connection φ} {kind : HandleKind} {handle : Handle} {id : String}

/-- A handle that stays live stands for what it stood for. -/
theorem Uninterrupted.denotes (run : Uninterrupted kind handle before after)
    (sound : before.repositories.Sound) (denoted : before.repositories.Denotes kind handle id) :
    after.repositories.Sound ∧ after.repositories.Denotes kind handle id := by
  induction run with
  | start => exact ⟨sound, denoted⟩
  | next run move live induction =>
      obtain ⟨stillSound, still⟩ := induction
      refine ⟨move.sound stillSound, ?_⟩
      cases move with
      | keep same => exact same ▸ still
      | step taken => exact taken.keeps stillSound still live
      | invalidate ended =>
          rw [ended] at live
          exact absurd live Repositories.invalidate_all_dead

/-- A request that is answered, but not by its token, is answered by its type and target. -/
theorem answered_by_target {queue : RequestQueue} {channel : Channel} {made : Option Token}
    {request : PendingRequest} (answered : request ∈ (queue.takeMatching channel made).1)
    (unnamed : made ≠ some request.token) :
    request ∈ queue.pending ∧ channel.channelType = request.request.channelType ∧
      channel.kind = request.request.kind ∧ channel.handle = request.request.handle := by
  unfold RequestQueue.takeMatching at answered
  rw [List.partition_eq_filter_filter] at answered
  obtain ⟨queued, matched⟩ := List.mem_filter.1 answered
  have target : channel.kind ≠ .none ∧ channel.channelType = request.request.channelType ∧
      channel.kind = request.request.kind ∧ channel.handle = request.request.handle := by
    simpa [RequestQueue.isAnswered, Channel.satisfies, unnamed.symm, and_assoc] using matched
  exact ⟨queued, target.2⟩

variable [ChannelFactory φ] {tokens : List Token}

/-- A success that a request is told is told when the connection acts on a channel that a factory has
reported or answers with. The factory made the channel for this request, or the channel has its
target, and then it is a channel for the identifier that the handle stood for when the request was
made, if the handle was live at every moment in between. -/
theorem uninterrupted_target_kept (works : FactoriesWork Repositories.Step φ)
    {start asked accepted : Connection φ} (fresh : Fresh start) (sound : start.repositories.Sound)
    (calls : Calls Repositories.Step tokens start asked) {request : ChannelRequest}
    {sender : String} {token : Token}
    (done : asked.requestChannel request sender = .ok (token, accepted)) :
    (∀ more later path, Calls Repositories.Step more accepted later →
      (token, .ok path) ∈ later.replies →
      ∃ moment channel made next,
        Speaks Repositories.Step asked request sender accepted later moment channel made next ∧
          Tells token path moment next) ∧
    ∀ later moment channel made next path,
      Speaks Repositories.Step asked request sender accepted later moment channel made next →
      Tells token path moment next → channel.path = path ∧
        (made = some token ∨
          (channel.channelType = request.channelType ∧ channel.kind = request.kind ∧
            channel.handle = request.handle ∧
            ∀ id, asked.repositories.Denotes request.kind request.handle id →
              Uninterrupted request.kind request.handle (asked.accepting request sender) moment →
                moment.repositories.Denotes channel.kind channel.handle id)) := by
  obtain ⟨given, connected, _, _⟩ := request_channel_eq_ok done
  have accounted := (calls_phases works (fun _ _ step => step) calls).accounted works fresh.accounted
  have waits := accounted.traced request sender connected
  have traced := waits.served (request_channel_serves works done).served
  have untold : ∀ path, (asked.nextToken, .ok path) ∉ asked.replies := by
    intro path told
    have ticket : asked.nextToken ∈ asked.tickets :=
      List.mem_append_right _ (List.mem_filterMap.2 ⟨_, mem_replies.1 told, rfl⟩)
    exact accounted.unused ticket
  subst given
  constructor
  · intro more later path run told
    exact speaks_of_told works (fun _ _ step => step) done (untold path) traced run told
  · intro later moment channel made next path speaks tells
    have waiting := speaks.traced works (fun _ _ step => step) waits traced
    obtain ⟨named, taken⟩ := waiting.takes (speaks.taken tells)
    refine ⟨named, ?_⟩
    by_cases own : made = some asked.nextToken
    · exact .inl own
    · right
      obtain ⟨_, sort, kind, handle⟩ := answered_by_target taken own
      refine ⟨sort, kind, handle, ?_⟩
      intro id denoted run
      have stillSound := (calls_moves works calls).sound sound
      rw [kind, handle]
      exact (run.denotes stillSound denoted).2

def rehearsedChannel : Channel := ⟨rehearsed.names.objectPath, "text", .contact, 2⟩

def announcing (factory : Postponer) (_ : Surroundings) (repositories : Repositories) :
    Option (FactoryCall Postponer Unit) :=
  some ⟨factory, repositories, [.newChannel rehearsedChannel none], ()⟩

/-- The moment before the connection acts on that report. -/
def beforehand (connection : Connection Postponer) : Connection Postponer :=
  (connection.record (.called 0)).applyCall 0 ⟨⟨⟩, connection.repositories, [], ()⟩

theorem announcing_works {connection after : Connection Postponer} (context : Context)
    (done : connection.withFactory 0 announcing = some ((), after)) :
    Call Repositories.Step connection context [] after context := by
  refine .withFactory context 0 announcing ?_ done
  intro factory result called
  cases called
  exact .refl

theorem uninterrupted_target_kept_rehearsed :
    ∃ accepted later : Connection Postponer, Fresh rehearsed ∧ rehearsed.repositories.Sound ∧
      Calls Repositories.Step [] rehearsed rehearsedContact ∧
      rehearsedContact.requestChannel ⟨"text", .contact, 2, false⟩ ":1.2" = .ok (1, accepted) ∧
      rehearsedContact.repositories.Denotes .contact 2 "bob" ∧
      Calls Repositories.Step [] accepted later ∧ (1, .ok rehearsedChannel.path) ∈ later.replies ∧
      Speaks Repositories.Step rehearsedContact ⟨"text", .contact, 2, false⟩ ":1.2" accepted
        later accepted.beforehand rehearsedChannel none later ∧
      Tells 1 rehearsedChannel.path accepted.beforehand later ∧
      Uninterrupted .contact 2
        (rehearsedContact.accepting ⟨"text", .contact, 2, false⟩ ":1.2") accepted.beforehand ∧
      (∃ moment channel made next,
        Speaks Repositories.Step rehearsedContact ⟨"text", .contact, 2, false⟩ ":1.2" accepted later
          moment channel made next ∧ Tells 1 rehearsedChannel.path moment next) ∧
      accepted.beforehand.repositories.Denotes rehearsedChannel.kind rehearsedChannel.handle
        "bob" := by
  obtain ⟨accepted, later, done, same, present, announced, reported, untold, replies⟩ :
      ∃ accepted later : Connection Postponer,
      rehearsedContact.requestChannel ⟨"text", .contact, 2, false⟩ ":1.2" = .ok (1, accepted) ∧
        accepted.repositories = rehearsedContact.repositories ∧
        accepted.factories[0]? = some ⟨⟩ ∧ accepted.withFactory 0 announcing = some ((), later) ∧
        later = accepted.beforehand.applyReport (.newChannel rehearsedChannel none) ∧
        accepted.beforehand.replies = [] ∧ later.replies = [(1, .ok rehearsedChannel.path)] :=
    ⟨_, _, rfl, rfl, rfl, rfl, rfl, rfl, rfl⟩
  have denoted : rehearsedContact.repositories.Denotes .contact 2 "bob" := ⟨_, rfl, rfl⟩
  have live : rehearsedContact.repositories.Live .contact 2 := ⟨_, rfl, rfl⟩
  have still : accepted.beforehand.repositories = rehearsedContact.repositories := same
  have run : Uninterrupted .contact 2
      (rehearsedContact.accepting ⟨"text", .contact, 2, false⟩ ":1.2") accepted.beforehand :=
    .next (.start _ live) (.keep still) (still ▸ live)
  have told : (1, .ok rehearsedChannel.path) ∈ later.replies := by
    rw [replies]
    exact List.mem_cons_self
  have tells : Tells 1 rehearsedChannel.path accepted.beforehand later :=
    ⟨by rw [untold]; exact List.not_mem_nil, told⟩
  have speaks : Speaks Repositories.Step rehearsedContact ⟨"text", .contact, 2, false⟩ ":1.2"
      accepted later accepted.beforehand rehearsedChannel none later := by
    have left : [Report.newChannel rehearsedChannel none]
        = [] ++ .newChannel rehearsedChannel none :: [] := rfl
    have first : Reported (accepted.record (.called 0)) 0
        ⟨⟨⟩, accepted.repositories, [.newChannel rehearsedChannel none], ()⟩ accepted.beforehand
        rehearsedChannel none (accepted.beforehand.applyReport (.newChannel rehearsedChannel none)) :=
      .report left
    have asked : announcing ⟨⟩ accepted.surroundings accepted.repositories
        = some ⟨⟨⟩, accepted.repositories, [.newChannel rehearsedChannel none], ()⟩ := rfl
    rw [reported]
    exact .called (.refl accepted) present asked first (.refl _)
  have rest : Calls Repositories.Step [] accepted later :=
    .next (.refl accepted) (announcing_works .start announced)
  obtain ⟨completed, kept⟩ := uninterrupted_target_kept postponer_works rehearsed_fresh
    Repositories.standard_sound rehearsed_contact_calls done
  refine ⟨accepted, later, rehearsed_fresh, Repositories.standard_sound, rehearsed_contact_calls,
    done, denoted, rest, told, speaks, tells, run, completed _ _ _ rest told, ?_⟩
  -- The channel was made for nobody in particular, so its target decides.
  rcases (kept _ _ _ _ _ _ speaks tells).2 with own | ⟨_, _, _, target⟩
  · cases own
  · exact target "bob" denoted run

/-- The number of a target can be given to another identifier while a request waits: the client
that asked for a channel to bob lets its handle go, another client gets the number for mallory, and
a channel to mallory, announced for nobody in particular, answers the request. -/
theorem recycled_target_answered :
    ∃ accepted free moment after : Connection Postponer,
      Fresh rehearsed ∧ Calls Repositories.Step [] rehearsed rehearsedContact ∧
        rehearsedContact.repositories.Denotes .contact 2 "bob" ∧
        rehearsedContact.requestChannel ⟨"text", .contact, 2, false⟩ ":1.2" = .ok (1, accepted) ∧
        Calls Repositories.Step [] accepted free ∧ ¬ free.repositories.Live .contact 2 ∧
        Calls Repositories.Step [] free moment ∧ moment.waiting 1 = 1 ∧
        moment.withFactory 0 announcing = some ((), after) ∧
        after.replies = [(1, .ok rehearsedChannel.path)] ∧
        moment.repositories.Denotes .contact 2 "mallory" ∧
        ¬ moment.repositories.Denotes .contact 2 "bob" := by
  obtain ⟨accepted, free, moment, after, done, let_go, given, dead, waits, named, announced,
      answered⟩ : ∃ accepted free moment after : Connection Postponer,
      rehearsedContact.requestChannel ⟨"text", .contact, 2, false⟩ ":1.2" = .ok (1, accepted) ∧
        free = (accepted.releaseHandles .contact [2] ":1.2").2 ∧
        moment = (free.requestHandles .contact ["mallory"] ":1.3").2 ∧
        free.repositories.contacts.isValid 2 = false ∧ moment.waiting 1 = 1 ∧
        moment.repositories.contacts.inspect 2 = .ok "mallory" ∧
        moment.withFactory 0 announcing = some ((), after) ∧
        after.replies = [(1, .ok rehearsedChannel.path)] :=
    ⟨_, _, _, _, rfl, rfl, rfl, rfl, rfl, rfl, rfl, rfl⟩
  have denoted : rehearsedContact.repositories.Denotes .contact 2 "bob" := ⟨_, rfl, rfl⟩
  have other : moment.repositories.Denotes .contact 2 "mallory" := ⟨_, rfl, named⟩
  refine ⟨accepted, free, moment, after, rehearsed_fresh, rehearsed_contact_calls, denoted, done,
    ?_, ?_, ?_, waits, announced, answered, other, ?_⟩
  · rw [let_go]
    exact .next (.refl accepted) (.releaseHandles accepted .start .contact [2] ":1.2")
  · rintro ⟨repository, found, valid⟩
    cases found
    rw [dead] at valid
    cases valid
  · rw [given]
    exact .next (.refl free) (.requestHandles free .start .contact ["mallory"] ":1.3")
  · intro bob
    have same := bob.unique other
    exact absurd same (by decide)

end ConnectionManager.Connection
