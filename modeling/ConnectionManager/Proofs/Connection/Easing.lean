import ConnectionManager.Proofs.Connection.Lifecycle

/-!
What a connection does around the calls of its factories: requests leave the queue and acts are
recorded. What survives that and every call of a factory survives a whole walk over the factories.
-/

namespace ConnectionManager.Connection

variable {φ : Type} {before middle after : Connection φ}

/-- Requests left the queue and acts were recorded; nothing else changed. -/
def Eased (before after : Connection φ) : Prop :=
  ∃ pending acts, pending.Sublist before.queue.pending ∧
    after = { before with queue := ⟨pending⟩, acts }

theorem Eased.refl (connection : Connection φ) : Eased connection connection :=
  ⟨_, _, .refl _, rfl⟩

theorem Eased.trans (first : Eased before middle) (second : Eased middle after) :
    Eased before after := by
  obtain ⟨pending, acts, kept, same⟩ := first
  obtain ⟨left, further, stillKept, again⟩ := second
  subst same
  exact ⟨left, further, stillKept.trans kept, again⟩

theorem Eased.status (eased : Eased before after) : after.status = before.status := by
  obtain ⟨_, _, _, same⟩ := eased
  rw [same]

theorem Eased.factories (eased : Eased before after) : after.factories = before.factories := by
  obtain ⟨_, _, _, same⟩ := eased
  rw [same]

theorem record_eased (connection : Connection φ) (act : Act) :
    Eased connection (connection.record act) :=
  ⟨_, _, .refl _, rfl⟩

theorem reply_eased (connection : Connection φ) (outcome : Outcome ObjectPath)
    (answered : List PendingRequest) {rest : List PendingRequest}
    (kept : rest.Sublist connection.queue.pending) :
    Eased connection (({ connection with queue := ⟨rest⟩ }).reply outcome answered) := by
  rw [reply_eq]
  exact ⟨_, _, kept, rfl⟩

theorem announce_channel_eq (connection : Connection φ) (channel : Channel)
    (token : Option Token) :
    ∃ suppressed, connection.announceChannel channel token
      = (connection.announceEvent (.newChannel channel suppressed)).answerMatching channel token
          (.ok channel.path) :=
  ⟨_, rfl⟩

theorem answer_matching_eased (connection : Connection φ) (channel : Channel)
    (token : Option Token) (outcome : Outcome ObjectPath) :
    Eased connection (connection.answerMatching channel token outcome) := by
  rw [answer_matching_eq]
  exact reply_eased connection outcome _ List.filter_sublist

theorem announce_channel_eased (connection : Connection φ) (channel : Channel)
    (token : Option Token) : Eased connection (connection.announceChannel channel token) := by
  obtain ⟨suppressed, same⟩ := connection.announce_channel_eq channel token
  rw [same]
  exact (record_eased connection _).trans (answer_matching_eased _ channel token _)

theorem answer_token_eased (connection : Connection φ) (token : Token)
    (outcome : Outcome ObjectPath) : Eased connection (connection.answerToken token outcome) := by
  unfold answerToken
  split
  · rename_i request queue taken
    obtain ⟨found, _, same⟩ := Option.map_eq_some_iff.1 taken
    cases same
    exact reply_eased connection outcome _ List.eraseP_sublist
  · exact .refl connection

theorem apply_report_eased (connection : Connection φ) (report : Report) :
    Eased connection (connection.applyReport report) := by
  cases report with
  | newChannel channel token =>
      unfold applyReport
      dsimp only
      split
      · exact .refl connection
      · exact connection.announce_channel_eased channel token
  | channelError channel failure token =>
      exact connection.answer_matching_eased channel token (.error failure)
  | channelClosed path => exact connection.record_eased _

theorem apply_reports_eased (reports : List Report) (connection : Connection φ) :
    Eased connection (reports.foldl applyReport connection) := by
  induction reports generalizing connection with
  | nil => exact .refl connection
  | cons report rest induction => exact (connection.apply_report_eased report).trans (induction _)

/-- The connection that has what a factory call left, before the reports are acted on. -/
def taking {α : Type} (connection : Connection φ) (index : Nat) (call : FactoryCall φ α) :
    Connection φ :=
  { connection with
    factories := connection.factories.set index call.factory
    repositories := call.repositories }

theorem apply_call_eased {α : Type} (connection : Connection φ) (index : Nat)
    (call : FactoryCall φ α) :
    Eased (connection.taking index call) (connection.applyCall index call) :=
  apply_reports_eased call.reports _

theorem with_factory_taken {α : Type} {connection after : Connection φ} {index : Nat}
    {call : φ → Surroundings → Repositories → Option (FactoryCall φ α)} {answer : α}
    (done : connection.withFactory index call = some (answer, after)) :
    ∃ factory result, connection.factories[index]? = some factory ∧
      call factory connection.surroundings connection.repositories = some result ∧
      after = (connection.record (.called index)).applyCall index result := by
  obtain ⟨factory, present, called⟩ := Option.bind_eq_some_iff.1 done
  obtain ⟨result, outcome, same⟩ := Option.bind_eq_some_iff.1 called
  cases same
  exact ⟨factory, result, present, outcome, rfl⟩

/-! The events, act by act. -/

theorem reply_events (connection : Connection φ) (outcome : Outcome ObjectPath)
    (requests : List PendingRequest) :
    (connection.reply outcome requests).events = connection.events := by
  have recorded : (connection.reply outcome requests).acts.entries = connection.acts.entries
      ++ requests.map fun request => .replied request.reply outcome := by
    rw [reply_eq]
  rw [events_append recorded, unseen_replies (fun _ => rfl), List.append_nil]

theorem answer_matching_events (connection : Connection φ) (channel : Channel)
    (token : Option Token) (outcome : Outcome ObjectPath) :
    (connection.answerMatching channel token outcome).events = connection.events := by
  rw [answer_matching_eq, reply_events]
  rfl

theorem answer_token_events (connection : Connection φ) (token : Token)
    (outcome : Outcome ObjectPath) :
    (connection.answerToken token outcome).events = connection.events := by
  unfold answerToken
  split
  · rw [reply_events]
    rfl
  · rfl

theorem record_events (connection : Connection φ) (act : Act) :
    (connection.record act).events = connection.events ++ act.event?.toList := by
  have recorded : (connection.record act).acts.entries = connection.acts.entries ++ [act] := rfl
  rw [events_append recorded]
  cases event : act.event? <;> simp [event]

theorem announce_channel_events (connection : Connection φ) (channel : Channel)
    (token : Option Token) :
    ∃ suppressed, (connection.announceChannel channel token).events
      = connection.events ++ [.newChannel channel suppressed] := by
  obtain ⟨suppressed, same⟩ := connection.announce_channel_eq channel token
  refine ⟨suppressed, ?_⟩
  rw [same, answer_matching_events, announceEvent, record_events]
  rfl

variable [ChannelFactory φ] {Kept : Connection φ → Prop}

theorem ask_factories_kept (eased : ∀ before after, Eased before after → Kept before → Kept after)
    {request : ChannelRequest} {token : Token}
    (asked : ∀ (connection : Connection φ) index factory,
      connection.factories[index]? = some factory → Kept connection →
        Kept (connection.taking index (ChannelFactory.request factory request token
          connection.surroundings connection.repositories)))
    (indices : List Nat) (refusal : Option RequestAnswer) (connection : Connection φ)
    (kept : Kept connection) : Kept (askFactories request token indices refusal connection) := by
  induction indices generalizing refusal connection with
  | nil => exact eased _ _ (connection.answer_token_eased token _) kept
  | cons index rest induction =>
      unfold askFactories
      split
      · exact induction refusal connection kept
      · rename_i factory present
        dsimp only
        have recorded := eased _ _ (connection.record_eased (.asked index token)) kept
        have taken := asked (connection.record (.asked index token)) index factory present recorded
        have applied := eased _ _ (apply_call_eased _ index _) taken
        split
        · exact eased _ _ (answer_matching_eased _ _ _ _) applied
        · split
          · exact eased _ _ (announce_channel_eased _ _ _) applied
          · exact applied
        · exact applied
        · exact eased _ _ (answer_token_eased _ _ _) applied
        · exact induction _ _ applied

theorem hook_all_kept (eased : ∀ before after, Eased before after → Kept before → Kept after)
    {hook : FactoryHook}
    (hooked : ∀ (connection : Connection φ) index factory,
      connection.factories[index]? = some factory → Kept connection →
        Kept (connection.taking index (ChannelFactory.hook factory hook connection.surroundings
          connection.repositories)))
    (connection : Connection φ) (kept : Kept connection) : Kept (connection.hookAll hook) := by
  have along : ∀ (indices : List Nat) (current : Connection φ), Kept current →
      Kept (indices.foldl (hookFactory hook) current) := by
    intro indices
    induction indices with
    | nil => exact fun current kept => kept
    | cons index rest induction =>
        intro current kept
        apply induction
        unfold hookFactory
        split
        · exact kept
        · rename_i factory present
          have recorded := eased _ _ (current.record_eased (.hooked index hook)) kept
          exact eased _ _ (apply_call_eased _ index _)
            (hooked (current.record (.hooked index hook)) index factory present recorded)
  exact along _ connection kept

end ConnectionManager.Connection
