import ConnectionManager.Proofs.Connection.Easing

/-!
Successes come after the announcement of their channel. Whatever a connection does, apart from
answering with a channel that exists already, it records the announcement of a channel before it
records a success with the path of that channel.
-/

namespace ConnectionManager

def AnnouncedBefore (acts : List Act) (index : Nat) (path : ObjectPath) : Prop :=
  ∃ earlier, earlier < index ∧ ∃ (channel : Channel) (suppressed : Bool),
    acts[earlier]? = some (Act.announced (.newChannel channel suppressed)) ∧ channel.path = path

def Heralded (acts : List Act) : Prop :=
  ∀ (index number : Nat) (path : ObjectPath),
    acts[index]? = some (Act.replied number (.ok path)) → AnnouncedBefore acts index path

section Heralded

variable {front back acts : List Act} {index : Nat} {path : ObjectPath}

theorem AnnouncedBefore.append (announced : AnnouncedBefore front index path)
    (within : index ≤ front.length) : AnnouncedBefore (front ++ back) index path := by
  obtain ⟨earlier, before, channel, suppressed, found, named⟩ := announced
  refine ⟨earlier, before, channel, suppressed, ?_, named⟩
  rw [List.getElem?_append_left (Nat.lt_of_lt_of_le before within), found]

theorem AnnouncedBefore.prepend (announced : AnnouncedBefore back index path) :
    AnnouncedBefore (front ++ back) (front.length + index) path := by
  obtain ⟨earlier, before, channel, suppressed, found, named⟩ := announced
  refine ⟨front.length + earlier, Nat.add_lt_add_left before _, channel, suppressed, ?_, named⟩
  rw [List.getElem?_append_right (Nat.le_add_right _ _), Nat.add_sub_cancel_left, found]

theorem Heralded.of_no_success
    (silent : ∀ act ∈ acts, ∀ number path, act ≠ .replied number (.ok path)) : Heralded acts :=
  fun _ number path told => absurd rfl (silent _ (List.mem_of_getElem? told) number path)

theorem Heralded.append (first : Heralded front) (second : Heralded back) :
    Heralded (front ++ back) := by
  intro index number path told
  by_cases early : index < front.length
  · rw [List.getElem?_append_left early] at told
    exact (first index number path told).append (Nat.le_of_lt early)
  · have late : front.length ≤ index := Nat.le_of_not_lt early
    rw [List.getElem?_append_right late] at told
    rw [← Nat.add_sub_cancel' late]
    exact (second _ number path told).prepend

theorem Heralded.announcement (channel : Channel) (suppressed : Bool) (requests : List PendingRequest) :
    Heralded (.announced (.newChannel channel suppressed)
      :: requests.map fun request => .replied request.reply (.ok channel.path)) := by
  intro index number path told
  cases index with
  | zero => cases told
  | succ index =>
      rw [List.getElem?_cons_succ] at told
      obtain ⟨same, _⟩ := Connection.mem_replied (List.mem_of_getElem? told)
      exact ⟨0, Nat.succ_pos index, channel, suppressed, rfl, (Except.ok.inj same).symm⟩

end Heralded

namespace Connection

variable {φ : Type} {before middle after connection : Connection φ}

def Heralds (before after : Connection φ) : Prop :=
  ∃ added, after.acts.entries = before.acts.entries ++ added ∧ Heralded added

theorem heralds_of_acts (same : after.acts = before.acts) : Heralds before after :=
  ⟨[], by simp [same], Heralded.of_no_success nofun⟩

theorem Heralds.refl (connection : Connection φ) : Heralds connection connection :=
  heralds_of_acts rfl

theorem Heralds.trans (first : Heralds before middle) (second : Heralds middle after) :
    Heralds before after := by
  obtain ⟨added, entries, heralded⟩ := first
  obtain ⟨further, entriesAfter, heraldedAfter⟩ := second
  exact ⟨added ++ further, by rw [entriesAfter, entries, List.append_assoc],
    heralded.append heraldedAfter⟩

theorem record_heralds (connection : Connection φ) (act : Act)
    (silent : ∀ number path, act ≠ .replied number (.ok path)) :
    Heralds connection (connection.record act) := by
  refine ⟨[act], rfl, Heralded.of_no_success fun other member => ?_⟩
  rw [List.mem_singleton.1 member]
  exact silent

theorem fail_heralds (connection : Connection φ) (failure : Failure)
    (requests : List PendingRequest) :
    Heralds connection (connection.reply (.error failure) requests) := by
  rw [reply_eq]
  refine ⟨_, rfl, Heralded.of_no_success ?_⟩
  rintro act member number path rfl
  cases (mem_replied member).1

theorem announce_channel_heralds (connection : Connection φ) (channel : Channel)
    (token : Option Token) : Heralds connection (connection.announceChannel channel token) := by
  obtain ⟨suppressed, same⟩ := connection.announce_channel_eq channel token
  rw [same, answer_matching_eq, reply_eq]
  refine ⟨_, ?_, Heralded.announcement channel suppressed
    (connection.queue.pending.filter (RequestQueue.isAnswered channel token))⟩
  exact List.append_assoc _ _ _

theorem fail_matching_heralds (connection : Connection φ) (channel : Channel)
    (token : Option Token) (failure : Failure) :
    Heralds connection (connection.answerMatching channel token (.error failure)) := by
  rw [answer_matching_eq]
  exact (heralds_of_acts rfl).trans (fail_heralds _ failure _)

theorem fail_token_heralds (connection : Connection φ) (token : Token) (failure : Failure) :
    Heralds connection (connection.answerToken token (.error failure)) := by
  unfold answerToken
  split
  · exact (heralds_of_acts rfl).trans (fail_heralds _ failure _)
  · exact .refl connection

/-! ### Factories -/

theorem apply_report_heralds (connection : Connection φ) (report : Report) :
    Heralds connection (connection.applyReport report) := by
  cases report with
  | newChannel channel token =>
      unfold applyReport
      dsimp only
      split
      · exact .refl connection
      · exact connection.announce_channel_heralds channel token
  | channelError channel failure token => exact connection.fail_matching_heralds channel token failure
  | channelClosed path => exact connection.record_heralds _ nofun

theorem apply_call_heralds {α : Type} (connection : Connection φ) (index : Nat)
    (call : FactoryCall φ α) : Heralds connection (connection.applyCall index call) := by
  have reported : ∀ (reports : List Report) (connection : Connection φ),
      Heralds connection (reports.foldl applyReport connection) := by
    intro reports
    induction reports with
    | nil => exact fun connection => .refl connection
    | cons report rest induction =>
        exact fun connection => (connection.apply_report_heralds report).trans (induction _)
  exact (heralds_of_acts rfl).trans (reported call.reports _)

theorem with_factory_heralds {α : Type} {index : Nat} {answer : α}
    {call : φ → Surroundings → Repositories → Option (FactoryCall φ α)}
    (done : before.withFactory index call = some (answer, after)) : Heralds before after := by
  obtain ⟨_, result, _, _, rfl⟩ := with_factory_taken done
  exact (before.record_heralds (.called index) nofun).trans (apply_call_heralds _ index result)

section Factories

variable [ChannelFactory φ]

theorem hook_all_heralds (connection : Connection φ) (hook : FactoryHook) :
    Heralds connection (connection.hookAll hook) := by
  have hooked : ∀ (connection : Connection φ) (index : Nat),
      Heralds connection (hookFactory hook connection index) := by
    intro connection index
    unfold hookFactory
    split
    · exact .refl connection
    · exact (connection.record_heralds (.hooked index hook) nofun).trans
        (apply_call_heralds _ index _)
  unfold hookAll
  generalize List.range connection.factories.length = indices
  induction indices generalizing connection with
  | nil => exact .refl connection
  | cons index rest induction => exact (hooked connection index).trans (induction _)

/-! ### The life of a connection -/

theorem change_status_heralds (connection : Connection φ) (status : ConnectionStatus)
    (reason : StatusReason) : Heralds connection (connection.changeStatus status reason) := by
  have told : Heralds connection (({ connection with status, reason }).announceEvent
      (.statusChanged status.visible reason)) :=
    (heralds_of_acts rfl).trans (record_heralds _ _ nofun)
  unfold changeStatus
  dsimp only
  split
  · exact told.trans (hook_all_heralds _ _)
  · exact told

theorem begin_shutdown_heralds (connection : Connection φ) (reason : StatusReason) :
    Heralds connection (connection.beginShutdown reason) := by
  have told : Heralds connection
      (({ connection with status := .disconnected, reason }).announceEvent
        (.statusChanged .disconnected reason)) :=
    (heralds_of_acts rfl).trans (record_heralds _ _ nofun)
  have silenced : Heralds connection (connection.silenced reason) :=
    (told.trans (heralds_of_acts rfl)).trans (fail_heralds _ cancelled _)
  unfold beginShutdown
  dsimp only
  split
  · exact silenced
  · exact ((silenced.trans (hook_all_heralds _ _)).trans (hook_all_heralds _ _)).trans
      (record_heralds _ _ nofun)

omit [ChannelFactory φ] in
theorem end_shutdown_heralds (connection : Connection φ) (context : Context) :
    Heralds connection (connection.endShutdown context).1 := by
  have released : Heralds connection connection.releaseSelf := by
    unfold releaseSelf
    split
    · exact .refl connection
    · exact (heralds_of_acts rfl).trans (record_heralds _ _ nofun)
  have invalidated : Heralds connection.releaseSelf connection.releaseSelf.invalidateRepositories :=
    (heralds_of_acts rfl).trans (record_heralds _ _ nofun)
  have named : ∀ connection : Connection φ,
      Heralds connection (connection.releaseName context).1 := by
    intro connection
    unfold releaseName
    split
    · exact (heralds_of_acts rfl).trans (record_heralds _ _ nofun)
    · exact .refl connection
  have parted := (released.trans invalidated).trans (named _)
  exact (parted.trans (heralds_of_acts rfl)).trans (record_heralds _ _ nofun)

theorem shutdown_heralds (connection : Connection φ) (context : Context) (reason : StatusReason) :
    Heralds connection (connection.shutdown context reason).connection := by
  have begun := connection.begin_shutdown_heralds reason
  unfold shutdown
  split
  · exact .refl connection
  · dsimp only
    split
    · exact begun
    · exact begun.trans (end_shutdown_heralds _ context)

theorem connect_heralds (connection : Connection φ) (context : Context) :
    Heralds connection (connection.connect context).connection := by
  have asked : Heralds connection connection.attempting :=
    (connection.change_status_heralds .connecting .requested).trans (record_heralds _ _ nofun)
  have attempt := connection.connect_attempt context
  generalize connection.connect context = run at attempt ⊢
  cases attempt with
  | again answer old => exact .refl connection
  | waiting fresh => exact asked
  | abandoned fresh reason failure =>
      exact asked.trans (shutdown_heralds connection.attempting context reason)
  | established fresh reached interned =>
      exact asked.trans ((heralds_of_acts rfl).trans (change_status_heralds _ .connected .requested))

theorem prepare_heralds (connection : Connection φ) (context : Context) :
    Heralds connection (connection.prepare context).connection := by
  rw [(connection.prepare_as_connect context).1]
  exact connect_heralds connection context

end Factories

theorem on_repository_heralds {α : Type} (connection : Connection φ) (kind : HandleKind)
    (batch : Repository → Repository.Batch α) :
    Heralds connection (connection.onRepository kind batch).2 := by
  unfold onRepository
  split
  · exact .refl connection
  · exact .refl connection
  · exact heralds_of_acts rfl

variable [ChannelFactory φ] {Work : Repositories → Repositories → Prop} {context next : Context}
  {tokens : List Token}

/-- Every call but one for a channel. -/
theorem call_heralds (call : Call Work before context tokens after next) :
    Heralds before after ∨ ∃ request sender token,
      before.requestChannel request sender = .ok (token, after) := by
  cases call with
  | refused => exact .inl (.refl before)
  | addInterfaces _ added done =>
      unfold addInterfaces at done
      split at done
      · cases done
        exact .inl (heralds_of_acts rfl)
      · cases done
  | register _ done =>
      unfold register at done
      split at done
      · cases done
      · split at done
        · cases done
        · obtain ⟨_, _, rfl⟩ := Outcome.map_eq_ok.1 done
          exact .inl (heralds_of_acts rfl)
  | connect _ context completed => exact .inl (before.connect_heralds context)
  | prepare _ context completed => exact .inl (before.prepare_heralds context)
  | disconnect _ context completed => exact .inl (before.shutdown_heralds context _)
  | lose _ context failure completed => exact .inl (before.shutdown_heralds context _)
  | requestChannel _ request sender done => exact .inr ⟨request, sender, _, done⟩
  | withFactory _ index call worked done => exact .inl (with_factory_heralds done)
  | holdHandles _ _ kind handles client => exact .inl (before.on_repository_heralds kind _)
  | releaseHandles _ _ kind handles client => exact .inl (before.on_repository_heralds kind _)
  | requestHandles _ _ kind ids client => exact .inl (before.on_repository_heralds kind _)
  | clientVanished _ _ client =>
      unfold clientVanished
      split
      · exact .inl (.refl before)
      · exact .inl (heralds_of_acts rfl)
  | work _ _ repositories worked => exact .inl (heralds_of_acts rfl)

end Connection

end ConnectionManager
