import IntentService.Sessions

/-! # Requests that fail

A request that is answered with an error leaves nothing behind: no change, no
post, no open call. The one way around it is the launch token, an
`unsigned long` that `SAM::launch` returns as an `int` with `-1` for failure.
-/

namespace IntentService.Failure

open History JValueUtil

/-- The watches among the open calls. -/
def watches (live : List LiveCall) : List LiveCall :=
  live.filter (fun entry => entry.call.uri = registerServerStatus)

variable (setup : Setup)

/-- What a request that failed must leave alone. -/
structure Untouched (history : List Event) (e : Event) : Prop where
  intents : setup.intents (history ++ [e]) = setup.intents history
  handlers : (setup.service (history ++ [e])).handlers = (setup.service history).handlers
  account : (setup.service (history ++ [e])).account = (setup.service history).account
  watches : watches (setup.after (history ++ [e])).live = watches (setup.after history).live
  posts : posts (setup.effects history e) = []
  launches : ∀ call token, .call call (some token) ∈ setup.effects history e → call.callback ≠ .onLaunch

/-- A failed request has no effect, and a failed launch is one the bus rejected. -/
structure Effectless (history : List Event) (e : Event) : Prop where
  untouched : ∀ request payload, e.request? = some request →
    .respond request.id payload ∈ setup.effects history e →
    payload.get "returnValue" = .bool false → Untouched setup history e
  rejected : ∀ request bus payload, e = .start request bus →
    .respond request.id payload ∈ setup.effects history e →
    payload.get "errorText" = .string "Failed to start intent" →
    ∃ call, .call call none ∈ setup.effects history e ∧ call.callback = .onLaunch

/-- No launch call of the event is accepted with a token whose low 32 bits are all ones. -/
def NoSentinel (history : List Event) (e : Event) : Prop :=
  ∀ request bus session intent handler token, e = .start request bus →
    IntentManager.startTarget setup.enableSession (setup.service history) request =
      .ok (session, intent, handler) →
    bus.answer (session.sam.launchCall setup.enableSession intent handler) = some token →
    token.toNat % 2 ^ 32 ≠ 2 ^ 32 - 1

theorem toInt_eq_neg_one_iff (token : UInt64) : toInt token = -1 ↔ token.toNat % 2 ^ 32 = 2 ^ 32 - 1 := by
  have wrap : ∀ n : Nat, (n : Int).bmod (2 ^ 32) = -1 ↔ n % 2 ^ 32 = 2 ^ 32 - 1 := by
    intro n
    unfold Int.bmod
    dsimp only
    split <;> omega
  exact wrap token.toNat

/-! ## Effects that leave nothing behind -/

/-- Only replies and rejected calls. -/
def Silent (effects : List Effect) : Prop :=
  ∀ effect ∈ effects,
    (∃ request payload, effect = .respond request payload) ∨ ∃ call, effect = .call call none

theorem silent_respond (request : Nat) (payload : JValue) : Silent [.respond request payload] := by
  intro effect member
  exact .inl ⟨request, payload, List.mem_singleton.mp member⟩

theorem Silent.posts_eq {effects : List Effect} (silent : Silent effects) : posts effects = [] := by
  rw [posts, List.filterMap_eq_nil_iff]
  intro effect member
  rcases silent effect member with ⟨request, payload, rfl⟩ | ⟨call, rfl⟩ <;> rfl

theorem Silent.live_eq {effects : List Effect} (silent : Silent effects) (live : List LiveCall) :
    effects.foldl World.applyEffect live = live := by
  induction effects with
  | nil => rfl
  | cons effect rest ih =>
      have same : World.applyEffect live effect = live := by
        rcases silent effect List.mem_cons_self with ⟨request, payload, rfl⟩ | ⟨call, rfl⟩ <;> rfl
      rw [List.foldl_cons, same, ih (fun other member => silent other (List.mem_cons_of_mem _ member))]

/-! ## The replies of the four methods -/

theorem send_silent {self : Service} {request : Message} {effects : List Effect}
    (ended : SendOutcome self request effects) {payload : JValue}
    (reply : .respond request.id payload ∈ effects) (failed : payload.get "returnValue" = .bool false) :
    Silent effects := by
  cases ended with
  | refused => exact silent_respond _ _
  | answered =>
      cases List.mem_singleton.mp (respond_mem_post.mp reply)
      cases failed

theorem subscribe_silent {self after : Service} {request : Message} {effects : List Effect}
    (ended : SubscribeOutcome self request after effects) {payload : JValue}
    (reply : .respond request.id payload ∈ effects) (failed : payload.get "returnValue" = .bool false) :
    after = self ∧ Silent effects := by
  cases ended with
  | refused => exact ⟨rfl, silent_respond _ _⟩
  | joined =>
      cases List.mem_singleton.mp reply
      cases failed

/-- The launch of the request is accepted with a token that reads as the failure. -/
def Misread (enableSession : Bool) (bus : Bus) (self : Service) (request : Message) : Prop :=
  ∃ session intent handler token,
    IntentManager.startTarget enableSession self request = .ok (session, intent, handler) ∧
      bus.answer (session.sam.launchCall enableSession intent handler) = some token ∧ toInt token = -1

theorem started_reply {request : Message} {sessionId : String} {intent : Intent} {id : Nat} {payload : JValue}
    (reply : .respond id payload =
      IntentManager.done request (IntentManager.startedReply request sessionId intent) "") :
    payload.get "returnValue" = .bool true ∧ payload.get "errorText" = .invalid := by
  have shown := done_get reply (startedReply_isObject _ _ _)
  exact ⟨shown "returnValue", (shown "errorText").trans (startedReply_errorText _ _ _)⟩

theorem start_silent {enableSession : Bool} {bus : Bus} {self after : Service} {request : Message}
    {effects : List Effect} (ended : StartOutcome enableSession bus self request after effects)
    (clear : ¬ Misread enableSession bus self request) {payload : JValue}
    (reply : .respond request.id payload ∈ effects) (failed : payload.get "returnValue" = .bool false) :
    after = self.built ∧ Silent effects := by
  cases ended with
  | refused target => exact ⟨rfl, silent_respond _ _⟩
  | rejected target answer =>
      refine ⟨rfl, ?_⟩
      intro effect member
      rcases List.mem_cons.mp member with rfl | member
      · exact .inr ⟨_, rfl⟩
      · exact .inl ⟨_, _, List.mem_singleton.mp member⟩
  | sentinel target answer code => exact absurd ⟨_, _, _, _, target, answer, code⟩ clear
  | started target answer code record =>
      have last := List.mem_singleton.mp (respond_mem_call.mp (respond_mem_call.mp reply))
      rw [(started_reply last).1] at failed
      cases failed

theorem done_errorText {request : Message} {errorText text : String} {id : Nat} {payload : JValue}
    (reply : .respond id payload = IntentManager.done request .emptyObject errorText)
    (reported : payload.get "errorText" = .string text) : errorText = text := by
  rw [done_get reply rfl, if_neg (by decide)] at reported
  split at reported
  · exact JValue.string.inj reported
  · cases reported

theorem start_rejected {enableSession : Bool} {bus : Bus} {self after : Service} {request : Message}
    {effects : List Effect} (ended : StartOutcome enableSession bus self request after effects)
    (clear : ¬ Misread enableSession bus self request) {payload : JValue}
    (reply : .respond request.id payload ∈ effects)
    (reported : payload.get "errorText" = .string "Failed to start intent") :
    ∃ call, .call call none ∈ effects ∧ call.callback = .onLaunch := by
  cases ended with
  | refused target =>
      have text := done_errorText (List.mem_singleton.mp reply) reported
      exact absurd (text ▸ startTarget_errorText target) (by decide)
  | rejected target answer => exact ⟨_, .head _, rfl⟩
  | sentinel target answer code => exact absurd ⟨_, _, _, _, target, answer, code⟩ clear
  | started target answer code record =>
      have last := List.mem_singleton.mp (respond_mem_call.mp (respond_mem_call.mp reply))
      rw [(started_reply last).2] at reported
      cases reported

/-! ## The condition -/

variable {setup}

theorem untouched_of_silent {history : List Event} {e : Event} {request : Message}
    (asked : e.request? = some request) (silent : Silent (setup.effects history e))
    (same : (setup.service (history ++ [e])).intents = (setup.service history).intents ∧
      (setup.service (history ++ [e])).handlers = (setup.service history).handlers ∧
      (setup.service (history ++ [e])).account = (setup.service history).account) :
    Untouched setup history e where
  intents := same.1
  handlers := same.2.1
  account := same.2.2
  watches := by
    have received : World.receive (setup.after history).live e = (setup.after history).live := by
      cases e <;> first | rfl | cases asked
    rw [Setup.live_snoc, silent.live_eq, received]
  posts := silent.posts_eq
  launches := by
    intro call token member _
    rcases silent _ member with ⟨_, _, same⟩ | ⟨_, same⟩ <;> cases same

theorem NoSentinel.not_misread {history : List Event} {request : Message} {bus : Bus}
    (clear : NoSentinel setup history (.start request bus)) :
    ¬ Misread setup.enableSession bus (setup.service history) request := by
  rintro ⟨session, intent, handler, token, target, answer, code⟩
  exact clear request bus session intent handler token rfl target answer
    ((toInt_eq_neg_one_iff token).mp code)

theorem untouched_of_noSentinel {history : List Event} {e : Event} (clear : NoSentinel setup history e)
    {request : Message} {payload : JValue} (asked : e.request? = some request)
    (reply : .respond request.id payload ∈ setup.effects history e)
    (failed : payload.get "returnValue" = .bool false) : Untouched setup history e := by
  cases e with
  | query request =>
      obtain ⟨state, _, effects⟩ := query_eq setup.enableSession (setup.service history) request
      refine untouched_of_silent rfl ?_ ?_
      · rw [Setup.effects, Service.dispatch, effects]
        exact silent_respond _ _
      · rw [Setup.service_snoc, Service.dispatch, state]
        exact ⟨rfl, rfl, rfl⟩
  | start request bus =>
      cases asked
      obtain ⟨state, silent⟩ :=
        start_silent (start_outcome setup.enableSession bus (setup.service history) request)
          clear.not_misread reply failed
      refine untouched_of_silent rfl silent ?_
      rw [Setup.service_snoc, Service.dispatch, state]
      exact ⟨rfl, rfl, rfl⟩
  | sendResult request =>
      cases asked
      refine untouched_of_silent rfl (send_silent (send_outcome _ _) reply failed) ?_
      rw [Setup.service_snoc, Service.dispatch, send_state]
      exact ⟨rfl, rfl, rfl⟩
  | subscribeResult request =>
      cases asked
      obtain ⟨state, silent⟩ := subscribe_silent (subscribe_outcome _ _) reply failed
      refine untouched_of_silent rfl silent ?_
      rw [Setup.service_snoc, Service.dispatch, state]
      exact ⟨rfl, rfl, rfl⟩
  | onLaunch | ownerStatus | accountStatus | samStatus | onGetSessions | onListApps | disconnect =>
      cases asked

/-- A misread token leaves an accepted launch behind a reply that reports failure. -/
theorem misread_fails {enableSession : Bool} {bus : Bus} {self : Service} {request : Message}
    (misread : Misread enableSession bus self request) :
    ∃ call token payload, .call call (some token) ∈ (IntentManager.start enableSession bus self request).2 ∧
      call.callback = .onLaunch ∧
      .respond request.id payload ∈ (IntentManager.start enableSession bus self request).2 ∧
      payload.get "returnValue" = .bool false := by
  obtain ⟨session, intent, handler, token, target, answer, code⟩ := misread
  have effects : (IntentManager.start enableSession bus self request).2 =
      [.call (session.sam.launchCall enableSession intent handler) (some token),
        .respond request.id ((JValue.emptyObject.put "returnValue" (.bool false)).put "errorText"
          (.string "Failed to start intent"))] := by
    simp only [IntentManager.start, target, Sam.launch, answer, code, if_true]
    rfl
  rw [effects]
  exact ⟨_, token, _, .head _, rfl, .tail _ (.head _), rfl⟩

theorem effectless_iff (history : List Event) (e : Event) :
    Effectless setup history e ↔ NoSentinel setup history e := by
  constructor
  · rintro effectless request bus session intent handler token rfl target answer ones
    have code := (toInt_eq_neg_one_iff token).mpr ones
    obtain ⟨call, accepted, payload, launch, own, reply, failed⟩ :=
      misread_fails ⟨session, intent, handler, token, target, answer, code⟩
    exact (effectless.untouched request payload rfl reply failed).launches call accepted launch own
  · intro clear
    refine ⟨fun request payload asked reply failed => untouched_of_noSentinel clear asked reply failed, ?_⟩
    rintro request bus payload rfl reply reported
    exact start_rejected (start_outcome setup.enableSession bus (setup.service history) request)
      clear.not_misread reply reported

variable (setup)

/-- Requests that fail have no effect, and launches that are reported as failed
    were rejected, along exactly the runs in which no launch is accepted with a
    token whose low 32 bits are all ones. -/
theorem failed_requests_effectless_iff (history : List Event) :
    Historically (Effectless setup) history ↔ Historically (NoSentinel setup) history :=
  historically_congr effectless_iff

/-- The application is launched and the client is told that it was not. -/
theorem narrowed_token_reported_as_failure :
    ¬ Historically (Effectless Sample.host)
      [Sample.up, Sample.listed,
        .start (Sample.starting 1 "client" "viewer" []) (Sample.bus 4294967295 20 (by decide))] := by
  intro effectless
  have last := effectless [_, _] _ [] rfl
  have untouched := last.untouched _ _ rfl (.tail _ (.head _)) rfl
  exact untouched.launches _ _ (.head _) rfl

end IntentService.Failure
