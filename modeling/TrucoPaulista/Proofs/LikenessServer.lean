import TrucoPaulista.Proofs.LikenessHall
import TrucoPaulista.Proofs.Visits
import TrucoPaulista.Web.Router

namespace TrucoPaulista

open HasRepository

instance : HasRepository @Server where
  archive server := archive server.hall
  upon server archive := { server with hall := upon server.hall archive }
  archive_upon _ _ := rfl
  upon_archive _ := rfl

/-- Whether two answers are the same, where a refusal is what a client is told of it. -/
def SameTold {α : Type} (answer answer' : Except Refusal α) : Prop :=
  answer.mapError Refusal.notice = answer'.mapError Refusal.notice

/-- Whether an answer is a refusal of which a client is told this. -/
def IsRefusedWith {α : Type} (notice : Notice) (answer : Except Refusal α) : Prop :=
  ∃ refusal, answer = .error refusal ∧ refusal.notice = notice

namespace Likeness

section Replies

variable {ρ ρ' τ τ' σ σ' β : Type} {like : Likeness ρ ρ'}

/-- Whether two steps come to the same as far as it is told, or the first one to what is told of a failure
that ends the comparison. -/
inductive Replies (like : Likeness ρ ρ') (states : τ → τ' → Prop) (same : β → β → Prop)
    (tells : Notice → β × τ → Prop) : β × τ → β × τ' → Prop where
  | told {reply reply' : β} {t : τ} {t' : τ'} (alike : same reply reply') (after : states t t') :
      Replies like states same tells (reply, t) (reply', t')
  | ended {failure : ArchiveError} {first : β × τ} {second : β × τ'} (ends : like.ends failure)
      (told : tells (Refusal.archive failure).notice first) : Replies like states same tells first second

variable {states : τ → τ' → Prop} {same : β → β → Prop}

theorem Replies.mono {tells tells' : Notice → β × τ → Prop} {first : β × τ} {second : β × τ'}
    (replies : like.Replies states same tells first second)
    (more : ∀ notice outcome, tells notice outcome → tells' notice outcome) :
    like.Replies states same tells' first second := by
  cases replies with
  | told alike after => exact .told alike after
  | ended ends told => exact .ended ends (more _ _ told)

/-- A failure that ends the comparison is told, or else two steps come to the same. -/
theorem Replies.told_or_ended {tells : Notice → β × τ → Prop} {first : β × τ} {second : β × τ'}
    (replies : like.Replies states same tells first second) :
    (∃ failure, like.ends failure ∧ tells (Refusal.archive failure).notice first) ∨
      same first.1 second.1 ∧ states first.2 second.2 := by
  cases replies with
  | told alike after => exact Or.inr ⟨alike, after⟩
  | ended ends told => exact Or.inl ⟨_, ends, told⟩

theorem Replies.within {part : σ → σ' → Prop} {tells : Notice → β → Prop} {first : β × σ}
    {second : β × σ'}
    (replies : like.Replies part same (fun notice outcome => tells notice outcome.1) first second)
    (place : σ → τ) (place' : σ' → τ') (places : ∀ s s', part s s' → states (place s) (place' s')) :
    like.Replies states same (fun notice outcome => tells notice outcome.1)
      (first.1, place first.2) (second.1, place' second.2) := by
  cases replies with
  | told alike after => exact .told alike (places _ _ after)
  | ended ends told => exact .ended ends told

variable [Repository ρ] [Repository ρ']

theorem Discreet.notice_eq (discreet : like.Discreet) {refusal refusal' : Refusal}
    (told : like.Refusals refusal refusal') : refusal.notice = refusal'.notice := by
  cases told with
  | same => rfl
  | archive told => exact discreet.notice _ _ told

theorem Outcomes.replies {α : Type} {first : Except Refusal α × τ} {second : Except Refusal α × τ'}
    (outcomes : like.Outcomes states first second) (discreet : like.Discreet) :
    like.Replies states SameTold (fun notice outcome => IsRefusedWith notice outcome.1) first second := by
  cases outcomes with
  | answered answer after => exact .told rfl after
  | refused told after => exact .told (congrArg Except.error (discreet.notice_eq told)) after
  | ended ends => exact .ended ends ⟨_, rfl, rfl⟩

end Replies

/-- Halls that are the same are the same in servers that are. -/
theorem states_inServer {ρ ρ' : Type} {like : Likeness ρ ρ'} (server : Server ρ) (archive : ρ')
    (hall : Hall ρ) (hall' : Hall ρ') (states : like.States hall hall') :
    like.States { server with hall } { upon server archive with hall := hall' } := by
  obtain ⟨archive', alike, rfl⟩ := states
  exact ⟨archive', alike, rfl⟩

end Likeness

namespace Server

open Likeness

theorem blind_collect (connection : ConnectionId) :
    Blind (fun ρ [Repository ρ] (server : Server ρ) => server.collect connection) := by
  intro ρ ρ' _ _ server archive
  simp only [collect, upon]
  split
  next => rfl
  next visitor _ =>
    simp only [Floor.drain]
    split <;> rfl

variable {ρ ρ' : Type} [Repository ρ] [Repository ρ'] {like : Likeness ρ ρ'} {server : Server ρ}
  {server' : Server ρ'} (discreet : like.Discreet)

include discreet

/-- A command comes to the same on servers that are the same but for their repositories. -/
theorem steps_perform (states : like.States server server') (connection : ConnectionId)
    (visitor : Visitor) (command : Command) :
    like.Steps like.States (server.perform connection visitor command)
      (server'.perform connection visitor command) := by
  obtain ⟨archive', _, rfl⟩ := states
  have known : like.Steps like.States (requireToken visitor : Action (Hall ρ) _ _)
      (requireToken visitor : Action (Hall ρ') _ _) := by
    unfold requireToken
    split
    next token _ => exact steps_pure token
    next => exact steps_throw _
  cases command with
  | createMatch points =>
    exact (Hall.steps_createMatch discreet _).bind fun matchId => steps_pure _
  | joinMatch text =>
    exact known.bind fun token => (Hall.steps_join connection discreet text token _).bind fun _ =>
      steps_pure _
  | setReady ready =>
    exact known.bind fun _ => (Hall.steps_setReady connection discreet ready).bind fun _ =>
      steps_pure _
  | startHand text vira =>
    exact known.bind fun _ => (steps_ofExcept _).bind fun vira =>
      (Hall.steps_startHand connection discreet text vira).bind fun _ => steps_pure _
  | playCard text words =>
    exact known.bind fun _ => (steps_ofExcept _).bind fun card =>
      (Hall.steps_playCard connection discreet text card).bind fun _ => steps_pure _
  | getState text => exact (Hall.steps_viewState discreet text).bind fun _ => steps_pure _

theorem outcomes_createMatch (states : like.States server server') (points : Option Int64) :
    like.Outcomes like.States (server.createMatch points) (server'.createMatch points) := by
  obtain ⟨archive', alike, rfl⟩ := states
  have outcomes := (Hall.steps_createMatch discreet (server.pointsOr points) server.hall
    (upon server.hall archive') ⟨archive', alike, rfl⟩).within _ _ (states_inServer server archive')
  unfold createMatch
  exact outcomes

theorem outcomes_viewState (states : like.States server server') (text : String) :
    like.Outcomes like.States (server.viewState text) (server'.viewState text) := by
  obtain ⟨archive', alike, rfl⟩ := states
  have outcomes := (Hall.steps_viewState discreet text server.hall
    (upon server.hall archive') ⟨archive', alike, rfl⟩).within _ _ (states_inServer server archive')
  unfold viewState
  revert outcomes
  dsimp only
  generalize (Hall.viewState text).apply server.hall = outcome,
    (Hall.viewState text).apply (upon server archive').hall = outcome'
  exact id

/-- A text is answered alike by servers that are the same but for their repositories, or with what is
told of a failure that ends the comparison. -/
theorem replies_answer (states : like.States server server') (connection : ConnectionId)
    (visitor : Visitor) (content : String) :
    like.Replies like.States Eq (fun notice outcome => outcome.1 = some (.error notice.message))
      (server.answer connection visitor content) (server'.answer connection visitor content) := by
  unfold answer
  split
  next => exact .told rfl states
  next command _ =>
    have steps := steps_perform discreet states connection visitor command
    obtain ⟨archive', alike, rfl⟩ := states
    have outcomes := (steps server.hall (upon server.hall archive') ⟨archive', alike, rfl⟩).within _ _
      (states_inServer server archive')
    revert outcomes
    dsimp only
    rcases (server.perform connection visitor command).apply server.hall with ⟨outcome, hall⟩
    rcases ((upon server archive').perform connection visitor command).apply
      (upon server archive').hall with ⟨outcome', hall'⟩
    intro outcomes
    cases outcomes with
    | answered reply after => exact .told rfl after
    | refused told after =>
      have message := congrArg Notice.message (discreet.notice_eq told)
      exact .told (congrArg (fun words => some (Event.error words)) message) after
    | ended ends => exact .ended ends rfl

omit discreet in
theorem states_reply (states : like.States server server') (visitor : Visitor) (event : Event) :
    like.States (server.reply visitor event) (server'.reply visitor event) :=
  states_update (fun _ _ server => server.reply visitor event) (fun _ _ _ _ _ _ => rfl) states

omit discreet in
theorem states_charge (states : like.States server server') (connection : ConnectionId)
    (visitor : Visitor) (limiter : RateLimiter) :
    like.States (server.charge connection visitor limiter) (server'.charge connection visitor limiter) :=
  states_update (fun _ _ server => server.charge connection visitor limiter)
    (fun _ _ _ _ _ _ => rfl) states

theorem states_disconnect (never : ∀ failure, ¬ like.ends failure)
    (states : like.States server server') (connection : ConnectionId) :
    like.States (server.disconnect connection) (server'.disconnect connection) := by
  obtain ⟨archive', alike, rfl⟩ := states
  have visitors : (upon server archive').visitors = server.visitors := rfl
  unfold disconnect
  rw [visitors]
  split
  next => exact ⟨archive', alike, rfl⟩
  next visitor _ =>
    have halls : like.States server.hall (upon server archive').hall := ⟨archive', alike, rfl⟩
    obtain ⟨_, archive'', alike, same⟩ := Hall.states_leave connection discreet never halls
    dsimp only
    rw [same]
    exact ⟨archive'', alike, rfl⟩

/-- The server once a visitor has been told the reply to a command, if there is one. -/
def passOn {ρ : Type} (visitor : Visitor) (outcome : Option Event × Server ρ) : Server ρ :=
  match outcome.1 with
  | some event => outcome.2.reply visitor event
  | none => outcome.2

omit discreet in
theorem replies_passOn (visitor : Visitor) {outcome : Option Event × Server ρ}
    {outcome' : Option Event × Server ρ'} (replies : like.Replies like.States Eq
      (fun notice outcome => outcome.1 = some (.error notice.message)) outcome outcome') :
    like.Replies like.States Eq (fun notice (outcome : Unit × Server ρ) =>
        ∃ mid : Server ρ, outcome.2 = mid.reply visitor (.error notice.message))
      ((), passOn visitor outcome) ((), passOn visitor outcome') := by
  cases replies with
  | @told reply _ _ _ same after =>
    subst same
    cases reply with
    | none => exact .told rfl after
    | some event => exact .told rfl (states_reply after visitor event)
  | ended ends told =>
    refine .ended ends ⟨outcome.2, ?_⟩
    dsimp only
    rw [passOn, told]

/-- A frame is replied to alike by servers that are the same but for their repositories, or with what is
told of a failure that ends the comparison. A ping gets no such reply, so no failure may end it
there. -/
theorem replies_receive (states : like.States server server') (connection : ConnectionId) (now : Nat)
    (frame : Frame) (stays : (∀ failure, ¬ like.ends failure) ∨ ∀ data, frame ≠ .ping data) :
    like.Replies like.States Eq (fun notice (outcome : Unit × Server ρ) =>
        ∃ visitor, server.visitors.get? connection = some visitor ∧
          ∃ mid : Server ρ, outcome.2 = mid.reply visitor (.error notice.message))
      ((), server.receive connection now frame) ((), server'.receive connection now frame) := by
  have visitors : server'.visitors = server.visitors := by
    obtain ⟨_, _, rfl⟩ := states
    rfl
  unfold receive
  rw [visitors]
  split
  next => exact .told rfl states
  next visitor found =>
    cases frame with
    | ping data =>
      dsimp only
      split
      next => exact .told rfl states
      next =>
        rcases stays with never | other
        · exact .told rfl (states_disconnect discreet never states connection)
        · exact absurd rfl (other data)
    | binary => exact .told rfl (states_reply states visitor malformed)
    | text content =>
      have charged := states_charge states connection visitor (visitor.limiter.check now).2
      unfold charge at charged
      rw [visitors] at charged
      generalize visitor.limiter.check now = checked at charged ⊢
      rcases checked with ⟨limit | _, limiter⟩
      · exact .told rfl (states_reply charged visitor (.error limit.message))
      · exact (replies_passOn visitor
          (replies_answer discreet charged connection visitor content)).mono fun _ _ told =>
            ⟨visitor, found, told⟩

end Server

namespace HttpResponse

/-- The response that tells of a refusal. -/
def ofNotice (notice : Notice) : HttpResponse :=
  ofJson notice.status (.obj [("error", .str notice.message)])

/-- Whether a response tells of a refusal. Who asks for the headers only is told the status. -/
def Tells (request : HttpRequest) (notice : Notice) (response : HttpResponse) : Prop :=
  response.status = notice.status ∧
    response.body = if request.method = "HEAD" then .empty else (ofNotice notice).body

end HttpResponse

namespace Web

open Likeness

theorem blind_health (stamp : Stamp) :
    Blind (fun ρ [Repository ρ] (server : Server ρ) => health server stamp) :=
  fun _ _ _ _ _ _ => rfl

theorem blind_connect (request : HttpRequest) (connection : ConnectionId) :
    Blind (fun ρ [Repository ρ] (server : Server ρ) => connect server connection request) := by
  intro ρ ρ' _ _ server archive
  simp only [connect]
  split <;> rfl

/-- What becomes of an answer: a response that shows it, and a change of the server. -/
def respondTo {α ρ : Type} (view : α → HttpResponse) (update : Server ρ → Server ρ) :
    Except Refusal α × Server ρ → HttpResponse × Server ρ
  | (.ok answer, server) => (view answer, update server)
  | (.error refusal, server) => (.ofRefusal refusal, server)

section Responses

variable {ρ : Type} [Repository ρ] {server : Server ρ}

theorem createMatch_eq (request : HttpRequest) {points : Option Int64}
    (read : readPoints request = .ok points) :
    createMatch server request = respondTo
      (fun matchId => .ofJson Status.created (.obj [("matchId", .str matchId)]))
      (fun server => server.activeMatches.2) (server.createMatch points) := by
  simp only [createMatch, read]
  rcases server.createMatch points with ⟨_ | _, _⟩ <;> rfl

theorem showMatch_eq {segment text : String} (read : Percent.decodeText? segment = some text) :
    showMatch server segment =
      respondTo (fun view => .ofJson Status.ok view.toJson) id (server.viewState text) := by
  simp only [showMatch, read]
  rcases server.viewState text with ⟨_ | _, _⟩ <;> rfl

end Responses

variable {ρ ρ' : Type} [Repository ρ] [Repository ρ'] {like : Likeness ρ ρ'} {server : Server ρ}
  {server' : Server ρ'} (discreet : like.Discreet) (request : HttpRequest) (stamp : Stamp)

include discreet

theorem replies_respondTo {α : Type} {first : Except Refusal α × Server ρ}
    {second : Except Refusal α × Server ρ'} (outcomes : like.Outcomes like.States first second)
    (view : α → HttpResponse) (update : ∀ (ρ : Type) [Repository ρ], Server ρ → Server ρ)
    (blind : ∀ (ρ ρ' : Type) [Repository ρ] [Repository ρ'] (server : Server ρ) (archive : ρ'),
      update ρ' (upon server archive) = upon (update ρ server) archive) :
    like.Replies like.States Eq (fun notice outcome => outcome.1 = .ofNotice notice)
      (respondTo view (update ρ) first) (respondTo view (update ρ') second) := by
  cases outcomes with
  | answered answer after => exact .told rfl (states_update update blind after)
  | refused told after =>
    exact .told (congrArg HttpResponse.ofNotice (discreet.notice_eq told)) after
  | ended ends => exact .ended ends rfl

theorem replies_createMatch (states : like.States server server') :
    like.Replies like.States Eq (fun notice outcome => outcome.1 = .ofNotice notice)
      (createMatch server request) (createMatch server' request) := by
  cases read : readPoints request with
  | error refusal =>
    simp only [createMatch, read]
    exact .told rfl states
  | ok points =>
    rw [createMatch_eq request read, createMatch_eq request read]
    exact replies_respondTo discreet (Server.outcomes_createMatch discreet states points) _
      (fun _ _ server => server.activeMatches.2) fun _ _ _ _ _ _ => rfl

theorem replies_showMatch (states : like.States server server') (segment : String) :
    like.Replies like.States Eq (fun notice outcome => outcome.1 = .ofNotice notice)
      (showMatch server segment) (showMatch server' segment) := by
  cases read : Percent.decodeText? segment with
  | none =>
    simp only [showMatch, read]
    exact .told rfl states
  | some text =>
    rw [showMatch_eq read, showMatch_eq read]
    exact replies_respondTo discreet (Server.outcomes_viewState discreet states text) _
      (fun _ _ => id) fun _ _ _ _ _ _ => rfl

theorem replies_serve (states : like.States server server') (route : Route) :
    like.Replies like.States Eq (fun notice outcome => outcome.1 = .ofNotice notice)
      (serve server route request stamp) (serve server' route request stamp) := by
  cases route with
  | health =>
    obtain ⟨same, after⟩ := states_blind (blind_health stamp) states
    exact .told same after
  | socket =>
    unfold serve
    dsimp only
    cases Upgrade.token request false <;> exact .told rfl states
  | allMatches => exact replies_createMatch discreet request states
  | oneMatch segment => exact replies_showMatch discreet states segment

theorem replies_dispatch (states : like.States server server') :
    like.Replies like.States Eq (fun notice outcome => outcome.1.Tells request notice)
      (dispatch server request stamp) (dispatch server' request stamp) := by
  unfold dispatch
  cases Route.ofPath? request.path with
  | none => exact .told rfl states
  | some route =>
    dsimp only
    split
    next =>
      have replies := replies_serve discreet request stamp states route
      revert replies
      rcases serve server route request stamp with ⟨response, mid⟩
      rcases serve server' route request stamp with ⟨response', mid'⟩
      intro replies
      cases replies with
      | told same after => exact .told (by rw [same]) after
      | ended ends told =>
        refine .ended ends ?_
        dsimp only at told ⊢
        rw [told, HttpResponse.Tells]
        split <;> exact ⟨rfl, rfl⟩
    next => exact .told rfl states

theorem replies_respond (states : like.States server server') :
    like.Replies like.States Eq (fun notice outcome => outcome.1.Tells request notice)
      (respond server request stamp) (respond server' request stamp) := by
  unfold respond
  split
  next => exact .told rfl states
  next =>
    have replies := replies_dispatch discreet request stamp states
    revert replies
    rcases dispatch server request stamp with ⟨response, mid⟩
    rcases dispatch server' request stamp with ⟨response', mid'⟩
    intro replies
    cases replies with
    | told same after => exact .told (by rw [same]) after
    | ended ends told => exact .ended ends told

end Web

end TrucoPaulista
