import TrucoPaulista.Proofs.Calls
import TrucoPaulista.Proofs.Failures
import TrucoPaulista.Proofs.Ledger
import TrucoPaulista.Proofs.LikenessServer

namespace TrucoPaulista

open HasRepository

namespace Call

/-- Whether two answers to a call are the same as far as they are told. -/
def SameTold {α : Type} : Call α → α → α → Prop
  | createMatch _, answer, answer' => TrucoPaulista.SameTold answer answer'
  | join _ _ _ _, answer, answer' => TrucoPaulista.SameTold answer answer'
  | setReady _ _, answer, answer' => TrucoPaulista.SameTold answer answer'
  | startHand _ _ _, answer, answer' => TrucoPaulista.SameTold answer answer'
  | playCard _ _ _, answer, answer' => TrucoPaulista.SameTold answer answer'
  | viewState _, answer, answer' => TrucoPaulista.SameTold answer answer'
  | leave _, left, left' => left = left'
  | activeMatches, count, count' => count = count'

/-- Whether the answer to a call is a refusal of which a client is told this. -/
def IsRefusedWith {α : Type} (notice : Notice) : Call α → α → Prop
  | createMatch _, answer => TrucoPaulista.IsRefusedWith notice answer
  | join _ _ _ _, answer => TrucoPaulista.IsRefusedWith notice answer
  | setReady _ _, answer => TrucoPaulista.IsRefusedWith notice answer
  | startHand _ _ _, answer => TrucoPaulista.IsRefusedWith notice answer
  | playCard _ _ _, answer => TrucoPaulista.IsRefusedWith notice answer
  | viewState _, answer => TrucoPaulista.IsRefusedWith notice answer
  | leave _, _ => False
  | activeMatches, _ => False

/-- Whether a connection goes by a call. -/
def leaves {α : Type} : Call α → Bool
  | leave _ => true
  | _ => false

end Call

section Calls

variable {ρ ρ' α : Type} [Repository ρ] [Repository ρ'] {like : Likeness ρ ρ'}
  (discreet : like.Discreet)

include discreet

theorem Service.steps_call (call : Service.Call α) :
    like.Steps like.alike call.step call.step := by
  cases call with
  | createMatch points => exact steps_createMatch discreet points
  | startHand text vira => exact steps_startHand discreet text vira
  | playCard text side card => exact steps_playCard discreet text side card
  | viewState text => exact steps_viewState discreet text
  | doesExist text => exact steps_doesExist discreet text

/-- A call comes to the same, or to what is told of a failure that ends the comparison. A connection
that goes is told of none, so no failure may end it there. -/
theorem Hall.replies_perform {hall : Hall ρ} {hall' : Hall ρ'} (states : like.States hall hall')
    (call : Call α) (stays : (∀ failure, ¬ like.ends failure) ∨ call.leaves = false) :
    like.Replies like.States call.SameTold (fun notice outcome => call.IsRefusedWith notice outcome.1)
      (hall.perform call) (hall'.perform call) := by
  cases call with
  | createMatch points =>
    rw [perform, perform]
    exact (steps_createMatch discreet points hall hall' states).replies discreet
  | join text connection token queue =>
    rw [perform, perform]
    exact (steps_join connection discreet text token queue hall hall' states).replies discreet
  | setReady connection ready =>
    rw [perform, perform]
    exact (steps_setReady connection discreet ready hall hall' states).replies discreet
  | startHand connection text vira =>
    rw [perform, perform]
    exact (steps_startHand connection discreet text vira hall hall' states).replies discreet
  | playCard connection text card =>
    rw [perform, perform]
    exact (steps_playCard connection discreet text card hall hall' states).replies discreet
  | viewState text =>
    rw [perform, perform]
    exact (steps_viewState discreet text hall hall' states).replies discreet
  | leave connection =>
    rcases stays with never | stays
    · obtain ⟨same, after⟩ := states_leave connection discreet never states
      exact .told same after
    · cases stays
  | activeMatches =>
    obtain ⟨same, after⟩ := Likeness.states_blind blind_activeMatches states
    exact .told same after

end Calls

namespace Server

open Likeness

/-- What is done at a server, by the kind of what is told of it at once: calls of the service and of the
hall, requests, and what goes on over lasting connections. -/
inductive Deed : Type → Type 1 where
  | service {α : Type} (call : Service.Call α) : Deed (Except Refusal α)
  | hall {α : Type} (call : Call α) : Deed α
  | http (request : HttpRequest) (stamp : Stamp) : Deed HttpResponse
  | connect (connection : ConnectionId) (request : HttpRequest) : Deed HttpResponse
  | receive (connection : ConnectionId) (now : Nat) (frame : Frame) : Deed Unit
  | disconnect (connection : ConnectionId) : Deed Unit
  | collect (connection : ConnectionId) : Deed (List Event)
  | openQueue (capacity : Nat) : Deed QueueId
  | drain (queue : QueueId) : Deed (List Event)
  | hangUp (queue : QueueId) : Deed Unit

/-- What comes of a deed. -/
def act {ρ α : Type} [Repository ρ] (server : Server ρ) : Deed α → α × Server ρ
  | .service call =>
    let (answer, archive) := call.step.apply server.hall.floor.archive
    (answer, upon server archive)
  | .hall call =>
    let (answer, hall) := server.hall.perform call
    (answer, { server with hall })
  | .http request stamp => Web.respond server request stamp
  | .connect connection request => Web.connect server connection request
  | .receive connection now frame => ((), server.receive connection now frame)
  | .disconnect connection => ((), server.disconnect connection)
  | .collect connection => server.collect connection
  | .openQueue capacity =>
    let (queue, floor) := server.hall.floor.openQueue capacity
    (queue, server.onFloor floor)
  | .drain queue =>
    let (events, floor) := server.hall.floor.drain queue
    (events, server.onFloor floor)
  | .hangUp queue => ((), server.onFloor (server.hall.floor.hangUp queue))

/-- The server after deeds that come one after the other. -/
def after {ρ : Type} [Repository ρ] (server : Server ρ) (deeds : List (Sigma Deed)) : Server ρ :=
  deeds.foldl (fun server deed => (server.act deed.2).2) server

namespace Deed

/-- Whether two outcomes of a deed are the same as far as they are told. -/
def SameTold {α : Type} : Deed α → α → α → Prop
  | service _, answer, answer' => TrucoPaulista.SameTold answer answer'
  | hall call, answer, answer' => call.SameTold answer answer'
  | _, answer, answer' => answer = answer'

/-- Whether a refusal is what a client is told of a deed: in the answer of a call, in a response, or in an
event over a lasting connection. -/
def Tells {ρ α : Type} (server : Server ρ) (notice : Notice) : Deed α → α × Server ρ → Prop
  | service _, outcome => IsRefusedWith notice outcome.1
  | hall call, outcome => call.IsRefusedWith notice outcome.1
  | http request _, outcome => outcome.1.Tells request notice
  | receive connection _ _, outcome =>
    ∃ visitor, server.visitors.get? connection = some visitor ∧
      ∃ mid : Server ρ, outcome.2 = mid.reply visitor (.error notice.message)
  | _, _ => False

/-- Whether a connection may go by a deed, of which it is told nothing. -/
def leaves {α : Type} : Deed α → Bool
  | hall call => call.leaves
  | receive _ _ (.ping _) => true
  | disconnect _ => true
  | _ => false

end Deed

section Deeds

theorem blind_drain (queue : QueueId) :
    Blind (fun ρ [Repository ρ] (server : Server ρ) => server.act (.drain queue)) := by
  intro ρ ρ' _ _ server archive
  simp only [act, Floor.drain, upon]
  split <;> rfl

variable {ρ ρ' α : Type} [Repository ρ] [Repository ρ'] {like : Likeness ρ ρ'}
  (discreet : like.Discreet) {server : Server ρ} {server' : Server ρ'}

include discreet

theorem replies_service (states : like.States server server') (call : Service.Call α) :
    like.Replies like.States TrucoPaulista.SameTold (fun notice outcome => IsRefusedWith notice outcome.1)
      (server.act (.service call)) (server'.act (.service call)) := by
  obtain ⟨archive', alike, rfl⟩ := states
  have outcomes := Service.steps_call discreet call server.hall.floor.archive archive' alike
  have placed : ∀ r r', like.alike r r' →
      like.States (upon server r) (upon (upon server archive') r') :=
    fun _ r' alike => ⟨r', alike, rfl⟩
  exact (outcomes.within _ _ placed).replies discreet

/-- A call on the hall of a server is told as it is in the hall. -/
theorem replies_hall (states : like.States server server') (call : Call α)
    (stays : (∀ failure, ¬ like.ends failure) ∨ call.leaves = false) :
    like.Replies like.States call.SameTold (fun notice outcome => call.IsRefusedWith notice outcome.1)
      (server.act (.hall call)) (server'.act (.hall call)) := by
  obtain ⟨archive', alike, rfl⟩ := states
  have halls : like.States server.hall (upon server archive').hall := ⟨archive', alike, rfl⟩
  exact (Hall.replies_perform discreet halls call stays).within _ _ (states_inServer server archive')

theorem replies_act (states : like.States server server') (deed : Deed α)
    (stays : (∀ failure, ¬ like.ends failure) ∨ deed.leaves = false) :
    like.Replies like.States deed.SameTold (deed.Tells server) (server.act deed) (server'.act deed) := by
  cases deed with
  | service call => exact replies_service discreet states call
  | hall call => exact replies_hall discreet states call stays
  | http request stamp => exact Web.replies_respond discreet request stamp states
  | connect connection request =>
    obtain ⟨same, after⟩ := states_blind (Web.blind_connect request connection) states
    exact .told same after
  | receive connection now frame =>
    refine replies_receive discreet states connection now frame (stays.imp_right ?_)
    rintro stays data rfl
    cases stays
  | disconnect connection =>
    rcases stays with never | stays
    · exact .told rfl (states_disconnect discreet never states connection)
    · cases stays
  | collect connection =>
    obtain ⟨same, after⟩ := states_blind (blind_collect connection) states
    exact .told same after
  | openQueue capacity =>
    exact .told (by obtain ⟨_, _, rfl⟩ := states; rfl)
      (states_update (fun _ _ server => (server.act (.openQueue capacity)).2)
        (fun _ _ _ _ _ _ => rfl) states)
  | drain queue =>
    obtain ⟨same, after⟩ := states_blind (blind_drain queue) states
    exact .told same after
  | hangUp queue =>
    exact .told rfl
      (states_update (fun _ _ server => (server.act (.hangUp queue)).2) (fun _ _ _ _ _ _ => rfl) states)

section Runs

variable (never : ∀ failure, ¬ like.ends failure)

include never

/-- A step of the comparison, where no failure ends it: a deed comes to the same in both runs. -/
theorem act_of_never (states : like.States server server') (deed : Deed α) :
    deed.SameTold (server.act deed).1 (server'.act deed).1 ∧
      like.States (server.act deed).2 (server'.act deed).2 :=
  (replies_act discreet states deed (Or.inl never)).told_or_ended.resolve_left
    fun ⟨_, ends, _⟩ => never _ ends

/-- The comparison of whole runs, deed by deed. -/
theorem states_after (states : like.States server server') (deeds : List (Sigma Deed)) :
    like.States (server.after deeds) (server'.after deeds) := by
  induction deeds generalizing server server' with
  | nil => exact states
  | cons deed rest ih => exact ih (act_of_never discreet never states deed.2).2

end Runs

end Deeds

/-- Over any two repositories that do the same but fail in different ways at the same calls, and never by
not finding a match, players are told the same, and the same becomes of everything but the repositories,
which still do the same and in which the same matches are found. A failure either does not show, so that
all is as it would be over a repository that answers instead, or it is told as one of the server, with
nothing more said. Only who leaves is told of none. -/
theorem failures_look_alike {ρ ρ' : Type} [Repository ρ] [Repository ρ'] {alike : ρ → ρ' → Prop}
    (kept : (failing alike).Kept) {server : Server ρ} {archive' : ρ'}
    (begins : alike server.hall.floor.archive archive') (deeds : List (Sigma Deed)) :
    (∃ archive'', alike (server.after deeds).hall.floor.archive archive'' ∧
      (upon server archive').after deeds = upon (server.after deeds) archive'' ∧
      ∀ matchId, (failing alike).Answers
        (Repository.find (server.after deeds).hall.floor.archive matchId)
        (Repository.find archive'' matchId)) ∧
    ∀ {α : Type} (deed : Deed α),
      deed.SameTold ((server.after deeds).act deed).1 (((upon server archive').after deeds).act deed).1 ∧
      (deed.leaves = false → ∀ {σ : Type} [Repository σ] (mends : ρ → σ → Prop), (mended mends).Kept →
        ∀ answering, mends (server.after deeds).hall.floor.archive answering →
        deed.Tells (server.after deeds) ⟨"Internal server error", 500⟩ ((server.after deeds).act deed) ∨
        deed.SameTold ((server.after deeds).act deed).1
            ((upon (server.after deeds) answering).act deed).1 ∧
          (mended mends).States ((server.after deeds).act deed).2
            ((upon (server.after deeds) answering).act deed).2) := by
  have discreet := discreet_failing kept
  have states : (failing alike).States server (upon server archive') := ⟨archive', begins, rfl⟩
  have after := states_after discreet (fun _ => id) states deeds
  refine ⟨?_, fun deed => ⟨?_, ?_⟩⟩
  · obtain ⟨archive'', alike, same⟩ := after
    exact ⟨archive'', alike, same, kept.find _ _ alike⟩
  · exact (act_of_never discreet (fun _ => id) after deed).1
  · intro stays σ _ mends kept answering mending
    have replies := replies_act (discreet_mended kept) ⟨answering, mending, rfl⟩ deed (Or.inr stays)
    rcases replies.told_or_ended with ⟨failure, hidden, told⟩ | same
    · rw [ArchiveError.IsHidden.notice hidden] at told
      exact Or.inl told
    · exact Or.inr same

/-- A match is created, but one repository says that this took too long and the other one that it could
not read the match. Who asked for it is told of neither, and the match is there. -/
theorem failures_look_alike_late :
    let first : Server (Faulty Archive) := .founded (.losing 0 (.timeout 5)) 12 ⟨fun _ => .four, 0⟩
    let second := upon first (Faulty.losing 0 (.snapshot .roundFinished))
    let create : Deed HttpResponse := .http ⟨"POST", "/api/v1/matches",
      [("content-type", "application/json")], "\x7b\x7d"⟩ ⟨"", ""⟩
    let view : Deed HttpResponse := .http ⟨"GET", "/api/v1/matches/match_1", [], ""⟩ ⟨"", ""⟩
    (first.act create).1 = (second.act create).1 ∧ (first.act create).1.status = 500 ∧
      ((first.act create).2.act view).1 = ((second.act create).2.act view).1 ∧
      ((first.act create).2.act view).1.status = 200 := by
  intro first second create view
  have begins : Faulty.FailAlike first.hall.floor.archive (.losing 0 (.snapshot .roundFinished)) :=
    Faulty.failAlike_losing 0 (ArchiveError.isHidden_timeout 5)
      (ArchiveError.isHidden_snapshot .roundFinished)
  have same := failures_look_alike Faulty.kept_failAlike begins
  have told : create.SameTold (first.act create).1 (second.act create).1 := ((same []).2 create).1
  have told' : view.SameTold ((first.act create).2.act view).1 ((second.act create).2.act view).1 :=
    ((same [⟨_, create⟩]).2 view).1
  exact ⟨told, by decide +kernel, told', by decide +kernel⟩

end Server

end TrucoPaulista
