import DirectoryServer.Proofs.Route.InTurn
import DirectoryServer.Proofs.Session.Course

set_option autoImplicit false

namespace DirectoryServer

def tlsGranted : Response :=
  .extended ⟨.success, ""⟩ (some startTlsName) none

def Request.AnsweredBy (request : Request) (responses : List Response) : Prop :=
  match request with
  | .abandon _ => responses = []
  | .search _ => ∃ (found : List Entry) (outcome : Outcome),
      responses = found.map .entry ++ [.searchDone outcome]
  | _ => ∃ response, responses = [response] ∧ response.kind? = some request.kind

structure Request.Queued (request : Request) (id : MessageId) (session : Session)
    (outs : List Outgoing) : Prop where
  responses : request.AnsweredBy (outs.map (·.response))
  ids : ∀ out ∈ outs, out.id = id
  upgrades : ∀ out ∈ outs, out.upgrade = true ↔
    (∃ value, request = .extended startTlsName value) ∧ out.response = tlsGranted ∧
      session.secured = false ∧ session.tlsAvailable = true

theorem Response.search_done_of_kind (response : Response) (kind : response.kind? = some .search) :
    ∃ outcome, response = .searchDone outcome := by
  cases response with
  | searchDone outcome => exact ⟨outcome, rfl⟩
  | _ => cases kind

theorem answers_ids (request : Request) (id : MessageId) (outs : List Outgoing)
    (answers : Answers request id outs) : ∀ out ∈ outs, out.id = id := by
  obtain ⟨found, final, rfl, _, own, _⟩ := answers
  intro out member
  rcases List.mem_append.mp member with entry | last
  · obtain ⟨_, _, rfl⟩ := List.mem_map.mp entry
    rfl
  · rw [List.mem_singleton.mp last]
    exact own

theorem answered_by_of_answers (request : Request) (id : MessageId) (outs : List Outgoing)
    (plain : request.kind ≠ .abandon) (answers : Answers request id outs) :
    request.AnsweredBy (outs.map (·.response)) := by
  obtain ⟨found, final, rfl, searched, _, kind, _⟩ := answers
  have responses : (found.map (fun entry => (⟨id, .entry entry, false⟩ : Outgoing)) ++ [final]).map
      (·.response) = found.map .entry ++ [final.response] := by
    simp [Function.comp_def]
  rw [responses]
  cases request with
  | abandon target => exact absurd rfl plain
  | search query =>
      obtain ⟨outcome, done⟩ := final.response.search_done_of_kind kind
      exact ⟨found, outcome, by rw [done]⟩
  | _ =>
      have empty : found = [] := by
        by_cases none_ : found = []
        · exact none_
        · cases searched none_
      subst empty
      exact ⟨final.response, rfl, kind⟩

namespace Work

variable {σ α : Type}

theorem course_done (token : Token) (scene : Scene σ) (value : α) (outs : List Outgoing)
    (course : (Work.done value : Work σ α).Course token scene outs) : outs = [] := by
  cases course with
  | ends => rfl
  | goesOn unfinished => exact absurd rfl (unfinished value)

theorem course_queue (token : Token) (scene : Scene σ) (out : Outgoing) (value : α)
    (outs : List Outgoing)
    (course : (Work.queue out fun _ => .done value : Work σ α).Course token scene outs) :
    outs = [out] := by
  cases course with
  | goesOn _ _ _ later =>
      rw [course_done token _ value _ later]
      rfl

theorem course_abandon (token : Token) (scene : Scene σ) (target : MessageId) (value : α)
    (outs : List Outgoing)
    (course : (Work.abandon target fun _ => .done value : Work σ α).Course token scene outs) :
    outs = [] := by
  cases course with
  | goesOn _ _ _ later =>
      rw [course_done token _ value _ later]
      rfl

end Work

theorem Handlers.start_tls_course {σ : Type} (request : Request) (backend : Backend σ) (context : Context)
    (token : Token) (scene : Scene σ) (outs : List Outgoing)
    (course : ((startTls request backend context).bind fun _ => Work.done true).Course token scene outs) :
    ∃ out, outs = [out] ∧ (out.upgrade = true ↔
      out.response = tlsGranted ∧ scene.session.secured = false ∧ scene.session.tlsAvailable = true) := by
  unfold startTls Work.bind at course
  cases course with
  | @goesOn _ _ next rest _ _ _ later =>
      rw [Work.step] at later
      cases secured : scene.session.secured with
      | true =>
          rw [secured] at later
          have sent := Work.course_queue token next _ true rest later
          exact ⟨_, sent, by simp⟩
      | false =>
          cases available : scene.session.tlsAvailable with
          | true =>
              rw [secured, available] at later
              have sent := Work.course_queue token next _ true rest later
              exact ⟨_, sent, by simp [tlsGranted]⟩
          | false =>
              rw [secured, available] at later
              have sent := Work.course_queue token next _ true rest later
              exact ⟨_, sent, by simp⟩

namespace RouteTable

variable {σ : Type}

theorem default_start_tls (table : RouteTable σ) (backend : Backend σ) (root : RootDse)
    (value : Option Bytes) (context : Context) (routes : table = RouteTable.default backend root) :
    table.dispatch (.extended startTlsName value) context =
      (Handlers.startTls (.extended startTlsName value) (Backend.null σ) context).bind fun _ =>
        .done true := by
  rw [default_served table backend root _ context _ routes rfl]
  rfl

theorem default_queued (table : RouteTable σ) (backend : Backend σ) (root : RootDse) (request : Request)
    (id : MessageId) (token : Token) (scene : Scene σ) (outs : List Outgoing)
    (routes : table = RouteTable.default backend root)
    (course : (table.dispatch request ⟨id, request.kind, token⟩).Course token scene outs) :
    request.Queued id scene.session outs := by
  by_cases plain : request.kind = .abandon
  · obtain ⟨target, rfl⟩ : ∃ target, request = .abandon target := by
      cases request with
      | abandon target => exact ⟨target, rfl⟩
      | _ => cases plain
    rw [default_abandon table backend root target _ routes] at course
    rw [Work.course_abandon token scene target true outs course]
    exact ⟨rfl, List.forall_mem_nil _, List.forall_mem_nil _⟩
  · have answers := default_answers table backend root request id token routes plain
    obtain ⟨_, queued⟩ := Work.course_queues _ token scene outs course answers
    refine ⟨answered_by_of_answers request id outs plain queued, answers_ids request id outs queued, ?_⟩
    by_cases starts : ∃ value, request = .extended startTlsName value
    · obtain ⟨value, rfl⟩ := starts
      rw [default_start_tls table backend root value _ routes] at course
      obtain ⟨out, rfl, upgrades⟩ := Handlers.start_tls_course _ _ _ token scene outs course
      intro other member
      rw [List.mem_singleton.mp member, upgrades]
      exact (and_iff_right ⟨value, rfl⟩).symm
    · intro out member
      have low := plain_of_answers request id outs queued
        (fun value same => starts ⟨value, same⟩) out member
      rw [low]
      constructor
      · intro raised
        cases raised
      · rintro ⟨asked, _⟩
        exact absurd asked starts

theorem default_answers_once (table : RouteTable σ) (backend : Backend σ) (root : RootDse)
    (request : Request) (id : MessageId) (token : Token) (scene : Scene σ)
    (routes : table = RouteTable.default backend root) :
    (∀ outs, (table.dispatch request ⟨id, request.kind, token⟩).Course token scene outs →
      request.Queued id scene.session outs) ∧
    let last := ((table.dispatch request ⟨id, request.kind, token⟩).run scene).2.session
    (scene.session.listening = true → last.registry.isRaised token = false →
      ∃ outs, request.Queued id scene.session outs ∧ last.queue = scene.session.queue ++ outs) := by
  have queued := fun outs => default_queued table backend root request id token scene outs routes
  refine ⟨queued, fun listening unraised => ?_⟩
  have course := Work.run_course _ token scene listening unraised
  have posts := Work.run_posts (table.dispatch request ⟨id, request.kind, token⟩) scene listening
  exact ⟨_, queued _ course, posts.queue⟩

def plainScene : Scene Unit :=
  ⟨{ peer := "127.0.0.1:40000", tlsAvailable := true }, ()⟩

theorem start_tls_answered_once :
    let table := RouteTable.default (Backend.null Unit) { namingContext := "dc=a" }
    let last := ((table.dispatch (.extended startTlsName none) ⟨7, .extended, 0⟩).run plainScene).2.session
    table = RouteTable.default (Backend.null Unit) { namingContext := "dc=a" } ∧
      plainScene.session.listening = true ∧ last.registry.isRaised 0 = false ∧
      last.queue = [⟨7, tlsGranted, true⟩] ∧
      (Request.extended startTlsName none).Queued 7 plainScene.session [⟨7, tlsGranted, true⟩] := by
  intro table last
  have served := default_start_tls table (Backend.null Unit) _ none ⟨7, .extended, 0⟩ rfl
  have unraised : last.registry.isRaised 0 = false := by
    dsimp only [last]
    rw [served]
    rfl
  have queue : last.queue = [⟨7, tlsGranted, true⟩] := by
    dsimp only [last]
    rw [served]
    rfl
  obtain ⟨_, undisturbed⟩ := default_answers_once table (Backend.null Unit) _ (.extended startTlsName none)
    7 0 plainScene rfl
  obtain ⟨outs, queued, same⟩ := undisturbed rfl unraised
  have sent : outs = [⟨7, tlsGranted, true⟩] := same.symm.trans queue
  exact ⟨rfl, rfl, unraised, queue, sent ▸ queued⟩

end RouteTable

end DirectoryServer
