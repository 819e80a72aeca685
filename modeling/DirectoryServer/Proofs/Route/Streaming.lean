import DirectoryServer.Route.Handlers
import DirectoryServer.Proofs.Session.Amid

set_option autoImplicit false

namespace DirectoryServer

def searchResponses (id : MessageId) : Except ResultCode (List Entry) → List Outgoing
  | .ok entries => entries.map (⟨id, .entry ·, false⟩) ++ [⟨id, .searchDone ⟨.success, ""⟩, false⟩]
  | .error code => [⟨id, .searchDone ⟨code, ""⟩, false⟩]

inductive Streams : (responses : List Outgoing) → (polls : List Bool) → (outs : List Outgoing) → Prop where
  | finished : Streams [] [] []
  | raised (out : Outgoing) (responses : List Outgoing) : Streams (out :: responses) [true] []
  | goesOn (out : Outgoing) {responses : List Outgoing} {polls : List Bool} {outs : List Outgoing}
      (later : Streams responses polls outs) : Streams (out :: responses) (false :: polls) (out :: outs)

namespace Streams

variable {responses : List Outgoing} {polls : List Bool} {outs : List Outgoing}

theorem front (streams : Streams responses polls outs) : outs <+: responses := by
  induction streams with
  | finished => exact List.prefix_rfl
  | raised out responses => exact List.nil_prefix
  | goesOn out later ih => exact List.cons_prefix_cons.mpr ⟨rfl, ih⟩

theorem whole_iff (streams : Streams responses polls outs) : outs = responses ↔ true ∉ polls := by
  induction streams with
  | finished => simp
  | raised out responses => simp
  | goesOn out later ih => simpa using ih

theorem seen (streams : Streams responses polls outs) :
    polls = List.replicate responses.length false ∨
      ∃ k < responses.length, polls = List.replicate k false ++ [true] := by
  induction streams with
  | finished => exact .inl rfl
  | raised out responses => exact .inr ⟨0, Nat.zero_lt_succ _, rfl⟩
  | goesOn out later ih =>
      rcases ih with rfl | ⟨k, inside, rfl⟩
      · exact .inl rfl
      · exact .inr ⟨k + 1, Nat.succ_lt_succ inside, rfl⟩

theorem cut (streams : Streams responses polls outs) (k : Nat)
    (first : polls = List.replicate k false ++ [true]) : outs = responses.take k := by
  induction streams generalizing k with
  | finished => simp at first
  | raised out responses =>
      cases k with
      | zero => rfl
      | succ k => simp [List.replicate_succ] at first
  | goesOn out later ih =>
      cases k with
      | zero => simp at first
      | succ k =>
          rw [List.replicate_succ, List.cons_append, List.cons.injEq] at first
          rw [ih k first.2, List.take_succ_cons]

end Streams

-- The first poll stands ahead of the backend's search, and one ahead of each response.
structure StopsAtPoll (responses : List Outgoing) (polls : List Bool) (outs : List Outgoing) : Prop where
  front : outs <+: responses
  whole : outs = responses ↔ true ∉ polls
  seen : polls = List.replicate (responses.length + 1) false ∨
    ∃ k < responses.length + 1, polls = List.replicate k false ++ [true]
  atStart : polls = [true] → outs = []
  atResponse : ∀ k < responses.length, polls = List.replicate (k + 1) false ++ [true] →
    outs = responses.take k

theorem stops_at_start (responses : List Outgoing) (filled : responses ≠ []) :
    StopsAtPoll responses [true] [] where
  front := List.nil_prefix
  whole := by simpa using filled.symm
  seen := .inr ⟨0, Nat.succ_pos _, rfl⟩
  atStart _ := rfl
  atResponse k _ first := by cases first

theorem stops_behind_start {responses : List Outgoing} {polls : List Bool} {outs : List Outgoing}
    (streams : Streams responses polls outs) : StopsAtPoll responses (false :: polls) outs where
  front := streams.front
  whole := by simpa using streams.whole_iff
  seen := by
    rcases streams.seen with rfl | ⟨k, inside, rfl⟩
    · exact .inl rfl
    · exact .inr ⟨k + 1, Nat.succ_lt_succ inside, rfl⟩
  atStart first := by cases first
  atResponse k _ first := streams.cut k (List.cons.inj first).2

namespace Handlers

variable {σ : Type}

def respond (token : Token) (out : Outgoing) (next : Work σ Unit) : Work σ Unit :=
  .poll token fun raised => if raised then .done () else .queue out fun _ => next

def stream (id : MessageId) (token : Token) (entries : List Entry) (code : ResultCode) : Work σ Unit :=
  (writeEntries ⟨id, .search, token⟩ entries).bind fun complete =>
    if complete then finishSearch ⟨id, .search, token⟩ code else .done ()

def streamAnswer (id : MessageId) (token : Token) : Except ResultCode (List Entry) → Work σ Unit
  | .ok entries => stream id token entries .success
  | .error code => stream id token [] code

theorem search_eq (backend : Backend σ) (query : Query) (id : MessageId) (token : Token) :
    search (.search query) backend ⟨id, .search, token⟩ =
      .poll token fun raised => if raised then .done ()
        else .search backend query (streamAnswer id token) := rfl

theorem stream_nil (id : MessageId) (token : Token) (code : ResultCode) :
    (stream id token [] code : Work σ Unit) =
      respond token ⟨id, .searchDone ⟨code, ""⟩, false⟩ (.done ()) := rfl

theorem stream_cons (id : MessageId) (token : Token) (entry : Entry) (rest : List Entry) (code : ResultCode) :
    (stream id token (entry :: rest) code : Work σ Unit) =
      respond token ⟨id, .entry entry, false⟩ (stream id token rest code) := by
  refine congrArg (Work.poll token) (funext fun raised => ?_)
  cases raised <;> rfl

theorem respond_raised (others : Nat → Scene σ → Scene σ) (token : Token) (out : Outgoing) (next : Work σ Unit)
    (time : Nat) (scene : Scene σ) (raised : (others time scene).session.registry.isRaised token = true) :
    (respond token out next).amid others time scene = ⟨[true], [], others time scene⟩ := by
  rw [respond, Work.amid_poll, raised, if_pos rfl]
  rfl

theorem respond_streams (others : Nat → Scene σ → Scene σ) (token : Token) (out : Outgoing)
    (next : Work σ Unit) (time : Nat) (scene : Scene σ) (responses : List Outgoing)
    (later : ∀ time scene,
      Streams responses (next.amid others time scene).polls (next.amid others time scene).outs) :
    Streams (out :: responses) ((respond token out next).amid others time scene).polls
      ((respond token out next).amid others time scene).outs := by
  cases raised : (others time scene).session.registry.isRaised token with
  | true =>
      rw [respond_raised others token out next time scene raised]
      exact .raised out responses
  | false =>
      rw [respond, Work.amid_poll, raised, if_neg nofun, Work.amid_send]
      exact .goesOn out (later _ _)

theorem stream_streams (others : Nat → Scene σ → Scene σ) (id : MessageId) (token : Token)
    (entries : List Entry) (code : ResultCode) (time : Nat) (scene : Scene σ) :
    let trace := (stream id token entries code : Work σ Unit).amid others time scene
    Streams (entries.map (⟨id, .entry ·, false⟩) ++ [⟨id, .searchDone ⟨code, ""⟩, false⟩])
      trace.polls trace.outs := by
  induction entries generalizing time scene with
  | nil =>
      rw [stream_nil]
      exact respond_streams others token _ _ time scene [] fun _ _ => .finished
  | cons entry rest ih =>
      rw [stream_cons]
      exact respond_streams others token _ _ time scene _ ih

theorem answer_streams (others : Nat → Scene σ → Scene σ) (id : MessageId) (token : Token)
    (answer : Except ResultCode (List Entry)) (time : Nat) (scene : Scene σ) :
    let trace := (streamAnswer id token answer : Work σ Unit).amid others time scene
    Streams (searchResponses id answer) trace.polls trace.outs := by
  cases answer with
  | ok entries => exact stream_streams others id token entries .success time scene
  | error code => exact stream_streams others id token [] code time scene

theorem answer_raised (others : Nat → Scene σ → Scene σ) (id : MessageId) (token : Token)
    (answer : Except ResultCode (List Entry)) (time : Nat) (scene : Scene σ)
    (raised : (others time scene).session.registry.isRaised token = true) :
    ((streamAnswer id token answer : Work σ Unit).amid others time scene).outs = [] := by
  cases answer with
  | error code =>
      rw [streamAnswer, stream_nil, respond_raised others token _ _ time scene raised]
  | ok entries =>
      cases entries with
      | nil => rw [streamAnswer, stream_nil, respond_raised others token _ _ time scene raised]
      | cons entry rest => rw [streamAnswer, stream_cons, respond_raised others token _ _ time scene raised]

def asked (others : Nat → Scene σ → Scene σ) (scene : Scene σ) : Scene σ :=
  others 1 (others 0 scene)

theorem search_trace (others : Nat → Scene σ → Scene σ) (backend : Backend σ) (query : Query)
    (id : MessageId) (token : Token) (scene : Scene σ) :
    let trace := (search (.search query) backend ⟨id, .search, token⟩).amid others 0 scene
    let found := Work.searchScene backend query (asked others scene)
    let rest := (streamAnswer id token found.1 : Work σ Unit).amid others 2 found.2
    ((others 0 scene).session.registry.isRaised token = true ∧ trace.polls = [true] ∧ trace.outs = []) ∨
      (others 0 scene).session.registry.isRaised token = false ∧
        trace.polls = false :: rest.polls ∧ trace.outs = rest.outs := by
  intro trace found rest
  cases raised : (others 0 scene).session.registry.isRaised token with
  | true =>
      refine .inl ⟨rfl, ?_⟩
      simp only [trace]
      rw [search_eq, Work.amid_poll, raised, if_pos rfl]
      exact ⟨rfl, rfl⟩
  | false =>
      refine .inr ⟨rfl, ?_⟩
      simp only [trace]
      rw [search_eq, Work.amid_poll, raised, if_neg nofun, Work.amid_search]
      exact ⟨rfl, rfl⟩

theorem asked_raised (others : Nat → Scene σ → Scene σ) (backend : Backend σ) (query : Query) (token : Token)
    (scene : Scene σ) (keeps : KeepsRaised token others) :
    let found := Work.searchScene backend query (asked others scene)
    ∀ moment ∈ [scene, others 0 scene, asked others scene, found.2],
      moment.session.registry.isRaised token = true → found.2.session.registry.isRaised token = true := by
  intro found
  have last := (Scene.Extends.search (asked others scene) backend query).raised token
  have before : (others 0 scene).session.registry.isRaised token = true →
      found.2.session.registry.isRaised token = true := fun raised => last (keeps 1 _ raised)
  simp only [List.forall_mem_cons]
  exact ⟨fun raised => before (keeps 0 _ raised), before, last, id, List.forall_mem_nil _⟩

theorem search_responses_filled (id : MessageId) (answer : Except ResultCode (List Entry)) :
    searchResponses id answer ≠ [] := by
  cases answer <;> simp [searchResponses]

theorem search_streams_until_raised (others : Nat → Scene σ → Scene σ) (backend : Backend σ) (query : Query)
    (id : MessageId) (token : Token) (scene : Scene σ) :
    let trace := (search (.search query) backend ⟨id, .search, token⟩).amid others 0 scene
    let found := Work.searchScene backend query (asked others scene)
    StopsAtPoll (searchResponses id found.1) trace.polls trace.outs ∧
      (KeepsRaised token others → ∀ moment ∈ [scene, others 0 scene, asked others scene, found.2],
        moment.session.registry.isRaised token = true → trace.outs = []) ∧
      (SparesQueue others → scene.session.listening = true →
        trace.last.session.queue = scene.session.queue ++ trace.outs) := by
  intro trace found
  have queued := fun spares => Work.amid_queue others
    (search (.search query) backend ⟨id, .search, token⟩) 0 scene spares
  rcases search_trace others backend query id token scene with ⟨_, polls, outs⟩ | ⟨_, polls, outs⟩
  · refine ⟨?_, fun _ _ _ _ => outs, queued⟩
    simp only [trace]
    rw [polls, outs]
    exact stops_at_start _ (search_responses_filled id found.1)
  · refine ⟨?_, fun keeps moment member raised => ?_, queued⟩
    · simp only [trace]
      rw [polls, outs]
      exact stops_behind_start (answer_streams others id token found.1 2 found.2)
    · have late := asked_raised others backend query token scene keeps moment member raised
      exact outs.trans (answer_raised others id token found.1 2 found.2 (keeps 2 _ late))

def raiseAt (moment : Nat) (token : Token) (time : Nat) (scene : Scene σ) : Scene σ :=
  if time = moment then
    { scene with session := { scene.session with registry := scene.session.registry.raise token } }
  else scene

theorem raise_at_keeps (moment : Nat) (token : Token) : KeepsRaised token (raiseAt (σ := σ) moment token) := by
  intro time scene raised
  unfold raiseAt
  split
  · exact (Registry.is_raised_raise _ _ _).mpr (.inr raised)
  · exact raised

theorem raise_at_spares (moment : Nat) (token : Token) : SparesQueue (raiseAt (σ := σ) moment token) := by
  constructor
  · intro time scene
    unfold raiseAt
    split <;> rfl
  · intro time scene
    unfold raiseAt
    split <;> rfl

def pairBackend (abandons : List MessageId) : Backend Unit :=
  .scripted Unit .success .success ⟨abandons, .ok [⟨"cn=a", []⟩, ⟨"cn=b", []⟩]⟩

def pairScene : Scene Unit :=
  ⟨{ peer := "127.0.0.1:40000", tlsAvailable := false, registry := (Registry.empty.register 7).2 }, ()⟩

def pairQuery : Query :=
  ⟨"", .wholeSubtree, .present "cn", []⟩

theorem pair_search_cut :
    let late := (search (.search pairQuery) (pairBackend []) ⟨7, .search, 0⟩).amid (raiseAt 4 0) 0 pairScene
    let early := (search (.search pairQuery) (pairBackend [7]) ⟨7, .search, 0⟩).amid (raiseAt 9 0) 0 pairScene
    late.polls = [false, false, true] ∧ late.outs = [⟨7, .entry ⟨"cn=a", []⟩, false⟩] ∧
      late.last.session.queue = late.outs ∧ early.outs = [] := by
  intro late early
  obtain ⟨stops, _, queue⟩ :=
    search_streams_until_raised (raiseAt 4 0) (pairBackend []) pairQuery 7 0 pairScene
  obtain ⟨_, nothing, _⟩ :=
    search_streams_until_raised (raiseAt 9 0) (pairBackend [7]) pairQuery 7 0 pairScene
  have polls : late.polls = [false, false, true] := rfl
  have raised : (Work.searchScene (pairBackend [7]) pairQuery
      (asked (raiseAt 9 0) pairScene)).2.session.registry.isRaised 0 = true := rfl
  refine ⟨polls, stops.atResponse 1 (by decide) polls, queue (raise_at_spares 4 0) rfl, ?_⟩
  exact nothing (raise_at_keeps 9 0) _ (List.mem_of_getLast? rfl) raised

end Handlers

end DirectoryServer
