import DirectoryServer.Proofs.Route.Default

set_option autoImplicit false

namespace DirectoryServer

structure Message.Plain (message : Message) : Prop where
  answered : message.request.kind ≠ .abandon
  insecure : ∀ value, message.request ≠ .extended startTlsName value

namespace RouteTable

variable {σ : Type}

def work (table : RouteTable σ) (message : Message) (token : Token) : Work σ Bool :=
  table.dispatch message.request ⟨message.id, message.request.kind, token⟩

def serveInTurn (table : RouteTable σ) : List Message → Scene σ → Scene σ
  | [], scene => scene
  | message :: rest, scene =>
      let (token, registry) := scene.session.registry.issue
      let scene := { scene with session := { scene.session with registry } }
      table.serveInTurn rest ((table.work message token).run scene).2

def playInTurn (table : RouteTable σ) : List (Message × Token) → Outlook σ → List Outgoing × Outlook σ
  | [], view => ([], view)
  | (message, token) :: rest, view =>
      let (outs, next) := (table.work message token).play view
      let (more, last) := table.playInTurn rest next
      (outs ++ more, last)

def numbered : Nat → List Message → List (Message × Token)
  | _, [] => []
  | first, message :: rest => (message, first) :: numbered (first + 1) rest

theorem mem_numbered (messages : List Message) (first : Nat) (entry : Message × Token)
    (member : entry ∈ numbered first messages) : entry.1 ∈ messages := by
  induction messages generalizing first with
  | nil => cases member
  | cons message rest ih =>
      rcases List.mem_cons.mp member with same | later
      · rw [same]
        exact List.mem_cons_self
      · exact List.mem_cons_of_mem message (ih (first + 1) later)

theorem serve_in_turn_queue (table : RouteTable σ) (backend : Backend σ) (root : RootDse)
    (messages : List Message) (scene : Scene σ) (routes : table = RouteTable.default backend root)
    (detached : backend.Detached) (plain : ∀ message ∈ messages, message.Plain)
    (listening : scene.session.listening = true) (unraised : scene.session.registry.raised = []) :
    (table.serveInTurn messages scene).session.queue = scene.session.queue ++
      (table.playInTurn (numbered scene.session.registry.issued messages) scene.outlook).1 := by
  induction messages generalizing scene with
  | nil => exact (List.append_nil _).symm
  | cons message rest ih =>
      have answered := (plain message List.mem_cons_self).answered
      have quiet : (table.work message scene.session.registry.issued).Quiet :=
        default_quiet table backend root message.request _ routes answered detached
      let begun : Scene σ :=
        { scene with session := { scene.session with registry := scene.session.registry.issue.2 } }
      obtain ⟨queue, outlook, registry⟩ := Work.play_run _ begun quiet listening unraised
      have grown := (table.work message scene.session.registry.issued).run_extends begun
      have rest_ := ih ((table.work message scene.session.registry.issued).run begun).2
        (fun other member => plain other (List.mem_cons_of_mem message member))
        (grown.listening.trans listening) (by rw [registry]; exact unraised)
      rw [queue, outlook, registry] at rest_
      exact rest_.trans (List.append_assoc _ _ _)

theorem plain_of_answers (request : Request) (id : MessageId) (outs : List Outgoing)
    (answers : Answers request id outs) (insecure : ∀ value, request ≠ .extended startTlsName value) :
    ∀ out ∈ outs, out.upgrade = false := by
  obtain ⟨found, final, rfl, _, _, _, upgrades⟩ := answers
  intro out member
  rcases List.mem_append.mp member with entry | last
  · obtain ⟨_, _, rfl⟩ := List.mem_map.mp entry
    rfl
  · rw [List.mem_singleton.mp last]
    refine Bool.eq_false_iff.mpr fun upgrade => ?_
    obtain ⟨value, same⟩ := upgrades upgrade
    exact insecure value same

theorem play_in_turn_plain (table : RouteTable σ) (backend : Backend σ) (root : RootDse)
    (entries : List (Message × Token)) (view : Outlook σ) (routes : table = RouteTable.default backend root)
    (plain : ∀ entry ∈ entries, entry.1.Plain) :
    ∀ out ∈ (table.playInTurn entries view).1, out.upgrade = false := by
  induction entries generalizing view with
  | nil => nofun
  | cons entry rest ih =>
      obtain ⟨message, token⟩ := entry
      have answered := (plain (message, token) List.mem_cons_self).answered
      have insecure := (plain (message, token) List.mem_cons_self).insecure
      have answers := default_answers table backend root message.request message.id token routes answered
      obtain ⟨_, queued⟩ := Work.play_queues _ token view answers
      intro out member
      rcases List.mem_append.mp member with now | later
      · exact plain_of_answers message.request message.id _ queued insecure out now
      · exact ih _ (fun other member => plain other (List.mem_cons_of_mem _ member)) out later

end RouteTable

end DirectoryServer
