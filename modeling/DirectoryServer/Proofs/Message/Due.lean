import DirectoryServer.Message.Codec

set_option autoImplicit false

namespace DirectoryServer

namespace Frame

def id? (frame : Frame) : Option MessageId :=
  frame.elements?.bind fun parts => parts[0]?.bind messageId?

def kind? (frame : Frame) : Option OperationKind :=
  (frame.elements?.bind Message.operationWord?).bind OperationKind.ofName?

-- Whose answer is due and as which operation: extended, if the frame does not name one.
def due? (frame : Frame) : Option (MessageId × OperationKind) :=
  match frame.id?, frame.kind? with
  | none, _ => none
  | some _, some .abandon => none
  | some id, kind => some (id, kind.getD .extended)

end Frame

namespace Request

def Reads (holds : Request → Prop) : Decoded Request → Prop
  | .ok request => holds request
  | .error _ => True

theorem reads_bind {α : Type} {holds : Request → Prop} (first : Decoded α)
    (next : α → Decoded Request) (each : ∀ value, Reads holds (next value)) :
    Reads holds (first >>= next) := by
  cases first with
  | ok value => exact each value
  | error fault => trivial

theorem reads_map {α : Type} {holds : Request → Prop} (first : Decoded α) (make : α → Request)
    (each : ∀ value, holds (make value)) : Reads holds (first.map make) := by
  cases first with
  | ok value => exact each value
  | error fault => trivial

theorem decode_operands_kind (kind : OperationKind) (operands : List Frame) :
    Reads (fun request => request.kind = kind) (decodeOperands kind operands) := by
  simp only [decodeOperands]
  split
  · exact reads_bind _ _ fun _ => reads_bind _ _ fun _ => reads_bind _ _ fun _ => rfl
  · exact reads_map _ _ fun _ => rfl
  · exact reads_bind _ _ fun _ => reads_bind _ _ fun _ => reads_bind _ _ fun _ => rfl
  · exact reads_bind _ _ fun _ => reads_bind _ _ fun _ => reads_bind _ _ fun _ => rfl
  · exact reads_map _ _ fun _ => rfl
  · exact reads_bind _ _ fun _ => reads_bind _ _ fun _ => reads_bind _ _ fun _ => rfl
  · exact reads_bind _ _ fun _ => rfl
  · exact reads_bind _ _ fun _ => reads_bind _ _ fun _ => rfl
  · split
    · rfl
    · trivial
  all_goals trivial

end Request

namespace Message

theorem decode_ok (frame : Frame) (message : Message) (decoded : decode frame = .ok message) :
    frame.id? = some message.id ∧ frame.kind? = some message.request.kind := by
  unfold decode at decoded
  split at decoded
  · cases decoded
  · rename_i parts elements
    simp only [Frame.id?, Frame.kind?, elements, Option.bind_some]
    dsimp only at decoded
    split at decoded
    · cases decoded
    · cases decoded
    · cases decoded
    · rename_i number word operation idEq wordEq kindEq
      rw [idEq, kindEq]
      have kind := Request.decode_operands_kind operation (parts.drop 2)
      split at decoded
      · cases decoded
      · rename_i request read
        rw [read] at kind
        cases decoded
        exact ⟨rfl, congrArg some (Eq.symm kind)⟩

theorem decode_error (frame : Frame) (failure : DecodeFailure)
    (decoded : decode frame = .error failure) :
    failure.id = frame.id? ∧ failure.kind = frame.kind? := by
  unfold decode at decoded
  split at decoded
  · rename_i elements
    cases decoded
    simp only [Frame.id?, Frame.kind?, elements, Option.bind_none, and_self]
  · rename_i parts elements
    simp only [Frame.id?, Frame.kind?, elements, Option.bind_some]
    dsimp only at decoded
    split at decoded
    · cases decoded
      exact ⟨rfl, rfl⟩
    · cases decoded
      exact ⟨rfl, rfl⟩
    · cases decoded
      exact ⟨rfl, rfl⟩
    · split at decoded
      · cases decoded
        exact ⟨rfl, rfl⟩
      · cases decoded

end Message

namespace Frame

theorem due_of_decoded (frame : Frame) (message : Message)
    (decoded : Message.decode frame = .ok message) (plain : message.request.kind ≠ .abandon) :
    frame.due? = some (message.id, message.request.kind) := by
  obtain ⟨id, kind⟩ := Message.decode_ok frame message decoded
  unfold due?
  rw [id, kind]
  cases named : message.request.kind with
  | abandon => exact absurd named plain
  | _ => rfl

theorem due_of_abandon (frame : Frame) (id target : MessageId)
    (decoded : Message.decode frame = .ok ⟨id, .abandon target⟩) : frame.due? = none := by
  obtain ⟨idEq, kind⟩ := Message.decode_ok frame _ decoded
  unfold due?
  rw [idEq, kind]
  rfl

theorem due_of_failure (frame : Frame) (failure : DecodeFailure) (id : MessageId)
    (decoded : Message.decode frame = .error failure) (named : failure.id = some id) :
    frame.due? = if failure.kind.getD .extended = .abandon then none
      else some (id, failure.kind.getD .extended) := by
  obtain ⟨idEq, kind⟩ := Message.decode_error frame failure decoded
  unfold due?
  rw [← idEq, ← kind, named]
  cases failure.kind with
  | none => rfl
  | some operation => cases operation <;> rfl

end Frame

end DirectoryServer
