import DirectoryServer.Frame.Printer
import DirectoryServer.Message.Codec
import DirectoryServer.Proofs.Frame.Prefix

set_option autoImplicit false

namespace DirectoryServer.Message

def octets (message : Message) : Bytes :=
  message.encode.serialize

def Returns (message : Message) : Prop :=
  ∃ frame, Frame.parse message.octets = .ok (some (frame, message.octets.length)) ∧
    decode frame = .ok message

theorem parse_stream (message : Message) (buffer ahead behind : Bytes) (returns : message.Returns)
    (stream : buffer ++ ahead = message.octets ++ behind) :
    Frame.parse buffer = .ok none ∨
      ∃ frame, Frame.parse buffer = .ok (some (frame, message.octets.length)) ∧ decode frame = .ok message ∧
        buffer.drop message.octets.length ++ ahead = behind := by
  obtain ⟨frame, parsed, decoded⟩ := returns
  rcases List.append_eq_append_iff.mp stream with ⟨missing, whole, rest⟩ | ⟨more, whole, rest⟩
  · by_cases complete : missing = []
    · subst complete
      rw [List.append_nil] at whole
      rw [List.nil_append] at rest
      refine .inr ⟨frame, whole ▸ parsed, decoded, ?_⟩
      rw [whole, List.drop_length, rest, List.nil_append]
    · rw [whole] at parsed
      exact .inl (Frame.parse_short buffer missing frame parsed complete)
  · refine .inr ⟨frame, ?_, decoded, ?_⟩
    · rw [whole, Frame.parse_append _ more (by rw [parsed]; nofun), parsed]
    · rw [whole, List.drop_left, rest]

end DirectoryServer.Message
