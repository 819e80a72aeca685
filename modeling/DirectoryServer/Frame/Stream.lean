import DirectoryServer.Frame.Parser

set_option autoImplicit false

namespace DirectoryServer.Frame

structure Batch where
  frames : List Frame
  fault : Option ParseError
  -- Octets that wait for more; none after a fault, which nothing can mend.
  rest : Bytes
deriving Repr

-- Every frame takes an octet, so `fuel` need not exceed the length of the buffer.
def takeFramesWithin : (fuel : Nat) → Bytes → Batch
  | 0, buffer => ⟨[], none, buffer⟩
  | _ + 1, [] => ⟨[], none, []⟩
  | fuel + 1, buffer =>
      match parse buffer with
      | .error fault => ⟨[], some fault, []⟩
      | .ok none => ⟨[], none, buffer⟩
      | .ok (some (frame, consumed)) =>
          let batch := takeFramesWithin fuel (buffer.drop consumed)
          { batch with frames := frame :: batch.frames }

def takeFrames (buffer : Bytes) : Batch :=
  takeFramesWithin buffer.length buffer

def feedAll (buffer : Bytes) : List Bytes → List Batch
  | [] => []
  | chunk :: chunks =>
      let batch := takeFrames (buffer ++ chunk)
      batch :: feedAll batch.rest chunks

end DirectoryServer.Frame
