import DirectoryServer.CommandLine
import DirectoryServer.Connection.Schedule

set_option autoImplicit false

namespace DirectoryServer

partial def readLine (input : IO.FS.Stream) (before : ByteArray) : IO ByteArray := do
  let octet ← input.read 1
  let line := before ++ octet
  if octet.isEmpty || octet.data.contains 10 then return line
  readLine input line

def patience : Nat := 1000000000000

def act (output : IO.FS.Stream) (connection : Connection Store)
    (moves : List Connection.Move) : IO (Connection Store) := do
  let (next, events) := connection.react patience moves
  output.write (ByteArray.mk (Event.written events).toArray)
  output.flush
  return next

partial def serve (input output : IO.FS.Stream) (start : Nat) (connection : Connection Store) :
    IO (Except ConnectionError Unit) := do
  match connection.position with
  | .ended result => return result
  | _ =>
      let line ← readLine input ByteArray.empty
      let now ← IO.monoMsNow
      let waited ← act output connection [.wait (now - start - connection.now)]
      let move := if line.isEmpty then .close else .arrive line.toList
      serve input output start (← act output waited [move])

end DirectoryServer

open DirectoryServer in
def main (arguments : List String) : IO UInt32 := do
  let log ← IO.getStderr
  match CommandLine.parse arguments with
  | .error fault =>
      log.putStrLn s!"error: {fault.message}"
      return 2
  | .ok line =>
      let connection := Connection.accept line.config "stdio" ⟨[], []⟩
      let result ← serve (← IO.getStdin) (← IO.getStdout) (← IO.monoMsNow) connection
      if let .error fault := result then log.putStrLn fault.message
      return 0
