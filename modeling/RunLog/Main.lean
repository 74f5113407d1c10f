import RunLog.Cli.Run
import RunLog.Http.Replay
import RunLog.Http.Wire
import Std.Async.DNS
import Std.Async.TCP
import Std.Time.DateTime.Timestamp

/-!
The program: it gathers what surrounds it, runs the command line, and carries out what came of that.
Requests are sent one by one; after each reply the work is run again from its beginning, with all
replies so far at hand.
-/

namespace RunLog.Main

open Std.Async Std.Net

/-- A path below the directory that an environment variable names, or else below one at home. -/
def userPath (setting fallback below : String) : IO (Option String) := do
  match ← IO.getEnv setting with
  | some directory => if directory.startsWith "/" then return some (directory ++ below)
  | none => pure ()
  return (← IO.getEnv "HOME").map fun home => home ++ fallback ++ below

def missing : String := "No such file or directory (os error 2)"

/-- The content of a file, or the reason why it cannot be read; none if there is no file. -/
def contentOf (path : String) : IO (Option (Except String (List UInt8))) := do
  try
    return some (.ok (← IO.FS.readBinFile path).data.toList)
  catch
    | .noFileOrDirectory .. => return none
    | e => return some (.error (toString e))

def currentTime : IO Instant := do
  let nanos := (← Std.Time.Timestamp.now).toNanosecondsSinceUnixEpoch.val.toNat
  return LineId.toInstant ⟨.ofNat nanos⟩

/-- Receives until the other side closes the connection. -/
partial def receive (client : TCP.Socket.Client) (got : List (List UInt8)) :
    Async (List UInt8) := do
  match ← client.recv? 65536 with
  | some data => receive client (data.data.toList :: got)
  | none => return got.reverse.flatten

/-- Sends a request to the first address of a host that takes it. -/
def exchange (port : UInt16) (request : List UInt8) : List IPAddr → Async (List UInt8)
  | [] => throw (IO.userError "no address takes connections")
  | address :: rest => do
    let client ← TCP.Socket.Client.mk
    let socketAddress : SocketAddress := match address with
      | .v4 addr => .v4 ⟨addr, port⟩
      | .v6 addr => .v6 ⟨addr, port⟩
    let connected ← try
        client.connect socketAddress
        pure true
      catch e => if rest.isEmpty then throw e else pure false
    if connected then
      client.send ⟨request.toArray⟩
      receive client []
    else exchange port request rest

def send (request : HttpRequest) : IO (Except String HttpReply) := do
  match request.host? with
  | none => return .error "only plain HTTP can be spoken"
  | some (host, port) =>
    try
      let bytes ← Async.block do
        let addresses ← DNS.getAddrInfo host ""
        exchange (.ofNat port) request.wire addresses.toList
      return HttpReply.ofWire bytes
    catch e => return .error (toString e)

/-- Runs the command line, with more replies each time, until it wants no other one. -/
partial def converse (environment : Cli.Environment) (line : List String)
    (sessions : SessionStore) (replies : List (Except String HttpReply)) :
    IO (Nat × Cli.Work HttpReplay) := do
  let start : Cli.Work HttpReplay := { transport := { replies }, sessions }
  let (code, work) := Cli.runLine environment line start
  match work.transport.wanted with
  | some request => converse environment line sessions (replies ++ [← send request])
  | none => return (code, work)

/-- Brings the directory and the file of a session into the state that the work left them in. -/
def settle (directory file : String) (before after : SessionStore) : IO Unit := do
  if after.directory && !before.directory then IO.FS.createDirAll directory
  if before.file? file ≠ after.file? file then
    match after.file? file with
    | some content => IO.FS.writeBinFile (directory ++ "/" ++ file) ⟨content.toArray⟩
    | none => IO.FS.removeFile (directory ++ "/" ++ file)

end RunLog.Main

open RunLog RunLog.Main

def main (args : List String) : IO UInt32 := do
  let invocation := (Cli.Invocation.parse args).toOption
  let explicit ← (invocation.bind (·.config)).mapM contentOf
  let usual ← userPath "XDG_CONFIG_HOME" "/.config" "/runscope/config.toml"
  let usualContent ← usual.mapM contentOf
  let directory := (← userPath "XDG_CACHE_HOME" "/.cache" "/runscope/sessions").getD "."
  let file := (invocation.bind (·.session?)).bind fun name => (SessionStore.fileName name).toOption
  let content ← file.mapM fun file => contentOf (directory ++ "/" ++ file)
  -- Only where there is no such directory is nothing found at a path that ends with a dot.
  let store : SessionStore := { directory := (← contentOf (directory ++ "/.")).isSome }
  let sessions := match file, content with
    | some file, some (some (.ok content)) => store.write file content
    | _, _ => store
  let environment : Cli.Environment := {
    contentOf := fun _ => (explicit.getD none).getD (.error missing)
    defaultConfig := usual.bind fun path => (usualContent.getD none).map fun content =>
      (path, content)
    now := ← currentTime }
  let (code, work) ← converse environment args sessions []
  let output ← IO.getStdout
  output.write ⟨work.output.toArray⟩
  output.flush
  for note in work.notes do IO.eprintln note
  if let some file := file then settle directory file sessions work.sessions
  return code.toUInt32
