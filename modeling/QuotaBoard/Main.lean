import QuotaBoard.CommandLine.Run
import QuotaBoard.Management.Http
import Std.Async.DNS
import Std.Async.TCP
import Std.Time.DateTime.Timestamp

/-!
# The program

The outermost layer: real variables, files, connections and the clock around the command line.
Connections are plain TCP, so a management API behind `https` cannot be reached.
-/

namespace QuotaBoard.Main

open Std.Async

/-! ## Files -/

/-- Whether the number of a system error says that a file stands in the place of a directory; some
calls give the number below zero. -/
def saysNotDirectory (code : UInt32) : Bool := code = 20 || code = 0 - 20

/-- What is found at a path. -/
def readFile (path : String) : IO FileContent := do
  try
    return .ofBytes (← IO.FS.readBinFile path).toList
  catch
    | .noFileOrDirectory .. => return .missing
    | .inappropriateType file code details =>
      return if saysNotDirectory code then .blocked details
        else .unreadable (toString (IO.Error.inappropriateType file code details))
    | e => return .unreadable (toString e)

/-- An action whose failure is said in words. -/
def attempt (action : IO Unit) : IO (Except String Unit) := do
  try
    action
    return .ok ()
  catch e => return .error (toString e)

/-- The files of the system. -/
def files : Files IO where
  read := readFile
  write path content := attempt (IO.FS.writeFile path content)
  makeDirectory path := attempt do
    unless path.isEmpty do IO.FS.createDirAll path

/-! ## Connections -/

/-- All that comes through a connection until it is closed. -/
partial def receive (socket : TCP.Socket.Client) (soFar : ByteArray) : Async ByteArray := do
  match ← socket.recv? 65536 with
  | some bytes => receive socket (soFar ++ bytes)
  | none => return soFar

/-- The name of a host as it is looked up. -/
def lookupName : Url.Host → String
  | .ipv6 pieces => Url.Host.ipv6Text pieces
  | host => host.text

/-- The address of a port at a host. -/
def socketAddress (port : UInt16) : Std.Net.IPAddr → Std.Net.SocketAddress
  | .v4 address => .v4 ⟨address, port⟩
  | .v6 address => .v6 ⟨address, port⟩

/-- The bytes that come back for a request to an address. -/
def talk (address : Std.Net.SocketAddress) (request : List UInt8) : Async ByteArray := do
  let socket ← TCP.Socket.Client.mk
  socket.connect address
  socket.send ⟨request.toArray⟩
  receive socket .empty

/-- The answer of the first address of a host that has one. -/
def ask (r : Management.HttpRequest) (host : Url.Host) : IO (Option Management.HttpAnswer) := do
  let port := r.url.port.getD 80
  let addresses ← (DNS.getAddrInfo (lookupName host) (toString port)).block
  for address in addresses do
    try
      let bytes ← (talk (socketAddress port.toUInt16 address) r.bytes).block
      if let some answer := Management.HttpAnswer.ofBytes? bytes.toList then return some answer
    catch _ => pure ()
  return none

/-- Sends a request over a connection of its own. -/
def send : Management.Transport IO := fun r => do
  let answer ← match r.url.host with
    | some host =>
      if r.url.scheme = "http" then try ask r host catch _ => pure none else pure none
    | none => pure none
  return match answer with
    | some answer => .ok answer
    | none => .error (.unsent r.url.text)

/-! ## The whole -/

/-- The environment variables that matter. -/
def variableNames : List String :=
  ["HOME", "XDG_CONFIG_HOME", "PROXY_QUOTA_DATA_DIR", "PROXY_QUOTA_MANAGEMENT_URL",
    "PROXY_QUOTA_MANAGEMENT_KEY", "CLICOLOR", "CLICOLOR_FORCE", "NO_COLOR"]

/-- What the program finds around it. -/
def surroundings : IO (CommandLine.Surroundings IO) := do
  let values ← variableNames.filterMapM fun name =>
    return (← IO.getEnv name).map (name, ·)
  let isTerminal ← (← IO.getStdout).isTty
  return {
    lookup name := values.lookup name
    accountHome := none
    isTerminal
    files
    send
    clock := return (← Std.Time.Timestamp.now).toSecondsSinceUnixEpoch.toInt }

end QuotaBoard.Main

/-- Does what the words on the command line ask for. -/
def main (words : List String) : IO UInt32 := do
  let outcome ← (← QuotaBoard.Main.surroundings).run words
  IO.print outcome.output
  IO.eprint outcome.errors
  return outcome.exit.toUInt32
