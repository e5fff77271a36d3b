import PlanCourier.Http.Message
import PlanCourier.Program
import Std.Async.DNS
import Std.Async.TCP
import Std.Internal.UV.System
import Std.Time.DateTime.Timestamp

/-!
# The program on a real host

Files, network, clock and outputs of the system that the program runs on.
-/

namespace PlanCourier.RealHost

/-- The system's number of an error, where it has one; some come with their sign turned. -/
def codeOf : IO.Error → UInt32
  | .alreadyExists _ code _ | .otherError code _ | .resourceBusy code _
  | .resourceVanished code _ | .unsupportedOperation code _ | .hardwareFault code _
  | .unsatisfiedConstraints code _ | .illegalOperation code _ | .protocolError code _
  | .timeExpired code _ | .interrupted _ code _ | .noFileOrDirectory _ code _
  | .invalidArgument _ code _ | .permissionDenied _ code _ | .resourceExhausted _ code _
  | .inappropriateType _ code _ | .noSuchThing _ code _ => if code < 0x80000000 then code else -code
  | .unexpectedEof | .userError _ => 0

/-- Why a file operation fails. -/
def faultOf (e : IO.Error) : FileFault :=
  match codeOf e with
  | 2 => .notFound
  | 17 => .alreadyThere
  | 20 => .notDirectory
  | 21 => .isDirectory
  | 36 => .nameTooLong
  | _ => .other (toString e)

/-- An action on files with its fault. -/
def attempt (x : IO α) : IO (Except FileFault α) :=
  try return .ok (← x)
  catch e => return .error (faultOf e)

def readText (path : String) : IO (Except FileFault String) := do
  match ← attempt (IO.FS.readBinFile path) with
  | .error e => return .error e
  | .ok bytes =>
    match String.fromUTF8? bytes with
    | some s => return .ok s
    | none => return .error .notText

/-- Opens a file for appending, which makes it if it is not there. -/
def touch (path : String) : IO Unit := do
  let _ ← IO.FS.Handle.mk path .append

/-- Whether a path leads to a file, by the links that stand in its way. -/
def isFile (path : String) : IO Bool := do
  try return (← (← IO.FS.realPath path).metadata).type == .file
  catch _ => return false

def files : FileAccess IO :=
  { here := do
      try return some (← IO.currentDir).toString
      catch _ => return none
    isFile
    read := readText
    makeDirectories := fun path =>
      if path.isEmpty then return .ok () else attempt (IO.FS.createDirAll path)
    touch := fun path => attempt (touch path)
    write := fun path text => attempt (IO.FS.writeFile path text) }

/-- All that a server sends until it closes the connection. -/
partial def receive (socket : Std.Async.TCP.Socket.Client) (got : ByteArray) :
    Std.Async.Async ByteArray := do
  match ← socket.recv? 65536 with
  | none => return got
  | some bytes => receive socket (got ++ bytes)

/-- Sends a request to one address of a server and waits for what it sends. -/
def converse (address : Std.Net.IPAddr) (number : UInt16) (message : String) : IO ByteArray := do
  let target := match address with
    | .v4 addr => Std.Net.SocketAddress.v4 ⟨addr, number⟩
    | .v6 addr => .v6 ⟨addr, number⟩
  let socket ← Std.Async.TCP.Socket.Client.mk
  Std.Async.Async.block do
    socket.connect target
    socket.send message.toUTF8
    receive socket .empty

/-- Sends a request over a connection of its own to the first address that takes it. What comes
back is the answer, also if it names another address; and it is waited for without a limit, whatever
time the configuration allows. -/
def exchange (e : Endpoint) (message : String) : IO Exchange := do
  let addresses ← Std.Async.Async.block (Std.Async.DNS.getAddrInfo e.host "")
  for address in addresses do
    try
      let bytes ← converse address e.portNumber message
      return .ofBytes bytes.toList
    catch _ => pure ()
  return .unreachable

/-- Sends a request. Only addresses without encryption can be reached. -/
def send (r : HttpRequest) : IO Exchange :=
  match r.address?.bind Endpoint.ofAddress? with
  | none => return .unreachable
  | some e =>
    try exchange e (r.written e)
    catch _ => return .unreachable

/-- Waits in parts, of which none is longer than a system's sleep can be. -/
def sleep (ms : Nat) : IO Unit := do
  let longest := 0xFFFFFFFF
  for _ in [0 : ms / longest] do
    IO.sleep (.ofNat longest)
  IO.sleep (.ofNat (ms % longest))

def host : Host IO :=
  { files
    send
    wait := sleep
    now := do return ⟨(← Std.Time.Timestamp.now).toMillisecondsSinceUnixEpoch.val⟩
    out := IO.println
    err := IO.eprintln
    abort := fun reason => do
      IO.eprintln reason
      return Host.abortCode }

end PlanCourier.RealHost

/-- Runs the program with the words of its command line. -/
def main (words : List String) : IO UInt32 := do
  let environment ← Std.Internal.UV.System.osEnviron
  PlanCourier.Program.run PlanCourier.RealHost.host environment.toList words
