import NeighborBench.CommandLine
import NeighborBench.Report.Stamp
import NeighborBench.Search.HttpMessage
import Std.Async.DNS
import Std.Async.TCP
import Std.Async.Timer
import Std.Time.DateTime.Timestamp

/-! # The program -/

open NeighborBench Std Std.Async

namespace NeighborBench.Main

/-! ## Files -/

def faultOf (e : IO.Error) : FileFault :=
  match e with
  | .noFileOrDirectory .. => .notFound
  | .inappropriateType _ 20 _ => .notDirectory
  | .inappropriateType _ 21 _ => .isDirectory
  | .invalidArgument _ 36 _ => .nameTooLong
  | e => .other (toString e)

def entryAt (path : String) : IO (Except FileFault Entry) := do
  try
    let bytes ← IO.FS.readBinFile path
    pure (.ok (.file bytes))
  catch e =>
    match faultOf e with
    | .isDirectory => pure (.ok .directory)
    | fault => pure (.error fault)

def store (path text : String) : IO (Except FileFault Unit) := do
  try
    IO.FS.writeFile path text
    pure (.ok ())
  catch e => pure (.error (faultOf e))

/-- Looks in the current directory and in those above it. -/
def envFile : IO (Option (List UInt8)) := do
  let here ← IO.currentDir
  let mut path := ".env"
  for _ in here.toString.splitOn "/" do
    match ← entryAt path with
    | .ok (.file bytes) => return some bytes.toList
    | _ => path := "../" ++ path
  return none

/-! ## Searches -/

def socketAddress (address : Net.IPAddr) (port : Nat) : Net.SocketAddress :=
  match address with
  | .v4 addr => .v4 ⟨addr, port.toUInt16⟩
  | .v6 addr => .v6 ⟨addr, port.toUInt16⟩

/-- A connection to the first address that takes one. -/
def connectFirst (port : Nat) : List Net.IPAddr → Async (Option TCP.Socket.Client)
  | [] => pure none
  | address :: rest => do
    try
      let socket ← TCP.Socket.Client.mk
      socket.connect (socketAddress address port)
      pure (some socket)
    catch _ => connectFirst port rest

def connectTo (url : Url) : Async (Option TCP.Socket.Client) := do
  try
    let addresses ← DNS.getAddrInfo url.host.bareText (toString url.port)
    connectFirst url.port addresses.toList
  catch _ => pure none

partial def receiveAll (socket : TCP.Socket.Client) (received : ByteArray) : Async ByteArray := do
  match ← socket.recv? 65536 with
  | some bytes => receiveAll socket (received ++ bytes)
  | none => pure received

def exchange (request : HttpRequest) : Async (Except TransportFault HttpReply) := do
  match ← connectTo request.url with
  | none => pure (.error .connect)
  | some socket =>
    try
      socket.send request.text.toUTF8
      let received ← receiveAll socket .empty
      pure (HttpReply.ofBytes received.toList)
    catch _ => pure (.error .other)

instance : Inhabited (Except TransportFault HttpReply) := ⟨.error .other⟩

def send (seconds : Nat) (request : HttpRequest) : Async (Except TransportFault HttpReply) := do
  let timer ← Sleep.mk (.ofNat (seconds * 1000))
  let late : Async (Except TransportFault HttpReply) := do
    timer.wait
    pure (.error .timeout)
  let answer ← Async.race (exchange request) late
  timer.stop
  pure answer

def transport : Transport IO := fun seconds request => (send seconds request).block

/-! ## Marks -/

def marks : Marks IO where
  freshId := do
    let bytes ← IO.getRandomBytes 16
    pure (Stamp.id bytes.toList)
  now := do
    let now ← Time.Timestamp.now
    pure (Stamp.time now.toNanosecondsSinceUnixEpoch.toInt.toNat)

/-- The variables that the program, or the file of variables, may ask for. -/
def variablesFor (envFile : Option (List UInt8)) : IO EnvFile.Variables := do
  let names := [ConnectionDefaults.endpointVariable, ConnectionDefaults.portVariable] ++
    (envFile.map EnvFile.names).getD []
  names.filterMapM fun name => do
    if name.isEmpty then return none
    let value ← IO.getEnv name
    return value.map fun value => (name, value)

def outside : IO (Outside IO) := do
  let envFile ← envFile
  let vars ← variablesFor envFile
  pure {
    vars
    envFile := pure envFile
    entryAt, store, transport
    clock := IO.monoNanosNow
    marks }

end NeighborBench.Main

def main (args : List String) : IO UInt32 := do
  let outcome ← (← NeighborBench.Main.outside).execute (.ofArgs args)
  IO.print outcome.output
  match outcome.complaint with
  | some complaint => IO.eprintln complaint
  | none => pure ()
  pure outcome.status.toUInt32
