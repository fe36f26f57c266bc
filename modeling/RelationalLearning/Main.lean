import RelationalLearning.CommandLine.Program
import Std.Async.DNS
import Std.Async.TCP
import Std.Async.Timer
import Std.Time

/-!
The program itself. What the client does is a function of the replies it gets, so the program runs
it on the replies that have come so far, carries out what is new in its trace, and runs it again
with more replies until it no longer asks for any.
-/

namespace RelationalLearning.CommandLine

open Std.Async Std.Net

structure Network where
  host : String
  timeout : Option Nat
  listening : List Nat := List.range 65536
  sockets : Array TCP.Socket.Client := #[]
  replies : List (Nat × Replies) := []

def within {α : Type} [Inhabited α] (seconds : Option Nat) (action : Async α) : IO α :=
  match seconds with
  | none => action.block
  | some seconds => Async.block <| Async.race action do
      Std.Async.sleep (.ofNat (1000 * seconds))
      throw (IO.userError "the time is up")

def socketAddress (address : IPAddr) (port : Nat) : SocketAddress :=
  match address with
  | .v4 address => .v4 ⟨address, port.toUInt16⟩
  | .v6 address => .v6 ⟨address, port.toUInt16⟩

/-- Connects to a port of the host at the first of its addresses that takes the connection. -/
def connect (network : Network) (port : Nat) : IO (Option TCP.Socket.Client) := do
  let addresses ← try (DNS.getAddrInfo network.host (toString port)).block catch _ => pure #[]
  for address in addresses do
    let socket ← TCP.Socket.Client.mk
    let connected ← try
        within network.timeout (socket.connect (socketAddress address port))
        socket.noDelay
        pure true
      catch _ => pure false
    if connected then return some socket
  return none

def Network.close (network : Network) (port : Nat) : Network :=
  match network.replies.reverse with
  | (link, last) :: earlier =>
    { network with replies := ((link, { last with closes := port :: last.closes }) :: earlier).reverse }
  | [] => { network with listening := network.listening.filter (· ≠ port) }

def bytesOf : Message → Text.Bytes
  | .command document => (Frame.ofText document.write).toOption.getD []
  | .text content => (Frame.ofText content).toOption.getD []
  | .table content => Arrow.encode content

def label : Level → String
  | .error => "\x1B[31mERROR\x1B[0m"
  | .warn => "\x1B[33mWARN\x1B[0m"
  | .info => "\x1B[32mINFO\x1B[0m"
  | .debug => "\x1B[34mDEBUG\x1B[0m"

def shows (limit : LogLevel) (level : Level) : Bool :=
  match limit, level with
  | .off, _ => false
  | .error, level => level = .error
  | .warn, level => level = .error || level = .warn
  | .info, level => level ≠ .debug
  | _, _ => true

def showRecord (limit : LogLevel) (record : LogRecord) : IO Unit := do
  if shows limit record.level then
    let now ← Std.Time.PlainDateTime.now
    let moment := now.format "uuuu-MM-dd HH:mm:ss"
    let mark := if record.progress then " " else ": "
    IO.println ("[" ++ moment ++ "] " ++ label record.level ++ mark ++ record.text)

/-- Carries out an event; `none` when it was to connect and nobody listens. -/
def carryOut (limit : LogLevel) (network : Network) : Event → IO (Option Network)
  | .opened _ port => do
    return (← connect network port).map fun socket => { network with sockets := network.sockets.push socket }
  | .sent link message => do
    if let some socket := network.sockets[link]? then
      try within network.timeout (socket.send ⟨(bytesOf message).toArray⟩) catch _ => pure ()
    if (network.replies.lookup link).isSome then return some network
    else return some { network with replies := network.replies ++ [(link, ⟨[], false, []⟩)] }
  | .received .. | .delivered .. => return some network
  | .logged record => do
    showRecord limit record
    return some network

def receiveMore (network : Network) (link : Nat) : IO Network := do
  let chunk : Option ByteArray ← match network.sockets[link]? with
    | some socket => try within network.timeout (socket.recv? 65536) catch _ => pure none
    | none => pure none
  let extend (replies : Replies) : Replies := match chunk with
    | some bytes => { replies with bytes := replies.bytes ++ bytes.toList }
    | none => { replies with last := true }
  return { network with replies := network.replies.map fun (other, replies) =>
    (other, if other = link then extend replies else replies) }

/-- Runs the client until it asks for nothing more; `carried` events of its trace are carried out. -/
partial def drive (limit : LogLevel) (client : StateM World Outcome) (network : Network) (carried : Nat) :
    IO Outcome := do
  let (outcome, world) := client.run
    { listening := network.listening, scripts := network.replies.map (·.2), complete := false }
  let reached := (world.starved.map (·.2)).getD world.trace.length
  let mut network := network
  let mut carried := carried
  for event in (world.trace.take reached).drop carried do
    match ← carryOut limit network event with
    | some after =>
      network := after
      carried := carried + 1
    | none =>
      let port := match event with
        | .opened _ port => port
        | _ => 0
      return ← drive limit client (network.close port) carried
  match world.starved with
  | none => return outcome
  | some (link, _) => drive limit client (← receiveMore network link) carried

def contentAt (path : String) : IO (Option Text.Bytes) := do
  try
    let bytes ← IO.FS.readBinFile path
    return some bytes.toList
  catch _ => return none

def runProgram (words : List String) : IO UInt32 := do
  let settings := match read? words with
    | some (.run settings _) => settings
    | _ => []
  let content ← match settings.lookup .config with
    | some path => contentAt path
    | none => pure none
  let reader (path : String) : Except ConfigurationError Configuration := Configuration.read path content
  let configuration := (configurationOf settings reader).toOption.getD {}
  let session := (sessionOf configuration settings).toOption.getD {}
  let outcome ← drive configuration.level (perform words reader)
    { host := session.host, timeout := session.timeout } 0
  outcome.output.forM IO.println
  outcome.errors.forM IO.eprintln
  return outcome.code.toUInt32

end RelationalLearning.CommandLine

def main (words : List String) : IO UInt32 := RelationalLearning.CommandLine.runProgram words
