import Pinpoint.Cli
import Std.Async.TCP
import Std.Async.DNS
/-!
# Main — the program on this machine

Here a run meets files, the environment and the network.  Nothing is decided here: every call either brings bytes or does
not.
-/
namespace Pinpoint
namespace Machine

open Std.Async Std.Net

/-! ## Files -/

def bytesOf (path : String) : IO (Option (List UInt8)) := do
  try
    let b ← IO.FS.readBinFile path
    pure (some b.toList)
  catch _ => pure none

def isThere (path : String) : IO Bool := do
  try
    discard (IO.FS.realPath path)
    pure true
  catch _ => pure false

/-- A directory and those around it. -/
def directoriesOf (path : String) : List String :=
  let names := path.splitOn "/"
  (List.range names.length).map fun n => "/".intercalate (names.take (names.length - n))

/-- The variables that the process was started with. -/
def environment : IO (List (String × String)) := do
  match ← bytesOf "/proc/self/environ" with
  | some l => pure (Variables.ofBlock ((String.fromUTF8? ⟨l.toArray⟩).getD ""))
  | none   => pure []

/-! ## Network -/

/-- Everything that comes over a connection until the other side closes it. -/
partial def receiveAll (c : TCP.Socket.Client) (acc : ByteArray) : Async ByteArray := do
  match ← c.recv? 65536 with
  | some b => receiveAll c (acc ++ b)
  | none   => pure acc

def socketAddress (a : IPAddr) (service : Nat) : SocketAddress :=
  match a with
  | .v4 a => .v4 ⟨a, UInt16.ofNat service⟩
  | .v6 a => .v6 ⟨a, UInt16.ofNat service⟩

/-- One request and what comes back. -/
def exchange (r : Chat.Request) : IO (Option Chat.Answer) := do
  try
    let addresses ← (DNS.getAddrInfo r.address.host (toString r.address.service)).block
    match addresses[0]? with
    | none   => pure none
    | some a =>
      let c ← TCP.Socket.Client.mk
      let b ← (do
        c.connect (socketAddress a r.address.service)
        c.send r.bytes
        receiveAll c ByteArray.empty : Async ByteArray).block
      pure (Chat.Answer.ofBytes? b.toList)
  catch _ => pure none

/-- The ends of tasks as they come, each with its number. -/
partial def joinAll (l : List (Nat × Task (Nat × Option Chat.Answer))) (acc : List (Option Chat.Answer)) :
    IO (List (Option Chat.Answer)) := do
  match l with
  | []         => pure acc.reverse
  | first :: _ =>
    if h : 0 < (l.map (·.2)).length then
      let (n, a) ← IO.waitAny (l.map (·.2)) h
      joinAll (l.filter fun t => t.1 != n) (a :: acc)
    else
      joinAll [] ((first.2.get).2 :: acc)

def send (r : Chat.Request) (votes : Nat) : IO (Joins (Option Chat.Answer)) := do
  let tasks ← (List.range votes).mapM fun n => do
    let t ← IO.asTask (exchange r)
    pure (n, t.map fun
      | .ok a    => (n, a)
      | .error _ => (n, none))
  pure (.ofEnds false ((← joinAll tasks []).map .value))

/-! ## The machine -/

def seed : IO UInt64 := do
  let b ← IO.getRandomBytes 8
  pure (b.toList.foldl (fun n b => n * 256 + b.toUInt64) 0)

def platform : IO (Platform IO) := do
  let here := (← IO.currentDir).toString
  let program ← try pure (some (← IO.appDir).toString) catch _ => pure none
  let given ← environment
  pure {
    file? := bytesOf
    isThere := isThere
    directories := directoriesOf here
    program := program
    environment := fun n => given.lookup n
    letters := do
      let s ← seed
      pure fun i => (Label.nextLetter (Random.ofSeed (s + UInt64.ofNat i))).1
    stopped := pure false
    clearStop := pure ()
    send := send }

end Machine
end Pinpoint

def main (args : List String) : IO UInt32 := do
  let o ← Pinpoint.Cli.run (← Pinpoint.Machine.platform) args
  IO.print o.output
  IO.eprint o.error
  pure o.code.toUInt32
