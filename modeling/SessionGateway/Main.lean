import SessionGateway.Client.Nonce
import SessionGateway.Probe.Run
import Std.Async.DNS
import Std.Async.TCP
import Std.Async.Timer
import Std.Time

/-! The probe as a program: files, variables, clock, random numbers and connections are read here,
and everything else is asked of the library. -/

namespace SessionGateway.Probe

open Std Async

/-- The variables of the process, as far as they are texts. -/
def readVariables : IO Environment.Variables := do
  let bytes ← IO.FS.readBinFile "/proc/self/environ"
  let entries := (bytes.toList.splitOn 0).filterMap Text.ofUtf8?
  return entries.filterMap fun entry =>
    match entry.span (· != '=') with
    | (name, _ :: value) => some (String.ofList name, String.ofList value)
    | _ => none

/-- The text of a file, if there is one. -/
def readFile? (name : String) : IO (Option String) :=
  try
    let bytes ← IO.FS.readBinFile name
    return (Text.ofUtf8? bytes.toList).map String.ofList
  catch _ => return none

/-- The files that the configuration can be in. -/
def readDirectory (config : Option String) : IO Directory := do
  let files ← (ConfigFile.candidates (config.getD ConfigFile.defaultName)).filterMapM fun name => do
    return (← readFile? name).map (name, ·)
  return ⟨"", fun name => files.lookup name⟩

def randomSuffix : IO String := do
  let bytes ← IO.getRandomBytes 16
  return Nonce.suffix (bytes.toList.foldl (fun n b => 256 * n + b.toNat) 0 % Nonce.count)

def socketAddress (ip : Net.IPAddr) (port : UInt16) : Net.SocketAddress :=
  match ip with
  | .v4 addr => .v4 ⟨addr, port⟩
  | .v6 addr => .v6 ⟨addr, port⟩

/-- A connection to the first address of the host that takes it. -/
def connect (address : Http.Address) : Async TCP.Socket.Client := do
  let host := String.ofList (address.host.text.toList.filter fun c => c != '[' && c != ']')
  let ips ← DNS.getAddrInfo host ""
  let rec tryAll : List Net.IPAddr → Async TCP.Socket.Client
    | [] => throw (.userError "nobody answers")
    | ip :: rest => do
      try
        let client ← TCP.Socket.Client.mk
        client.connect (socketAddress ip address.port.toUInt16)
        return client
      catch _ => tryAll rest
  tryAll ips.toList

/-- Runs until a moment, counted in milliseconds as the monotonic clock does. -/
def before {α : Type} (deadline : Nat) (late : α) (x : Async α) : Async α := do
  let now ← IO.monoMsNow
  if deadline ≤ now then return late
  let limit : Async α := do
    sleep (Time.Millisecond.Offset.ofNat (deadline - now))
    return late
  have : Inhabited α := ⟨late⟩
  Async.race x limit

/-- Bytes until the connection ends, nothing more can matter, or time is up. -/
partial def receive (client : TCP.Socket.Client) (deadline : Nat) (done : List UInt8) :
    Async Http.Delivery := do
  if Http.isSettled done then return ⟨done, true⟩
  match ← before deadline none (some <$> client.recv? 65536) with
  | none => return ⟨done, true⟩
  | some none => return ⟨done, false⟩
  | some (some bytes) => receive client deadline (done ++ bytes.toList)

/-- What comes back for a request; nothing where nobody answers, or where the channel is not plain,
since this program has no TLS. -/
def deliver (deadline : Nat) (request : Http.WireRequest) : IO (Option Http.Delivery) :=
  if request.channel ≠ .plain then return none
  else try
    Async.block do
      match ← before deadline none (some <$> connect request.address) with
      | none => return some ⟨[], true⟩
      | some client =>
        client.send ⟨request.bytes.toArray⟩
        return some (← receive client deadline [])
  catch _ => return none

/-- A moment in universal time, to the microsecond. -/
def timeText (moment : Time.Timestamp) : String :=
  (Time.PlainDateTime.ofWallTime (moment.toWallTime .zero)).format "uuuu-MM-dd'T'HH:mm:ss.SSSSSS'Z'"

def printLine (line : LogLine) : IO Unit := do
  let time := timeText (← Time.Timestamp.now)
  match line with
  | .notice text => IO.eprintln text
  | .plain text => IO.eprintln (time ++ " " ++ text)
  | .object fields =>
    IO.eprintln (Json.object (("timestamp", .string time) :: fields)).text

/-- Carries a dialogue out over real connections. -/
def perform (logging : Logging) (deadline : Nat) :
    Http.Dialogue → IO (Except Http.ExchangeFault Response)
  | .ended result => return result
  | .noted notes rest => do
    (logging.lines (notes.map noteEvent)).forM printLine
    perform logging deadline rest
  | .asks request next => do
    let delivery ← deliver deadline request
    perform logging deadline (next delivery)

/-- Says what a report says, and gives its exit code. -/
def printReport (report : Report) : IO UInt32 := do
  report.log.forM printLine
  IO.print report.ending.output
  report.ending.complaint.forM IO.eprintln
  return report.ending.exitCode.toUInt32

def call (proxies : Http.Proxies) (prepared : Prepared) : IO UInt32 := do
  prepared.log.forM printLine
  let moment ← Time.Timestamp.now
  let request :=
    prepared.request (.ofInt moment.toMillisecondsSinceUnixEpoch.val) (← randomSuffix)
  let start ← IO.monoMsNow
  let deadline := start + (prepared.timeout.totalNanoseconds + 999999) / 1000000
  let result ← perform prepared.logging deadline (Http.dialogue proxies request)
  let elapsed := (← IO.monoMsNow) - start
  printReport (prepared.report request (result.mapError Http.ExchangeFault.failure)
    (toString elapsed))

def runProgram (words : List String) : IO UInt32 := do
  let environment ← readVariables
  match Invocation.ofWords words environment with
  | .error detour =>
    let stream ← match detour with
      | .fault _ => IO.getStderr
      | _ => IO.getStdout
    printReport (detour.report environment (← stream.isTty))
  | .ok invocation =>
    let directory ← readDirectory invocation.config
    match prepare directory environment invocation with
    | .error report => printReport report
    | .ok prepared => call (proxiesOf environment) prepared

end SessionGateway.Probe

def main (words : List String) : IO UInt32 := SessionGateway.Probe.runProgram words
