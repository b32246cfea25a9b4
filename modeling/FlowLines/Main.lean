import FlowLines.CommandLine.Job

/-! The program around a job: files, standard streams and the environment. -/

namespace FlowLines.Main

open FlowLines.CommandLine

def deviceFault (e : IO.Error) : DeviceFault :=
  let numbered (kind : DeviceFault.Kind) (code : UInt32) (details : String) : DeviceFault :=
    ⟨kind, s!"{details} (os error {code})"⟩
  match e with
  | .noFileOrDirectory _ code details => numbered .notFound code details
  | .permissionDenied _ code details => numbered .permissionDenied code details
  | .resourceVanished code details => numbered .brokenPipe code details
  | .interrupted _ code details => numbered .interrupted code details
  | .timeExpired code details => numbered .timedOut code details
  | .inappropriateType _ code details => numbered .other code details
  | .resourceExhausted _ code details => numbered .other code details
  | .invalidArgument _ code details => numbered .other code details
  | .otherError code details => numbered .other code details
  | e => ⟨.other, toString e⟩

def attempt {α : Type} (action : IO α) : IO (Except DeviceFault α) := do
  match ← action.toBaseIO with
  | .ok a => return .ok a
  | .error e => return .error (deviceFault e)

/-- No name service is asked here, so addresses are shown as they are. -/
def service : Host.NameService Unit := fun _ s => (.failed ⟨.other, "no name service"⟩, s)

abbrev Memory : Type := Host.NameCache × Unit

structure Streams where
  input : IO.FS.Stream
  output : IO.FS.Stream
  error : IO.FS.Stream
  log : Filter

/-- What the output refuses stays in the sink. -/
def clear (s : Streams) (desk : Desk Memory) : IO (Except DeviceFault Unit × Desk Memory) := do
  for line in desk.notes.toList.filterMap (Log.note s.log) do s.error.putStrLn line
  let desk := { desk with notes := #[] }
  let result ← attempt do
    unless desk.sink.stored.isEmpty do
      s.output.write (ByteArray.mk desk.sink.stored)
      s.output.flush
  match result with
  | .ok () => return (.ok (), { desk with sink := { desk.sink with stored := #[] } })
  | .error fault => return (.error fault, desk)

def advance (s : Streams) : Job.Stage Memory → IO (Job.Stage Memory)
  | .failed failure desk => return .failed failure (← clear s desk).2
  | .going p => do
    let (result, desk) ← clear s p.desk
    match result with
    | .ok () => return .going { p with desk }
    | .error fault =>
      if fault.kind = .brokenPipe then return .going { p with desk, status := .closed }
      else return .going { p with desk, status := .failed (.device fault) }

def isRunning : Job.Stage Memory → Bool
  | .going { status := .running, .. } => true
  | _ => false

/-- There is none at the end of the input, where no bytes come. -/
def readInput (s : Streams) : IO (Option Reading) := do
  match ← attempt (s.input.read 4096) with
  | .error fault => return some (.fault fault)
  | .ok bytes =>
    match bytes.toList with
    | [] => return none
    | first :: rest => return some (.bytes first rest)

/-- The bytes of the unfinished line are held last first. -/
partial def feed (s : Streams) (job : Job) (r : Reporter Memory) (unfinished : List UInt8)
    (stage : Job.Stage Memory) : IO (Job.Stage Memory) := do
  if !isRunning stage then return stage
  match ← readInput s with
  | none => advance s (job.feed r (Feed.cut [.bytes unfinished.reverse]) stage)
  | some reading =>
    match reading.handOn? with
    | none => feed s job r unfinished stage
    | some (.fault fault) => advance s (job.feed r [.fault fault] stage)
    | some (.bytes bytes) =>
      let (unfinished, done) := Feed.cutBytes unfinished [] bytes
      feed s job r unfinished (← advance s (job.feed r done.reverse stage))

def start (s : Streams) (job : Job) (r : Reporter Memory) : IO (Job.Stage Memory) := do
  match job.start r { memory := ({}, ()) } with
  | .failed failure desk => return .failed failure (← clear s desk).2
  | .going p => do
    match ← clear s p.desk with
    | (.ok (), desk) => return .going { p with desk }
    | (.error fault, desk) => return .failed (.start fault) desk

def runJob (s : Streams) (job : Job) (showStatistics : Bool) : IO (Except Failure Unit) := do
  let r := job.reporter service
  let began ← IO.monoNanosNow
  let stage ← feed s job r [] (← start s job r)
  let elapsed := Time.Span.ofNanos ((← IO.monoNanosNow) - began)
  match Job.finish stage with
  | (.error failure, _) => return .error failure
  | (.ok tally, desk) =>
    -- the last flush offers once more what was refused
    match (← clear s desk).1 with
    | .error fault => return .error (.finish fault)
    | .ok () =>
      if showStatistics then
        let time := String.ofList elapsed.write
        for line in Log.statistics tally time do s.error.putStrLn line
      return .ok ()

def openInput (o : Options) : IO (Except DeviceFault IO.FS.Stream) :=
  match o.input with
  | none => return .ok (← IO.getStdin)
  | some path => attempt (IO.FS.Stream.ofHandle <$> IO.FS.Handle.mk path .read)

def openOutput (o : Options) : IO (Except DeviceFault IO.FS.Stream) :=
  match o.output with
  | none => return .ok (← IO.getStdout)
  | some path => attempt (IO.FS.Stream.ofHandle <$> IO.FS.Handle.mk path .write)

def runOptions (o : Options) (error : IO.FS.Stream) : IO (Except Failure Unit) := do
  let log := Filter.choose (← IO.getEnv "RUST_LOG") o.verbosity
  let file ← o.config.mapM fun path =>
    attempt do return (← (← IO.FS.Handle.mk path .read).readBinToEnd).toList
  match Job.ofOptions o file with
  | .error failure => return .error failure
  | .ok job =>
    for line in Log.settings log job.settings do error.putStrLn line
    match ← openInput o with
    | .error fault => return .error (.input (o.input.getD "") fault)
    | .ok input =>
      match ← openOutput o with
      | .error fault => return .error (.output (o.output.getD "") fault)
      | .ok output => runJob { input, output, error, log } job o.stats

def program (arguments : List String) : IO UInt32 := do
  let error ← IO.getStderr
  match CommandLine.Options.parse arguments with
  | .error (.help extent) =>
    IO.print (Help.text extent)
    return successStatus
  | .error .version =>
    IO.print versionText
    return successStatus
  | .error (.usage fault) =>
    error.putStrLn (Log.usage fault)
    error.putStrLn "\nFor more information, try '--help'."
    return usageStatus
  | .ok o =>
    let result ← runOptions o error
    if let .error failure := result then error.putStrLn (Log.failure failure)
    return endStatus result

end FlowLines.Main

def main (arguments : List String) : IO UInt32 := FlowLines.Main.program arguments
