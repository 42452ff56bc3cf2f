import ShellGuard.CommandLine.Execution
import ShellGuard.CommandLine.Grammar
import ShellGuard.System.Account
import ShellGuard.System.EnvironmentFile

/-!
# The command line

Asks the system about everything that a request may need, runs the request, and does what the run
says.  Whether something that was written got there is one more answer of the system, and the
request is run again with it.
-/

namespace ShellGuard

/-- The answer of the system that an error stands for. -/
def answerOfError (e : IO.Error) : IoError :=
  match e with
  | .noFileOrDirectory _ _ _ => .notFound
  | .inappropriateType _ code _ => if code = 21 then .isDirectory else .notDirectory
  | .resourceExhausted _ 36 _ => .nameTooLong
  | .resourceExhausted _ code details | .permissionDenied _ code details
  | .invalidArgument _ code details | .resourceVanished code details | .hardwareFault code details
  | .otherError code details =>
    .other (.concat [details.toList, " (os error ", .ofNat code.toNat, ")"])
  | e => .other (toString e).toList

def readPath (path : Path) : IO (Except IoError Decoded) := do
  match ← (IO.FS.readBinFile (String.ofList path)).toBaseIO with
  | .ok octets => return .ok (Decoded.ofOctets octets.toList)
  | .error e => return .error (answerOfError e)

def isFileAt (path : Path) : IO Bool := do
  match ← (System.mkFilePath [String.ofList path]).metadata.toBaseIO with
  | .ok found => return found.type == .file
  | .error _ => return false

def askToRead (path : Path) : IO (Path × Entry) := do
  return (path, ⟨← isFileAt path, ← readPath path, .ok ()⟩)

/-- The answers about a path that is read if a regular file is there. -/
def askForFile (path : Path) : IO (Path × Entry) := do
  if ← isFileAt path then return (path, ⟨true, ← readPath path, .ok ()⟩)
  else return (path, ⟨false, .error .notFound, .ok ()⟩)

/--
The answers about some paths, by path.  Nothing is at any other, and files may be written anywhere
as long as nothing else is known.
-/
def entriesOf (answers : List (Path × Entry)) (path : Path) : Entry :=
  match answers.find? fun answer => answer.1 = path with
  | some (_, entry) => entry
  | none => ⟨false, .error .notFound, .ok ()⟩

/-- The text of a table of the system, empty where there is none. -/
def readTable (path : Path) : IO Text := do
  match ← readPath path with
  | .ok table => return table.text
  | .error _ => return []

def processEnvironment : IO Environment := do
  let entries := (← readTable "/proc/self/environ").splitOn '\x00'
  return fun name => entries.findSome? fun entry => Text.dropLead? (name ++ ['=']) entry

/-- The variables of the process and those of the nearest environment file. -/
def fullEnvironment : IO Environment := do
  let environment ← processEnvironment
  let directory := (toString (← IO.currentDir)).toList
  match ← (EnvironmentFile.searchPaths directory).findM? isFileAt with
  | some path =>
    match ← readPath path with
    | .ok file => return environment.extend file
    | .error _ => return environment
  | none => return environment

def accountHome? : IO (Option Path) := do
  let status ← readTable "/proc/self/status"
  let accounts ← readTable "/etc/passwd"
  return (Account.userId? status).bind (Account.home? accounts)

def readStandardInput : IO (Except IoError Decoded) := do
  match ← ((← IO.getStdin).readBinToEnd).toBaseIO with
  | .ok octets => return .ok (Decoded.ofOctets octets.toList)
  | .error e => return .error (answerOfError e)

/-- Writes to a stream, if there is anything to write, and answers whether that got there. -/
def writeStream (stream : IO.FS.Stream) (text : Text) : IO Reply := do
  if text = [] then return .taken
  match ← (stream.putStr (String.ofList text) *> stream.flush).toBaseIO with
  | .ok () => return .taken
  -- How much of the text got there is not known, and nothing depends on it any more.
  | .error e => return .refused 0 (answerOfError e)

/-- The world with the answers to a file that is opened and written. -/
def writeFile (world : World) (path : Path) (text : Text) : IO World := do
  match ← (IO.FS.Handle.mk (String.ofList path) .write).toBaseIO with
  | .ok handle =>
    let reply ← writeStream (.ofHandle handle) text
    return { world with file := fun _ _ => reply }
  | .error e =>
    let refused path := { world.entry path with writable := .error (answerOfError e) }
    return { world with entry := refused }

def worldOf (environment : Environment) (request : Request) : IO World := do
  let accountHome? ← accountHome?
  let input ← if request.readsInput then readStandardInput else pure (.ok (.ofText []))
  let bare : World := { environment, accountHome?, entry := entriesOf [], input }
  let read ← request.readPaths.mapM askToRead
  let searched ← (request.searchedPaths bare).mapM askForFile
  return { bare with entry := entriesOf (read ++ searched) }

/-- Does what a request asks for, and answers with the exit code. -/
def perform (environment : Environment) (request : Request) : IO UInt32 := do
  let stdout ← IO.getStdout
  let stderr ← IO.getStderr
  let world ← worldOf environment request
  -- With a result that is refused, the standard output shows what stands in front of it.
  let line := (request.execute .plain { world with output := .refusing .sinkClosed }).2.output
  let reply ← writeStream stdout line
  let world := { world with published := fun _ => reply }
  let trace := (request.execute .plain world).2
  let reply ← writeStream stdout (trace.output.drop line.length)
  let world := { world with output := fun _ => reply }
  let world ← trace.files.foldlM (fun world (path, text) => writeFile world path text) world
  let trace := (request.execute .plain world).2
  -- Nobody notices records that do not get into the log.
  let _ ← writeStream stderr (trace.logs.flatMap fun record => record.line ++ ['\n'])
  let reply ← writeStream stderr trace.messages
  let (failure?, _) := request.execute .plain { world with messages := fun _ => reply }
  return UInt32.ofNat (Request.exitCode failure?)

end ShellGuard

def main (words : List String) : IO UInt32 := do
  let environment ← ShellGuard.fullEnvironment
  match ShellGuard.Request.ofWords environment (words.map String.toList) with
  | .ok request => ShellGuard.perform environment request
  | .error stop =>
    let stream ← if stop.isAnswer then IO.getStdout else IO.getStderr
    let _ ← ShellGuard.writeStream stream stop.text
    return UInt32.ofNat stop.exitCode
