import Pinpoint.Cli.Arguments
import Pinpoint.Config.Place
import Pinpoint.Registry
import Pinpoint.Search.Locator
import Pinpoint.Variables
/-!
# Cli — the command line

One run looks for one element in one picture and prints what it came to.  The element is a record of its own, or the one of a
list of records that a text means.  Whatever goes wrong ends the run with its message; the order in which things are looked
at is the order in which they can fail.

The machine is a parameter: a run only says which files it reads and what it sends.
-/
namespace Pinpoint

/-- What a run asks of the machine. -/
structure Platform (m : Type → Type) where
  /-- The bytes of a file, unless it cannot be read. -/
  file? : String → m (Option (List UInt8))
  /-- Whether there is anything at a path. -/
  isThere : String → m Bool
  /-- The working directory and those around it, innermost first. -/
  directories : List String
  /-- The directory of the program. -/
  program : Option String
  /-- The variables of the environment. -/
  environment : String → Option String
  /-- Letters for labels. -/
  letters : m (Nat → Fin 36)
  /-- Was a stop requested? -/
  stopped : m Bool
  clearStop : m Unit
  /-- What comes back when a request is sent several times at once; nothing from a connection that broke. -/
  send : Chat.Request → Nat → m (Joins (Option Chat.Answer))

namespace Cli

/-- How a run ends: its code and what it prints. -/
structure Outcome where
  code   : UInt8
  output : String
  error  : String
  deriving DecidableEq, Repr, Inhabited

variable {m : Type → Type} [Monad m]

/-! ## Files -/

def readBytes (p : Platform m) (path : String) (e : Fault) : ExceptT Fault m (List UInt8) := do
  match ← p.file? path with
  | some l => pure l
  | none   => throw e

def readText (p : Platform m) (path : String) : ExceptT Fault m String := do
  match String.fromUTF8? ⟨(← readBytes p path (.io "cannot be read")).toArray⟩ with
  | some s => pure s
  | none   => throw (.io "not a text")

/-- The first file of a name in the directories. -/
def findFile (p : Platform m) (name : String) : List String → m (Option (List UInt8))
  | []     => pure none
  | d :: l => do
    match ← p.file? (d ++ "/" ++ name) with
    | some b => pure (some b)
    | none   => findFile p name l

/-- The environment with what the file of variables nearest to the working directory adds to it. -/
def environment (p : Platform m) : m (String → Option String) := do
  let text := ((← findFile p ".env" p.directories).bind fun l => String.fromUTF8? ⟨l.toArray⟩).getD ""
  pure (Variables.look p.environment (Variables.read p.environment text))

/-- The first place where there is something. -/
def firstThere (p : Platform m) : List String → m (Option String)
  | []        => pure none
  | path :: l => do if ← p.isThere path then pure (some path) else firstThere p l

def readConfig (p : Platform m) (env : String → Option String) (path : Option String) : ExceptT Fault m Config := do
  let path ← match path with
    | some path => pure path
    | none      =>
      match ← (firstThere p (Config.places p.program env) : m (Option String)) with
      | some path => pure path
      | none      => throw Config.notFound
  Config.ofText (← readText p path)

/-- Whether the name of a file is that of a picture. -/
def isPictureName (path : String) : Bool :=
  let name := (path.toList.reverse.takeWhile (· != '/')).reverse
  let suffix := ((name.reverse.takeWhile (· != '.')).reverse).map Char.toLower
  suffix.length + 1 < name.length && (suffix = "png".toList || suffix = "apng".toList)

def readPicture (p : Platform m) (path : String) : ExceptT Fault m Picture := do
  let l ← readBytes p path (.image "cannot be read")
  match if isPictureName path then Png.decode? l else none with
  | some q => pure q
  | none   => throw (.image "not a picture")

/-- The screen is the picture that was given. -/
def readCapture (p : Platform m) (o : Options) : ExceptT Fault m (Except Fault (Capture Float)) := do
  match o.image with
  | some path => pure (.ok (Capture.ofPicture (← readPicture p path) o.scale))
  | none      => pure (.error (.perception "no monitor found"))

def elementsOfText (s : String) : Except Fault (List Element) :=
  match (Json.parse? s).bind fun j => j.arr?.bind (·.mapM Element.ofJson?) with
  | some l => .ok l
  | none   => .error (.json "not a list of records")

/-- The store of elements in their order. -/
def storeOf (l : List Element) : Except Fault (Store Float32) := l.foldlM (Store.insert Embedder.standard) Store.empty

/-! ## The world of a search -/

/-- What a poll brings in: every vote is sent and answered on its own. -/
def poll (p : Platform m) (t : Registry.Team) (q : Poll) : m (Joins String) := do
  let (provider, call) := t.get (.ofSchema q.schema)
  match (Png.encodeText q.picture).bind fun s => provider.request call q.schema q.prompt (some s) with
  | .ok r    => pure ((← p.send r q.votes).map (TaskEnd.andThen Chat.outcome))
  | .error e => pure (.ofEnds (← p.stopped) (List.replicate q.votes (.fault e)))

def world (p : Platform m) (t : Registry.Team) (s : LocatorSettings Float32 Float) : (q : Query) → m (q.Reply Float32)
  | .stopped   => p.stopped
  | .clearStop => p.clearStop
  | .letters   => p.letters
  | .poll q    => poll p t q
  | .gather q whole reference => do
    let votes ← poll p t q
    let stopped ← p.stopped
    pure ⟨votes, Match.detect s.feature s.template stopped whole reference, false⟩

/-! ## A run -/

/-- The search that the options mean. -/
def search (p : Platform m) (o : Options) (s : LocatorSettings Float32 Float) (shot : Except Fault (Capture Float)) :
    ExceptT Fault m (Dialogue Float32 Location) := do
  match o.element, o.store, o.query with
  | some path, _, _ => do
    let e ← Element.ofText (← readText p path)
    pure (Locator.locate s shot e o.testData)
  | none, some path, some query => do
    let l ← elementsOfText (← readText p path)
    let store ← storeOf l
    pure (Locator.locateByText s shot Embedder.standard store query o.testData o.minScore)
  | _, _, _ => throw (.invalidInput "pass --element, or --store together with --query")

/-- **The answer to the options.** -/
def locate (p : Platform m) (env : String → Option String) (o : Options) : ExceptT Fault m Json := do
  let c ← readConfig p env o.config
  let shot ← readCapture p o
  let team ← (Registry.ofConfig env c).team
  let d ← search p o c.locator shot
  let l ← ExceptT.mk (d.run (world p team c.locator))
  l.toJson

/-- **One run of the program.** -/
def run (p : Platform m) (args : List String) : m Outcome := do
  let env ← environment p
  match parse args with
  | .help     => pure ⟨0, helpText ++ "\n", ""⟩
  | .version  => pure ⟨0, versionText ++ "\n", ""⟩
  | .misuse t => pure ⟨2, "", "error: " ++ t ++ "\n\n" ++ usage ++ "\n\nFor more information, try '--help'.\n"⟩
  | .run o    =>
    match ← (locate p env o).run with
    | .ok j    => pure ⟨0, j.toPretty ++ "\n", ""⟩
    | .error e => pure ⟨1, "", "error: " ++ e.message ++ "\n"⟩

end Cli
end Pinpoint
