import TagLint.Command.Run
import TagLint.Log

/-! The program: takes in what surrounds a run, carries the run out, prints what comes of it. -/
namespace TagLint.Command
open Text

abbrev Entry := List Text × Node

def fileName (parts : List Text) : String := String.ofList (Path.ofParts parts).toText

/-- What stands under a name, links not followed; the bytes of a file when they are wanted. -/
def entryAt (wanted : Bool) (parts : List Text) : IO (List Entry) := do
  try
    let path := (← IO.currentDir) / fileName parts
    match (← path.symlinkMetadata).type with
    | .dir => return [(parts, .dir)]
    | .symlink => return [(parts, .link (← IO.FS.realPath path).toString.toList)]
    | _ =>
      let bytes ← if wanted then IO.FS.readBinFile path else pure ByteArray.empty
      return [(parts, .file bytes.toList)]
  catch _ => return []

/-- An entry and those on the way to it. -/
def entriesTo (parts : List Text) : IO (List Entry) := do
  return (← (Discovery.ancestors parts).mapM (entryAt true)).flatten

/-- Everything below a directory, with the bytes of the files that are taken. -/
partial def entriesBelow (s : FileTree.Selection) (dir : List Text) : IO (List Entry) := do
  try
    let children := (← ((← IO.currentDir) / fileName dir).readDir).toList
    let found ← children.mapM fun child => do
      let name := child.fileName.toList
      let own ← entryAt (s.takes name) (dir ++ [name])
      match own with
      | [(parts, .dir)] =>
        if s.excludedDirs.contains name then return own
        else return own ++ (← entriesBelow s parts)
      | _ => return own
    return found.flatten
  catch _ => return []

/-- The settings and module files in a directory and above it. -/
def settingsEntries (dir : List Text) : IO (List Entry) := do
  let names := Discovery.fileNames ++ [Discovery.moduleFile]
  let paths := (Discovery.ancestors dir).flatMap fun d => names.map fun name => d ++ [name]
  return (← paths.mapM (entryAt true)).flatten

/-- The directories that a typed path may lead to. -/
def placesOf (cwd : List Text) (typed : Text) : IO (List (List Text)) := do
  let parts := ({ cwd } : FileTree).resolve (.ofText typed)
  try
    let real ← IO.FS.realPath (fileName parts)
    return [parts, Path.components real.toString.toList]
  catch _ => return [parts]

/-- The variables that settings may come from. -/
def environmentNames : List String :=
  let names := Settings.variableNames
  let sections := names.sections.flatMap fun (name, keys) =>
    name :: keys.map fun (key, _) => name ++ names.cut ++ key
  "GORMLINT_CONFIG" :: (Settings.flagNames ++ sections).map fun name =>
    (String.ofList (names.start ++ name)).toUpper

def readEnvironment : IO (List (Text × Text)) := do
  let found ← environmentNames.mapM fun name => do
    return (← IO.getEnv name).map fun value => (name.toList, value.toList)
  return found.filterMap id

/-- The files below the directories that a run with these settings looks into. -/
def filesFor (tree : FileTree) (s : Settings) (places : List (List Text)) : IO (List Entry) := do
  let plugins := s.projectRoot.append (.ofText s.sections.plugins.localDir)
  let dirs := places.filter fun p => tree.isDir (.ofParts p)
  let sources ← dirs.mapM (entriesBelow ⟨s.sections.lint.patterns, s.sections.lint.excludedDirs⟩)
  let local_ ← entriesBelow ⟨["*.py".toList], []⟩ plugins.parts
  return local_ ++ sources.flatten

/-- What surrounds a run with these arguments. -/
def readSurroundings (args : List Text) : IO Surroundings := do
  let cwd := Path.components (← IO.currentDir).toString.toList
  let environment ← readEnvironment
  let typed := args ++ environment.map (·.2)
  let places := (← typed.mapM (placesOf cwd)).flatten
  let named ← (cwd :: places).mapM fun p => do return (← entriesTo p) ++ (← settingsEntries p)
  let stdin ←
    if args.contains ['-'] then do pure (← (← IO.getStdin).readToEnd).toList else pure []
  let w : Surroundings := ⟨⟨named.flatten, cwd⟩, environment, stdin⟩
  match readProgram w.tree args with
  | .ok (.run s) =>
    match (Settings.load w (givenOf .scanner w.tree s)).1 with
    | .ok settings =>
      let more ← filesFor w.tree settings places
      return { w with tree := { w.tree with entries := w.tree.entries ++ more } }
    | .error _ => return w
  | _ => return w

def Breakdown.message : Breakdown → Text
  | settings e => e.message
  | render e => e.message

def logLine (json : Bool) (w : LogWarning) : String :=
  let e : LogEvent := ⟨LogEvent.ownLogger, .warning, w.message, []⟩
  String.ofList (if json then e.toJson.compact false else e.line)

end TagLint.Command

def main (args : List String) : IO UInt32 := do
  let args := args.map String.toList
  let w ← TagLint.Command.readSurroundings args
  let r := TagLint.Command.run w args
  let stderr ← IO.getStderr
  for entry in r.log do
    stderr.putStrLn (TagLint.Command.logLine (args.contains "--log-json".toList) entry)
  (← IO.getStdout).putStr (String.ofList r.stdout)
  stderr.putStr (String.ofList r.stderr)
  match r.breakdown with
  | some b => stderr.putStrLn ("Error: " ++ String.ofList b.message)
  | none => pure ()
  return r.exit.toUInt32
