import CollectionTypes.CommandLine.Run

/-!
# The program

Finds out which files a command line is about, reads them, runs it, and
writes what it changed. The document goes to the standard output, all else
to the standard error. There is no network here, so that every web address
is out of reach.
-/

namespace CollectionTypes

/-- What is found under a path. What cannot be read is taken for a
directory. -/
def nodeAt (path : String) : IO (Option Node) := do
  try
    let bytes ← IO.FS.readBinFile path
    return some (.file (.bytes (bytes.toList.map UInt8.toNat)))
  catch
    | .noFileOrDirectory .. => return none
    | _ => return some .directory

/-- The files with all that is found on the way along a path. -/
def explore (files : Files) (path : String) : IO Files := do
  let p := Path.ofString path
  let mut files := files
  let mut place := Files.start p
  let mut way := p.root
  for part in p.parts do
    place := Files.further place part
    way := way ++ part
    if let some node ← nodeAt way then
      files := files.put place node
    way := way ++ "/"
  return files

/-- The files that a command line is about: those that it names, and the
output that its settings name. -/
def exploreFor (i : CommandLine.Invocation) : IO Files := do
  let w := i.wishes
  let input := match i.input with
    | .file path => [path]
    | _ => []
  let named := input ++ [w.config, w.output, w.saveConfig].filterMap id
  let files ← named.foldlM explore .empty
  match w.settings files with
  | .ok { outputFile := .text path, .. } => explore files path
  | _ => return files

/-- What is on the standard input, if it is what a command line is about. -/
def inputFor (i : CommandLine.Invocation) : IO Content := do
  match i.input with
  | .stdin =>
    let bytes ← IO.FS.Stream.readBinToEnd (← IO.getStdin)
    return .bytes (bytes.toList.map UInt8.toNat)
  | _ => return ""

/-- **What a command line finds.** -/
def surroundingsOf (arguments : List String) : IO CommandLine.Surroundings := do
  let network := Response.fails ⟨"ConnectionError", []⟩
  match CommandLine.Invocation.ofArguments arguments with
  | .ok i => return ⟨← exploreFor i, ← inputFor i, network⟩
  | .error _ => return ⟨.empty, "", network⟩

/-- Write the files that a run changed. -/
def writeChanges (old new : Files) : IO Unit :=
  new.nodes.forM fun (place, node) => do
    match node with
    | .file (.text s) =>
      if old.node? place ≠ some node then
        IO.FS.writeFile (String.join (place.intersperse "/")) s
    | _ => return

end CollectionTypes

open CollectionTypes in
def main (arguments : List String) : IO UInt32 := do
  let around ← surroundingsOf arguments
  let (outcome, trail) := CommandLine.respond around arguments
  writeChanges around.files trail.files
  for e in trail.journal do
    IO.eprintln (e.level.label ++ " " ++ e.text)
  IO.eprint trail.console
  IO.print trail.output
  match outcome with
  | .ok answer =>
    if let some e := answer.usage then
      IO.eprintln e.message
    return UInt32.ofNat answer.exit
  | .error e =>
    IO.eprintln e.message
    return 1
