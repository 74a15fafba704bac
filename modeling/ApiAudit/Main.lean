import ApiAudit.CommandLine.Check
import ApiAudit.CommandLine.Tasks

/-!
# Main — the command line

`api-audit check ARGS…` runs the check command (`CommandLine.checkCommand`) and
`api-audit tasks ARGS…` the task command (`CommandLine.tasksCommand`).

This is the outer layer: it reads the working directory into a file tree (where commands see it
as `/work`), takes `FORBIDDENAPIS_ENGINE` from the environment, runs the command on the tree,
writes back the files the command created or changed under the working directory, prints the
error stream and exits with the command's code.
-/

open ApiAudit

namespace ApiAudit.Shell

/-- How deep directories are read. -/
def maxDepth : Nat := 64

/-- Reads the real directory `rel` (relative to the working directory) into the tree. -/
partial def loadDir (tree : FileTree) (rel : String) (depth : Nat) : IO FileTree := do
  let root ← IO.currentDir
  let here := if rel.isEmpty then root else root / rel
  let entries ← here.readDir
  let mut t := tree
  for e in entries do
    let child := if rel.isEmpty then e.fileName else rel ++ "/" ++ e.fileName
    let modelPath := Path.workDir ++ "/" ++ child
    let real := root / child
    if ← real.isDir then
      t := (t.makeDirs modelPath).toOption.getD t
      if depth > 0 then t ← loadDir t child (depth - 1)
    else
      let bytes ← IO.FS.readBinFile real
      t := (t.writeFile modelPath bytes.toList).toOption.getD t
  pure t

/-- Writes back the regular files under the working directory that a run created or changed. -/
def saveChanges (before after : FileTree) : IO Unit := do
  let root ← IO.currentDir
  for (comps, entry) in after.entries do
    match comps, entry with
    | "work" :: rest@(_ :: _), .file data =>
      let unchanged := match before.lookup comps with
        | some (.file old) => old == data
        | _ => false
      if !unchanged then
        let real := root / ("/".intercalate rest)
        if let some parent := real.parent then IO.FS.createDirAll parent
        IO.FS.writeBinFile real (ByteArray.mk data.toArray)
    | _, _ => pure ()

/-- Runs a command on the working directory and reports it. -/
def runCommand (command : Audit CommandLine.Ending) : IO UInt32 := do
  let tree ← loadDir FileTree.initial "" maxDepth
  let engine ← IO.getEnv "FORBIDDENAPIS_ENGINE"
  let env := Environment.base.extend ((engine.map fun v => ("FORBIDDENAPIS_ENGINE", v)).toList)
  let (r, s) := command.run { tree, env }
  let stderr ← IO.getStderr
  match r with
  | .error f =>
    stderr.putStrLn s!"ERROR: {f.text}"
    pure 4
  | .ok ending =>
    if !ending.refused then
      for line in Journal.stream ending.threshold s.journal do
        stderr.putStrLn line
      saveChanges tree s.tree
    pure ending.code.toUInt32

end ApiAudit.Shell

/-- The entry point: `check` or `tasks`, then the command's arguments. -/
def main (args : List String) : IO UInt32 :=
  match args with
  | "check" :: rest => ApiAudit.Shell.runCommand (CommandLine.checkCommand rest)
  | "tasks" :: rest => ApiAudit.Shell.runCommand (CommandLine.tasksCommand rest)
  | _ => do
    (← IO.getStderr).putStrLn "usage: api-audit (check | tasks) [options]"
    pure 2
