import SkillKit.Review.Commands
import SkillKit.Workload.Basic

/-!
# Workload: reviews of runs

Workspaces with outputs of many kinds are made, and a static review is written once.  Measured
is the search for runs, the earlier feedback, and the embedding of many small files.
-/

namespace SkillKit.Workload

namespace Reviews

def placeBytes (file : Path) (content : List UInt8) : Act Unit := do
  Act.makeDirs file.parent
  Act.writeBytes file ⟨content.toArray⟩

def padded (width n : Nat) : String :=
  Text.padLeft '0' width (toString n)

def pictureBytes : List UInt8 :=
  [0x89, 0x50, 0x4e, 0x47, 0x0d, 0x0a, 0x1a, 0x0a] ++ List.replicate 32 0

def blobBytes : List UInt8 :=
  (List.replicate 8 [0, 1, 2, 3]).flatten

def placeRun (workspace : Path) (i : Nat) : Act Unit := do
  let number := padded 3 i
  let run := workspace / s!"eval-{number}" / "with_skill"
  let outputs := run / "outputs"
  placeDocument (run / "eval_metadata.json")
    (.object [("eval_id", .nat i), ("prompt", .text s!"prompt {i}")])
  placeDocument (run / "grading.json") (.object [("score", .nat i)])
  placeBytes (outputs / "blob.bin") blobBytes
  place (outputs / "doc.pdf") "%PDF-1.4\n%fake"
  placeBytes (outputs / "img.png") pictureBytes
  place (outputs / "img.svg") "<svg></svg>"
  placeDocument (outputs / "result.json") (.object [("k", .nat i)])
  place (outputs / "result.txt") (Text.repeated 20 "hello world ")
  placeBytes (outputs / "sheet.xlsx") ("PK\x03\x04fake".toUTF8.toList)
  place (outputs / "transcript.md") "skip me"

def review (run feedback : String) : Value :=
  .object [("run_id", .text run), ("feedback", .text feedback)]

def placeWorkspace (workspace : Path) (runs : Nat) : Act Unit := do
  for i in List.range runs do
    placeRun workspace i
  placeDocument (workspace / "feedback.json") (.object [("reviews", .list [
    review "eval-000-with_skill" "good", review "orphan-run" "orphan", review "empty" ""])])

def placeOddWorkspace (workspace : Path) : Act Unit := do
  let x := workspace / "eval-xxx"
  placeDocument (x / "eval_metadata.json") (.object [("prompt", .text "parent")])
  placeDocument (x / "grading.json") (.object [("s", .int 1)])
  place (x / "run" / "outputs" / "a.txt") "x"
  let y := workspace / "eval-yyy" / "run"
  place (y / "grading.json") "not json"
  place (y / "outputs" / "a.txt") "x"
  let z := workspace / "eval-zzz" / "run"
  place (z / "eval_metadata.json") "not json"
  place (z / "outputs" / "a.txt") "x"
  place (z / "transcript.md") "## Eval Prompt\n\nfrom transcript\n## Next"

def placeSpoiltWorkspace (workspace : Path) : Act Unit := do
  place (workspace / "eval-0" / "outputs" / "a.txt") "x"
  place (workspace / "feedback.json") "not json"

def endings : List String :=
  ["txt", "json", "py", "png", "jpg", "svg", "pdf", "xlsx", "bin", "dat"]

def tinyFiles (dir : Path) (count : Nat) : List Path :=
  (List.range count).map fun i =>
    let number := padded 4 i
    let ending := endings[i % endings.length]?.getD ""
    dir / s!"f{number}.{ending}"

def missingFiles (base : Path) : List Path :=
  ["missing.png", "missing.pdf", "missing.xlsx", "missing.bin", "missing.txt"].map base.child

def typedFiles : List String :=
  ["a.svg", "a.xlsx", "a.docx", "a.pptx", "a.txt", "a.png", "a.unknownext", "a.json"]

def kindOf (output : Review.Output) : Except Fault Value :=
  output.toValue.entry "type"

def promptOf (run : Review.Run) : Value :=
  .list [.text (Text.takeChars 5 run.prompt.display), run.evalId]

def work (base : Path) (files : List Path) : Act Value := do
  let runs ← Review.loadRuns (base / "ws")
  let odd ← Review.loadRuns (base / "ws2")
  let kinds ← (files ++ missingFiles base).mapM fun file => do
    Act.ofExcept (kindOf (← Review.loadOutput file))
  return .list ([
      .nat runs.length, .texts ((runs.take 3).map (·.id)), .list (odd.map promptOf)]
    ++ typedFiles.map (fun name => .text (Review.mediaType (Path.ofString name)))
    ++ kinds)

def prepare (base : Path) (runs : Nat) : Act (Act Value) := do
  let workspace := base / "ws"
  placeWorkspace workspace runs
  placeOddWorkspace (base / "ws2")
  placeSpoiltWorkspace (base / "ws3")
  Act.makeDirs (base / "empty_ws")
  placeDocument (base / "bm.json") (.object [("metadata", .object [])])
  let files := tinyFiles (base / "tiny") (4 * runs)
  for file in files do
    place file "x"
  Review.freePort (.int 59999)
  let target := (base / "review.html").toString
  discard (Review.command [workspace.toString, "--skill-name", "s", "--static", target,
    "--previous-workspace", (base / "ws2").toString, "--benchmark", (base / "bm.json").toString])
  discard (Review.command [(base / "notadir").toString])
  discard (Review.command [(base / "empty_ws").toString])
  return work base files

end Reviews

def reviews : Workload where
  name := "generate_review"
  parameter := "n_runs"
  sizes := [10, 30, 80]
  prepare := Reviews.prepare

end SkillKit.Workload
