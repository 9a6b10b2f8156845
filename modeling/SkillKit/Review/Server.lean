import SkillKit.Decimal.Reader
import SkillKit.Review.Page

/-!
# Serving a review

The page is made anew for every request, so that new outputs show.  Feedback is taken as a JSON
object with reviews; anything else is refused and leaves the feedback as it was.
-/

namespace SkillKit.Review

open Text

structure Site where
  workspace : Path
  skillName : String
  previous : Value
  benchmark : Option Path

structure Request where
  method : String
  path : String
  body : ByteArray := .empty
  contentLength : Option String := none

inductive Response where
  | page (html : String)
  | data (status : Nat) (body : ByteArray)
  | notFound
  | notImplemented

def loadBenchmark (file : Option Path) : Act Value := do
  match file with
  | none => return .null
  | some file => return (← loadJson? file).getD .null

def sitePage (site : Site) : Act Response := do
  let runs ← loadRuns site.workspace
  let benchmark ← loadBenchmark site.benchmark
  let template := (← get).viewer
  let html ← Act.ofExcept
    (page template (.list (runs.map (·.toValue))) site.skillName site.previous benchmark)
  return .page html

def currentFeedback (site : Site) : Act Response := do
  let file := feedbackFile site.workspace
  if ← Act.pathExists file then return .data 200 (← Act.readBytes file)
  return .data 200 "\x7b\x7d".toUTF8

def readBody (request : Request) : Except Fault ByteArray :=
  match request.contentLength with
  | none => .ok .empty
  | some text =>
    match Decimal.readInt? text with
    | none => .error .unusable
    | some n => .ok (if n < 0 then request.body else request.body.extract 0 n.toNat)

def decodeBody (body : ByteArray) : Except Fault String :=
  let bytes := withoutMark body
  match decode? bytes, findMalformed 0 [] none bytes.toList with
  | some text, _ => .ok text
  | none, some m => .error (.malformedText m.message)
  | none, none => .error .notText

def readFeedback (body : ByteArray) : Except Fault Value := do
  let text ← decodeBody body
  let data ← Json.read text
  match data with
  | .dict fields =>
    if Fields.has fields (.text "reviews") then return data
    throw (.refused "Expected JSON object with 'reviews' key")
  | _ => throw (.refused "Expected JSON object with 'reviews' key")

def saveFeedback (site : Site) (body : ByteArray) : Act Unit := do
  let data ← Act.ofExcept (readFeedback body)
  let text ← Act.ofExcept (Json.writeIndented data)
  Act.writeText (feedbackFile site.workspace) (text ++ "\n")

def takeFeedback (site : Site) (request : Request) : Act Response := do
  let body ← Act.ofExcept (readBody request)
  match ← Act.result (saveFeedback site body) with
  | .ok _ => return .data 200 "\x7b\"ok\":true\x7d".toUTF8
  | .error f =>
    if f.isOutside || f.isBadJson || f.isBadValue then
      let reason := f.about (feedbackFile site.workspace).toString
      let text ← Act.ofExcept (Json.write (.object [("error", .text reason)]))
      return .data 500 text.toUTF8
    else throw f

def respond (site : Site) (request : Request) : Act Response :=
  match request.method, request.path with
  | "GET", "/" => sitePage site
  | "GET", "/index.html" => sitePage site
  | "GET", "/api/feedback" => currentFeedback site
  | "POST", "/api/feedback" => takeFeedback site request
  | "GET", _ => return .notFound
  | "POST", _ => return .notFound
  | _, _ => return .notImplemented

/-! ## Freeing a port -/

def stopProcess (line : String) : Act Unit := do
  match Decimal.readInt? (strip line) with
  | some process => Act.record (.signalled process 15)
  | none => return

def freePort (port : Value) : Act Unit := do
  match ← Act.result (Act.runCommand ["lsof", "-ti", ":" ++ port.display] none none) with
  | .ok done =>
    let out := strip done.out
    for line in splitOnChar '\n' out do stopProcess line
    if !out.isEmpty then Act.record (.paused 0.5)
  | .error (.timedOut ..) => return
  | .error (.noCommand _) =>
    Act.warnLine "Note: lsof not found, cannot check if port is in use"
  | .error f => throw f

end SkillKit.Review
