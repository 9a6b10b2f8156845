import SkillKit.Host
import SkillKit.Review.MediaType
import SkillKit.Text.Base64

/-!
# Outputs of a run

A file that a run has left is put into the page as a whole: text as text, anything else in
base 64.  A file that cannot be read leaves a note.
-/

namespace SkillKit.Review

open Text

inductive Output where
  | text (name content : String)
  | image (name mime data : String)
  | document (name mime data : String)
  | sheet (name data : String)
  | binary (name mime data : String)
  | unreadable (name : String)
deriving Repr, DecidableEq

def unreadableNote : String := "(Error reading file)"

namespace Output

def dataUri (mime data : String) : String :=
  s!"data:{mime};base64,{data}"

def entry (name kind : String) (more : List (String × String)) : Value :=
  .object ([("name", .text name), ("type", .text kind)] ++ more.map fun (k, v) => (k, .text v))

def toValue : Output → Value
  | .text name content => entry name "text" [("content", content)]
  | .image name mime data => entry name "image" [("mime", mime), ("data_uri", dataUri mime data)]
  | .document name mime data => entry name "pdf" [("data_uri", dataUri mime data)]
  | .sheet name data => entry name "xlsx" [("data_b64", data)]
  | .binary name mime data => entry name "binary" [("mime", mime), ("data_uri", dataUri mime data)]
  | .unreadable name => entry name "error" [("content", unreadableNote)]

end Output

def textEndings : List String := [
  ".txt", ".md", ".json", ".csv", ".py", ".js", ".ts", ".tsx", ".jsx", ".yaml", ".yml", ".xml",
  ".html", ".css", ".sh", ".rb", ".go", ".rs", ".java", ".c", ".cpp", ".h", ".hpp", ".sql", ".r",
  ".toml"]

def imageEndings : List String := [".png", ".jpg", ".jpeg", ".gif", ".svg", ".webp"]

def base64 (b : ByteArray) : String :=
  String.ofList (encodeBase64 b.toList)

def outputOf (path : Path) (content : Option ByteArray) : Output :=
  let name := path.name
  let ending := lower path.suffix
  let mime := mediaType path
  match content with
  | none => if textEndings.contains ending then .text name unreadableNote else .unreadable name
  | some b =>
    if textEndings.contains ending then .text name (unifyLines (decodeForgiving b))
    else if imageEndings.contains ending then .image name mime (base64 b)
    else if ending == ".pdf" then .document name mime (base64 b)
    else if ending == ".xlsx" then .sheet name (base64 b)
    else .binary name mime (base64 b)

def loadOutput (path : Path) : Act Output := do
  match ← Act.result (Act.readBytes path) with
  | .ok b => return outputOf path (some b)
  | .error f => if f.isOutside then return outputOf path none else throw f

end SkillKit.Review
