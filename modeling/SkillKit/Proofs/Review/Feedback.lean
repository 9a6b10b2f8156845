import SkillKit.Review.Server
import SkillKit.Proofs.Files.Named
import SkillKit.Proofs.Json.Numbers
import SkillKit.Proofs.Review.Loading

/-!
# Feedback that is saved and given back

A site answers one request after the other (`session`).  A request saves feedback exactly if its body
is an object with reviews and the file can be written (`saves_iff`); every other request leaves all
files as they were, so what was saved last is what is given back.
-/

namespace SkillKit

open List SkillKit.Tree Fields Result Json

variable {v : Value} {text : String} {files : Tree} {requests : List Request}

theorem Tree.exists_writeText {t t' : Tree} {path : List String} {s : String}
    (h : t.writeText path s = .ok t') (other : String) : ∃ u, t.writeText path other = .ok u := by
  obtain ⟨up, name, entries, names, rfl, hslot, hfree, -⟩ := of_writeBytes h
  exact ⟨_, hslot.writeText hfree other⟩

namespace Review

open Act Text

/-! ## Feedback in a request -/

/-- The request brings feedback. -/
def Request.Posts (r : Request) : Prop :=
  r.method = "POST" ∧ r.path = "/api/feedback"

/-- The body of a request is the text of a document that is an object with reviews. -/
structure Offers (request : Request) (v : Value) : Prop where
  read : ∃ body text, readBody request = .ok body ∧ decodeBody body = .ok text ∧
    read text = .ok v
  reviews : ∃ fields, v = .dict fields ∧ has fields (.text "reviews") = true

theorem readFeedback_eq_ok {body : ByteArray} :
    readFeedback body = .ok v ↔ (∃ text, decodeBody body = .ok text ∧ read text = .ok v) ∧
      ∃ fields, v = .dict fields ∧ has fields (.text "reviews") = true := by
  unfold readFeedback
  constructor
  · intro h
    obtain ⟨text, htext, h⟩ := bind_eq_ok.mp h
    obtain ⟨data, hdata, h⟩ := bind_eq_ok.mp h
    cases data with
    | dict fields =>
      dsimp only at h
      split_ifs at h with hreviews
      cases h
      exact ⟨⟨text, htext, hdata⟩, fields, rfl, hreviews⟩
    | _ => cases h
  · rintro ⟨⟨text, htext, hdata⟩, fields, rfl, hreviews⟩
    rw [htext, ok_bind, hdata, ok_bind]
    exact if_pos hreviews

theorem offers_iff {request : Request} :
    Offers request v ↔ ∃ body, readBody request = .ok body ∧ readFeedback body = .ok v := by
  simp only [readFeedback_eq_ok]
  constructor
  · rintro ⟨⟨body, text, hbody, htext, hread⟩, hreviews⟩
    exact ⟨body, hbody, ⟨text, htext, hread⟩, hreviews⟩
  · rintro ⟨body, hbody, ⟨text, htext, hread⟩, hreviews⟩
    exact ⟨⟨body, text, hbody, htext, hread⟩, hreviews⟩

theorem Offers.unique {request : Request} {w : Value} (hv : Offers request v)
    (hw : Offers request w) : v = w := by
  obtain ⟨body, hbody, hv⟩ := offers_iff.mp hv
  obtain ⟨body', hbody', hw⟩ := offers_iff.mp hw
  rw [hbody] at hbody'
  cases hbody'
  exact Except.ok.inj (hv.symm.trans hw)

/-! ## The file of the feedback -/

/-- The file of the feedback can be written. -/
def Writable (site : Site) (host : Host) : Prop :=
  ∃ files, host.files.writeText (host.locate (feedbackFile site.workspace)) "" = .ok files

/-- The file of the feedback has a text from which a document is read. -/
def Holds (site : Site) (v : Value) (host : Host) : Prop :=
  ∃ text, host.files.find (host.locate (feedbackFile site.workspace)) = .ok (.file text.toUTF8) ∧
    unifyLines text = text ∧ read text = .ok v

theorem holds_of_write {site : Site} {host : Host} (htext : ReadsBack v text)
    (h : host.files.writeText (host.locate (feedbackFile site.workspace)) (text ++ "\n") =
      .ok files) : Holds site v { host with files } := by
  have hfree : '\r' ∉ (text ++ "\n").toList := by
    rw [String.toList_append, mem_append, not_or]
    refine ⟨fun hreturn => ?_, by decide⟩
    rcases htext.plain '\r' hreturn with hplain | hplain
    · exact absurd hplain (by decide)
    · exact absurd hplain.1 (by decide)
  refine ⟨text ++ "\n", find_of_writeBytes h, unifyLines_of_free hfree, htext.read_append ?_⟩
  intro c hc
  exact .inl (by simpa using hc)

theorem saveFeedback_cases (site : Site) (body : ByteArray) (host : Host) :
    (∃ v files, readFeedback body = .ok v ∧ Holds site v { host with files } ∧ Writable site host ∧
      exec (saveFeedback site body) host = (.ok ⟨⟩, { host with files })) ∨
    ∃ f, exec (saveFeedback site body) host = (.error f, host) ∧
      ∀ v, readFeedback body = .ok v → ¬ Writable site host := by
  unfold saveFeedback
  cases hread : readFeedback body with
  | error f => exact .inr ⟨f, exec_bind_error (exec_ofExcept _ _), nofun⟩
  | ok v =>
    rw [exec_bind_ok (exec_ofExcept (.ok v) host)]
    obtain ⟨⟨text, -, hv⟩, -⟩ := readFeedback_eq_ok.mp hread
    obtain ⟨written, hwritten, hback⟩ :=
      writeIn_readsBack_of_isRead false (.indented 0) (isRead_of_read hv)
    rw [writeIndented, hwritten, exec_bind_ok (exec_ofExcept (.ok written) host)]
    cases hfiles : host.files.writeText (host.locate (feedbackFile site.workspace))
        (written ++ "\n") with
    | ok files =>
      obtain ⟨u, hu⟩ := exists_writeText hfiles ""
      exact .inl ⟨v, files, rfl, holds_of_write hback hfiles, ⟨u, hu⟩, exec_writeText_ok hfiles⟩
    | error f =>
      refine .inr ⟨f, exec_writeText_error hfiles, ?_⟩
      intro _ _ hwritable
      obtain ⟨u, hu⟩ := hwritable
      obtain ⟨u', hu'⟩ := exists_writeText hu (written ++ "\n")
      rw [hfiles] at hu'
      cases hu'

/-! ## One request -/

/-- An answer that tells that feedback was taken. -/
def Accepts (answer : Except Fault Response) : Prop :=
  ∃ body, answer = .ok (.data 200 body)

theorem not_accepts_error (f : Fault) : ¬ Accepts (.error f) := by
  intro ⟨_, h⟩
  cases h

def savedAnswer : ByteArray := "\x7b\"ok\":true\x7d".toUTF8

theorem takeFeedback_cases (site : Site) (request : Request) (host : Host) :
    (∃ v body files, Offers request v ∧ Writable site host ∧ Holds site v { host with files } ∧
      exec (takeFeedback site request) host = (.ok (.data 200 body), { host with files })) ∨
    ∃ answer, exec (takeFeedback site request) host = (answer, host) ∧ ¬ Accepts answer ∧
      ∀ v, Offers request v → ¬ Writable site host := by
  unfold takeFeedback
  cases hbody : readBody request with
  | error f =>
    refine .inr ⟨.error f, exec_bind_error (exec_ofExcept _ _), not_accepts_error f, ?_⟩
    · intro v hv
      obtain ⟨_, hbody', -⟩ := offers_iff.mp hv
      rw [hbody] at hbody'
      cases hbody'
  | ok body =>
    rw [exec_bind_ok (exec_ofExcept (.ok body) host)]
    obtain ⟨v, files, hv, hholds, hwritable, hsave⟩ | ⟨f, hsave, hnot⟩ :=
      saveFeedback_cases site body host
    · refine .inl ⟨v, savedAnswer, files, offers_iff.mpr ⟨body, hbody, hv⟩, hwritable, hholds, ?_⟩
      rw [exec_bind_ok (by rw [exec_result, hsave])]
      rfl
    · have hoffers : ∀ v, Offers request v → ¬ Writable site host := by
        intro v hv
        obtain ⟨body', hbody', hread⟩ := offers_iff.mp hv
        rw [hbody] at hbody'
        cases hbody'
        exact hnot v hread
      rw [exec_bind_ok (by rw [exec_result, hsave])]
      dsimp only
      split
      · -- The reason is told, with another status.
        cases hreason : write
            (.object [("error", .text (f.about (feedbackFile site.workspace).toString))]) with
        | error f => exact .inr ⟨.error f, exec_bind_error (exec_ofExcept _ _), not_accepts_error f, hoffers⟩
        | ok text =>
          refine .inr ⟨.ok (.data 500 text.toUTF8), ?_, by simp [Accepts], hoffers⟩
          rw [exec_bind_ok (exec_ofExcept (.ok text) host)]
          rfl
      · exact .inr ⟨.error f, rfl, not_accepts_error f, hoffers⟩

theorem respond_of_posts {request : Request} (h : request.Posts) (site : Site) :
    respond site request = takeFeedback site request := by
  unfold respond
  rw [h.1, h.2]
  rfl

theorem keeps_respond {γ : Type} {part : Host → γ} {request : Request} (h : ¬ request.Posts)
    (site : Site) : Keeps part (respond site request) := by
  have hpage : Keeps part (sitePage site) := by
    unfold sitePage loadBenchmark
    refine .bind (keeps_loadRuns _) fun _ => .bind ?_ fun _ => .bind (fun _ => rfl) fun _ =>
      .bind (.ofExcept _) fun _ => .pure _
    cases site.benchmark with
    | none => exact .pure _
    | some file => exact .bind (keeps_loadJson? file) fun _ => .pure _
  unfold respond
  split
  · exact hpage
  · exact hpage
  · exact .bind (.pathExists _) fun _ => .ite (.bind (.readBytes _) fun _ => .pure _) (.pure _)
  · rename_i hmethod hpath
    exact absurd ⟨hmethod, hpath⟩ h
  · exact .pure _
  · exact .pure _
  · exact .pure _

/-- A request, the host that it found, the answer, and the host that it left. -/
structure Exchange where
  request : Request
  before : Host
  answer : Except Fault Response
  after : Host

/-- The exchange that a request makes. -/
def answered (site : Site) (host : Host) (request : Request) : Exchange :=
  let done := exec (respond site request) host
  ⟨request, host, done.1, done.2⟩

/-- The request brought feedback, and this was taken. -/
def Exchange.Saves (x : Exchange) : Prop :=
  x.request.Posts ∧ Accepts x.answer

/-- A request saves what it offers, or it changes nothing. -/
theorem answered_cases (site : Site) (host : Host) (request : Request) :
    let x := answered site host request
    (x.Saves ∧ ∃ v, Offers request v ∧ Writable site host ∧ Holds site v x.after) ∨
    (¬ x.Saves ∧ x.after = host ∧
      (request.Posts → ∀ v, Offers request v → ¬ Writable site host)) := by
  intro x
  have h : exec (respond site request) host = (x.answer, x.after) := rfl
  by_cases hposts : request.Posts
  · rw [respond_of_posts hposts] at h
    obtain ⟨v, body, files, hoffers, hwritable, hholds, htaken⟩ | ⟨answer, htaken, hanswer, hrefused⟩ :=
      takeFeedback_cases site request host
    · obtain ⟨hanswer, hafter⟩ := Prod.mk.inj (h.symm.trans htaken)
      refine .inl ⟨⟨hposts, body, hanswer⟩, v, hoffers, hwritable, ?_⟩
      rw [hafter]
      exact hholds
    · obtain ⟨hsame, hafter⟩ := Prod.mk.inj (h.symm.trans htaken)
      exact .inr ⟨fun hsaves => hanswer (hsame ▸ hsaves.2), hafter, fun _ => hrefused⟩
  · have hkeeps : Keeps id (respond site request) := keeps_respond hposts site
    exact .inr ⟨fun hsaves => hposts hsaves.1, hkeeps host, fun h => absurd h hposts⟩

theorem saves_iff {site : Site} {host : Host} {request : Request} :
    (answered site host request).Saves ↔
      request.Posts ∧ (∃ v, Offers request v) ∧ Writable site host := by
  obtain ⟨hsaves, v, hoffers, hwritable, -⟩ | ⟨hnot, -, hrefused⟩ :=
    answered_cases site host request
  · exact ⟨fun _ => ⟨hsaves.1, ⟨v, hoffers⟩, hwritable⟩, fun _ => hsaves⟩
  · refine ⟨fun hsaves => absurd hsaves hnot, ?_⟩
    intro ⟨hposts, ⟨v, hoffers⟩, hwritable⟩
    exact absurd hwritable (hrefused hposts v hoffers)

/-- Requests that are answered one after the other; one that fails does not end the session. -/
def session (site : Site) (host : Host) : List Request → List Exchange
  | [] => []
  | request :: rest =>
    let x := answered site host request
    x :: session site x.after rest

def posting (body length : String) : Request :=
  { method := "POST", path := "/api/feedback", body := body.toUTF8, contentLength := some length }

theorem offers_posting {body length : String} (hv : isJson v = true)
    (hwrite : (write v).toOption = some body)
    (hbody : (readBody (posting body length)).toOption = some body.toUTF8)
    (htext : (decodeBody body.toUTF8).toOption = some body)
    (hreviews : ∃ fields, v = .dict fields ∧ has fields (.text "reviews") = true) :
    Offers (posting body length) v where
  read := ⟨body.toUTF8, body, eq_ok_of_toOption hbody, eq_ok_of_toOption htext,
    (readsBack_of_write hv hwrite).read⟩
  reviews := hreviews

def sampleSite : Site := ⟨⟨"/", ["ws"]⟩, "demo", .null, none⟩

def sampleHost : Host := { files := .dir [("ws", .dir [])] }

end Review

end SkillKit
