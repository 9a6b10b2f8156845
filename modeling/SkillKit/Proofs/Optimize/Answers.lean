import SkillKit.Proofs.Optimize.Trace
import SkillKit.Proofs.Text.Search
import SkillKit.Skill.Check

/-!
# The answers that descriptions are taken from

A description that is proposed is taken from an answer of the assistant (`propose_source`): from the
first one if what that holds is short enough, and otherwise from the answer to the request to shorten
it, however long that is.  Angle brackets are not looked for, so whether the best description passes
the check depends on the answers that the host has at the start (`Reached.after`).
-/

namespace SkillKit.Optimize

open Act Text Trigger List

variable {host host' start : Host} {pad pad' description : String} {model : Value}

variable {answer : String} {r : Request} {asked tried : Host} {again : Bool} {last : Attempt}

/-! ## Descriptions that pass the check -/

def Bare (s : String) : Prop := '<' ∉ s.toList ∧ '>' ∉ s.toList

theorem descriptionProblem?_eq_none_iff (d : String) :
    Skill.descriptionProblem? d = none ↔ Bare d ∧ (strip d).length ≤ maxDescription := by
  have hopen : contains (strip d) "<" = true ↔ '<' ∈ d.toList := by
    rw [contains_strip d (by decide)]
    exact contains_char_iff rfl d
  have hclose : contains (strip d) ">" = true ↔ '>' ∈ d.toList := by
    rw [contains_strip d (by decide)]
    exact contains_char_iff rfl d
  have hbrackets : (contains (strip d) "<" || contains (strip d) ">") = true ↔ ¬ Bare d := by
    rw [Bool.or_eq_true, hopen, hclose, Bare, not_and_or, not_not, not_not]
  rw [Skill.descriptionProblem?]
  by_cases hbare : Bare d
  · rw [if_neg (by rw [hbrackets]; exact not_not_intro hbare)]
    by_cases hlong : 1024 < (strip d).length
    · rw [if_pos hlong]
      exact ⟨nofun, fun h => absurd hlong (Nat.not_lt_of_le h.2)⟩
    · rw [if_neg hlong]
      exact ⟨fun _ => ⟨hbare, Nat.le_of_not_lt hlong⟩, fun _ => rfl⟩
  · rw [if_pos (hbrackets.mpr hbare)]
    exact ⟨nofun, fun h => absurd h.1 hbare⟩

/-! ## What the assistant says -/

/-- A text that the assistant of a host may answer with. -/
def Says (host : Host) (text : String) : Prop :=
  ∃ err, .ended 0 text err ∈ host.replies ∨
    ∃ model prompt, host.answer (askCommand model) (some prompt) = .ended 0 text err

/-- A host that comes after another one: some outcomes of commands may have been used up, and pools
do their calls in the same order. -/
structure After (start host : Host) : Prop where
  replies : host.replies <:+ start.replies
  answer : host.answer = start.answer
  completion : host.completion = start.completion
  schedule : host.schedule = start.schedule

theorem After.refl (host : Host) : After host host :=
  ⟨suffix_rfl, rfl, rfl, rfl⟩

theorem After.trans {middle : Host} (h : After start middle) (h' : After middle host) :
    After start host :=
  ⟨h'.replies.trans h.replies, h'.answer.trans h.answer, h'.completion.trans h.completion,
    h'.schedule.trans h.schedule⟩

theorem After.said {text : String} (h : After start host) (htext : Says host text) :
    Says start text := by
  obtain ⟨err, hreply | hanswer⟩ := htext
  · exact ⟨err, .inl (h.replies.mem hreply)⟩
  · rw [h.answer] at hanswer
    exact ⟨err, .inr hanswer⟩

/-- The action uses up outcomes of commands at most. -/
def Advances (act : Act α) : Prop :=
  ∀ host, After host (exec act host).2

theorem Advances.of_ok {act : Act α} {a : α} (h : Advances act)
    (hrun : exec act host = (.ok a, host')) : After host host' := by
  have hafter := h host
  rwa [hrun] at hafter

theorem Advances.bind {act : Act α} {next : α → Act β} (h : Advances act)
    (hnext : ∀ a, Advances (next a)) : Advances (act >>= next) := by
  intro host
  have hact := h host
  rw [exec_bind]
  cases hrun : exec act host with
  | mk r host' =>
    rw [hrun] at hact
    cases r with
    | ok a => exact hact.trans (hnext a host')
    | error f => exact hact

/-- What commands come to on a host, and the order in which its pools do their calls. -/
def voice (host : Host) : (List Reply × (List String → Option String → Reply)) ×
    (Option (List Nat) × (Nat → Option (List Nat))) :=
  ((host.replies, host.answer), (host.completion, host.schedule))

theorem Advances.of_keeps {act : Act α} (h : Keeps voice act) : Advances act := by
  intro host
  obtain ⟨hvoice, hpools⟩ := Prod.mk.inj (h host)
  obtain ⟨hreplies, hanswer⟩ := Prod.mk.inj hvoice
  obtain ⟨hcompletion, hschedule⟩ := Prod.mk.inj hpools
  exact ⟨hreplies ▸ suffix_rfl, hanswer, hcompletion, hschedule⟩

theorem exec_nextReply (command : List String) (input : Option String) (host : Host) :
    exec (nextReply command input) host =
      (.ok (host.replies.head?.getD (host.answer command input)),
        { host with replies := host.replies.tail }) := by
  unfold nextReply
  rw [exec_bind_ok (exec_get host)]
  cases hreplies : host.replies with
  | nil =>
    have hsame : host = { host with replies := [] } := by rw [← hreplies]
    rw [tail_nil, ← hsame]
    rfl
  | cons reply rest => rfl

theorem advances_runCommand (command : List String) (input : Option String)
    (environment : Option (List String)) : Advances (runCommand command input environment) := by
  have hreply : Advances (nextReply command input) := by
    intro host
    rw [exec_nextReply]
    exact ⟨tail_suffix _, rfl, rfl, rfl⟩
  refine (Advances.of_keeps fun _ => rfl).bind fun _ => hreply.bind fun reply => ?_
  split
  · exact .of_keeps (.pure _)
  · exact .of_keeps (.throw _)
  · exact .of_keeps (.throw _)

theorem advances_ask (prompt : String) (model : Value) : Advances (ask prompt model) := by
  refine (Advances.of_keeps fun _ => rfl).bind fun host =>
    (advances_runCommand _ _ _).bind fun done => ?_
  split
  · exact .of_keeps (.throw _)
  · exact .of_keeps (.pure _)

theorem ask_said {prompt : String} (h : exec (ask prompt model) host = (.ok answer, host')) :
    Says host answer := by
  obtain ⟨_, _, hget, h⟩ := of_exec_bind_ok h
  cases hget
  obtain ⟨done, _, hdone, h⟩ := of_exec_bind_ok h
  -- the command ended well, or there would be no answer
  have hended : done.code = 0 ∧ done.out = answer := by
    split at h
    · cases h
    · rename_i hcode
      cases h
      exact ⟨by simpa using hcode, rfl⟩
  obtain ⟨_, recorded, hrecord, hdone⟩ := of_exec_bind_ok hdone
  cases hrecord
  obtain ⟨reply, _, hreply, hdone⟩ := of_exec_bind_ok hdone
  have hout : ∃ err, reply = .ended 0 answer err := by
    split at hdone
    · rename_i code out err
      cases hdone
      obtain ⟨rfl, rfl⟩ := hended
      exact ⟨err, rfl⟩
    · cases hdone
    · cases hdone
  obtain ⟨err, rfl⟩ := hout
  rw [exec_nextReply] at hreply
  have hanswer := Except.ok.inj (Prod.mk.inj hreply).1
  cases hreplies : host.replies with
  | nil => exact ⟨err, .inr ⟨model, prompt, by simpa [hreplies] using hanswer⟩⟩
  | cons first rest => exact ⟨err, .inl (by simp [hreplies, ← hanswer])⟩

/-! ## The answer of a proposal -/

/-- The answer that a description is taken from: the first one if what it holds is short enough, and
otherwise the one to the request to shorten that. -/
inductive Source (r : Request) (asked : Host) : (again : Bool) → (answer : String) → Prop
  | first {asking answer : String} {heard : Host} (hprompt : prompt r = .ok asking)
      (hask : exec (ask asking r.model) asked = (.ok answer, heard))
      (hfits : (extract answer).length ≤ maxDescription) : Source r asked false answer
  | second {asking long answer : String} {heard heard' : Host} (hprompt : prompt r = .ok asking)
      (hask : exec (ask asking r.model) asked = (.ok long, heard))
      (hlong : maxDescription < (extract long).length)
      (hagain : exec (ask (shortenPrompt asking (extract long)) r.model) heard =
        (.ok answer, heard')) : Source r asked true answer

theorem propose_source (h : exec (propose r) asked = (.ok description, host)) :
    ∃ again answer, Source r asked again answer ∧ description = extract answer := by
  obtain ⟨asking, _, hprompt, h⟩ := of_exec_bind_ok h
  rw [exec_ofExcept] at hprompt
  obtain ⟨hasking, rfl⟩ := Prod.mk.inj hprompt
  obtain ⟨answer, heard, hask, h⟩ := of_exec_bind_ok h
  obtain ⟨⟨final, shortening⟩, heard', hshorten, h⟩ := of_exec_bind_ok h
  -- what is logged has no part in what is returned
  have hfinal : description = final := by
    dsimp only at h
    split at h
    · cases h
      rfl
    · obtain ⟨_, _, -, h⟩ := of_exec_bind_ok h
      cases h
      rfl
  subst hfinal
  unfold shorten at hshorten
  split at hshorten
  · rename_i hfits
    cases hshorten
    exact ⟨false, answer, .first hasking hask hfits, rfl⟩
  · rename_i hlong
    obtain ⟨second, _, hagain, hshorten⟩ := of_exec_bind_ok hshorten
    cases hshorten
    exact ⟨true, second, .second hasking hask (Nat.lt_of_not_le hlong) hagain, rfl⟩

theorem Source.said (h : Source r asked again answer) : Says asked answer := by
  cases h with
  | first _ hask _ => exact ask_said hask
  | second _ hask _ hagain => exact ((advances_ask _ _).of_ok hask).said (ask_said hagain)

/-- What is taken from a first answer cannot be too long, what is taken from a second one can. -/
theorem Source.accepted_iff (h : Source r asked again answer) :
    Skill.descriptionProblem? (extract answer) = none ↔
      Bare (extract answer) ∧
        (again = true → (strip (extract answer)).length ≤ maxDescription) := by
  rw [descriptionProblem?_eq_none_iff]
  cases h with
  | first _ _ hfits =>
    have hshort := (length_strip_le (extract answer)).trans hfits
    simp [hshort]
  | second _ _ _ _ => simp

theorem keeps_logTranscript {γ : Type} {part : Host → γ}
    (hpart : ∀ host files, part { host with files } = part host) (dir : Path) (iteration : Value)
    (log : List (String × Value)) : Keeps part (logTranscript dir iteration log) :=
  ((OnFiles.makeDirs _).keeps hpart).bind fun _ =>
    (Keeps.ofExcept _).bind fun _ => (OnFiles.writeText _ _).keeps hpart

/-! ## A description between tags -/

/-- An answer that holds a description between tags, with blanks around it and any text behind.  No
opening tag stands before; the description neither starts nor ends with a blank or a quote and does
not hold the closing tag. -/
structure Tagged where
  before : String
  pad : String
  description : String
  pad' : String
  after : String
  untagged : contains before "<new_description>" = false
  blank : ∀ c ∈ pad.toList ++ pad'.toList, isBlank c = true
  ends : ∀ c, c ∈ description.toList.head? ∨ c ∈ description.toList.getLast? →
    isBlank c = false ∧ c ≠ '"'
  unclosed : contains description "</new_description>" = false

namespace Tagged

def text (t : Tagged) : String :=
  t.before ++ "<new_description>" ++
    (t.pad ++ t.description ++ t.pad' ++ "</new_description>" ++ t.after)

theorem strip_padded (t : Tagged) : strip (t.pad ++ t.description ++ t.pad') = t.description := by
  rw [strip, String.toList_append, String.toList_append,
    trim_between t.blank fun c hc => (t.ends c hc).1, String.ofList_toList]

theorem extract_text (t : Tagged) : extract t.text = t.description := by
  -- The closing tag has no blanks, so in what is padded it would stand in the description.
  have hopen : contains (t.pad ++ t.description ++ t.pad') "</new_description>" = false := by
    rw [← contains_strip _ rfl, t.strip_padded]
    exact t.unclosed
  have hquotes : trim ("\"".toList.contains ·) t.description.toList = t.description.toList :=
    trim_of_ends fun c hc => by simpa using (t.ends c hc).2
  rw [extract, text, cut?_append rfl (by decide) t.untagged]
  dsimp only
  rw [cut?_append rfl (by decide) hopen]
  dsimp only
  rw [unquote, t.strip_padded, stripOf, hquotes, String.ofList_toList]

end Tagged

/-- The host after one call of the assistant. -/
def calledOnce (asked : String) (model : Value) (host : Host) : Host :=
  { host with
    events := host.events ++
      [.ran (askCommand model) (some asked) (some (Trigger.nestedEnvironment host.environment))]
    replies := host.replies.tail }

theorem exec_ask {asked err : String}
    (h : host.replies.head?.getD (host.answer (askCommand model) (some asked)) =
      .ended 0 answer err) :
    exec (ask asked model) host = (.ok answer, calledOnce asked model host) := by
  unfold ask runCommand
  rw [exec_bind_ok (exec_get host), exec_bind_ok (a := ⟨0, answer, err⟩) ?_]
  · rfl
  · rw [exec_bind_ok (exec_record _ _), exec_bind_ok (exec_nextReply _ _ _), h]
    rfl

/-- The description between the first tags of an answer is returned as it stands, after the one call
that gave the answer, if it is short enough.  If there is a log, then writing it can fail, and calls
nobody. -/
theorem propose_tagged (r : Request) (host : Host) (t : Tagged) (asked err : String)
    (hasked : prompt r = .ok asked)
    (hanswer : host.replies.head?.getD (host.answer (askCommand r.model) (some asked)) =
      .ended 0 t.text err)
    (hlength : t.description.length ≤ 1024) :
    (r.logDir = none →
      exec (propose r) host = (.ok t.description, calledOnce asked r.model host)) ∧
    ∀ dir, r.logDir = some dir → ∃ log logged host',
      exec (logTranscript dir r.iteration log) (calledOnce asked r.model host) = (logged, host') ∧
      host'.events = (calledOnce asked r.model host).events ∧
      exec (propose r) host = (logged.map fun _ => t.description, host') := by
  have hshorten : ∀ heard, exec (shorten asked t.description r.model) heard =
      (.ok (t.description, []), heard) := by
    intro heard
    rw [shorten, if_pos (by exact hlength)]
    rfl
  unfold propose
  rw [hasked, exec_bind_ok (exec_ofExcept _ _), exec_bind_ok (exec_ask hanswer), t.extract_text,
    exec_bind_ok (hshorten _)]
  refine ⟨fun hnone => by rw [hnone]; rfl, fun dir hdir => ?_⟩
  rw [hdir]
  dsimp only
  rw [bind_pure_comp, exec_map]
  exact ⟨_, _, _, rfl, keeps_logTranscript (fun _ _ => rfl) _ _ _ _, rfl⟩

def emptyRequest : Request where
  skillName := .text "demo"
  skillContent := .text ""
  current := .text "Old"
  results := (Part.mk []).toValue
  history := .list []
  model := .null

/-- A description with quotes and a bracket in it, and another tag behind. -/
def quotingAnswer : Tagged where
  before := "So "
  pad := "\n "
  description := "Use \"it\" for a < b."
  pad' := "\n"
  after := " or <new_description>"
  untagged := by decide +kernel
  blank := all_eq_true.1 rfl
  ends := by
    rintro c (hc | hc)
    · obtain rfl : 'U' = c := Option.some.inj hc
      decide
    · obtain rfl : '.' = c := Option.some.inj hc
      decide
  unclosed := by decide +kernel

theorem propose_tagged_once :
    let host : Host := { replies := [.ended 0 quotingAnswer.text "", .ended 0 "again" ""] }
    ∃ asked, prompt emptyRequest = .ok asked ∧ exec (propose emptyRequest) host =
      (.ok "Use \"it\" for a < b.", calledOnce asked .null host) := by
  intro host
  obtain ⟨asked, hasked⟩ := Result.exists_of_isSome (r := prompt emptyRequest) (by decide +kernel)
  have hshort : quotingAnswer.description.length ≤ 1024 := by decide
  exact ⟨asked, hasked,
    (propose_tagged emptyRequest host quotingAnswer asked "" hasked rfl hshort).1 rfl⟩

/-! ## The answers in an optimisation -/

theorem keeps_tell (plan : Plan) (line : String) : Keeps voice (tell plan line) :=
  (prints_tell plan line).keeps fun _ _ => rfl

theorem keeps_warnLine (line : String) : Keeps voice (warnLine line) :=
  (Prints.warnLine line).keeps fun _ _ => rfl

theorem keeps_readClock : Keeps voice readClock :=
  fun _ => rfl

theorem keeps_submitRun (s : Settings) (skillName description : String) (item : Value) :
    Keeps voice (submitRun s skillName description item) := by
  refine (Keeps.ofExcept _).bind fun query => Keeps.bind (fun _ => rfl) fun _ =>
    Keeps.bind ?_ fun verdict => .pure _
  intro host
  unfold nextVerdict
  rw [exec_bind_ok (exec_get host)]
  cases host.verdicts <;> rfl

theorem keeps_collect (groups : List Group) (done : Done) : Keeps voice (collect groups done) := by
  unfold collect
  split
  · split
    · exact .pure _
    · exact (keeps_warnLine _).bind fun _ => .pure _
  · exact .throw _

theorem keeps_evaluate (s : Settings) (skillName description : String) (queries : Value) :
    Keeps voice (evaluate s skillName description queries) := by
  have hsubmit : ∀ item, Keeps voice (submit s skillName description item) := fun item =>
    (Keeps.ofExcept _).bind fun runs => .mapM fun _ _ => keeps_submitRun s skillName description item
  refine Keeps.bind (fun _ => rfl) fun _ => (Keeps.ofExcept _).bind fun items =>
    (Keeps.mapM fun item _ => hsubmit item).bind fun calls => Keeps.bind (fun _ => rfl) fun host => ?_
  exact (Keeps.foldlM keeps_collect []).bind fun groups =>
    (Keeps.ofExcept _).bind fun outcomes => .pure _

theorem keeps_evaluateDescription (plan : Plan) (divided : Except Value Split)
    (history : List Attempt) (description : String) :
    Keeps voice (evaluateDescription plan divided history description) := by
  refine (keeps_tell plan _).bind fun _ => (keeps_tell plan _).bind fun _ =>
    (keeps_tell plan _).bind fun _ => (keeps_tell plan _).bind fun _ =>
    (Keeps.ofExcept _).bind fun split => keeps_readClock.bind fun start => ?_
  exact (keeps_evaluate _ _ _ _).bind fun e => keeps_readClock.bind fun stop =>
    (Keeps.ofExcept _).bind fun attempt => .pure _

theorem keeps_writeDraft (plan : Plan) (split : Split) (current : String)
    (history : List Attempt) : Keeps voice (writeDraft plan split current history) := by
  unfold writeDraft
  split
  · exact (Keeps.ofExcept _).bind fun page => (OnFiles.writeText _ _).keeps fun _ _ => rfl
  · exact .pure _

theorem keeps_tellPart (plan : Plan) (label : String) (part : Part) (elapsed : Float) :
    Keeps voice (tellPart plan label part elapsed) := by
  refine .ite ?_ (.pure _)
  refine (Keeps.ofExcept _).bind fun line => (keeps_warnLine line).bind fun _ => ?_
  refine (Keeps.forIn (fun o _ => ?_) _).bind fun _ => .pure _
  exact (Keeps.ofExcept _).bind fun line => (keeps_warnLine line).bind fun _ => .pure _

theorem keeps_tryDescription (plan : Plan) (divided : Except Value Split)
    (history : List Attempt) (description : String) :
    Keeps voice (tryDescription plan divided history description) := by
  refine (keeps_evaluateDescription _ _ _ _).bind fun e => (keeps_writeDraft _ _ _ _).bind fun _ =>
    Keeps.bind ?_ fun _ => .pure _
  refine (keeps_tellPart _ _ _ _).bind fun _ => ?_
  split
  · exact keeps_tellPart _ _ _ _
  · exact .pure _

theorem advances_propose (r : Request) : Advances (propose r) := by
  have hshorten : ∀ asking description,
      Advances (shorten asking description r.model) := by
    intro asking description
    unfold shorten
    split
    · exact .of_keeps (.pure _)
    · exact (advances_ask _ _).bind fun answer => .of_keeps (.pure _)
  refine (Advances.of_keeps (.ofExcept _)).bind fun asking => (advances_ask _ _).bind fun answer =>
    (hshorten _ _).bind fun shortened => .of_keeps ?_
  dsimp only
  split
  · exact .pure _
  · exact (keeps_logTranscript (fun _ _ => rfl) _ _ _).bind fun _ => .pure _

theorem advances_improve (plan : Plan) (history : List Attempt) (last : Attempt) :
    Advances (improve plan history last) := by
  refine (Advances.of_keeps (keeps_tell plan _)).bind fun _ =>
    (Advances.of_keeps keeps_readClock).bind fun start => (advances_propose _).bind fun next => ?_
  exact .of_keeps (keeps_readClock.bind fun stop => (keeps_tell plan _).bind fun _ => .pure _)

theorem keeps_planSplit (plan : Plan) (queries : Value) : Keeps voice (planSplit plan queries) := by
  refine (Keeps.ofExcept _).bind fun holds => .ite ?_ (.pure _)
  exact (Keeps.ofExcept _).bind fun s => (keeps_tell plan _).bind fun _ => .pure _

variable {plan : Plan} {queries : Value} {divided : Except Value Split}
variable {history : List Attempt}

theorem Reached.after (h : Reached plan queries start divided history description host) :
    After start host := by
  induction h with
  | first hsplit => exact (Advances.of_keeps (keeps_planSplit plan queries)).of_ok hsplit
  | next _ htry himprove ih =>
    have htried := (Advances.of_keeps (keeps_tryDescription _ _ _ _)).of_ok htry
    exact (ih.trans htried).trans ((advances_improve _ _ _).of_ok himprove)

/-- The answer that the description to be tried after an attempt is taken from. -/
def Answered (plan : Plan) (history : List Attempt) (last : Attempt) (tried : Host) (again : Bool)
    (answer : String) : Prop :=
  ∃ told clock asked,
    exec (tell plan "\nImproving description...") tried = (.ok ⟨⟩, told) ∧
    exec readClock told = (.ok clock, asked) ∧
    Source (requestAfter plan history last) asked again answer

theorem Proposed.answered {next : String} (h : Proposed plan history last tried next) :
    ∃ again answer, Answered plan history last tried again answer ∧ next = extract answer := by
  obtain ⟨told, clock, asked, answered, htold, hasked, hpropose⟩ := h
  obtain ⟨again, answer, hsource, hnext⟩ := propose_source hpropose
  exact ⟨again, answer, ⟨told, clock, asked, htold, hasked, hsource⟩, hnext⟩

theorem Answered.accepted_iff (h : Answered plan history last tried again answer) :
    Skill.descriptionProblem? (extract answer) = none ↔
      Bare (extract answer) ∧
        (again = true → (strip (extract answer)).length ≤ maxDescription) := by
  obtain ⟨_, _, _, -, -, hsource⟩ := h
  exact hsource.accepted_iff

theorem Answered.said {split : Split} {seen : List Attempt}
    (h : Answered plan history last tried again answer)
    (htried : Tried plan queries start divided split seen last tried) : Says start answer := by
  obtain ⟨told, clock, asked, htold, hasked, hsource⟩ := h
  obtain ⟨host, hreached, htry⟩ := htried
  have htold' := (Advances.of_keeps (keeps_tell plan _)).of_ok htold
  have hasked' := (Advances.of_keeps keeps_readClock).of_ok hasked
  have htry' := (Advances.of_keeps (keeps_tryDescription _ _ _ _)).of_ok htry
  exact (((hreached.after.trans htry').trans htold').trans hasked').said hsource.said

/-- Whether the best description of an optimisation passes the check, if the original one does.  If
it is the first one that was tried, then it is the original one and passes.  Otherwise it is taken
from an answer of the assistant, and passes exactly if it has no angle brackets and, when it is the
answer to the request to shorten another one, is not too long.  So it passes if every answer that the
assistant can give holds a description that does. -/
theorem best_accepted_iff (plan : Plan) (queries : Value) (start host : Host) (r : Result)
    (hoverride : plan.override = none)
    (hpassed : Skill.descriptionProblem? plan.skill.description = none)
    (hrun : exec (optimize plan queries) start = (.ok r, host)) :
    (∃ before after, r.history = before ++ r.best :: after ∧
      (before = [] → r.best.description = plan.skill.description ∧
        Skill.descriptionProblem? r.best.description = none) ∧
      ∀ seen last, before = seen ++ [last] → ∃ divided tried again answer,
        Tried plan queries start divided r.split seen last tried ∧
        Answered plan before last tried again answer ∧
        Says start answer ∧ r.best.description = extract answer ∧
        (Skill.descriptionProblem? r.best.description = none ↔
          Bare (extract answer) ∧
            (again = true → (strip (extract answer)).length ≤ maxDescription))) ∧
    ((∀ answer, Says start answer → Skill.descriptionProblem? (extract answer) = none) →
      Skill.descriptionProblem? r.best.description = none) := by
  obtain ⟨divided, _, _, ended, hends, hbest, hr⟩ := optimize_ended hrun
  obtain ⟨before, after, hfirst⟩ := bestAttempt?_firstBest hbest
  have hhistory : r.history = ended.history := by rw [hr]
  have hsplit : r.split = ended.split := by rw [hr]
  have hstart : plan.start = plan.skill.description := by rw [Plan.start, hoverride]
  have horiginal : before = [] → r.best.description = plan.skill.description := by
    intro hempty
    have hhead := hends.starts
    rw [hfirst.history, hempty] at hhead
    rw [← hstart]
    exact Option.some.inj hhead
  have hanswer : ∀ seen last, before = seen ++ [last] → ∃ tried again answer,
      Tried plan queries start divided ended.split seen last tried ∧
      Answered plan before last tried again answer ∧ r.best.description = extract answer := by
    intro seen last hbefore
    have hcut : ended.history = seen ++ last :: r.best :: after := by
      rw [hfirst.history, hbefore, append_assoc, singleton_append]
    obtain ⟨tried, htried, hproposed⟩ := hends.next hcut
    rw [← hbefore] at hproposed
    obtain ⟨again, answer, hanswered, hdescription⟩ := hproposed.answered
    exact ⟨tried, again, answer, htried, hanswered, hdescription⟩
  refine ⟨⟨before, after, hhistory.trans hfirst.history, ?_, ?_⟩, ?_⟩
  · intro hempty
    rw [horiginal hempty]
    exact ⟨rfl, hpassed⟩
  · intro seen last hbefore
    obtain ⟨tried, again, answer, htried, hanswered, hdescription⟩ := hanswer seen last hbefore
    refine ⟨divided, tried, again, answer, hsplit ▸ htried, hanswered, hanswered.said htried,
      hdescription, ?_⟩
    rw [hdescription]
    exact hanswered.accepted_iff
  · intro hall
    rcases eq_nil_or_concat' before with hempty | ⟨seen, last, hbefore⟩
    · rw [horiginal hempty]
      exact hpassed
    · obtain ⟨tried, again, answer, htried, hanswered, hdescription⟩ := hanswer seen last hbefore
      rw [hdescription]
      exact hall answer (hanswered.said htried)

def twoTurns : Plan := { samplePlan (.int 0) with maxIterations := 2, reportPath := none }

def answering (answer : String) : Host where
  replies := [.ended 0 answer ""]
  verdicts := [.triggered false, .triggered true]

/-- A description between tags and quotes, which is tried in the second turn and then passes. -/
theorem best_accepted_tagged :
    let start := answering "Here: <new_description>\n\"Use it\"\n</new_description>"
    ∃ r host, exec (optimize twoTurns (querySet [sampleItem "a" true])) start = (.ok r, host) ∧
      r.best.description = "Use it" ∧
      Skill.descriptionProblem? twoTurns.skill.description = none ∧
      Skill.descriptionProblem? r.best.description = none := by
  intro start
  have hrun : (exec (optimize twoTurns (querySet [sampleItem "a" true])) start).1.toOption.map
      (·.best.description) = some "Use it" := by
    decide +kernel
  have hpassed : Skill.descriptionProblem? twoTurns.skill.description = none := by decide +kernel
  cases h : exec (optimize twoTurns (querySet [sampleItem "a" true])) start with
  | mk result host =>
    rw [h] at hrun
    cases result with
    | error f => cases hrun
    | ok r =>
      refine ⟨r, host, rfl, Option.some.inj hrun, hpassed, ?_⟩
      apply (best_accepted_iff twoTurns _ start host r rfl hpassed h).2
      rintro answer ⟨err, hreply | ⟨_, _, hanswer⟩⟩
      · cases mem_singleton.mp hreply
        decide +kernel
      · cases hanswer
        decide +kernel

/-- Of an answer with an angle bracket comes a best description that the check refuses, although it
accepts the original one. -/
theorem best_refused_for_bracket :
    Skill.descriptionProblem? twoTurns.skill.description = none ∧
    (exec (optimize twoTurns (querySet [sampleItem "a" true]))
      (answering "<new_description>Use it for a < b</new_description>")).1.toOption.map
        (fun r => (r.best.description, Skill.descriptionProblem? r.best.description)) =
      some ("Use it for a < b", some .descriptionBrackets) := by
  constructor
  · decide +kernel
  · decide +kernel

end SkillKit.Optimize
