import SkillKit.Kernel.Basic
import SkillKit.Proofs.Run

/-!
# Listening to the answers to one's own code

What a client makes of a notice is the word that the notice says: something to show, a trace, or that
the code is done.  Notices of others, malformed ones and silence say nothing.  The outcome of running
code is a function of the words heard, whichever notices stand between them.
-/

namespace SkillKit

open List

variable {tick clock : Float} {id : String} {k : Kernel}

variable {t : Transcript} {n : Notice} {notices before : List Notice} {host : Host} {peer : Peer}
variable {timeout : Value} {limit : Float}

/-- What an answer to code says. -/
inductive Word where
  | shown (v : Value)
  | failed (trace : String)
  | done

namespace Word

def shown? : Word → Option Value
  | .shown v => some v
  | _ => none

def trace? : Word → Option String
  | .failed trace => some trace
  | _ => none

/-- What a well-formed answer says, by its kind. -/
def ofAnswer? (m : Value) : Option Word := do
  let kind ← m.field? "msg_type"
  let content ← m.field? "content"
  if kind.isText "stream" then return .shown (← content.field? "text")
  if kind.isText "execute_result" then
    match ← content.field? "data" with
    | .dict data => return .shown ((Fields.get? data "text/plain").getD (.text ""))
    | _ => none
  if kind.isText "error" then
    let lines ← (← content.field? "traceback").parts.toOption
    return .failed (← (Transcript.joinTexts "\n" lines).toOption)
  if kind.isText "status" then
    if (← content.field? "execution_state").isText "idle" then return .done
  none

/-- What a notice says about the code of a name; nothing if it does not answer that code. -/
def of? (id : String) : Notice → Option Word
  | .silence => none
  | .message m =>
    if ((m.field? "parent_header").bind (·.field? "msg_id")).any (·.isText id) then ofAnswer? m
    else none

def texts? (words : List Word) : Option (List String) :=
  (words.filterMap shown?).mapM Value.asText?

def traces (words : List Word) : List String :=
  words.filterMap trace?

def heard (id : String) (notices : List Notice) : List Word :=
  notices.filterMap (of? id)

end Word

/-! ## One notice -/

section Reading

variable {α β γ : Type}

theorem getD_entry_bind (v : Value) (key : String) (next : Value → Except Fault α) (a : α) :
    (v.entry key >>= next).toOption.getD a =
      (v.field? key).elim a fun w => (next w).toOption.getD a := by
  cases v with
  | dict fields =>
    simp only [Value.entry, Value.field?]
    cases Fields.get? fields key <;> rfl
  | _ => rfl

theorem getD_map_bind (o : Option α) (next : α → Option β) (f : β → γ) (c : γ) :
    ((o >>= next).map f).getD c = o.elim c fun a => ((next a).map f).getD c := by
  cases o <;> rfl

theorem mapM_eq_elim {f : α → Except Fault β} {g : α → Option β} {e : Fault}
    (h : ∀ a, f a = (g a).elim (.error e) .ok) (as : List α) :
    as.mapM f = (as.mapM g).elim (.error e) .ok := by
  induction as with
  | nil => rfl
  | cons a as ih =>
    rw [mapM_cons, mapM_cons, h, ih]
    cases g a <;> cases as.mapM g <;> rfl

end Reading

namespace Transcript

def add (t : Transcript) : Word → Transcript
  | .shown v => { t with outputs := t.outputs ++ [v] }
  | .failed trace => { t with error := some trace }
  | .done => { t with done := true }

theorem getD_extend (t : Transcript) (m : Value) :
    (t.extend m).toOption.getD t = ((Word.ofAnswer? m).map t.add).getD t := by
  unfold extend Word.ofAnswer?
  rw [getD_entry_bind, getD_map_bind]
  cases m.field? "msg_type" with
  | none => rfl
  | some kind =>
    rw [Option.elim_some, Option.elim_some, getD_entry_bind, getD_map_bind]
    cases m.field? "content" with
    | none => rfl
    | some content =>
      simp only [Option.elim_some]
      by_cases hstream : kind.isText "stream" = true
      · simp only [if_pos hstream, getD_entry_bind, getD_map_bind]
        rfl
      by_cases hresult : kind.isText "execute_result" = true
      · simp only [if_neg hstream, if_pos hresult, getD_entry_bind, getD_map_bind]
        congr 1
        funext data
        cases data <;> rfl
      by_cases herror : kind.isText "error" = true
      · simp only [if_neg hstream, if_neg hresult, if_pos herror, getD_entry_bind, getD_map_bind]
        congr 1
        funext trace
        cases hlines : trace.parts with
        | error f => rfl
        | ok lines => cases hjoin : joinTexts "\n" lines <;> simp [hjoin, Except.toOption, add]
      by_cases hstatus : kind.isText "status" = true
      · simp only [if_neg hstream, if_neg hresult, if_neg herror, if_pos hstatus, getD_entry_bind,
          getD_map_bind]
        congr 1
        funext state
        by_cases hidle : state.isText "idle" = true <;> simp [hidle, Except.toOption, add]
      · simp only [if_neg hstream, if_neg hresult, if_neg herror, if_neg hstatus]
        rfl

theorem isAnswer_eq_ok_true {m : Value} :
    isAnswer id m = .ok true ↔
      ((m.field? "parent_header").bind (·.field? "msg_id")).any (·.isText id) = true := by
  unfold isAnswer
  cases m with
  | dict fields =>
    simp only [Value.entry, Value.field?]
    cases Fields.get? fields "parent_header" with
    | none => simp
    | some parent =>
      cases parent with
      | dict header =>
        simp only [Value.lookupD, Value.lookup, Option.bind_some, Result.ok_bind]
        cases Fields.get? header "msg_id" <;> simp [Value.isText]
      | _ => simp [Value.lookupD, Value.lookup]
  | _ => simp [Value.entry, Value.field?]

theorem hear_eq (id : String) (t : Transcript) (notice : Notice) :
    t.hear id notice = ((Word.of? id notice).map t.add).getD t := by
  cases notice with
  | silence => rfl
  | message m =>
    simp only [hear, Word.of?]
    split
    · next h => rw [if_pos (isAnswer_eq_ok_true.1 h), getD_extend]
    · next h => rw [if_neg fun hany => h (isAnswer_eq_ok_true.2 hany)]; rfl

/-! ## All notices -/

theorem foldl_hear (id : String) (notices : List Notice) (t : Transcript)
    (h : ∀ n ∈ notices, Word.of? id n ≠ some .done) :
    notices.foldl (hear id) t =
      { outputs := t.outputs ++ (Word.heard id notices).filterMap Word.shown?
        error := (Word.traces (Word.heard id notices)).getLast?.or t.error
        done := t.done } := by
  induction notices generalizing t with
  | nil => simp [Word.heard, Word.traces]
  | cons n notices ih =>
    rw [foldl_cons, ih _ fun m hm => h m (.tail _ hm), hear_eq]
    cases hword : Word.of? id n with
    | none => simp [Word.heard, hword]
    | some word =>
      have hheard : Word.heard id (n :: notices) = word :: Word.heard id notices :=
        filterMap_cons_some hword
      cases word with
      | shown v => simp [hheard, add, Word.traces, Word.shown?, Word.trace?]
      | failed trace =>
        simp only [hheard, Word.traces, Word.trace?, filterMap_cons,
          getLast?_cons]
        cases ((Word.heard id notices).filterMap Word.trace?).getLast? <;> rfl
      | done => exact absurd hword (h n (.head _))

variable {deadline : Float}

def turnStart (tick : Float) : (clock : Float) → Nat → Float
  | clock, 0 => clock
  | clock, n + 1 => turnStart tick (clock + tick + tick) n

/-- The notices before the one that tells that the code is done, which comes in time. -/
structure Finishes (id : String) (tick deadline clock : Float) (notices before : List Notice) :
    Prop where
  split : ∃ last after, notices = before ++ last :: after ∧ Word.of? id last = some .done
  undone : ∀ n ∈ before, Word.of? id n ≠ some .done
  inTime : ∀ i ≤ before.length, turnStart tick clock i < deadline

/-- The notices that come in time, none of which tells that the code is done. -/
structure RunsOut (id : String) (tick deadline clock : Float) (notices before : List Notice) :
    Prop where
  split : ∃ after, notices = before ++ after ∧
    (after = [] ∨ ¬ turnStart tick clock before.length < deadline)
  undone : ∀ n ∈ before, Word.of? id n ≠ some .done
  inTime : ∀ i < before.length, turnStart tick clock i < deadline

theorem hear_done (h : Word.of? id n ≠ some .done) : (t.hear id n).done = t.done := by
  change ([n].foldl (hear id) t).done = t.done
  rw [foldl_hear id [n] t (by simpa using h)]

theorem listen_append (ht : t.done = false) (hundone : ∀ n ∈ before, Word.of? id n ≠ some .done)
    (htime : ∀ i < before.length, turnStart tick clock i < deadline) (after : List Notice) :
    listen id tick deadline clock t (before ++ after) =
      listen id tick deadline (turnStart tick clock before.length) (before.foldl (hear id) t) after := by
  induction before generalizing clock t with
  | nil => rfl
  | cons n before ih =>
    have hclock : clock < deadline := htime 0 (Nat.zero_lt_succ _)
    have hn : (t.hear id n).done = false := (hear_done (hundone n (.head _))).trans ht
    simp only [cons_append, listen, hclock, hn]
    exact ih hn (fun m hm => hundone m (.tail _ hm)) fun i hi => htime (i + 1) (Nat.succ_lt_succ hi)

theorem listen_of_finishes (ht : t.done = false)
    (h : Finishes id tick deadline clock notices before) :
    (listen id tick deadline clock t notices).1 = { before.foldl (hear id) t with done := true } := by
  obtain ⟨⟨last, after, rfl, hlast⟩, hundone, htime⟩ := h
  rw [listen_append ht hundone fun i hi => htime i (Nat.le_of_lt hi)]
  simp [listen, htime _ (Nat.le_refl _), hear_eq, hlast, add]

theorem listen_of_runsOut (ht : t.done = false) (h : RunsOut id tick deadline clock notices before) :
    (listen id tick deadline clock t notices).1 = before.foldl (hear id) t := by
  obtain ⟨⟨after, rfl, hafter⟩, hundone, htime⟩ := h
  rw [listen_append ht hundone htime]
  cases after with
  | nil => rfl
  | cons n after => simp [listen, hafter.resolve_left (cons_ne_nil n after)]

theorem Finishes.cons (hclock : clock < deadline) (hn : Word.of? id n ≠ some .done)
    (h : Finishes id tick deadline (clock + tick + tick) notices before) :
    Finishes id tick deadline clock (n :: notices) (n :: before) := by
  obtain ⟨⟨last, after, rfl, hlast⟩, hundone, htime⟩ := h
  refine ⟨⟨last, after, rfl, hlast⟩, forall_mem_cons.2 ⟨hn, hundone⟩, fun i hi => ?_⟩
  cases i with
  | zero => exact hclock
  | succ i => exact htime i (Nat.le_of_succ_le_succ hi)

theorem RunsOut.cons (hclock : clock < deadline) (hn : Word.of? id n ≠ some .done)
    (h : RunsOut id tick deadline (clock + tick + tick) notices before) :
    RunsOut id tick deadline clock (n :: notices) (n :: before) := by
  obtain ⟨⟨after, rfl, hafter⟩, hundone, htime⟩ := h
  refine ⟨⟨after, rfl, hafter⟩, forall_mem_cons.2 ⟨hn, hundone⟩, fun i hi => ?_⟩
  cases i with
  | zero => exact hclock
  | succ i => exact htime i (Nat.lt_of_succ_lt_succ hi)

/-- Either the code is done in time, or the time is over before. -/
theorem exists_finishes_or_runsOut (id : String) (tick deadline clock : Float)
    (notices : List Notice) :
    ∃ before, Finishes id tick deadline clock notices before ∨
      RunsOut id tick deadline clock notices before := by
  induction notices generalizing clock with
  | nil => exact ⟨[], .inr ⟨⟨[], rfl, .inl rfl⟩, by simp, by simp⟩⟩
  | cons n notices ih =>
    by_cases hclock : clock < deadline
    · by_cases hn : Word.of? id n = some .done
      · exact ⟨[], .inl ⟨⟨n, notices, rfl, hn⟩, by simp, by simpa [turnStart] using hclock⟩⟩
      · obtain ⟨before, h | h⟩ := ih (clock + tick + tick)
        · exact ⟨n :: before, .inl (h.cons hclock hn)⟩
        · exact ⟨n :: before, .inr (h.cons hclock hn)⟩
    · exact ⟨[], .inr ⟨⟨_, rfl, .inr hclock⟩, by simp, by simp⟩⟩

theorem joinTexts_eq (sep : String) (values : List Value) :
    joinTexts sep values =
      (values.mapM Value.asText?).elim (.error .wrongKind) fun texts =>
        .ok (sep.intercalate texts) := by
  unfold joinTexts
  rw [mapM_eq_elim (g := Value.asText?) (e := .wrongKind)]
  · cases values.mapM Value.asText? <;> rfl
  · intro v
    cases v with
    | atom a => cases a <;> rfl
    | _ => rfl

end Transcript

/-! ## Running code -/

namespace Kernel

/-- The time until which the answers to code are waited for that is sent now. -/
def deadline (host : Host) (timeout : Value) : Except Fault Float := do
  (← Number.add (.float host.clock) (← Number.ofValue timeout)).toFloat

/-- The kernel is registered and answers: the next connection is to a peer that takes every step. -/
structure Answers (k : Kernel) (host : Host) (peer : Peer) : Prop where
  registered : host.files.exists? (host.locate k.connection) = .ok true
  next : ∃ rest, host.peers = peer :: rest
  load : peer.loadFault = none
  start : peer.startFault = none
  ready : peer.readyFault = none
  execute : peer.executeFault = none
  stop : peer.stopFault = none

theorem exec_step {s : KernelStep} {fault : Option String} (h : fault = none) (host : Host) :
    ∃ events, Act.exec (Peer.step s fault) host = (.ok ⟨⟩, { host with events }) := by
  subst h
  exact ⟨_, rfl⟩

theorem exec_connect (h : Answers k host peer) :
    ∃ peers events, Act.exec k.connect host = (.ok peer, { host with peers, events }) := by
  obtain ⟨peers, hpeers⟩ := h.next
  have hnext : Act.exec Peer.next host = (.ok peer, { host with peers }) := by
    unfold Peer.next
    rw [Act.exec_bind_ok (Act.exec_get host)]
    simp only [hpeers]
    rfl
  obtain ⟨_, hload⟩ := exec_step (s := .load k.connection.toString) h.load { host with peers }
  obtain ⟨events, hstart⟩ := exec_step (s := .startChannels) h.start _
  refine ⟨peers, events, ?_⟩
  unfold connect Peer.load Peer.start
  rw [Act.exec_bind_ok hnext, Act.exec_bind_ok hload, Act.exec_bind_ok hstart]
  rfl

theorem exec_listen (h : deadline host timeout = .ok limit) :
    ∃ clock, Act.exec (listen peer timeout) host =
      (.ok (Transcript.listen peer.messageId host.tick limit (host.clock + host.tick) {}
        peer.notices).1, { host with clock }) := by
  have hlimit : Act.exec (Act.ofExcept (deadline host timeout))
      { host with clock := host.clock + host.tick } =
      (.ok limit, { host with clock := host.clock + host.tick }) := by
    rw [h, Act.exec_ofExcept]
  have hclock : Act.exec Act.readClock host =
      (.ok host.clock, { host with clock := host.clock + host.tick }) := rfl
  exact ⟨_, (Act.exec_bind_ok hclock).trans ((Act.exec_bind_ok hlimit).trans rfl)⟩

/-- What a kernel that answers makes of code is what the transcript of its notices tells. -/
theorem exec_execute {code : String} (h : Answers k host peer)
    (hlimit : deadline host timeout = .ok limit) :
    (Act.exec (k.execute code timeout) host).1 =
      outcome timeout (Transcript.listen peer.messageId host.tick limit (host.clock + host.tick) {}
        peer.notices).1 := by
  have hfile : Act.exec (Act.pathExists k.connection) host = (.ok true, host) := by
    rw [Act.exec_pathExists, h.registered]
  obtain ⟨peers, _, hconnect⟩ := exec_connect h
  obtain ⟨_, hready⟩ := exec_step (s := .ready 5) h.ready _
  obtain ⟨events, hexecute⟩ := exec_step (s := .execute code false) h.execute _
  obtain ⟨_, hlisten⟩ := @exec_listen { host with peers, events } peer _ _ hlimit
  obtain ⟨_, hstop⟩ := exec_step (s := .stopChannels) h.stop _
  unfold execute
  rw [Act.exec_bind_ok hfile]
  simp only [Bool.not_true, Bool.false_eq_true, if_false]
  rw [Act.exec_bind_ok hconnect]
  rw [Act.exec_bind_ok (a := .ok ⟨⟩) (by rw [Act.exec_result]; unfold Peer.ready; rw [hready])]
  unfold Peer.execute Peer.stop
  rw [Act.exec_bind_ok hexecute, Act.exec_bind_ok hlisten, Act.exec_bind_ok hstop,
    Act.exec_ofExcept]

theorem outcome_of_finishes (h : Transcript.Finishes id tick limit clock notices before) :
    outcome timeout (Transcript.listen id tick limit clock {} notices).1 =
      (Word.texts? (Word.heard id before)).elim (.error .wrongKind) fun texts =>
        .ok ⟨(Word.traces (Word.heard id before)).isEmpty, "".intercalate texts,
          (Word.traces (Word.heard id before)).getLast?⟩ := by
  rw [Transcript.listen_of_finishes rfl h, Transcript.foldl_hear id before {} h.undone]
  unfold outcome
  rw [Transcript.joinTexts_eq]
  change (Option.elim (Word.texts? _) _ _ >>= _) = _
  cases Word.texts? (Word.heard id before) with
  | none => rfl
  | some texts => cases Word.traces (Word.heard id before) <;> simp

theorem outcome_of_runsOut (h : Transcript.RunsOut id tick limit clock notices before) :
    outcome timeout (Transcript.listen id tick limit clock {} notices).1 =
      (Word.texts? (Word.heard id before)).elim (.error .wrongKind) fun texts =>
        .ok ⟨false, "".intercalate texts, some s!"Timeout after {timeout.display}s"⟩ := by
  rw [Transcript.listen_of_runsOut rfl h, Transcript.foldl_hear id before {} h.undone]
  unfold outcome
  rw [Transcript.joinTexts_eq]
  change (Option.elim (Word.texts? _) _ _ >>= _) = _
  cases Word.texts? (Word.heard id before) <;> rfl

/-- Running code tells what the kernel says about that code in time: the texts shown, in their
order, and the last trace.  Whatever else is heard does not count.  Only something shown that is no
text spoils the outcome. -/
theorem execute_told {k : Kernel} {host : Host} {peer : Peer} {code : String} {timeout : Value}
    {limit : Float} (hk : Answers k host peer) (hlimit : deadline host timeout = .ok limit) :
    let result := (Act.exec (k.execute code timeout) host).1
    let said := Word.heard peer.messageId
    let finishes := Transcript.Finishes peer.messageId host.tick limit (host.clock + host.tick)
    let runsOut := Transcript.RunsOut peer.messageId host.tick limit (host.clock + host.tick)
    (∃ before, finishes peer.notices before ∨ runsOut peer.notices before) ∧
      (∀ before texts, finishes peer.notices before → Word.texts? (said before) = some texts →
        result = .ok ⟨(Word.traces (said before)).isEmpty, "".intercalate texts,
          (Word.traces (said before)).getLast?⟩) ∧
      (∀ before texts, runsOut peer.notices before → Word.texts? (said before) = some texts →
        result = .ok ⟨false, "".intercalate texts, some s!"Timeout after {timeout.display}s"⟩) ∧
      (∀ before, finishes peer.notices before ∨ runsOut peer.notices before →
        Word.texts? (said before) = none → result = .error .wrongKind) ∧
      ∀ before notices before' rest, finishes peer.notices before → finishes notices before' →
        said before' = said before →
        (Act.exec (k.execute code timeout)
          { host with peers := { peer with notices } :: rest }).1 = result := by
  intro result said finishes runsOut
  have hresult : result = outcome timeout (Transcript.listen peer.messageId host.tick limit
      (host.clock + host.tick) {} peer.notices).1 := exec_execute hk hlimit
  refine ⟨Transcript.exists_finishes_or_runsOut _ _ _ _ _, ?_, ?_, ?_, ?_⟩
  · intro before texts h htexts
    rw [hresult, outcome_of_finishes h, htexts, Option.elim_some]
  · intro before texts h htexts
    rw [hresult, outcome_of_runsOut h, htexts, Option.elim_some]
  · rintro before (h | h) htexts
    · rw [hresult, outcome_of_finishes h, htexts, Option.elim_none]
    · rw [hresult, outcome_of_runsOut h, htexts, Option.elim_none]
  · intro before notices before' rest h h'
      (hsame : Word.heard peer.messageId before' = Word.heard peer.messageId before)
    have hother : Answers k { host with peers := { peer with notices } :: rest }
        { peer with notices } :=
      ⟨hk.registered, ⟨rest, rfl⟩, hk.load, hk.start, hk.ready, hk.execute, hk.stop⟩
    rw [exec_execute hother hlimit, hresult, outcome_of_finishes h, ← hsame]
    exact outcome_of_finishes h'

def message (parent kind : String) (content : List (String × Value)) : Notice :=
  .message (.object [
    ("parent_header", .object [("msg_id", .text parent)]),
    ("msg_type", .text kind),
    ("content", .object content)])

def idle : Notice :=
  message "M1" "status" [("execution_state", .text "idle")]

def sample : Kernel :=
  { directory := ⟨"/", ["venv"]⟩, connection := ⟨"/", ["kernel.json"]⟩ }

/-- A host on which that kernel is registered and answers with notices. -/
def sampleHost (notices : List Notice) : Host :=
  { files := .dir [("kernel.json", .file .empty)], peers := [{ notices }] }

theorem answers_sample (notices : List Notice) :
    Answers sample (sampleHost notices) { notices } :=
  ⟨rfl, ⟨[], rfl⟩, rfl, rfl, rfl, rfl, rfl⟩

theorem deadline_sample (notices : List Notice) :
    deadline (sampleHost notices) (.float 30.0) = .ok (0.0 + 30.0) :=
  rfl

/-- Messages of others, silence and a trace without lines stand between the answers. -/
def mixed : List Notice := [
  message "M2" "stream" [("text", .text "theirs")],
  .silence,
  message "M1" "stream" [("text", .text "a")],
  message "M1" "error" [],
  message "M1" "error" [("traceback", .list [.text "t", .text "u"])]]

theorem undone_of_map {words : List (Option Word)} (h : notices.map (Word.of? "M1") = words)
    (hwords : some .done ∉ words) : ∀ n ∈ notices, Word.of? "M1" n ≠ some .done := by
  intro n hn hdone
  rw [← h, ← hdone] at hwords
  exact hwords (mem_map_of_mem hn)

theorem execute_told_mixed :
    (Act.exec (sample.execute "code" (.float 30.0)) (sampleHost (mixed ++ [idle, .silence]))).1 =
      .ok ⟨false, "a", some "t\nu"⟩ := by
  have hmixed : mixed.map (Word.of? "M1") =
      [none, none, some (.shown (.text "a")), none, some (.failed "t\nu")] := rfl
  exact (execute_told (answers_sample _) (deadline_sample _)).2.1 mixed ["a"]
    ⟨⟨idle, [.silence], rfl, rfl⟩, undone_of_map hmixed (by simp), by decide +kernel⟩ rfl

/-- A number that is shown spoils the outcome of code that is done in time. -/
theorem execute_number_shown :
    (Act.exec (sample.execute "code" (.float 30.0))
      (sampleHost [message "M1" "stream" [("text", .nat 5)], idle])).1 = .error .wrongKind := by
  have hnumber : [message "M1" "stream" [("text", .nat 5)]].map (Word.of? "M1") =
      [some (.shown (.nat 5))] := rfl
  rw [exec_execute (answers_sample _) (deadline_sample _)]
  exact outcome_of_finishes
    ⟨⟨idle, [], rfl, rfl⟩, undone_of_map hnumber (by simp), by decide +kernel⟩

end Kernel

end SkillKit
