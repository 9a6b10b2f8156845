import SkillKit.Trigger.Query
import SkillKit.Proofs.Trigger.Reading

/-!
# The exit of a watched process

The answer of a query hangs on the turns of the process through the reading of its output alone
(`answerOf_eq`).  Output that is still unread when the process is seen to have ended is never looked
at (`watched_exit`), so the moment of the exit matters exactly when the lines read before settle
nothing and the unread ones would have.
-/

namespace SkillKit.Trigger

open Text Act List

/-! ## The answer of a query -/

/-- The answer of a query whose process takes the given turns. -/
def answerOf (q : Query) (host : Host) (turns : List Turn) : Except Fault Bool :=
  (exec (runQuery q) { host with turns }).1

/-- Whether time is left for a query at a look at the time. -/
def inTime (q : Query) (host : Host) (looks : Nat) : Bool :=
  (Number.float (clockAfter host.clock host.tick (looks + 1) - host.clock)).lessThan q.timeout

/-- What following the process of a query comes to. -/
def watched (q : Query) (name : String) (host : Host) : Except Fault Bool :=
  (follow name (inTime q host) 0 {} (readTurns host.turns)).verdict

/-- Work on files around the given value: whether it goes well hangs on files and directory alone,
and if it does, the action has the value. -/
def Around (act : Act Bool) (value : Host → Except Fault Bool) : Prop :=
  ∀ files directory, ∃ (ready : Except Fault Unit) (files' : Tree), ∀ host : Host,
    host.files = files → host.directory = directory →
      (exec act host).1 = (ready >>= fun _ => value host) ∧
      (exec act host).2.files = files' ∧ (exec act host).2.directory = directory

theorem Around.after {work : Act Unit} {act : Act Bool} {value : Host → Except Fault Bool}
    (hwork : OnFiles work) (hact : Around act value)
    (hvalue : ∀ host files, value { host with files } = value host) :
    Around (do work; act) value := by
  intro files directory
  obtain ⟨r, files', hr⟩ := hwork files directory
  cases r with
  | error f =>
    refine ⟨.error f, files', fun host hf hd => ?_⟩
    rw [exec_bind_error (hr host hf hd)]
    exact ⟨rfl, rfl, hd⟩
  | ok u =>
    obtain ⟨ready, files'', h⟩ := hact files' directory
    refine ⟨ready, files'', fun host hf hd => ?_⟩
    rw [exec_bind_ok (hr host hf hd), ← hvalue host files']
    exact h { host with files := files' } rfl hd

theorem onFiles_textsIn (dir : Path) : OnFiles (textsIn dir) := by
  refine (OnFiles.listDir dir).bind fun entries => ?_
  exact OnFiles.mapM fun entry =>
    (OnFiles.readText (dir.child entry.1)).bind fun text => OnFiles.pure _

theorem around_watchProcess (q : Query) (name : String) :
    Around (watchProcess q name) (watched q name) := by
  intro files directory
  obtain ⟨r, files', hr⟩ := onFiles_textsIn q.commandDir files directory
  cases r with
  | error f =>
    refine ⟨.error f, files', fun host hf hd => ?_⟩
    rw [watchProcess, exec_bind_ok (exec_get host), exec_bind_error (hr host hf hd)]
    exact ⟨rfl, rfl, hd⟩
  | ok commands =>
    refine ⟨.ok (), files', fun host hf hd => ?_⟩
    rw [watchProcess, exec_bind_ok (exec_get host), exec_bind_ok (hr host hf hd)]
    rw [exec_bind_ok (exec_record _ _), exec_bind_ok (exec_modify _ _)]
    split
    · rw [exec_bind_ok (exec_record _ _), exec_ofExcept]
      exact ⟨rfl, rfl, hd⟩
    · rw [exec_ofExcept]
      exact ⟨rfl, rfl, hd⟩

theorem cleanUp_result (file : Path) (files : Tree) (directory : Path) :
    ∃ cleaned : Except Fault Unit, ∀ (host : Host) (result : Except Fault Bool),
      host.files = files → host.directory = directory →
      (exec (do if ← pathExists file then removeFile file
                Act.ofExcept result) host).1 = (cleaned >>= fun _ => result) := by
  obtain ⟨found, files', hfound⟩ := OnFiles.pathExists file files directory
  cases found with
  | error f =>
    refine ⟨.error f, fun host result hf hd => ?_⟩
    rw [exec_bind_error (hfound host hf hd)]
    rfl
  | ok there =>
    cases there with
    | false =>
      refine ⟨.ok (), fun host result hf hd => ?_⟩
      rw [exec_bind_ok (hfound host hf hd)]
      exact congrArg Prod.fst (exec_ofExcept result _)
    | true =>
      obtain ⟨removed, files'', hremoved⟩ := OnFiles.removeFile file files' directory
      refine ⟨removed, fun host result hf hd => ?_⟩
      rw [exec_bind_ok (hfound host hf hd)]
      have hrun := hremoved { host with files := files' } rfl hd
      cases removed with
      | error f => exact congrArg Prod.fst (exec_bind_error hrun)
      | ok u =>
        refine (congrArg Prod.fst (exec_bind_ok hrun)).trans ?_
        exact congrArg Prod.fst (exec_ofExcept result _)

theorem answerOf_eq (q : Query) (host : Host) : ∃ ready : Except Fault Unit, ∀ turns,
    answerOf q host turns =
      (ready >>= fun _ => watched q (q.commandName host.uniqueId) { host with turns }) := by
  let name := q.commandName host.uniqueId
  let file := q.commandDir.child (name ++ ".md")
  have hinner : Around (do makeDirs q.commandDir; writeText file q.commandText
                           Act.ofExcept (.ok ()); watchProcess q name)
      (watched q name) := by
    refine Around.after (OnFiles.makeDirs _) ?_ fun _ _ => rfl
    refine Around.after (OnFiles.writeText _ _) ?_ fun _ _ => rfl
    exact Around.after (OnFiles.pure ()) (around_watchProcess q name) fun _ _ => rfl
  obtain ⟨ready, files, hready⟩ := hinner host.files host.directory
  obtain ⟨cleaned, hcleaned⟩ := cleanUp_result file files host.directory
  refine ⟨(cleaned >>= fun _ => ready), fun turns => ?_⟩
  obtain ⟨hvalue, hfiles, hdirectory⟩ := hready { host with turns } rfl rfl
  rw [answerOf, runQuery, runQueryStarting, exec_bind_ok (exec_get _), exec_bind_ok (exec_result _ _),
    hcleaned _ _ hfiles hdirectory, hvalue]
  cases cleaned <;> rfl

/-! ## Turns as they are read -/

theorem readTurns_append (xs ys : List Turn) :
    readTurns (xs ++ ys) = readTurns xs ++ readTurns ys :=
  flatMap_append

theorem isEmpty_of_mem_pieces {b piece : ByteArray} (hb : b.isEmpty = false)
    (hpiece : piece ∈ pieces b) : piece.isEmpty = false := by
  have hsize : b.size ≠ 0 := by simpa [ByteArray.isEmpty] using hb
  obtain ⟨i, hi, rfl⟩ := mem_map.mp hpiece
  have hi' : i < (b.size + readSize - 1) / readSize := by
    have hcount : 0 < (b.size + readSize - 1) / readSize :=
      Nat.div_pos (by omega) (by decide)
    rw [mem_range] at hi
    omega
  have hstart : i * readSize < b.size := by
    have := (Nat.le_div_iff_mul_le (by decide)).mp hi'
    simp only [readSize] at this ⊢
    omega
  have hne : (b.extract (i * readSize) ((i + 1) * readSize)).size ≠ 0 := by
    rw [ByteArray.size_extract]
    simp only [readSize] at hstart ⊢
    omega
  simpa [ByteArray.isEmpty] using hne

theorem alive_readTurns {turns : List Turn} (h : ∀ t ∈ turns, Alive t) :
    ∀ t ∈ readTurns turns, Alive t := by
  intro t ht
  obtain ⟨turn, hturn, ht⟩ := mem_flatMap.mp ht
  have halive := h turn hturn
  cases turn with
  | output b =>
    obtain ⟨piece, hpiece, rfl⟩ := mem_map.mp ht
    exact isEmpty_of_mem_pieces halive hpiece
  | idle =>
    rw [mem_singleton.mp ht]
    exact halive
  | ended b => exact halive.elim

/-! ## The moment of the exit -/

/-- Lines that turns bring to their end, as they are read. -/
def linesOf (turns : List Turn) : List String :=
  endedLines (textOf (readTurns turns))

theorem watched_exit {q : Query} {name : String} {host : Host} {seen : List Turn}
    (rest : ByteArray) (hseen : ∀ t ∈ seen, Alive t)
    (htime : ∀ k < (readTurns seen).length, inTime q host k = true) :
    watched q name { host with turns := seen ++ [.ended rest] } = verdictOn name (linesOf seen) := by
  rw [watched, readTurns_append]
  exact follow_to_exit (alive_readTurns hseen) htime

theorem linesOf_append (seen left : List Turn) :
    ∃ more, linesOf (seen ++ left) = linesOf seen ++ more := by
  refine ⟨endedLines (openLine (textOf (readTurns seen)) ++ textOf (readTurns left)), ?_⟩
  rw [linesOf, linesOf, readTurns_append, textOf_append, endedLines_append]

/-- The moment at which a process is seen to have ended.  With `seen` read before that moment and
`rest` left over, the answer is the one that a process gives which wrote no more than `seen`; it
is the answer to all of the output, read while the process was alive, exactly if the lines of `seen`
settle it, if that answer is no trigger, or if the query could not be run at all. -/
theorem answerOf_exit_eq_iff (q : Query) (host : Host) (seen left : List Turn) (rest : ByteArray)
    (hseen : ∀ t ∈ seen, Alive t) (hleft : ∀ t ∈ left, Alive t)
    (htime : ∀ k < (readTurns (seen ++ left)).length, inTime q host k = true) :
    answerOf q host (seen ++ [.ended rest]) = answerOf q host (seen ++ [.ended .empty]) ∧
    (answerOf q host (seen ++ [.ended rest]) = answerOf q host (seen ++ left ++ [.ended .empty]) ↔
      Settles (q.commandName host.uniqueId) (linesOf seen) ∨
      answerOf q host (seen ++ left ++ [.ended .empty]) = .ok false ∨
      ∃ f, answerOf q host [] = .error f) := by
  obtain ⟨ready, hanswer⟩ := answerOf_eq q host
  set name := q.commandName host.uniqueId
  have hall : ∀ t ∈ seen ++ left, Alive t := by
    intro t ht
    exact (mem_append.mp ht).elim (hseen t) (hleft t)
  have htime' : ∀ k < (readTurns seen).length, inTime q host k = true := by
    intro k hk
    apply htime
    rw [readTurns_append, length_append]
    omega
  simp only [hanswer, watched_exit _ hseen htime', watched_exit _ hall htime, true_and]
  cases ready with
  | error f => simp
  | ok u =>
    have hnone : watched q name { host with turns := [] } = .ok false := rfl
    obtain ⟨more, hmore⟩ := linesOf_append seen left
    simp only [Result.ok_bind, hnone, hmore, reduceCtorEq, exists_false, or_false]
    by_cases hset : Settles name (linesOf seen)
    · simp [hset, verdictOn_append_of_settles hset]
    · rw [verdictOn_of_not_settles hset]
      simp [hset, eq_comm]

/-! ### A call that is missed -/

def sampleQuery : Query where
  text := "do it"
  skillName := "demo"
  description := "Does things"
  timeout := .int 30
  project := ⟨"/", ["proj"]⟩
  model := none

def sampleHost : Host :=
  { files := .dir [("proj", .dir [])], uniqueId := "abcdef01" }

def callText : String :=
  "\x7b\"type\":\"assistant\",\"message\":\x7b\"content\":[\x7b\"type\":\"tool_use\","
    ++ "\"name\":\"Skill\",\"input\":\x7b\"skill\":\"demo-skill-abcdef01\"\x7d\x7d]\x7d\x7d"

def callLine : ByteArray := (callText ++ "\n").toUTF8

def callTurns : List Turn := [.idle, .output callLine]

theorem alive_callTurns : ∀ t ∈ callTurns, Alive t := by
  have hline : callLine.isEmpty = false := by decide +kernel
  intro t ht
  rcases mem_cons.mp ht with rfl | ht
  · trivial
  · rw [mem_singleton.mp ht]
    exact hline

theorem inTime_callTurns :
    ∀ k < (readTurns callTurns).length, inTime sampleQuery sampleHost k = true := by
  decide +kernel

/-- The process is seen to have ended before the call was read. -/
theorem answerOf_exit_eq_iff_call :
    (∀ t ∈ [Turn.idle], Alive t) ∧ (∀ t ∈ [Turn.output callLine], Alive t) ∧
    (∀ k < (readTurns callTurns).length, inTime sampleQuery sampleHost k = true) ∧
    (answerOf sampleQuery sampleHost [.idle, .ended callLine] =
        answerOf sampleQuery sampleHost (callTurns ++ [.ended .empty]) ↔
      Settles (sampleQuery.commandName sampleHost.uniqueId) (linesOf [.idle]) ∨
      answerOf sampleQuery sampleHost (callTurns ++ [.ended .empty]) = .ok false ∨
      ∃ f, answerOf sampleQuery sampleHost [] = .error f) := by
  have hseen : ∀ t ∈ [Turn.idle], Alive t := fun t ht =>
    alive_callTurns t (mem_append_left [Turn.output callLine] ht)
  have hleft : ∀ t ∈ [Turn.output callLine], Alive t := fun t ht =>
    alive_callTurns t (mem_append_right [Turn.idle] ht)
  exact ⟨hseen, hleft, inTime_callTurns,
    (answerOf_exit_eq_iff sampleQuery sampleHost [.idle] [.output callLine] callLine hseen hleft
      inTime_callTurns).2⟩

/-- The call triggers when it is read while the process is alive, and is missed when the process is
seen to have ended before. -/
theorem answerOf_exit_ne_alive :
    answerOf sampleQuery sampleHost [.idle, .ended callLine] ≠
      answerOf sampleQuery sampleHost (callTurns ++ [.ended .empty]) := by
  obtain ⟨ready, hanswer⟩ := answerOf_eq sampleQuery sampleHost
  have hexit : (answerOf sampleQuery sampleHost [.idle, .ended callLine]).toOption = some false := by
    decide +kernel
  have hlines : linesOf callTurns = [callText] := by decide +kernel
  have hcall : (verdictOn (sampleQuery.commandName sampleHost.uniqueId) [callText]).toOption =
      some true := by decide +kernel
  intro h
  rw [h, hanswer, watched_exit _ alive_callTurns inTime_callTurns] at hexit
  cases ready with
  | error f => exact absurd hexit (by simp [Except.toOption])
  | ok u =>
    rw [Result.ok_bind, hlines, hcall] at hexit
    exact absurd hexit (by decide)

end SkillKit.Trigger
