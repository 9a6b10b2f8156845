import SkillKit.Proofs.Text.Utf8
import SkillKit.Proofs.Trigger.Exit

/-!
# How a stream is cut into reads

Nothing depends on where a stream was cut: what is read is its text (`Delivers.textOf_eq`), and the
process has the verdict of the lines that have ended in it (`Delivers.watched_eq`).  A last line
without an end is never looked at.
-/

namespace SkillKit.Trigger

open Text Act List

variable {turns : List Turn}

/-! ## Reads of whole characters -/

def bytesOf : List Turn → ByteArray
  | [] => .empty
  | .output b :: rest => b ++ bytesOf rest
  | .idle :: rest => bytesOf rest
  | .ended _ :: rest => bytesOf rest

/-- Turns in which a stream is read: the process is alive in all of them, what it writes in a turn is
no more than one read takes and ends with a whole character, and all of it is the stream. -/
structure Delivers (stream : ByteArray) (turns : List Turn) : Prop where
  alive : ∀ t ∈ turns, Alive t
  size_le : ∀ b, .output b ∈ turns → b.size ≤ readSize
  whole : ∀ b, .output b ∈ turns → (decode? b).isSome
  joined : bytesOf turns = stream

theorem pieces_of_size_le {b : ByteArray} (h : b.size ≤ readSize) : pieces b = [b] := by
  have hcount : max ((b.size + readSize - 1) / readSize) 1 = 1 := by
    simp only [readSize] at h ⊢
    omega
  have hall : b.extract 0 readSize = b := by
    have := b.extract_zero_max_size (i := readSize)
    rwa [Nat.max_eq_left h] at this
  unfold pieces
  simp only [hcount, range_one, map_cons, map_nil, Nat.zero_mul, Nat.zero_add,
    Nat.one_mul, hall]

theorem readTurns_of_size_le (h : ∀ b, .output b ∈ turns → b.size ≤ readSize) :
    readTurns turns = turns := by
  induction turns with
  | nil => rfl
  | cons t rest ih =>
    have hrest := ih fun b hb => h b (mem_cons_of_mem _ hb)
    have hfirst : readTurns [t] = [t] := by
      cases t with
      | output b =>
        simp [readTurns, pieces_of_size_le (h b mem_cons_self)]
      | idle => rfl
      | ended b => rfl
    rw [← singleton_append, readTurns_append, hfirst, hrest]

theorem bytesOf_eq (halive : ∀ t ∈ turns, Alive t)
    (hwhole : ∀ b, .output b ∈ turns → (decode? b).isSome) :
    bytesOf turns = (textOf turns).toUTF8 := by
  induction turns with
  | nil => rfl
  | cons t rest ih =>
    have hrest := ih (fun t ht => halive t (mem_cons_of_mem _ ht))
      fun b hb => hwhole b (mem_cons_of_mem _ hb)
    cases t with
    | output b =>
      obtain ⟨s, hs⟩ := Option.isSome_iff_exists.mp (hwhole b mem_cons_self)
      obtain rfl := decode?_eq_some_iff.mp hs
      rw [bytesOf, textOf, turnText, decodeForgiving_toUTF8, hrest]
      simp only [String.toUTF8_eq_toByteArray, String.toByteArray_append]
    | idle => rw [bytesOf, textOf, turnText, String.empty_append, hrest]
    | ended b => exact (halive _ mem_cons_self).elim

theorem Delivers.textOf_eq {stream : ByteArray} {text : String} (h : Delivers stream turns)
    (hstream : decode? stream = some text) : textOf turns = text := by
  have hbytes : (textOf turns).toUTF8 = text.toUTF8 := by
    rw [← bytesOf_eq h.alive h.whole, h.joined, decode?_eq_some_iff.mp hstream]
  rwa [String.toUTF8_eq_toByteArray, String.toUTF8_eq_toByteArray, String.toByteArray_inj] at hbytes

/-! ## The answer to a stream -/

theorem follow_end_of_output (name : String) (inTime : Nat → Bool) (looks : Nat) (r : Reading)
    (more : List Turn) : (follow name inTime looks r (.output .empty :: more)).verdict = .ok false := by
  rw [follow]
  split <;> rfl

theorem Delivers.watched_eq {stream : ByteArray} {text : String} {q : Query} {name : String}
    {host : Host} (h : Delivers stream turns) (hstream : decode? stream = some text)
    (htime : ∀ k < turns.length, inTime q host k = true) (more : List Turn) :
    watched q name { host with turns := turns ++ .output .empty :: more } =
      verdictOn name (endedLines text) := by
  have hread : readTurns (turns ++ .output .empty :: more) =
      turns ++ .output .empty :: readTurns more := by
    rw [readTurns_append, readTurns_of_size_le h.size_le]
    rfl
  have htime' : ∀ k < turns.length, inTime q host (0 + k) = true := by simpa using htime
  rw [watched, hread, ← take_start, ← h.textOf_eq hstream]
  -- The reads in front of the end either settle the verdict or leave it open, and then it is false.
  refine (follow_alive Reading.open_start h.alive htime').trans ?_
  simp only [follow_end_of_output]

/-- How a stream is cut into reads does not show in the answer.  Two processes that write the same
stream, read to the end of their output with time left, lead to one answer: once the query could be
set up, the verdict of the lines that have ended in the stream, taken one by one up to the first that
decides. -/
theorem answerOf_eq_of_delivers (q : Query) (host : Host) {stream : ByteArray} {text : String}
    (hstream : decode? stream = some text) {turns turns' : List Turn} (more more' : List Turn)
    (h : Delivers stream turns) (h' : Delivers stream turns')
    (htime : ∀ k < turns.length, inTime q host k = true)
    (htime' : ∀ k < turns'.length, inTime q host k = true) :
    answerOf q host (turns ++ .output .empty :: more) =
      answerOf q host (turns' ++ .output .empty :: more') ∧
    answerOf q host (turns ++ .output .empty :: more) = (do
      let _ ← answerOf q host []
      verdictOn (q.commandName host.uniqueId) (endedLines text)) := by
  obtain ⟨ready, hanswer⟩ := answerOf_eq q host
  have hnone : watched q (q.commandName host.uniqueId) { host with turns := [] } = .ok false := rfl
  simp only [hanswer, h.watched_eq hstream htime, h'.watched_eq hstream htime', hnone, true_and]
  cases ready <;> rfl

/-! ### A call read in two pieces -/

def callEnd : String := "\n\x7b\"type\":\"result\"\x7d"

def wholeTurns : List Turn := [.output (callText ++ callEnd).toUTF8]

def cutTurns : List Turn := [.output callText.toUTF8, .idle, .output callEnd.toUTF8]

theorem delivers_wholeTurns : Delivers (callText ++ callEnd).toUTF8 wholeTurns where
  alive := by
    simp only [wholeTurns, mem_singleton, forall_eq, Alive]
    decide +kernel
  size_le := by
    simp only [wholeTurns, mem_singleton, Turn.output.injEq, forall_eq]
    decide +kernel
  whole := by
    simp only [wholeTurns, mem_singleton, Turn.output.injEq, forall_eq, decode?_toUTF8,
      Option.isSome_some]
  joined := by simp [wholeTurns, bytesOf]

theorem delivers_cutTurns : Delivers (callText ++ callEnd).toUTF8 cutTurns where
  alive := by
    simp only [cutTurns, forall_mem_cons, Alive]
    exact ⟨by decide +kernel, trivial, by decide +kernel, forall_mem_nil _⟩
  size_le := by
    simp only [cutTurns, mem_cons, Turn.output.injEq, reduceCtorEq, not_mem_nil, false_or,
      or_false, forall_eq_or_imp, forall_eq]
    decide +kernel
  whole := by
    simp only [cutTurns, mem_cons, Turn.output.injEq, reduceCtorEq, not_mem_nil, false_or,
      or_false, forall_eq_or_imp, forall_eq, decode?_toUTF8, Option.isSome_some, and_self]
  joined := by simp [cutTurns, bytesOf]

/-- A call is found in one read and in two, and the line behind it counts in neither. -/
theorem answerOf_eq_of_delivers_call :
    Delivers (callText ++ callEnd).toUTF8 cutTurns ∧
    Delivers (callText ++ callEnd).toUTF8 wholeTurns ∧
    (∀ k < cutTurns.length, inTime sampleQuery sampleHost k = true) ∧
    (∀ k < wholeTurns.length, inTime sampleQuery sampleHost k = true) ∧
    answerOf sampleQuery sampleHost (cutTurns ++ [.output .empty]) =
      answerOf sampleQuery sampleHost (wholeTurns ++ [.output .empty]) ∧
    answerOf sampleQuery sampleHost (cutTurns ++ [.output .empty]) = (do
      let _ ← answerOf sampleQuery sampleHost []
      verdictOn "demo-skill-abcdef01" [callText]) := by
  have htime : ∀ k < cutTurns.length, inTime sampleQuery sampleHost k = true := by decide +kernel
  have htime' : ∀ k < wholeTurns.length, inTime sampleQuery sampleHost k = true := by decide +kernel
  have hlines : endedLines (callText ++ callEnd) = [callText] := by decide +kernel
  have hname : sampleQuery.commandName sampleHost.uniqueId = "demo-skill-abcdef01" := by
    decide +kernel
  refine ⟨delivers_cutTurns, delivers_wholeTurns, htime, htime', ?_⟩
  rw [← hlines, ← hname]
  exact answerOf_eq_of_delivers sampleQuery sampleHost (decode?_toUTF8 _) [] [] delivers_cutTurns
    delivers_wholeTurns htime htime'

end SkillKit.Trigger
