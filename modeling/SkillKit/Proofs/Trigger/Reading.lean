import SkillKit.Trigger.Stream
import SkillKit.Proofs.Run
import SkillKit.Proofs.Text.Lines

/-!
# Reading a stream

Taking two pieces of output is taking both at once (`Reading.take_append`), so following a process
through any number of reads is dealing with the ended lines of all that was read, in order, up to the
first decision (`follow_alive`).
-/

namespace SkillKit.Trigger

open Text Result Watch String

variable {name : String} {xs : List String} {r : Reading}

/-! ## Lines in order -/

theorem Watch.onLines_append (name : String) (w : Watch) (xs ys : List String) :
    w.onLines name (xs ++ ys) = (do
      match ← w.onLines name xs with
      | .watching w' => w'.onLines name ys
      | .decided b => return .decided b) := by
  induction xs generalizing w with
  | nil => rfl
  | cons x rest ih =>
    rw [List.cons_append, onLines, onLines]
    cases hx : w.onLine name x with
    | error f => rfl
    | ok p =>
      cases p with
      | watching w' => exact ih w'
      | decided b => rfl

theorem Watch.onLines_append_of_settled {w : Watch} {ys : List String}
    (h : ∀ w', w.onLines name xs ≠ .ok (.watching w')) :
    w.onLines name (xs ++ ys) = w.onLines name xs := by
  rw [onLines_append]
  cases hx : w.onLines name xs with
  | error f => rfl
  | ok p =>
    cases p with
    | watching w' => exact absurd hx (h w')
    | decided b => rfl

/-! ## Pieces in order -/

theorem Reading.take_eq (name : String) (r : Reading) (text : String) :
    r.take name text = (do
      match ← r.watch.onLines name (endedLines (r.rest ++ text)) with
      | .watching watch => return .reading ⟨watch, openLine (r.rest ++ text)⟩
      | .decided b => return .decided b) := rfl

theorem Reading.take_append (name : String) (r : Reading) (a b : String) :
    r.take name (a ++ b) = (do
      match ← r.take name a with
      | .reading r' => r'.take name b
      | .decided d => return .decided d) := by
  rw [Reading.take_eq, Reading.take_eq, ← append_assoc, endedLines_append (r.rest ++ a) b,
    openLine_append (r.rest ++ a) b, onLines_append]
  cases hx : r.watch.onLines name (endedLines (r.rest ++ a)) with
  | error f => rfl
  | ok p =>
    cases p with
    | watching w =>
      simp only [ok_bind, pure_eq]
      rfl
    | decided d => rfl

/-- A reading whose kept text has no line break, as every reading has that was reached. -/
def Reading.Open (r : Reading) : Prop := '\n' ∉ r.rest.toList

theorem Reading.open_start : ({} : Reading).Open := by
  simp [Reading.Open]

theorem Reading.open_of_take {r' : Reading} {text : String}
    (h : r.take name text = .ok (.reading r')) : r'.Open := by
  obtain ⟨p, -, hp⟩ := bind_eq_ok.mp h
  cases p with
  | watching w =>
    simp only [pure_eq, Except.ok.injEq, Reading.Step.reading.injEq] at hp
    rw [← hp]
    exact openLine_free _
  | decided b => simp at hp

theorem Reading.take_empty (hr : r.Open) : r.take name "" = .ok (.reading r) := by
  rw [Reading.take_eq, append_empty, endedLines_of_free hr, openLine_of_free hr]
  rfl

/-! ## Turns of a process that is alive -/

/-- A turn of a process that has neither ended nor closed its output. -/
def Alive : Turn → Prop
  | .output b => b.isEmpty = false
  | .idle => True
  | .ended _ => False

def turnText : Turn → String
  | .output b => decodeForgiving b
  | .idle => ""
  | .ended _ => ""

def textOf : List Turn → String
  | [] => ""
  | t :: ts => turnText t ++ textOf ts

theorem textOf_append (xs ys : List Turn) : textOf (xs ++ ys) = textOf xs ++ textOf ys := by
  induction xs with
  | nil => simp [textOf]
  | cons t ts ih => rw [List.cons_append, textOf, textOf, ih, append_assoc]

/-- Following a process through turns in which it is alive, with time left at each look: what was
read is dealt with, and unless that decides, the turns behind them are followed. -/
theorem follow_alive {inTime : Nat → Bool} {looks : Nat} {turns more : List Turn} (hr : r.Open)
    (halive : ∀ t ∈ turns, Alive t) (htime : ∀ k < turns.length, inTime (looks + k) = true) :
    (follow name inTime looks r (turns ++ more)).verdict =
      match r.take name (textOf turns) with
      | .error f => .error f
      | .ok (.decided b) => .ok b
      | .ok (.reading r') => (follow name inTime (looks + turns.length) r' more).verdict := by
  induction turns generalizing looks r with
  | nil =>
    rw [textOf, Reading.take_empty hr]
    rfl
  | cons t rest ih =>
    have halive' : ∀ t ∈ rest, Alive t := fun t ht => halive t (List.mem_cons_of_mem _ ht)
    have htime' : ∀ k < rest.length, inTime (looks + 1 + k) = true := by
      intro k hk
      have := htime (k + 1) (by simp; omega)
      rwa [show looks + 1 + k = looks + (k + 1) by omega]
    have hnow : inTime looks = true := by simpa using htime 0 (by simp)
    have hlength : looks + (t :: rest).length = looks + 1 + rest.length := by simp; omega
    rw [List.cons_append, hlength]
    cases t with
    | ended b => exact (halive _ List.mem_cons_self).elim
    | idle =>
      have htext : textOf (.idle :: rest) = textOf rest := by
        rw [textOf, turnText, empty_append]
      simp only [htext, follow, hnow]
      exact ih hr halive' htime'
    | output b =>
      have hb : b.isEmpty = false := halive _ List.mem_cons_self
      rw [textOf, turnText, Reading.take_append, follow]
      simp only [hnow, hb]
      cases hx : r.take name (decodeForgiving b) with
      | error f => rfl
      | ok step =>
        cases step with
        | decided d => rfl
        | reading r' => exact ih (Reading.open_of_take hx) halive' htime'

/-! ## The verdict of lines -/

/-- The verdict that lines lead to: that of the first line that decides, and none without one. -/
def verdictOn (name : String) (lines : List String) : Except Fault Bool := do
  match ← onLines name {} lines with
  | .watching _ => return false
  | .decided b => return b

/-- Whether lines have led to a decision or a failure. -/
def Settles (name : String) (lines : List String) : Prop :=
  ∀ w, onLines name {} lines ≠ .ok (.watching w)

theorem verdictOn_append_of_settles {ys : List String} (h : Settles name xs) :
    verdictOn name (xs ++ ys) = verdictOn name xs := by
  unfold verdictOn
  rw [onLines_append_of_settled h]

theorem verdictOn_of_not_settles (h : ¬ Settles name xs) : verdictOn name xs = .ok false := by
  unfold Settles at h
  push Not at h
  obtain ⟨w, hw⟩ := h
  unfold verdictOn
  rw [hw]
  rfl

theorem take_start (name text : String) :
    (match ({} : Reading).take name text with
      | .error f => .error f
      | .ok (.decided b) => .ok b
      | .ok (.reading _) => .ok false) = verdictOn name (endedLines text) := by
  rw [Reading.take_eq, empty_append]
  unfold verdictOn
  cases hx : onLines name {} (endedLines text) with
  | error f => rfl
  | ok p => cases p <;> rfl

/-- A process that is seen to have ended has the verdict of the lines that were read before. -/
theorem follow_to_exit {inTime : Nat → Bool} {turns : List Turn} {rest : ByteArray}
    (halive : ∀ t ∈ turns, Alive t) (htime : ∀ k < turns.length, inTime k = true) :
    (follow name inTime 0 {} (turns ++ [.ended rest])).verdict =
      verdictOn name (endedLines (textOf turns)) := by
  have htime' : ∀ k < turns.length, inTime (0 + k) = true := by simpa using htime
  have hleft : ∀ r, (follow name inTime (0 + turns.length) r [.ended rest]).verdict = .ok false := by
    intro r
    rw [follow]
    split <;> rfl
  rw [follow_alive Reading.open_start halive htime', ← take_start]
  simp only [hleft]

end SkillKit.Trigger
