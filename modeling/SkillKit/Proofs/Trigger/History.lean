import SkillKit.Proofs.Trigger.ToolCall

/-!
# What an answer rests on

The watch of a stream remembers of all documents before only the pieces of the call that started
last (`Remembers`).  So a query triggers for one of two reasons that can be read off the documents
received (`answerOf_sound_and_exact`): the pieces since the last start of a call that may use a
command hold the name, or a message does in the first tool that it calls.  In the other direction a
call in pieces is judged by its whole text, however it was cut and whatever idle lines stand between
its lines.
-/

namespace SkillKit.Trigger

open Text Act
open List hiding contains dropPrefix?

variable {s name : String} {v event part : Value} {w : Watch} {p : Progress} {events : List Value}

/-! ## Reasons for a trigger -/

/-- A document that starts a call of a tool that may use a command. -/
def StartsCall (event : Value) : Prop :=
  ∃ tool, isCommandTool (.text tool) = true ∧ CallStart tool event

/-- A document, if it is of the given type. -/
def ofType? (type : String) (v : Value) : Option Value :=
  if (v.field? "type").any (·.isText type) then some v else none

/-- The piece of the text of an input that a document brings. -/
def piece? (event : Value) : Option String := do
  let part ← (← ofType? "stream_event" event).field? "event"
  let delta ← (← ofType? "content_block_delta" part).field? "delta"
  (← (← ofType? "input_json_delta" delta).field? "partial_json").asText?

/-- The pieces that came since the last start of a call hold the name when they are put together. -/
def PiecesUse (name : String) (events : List Value) : Prop :=
  ∃ before start since, events = before ++ start :: since ∧ StartsCall start ∧
    (∀ event ∈ since, ¬ StartsCall event) ∧
    contains (String.join (since.filterMap piece?)) name = true

/-- A call that has the name in the field that names a command. -/
def ItemUses (name : String) (item : Value) : Prop :=
  ∃ tool field input value, (tool, field) ∈ [("Skill", "skill"), ("Read", "file_path")] ∧
    item.field? "name" = some (.text tool) ∧ item.field? "input" = some input ∧
    input.field? field = some value ∧ value.holds name = .ok true

/-- A message whose first call of a tool uses the command. -/
def MessageUses (name : String) (event : Value) : Prop :=
  ∃ message content before item after, event.field? "type" = some (.text "assistant") ∧
    event.field? "message" = some message ∧ message.field? "content" = some content ∧
    content.parts = .ok (before ++ item :: after) ∧
    (∀ earlier ∈ before, earlier.field? "type" ≠ some (.text "tool_use")) ∧
    item.field? "type" = some (.text "tool_use") ∧ ItemUses name item

/-! ## Fields that are read -/

theorem any_isText_iff {o : Option Value} : o.any (·.isText s) = true ↔ o = some (.text s) := by
  cases o with
  | none => simp
  | some v =>
    rw [Option.any_some, Option.some.injEq]
    unfold Value.isText
    split
    · simp [Value.text]
    · rename_i hv
      simp only [Bool.false_eq_true, false_iff]
      exact hv s

theorem ofType?_eq_some_iff {type : String} {w : Value} :
    ofType? type v = some w ↔ v = w ∧ v.field? "type" = some (.text type) := by
  unfold ofType?
  split
  · rename_i h
    simp [any_isText_iff.mp h]
  · rename_i h
    simp only [reduceCtorEq, false_iff, not_and]
    exact fun _ htype => h (any_isText_iff.mpr htype)

theorem asText?_eq_some_iff : v.asText? = some s ↔ v = .text s := by
  unfold Value.asText?
  split
  · simp [Value.text]
  · rename_i h
    simp only [reduceCtorEq, false_iff]
    exact fun hv => h s hv

/-- The pieces are those that a call is told in. -/
theorem piece?_eq_some_iff {piece : String} :
    piece? event = some piece ↔ CallPiece piece event := by
  simp only [piece?, Option.bind_eq_bind, Option.bind_eq_some_iff, ofType?_eq_some_iff,
    asText?_eq_some_iff]
  constructor
  · rintro ⟨_, ⟨rfl, htype⟩, part, hpart, _, ⟨rfl, hkind⟩, delta, hdelta, _, ⟨rfl, hinput⟩, _,
      hjson, rfl⟩
    exact ⟨part, delta, ⟨htype, hpart, hkind⟩, hdelta, hinput, hjson⟩
  · rintro ⟨part, delta, ⟨htype, hpart, hkind⟩, hdelta, hinput, hjson⟩
    exact ⟨_, ⟨rfl, htype⟩, part, hpart, _, ⟨rfl, hkind⟩, delta, hdelta, _, ⟨rfl, hinput⟩, _, hjson,
      rfl⟩

/-- What is looked up with a value to fall back on stands there, or is that value. -/
theorem lookupD_cases {w other : Value} {key : String} (h : v.lookupD key other = .ok w) :
    v.field? key = some w ∨ v.field? key = none ∧ w = other := by
  cases v with
  | dict fields =>
    have hw : (Fields.get? fields key).getD other = w := Except.ok.inj h
    rw [Value.field?, ← hw]
    cases Fields.get? fields key with
    | none => exact .inr ⟨rfl, rfl⟩
    | some u => exact .inl rfl
  | _ => cases h

/-- A value that differs from the one to fall back on stands there. -/
theorem field?_of_lookupD {w other : Value} {key : String} (h : v.lookupD key other = .ok w)
    (hne : w ≠ other) : v.field? key = some w :=
  (lookupD_cases h).resolve_right fun hother => hne hother.2

theorem field?_of_isText {w other : Value} {key : String} (h : v.lookupD key other = .ok w)
    (hw : w.isText s = true) (hother : other.isText s = false) : v.field? key = some (.text s) := by
  have hfield := field?_of_lookupD h fun heq => Bool.false_ne_true (hother.symm.trans (heq ▸ hw))
  exact any_isText_iff.mp (by rw [hfield, Option.any_some, hw])

/-! ## What one document does -/

/-- The piece of a document, empty if it brings none. -/
def pieceOf (event : Value) : String :=
  (piece? event).getD ""

/-- What a document makes of a watch. -/
inductive Moves (name : String) (w : Watch) (event : Value) : Progress → Prop
  | started (hstart : StartsCall event) : Moves name w event (.watching ⟨true, ""⟩)
  | unwatched (hstart : ¬ StartsCall event) (hpending : w.pending = false) :
    Moves name w event (.watching w)
  | gathered (hstart : ¬ StartsCall event) (hpending : w.pending = true) :
    Moves name w event (.watching ⟨true, w.gathered ++ pieceOf event⟩)
  | found (hstart : ¬ StartsCall event) (hpending : w.pending = true)
    (hfound : contains (w.gathered ++ pieceOf event) name = true) :
    Moves name w event (.decided true)
  | message (huses : MessageUses name event) : Moves name w event (.decided true)
  | unused : Moves name w event (.decided false)

/-- A document that brings no piece to a call leaves the watch as it is. -/
theorem Moves.quiet (hstart : ¬ StartsCall event)
    (hpiece : w.pending = true → piece? event = none) :
    Moves name w event (.watching w) := by
  obtain ⟨pending, gathered⟩ := w
  cases pending with
  | false => exact .unwatched hstart rfl
  | true =>
    have h : Moves name ⟨true, gathered⟩ event (.watching ⟨true, gathered ++ pieceOf event⟩) :=
      .gathered hstart rfl
    rwa [pieceOf, hpiece rfl, Option.getD_none, String.append_empty] at h

/-- The name stands in what was gathered before. -/
theorem Moves.held (hstart : ¬ StartsCall event) (hpending : w.pending = true)
    (hheld : contains w.gathered name = true) :
    Moves name w event (.decided true) :=
  .found hstart hpending (contains_append_left hheld _)

/-- The start of a block goes by unless it starts the call of a tool. -/
theorem onBlockStart_cases (h : w.onBlockStart part = .ok p) :
    p = .watching w ∨ p = .decided false ∨
    ∃ tool block, isCommandTool (.text tool) = true ∧
      part.field? "content_block" = some block ∧ block.field? "type" = some (.text "tool_use") ∧
      block.field? "name" = some (.text tool) := by
  obtain ⟨block, hblock, h⟩ := Result.bind_eq_ok.mp h
  obtain ⟨type, htype, h⟩ := Result.bind_eq_ok.mp h
  split at h
  · exact .inl (Except.ok.inj h).symm
  · rename_i hcall
    obtain ⟨tool, htool, h⟩ := Result.bind_eq_ok.mp h
    split at h
    · rename_i hcommand
      have htype' : block.field? "type" = some (.text "tool_use") :=
        field?_of_isText htype (by simpa using hcall) rfl
      have hblock' := field?_of_lookupD hblock (by rintro rfl; cases htype')
      rcases Bool.or_eq_true_iff.mp hcommand with hname | hname
      · exact .inr (.inr ⟨_, block, rfl, hblock', htype', field?_of_isText htool hname rfl⟩)
      · exact .inr (.inr ⟨_, block, rfl, hblock', htype', field?_of_isText htool hname rfl⟩)
    · exact .inr (.inl (Except.ok.inj h).symm)

/-- Without a piece, what was gathered stays, and decides if it holds the name. -/
theorem onBlockDelta_cases (h : w.onBlockDelta name part = .ok p) :
    p = .watching w ∨ p = .decided true ∧ contains w.gathered name = true ∨
    ∃ delta piece, part.field? "delta" = some delta ∧
      delta.field? "type" = some (.text "input_json_delta") ∧
      delta.field? "partial_json" = some (.text piece) := by
  obtain ⟨delta, hdelta, h⟩ := Result.bind_eq_ok.mp h
  obtain ⟨type, htype, h⟩ := Result.bind_eq_ok.mp h
  split at h
  · exact .inl (Except.ok.inj h).symm
  · rename_i hinput
    have htype' : delta.field? "type" = some (.text "input_json_delta") :=
      field?_of_isText htype (by simpa using hinput) rfl
    have hdelta' := field?_of_lookupD hdelta (by rintro rfl; cases htype')
    obtain ⟨json, hjson, h⟩ := Result.bind_eq_ok.mp h
    split at h
    · rename_i piece
      rcases lookupD_cases hjson with hjson | ⟨-, hempty⟩
      · exact .inr (.inr ⟨delta, piece, hdelta', htype', hjson⟩)
      · obtain rfl : piece = "" := by simpa [Value.text] using hempty
        rw [String.append_empty] at h
        dsimp only at h
        split at h
        · exact .inr (.inl ⟨(Except.ok.inj h).symm, ‹_›⟩)
        · exact .inl (Except.ok.inj h).symm
    · cases h

/-- A field that names a command belongs to one of the two tools. -/
theorem commandField?_cases {tool : Value} {field : String}
    (h : Watch.commandField? tool = some field) :
    ∃ t, tool = .text t ∧ (t, field) ∈ [("Skill", "skill"), ("Read", "file_path")] := by
  unfold Watch.commandField? at h
  split at h
  · exact ⟨"Skill", rfl, by simp [Option.some.inj h]⟩
  · exact ⟨"Read", rfl, by simp [Option.some.inj h]⟩
  · cases h

theorem itemUses_of_usesCommand {item : Value} (hname : name.toList ≠ [])
    (h : Watch.usesCommand name item = .ok true) : ItemUses name item := by
  obtain ⟨tool, htool, h⟩ := Result.bind_eq_ok.mp h
  split at h
  · rename_i field hfield
    obtain ⟨t, rfl, hmem⟩ := commandField?_cases hfield
    obtain ⟨input, hinput, h⟩ := Result.bind_eq_ok.mp h
    obtain ⟨value, hvalue, h⟩ := Result.bind_eq_ok.mp h
    -- The text that stands for a missing field is empty and so does not hold the name.
    have hvalue' : input.field? field = some value := by
      refine field?_of_lookupD hvalue ?_
      rintro rfl
      obtain ⟨s, hs, hin⟩ := exists_of_holds h
      rw [mem_singleton.mp hs] at hin
      exact hname (infix_nil.mp hin)
    have hinput' := field?_of_lookupD hinput (by rintro rfl; cases hvalue')
    have htool' := field?_of_lookupD htool fun hnone => by rw [hnone] at hfield; cases hfield
    exact ⟨t, field, input, value, hmem, htool', hinput', hvalue', h⟩
  · cases h

/-- The first call of a tool decides about the items of a message. -/
theorem onItems_cases (hname : name.toList ≠ []) {items : List Value}
    (h : w.onItems name items = .ok p) :
    p = .watching w ∨ p = .decided false ∨
    ∃ before item after, items = before ++ item :: after ∧
      (∀ earlier ∈ before, earlier.field? "type" ≠ some (.text "tool_use")) ∧
      item.field? "type" = some (.text "tool_use") ∧ ItemUses name item ∧ p = .decided true := by
  induction items with
  | nil => exact .inl (Except.ok.inj h).symm
  | cons item rest ih =>
    obtain ⟨type, htype, h⟩ := Result.bind_eq_ok.mp h
    split at h
    · rename_i hcall
      obtain ⟨uses, huses, h⟩ := Result.bind_eq_ok.mp h
      obtain rfl := Except.ok.inj h
      cases uses with
      | false => exact .inr (.inl rfl)
      | true =>
        exact .inr (.inr ⟨[], item, rest, rfl, forall_mem_nil _,
          field?_of_isText htype hcall rfl, itemUses_of_usesCommand hname huses, rfl⟩)
    · rename_i hother
      rcases ih h with hp | hp | ⟨before, call, after, rfl, hbefore, hcall, huses, hp⟩
      · exact .inl hp
      · exact .inr (.inl hp)
      · refine .inr (.inr ⟨item :: before, call, after, rfl, ?_, hcall, huses, hp⟩)
        rw [forall_mem_cons]
        refine ⟨fun hitem => hother ?_, hbefore⟩
        rcases lookupD_cases htype with hfield | ⟨hnone, -⟩
        · rw [Option.some.inj (hfield.symm.trans hitem)]
          simp [Value.isText]
        · rw [hnone] at hitem
          cases hitem

/-- A part of a message that is neither the start of a call nor a piece of it. -/
theorem onStreamEvent_moves (htype : event.field? "type" = some (.text "stream_event"))
    (hpart : event.field? "event" = some part) (hstart : ¬ StartsCall event)
    (hpiece : w.pending = true → piece? event = none) (h : w.onStreamEvent name part = .ok p) :
    Moves name w event p := by
  obtain ⟨kind, hkind, h⟩ := Result.bind_eq_ok.mp h
  have hkind' := field?_of_lookupD hkind
  split at h
  · rcases onBlockStart_cases h with rfl | rfl | ⟨tool, block, htool, hblock, hcall, hname⟩
    · exact .quiet hstart hpiece
    · exact .unused
    · exact absurd ⟨tool, htool, part, block, ⟨htype, hpart, hkind' (by simp [Value.text])⟩, hblock,
        hcall, hname⟩ hstart
  · split at h
    · rename_i hpending
      rcases onBlockDelta_cases h with rfl | ⟨rfl, hfound⟩ | ⟨delta, piece, hdelta, hinput, hjson⟩
      · exact .quiet hstart hpiece
      · exact .held hstart hpending hfound
      · have hcall : CallPiece piece event :=
          ⟨part, delta, ⟨htype, hpart, hkind' (by simp [Value.text])⟩, hdelta, hinput, hjson⟩
        rw [piece?_eq_some_iff.mpr hcall] at hpiece
        cases hpiece hpending
    · cases h
      exact .quiet hstart hpiece
  · split at h
    · rename_i hpending
      cases h
      cases hfound : contains w.gathered name with
      | true => exact .held hstart hpending hfound
      | false => exact .unused
    · cases h
      exact .quiet hstart hpiece
  · cases h
    cases hend : w.pending && contains w.gathered name with
    | true =>
      obtain ⟨hpending, hfound⟩ := Bool.and_eq_true_iff.mp hend
      exact .held hstart hpending hfound
    | false => exact .unused
  · cases h
    exact .quiet hstart hpiece

/-- What a document can do. -/
theorem onEvent_moves (hname : name.toList ≠ []) (h : w.onEvent name event = .ok p) :
    Moves name w event p := by
  by_cases hstart : StartsCall event
  · obtain ⟨tool, htool, hcall⟩ := hstart
    rw [onEvent_start hcall, htool] at h
    cases h
    exact .started ⟨tool, htool, hcall⟩
  by_cases hpiece : w.pending = true → piece? event = none
  · obtain ⟨type, htype, h⟩ := Result.bind_eq_ok.mp h
    have htype' := field?_of_lookupD htype
    split at h
    · obtain ⟨part, hpart, h⟩ := Result.bind_eq_ok.mp h
      rcases lookupD_cases hpart with hpart | ⟨-, rfl⟩
      · exact onStreamEvent_moves (htype' nofun) hpart hstart hpiece h
      · cases h
        exact .quiet hstart hpiece
    · obtain ⟨message, hmessage, h⟩ := Result.bind_eq_ok.mp h
      obtain ⟨content, hcontent, h⟩ := Result.bind_eq_ok.mp h
      obtain ⟨items, hitems, h⟩ := Result.bind_eq_ok.mp h
      rcases onItems_cases hname h with rfl | rfl |
        ⟨before, item, after, rfl, hbefore, hcall, huses, rfl⟩
      · exact .quiet hstart hpiece
      · exact .unused
      · -- Neither the message nor its content is the empty one that stands for none.
        have hcontent' := field?_of_lookupD hcontent (by
          rintro rfl
          exact absurd (Except.ok.inj hitems) (by simp))
        have hmessage' := field?_of_lookupD hmessage (by rintro rfl; cases hcontent')
        exact .message ⟨message, content, before, item, after, htype' nofun, hmessage', hcontent',
          hitems, hbefore, hcall, huses⟩
    · cases h
      exact .unused
    · cases h
      exact .quiet hstart hpiece
  · push Not at hpiece
    obtain ⟨hpending, hsome⟩ := hpiece
    obtain ⟨piece, hpiece⟩ := Option.ne_none_iff_exists'.mp hsome
    have hcall := piece?_eq_some_iff.mp hpiece
    obtain ⟨pending, gathered⟩ := w
    obtain rfl : pending = true := hpending
    have hpieceOf : piece = pieceOf event := by rw [pieceOf, hpiece, Option.getD_some]
    rw [onEvent_piece hcall, hpieceOf] at h
    cases h
    split
    · exact .found hstart rfl ‹_›
    · exact .gathered hstart rfl

/-! ## What is remembered -/

/-- The watch of a call has gathered the pieces since the call that started last. -/
def Remembers (events : List Value) (w : Watch) : Prop :=
  w.pending = true → ∃ before start since, events = before ++ start :: since ∧ StartsCall start ∧
    (∀ event ∈ since, ¬ StartsCall event) ∧ w.gathered = String.join (since.filterMap piece?)

theorem remembers_nil : Remembers [] {} := nofun

/-- A document behind a call, with the piece that it brings. -/
theorem Remembers.gather (hw : Remembers events w) (hpending : w.pending = true)
    (hstart : ¬ StartsCall event) :
    Remembers (events ++ [event]) ⟨true, w.gathered ++ pieceOf event⟩ := by
  intro _
  obtain ⟨before, start, since, rfl, hcall, hsince, hgathered⟩ := hw hpending
  refine ⟨before, start, since ++ [event], by simp, hcall, ?_, ?_⟩
  · intro e he
    rcases mem_append.mp he with he | he
    · exact hsince e he
    · exact mem_singleton.mp he ▸ hstart
  · rw [filterMap_append, String.join_append, ← hgathered, pieceOf]
    cases hpiece : piece? event <;> simp [hpiece]

/-- A document that does not decide keeps what is remembered in line with the documents. -/
theorem Remembers.step {w' : Watch} (hw : Remembers events w)
    (h : Moves name w event (.watching w')) : Remembers (events ++ [event]) w' := by
  cases h with
  | started hstart => exact fun _ => ⟨events, event, [], rfl, hstart, forall_mem_nil _, rfl⟩
  | unwatched hstart hpending =>
    intro hpending'
    rw [hpending] at hpending'
    cases hpending'
  | gathered hstart hpending => exact hw.gather hpending hstart

/-- A document that triggers has a reason to. -/
theorem Remembers.reason (hw : Remembers events w) (h : Moves name w event (.decided true)) :
    PiecesUse name (events ++ [event]) ∨ MessageUses name event := by
  cases h with
  | found hstart hpending hfound =>
    obtain ⟨before, start, since, hevents, hcall, hsince, hgathered⟩ :=
      hw.gather hpending hstart rfl
    exact .inl ⟨before, start, since, hevents, hcall, hsince, hgathered ▸ hfound⟩
  | message huses => exact .inr huses

/-! ## A whole stream -/

/-- The documents in lines; blank lines and those that are no JSON have none. -/
def documents (lines : List String) : List Value :=
  lines.filterMap fun line => (Json.read (strip line)).toOption

theorem onLine_cases {line : String} (h : w.onLine name line = .ok p) :
    p = .watching w ∧ documents [line] = [] ∨
    ∃ event, documents [line] = [event] ∧ w.onEvent name event = .ok p := by
  cases hread : Json.read (strip line) with
  | ok event =>
    rw [onLine_of_read hread] at h
    exact .inr ⟨event, by simp [documents, hread, Except.toOption], h⟩
  | error f =>
    refine .inl ⟨?_, by simp [documents, hread, Except.toOption]⟩
    rw [Watch.onLine, hread] at h
    dsimp only at h
    split at h
    · exact (Except.ok.inj h).symm
    · split at h
      · exact (Except.ok.inj h).symm
      · cases h

/-- Lines that trigger have a reason to in the first of them, given the documents seen before. -/
theorem reason_of_onLines (hname : name.toList ≠ []) (hw : Remembers events w) {lines : List String}
    (h : w.onLines name lines = .ok (.decided true)) :
    ∃ front, front <+: lines ∧ (PiecesUse name (events ++ documents front) ∨
      ∃ event ∈ documents front, MessageUses name event) := by
  induction lines generalizing events w with
  | nil => cases h
  | cons line rest ih =>
    obtain ⟨p, hp, h⟩ := Result.bind_eq_ok.mp h
    have hcons (front : List String) :
        documents (line :: front) = documents [line] ++ documents front :=
      filterMap_append (l := [line])
    rcases onLine_cases hp with ⟨rfl, hnone⟩ | ⟨event, hevent, hmove⟩
    · obtain ⟨front, hfront, hreason⟩ := ih hw h
      refine ⟨line :: front, prefix_cons_inj line |>.mpr hfront, ?_⟩
      rwa [hcons, hnone]
    · have hmoves := onEvent_moves hname hmove
      cases p with
      | watching w' =>
        obtain ⟨front, hfront, hreason⟩ := ih (hw.step hmoves) h
        refine ⟨line :: front, prefix_cons_inj line |>.mpr hfront, ?_⟩
        rw [hcons, hevent, ← append_assoc]
        exact hreason.imp_right fun ⟨e, he, huses⟩ => ⟨e, mem_append_right _ he, huses⟩
      | decided b =>
        obtain rfl : b = true := by simpa using h
        refine ⟨[line], ⟨rest, rfl⟩, ?_⟩
        rw [hevent]
        exact (hw.reason hmoves).imp_right fun huses => ⟨event, mem_singleton_self _, huses⟩

/-- Lines that were received in the first of some turns, while the process was alive. -/
def Received (turns : List Turn) (lines : List String) : Prop :=
  ∃ seen later, readTurns turns = seen ++ later ∧ (∀ turn ∈ seen, Alive turn) ∧
    lines <+: endedLines (textOf seen)

/-- Following a process comes to a trigger only by what was read while it was alive. -/
theorem exists_take_of_follow {inTime : Nat → Bool} {looks : Nat} {r : Reading} {turns : List Turn}
    (hr : r.Open) (h : (follow name inTime looks r turns).verdict = .ok true) :
    ∃ seen later, turns = seen ++ later ∧ (∀ turn ∈ seen, Alive turn) ∧
      r.take name (textOf seen) = .ok (.decided true) := by
  induction turns generalizing looks r with
  | nil => cases h
  | cons turn more ih =>
    cases turn with
    | ended rest =>
      rw [follow] at h
      split at h <;> cases h
    | idle =>
      rw [follow] at h
      split at h
      · cases h
      · obtain ⟨seen, later, rfl, halive, htake⟩ := ih hr h
        refine ⟨.idle :: seen, later, rfl, forall_mem_cons.mpr ⟨trivial, halive⟩, ?_⟩
        rwa [textOf, turnText]
    | output bytes =>
      rw [follow] at h
      split at h
      · cases h
      split at h
      · cases h
      rename_i hsome
      have halive : Alive (.output bytes) := by simpa [Alive] using hsome
      cases htake : r.take name (decodeForgiving bytes) with
      | error f =>
        rw [htake] at h
        cases h
      | ok step =>
        rw [htake] at h
        cases step with
        | decided b =>
          obtain rfl : b = true := Except.ok.inj h
          refine ⟨[.output bytes], more, rfl, by simpa using halive, ?_⟩
          rwa [textOf, textOf, String.append_empty]
        | reading r' =>
          obtain ⟨seen, later, rfl, hseen, hlast⟩ := ih (Reading.open_of_take htake) h
          refine ⟨.output bytes :: seen, later, rfl, forall_mem_cons.mpr ⟨halive, hseen⟩, ?_⟩
          rw [textOf, turnText, Reading.take_append, htake]
          exact hlast

/-- A query that triggers has received a reason to. -/
theorem reason_of_answerOf {q : Query} {host : Host} {turns : List Turn}
    (h : answerOf q host turns = .ok true) :
    ∃ lines, Received turns lines ∧ (PiecesUse (q.commandName host.uniqueId) (documents lines) ∨
      ∃ event ∈ documents lines, MessageUses (q.commandName host.uniqueId) event) := by
  obtain ⟨ready, hanswer⟩ := answerOf_eq q host
  have hname : (q.commandName host.uniqueId).toList ≠ [] :=
    ne_nil_of_mem (k_mem_commandName q _)
  rw [hanswer] at h
  obtain ⟨-, -, hwatched⟩ := Result.bind_eq_ok.mp h
  obtain ⟨seen, later, hturns, halive, htake⟩ := exists_take_of_follow Reading.open_start hwatched
  obtain ⟨p, hp, hdecided⟩ := Result.bind_eq_ok.mp htake
  cases p with
  | watching w => cases hdecided
  | decided b =>
    obtain rfl : b = true := by simpa using hdecided
    obtain ⟨lines, hlines, hreason⟩ := reason_of_onLines hname remembers_nil hp
    exact ⟨lines, ⟨seen, later, hturns, halive, hlines⟩, hreason⟩

/-! ## Idle lines -/

/-- Whether an object is of a type that tells nothing about calls. -/
def isAside (fields : Fields) : Bool :=
  ["stream_event", "assistant", "result"].all fun type =>
    !(Fields.get? fields "type").any (·.isText type)

/-- A line that a reader goes past: a blank one, one that is no JSON, or an object of a type that
tells nothing about calls. -/
def isIdle (line : String) : Bool :=
  (strip line).isEmpty ||
    match Json.read (strip line) with
    | .ok (.dict fields) => isAside fields
    | .ok _ => false
    | .error f => f.isBadJson

theorem onEvent_of_isAside {fields : Fields} (h : isAside fields = true) (name : String)
    (w : Watch) : w.onEvent name (.dict fields) = .ok (.watching w) := by
  have hother {type : String} (hmem : type ∈ ["stream_event", "assistant", "result"]) :
      Fields.get? fields "type" ≠ some (.text type) := by
    intro htype
    have hno := all_eq_true.mp h type hmem
    rw [any_isText_iff.mpr htype] at hno
    cases hno
  have hlookup : (Value.dict fields).lookupD "type" .null =
      .ok ((Fields.get? fields "type").getD .null) := rfl
  rw [Watch.onEvent, hlookup, Result.ok_bind]
  cases htype : Fields.get? fields "type" with
  | none => rfl
  | some type =>
    rw [Option.getD_some]
    split
    · exact absurd htype (hother (by simp))
    · exact absurd htype (hother (by simp))
    · exact absurd htype (hother (by simp))
    · rfl

theorem onLine_of_isIdle {line : String} (h : isIdle line = true) (name : String) (w : Watch) :
    w.onLine name line = .ok (.watching w) := by
  unfold isIdle at h
  rw [Watch.onLine]
  cases hempty : (strip line).isEmpty with
  | true => rfl
  | false =>
    rw [hempty, Bool.false_or] at h
    split at h
    · rename_i fields hread
      rw [hread]
      exact onEvent_of_isAside h name w
    · cases h
    · rename_i f hread
      rw [hread]
      simp [h]

/-- Idle lines change nothing. -/
theorem onLines_filter_idle (name : String) (w : Watch) (lines : List String) :
    w.onLines name (lines.filter (!isIdle ·)) = w.onLines name lines := by
  induction lines generalizing w with
  | nil => rfl
  | cons line rest ih =>
    cases hidle : isIdle line with
    | true =>
      rw [filter_cons_of_neg (by simp [hidle]), Watch.onLines, onLine_of_isIdle hidle, ih]
      rfl
    | false =>
      rw [filter_cons_of_pos (by simp [hidle]), Watch.onLines, Watch.onLines]
      simp only [ih]

/-- A query triggers only for a reason, and a call in pieces is judged by its whole text.

If the query triggers, then lines were received while the process was alive whose documents give the
reason: since the last start of a call that may use a command came pieces that hold the name of the
command when they are put together, or a message has the name in the first tool that it calls, in
the field that names a command.

If the lines but for idle ones tell of a call in pieces, however its input is cut, then the answer
is whether the name stands in the whole input, once the query could be set up. -/
theorem answerOf_sound_and_exact (q : Query) (host : Host) (turns : List Turn) :
    (answerOf q host turns = .ok true →
      ∃ lines, Received turns lines ∧ (PiecesUse (q.commandName host.uniqueId) (documents lines) ∨
        ∃ event ∈ documents lines, MessageUses (q.commandName host.uniqueId) event)) ∧
    ∀ tool pieces lines, tool = "Skill" ∨ tool = "Read" →
      TellsInPieces tool pieces (lines.filter (!isIdle ·)) → Brings q host lines turns →
      answerOf q host turns = (do
        let _ ← answerOf q host []
        .ok (contains (String.join pieces) (q.commandName host.uniqueId))) := by
  refine ⟨reason_of_answerOf, fun tool pieces lines htool htold hturns => ?_⟩
  have hcommand : isCommandTool (.text tool) = true := by
    rcases htool with rfl | rfl <;> rfl
  have honLines : Watch.onLines (q.commandName host.uniqueId) {} lines =
      .ok (.decided (contains (String.join pieces) (q.commandName host.uniqueId))) := by
    rw [← onLines_filter_idle, onLines_tellsInPieces htold, hcommand, Bool.true_and]
  have hsettles : Settles (q.commandName host.uniqueId) lines := by
    intro w
    rw [honLines]
    exact fun hw => nomatch hw
  rw [hturns.answerOf_eq hsettles, verdictOn, honLines]
  rfl

/-! ### A call between idle lines -/

/-- A greeting, a warning that is no JSON, and a call whose input is cut inside the name of the
command, with an empty line in the middle. -/
def chatter : List String :=
  lineOf (.object [("type", .text "system")]) :: "warning: slow" :: lineOf startEvent ::
    lineOf (pieceEvent "\x7b\"skill\": \"demo-sk") :: " " ::
    lineOf (pieceEvent "ill-abcdef01\"\x7d") :: [lineOf stopEvent]

def chatterPieces : List String := ["\x7b\"skill\": \"demo-sk", "ill-abcdef01\"\x7d"]

def chatterTurns : List Turn := [.output (streamOf chatter).toUTF8]

theorem brings_chatter : Brings sampleQuery sampleHost chatter chatterTurns := by
  refine brings_one_read ?_ (by decide +kernel) (by decide +kernel) inTime_mention
  simp only [chatter, forall_mem_cons]
  exact ⟨lineFeed_not_mem_lineOf _, by decide, lineFeed_not_mem_lineOf _, lineFeed_not_mem_lineOf _,
    by decide, lineFeed_not_mem_lineOf _, lineFeed_not_mem_lineOf _, forall_mem_nil _⟩

/-- Whether the line of an object is idle hangs on the type of the object. -/
theorem isIdle_lineOf {fields : List (String × Value)} (h : Json.isJson (.object fields) = true) :
    isIdle (lineOf (.object fields)) = isAside (fields.map fun f => (.text f.1, f.2)) := by
  obtain ⟨_, hread, rfl⟩ := says_lineOf (p := (· = .object fields)) h rfl
  rw [isIdle, isEmpty_of_read hread, hread]
  rfl

theorem tellsInPieces_chatter :
    TellsInPieces "Skill" chatterPieces (chatter.filter (!isIdle ·)) := by
  have hcalls : chatter.filter (!isIdle ·) =
      lineOf startEvent :: (chatterPieces.map (lineOf ∘ pieceEvent) ++ [lineOf stopEvent]) := by
    have hgreeting : isIdle (lineOf (.object [("type", .text "system")])) = true :=
      isIdle_lineOf rfl
    have hwarning : isIdle "warning: slow" = true := by decide +kernel
    have hblank : isIdle " " = true := by decide +kernel
    have hstart : isIdle (lineOf startEvent) = false := isIdle_lineOf rfl
    have hpiece (piece : String) : isIdle (lineOf (pieceEvent piece)) = false := isIdle_lineOf rfl
    have hstop : isIdle (lineOf stopEvent) = false := isIdle_lineOf rfl
    simp [chatter, chatterPieces, hgreeting, hwarning, hblank, hstart, hpiece, hstop]
  rw [hcalls]
  exact tellsInPieces_lineOf chatterPieces

/-- The call triggers, and so there is a reason for it. -/
theorem answerOf_sound_and_exact_chatter :
    Brings sampleQuery sampleHost chatter chatterTurns ∧
    TellsInPieces "Skill" chatterPieces (chatter.filter (!isIdle ·)) ∧
    answerOf sampleQuery sampleHost chatterTurns = .ok true ∧
    ∃ lines, Received chatterTurns lines ∧
      (PiecesUse (sampleQuery.commandName sampleHost.uniqueId) (documents lines) ∨
        ∃ event ∈ documents lines,
          MessageUses (sampleQuery.commandName sampleHost.uniqueId) event) := by
  obtain ⟨hsound, hexact⟩ := answerOf_sound_and_exact sampleQuery sampleHost chatterTurns
  have hready : (answerOf sampleQuery sampleHost []).toOption = some false := by decide +kernel
  have hfound : contains (String.join chatterPieces)
      (sampleQuery.commandName sampleHost.uniqueId) = true := by decide +kernel
  have hanswer : answerOf sampleQuery sampleHost chatterTurns = .ok true := by
    rw [hexact "Skill" _ chatter (.inl rfl) tellsInPieces_chatter brings_chatter, hfound]
    cases hset : answerOf sampleQuery sampleHost [] with
    | error f =>
      rw [hset] at hready
      cases hready
    | ok b => rfl
  exact ⟨brings_chatter, tellsInPieces_chatter, hanswer, hsound hanswer⟩

end SkillKit.Trigger
