import SkillKit.Proofs.Json.Strings
import SkillKit.Proofs.Trigger.Reads

/-!
# A tool call in pieces and in one message

From the pieces of a call the name of the command is looked for in the whole text of the input
(`onLines_pieces`), and from a message in the one field that names a command (`onEvent_message`).  So
the two answers agree exactly if the name stands in the text of the input whenever it stands in that
field, and else nowhere in it (`answerOf_pieces_eq_message_iff`).
-/

namespace SkillKit.Trigger

open Text Act
open List hiding contains dropPrefix?

variable {v event : Value} {tool name : String} {input : Fields} {pieces lines : List String}
variable {q : Query} {host : Host} {turns : List Turn}

/-! ## Documents that tell of a call -/

/-- A document with a part of a message, of the given kind. -/
structure IsPart (kind : String) (part event : Value) : Prop where
  type : event.field? "type" = some (.text "stream_event")
  event : event.field? "event" = some part
  kind : part.field? "type" = some (.text kind)

def CallStart (tool : String) (event : Value) : Prop :=
  ∃ part block, IsPart "content_block_start" part event ∧
    part.field? "content_block" = some block ∧
    block.field? "type" = some (.text "tool_use") ∧ block.field? "name" = some (.text tool)

/-- A document with a piece of the text of the input. -/
def CallPiece (piece : String) (event : Value) : Prop :=
  ∃ part delta, IsPart "content_block_delta" part event ∧ part.field? "delta" = some delta ∧
    delta.field? "type" = some (.text "input_json_delta") ∧
    delta.field? "partial_json" = some (.text piece)

/-- A document that tells of the end of a call. -/
def CallStop (event : Value) : Prop :=
  ∃ part, IsPart "content_block_stop" part event

/-- A document with a message whose only item is a call. -/
def CallMessage (tool : String) (input : Fields) (event : Value) : Prop :=
  ∃ message item, event.field? "type" = some (.text "assistant") ∧
    event.field? "message" = some message ∧ message.field? "content" = some (.list [item]) ∧
    item.field? "type" = some (.text "tool_use") ∧ item.field? "name" = some (.text tool) ∧
    item.field? "input" = some (.dict input)

theorem lookupD_of_field? {w : Value} {key : String} (h : v.field? key = some w) (other : Value) :
    v.lookupD key other = .ok w := by
  cases v with
  | dict fields =>
    have hget : Fields.get? fields key = some w := h
    rw [Value.lookupD, Value.lookup, hget]
    rfl
  | _ => cases h

/-! ## What is made of them -/

theorem onEvent_part {kind : String} {part : Value} (h : IsPart kind part event) (name : String)
    (w : Watch) : w.onEvent name event = w.onStreamEvent name part := by
  rw [Watch.onEvent, lookupD_of_field? h.type, lookupD_of_field? h.event]
  rfl

theorem onEvent_start (h : CallStart tool event) (name : String) (w : Watch) :
    w.onEvent name event =
      .ok (if isCommandTool (.text tool) then .watching ⟨true, ""⟩ else .decided false) := by
  obtain ⟨part, block, hpart, hblock, htype, hname⟩ := h
  have hstart : w.onStreamEvent name part = w.onBlockStart part := by
    rw [Watch.onStreamEvent, lookupD_of_field? hpart.kind]
    rfl
  rw [onEvent_part hpart, hstart, Watch.onBlockStart, lookupD_of_field? hblock, Result.ok_bind,
    lookupD_of_field? htype, lookupD_of_field? hname]
  cases hcommand : isCommandTool (.text tool) <;> simp [Value.isText, hcommand]

theorem onEvent_piece {piece : String} (h : CallPiece piece event) (name : String)
    (gathered : String) : Watch.onEvent name ⟨true, gathered⟩ event =
      .ok (if contains (gathered ++ piece) name then .decided true
        else .watching ⟨true, gathered ++ piece⟩) := by
  obtain ⟨part, delta, hpart, hdelta, htype, hpiece⟩ := h
  have hstart : Watch.onStreamEvent name ⟨true, gathered⟩ part =
      Watch.onBlockDelta name ⟨true, gathered⟩ part := by
    rw [Watch.onStreamEvent, lookupD_of_field? hpart.kind]
    rfl
  rw [onEvent_part hpart, hstart, Watch.onBlockDelta, lookupD_of_field? hdelta, Result.ok_bind,
    lookupD_of_field? htype, lookupD_of_field? hpiece]
  cases hfound : contains (gathered ++ piece) name <;> simp [Value.isText, hfound]

theorem onEvent_stop (h : CallStop event) (name gathered : String) :
    Watch.onEvent name ⟨true, gathered⟩ event = .ok (.decided (contains gathered name)) := by
  obtain ⟨part, hpart⟩ := h
  rw [onEvent_part hpart, Watch.onStreamEvent, lookupD_of_field? hpart.kind]
  rfl

/-- Whether a call of a tool with some input uses the command, by the field that names one. -/
def callUses (name tool : String) (input : Fields) : Except Fault Bool :=
  match Watch.commandField? (.text tool) with
  | some field => ((Fields.get? input field).getD (.text "")).holds name
  | none => .ok false

theorem isSome_commandField? (tool : String) :
    (Watch.commandField? (.text tool)).isSome = isCommandTool (.text tool) := by
  unfold Watch.commandField? isCommandTool Value.isText
  split
  · rename_i h
    cases h
    rfl
  · rename_i h
    cases h
    rfl
  · rename_i hskill hread
    have hskill' : (tool == "Skill") = false := beq_eq_false_iff_ne.mpr fun h => hskill (h ▸ rfl)
    have hread' : (tool == "Read") = false := beq_eq_false_iff_ne.mpr fun h => hread (h ▸ rfl)
    simp [hskill', hread']

theorem isCommandTool_of_callUses (h : callUses name tool input = .ok true) :
    isCommandTool (.text tool) = true := by
  rw [← isSome_commandField?]
  unfold callUses at h
  split at h
  · rename_i hfield
    rw [hfield]
    rfl
  · cases h

theorem onEvent_message (h : CallMessage tool input event) (name : String) (w : Watch) :
    w.onEvent name event = (callUses name tool input).map .decided := by
  obtain ⟨message, item, htype, hmessage, hcontent, hitem, htool, hinput⟩ := h
  have huses : Watch.usesCommand name item = callUses name tool input := by
    rw [Watch.usesCommand, lookupD_of_field? htool, lookupD_of_field? hinput, Result.ok_bind,
      callUses]
    cases Watch.commandField? (.text tool) <;> rfl
  have hitems : w.onItems name [item] = (callUses name tool input).map .decided := by
    rw [Watch.onItems, lookupD_of_field? hitem, huses]
    cases callUses name tool input <;> rfl
  rw [Watch.onEvent, lookupD_of_field? htype, lookupD_of_field? hmessage, ← hitems]
  simp only [Result.ok_bind]
  rw [lookupD_of_field? hcontent]
  rfl

/-! ## Lines -/

/-- A line that reads as a document. -/
def Says (line : String) (p : Value → Prop) : Prop :=
  ∃ event, Json.read (strip line) = .ok event ∧ p event

theorem isEmpty_of_read {text : String} (h : Json.read text = .ok v) : text.isEmpty = false := by
  by_contra hempty
  rw [Bool.not_eq_false, String.isEmpty_iff] at hempty
  rw [hempty] at h
  cases h

theorem onLine_of_read {line : String} (h : Json.read (strip line) = .ok event) (name : String)
    (w : Watch) : w.onLine name line = w.onEvent name event := by
  rw [Watch.onLine, isEmpty_of_read h, h]
  rfl

/-- Lines that tell of a call in pieces: its start, the pieces of the text of its input and its end. -/
def TellsInPieces (tool : String) (pieces lines : List String) : Prop :=
  ∃ start deltas stop, lines = start :: (deltas ++ [stop]) ∧ Says start (CallStart tool) ∧
    Forall₂ (fun line piece => Says line (CallPiece piece)) deltas pieces ∧ Says stop CallStop

/-- Lines that tell of a call in one message. -/
def TellsAtOnce (tool : String) (input : Fields) (lines : List String) : Prop :=
  ∃ line, lines = [line] ∧ Says line (CallMessage tool input)

theorem contains_append_left {s : String} (h : contains s name = true) (more : String) :
    contains (s ++ more) name = true := by
  rw [contains, isInfix_iff] at h ⊢
  rw [String.toList_append]
  exact h.trans (prefix_append _ _).isInfix

/-- The pieces lead to the search for the name in the text that they make up.  A piece that completes
the name decides at once, and then the name stands in the whole text too. -/
theorem onLines_pieces {deltas : List String} {stop : String}
    (hdeltas : Forall₂ (fun line piece => Says line (CallPiece piece)) deltas pieces)
    (hstop : Says stop CallStop) (name gathered : String) :
    Watch.onLines name ⟨true, gathered⟩ (deltas ++ [stop]) =
      .ok (.decided (contains (gathered ++ String.join pieces) name)) := by
  induction hdeltas generalizing gathered with
  | nil =>
    obtain ⟨event, hread, hevent⟩ := hstop
    rw [nil_append, Watch.onLines, onLine_of_read hread, onEvent_stop hevent, String.join_nil,
      String.append_empty]
    rfl
  | @cons line piece deltas pieces hline _ ih =>
    obtain ⟨event, hread, hevent⟩ := hline
    rw [cons_append, Watch.onLines, onLine_of_read hread, onEvent_piece hevent,
      String.join_cons, ← String.append_assoc]
    cases hfound : contains (gathered ++ piece) name with
    | true =>
      rw [contains_append_left hfound]
      rfl
    | false => exact ih (gathered ++ piece)

/-- A call in pieces triggers if its tool may use a command and the name stands anywhere in the text
of its input. -/
theorem onLines_tellsInPieces (h : TellsInPieces tool pieces lines) (name : String) :
    Watch.onLines name {} lines =
      .ok (.decided (isCommandTool (.text tool) && contains (String.join pieces) name)) := by
  obtain ⟨start, deltas, stop, rfl, ⟨event, hread, hevent⟩, hdeltas, hstop⟩ := h
  rw [Watch.onLines, onLine_of_read hread, onEvent_start hevent]
  cases isCommandTool (.text tool) with
  | false => rfl
  | true =>
    refine (onLines_pieces hdeltas hstop name "").trans ?_
    rw [String.empty_append, Bool.true_and]

theorem onLines_tellsAtOnce (h : TellsAtOnce tool input lines) (name : String) :
    Watch.onLines name {} lines = (callUses name tool input).map .decided := by
  obtain ⟨line, rfl, event, hread, hevent⟩ := h
  rw [Watch.onLines, onLine_of_read hread, onEvent_message hevent]
  cases callUses name tool input <;> rfl

/-! ## Answers -/

/-- Turns in which lines are read while there is time, whatever stands behind them. -/
def Brings (q : Query) (host : Host) (lines : List String) (turns : List Turn) : Prop :=
  ∃ stream text reads more, turns = reads ++ more ∧ Delivers stream reads ∧
    decode? stream = some text ∧ lines <+: endedLines text ∧
    ∀ k < reads.length, inTime q host k = true

theorem Brings.answerOf_eq (h : Brings q host lines turns)
    (hsettles : Settles (q.commandName host.uniqueId) lines) :
    answerOf q host turns = (do
      let _ ← answerOf q host []
      verdictOn (q.commandName host.uniqueId) lines) := by
  obtain ⟨stream, text, reads, more, rfl, hreads, hstream, ⟨later, hlines⟩, htime⟩ := h
  obtain ⟨ready, hanswer⟩ := Trigger.answerOf_eq q host
  set name := q.commandName host.uniqueId
  have hnone : watched q name { host with turns := [] } = .ok false := rfl
  have hturns : readTurns (reads ++ more) = reads ++ readTurns more := by
    rw [readTurns_append, readTurns_of_size_le hreads.size_le]
  have htime' : ∀ k < reads.length, inTime q host (0 + k) = true := by simpa using htime
  have hall : Watch.onLines name {} (endedLines text) = Watch.onLines name {} lines := by
    rw [← hlines, Watch.onLines_append_of_settled hsettles]
  -- The lines decide or fail, so the turns behind them are never looked at.
  have hwatched : watched q name { host with turns := reads ++ more } = verdictOn name lines := by
    rw [watched, hturns]
    refine (follow_alive Reading.open_start hreads.alive htime').trans ?_
    rw [hreads.textOf_eq hstream, Reading.take_eq, String.empty_append, hall, verdictOn]
    cases hx : Watch.onLines name {} lines with
    | error f => rfl
    | ok p =>
      cases p with
      | watching w => exact absurd hx (hsettles w)
      | decided b => rfl
  simp only [hanswer, hwatched, hnone]
  cases ready <;> rfl

theorem Brings.answerOf_pieces (h : Brings q host lines turns)
    (hlines : TellsInPieces tool pieces lines) :
    answerOf q host turns = (do
      let _ ← answerOf q host []
      .ok (isCommandTool (.text tool) &&
        contains (String.join pieces) (q.commandName host.uniqueId))) := by
  have honLines := onLines_tellsInPieces hlines (q.commandName host.uniqueId)
  have hsettles : Settles (q.commandName host.uniqueId) lines := by
    intro w
    rw [honLines]
    exact fun hw => nomatch hw
  rw [h.answerOf_eq hsettles, verdictOn, honLines]
  rfl

theorem Brings.answerOf_message (h : Brings q host lines turns)
    (hlines : TellsAtOnce tool input lines) :
    answerOf q host turns = (do
      let _ ← answerOf q host []
      callUses (q.commandName host.uniqueId) tool input) := by
  have honLines := onLines_tellsAtOnce hlines (q.commandName host.uniqueId)
  have hsettles : Settles (q.commandName host.uniqueId) lines := by
    intro w
    rw [honLines]
    cases callUses (q.commandName host.uniqueId) tool input <;> exact fun hw => nomatch hw
  rw [h.answerOf_eq hsettles, verdictOn, honLines]
  cases callUses (q.commandName host.uniqueId) tool input <;> rfl

/-! ## The text of an input -/

theorem k_mem_commandName (q : Query) (uniqueId : String) :
    'k' ∈ (q.commandName uniqueId).toList := by
  have hmiddle : 'k' ∈ "-skill-".toList := by decide
  simp only [Query.commandName, String.toList_append, mem_append]
  exact .inl (.inr hmiddle)

theorem exists_of_holds (h : v.holds name = .ok true) :
    ∃ s ∈ v.strings, name.toList <:+: s.toList := by
  have hitem {w : Value} (hw : w.isText name = true) : name ∈ w.strings := by
    unfold Value.isText at hw
    split at hw
    · obtain rfl := beq_iff_eq.mp hw
      exact mem_singleton_self _
    · cases hw
  cases v with
  | atom a =>
    cases a with
    | text s =>
      have hfound : contains s name = true := Except.ok.inj h
      exact ⟨s, mem_singleton_self _, (isInfix_iff _ _).mp hfound⟩
    | _ => cases h
  | list items =>
    obtain ⟨w, hw, hname⟩ := any_eq_true.mp (Except.ok.inj h)
    exact ⟨name, Value.mem_stringsOfItems hw (hitem hname), infix_rfl⟩
  | pair a b =>
    refine ⟨name, ?_, infix_rfl⟩
    rw [Value.strings, mem_append]
    exact (Bool.or_eq_true_iff.mp (Except.ok.inj h)).imp hitem hitem
  | dict fields =>
    obtain ⟨⟨key, w⟩, hmem, hkey⟩ := any_eq_true.mp (Except.ok.inj h)
    refine ⟨name, Value.mem_stringsOfFields hmem (mem_append_left _ ?_), infix_rfl⟩
    rw [Atom.eq_of_same_text hkey]
    exact mem_singleton_self _

theorem exists_of_callUses (hname : name.toList ≠ []) (h : callUses name tool input = .ok true) :
    ∃ s ∈ (Value.dict input).strings, name.toList <:+: s.toList := by
  unfold callUses at h
  split at h
  · rename_i field _
    cases hget : Fields.get? input field with
    | none =>
      -- The text that stands for a missing field is empty.
      rw [hget] at h
      obtain ⟨s, hs, hin⟩ := exists_of_holds h
      rw [mem_singleton.mp hs] at *
      exact absurd (infix_nil.mp hin) hname
    | some v =>
      rw [hget] at h
      obtain ⟨s, hs, hin⟩ := exists_of_holds h
      obtain ⟨f, hf, rfl⟩ := Option.map_eq_some_iff.mp hget
      exact ⟨s, Value.mem_stringsOfFields (mem_of_find?_eq_some hf)
        (mem_append_right _ hs), hin⟩
  · cases h

/-- The name stands in the text of an input exactly if it stands in one of the texts of the input, be
it a key or a value at any depth, as it is escaped. -/
theorem contains_written_iff {layout : Json.Layout} {input : Value} {text : String}
    (htext : Json.writeIn false layout input = .ok text)
    (hquote : '"' ∉ (q.commandName host.uniqueId).toList) :
    contains text (q.commandName host.uniqueId) = true ↔
      ∃ s ∈ input.strings, (q.commandName host.uniqueId).toList <:+: Json.escaped s := by
  rw [contains, isInfix_iff]
  exact Json.infix_writeIn_iff (k_mem_commandName q _) hquote htext

/-- A call in pieces and the same call in one message.  Told in pieces the call triggers if its tool
may use a command and the name of the command stands anywhere in the text of the input; told in one
message, if the name stands in the field that names a command.  The two answers agree exactly if the
field holds the name when the text does and only then, unless the query could not be set up.

For a text that the JSON writer has written, the text holds the name exactly if some key or text in
the input does, as it is escaped.  So with a name that needs no escapes a call that triggers in one
message triggers in pieces; but not the other way around. -/
theorem answerOf_pieces_eq_message_iff (q : Query) (host : Host) (tool : String) (input : Fields)
    {pieces told said : List String} (htold : TellsInPieces tool pieces told)
    (hsaid : TellsAtOnce tool input said) {turns turns' : List Turn}
    (hturns : Brings q host told turns) (hturns' : Brings q host said turns') :
    (answerOf q host turns = do
      let _ ← answerOf q host []
      .ok (isCommandTool (.text tool) &&
        contains (String.join pieces) (q.commandName host.uniqueId))) ∧
    (answerOf q host turns' = do
      let _ ← answerOf q host []
      callUses (q.commandName host.uniqueId) tool input) ∧
    (answerOf q host turns = answerOf q host turns' ↔
      (∃ f, answerOf q host [] = .error f) ∨
      ∀ field, Watch.commandField? (.text tool) = some field →
        ((Fields.get? input field).getD (.text "")).holds (q.commandName host.uniqueId) =
          .ok (contains (String.join pieces) (q.commandName host.uniqueId))) ∧
    ∀ layout, Json.writeIn false layout (.dict input) = .ok (String.join pieces) →
      ('"' ∉ (q.commandName host.uniqueId).toList →
        (contains (String.join pieces) (q.commandName host.uniqueId) = true ↔
          ∃ s ∈ (Value.dict input).strings,
            (q.commandName host.uniqueId).toList <:+: Json.escaped s)) ∧
      ((∀ c ∈ (q.commandName host.uniqueId).toList, Json.escapeChar c = [c]) →
        answerOf q host turns' = .ok true → answerOf q host turns = .ok true) := by
  have hpieces := hturns.answerOf_pieces htold
  have hmessage := hturns'.answerOf_message hsaid
  set name := q.commandName host.uniqueId with hname
  refine ⟨hpieces, hmessage, ?_, fun layout htext => ⟨contains_written_iff htext, ?_⟩⟩
  · rw [hpieces, hmessage, callUses, ← isSome_commandField?]
    cases answerOf q host [] with
    | error f => simp
    | ok b =>
      cases Watch.commandField? (.text tool) with
      | none => simp
      | some field => simp [eq_comm]
  · intro hplain htrue
    obtain ⟨b, hready, huses⟩ := Result.bind_eq_ok.mp (hmessage ▸ htrue)
    have hne : name.toList ≠ [] := ne_nil_of_mem (k_mem_commandName q _)
    have hquote : '"' ∉ name.toList := fun hmem => absurd (hplain _ hmem) (by decide)
    obtain ⟨s, hs, hin⟩ := exists_of_callUses hne huses
    have hfound := (contains_written_iff htext hquote).mpr ⟨s, hs, Json.infix_escaped hplain hin⟩
    rw [hpieces, hready, Result.ok_bind, hfound, isCommandTool_of_callUses huses]
    rfl

/-! ### A command that is only mentioned -/

def lineOf (v : Value) : String :=
  (Json.write v).toOption.getD ""

theorem says_lineOf {fields : List (String × Value)} {p : Value → Prop}
    (hv : Json.isJson (.object fields) = true) (hp : p (.object fields)) :
    Says (lineOf (.object fields)) p := by
  obtain ⟨s, hs, hreads⟩ := Json.writeIn_readsBack false .line (.object fields) hv
  have hline : lineOf (.object fields) = s := by
    rw [lineOf, Json.write, hs]
    rfl
  have hstrip : strip s = s := by
    obtain ⟨parts, -, hparts⟩ := Result.bind_eq_ok.mp hs
    obtain ⟨inner, hinner⟩ := Json.exists_enclose .line "\x7b" "\x7d" parts
    rw [← Except.ok.inj hparts]
    exact strip_of_ends hinner (by decide +kernel) (by decide +kernel)
  refine ⟨_, ?_, hp⟩
  rw [hline, hstrip]
  exact hreads.read

def mentionInput : Fields :=
  [(.text "skill", .text "other"), (.text "args", .text "like demo-skill-abcdef01")]

def mentionPieces : List String :=
  ["\x7b\"skill\": \"other\", \"args\": \"like demo-", "skill-abcdef01\"\x7d"]

def startEvent : Value :=
  .object [("type", .text "stream_event"), ("event", .object [("type", .text "content_block_start"),
    ("content_block", .object [("type", .text "tool_use"), ("name", .text "Skill")])])]

def pieceEvent (piece : String) : Value :=
  .object [("type", .text "stream_event"), ("event", .object [("type", .text "content_block_delta"),
    ("delta", .object [("type", .text "input_json_delta"), ("partial_json", .text piece)])])]

def stopEvent : Value :=
  .object [("type", .text "stream_event"), ("event", .object [("type", .text "content_block_stop")])]

def messageEvent : Value :=
  .object [("type", .text "assistant"), ("message", .object [("content", .list [.object
    [("type", .text "tool_use"), ("name", .text "Skill"), ("input", .dict mentionInput)]])])]

def mentionTold : List String :=
  lineOf startEvent :: (mentionPieces.map (lineOf ∘ pieceEvent) ++ [lineOf stopEvent])

def mentionSaid : List String :=
  [lineOf messageEvent]

theorem tellsInPieces_lineOf (pieces : List String) : TellsInPieces "Skill" pieces
    (lineOf startEvent :: (pieces.map (lineOf ∘ pieceEvent) ++ [lineOf stopEvent])) := by
  refine ⟨_, _, _, rfl, ?_, ?_, ?_⟩
  · exact says_lineOf rfl ⟨_, _, ⟨rfl, rfl, rfl⟩, rfl, rfl, rfl⟩
  · rw [forall₂_map_left_iff, forall₂_same]
    intro piece _
    exact says_lineOf rfl ⟨_, _, ⟨rfl, rfl, rfl⟩, rfl, rfl, rfl⟩
  · exact says_lineOf rfl ⟨_, ⟨rfl, rfl, rfl⟩⟩

theorem tellsInPieces_mention : TellsInPieces "Skill" mentionPieces mentionTold :=
  tellsInPieces_lineOf mentionPieces

theorem tellsAtOnce_mention : TellsAtOnce "Skill" mentionInput mentionSaid :=
  ⟨_, rfl, says_lineOf rfl ⟨_, _, rfl, rfl, rfl, rfl, rfl, rfl⟩⟩

def streamOf (lines : List String) : String :=
  String.join (lines.map (· ++ "\n"))

theorem brings_one_read (hfree : ∀ line ∈ lines, '\n' ∉ line.toList)
    (hsome : (streamOf lines).toUTF8.isEmpty = false)
    (hsize : (streamOf lines).toUTF8.size ≤ readSize) (htime : inTime q host 0 = true) :
    Brings q host lines [.output (streamOf lines).toUTF8] := by
  have hdelivers : Delivers (streamOf lines).toUTF8 [.output (streamOf lines).toUTF8] := by
    refine ⟨?_, ?_, ?_, ?_⟩
    · simpa only [mem_singleton, forall_eq, Alive] using hsome
    · simpa only [mem_singleton, Turn.output.injEq, forall_eq] using hsize
    · simp only [mem_singleton, Turn.output.injEq, forall_eq, decode?_toUTF8,
        Option.isSome_some]
    · simp [bytesOf]
  refine ⟨_, _, _, [], (append_nil _).symm, hdelivers, decode?_toUTF8 (streamOf lines), ?_, ?_⟩
  · rw [streamOf, endedLines_join hfree]
  · intro k hk
    obtain rfl : k = 0 := Nat.lt_one_iff.mp hk
    exact htime

theorem inTime_mention : inTime sampleQuery sampleHost 0 = true := by decide +kernel

theorem lineFeed_not_mem_lineOf (v : Value) : '\n' ∉ (lineOf v).toList := by
  unfold lineOf
  cases h : Json.write v with
  | error f => exact not_mem_nil
  | ok s => exact Json.lineFeed_not_mem_write h

theorem brings_mentionTold :
    Brings sampleQuery sampleHost mentionTold [.output (streamOf mentionTold).toUTF8] := by
  refine brings_one_read ?_ (by decide +kernel) (by decide +kernel) inTime_mention
  simp only [mentionTold, mentionPieces, map_cons, map_nil, cons_append,
    nil_append, Function.comp_apply, forall_mem_cons]
  exact ⟨lineFeed_not_mem_lineOf _, lineFeed_not_mem_lineOf _, lineFeed_not_mem_lineOf _,
    lineFeed_not_mem_lineOf _, forall_mem_nil _⟩

theorem brings_mentionSaid :
    Brings sampleQuery sampleHost mentionSaid [.output (streamOf mentionSaid).toUTF8] := by
  refine brings_one_read ?_ (by decide +kernel) (by decide +kernel) inTime_mention
  simp only [mentionSaid, forall_mem_cons]
  exact ⟨lineFeed_not_mem_lineOf _, forall_mem_nil _⟩

/-- The two answers to the call, once in pieces and once in one message. -/
theorem answerOf_pieces_eq_message_iff_mention :
    TellsInPieces "Skill" mentionPieces mentionTold ∧
    TellsAtOnce "Skill" mentionInput mentionSaid ∧
    Brings sampleQuery sampleHost mentionTold [.output (streamOf mentionTold).toUTF8] ∧
    Brings sampleQuery sampleHost mentionSaid [.output (streamOf mentionSaid).toUTF8] ∧
    (answerOf sampleQuery sampleHost [.output (streamOf mentionTold).toUTF8] =
        answerOf sampleQuery sampleHost [.output (streamOf mentionSaid).toUTF8] ↔
      (∃ f, answerOf sampleQuery sampleHost [] = .error f) ∨
      ∀ field, Watch.commandField? (.text "Skill") = some field →
        ((Fields.get? mentionInput field).getD (.text "")).holds
            (sampleQuery.commandName sampleHost.uniqueId) =
          .ok (contains (String.join mentionPieces)
            (sampleQuery.commandName sampleHost.uniqueId))) :=
  ⟨tellsInPieces_mention, tellsAtOnce_mention, brings_mentionTold, brings_mentionSaid,
    (answerOf_pieces_eq_message_iff sampleQuery sampleHost "Skill" mentionInput
      tellsInPieces_mention tellsAtOnce_mention brings_mentionTold brings_mentionSaid).2.2.1⟩

/-- A call of another skill that mentions the command triggers in pieces, and does not in one
message. -/
theorem answerOf_pieces_ne_message :
    answerOf sampleQuery sampleHost [.output (streamOf mentionTold).toUTF8] = .ok true ∧
    answerOf sampleQuery sampleHost [.output (streamOf mentionSaid).toUTF8] = .ok false := by
  have hready : (answerOf sampleQuery sampleHost []).toOption = some false := by decide +kernel
  have hname : sampleQuery.commandName sampleHost.uniqueId = "demo-skill-abcdef01" := by
    decide +kernel
  have hfound : contains (String.join mentionPieces) "demo-skill-abcdef01" = true := by
    decide +kernel
  have hother : contains "other" "demo-skill-abcdef01" = false := by decide +kernel
  rw [brings_mentionTold.answerOf_pieces tellsInPieces_mention,
    brings_mentionSaid.answerOf_message tellsAtOnce_mention, hname]
  cases hanswer : answerOf sampleQuery sampleHost [] with
  | error f =>
    rw [hanswer] at hready
    cases hready
  | ok b =>
    refine ⟨?_, ?_⟩
    · rw [Result.ok_bind, hfound]
      rfl
    · exact congrArg Except.ok hother

end SkillKit.Trigger
