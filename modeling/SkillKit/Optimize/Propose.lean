import SkillKit.Trigger.Query
import SkillKit.Json.Writer

/-!
# Proposing a description

The assistant is asked for a better description.  It is told the current one, the queries that
failed, what was tried before, and the skill.  Its answer is what stands between two tags; an
answer that is too long is sent back once to be shortened.
-/

namespace SkillKit.Optimize

open Text

def maxDescription : Nat := 1024

structure Request where
  skillName : Value
  skillContent : Value
  current : Value
  results : Value
  history : Value
  model : Value
  testResults : Value := .null
  logDir : Option Path := none
  iteration : Value := .null

/-! ## Asking the assistant -/

def askCommand (model : Value) : List String :=
  ["claude", "-p", "--output-format", "text"]
    ++ if model.truthy then ["--model", model.display] else []

def ask (prompt : String) (model : Value) : Act String := do
  let env := (← get).environment
  let done ← Act.runCommand (askCommand model) (some prompt) (some (Trigger.nestedEnvironment env))
  if done.code != 0 then throw (.failed s!"claude -p exited {done.code}\nstderr: {done.err}")
  return done.out

def unquote (s : String) : String :=
  stripOf "\"" (strip s)

/-- The description in an answer: what stands between the first tags, or else all of it. -/
def extract (answer : String) : String :=
  match cut? "<new_description>" answer with
  | none => unquote answer
  | some (_, rest) =>
    match cut? "</new_description>" rest with
    | none => unquote answer
    | some (description, _) => unquote description

/-! ## The prompt -/

def score (results : Value) : Except Fault String := do
  let summary ← results.entry "summary"
  let passed ← summary.entry "passed"
  let total ← summary.entry "total"
  return s!"{passed.display}/{total.display}"

def scores (r : Request) : Except Fault String := do
  let train ← score r.results
  if !r.testResults.truthy then return s!"Train: {train}"
  let test ← score r.testResults
  return s!"Train: {train}, Test: {test}"

def failures (wanted : Bool) (outcomes : List Value) : Except Fault (List Value) :=
  outcomes.filterM fun o => do
    if (← o.entry "should_trigger").truthy == wanted then return !(← o.entry "pass").truthy
    return false

def failureLine (o : Value) : Except Fault String := do
  let query ← o.entry "query"
  let triggers ← o.entry "triggers"
  let runs ← o.entry "runs"
  return s!"  - \"{query.display}\" (triggered {triggers.display}/{runs.display} times)\n"

def failureBlock (heading : String) (outcomes : List Value) : Except Fault String := do
  if outcomes.isEmpty then return ""
  return heading ++ "\n" ++ String.join (← outcomes.mapM failureLine) ++ "\n"

def firstItems (n : Nat) : Value → Except Fault Value
  | .text s => .ok (.text (takeChars n s))
  | .list items => .ok (.list (items.take n))
  | _ => .error .wrongKind

def passWord (b : Bool) : String :=
  if b then "PASS" else "FAIL"

def attemptLine (o : Value) : Except Fault String := do
  let status := passWord (← o.entry "pass").truthy
  let query ← firstItems 80 (← o.entry "query")
  let triggers ← o.entry "triggers"
  let runs ← o.entry "runs"
  return s!"  [{status}] \"{query.display}\" (triggered {triggers.display}/{runs.display})\n"

def lookupEither (v : Value) (key other : String) (default : Value) : Except Fault Value := do
  v.lookupD key (← v.lookupD other default)

def attemptScores (h : Value) : Except Fault String := do
  let testPassed ← h.lookupD "test_passed" .null
  let passed ← lookupEither h "train_passed" "passed" (.int 0)
  let total ← lookupEither h "train_total" "total" (.int 0)
  let train := s!"train={passed.display}/{total.display}"
  match testPassed with
  | .null => return train
  | testPassed =>
    let testTotal ← h.lookupD "test_total" (.text "?")
    return train ++ s!", test={testPassed.display}/{testTotal.display}"

def attemptOutcomes (h : Value) : Except Fault String := do
  if !(← h.holds "results") then return ""
  let lines ← (← (← h.entry "results").parts).mapM attemptLine
  return "Train results:\n" ++ String.join lines

def attemptBlock (h : Value) : Except Fault String := do
  let scores ← attemptScores h
  let description ← h.entry "description"
  let outcomes ← attemptOutcomes h
  let note ← h.lookupD "note" .null
  let noteLine := if note.truthy then s!"Note: {note.display}\n" else ""
  return s!"<attempt {scores}>\nDescription: \"{description.display}\"\n"
    ++ outcomes ++ noteLine ++ "</attempt>\n\n"

def historyBlock (history : Value) : Except Fault String := do
  if !history.truthy then return ""
  let attempts ← (← history.parts).mapM attemptBlock
  return "PREVIOUS ATTEMPTS (do NOT repeat these — try something structurally different):\n\n"
    ++ String.join attempts

def opening (skillName current scores : String) : String :=
  s!"You are optimizing a skill description for a Claude Code skill called \"{skillName}\". A \"skill\" is sort of like a prompt, but with progressive disclosure -- there's a title and description that Claude sees when deciding whether to use the skill, and then if it does use the skill, it reads the .md file which has lots more details and potentially links to other resources in the skill folder like helper files and scripts and additional documentation or examples.

The description appears in Claude's \"available_skills\" list. When a user sends a query, Claude decides whether to invoke the skill based solely on the title and on this description. Your goal is to write a description that triggers for relevant queries, and doesn't trigger for irrelevant ones.

Here's the current description:
<current_description>
\"{current}\"
</current_description>

Current scores ({scores}):
<scores_summary>
"

def closing (skillContent : String) : String :=
  s!"</scores_summary>

Skill content (for context on what the skill does):
<skill_content>
{skillContent}
</skill_content>

Based on the failures, write a new and improved description that is more likely to trigger correctly. When I say \"based on the failures\", it's a bit of a tricky line to walk because we don't want to overfit to the specific cases you're seeing. So what I DON'T want you to do is produce an ever-expanding list of specific queries that this skill should or shouldn't trigger for. Instead, try to generalize from the failures to broader categories of user intent and situations where this skill would be useful or not useful. The reason for this is twofold:

1. Avoid overfitting
2. The list might get loooong and it's injected into ALL queries and there might be a lot of skills, so we don't want to blow too much space on any given description.

Concretely, your description should not be more than about 100-200 words, even if that comes at the cost of accuracy. There is a hard limit of 1024 characters — descriptions over that will be truncated, so stay comfortably under it.

Here are some tips that we've found to work well in writing these descriptions:
- The skill should be phrased in the imperative -- \"Use this skill for\" rather than \"this skill does\"
- The skill description should focus on the user's intent, what they are trying to achieve, vs. the implementation details of how the skill works.
- The description competes with other skills for Claude's attention — make it distinctive and immediately recognizable.
- If you're getting lots of failures after repeated attempts, change things up. Try different sentence structures or wordings.

I'd encourage you to be creative and mix up the style in different iterations since you'll have multiple opportunities to try different approaches and we'll just grab the highest-scoring one at the end. \n\nPlease respond with only the new description text in <new_description> tags, nothing else."

def prompt (r : Request) : Except Fault String := do
  let outcomes ← r.results.entry "results"
  let missed ← failures true (← outcomes.parts)
  let falseTriggers ← failures false (← outcomes.parts)
  let head := opening r.skillName.display r.current.display (← scores r)
  let missedBlock ← failureBlock "FAILED TO TRIGGER (should have triggered but didn't):" missed
  let falseBlock ← failureBlock "FALSE TRIGGERS (triggered but shouldn't have):" falseTriggers
  let attempts ← historyBlock r.history
  return head ++ missedBlock ++ falseBlock ++ attempts ++ closing r.skillContent.display

def shortenPrompt (prompt description : String) : String :=
  s!"{prompt}\n\n---\n\nA previous attempt produced this description, which at "
    ++ s!"{description.length} characters is over the 1024-character hard limit:\n\n"
    ++ s!"\"{description}\"\n\n"
    ++ "Rewrite it to be under 1024 characters while keeping the most "
    ++ "important trigger words and intent coverage. Respond with only "
    ++ "the new description in <new_description> tags."

/-! ## The proposal -/

def shorten (prompt description : String) (model : Value) :
    Act (String × List (String × Value)) := do
  if description.length ≤ maxDescription then return (description, [])
  let second := shortenPrompt prompt description
  let answer ← ask second model
  let shortened := extract answer
  return (shortened, [
    ("rewrite_prompt", .text second),
    ("rewrite_response", .text answer),
    ("rewrite_description", .text shortened),
    ("rewrite_char_count", .nat shortened.length)])

def logTranscript (dir : Path) (iteration : Value) (transcript : List (String × Value)) :
    Act Unit := do
  Act.makeDirs dir
  let number := if iteration.truthy then iteration.display else "unknown"
  let text ← Act.ofExcept (Json.writeIndented (.object transcript))
  Act.writeText (dir.child s!"improve_iter_{number}.json") text

def propose (r : Request) : Act String := do
  let asked ← Act.ofExcept (prompt r)
  let answer ← ask asked r.model
  let description := extract answer
  let (final, shortening) ← shorten asked description r.model
  match r.logDir with
  | none => return final
  | some dir =>
    logTranscript dir r.iteration ([
      ("iteration", r.iteration),
      ("prompt", .text asked),
      ("response", .text answer),
      ("parsed_description", .text description),
      ("char_count", .nat description.length),
      ("over_limit", .bool (description.length > maxDescription))]
      ++ shortening ++ [("final_description", .text final)])
    return final

end SkillKit.Optimize
