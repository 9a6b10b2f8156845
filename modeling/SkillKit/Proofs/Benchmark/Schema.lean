import SkillKit.Proofs.Benchmark.Entries
import SkillKit.Proofs.Benchmark.Figures

/-!
# Shapes of the documents of a benchmark

In a grading, a timing and the metadata of an evaluation the fields that are read have a given shape,
as far as they are there.  A run whose documents have their shapes is loaded, with numbers as its
measures, provided that there is a number in its name (`exec_loadRun_of_follows`).
-/

namespace SkillKit.Benchmark

open Act Text Fields Result Prints

variable {v : Value}

/-! ## Shapes -/

/-- What is promised of a document. -/
inductive Shape where
  | any
  | number
  /-- What evaluations are told apart by: a number without a fraction, or a text. -/
  | id
  | list (item : Shape)
  /-- A mapping whose fields of these names have these shapes, as far as they are there. -/
  | object (fields : List (String × Shape))

namespace Shape

mutual

/-- Whether a document has a shape. -/
def fits : Shape → Value → Bool
  | .any, _ => true
  | .number, v => (Number.ofValue? v).isSome
  | .id, v => isId v
  | .list item, .list items => items.all fun v => fits item v
  | .object fields, .dict given => fieldsFit fields given
  | _, _ => false

def fieldsFit : List (String × Shape) → Fields → Bool
  | [], _ => true
  | (name, shape) :: rest, given =>
    (match get? given name with
      | some v => fits shape v
      | none => true) && fieldsFit rest given

end

theorem exists_fields {fields : List (String × Shape)} (h : (object fields).fits v = true) :
    ∃ given, v = .dict given := by
  cases v with
  | dict given => exact ⟨given, rfl⟩
  | _ => simp [fits] at h

/-- A field is read in the shape that it is promised to have, and so is what stands for it where it is
missing. -/
theorem lookupD_of_fits {fields : List (String × Shape)} {shape : Shape}
    (h : (object fields).fits v = true) (name : String) (other : Value)
    (hfield : fields.lookup name = some shape) (hother : shape.fits other = true) :
    ∃ w, v.lookupD name other = .ok w ∧ shape.fits w = true := by
  obtain ⟨given, rfl⟩ := exists_fields h
  refine ⟨(get? given name).getD other, rfl, ?_⟩
  replace h : fieldsFit fields given = true := h
  induction fields with
  | nil => cases hfield
  | cons f rest ih =>
    obtain ⟨first, firstShape⟩ := f
    rw [fieldsFit, Bool.and_eq_true] at h
    rw [List.lookup_cons] at hfield
    split at hfield
    · rename_i hname
      cases hfield
      rw [beq_iff_eq.mp hname]
      cases hget : get? given first with
      | none => exact hother
      | some w =>
        rw [hget] at h
        exact h.1
    · exact ih hfield h.2

theorem exists_items {item : Shape} (h : (list item).fits v = true) :
    ∃ items, v = .list items ∧ ∀ w ∈ items, item.fits w = true := by
  cases v with
  | list items => exact ⟨items, rfl, List.all_eq_true.mp h⟩
  | _ => simp [fits] at h

theorem isNumber_of_fits (h : number.fits v = true) : IsNumber v := by
  obtain ⟨n, hn⟩ := Option.isSome_iff_exists.mp h
  exact ⟨n, by rw [Number.ofValue, hn]⟩

end Shape

def gradingShape : Shape := .object [
  ("summary", .object [("pass_rate", .number), ("passed", .number), ("failed", .number),
    ("total", .number)]),
  ("timing", .object [("total_duration_seconds", .number)]),
  ("execution_metrics", .object [("total_tool_calls", .number), ("output_chars", .number),
    ("errors_encountered", .number)]),
  ("expectations", .list (.object [])),
  ("user_notes_summary", .object [("uncertainties", .list .any), ("needs_review", .list .any),
    ("workarounds", .list .any)])]

def timingShape : Shape := .object [("total_duration_seconds", .number), ("total_tokens", .number)]

def metadataShape : Shape := .object [("eval_id", .id)]

/-- The file of a name is missing, or its text is a document of the shape. -/
def Follows (t : Tree) (name : String) (shape : Shape) : Prop :=
  ∀ file, t.get? [name] = some file →
    ∃ v, (file.readText [] >>= Json.read) = .ok v ∧ shape.fits v = true

/-- The documents of a benchmark have their shapes. -/
structure FollowsSchema (bench : Tree) : Prop where
  metadata : ∀ e ∈ named "eval-" (searched bench), Follows e.2 "eval_metadata.json" metadataShape
  grading : ∀ e ∈ named "eval-" (searched bench), ∀ c ∈ e.2.listing, ∀ r ∈ named "run-" c.2,
    Follows r.2 "grading.json" gradingShape
  timing : ∀ e ∈ named "eval-" (searched bench), ∀ c ∈ e.2.listing, ∀ r ∈ named "run-" c.2,
    Follows r.2 "timing.json" timingShape

/-! ## Runs whose documents have their shapes -/

section Loading

variable {host : Host} {dir : Path} {t : Tree} {grading : Value}

theorem exists_text_of_read {name : String} {file : Tree} {data : Value}
    (h : host.at? dir = some t) (hname : Tree.isName name = true)
    (hfile : t.get? [name] = some file) (hdata : (file.readText [] >>= Json.read) = .ok data) :
    ∃ s, exec (readText (dir.child name)) host = (.ok s, host) ∧ Json.read s = .ok data := by
  obtain ⟨s, hs, hjson⟩ := bind_eq_ok.mp hdata
  exact ⟨s, (Host.exec_readText_child h hname hfile).trans (by rw [hs]), hjson⟩

theorem exec_timeAndTokens (h : host.at? dir = some t)
    (htiming : Follows t "timing.json" timingShape) (hgrading : gradingShape.fits grading = true) :
    ∃ time tokens?, exec (timeAndTokens dir grading) host = (.ok (time, tokens?), host) ∧
      IsNumber time ∧ ∀ tokens, tokens? = some tokens → IsNumber tokens := by
  obtain ⟨timing, hsection, hshape⟩ := Shape.lookupD_of_fits hgrading "timing" (.dict []) rfl rfl
  obtain ⟨time, htime, hnumber⟩ :=
    Shape.lookupD_of_fits hshape "total_duration_seconds" (.float 0.0) rfl rfl
  have hexists := Host.exec_pathExists_child h (by decide : Tree.isName "timing.json" = true)
  rw [timeAndTokens, section?, hsection, exec_bind_ok (exec_ofExcept _ _), htime,
    exec_bind_ok (exec_ofExcept _ _)]
  split
  · exact ⟨time, none, rfl, Shape.isNumber_of_fits hnumber, by simp⟩
  · rw [exec_bind_ok hexists]
    cases hfile : t.get? ["timing.json"] with
    | none => exact ⟨time, none, rfl, Shape.isNumber_of_fits hnumber, by simp⟩
    | some file =>
      obtain ⟨data, hdata, hfits⟩ := htiming file hfile
      obtain ⟨s, hread, hjson⟩ := exists_text_of_read h (by decide) hfile hdata
      obtain ⟨taken, htaken, htakenNumber⟩ :=
        Shape.lookupD_of_fits hfits "total_duration_seconds" (.float 0.0) rfl rfl
      obtain ⟨tokens, htokens, htokensNumber⟩ :=
        Shape.lookupD_of_fits hfits "total_tokens" (.int 0) rfl rfl
      refine ⟨taken, some tokens, ?_, Shape.isNumber_of_fits htakenNumber, ?_⟩
      · rw [Option.isSome_some, Bool.not_true, if_neg Bool.false_ne_true, exec_bind_ok hread, hjson]
        dsimp only
        rw [htaken, htokens]
        rfl
      · intro counted hcounted
        cases hcounted
        exact Shape.isNumber_of_fits htokensNumber

theorem exec_measures (h : host.at? dir = some t) (htiming : Follows t "timing.json" timingShape)
    (hgrading : gradingShape.fits grading = true) :
    ∃ m, exec (measures dir grading) host = (.ok m, host) ∧ IsNumber m.passRate ∧
      IsNumber m.timeSeconds ∧ IsNumber m.tokens := by
  obtain ⟨summary, hsummary, hsummaryShape⟩ :=
    Shape.lookupD_of_fits hgrading "summary" (.dict []) rfl rfl
  obtain ⟨passRate, hpassRate, hrate⟩ :=
    Shape.lookupD_of_fits hsummaryShape "pass_rate" (.float 0.0) rfl rfl
  obtain ⟨passed, hpassed, -⟩ := Shape.lookupD_of_fits hsummaryShape "passed" (.int 0) rfl rfl
  obtain ⟨failed, hfailed, -⟩ := Shape.lookupD_of_fits hsummaryShape "failed" (.int 0) rfl rfl
  obtain ⟨total, htotal, -⟩ := Shape.lookupD_of_fits hsummaryShape "total" (.int 0) rfl rfl
  obtain ⟨time, tokens?, htime, htimeNumber, htokens⟩ := exec_timeAndTokens h htiming hgrading
  obtain ⟨metrics, hmetrics, hmetricsShape⟩ :=
    Shape.lookupD_of_fits hgrading "execution_metrics" (.dict []) rfl rfl
  obtain ⟨calls, hcalls, -⟩ :=
    Shape.lookupD_of_fits hmetricsShape "total_tool_calls" (.int 0) rfl rfl
  obtain ⟨written, hwritten, hwrittenNumber⟩ :=
    Shape.lookupD_of_fits hmetricsShape "output_chars" (.int 0) rfl rfl
  obtain ⟨errors, herrors, -⟩ :=
    Shape.lookupD_of_fits hmetricsShape "errors_encountered" (.int 0) rfl rfl
  have hrate' := Shape.isNumber_of_fits hrate
  have hwritten' := Shape.isNumber_of_fits hwrittenNumber
  rw [measures, section?, hsummary, exec_bind_ok (exec_ofExcept _ _), hpassRate,
    exec_bind_ok (exec_ofExcept _ _), hpassed, exec_bind_ok (exec_ofExcept _ _), hfailed,
    exec_bind_ok (exec_ofExcept _ _), htotal, exec_bind_ok (exec_ofExcept _ _),
    exec_bind_ok htime, section?, hmetrics, exec_bind_ok (exec_ofExcept _ _), hcalls, hwritten, herrors]
  -- The tokens are those that were counted, or the characters written where none were.
  cases tokens? with
  | none => exact ⟨_, rfl, hrate', htimeNumber, hwritten'⟩
  | some n =>
    refine ⟨_, rfl, hrate', htimeNumber, ?_⟩
    dsimp only
    split
    · exact htokens n rfl
    · exact hwritten'

theorem prints_expectations (file : Path) (hgrading : gradingShape.fits grading = true) :
    ∃ all, Prints (expectations file grading) all := by
  obtain ⟨all, hall, hshape⟩ := Shape.lookupD_of_fits hgrading "expectations" (.list []) rfl rfl
  obtain ⟨items, rfl, hitems⟩ := Shape.exists_items hshape
  refine ⟨.list items, (ofExcept hall).bind ((ofExcept (a := items) rfl).bind ?_)⟩
  refine (forIn fun e he => ?_).bind (pure _)
  obtain ⟨given, rfl⟩ := Shape.exists_fields (hitems e he)
  obtain ⟨complete, hcomplete⟩ : ∃ b, isComplete (.dict given) = .ok b := by
    unfold isComplete Value.holds
    dsimp only [ok_bind]
    split
    · exact ⟨_, rfl⟩
    · exact ⟨_, rfl⟩
  refine (ofExcept hcomplete).bind ?_
  split
  · exact (Prints.printOn _ _).bind (Prints.pure _)
  · exact pure _

theorem exists_notes (hgrading : gradingShape.fits grading = true) :
    ∃ noted, notes grading = .ok noted := by
  obtain ⟨summary, hsummary, hshape⟩ :=
    Shape.lookupD_of_fits hgrading "user_notes_summary" (.dict []) rfl rfl
  obtain ⟨uncertain, huncertain, hlist⟩ :=
    Shape.lookupD_of_fits hshape "uncertainties" (.list []) rfl rfl
  obtain ⟨first, rfl, -⟩ := Shape.exists_items hlist
  obtain ⟨review, hreview, hlist⟩ :=
    Shape.lookupD_of_fits hshape "needs_review" (.list []) rfl rfl
  obtain ⟨second, rfl, -⟩ := Shape.exists_items hlist
  obtain ⟨around, haround, hlist⟩ :=
    Shape.lookupD_of_fits hshape "workarounds" (.list []) rfl rfl
  obtain ⟨third, rfl, -⟩ := Shape.exists_items hlist
  refine ⟨first ++ second ++ third, ?_⟩
  rw [notes, section?, hsummary, ok_bind, huncertain, hreview, haround]
  rfl

theorem exec_loadRun_of_follows {number : Int} (id : Value) (h : host.at? dir = some t)
    (hnumber : numberInName? dir.name = some number)
    (hgrading : Follows t "grading.json" gradingShape)
    (htiming : Follows t "timing.json" timingShape) :
    ∃ run? host', exec (loadRun? id dir) host = (.ok run?, host') ∧
      ∀ r, run? = some r → r.Measured := by
  unfold loadRun?
  rw [hnumber]
  rw [exec_bind_ok (Host.exec_pathExists_child h (by decide))]
  cases hfile : t.get? ["grading.json"] with
  | none => exact ⟨none, _, rfl, by simp⟩
  | some file =>
    obtain ⟨grading, hdata, hfits⟩ := hgrading file hfile
    obtain ⟨s, hread, hjson⟩ := exists_text_of_read h (by decide) hfile hdata
    obtain ⟨m, hm, hrate, htime, htokens⟩ := exec_measures h htiming hfits
    obtain ⟨all, hall⟩ := prints_expectations (dir.child "grading.json") hfits
    obtain ⟨noted, hnoted⟩ := exists_notes hfits
    obtain ⟨printed, hprinted⟩ := hall host
    refine ⟨some ⟨id, number, m, all, noted⟩, { host with printed }, ?_, ?_⟩
    · rw [Option.isSome_some, Bool.not_true, if_neg Bool.false_ne_true, exec_bind_ok hread, hjson]
      rw [exec_bind_ok hm, exec_bind_ok hprinted, hnoted]
      rfl
    · rintro r hr
      cases hr
      exact ⟨hrate, htime, htokens⟩

end Loading

end SkillKit.Benchmark
