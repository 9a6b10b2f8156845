import SkillKit.Proofs.Review.Feedback

/-!
# Feedback that the next iteration reads

The server takes every object with reviews; the next iteration reads each of them.  If each review
says something about a run (`Says`) or is silent (`Silent`), the last thing said about each run is
known.  Otherwise the first one that does neither decides: if it only names no run, all feedback
vanishes, and else the reading fails.
-/

namespace SkillKit

open List Fields Value Result

variable {items before : List Value} {feedback feedback' : Fields} {id : String} {f : Fault}
  {host : Host} {runs : List Run}

variable {text : String} {review v : Value}

theorem Fields.get?_put_of_ne_text {key : Atom} (h : ∀ s, key ≠ .text s) (fields : Fields)
    (value : Value) (other : String) :
    get? (put fields key value) other = get? fields other := by
  have hother (t : String) : (Atom.text t).same key = false := by
    cases key with
    | text s => exact absurd rfl (h s)
    | _ => rfl
  induction fields with
  | nil =>
    rw [put, get?_cons, if_neg]
    intro hkey
    exact h other (Atom.eq_of_same_text hkey)
  | cons f rest ih =>
    obtain ⟨k, v⟩ := f
    rw [put]
    by_cases hk : k.same (.text other) = true
    · obtain rfl := Atom.eq_of_same_text hk
      rw [hother, if_neg (by simp), get?_cons, get?_cons, if_pos hk, if_pos hk]
    · split
      · rw [get?_cons, get?_cons, if_neg hk, if_neg hk]
      · rw [get?_cons, get?_cons, if_neg hk, if_neg hk, ih]

namespace Review

open Act Text

/-! ## Single reviews -/

/-- The feedback of a review: a text, which is blank if none is given. -/
def Comments (fields : Fields) (text : String) : Prop :=
  (get? fields "feedback").getD (.text "") = .text text

/-- A review says something about a run. -/
def Says (review : Value) (id : Atom) (text : String) : Prop :=
  ∃ fields, review = .dict fields ∧ Comments fields text ∧ (strip text).isEmpty = false ∧
    get? fields "run_id" = some (.atom id)

/-- A review says nothing. -/
def Silent (review : Value) : Prop :=
  ∃ fields text, review = .dict fields ∧ Comments fields text ∧ (strip text).isEmpty = true

/-- A review says something, but not about which run. -/
def Nameless (review : Value) : Prop :=
  ∃ fields text, review = .dict fields ∧ Comments fields text ∧ (strip text).isEmpty = false ∧
    get? fields "run_id" = none

/-- A review says something about a run, or nothing. -/
def Sound (review : Value) : Prop :=
  Silent review ∨ ∃ id text, Says review id text

theorem addReview_of_comments {fields : Fields} (h : Comments fields text) (feedback : Fields) :
    addReview feedback (.dict fields) =
      if (strip text).isEmpty then .ok feedback else
        match get? fields "run_id" with
        | none => .error (.missingKey (.text "run_id"))
        | some (.atom id) => .ok (put feedback id (.text text))
        | some _ => .error .wrongKind := by
  have hlookup : (Value.dict fields).lookupD "feedback" (.text "") = .ok (.text text) :=
    congrArg Except.ok h
  have htext : (Value.text text).textFor "strip" = .ok text := rfl
  unfold addReview
  rw [hlookup, ok_bind, htext, ok_bind]
  congr 1
  dsimp only [entry]
  cases get? fields "run_id" with
  | none => rfl
  | some w => cases w <;> rfl

theorem addReview_of_said {id : Atom} (h : Says review id text) (feedback : Fields) :
    addReview feedback review = .ok (put feedback id (.text text)) := by
  obtain ⟨fields, rfl, hcomments, hblank, hid⟩ := h
  rw [addReview_of_comments hcomments, hblank, hid]
  rfl

theorem addReview_of_silent (h : Silent review) (feedback : Fields) :
    addReview feedback review = .ok feedback := by
  obtain ⟨fields, text, rfl, hcomments, hblank⟩ := h
  rw [addReview_of_comments hcomments, if_pos hblank]

theorem addReview_of_nameless (h : Nameless review) (feedback : Fields) :
    addReview feedback review = .error (.missingKey (.text "run_id")) := by
  obtain ⟨fields, text, rfl, hcomments, hblank, hid⟩ := h
  rw [addReview_of_comments hcomments, hblank, hid]
  rfl

/-- A fault of something that is not of the kind that a review needs. -/
def IsMisfit (f : Fault) : Prop :=
  f = .wrongKind ∨ ∃ kind part, f = .noPart kind part

theorem addReview_of_broken (hsound : ¬ Sound review) (hnamed : ¬ Nameless review) :
    ∃ f, IsMisfit f ∧ ∀ feedback, addReview feedback review = .error f := by
  cases review with
  | dict fields =>
    by_cases hcomments : ∃ text, Comments fields text
    · obtain ⟨text, hcomments⟩ := hcomments
      by_cases hblank : (strip text).isEmpty = true
      · exact absurd (.inl ⟨fields, text, rfl, hcomments, hblank⟩) hsound
      · have hblank' : (strip text).isEmpty = false := by simpa using hblank
        refine ⟨.wrongKind, .inl rfl, fun feedback => ?_⟩
        rw [addReview_of_comments hcomments, if_neg hblank]
        cases hid : get? fields "run_id" with
        | none => exact absurd ⟨fields, text, rfl, hcomments, hblank', hid⟩ hnamed
        | some w =>
          cases w with
          | atom id => exact absurd (.inr ⟨id, text, fields, rfl, hcomments, hblank', hid⟩) hsound
          | _ => rfl
    · -- The feedback is no text.
      generalize hv : (get? fields "feedback").getD (.text "") = v
      have hno (s : String) : v ≠ .text s := fun h => hcomments ⟨s, hv.trans h⟩
      refine ⟨.noPart v.kind "strip", .inr ⟨_, _, rfl⟩, fun feedback => ?_⟩
      unfold addReview Value.lookupD Value.lookup
      simp only [ok_bind, pure_eq, hv]
      cases v with
      | atom a =>
        cases a with
        | text s => exact absurd rfl (hno s)
        | _ => rfl
      | _ => rfl
  | _ => exact ⟨_, .inr ⟨_, _, rfl⟩, fun _ => rfl⟩

/-! ## All reviews -/

theorem foldlM_of_sound (h : ∀ r ∈ items, Sound r) (feedback : Fields) :
    ∃ feedback', items.foldlM addReview feedback = .ok feedback' := by
  induction items generalizing feedback with
  | nil => exact ⟨feedback, rfl⟩
  | cons review rest ih =>
    rw [foldlM_cons]
    obtain hsilent | ⟨id, text, hsaid⟩ := h review mem_cons_self
    · rw [addReview_of_silent hsilent]
      exact ih (fun r hr => h r (mem_cons_of_mem _ hr)) _
    · rw [addReview_of_said hsaid]
      exact ih (fun r hr => h r (mem_cons_of_mem _ hr)) _

theorem get?_foldlM (h : items.foldlM addReview feedback = .ok feedback')
    (hsound : ∀ r ∈ items, Sound r) (hnone : ∀ r ∈ items, ∀ text, ¬ Says r (.text id) text) :
    get? feedback' id = get? feedback id := by
  induction items generalizing feedback with
  | nil =>
    cases h
    rfl
  | cons review rest ih =>
    rw [foldlM_cons] at h
    have hrest {next : Fields} (hnext : rest.foldlM addReview next = .ok feedback') :
        get? feedback' id = get? next id :=
      ih hnext (fun r hr => hsound r (mem_cons_of_mem _ hr))
        fun r hr => hnone r (mem_cons_of_mem _ hr)
    obtain hsilent | ⟨other, text, hsaid⟩ := hsound review mem_cons_self
    · rw [addReview_of_silent hsilent] at h
      exact hrest h
    · rw [addReview_of_said hsaid] at h
      rw [hrest h]
      -- The run that the review is about is another one.
      by_cases htext : ∃ s, other = .text s
      · obtain ⟨s, rfl⟩ := htext
        rw [get?_put, if_neg]
        intro hid
        exact hnone review mem_cons_self text (hid ▸ hsaid)
      · exact get?_put_of_ne_text (fun s hs => htext ⟨s, hs⟩) _ _ _

theorem get?_foldlM_of_said {after : List Value}
    (h : (before ++ review :: after).foldlM addReview feedback = .ok feedback')
    (hsaid : Says review (.text id) text) (hsound : ∀ r ∈ after, Sound r)
    (hlast : ∀ r ∈ after, ∀ text, ¬ Says r (.text id) text) :
    get? feedback' id = some (.text text) := by
  rw [foldlM_append] at h
  obtain ⟨middle, -, h⟩ := bind_eq_ok.mp h
  rw [foldlM_cons, addReview_of_said hsaid] at h
  rw [get?_foldlM h hsound hlast, get?_put, if_pos rfl]

theorem foldlM_of_error (hsound : ∀ r ∈ before, Sound r)
    (h : ∀ feedback, addReview feedback review = .error f) (after : List Value) (feedback : Fields) :
    (before ++ review :: after).foldlM addReview feedback = .error f := by
  obtain ⟨middle, hmiddle⟩ := foldlM_of_sound hsound feedback
  rw [foldlM_append, hmiddle, ok_bind, foldlM_cons, h middle]
  rfl

/-! ## What is known about a run -/

/-- What is known about a run of the previous iteration. -/
def about? (earlier : List (Atom × Earlier)) (id : String) : Option Earlier :=
  (earlier.find? (·.1.same (.text id))).map (·.2)

def lastRun? (runs : List Run) (id : String) : Option Run :=
  runs.reverse.find? (·.id == id)

/-- The knowledge with that about one run replaced or added. -/
def noteRun (found : List (Atom × Earlier)) (id : Atom) (e : Earlier) : List (Atom × Earlier) :=
  if found.any (·.1.same id) then found.map fun f => if f.1.same id then (f.1, e) else f
  else found ++ [(id, e)]

/-- The knowledge with feedback on a run that nothing is known about. -/
def noteFeedback (found : List (Atom × Earlier)) (f : Atom × Value) : List (Atom × Earlier) :=
  if found.any (·.1.same f.1) then found else found ++ [(f.1, ⟨f.2, []⟩)]

theorem earlierOf_eq (runs : List Run) (feedback : Fields) : earlierOf runs feedback =
    feedback.foldl noteFeedback (runs.foldl (fun found r =>
      noteRun found (.text r.id) ⟨(get? feedback r.id).getD (.text ""), r.outputs⟩) []) :=
  rfl

theorem about?_concat (found : List (Atom × Earlier)) (key : Atom) (e : Earlier) (id : String) :
    about? (found ++ [(key, e)]) id =
      (about? found id).or (if key.same (.text id) then some e else none) := by
  unfold about?
  rw [find?_append]
  cases found.find? (·.1.same (.text id)) with
  | some f => rfl
  | none => cases hkey : key.same (.text id) <;> simp [hkey]

theorem about?_noteRun (found : List (Atom × Earlier)) (other : String) (e : Earlier)
    (id : String) : about? (noteRun found (.text other) e) id =
      if other = id then some e else about? found id := by
  have hsame : (Atom.text other).same (.text id) = decide (other = id) := rfl
  unfold noteRun
  split
  · rename_i hthere
    -- The entry keeps its place, so the same one is found.
    have hkeys : ((fun f : Atom × Earlier => f.1.same (.text id)) ∘
        fun f : Atom × Earlier => if f.1.same (.text other) then (f.1, e) else f) =
        fun f => f.1.same (.text id) := by
      funext f
      dsimp only [Function.comp_apply]
      split <;> rfl
    unfold about?
    rw [find?_map, hkeys]
    cases hfind : found.find? (·.1.same (.text id)) with
    | some f =>
      have hfound := find?_some hfind
      have hkey := Atom.eq_of_same_text hfound
      by_cases hid : other = id
      · subst hid
        simp [hkey, hsame]
      · have hne : (Atom.text id).same (.text other) = false := by
          simpa [Atom.same] using fun h => hid h.symm
        simp [hkey, hne, hid]
    | none =>
      have hid : other ≠ id := by
        rintro rfl
        rw [find?_eq_none] at hfind
        obtain ⟨f, hf, hkey⟩ := any_eq_true.mp hthere
        exact hfind f hf hkey
      simp [hid]
  · rename_i hthere
    rw [about?_concat, hsame]
    by_cases hid : other = id
    · subst hid
      have hnone : about? found other = none := by
        simpa [about?] using hthere
      simp [hnone]
    · simp [hid]

theorem lastRun?_cons (r : Run) (runs : List Run) (id : String) :
    lastRun? (r :: runs) id = (lastRun? runs id).or (if r.id = id then some r else none) := by
  unfold lastRun?
  rw [reverse_cons, find?_append]
  cases runs.reverse.find? (·.id == id) with
  | some s => rfl
  | none => by_cases hid : r.id = id <;> simp [hid]

theorem lastRun?_of_mem (before : List Run) (r : Run) (after : List Run) :
    ∃ s, lastRun? (before ++ r :: after) r.id = some s ∧ s ∈ r :: after ∧
      ((∀ s ∈ after, s.id ≠ r.id) → s = r) := by
  have hlast : ∃ s, lastRun? (r :: after) r.id = some s ∧ s ∈ r :: after ∧
      ((∀ s ∈ after, s.id ≠ r.id) → s = r) := by
    rw [lastRun?_cons, if_pos rfl]
    cases hafter : lastRun? after r.id with
    | none => exact ⟨r, rfl, mem_cons_self, fun _ => rfl⟩
    | some s =>
      have hmem : s ∈ after := mem_reverse.mp (mem_of_find?_eq_some hafter)
      have hid : s.id = r.id := by simpa using find?_some hafter
      exact ⟨s, rfl, mem_cons_of_mem _ hmem, fun hnone => absurd hid (hnone s hmem)⟩
  obtain ⟨s, hs, hrest⟩ := hlast
  refine ⟨s, ?_, hrest⟩
  unfold lastRun? at hs ⊢
  rw [reverse_append, find?_append, hs, Option.some_or]

theorem about?_foldl_noteRun (entry : Run → Earlier) (runs : List Run)
    (found : List (Atom × Earlier)) (id : String) :
    about? (runs.foldl (fun found r => noteRun found (.text r.id) (entry r)) found) id =
      ((lastRun? runs id).map entry).or (about? found id) := by
  induction runs generalizing found with
  | nil => rfl
  | cons r rest ih =>
    rw [foldl_cons, ih, about?_noteRun, lastRun?_cons]
    cases lastRun? rest id with
    | some s => rfl
    | none => by_cases hid : r.id = id <;> simp [hid]

theorem about?_foldl_noteFeedback (feedback : Fields) (found : List (Atom × Earlier))
    (id : String) : about? (feedback.foldl noteFeedback found) id =
      (about? found id).or ((get? feedback id).map (⟨·, []⟩)) := by
  induction feedback generalizing found with
  | nil => cases h : about? found id <;> simp [h, get?, lookup?]
  | cons f rest ih =>
    obtain ⟨key, text⟩ := f
    rw [foldl_cons, ih, noteFeedback, get?_cons]
    split
    · rename_i hthere
      by_cases hkey : key.same (.text id) = true
      · -- Something is known about the run already.
        obtain rfl := Atom.eq_of_same_text hkey
        have hsome : (about? found id).isSome = true := by
          simpa [about?] using hthere
        obtain ⟨e, he⟩ := Option.isSome_iff_exists.mp hsome
        rw [he, Option.some_or, Option.some_or]
      · rw [if_neg hkey]
    · rw [about?_concat]
      cases about? found id with
      | some e => rfl
      | none => by_cases hkey : key.same (.text id) = true <;> simp [hkey]

/-- About a run of the workspace its outputs are known and the feedback on it, if there is any; about
any other run the feedback. -/
theorem about?_earlierOf (runs : List Run) (feedback : Fields) (id : String) :
    about? (earlierOf runs feedback) id = match lastRun? runs id with
      | some r => some ⟨(get? feedback id).getD (.text ""), r.outputs⟩
      | none => (get? feedback id).map (⟨·, []⟩) := by
  rw [earlierOf_eq, about?_foldl_noteFeedback, about?_foldl_noteRun]
  cases hlast : lastRun? runs id with
  | none => rfl
  | some r =>
    have hid : r.id = id := by simpa using find?_some hlast
    simp [hid]

/-! ## Reading what was saved -/

/-- The feedback that is taken from a document; a review without a run spoils it all. -/
def takenFrom (v : Value) : Except Fault Fields :=
  match feedbackIn v with
  | .ok feedback => .ok feedback
  | .error (.missingKey _) => .ok []
  | .error f => .error f

theorem exec_loadPrevious {site : Site} (hholds : Holds site v host)
    (hruns : (exec (loadRuns site.workspace) host).1 = .ok runs) :
    (exec (loadPrevious site.workspace) host).1 = earlierOf runs <$> takenFrom v := by
  obtain ⟨text, hfind, hlines, hread⟩ := hholds
  have hkeeps : Keeps id (loadRuns site.workspace) := keeps_loadRuns site.workspace
  have hrun : exec (loadRuns site.workspace) host = (.ok runs, host) := Prod.ext hruns (hkeeps host)
  have hfeedback : exec (loadFeedback site.workspace) host = (takenFrom v, host) := by
    unfold loadFeedback takenFrom
    rw [exec_bind_ok (exec_loadJson? hfind (hlines.symm ▸ hread))]
    dsimp only
    cases feedbackIn v with
    | ok feedback => rfl
    | error f => cases f <;> rfl
  unfold loadPrevious
  cases htaken : takenFrom v with
  | error f => rw [exec_bind_error (htaken ▸ hfeedback), map_error]
  | ok feedback => rw [exec_bind_ok (htaken ▸ hfeedback), exec_bind_ok hrun, exec_pure, map_ok]

theorem earlierOf_of_loadPrevious {workspace : Path} {earlier : List (Atom × Earlier)}
    (hruns : (exec (loadRuns workspace) host).1 = .ok runs)
    (h : (exec (loadPrevious workspace) host).1 = .ok earlier) :
    ∃ feedback, earlier = earlierOf runs feedback := by
  obtain ⟨final, hrun⟩ : ∃ final, exec (loadPrevious workspace) host = (.ok earlier, final) :=
    ⟨_, Prod.ext h rfl⟩
  obtain ⟨feedback, host₁, hfeedback, hrest⟩ := of_exec_bind_ok hrun
  have hkeeps : Keeps id (loadFeedback workspace) := by
    unfold loadFeedback
    refine .bind (keeps_loadJson? _) fun data => ?_
    cases data with
    | none => exact .pure _
    | some data =>
      dsimp only
      split
      · exact .pure _
      · exact .pure _
      · exact .throw _
  obtain rfl : host₁ = host := hkeeps.of_ok hfeedback
  obtain ⟨found, host₂, hfound, hlast⟩ := of_exec_bind_ok hrest
  rw [hfound] at hruns
  cases hruns
  cases hlast
  exact ⟨feedback, rfl⟩

theorem Offers.feedbackIn {request : Request} (h : Offers request v) :
    ∃ reviews, v.field? "reviews" = some reviews ∧
      feedbackIn v = reviews.parts >>= (·.foldlM addReview []) := by
  obtain ⟨fields, rfl, hhas⟩ := h.reviews
  obtain ⟨f, hf, hkey⟩ := any_eq_true.mp hhas
  have hsome : (get? fields "reviews").isSome = true := by
    simpa [get?, lookup?] using ⟨f.1, ⟨f.2, hf⟩, hkey⟩
  obtain ⟨reviews, hreviews⟩ := Option.isSome_iff_exists.mp hsome
  refine ⟨reviews, hreviews, ?_⟩
  rw [Review.feedbackIn, Value.lookupD, Value.lookup]
  simp only [ok_bind, pure_eq, hreviews, Option.getD_some]

theorem fault_of_parts (h : v.parts = .error f) : f = .wrongKind := by
  cases v with
  | atom a =>
    cases a with
    | text s => cases h
    | bytes b => cases h
    | _ => exact (Except.error.inj h).symm
  | _ => cases h

/-- What the next iteration makes of feedback that was saved.  If its reviews are sound, it knows the
last thing said about each run.  The first review that is not sound makes all feedback vanish if it
only names no run, and otherwise makes the reading fail; so do reviews that cannot be gone through. -/
theorem loadPrevious_of_saved {site : Site} {host next : Host} {request : Request} {v : Value}
    {runs : List Run} (hsaves : (answered site host request).Saves) (hoffers : Offers request v)
    (hkept : next.files.find (next.locate (feedbackFile site.workspace)) =
      (answered site host request).after.files.find
        ((answered site host request).after.locate (feedbackFile site.workspace)))
    (hruns : (exec (loadRuns site.workspace) next).1 = .ok runs) :
    let result := (exec (loadPrevious site.workspace) next).1
    ∃ reviews, v.field? "reviews" = some reviews ∧
      (∀ f, reviews.parts = .error f → result = .error f) ∧
      ∀ items, reviews.parts = .ok items →
        ((∀ r ∈ items, Sound r) → ∃ earlier, result = .ok earlier ∧
          ∀ before review after id text, items = before ++ review :: after →
            Says review (.text id) text → (∀ r ∈ after, ∀ text, ¬ Says r (.text id) text) →
            ∃ e, about? earlier id = some e ∧ e.feedback = .text text) ∧
        ∀ before review after, items = before ++ review :: after → (∀ r ∈ before, Sound r) →
          (Nameless review → ∃ earlier, result = .ok earlier ∧
            ∀ id e, about? earlier id = some e → e.feedback = .text "") ∧
          (¬ Sound review → ¬ Nameless review → ∃ f, result = .error f ∧ IsMisfit f) := by
  intro result
  have hholds : Holds site v next := by
    obtain ⟨-, w, hoffers', -, text, hfind, htext⟩ | ⟨hnot, -⟩ := answered_cases site host request
    · rw [hoffers.unique hoffers']
      exact ⟨text, hkept.trans hfind, htext⟩
    · exact absurd hsaves hnot
  have hresult : result = earlierOf runs <$> takenFrom v := exec_loadPrevious hholds hruns
  obtain ⟨reviews, hreviews, hfeedback⟩ := hoffers.feedbackIn
  refine ⟨reviews, hreviews, ?_, ?_⟩
  · intro f hparts
    obtain rfl : f = .wrongKind := fault_of_parts hparts
    rw [hresult, takenFrom, hfeedback, hparts]
    rfl
  · intro items hparts
    rw [hparts, ok_bind] at hfeedback
    constructor
    · intro hsound
      obtain ⟨feedback, hfold⟩ := foldlM_of_sound hsound []
      refine ⟨earlierOf runs feedback, by rw [hresult, takenFrom, hfeedback, hfold]; rfl, ?_⟩
      rintro before review after id text rfl hsaid hlast
      have hknown := get?_foldlM_of_said hfold hsaid
        (fun r hr => hsound r (by simp [hr])) hlast
      rw [about?_earlierOf, hknown]
      cases lastRun? runs id with
      | none => exact ⟨_, rfl, rfl⟩
      | some r => exact ⟨_, rfl, rfl⟩
    · rintro before review after rfl hsound
      constructor
      · intro hnameless
        have hfold := foldlM_of_error hsound (addReview_of_nameless hnameless) after []
        refine ⟨earlierOf runs [], by rw [hresult, takenFrom, hfeedback, hfold]; rfl, ?_⟩
        intro id e he
        rw [about?_earlierOf] at he
        cases hlast : lastRun? runs id with
        | none => simp [hlast, get?, lookup?] at he
        | some r =>
          rw [hlast] at he
          cases he
          rfl
      · intro hbroken hnamed
        obtain ⟨f, hmisfit, hf⟩ := addReview_of_broken hbroken hnamed
        have hfold := foldlM_of_error hsound hf after []
        refine ⟨f, ?_, hmisfit⟩
        rw [hresult, takenFrom, hfeedback, hfold]
        obtain rfl | ⟨kind, part, rfl⟩ := hmisfit <;> rfl

def sampleReview : Value := .object [("run_id", .text "a"), ("feedback", .text "fine")]

theorem said_sampleReview : Says sampleReview (.text "a") "fine" :=
  ⟨_, rfl, rfl, by decide +kernel, rfl⟩

def fineBody : String :=
  "\x7b\"reviews\": [\x7b\"run_id\": \"a\", \"feedback\": \"fine\"\x7d]\x7d"

theorem loadPrevious_of_saved_fine :
    let x := answered sampleSite sampleHost (posting fineBody "50")
    x.Saves ∧ ∃ earlier, (exec (loadPrevious sampleSite.workspace) x.after).1 = .ok earlier ∧
      ∃ e, about? earlier "a" = some e ∧ e.feedback = .text "fine" := by
  intro x
  have hoffers : Offers (posting fineBody "50") (.object [("reviews", .list [sampleReview])]) :=
    offers_posting rfl (by decide +kernel) (by decide +kernel) (by decide +kernel) ⟨_, rfl, rfl⟩
  have hsaves : x.Saves := saves_iff.mpr ⟨⟨rfl, rfl⟩, ⟨_, hoffers⟩, ⟨_, rfl⟩⟩
  obtain ⟨runs, hruns⟩ : ∃ runs, (exec (loadRuns sampleSite.workspace) x.after).1 = .ok runs :=
    exists_of_isSome (by decide +kernel)
  obtain ⟨reviews, hreviews, -, hread⟩ := loadPrevious_of_saved hsaves hoffers rfl hruns
  cases hreviews
  obtain ⟨earlier, hearlier, hsaid⟩ := (hread [sampleReview] rfl).1
    (by simpa using .inr ⟨_, _, said_sampleReview⟩)
  exact ⟨hsaves, earlier, hearlier, hsaid [] _ [] _ _ rfl said_sampleReview (by simp)⟩

def mixedBody : String :=
  "\x7b\"reviews\": [\x7b\"run_id\": \"a\", \"feedback\": \"fine\"\x7d, 1]\x7d"

/-- Feedback with a number among its reviews is saved, and cannot be read. -/
theorem loadPrevious_mixed :
    let x := answered sampleSite sampleHost (posting mixedBody "53")
    x.Saves ∧ (exec (loadRuns sampleSite.workspace) x.after).1.toOption.isSome = true ∧
      (exec (loadPrevious sampleSite.workspace) x.after).1.toOption.isSome = false := by
  have hoffers : Offers (posting mixedBody "53")
      (.object [("reviews", .list [sampleReview, .int 1])]) :=
    offers_posting (by decide +kernel) (by decide +kernel) (by decide +kernel) (by decide +kernel) ⟨_, rfl, rfl⟩
  exact ⟨saves_iff.mpr ⟨⟨rfl, rfl⟩, ⟨_, hoffers⟩, ⟨_, rfl⟩⟩, by decide +kernel, by decide +kernel⟩

end Review

end SkillKit
