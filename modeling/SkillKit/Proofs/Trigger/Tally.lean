import SkillKit.Trigger.Evaluate
import SkillKit.Proofs.Decimal.Nearest
import SkillKit.Proofs.Run
import Mathlib.Data.List.Induction
import Mathlib.Data.List.Nodup

/-!
# Tallies of calls

One call extends the group of its query or opens a new one behind the others (`addTo_cases`), so that
after any calls in any order there is one group for each query that was asked (`tallied_foldl`).  The
outcomes are settled by counts of calls alone (`Judged`), which no order of the calls changes.
-/

namespace SkillKit

open List

variable {groups : List Trigger.Group} {calls : List Call} {g : Trigger.Group} {c : Call}
variable {threshold : Value}

/-- Whether a call has triggered; one that failed has not. -/
def Verdict.hit : Verdict → Bool
  | .triggered b => b
  | .failed _ => false

namespace Trigger

open Act

/-- A call for a query that is a text, done. -/
structure Call where
  item : Value
  query : String
  verdict : Verdict

def Call.done (c : Call) : Done := ⟨c.item, .text c.query, c.verdict⟩

def tally (groups : List Trigger.Group) (c : Call) : List Trigger.Group :=
  addTo (.text c.query) c.item c.verdict.hit groups

theorem prints_collect (groups : List Trigger.Group) (c : Call) :
    Prints (collect groups c.done) (tally groups c) := by
  unfold collect Call.done tally
  cases c.verdict with
  | triggered b => exact Prints.pure _
  | failed reason => exact (Prints.warnLine _).bind (Prints.pure _)

theorem prints_collect_all (calls : List Call) :
    Prints ((calls.map Call.done).foldlM collect []) (calls.foldl tally []) := by
  rw [foldlM_map]
  exact Prints.foldlM (fun groups c _ => prints_collect groups c) []

/-! ## Groups -/

theorem same_text (a b : String) : (Atom.text a).same (.text b) = (a == b) := rfl

theorem addTo_cases (q : String) (item : Value) (b : Bool)
    (htexts : ∀ g ∈ groups, ∃ t, g.query = .text t) :
    (∃ front g back, groups = front ++ g :: back ∧ g.query = .text q ∧
      addTo (.text q) item b groups = front ++ ⟨.text q, item, g.triggers ++ [b]⟩ :: back) ∨
    ((∀ g ∈ groups, g.query ≠ .text q) ∧
      addTo (.text q) item b groups = groups ++ [⟨.text q, item, [b]⟩]) := by
  induction groups with
  | nil => exact .inr ⟨by simp, rfl⟩
  | cons g rest ih =>
    obtain ⟨t, ht⟩ := htexts g mem_cons_self
    by_cases hq : t = q
    · subst hq
      refine .inl ⟨[], g, rest, rfl, ht, ?_⟩
      simp [addTo, ht, same_text]
    · have hstep : addTo (.text q) item b (g :: rest) = g :: addTo (.text q) item b rest := by
        simp [addTo, ht, same_text, hq]
      rcases ih fun g' hg' => htexts g' (mem_cons_of_mem _ hg') with
        ⟨front, g', back, hrest, hg', hadd⟩ | ⟨hnone, hadd⟩
      · exact .inl ⟨g :: front, g', back, by rw [hrest, cons_append], hg',
          by rw [hstep, hadd, cons_append]⟩
      · refine .inr ⟨?_, by rw [hstep, hadd, cons_append]⟩
        intro g' hg'
        rcases mem_cons.mp hg' with rfl | hg'
        · simp [ht, hq]
        · exact hnone g' hg'

/-- A group that accounts for the calls of its query: it has their verdicts in order, and the item
of one of them. -/
def Accounts (calls : List Call) (g : Trigger.Group) : Prop :=
  ∃ q, g.query = .text q ∧ g.triggers = (calls.filter (·.query = q)).map (·.verdict.hit) ∧
    ∃ c ∈ calls, c.query = q ∧ g.item = c.item

/-- Groups that account for calls, one for each query. -/
structure Tallied (calls : List Call) (groups : List Trigger.Group) : Prop where
  distinct : (groups.map (·.query)).Nodup
  grouped : ∀ g ∈ groups, Accounts calls g
  complete : ∀ c ∈ calls, ∃ g ∈ groups, g.query = .text c.query

theorem Tallied.nil : Tallied [] [] :=
  ⟨nodup_nil, by simp, by simp⟩

theorem Tallied.texts (h : Tallied calls groups) : ∀ g ∈ groups, ∃ t, g.query = .text t := by
  intro g hg
  obtain ⟨q, hq, -⟩ := h.grouped g hg
  exact ⟨q, hq⟩

theorem Accounts.other (h : Accounts calls g) (hne : g.query ≠ .text c.query) :
    Accounts (calls ++ [c]) g := by
  obtain ⟨q, hq, htriggers, c', hc', hitem⟩ := h
  have hcq : c.query ≠ q := fun heq => hne (by rw [hq, heq])
  exact ⟨q, hq, by simp [htriggers, hcq], c', mem_append_left _ hc', hitem⟩

theorem Accounts.extend (h : Accounts calls g) (hquery : g.query = .text c.query) :
    Accounts (calls ++ [c]) ⟨.text c.query, c.item, g.triggers ++ [c.verdict.hit]⟩ := by
  obtain ⟨q, hq, htriggers, -⟩ := h
  obtain rfl : c.query = q := by simpa [hquery] using hq
  exact ⟨c.query, rfl, by simp [htriggers], c, by simp, rfl, rfl⟩

theorem Accounts.first (h : ∀ c' ∈ calls, c'.query ≠ c.query) :
    Accounts (calls ++ [c]) ⟨.text c.query, c.item, [c.verdict.hit]⟩ := by
  have hfilter : calls.filter (·.query = c.query) = [] := by
    simpa [filter_eq_nil_iff] using h
  exact ⟨c.query, rfl, by simp [hfilter], c, by simp, rfl, rfl⟩

theorem Tallied.step (h : Tallied calls groups) (c : Call) :
    Tallied (calls ++ [c]) (tally groups c) := by
  unfold tally
  rcases addTo_cases c.query c.item c.verdict.hit h.texts with
    ⟨front, g, back, rfl, hg, hadd⟩ | ⟨hnone, hadd⟩
  · have hdistinct := h.distinct
    have hrest : ∀ g' ∈ front ++ back, g'.query ≠ .text c.query := by
      intro g' hg' heq
      rw [map_append, map_cons, nodup_middle, nodup_cons, ← map_append,
        hg] at hdistinct
      exact hdistinct.1 (heq ▸ mem_map_of_mem hg')
    rw [hadd]
    refine ⟨by simpa [hg] using hdistinct, ?_, ?_⟩
    · intro g' hg'
      rcases mem_cons.mp (perm_middle.mem_iff.mp hg') with rfl | hg'
      · exact (h.grouped g (by simp)).extend hg
      · have hold := perm_middle.mem_iff.mpr (mem_cons_of_mem g hg')
        exact (h.grouped g' hold).other (hrest g' hg')
    · intro c' hc'
      by_cases hcq : c'.query = c.query
      · exact ⟨_, mem_append_right _ mem_cons_self, by rw [hcq]⟩
      · have hold : c' ∈ calls := by
          rcases mem_append.mp hc' with hc' | hc'
          · exact hc'
          · exact absurd (by rw [mem_singleton.mp hc']) hcq
        obtain ⟨g', hg', hquery⟩ := h.complete c' hold
        refine ⟨g', ?_, hquery⟩
        rcases mem_cons.mp (perm_middle.mem_iff.mp hg') with rfl | hg'
        · exact absurd (by simpa [hg] using hquery.symm) hcq
        · exact perm_middle.mem_iff.mpr (mem_cons_of_mem _ hg')
  · have hnew : ∀ c' ∈ calls, c'.query ≠ c.query := by
      intro c' hc' heq
      obtain ⟨g, hg, hquery⟩ := h.complete c' hc'
      exact hnone g hg (by rw [hquery, heq])
    rw [hadd]
    refine ⟨?_, ?_, ?_⟩
    · rw [map_append, nodup_append]
      refine ⟨h.distinct, nodup_singleton _, ?_⟩
      intro a ha b hb
      obtain ⟨g, hg, rfl⟩ := mem_map.mp ha
      rw [mem_singleton.mp hb]
      exact hnone g hg
    · intro g hg
      rcases mem_append.mp hg with hg | hg
      · exact (h.grouped g hg).other (hnone g hg)
      · rw [mem_singleton.mp hg]
        exact Accounts.first hnew
    · intro c' hc'
      rcases mem_append.mp hc' with hc' | hc'
      · obtain ⟨g, hg, hquery⟩ := h.complete c' hc'
        exact ⟨g, mem_append_left _ hg, hquery⟩
      · rw [mem_singleton.mp hc']
        exact ⟨_, mem_append_right _ mem_cons_self, rfl⟩

theorem tallied_foldl (calls : List Call) : Tallied calls (calls.foldl tally []) := by
  -- from the right: the invariant is on the calls that were done so far
  induction calls using reverseRecOn with
  | nil => exact Tallied.nil
  | append_singleton calls c ih =>
    rw [foldl_append, foldl_cons]
    exact ih.step c

theorem filter_addTo (p : Atom → Bool) (q : String) (item : Value) (b : Bool)
    (htexts : ∀ g ∈ groups, ∃ t, g.query = .text t) :
    (addTo (.text q) item b groups).filter (fun g => p g.query) =
      if p (.text q) then addTo (.text q) item b (groups.filter fun g => p g.query)
      else groups.filter fun g => p g.query := by
  induction groups with
  | nil => cases hq : p (.text q) <;> simp [addTo, hq]
  | cons g rest ih =>
    obtain ⟨t, ht⟩ := htexts g mem_cons_self
    by_cases htq : t = q
    · subst htq
      cases hq : p (.text t) <;> simp [addTo, ht, same_text, hq]
    · cases hg : p g.query <;> cases hq : p (.text q) <;>
        simp_all [addTo, same_text]

theorem filter_foldl_tally (p : Atom → Bool) (calls : List Call) :
    (calls.foldl tally []).filter (fun g => p g.query) =
      (calls.filter fun c => p (.text c.query)).foldl tally [] := by
  induction calls using reverseRecOn with
  | nil => rfl
  | append_singleton calls c ih =>
    rw [foldl_append, foldl_cons, foldl_nil, tally,
      filter_addTo p _ _ _ (tallied_foldl calls).texts, ih, filter_append]
    cases hc : p (.text c.query) <;> simp [hc, tally]

/-! ## Outcomes -/

/-- An outcome whose rate and grade are those of its counts. -/
def Outcome.Fits (threshold : Value) (o : Outcome) : Prop :=
  Number.divInt o.triggers o.runs = .ok o.rate ∧
    passes o.shouldTrigger.truthy threshold o.rate = .ok o.pass

theorem Outcome.eq_of_fits {o o' : Outcome} (h : o.Fits threshold) (h' : o'.Fits threshold)
    (hquery : o.query = o'.query) (hwanted : o.shouldTrigger = o'.shouldTrigger)
    (hruns : o.runs = o'.runs) (htriggers : o.triggers = o'.triggers) : o = o' := by
  obtain ⟨hrate, hpass⟩ := h
  obtain ⟨hrate', hpass'⟩ := h'
  rw [htriggers, hruns, hrate'] at hrate
  have hsame := Except.ok.inj hrate
  rw [hwanted, ← hsame, hpass'] at hpass
  cases o
  cases o'
  simp_all

theorem judge_eq_ok {o : Outcome} :
    judge threshold g = .ok o ↔
      o.query = g.query ∧ g.item.entry "should_trigger" = .ok o.shouldTrigger ∧
      o.triggers = g.triggers.count true ∧ o.runs = g.triggers.length ∧ o.Fits threshold := by
  have hcount : (g.triggers.filter id).length = g.triggers.count true := by
    rw [count, countP_eq_length_filter]
    congr 2
    funext b
    cases b <;> rfl
  unfold judge Outcome.Fits
  rw [hcount]
  simp only [Result.bind_eq_ok, Result.pure_eq, Except.ok.injEq]
  constructor
  · rintro ⟨rate, hrate, wanted, hwanted, pass, hpass, rfl⟩
    exact ⟨rfl, hwanted, rfl, rfl, hrate, hpass⟩
  · rintro ⟨hquery, hwanted, htriggers, hruns, hrate, hpass⟩
    rw [htriggers, hruns] at hrate
    cases o
    simp_all

theorem before_of_numbers {a b : Value} {m n : Number} (ha : Number.ofValue? a = some m)
    (hb : Number.ofValue? b = some n) : Value.before a b = .ok (m.lessThan n) := by
  unfold Value.before
  split
  case h_6 => rw [ha, hb]
  all_goals simp [Number.ofValue?] at ha

theorem passes_ok {t : Number} (ht : Number.ofValue? threshold = some t) (wanted : Bool)
    (rate : Float) : ∃ pass, passes wanted threshold rate = .ok pass := by
  have hrate : Number.ofValue? (.float rate) = some (.float rate) := rfl
  cases wanted with
  | true => exact ⟨_, by rw [passes, before_of_numbers ht hrate]; rfl⟩
  | false => exact ⟨_, by rw [passes, if_neg (by simp), before_of_numbers hrate ht]⟩

theorem exists_judge {t : Number} (ht : Number.ofValue? threshold = some t) {wanted : Value}
    (hwanted : g.item.entry "should_trigger" = .ok wanted) (hruns : g.triggers ≠ []) :
    ∃ o, judge threshold g = .ok o := by
  have hpos : 0 < g.triggers.length := length_pos_iff.mpr hruns
  obtain ⟨rate, hrate, -⟩ := Number.divInt_of_le (count_le_length (a := true)) hpos
  obtain ⟨pass, hpass⟩ := passes_ok ht wanted.truthy rate
  exact ⟨⟨g.query, wanted, rate, g.triggers.count true, g.triggers.length, pass⟩,
    judge_eq_ok.mpr ⟨rfl, hwanted, rfl, rfl, hrate, hpass⟩⟩

/-- Outcomes that are settled by the calls: one for each query, with the numbers of its calls and
of those that triggered. -/
structure Judged (threshold : Value) (calls : List Call) (outcomes : List Outcome) : Prop where
  distinct : (outcomes.map (·.query)).Nodup
  counted : ∀ o ∈ outcomes, ∃ q, o.query = .text q ∧
    o.runs = calls.countP (·.query = q) ∧
    o.triggers = calls.countP (fun c => c.query = q ∧ c.verdict.hit) ∧
    (∃ c ∈ calls, c.query = q ∧ c.item.entry "should_trigger" = .ok o.shouldTrigger) ∧
    o.Fits threshold
  complete : ∀ c ∈ calls, ∃ o ∈ outcomes, o.query = .text c.query

theorem Tallied.judged {outcomes : List Outcome} (h : Tallied calls groups)
    (houtcomes : groups.mapM (judge threshold) = .ok outcomes) :
    Judged threshold calls outcomes := by
  have hqueries : outcomes.map (·.query) = groups.map (·.query) :=
    Result.map_eq_of_mapM houtcomes fun g _ o ho => (judge_eq_ok.mp ho).1
  refine ⟨by rw [hqueries]; exact h.distinct, ?_, ?_⟩
  · intro o ho
    obtain ⟨g, hg, hjudge⟩ := Result.exists_of_mem_mapM houtcomes ho
    obtain ⟨hquery, hwanted, htriggers, hruns, hfits⟩ := judge_eq_ok.mp hjudge
    obtain ⟨q, hq, hcalls, c, hc, hcq, hitem⟩ := h.grouped g hg
    refine ⟨q, by rw [hquery, hq], ?_, ?_, ⟨c, hc, hcq, by rw [← hitem, hwanted]⟩, hfits⟩
    · rw [hruns, hcalls, length_map, countP_eq_length_filter]
    · rw [htriggers, hcalls, count, countP_map, countP_filter]
      congr 1
      simp [Bool.and_comm]
  · intro c hc
    obtain ⟨g, hg, hquery⟩ := h.complete c hc
    obtain ⟨o, ho, hjudge⟩ := Result.exists_mem_of_mapM houtcomes hg
    exact ⟨o, ho, by rw [(judge_eq_ok.mp hjudge).1, hquery]⟩

theorem Judged.perm {calls' : List Call} {outcomes : List Outcome}
    (h : Judged threshold calls outcomes) (hperm : calls.Perm calls') :
    Judged threshold calls' outcomes := by
  refine ⟨h.distinct, ?_, ?_⟩
  · intro o ho
    obtain ⟨q, hq, hruns, htriggers, ⟨c, hc, hwanted⟩, hfits⟩ := h.counted o ho
    refine ⟨q, hq, ?_, ?_, ⟨c, hperm.mem_iff.mp hc, hwanted⟩, hfits⟩
    · rw [hruns, hperm.countP_eq]
    · rw [htriggers, hperm.countP_eq]
  · intro c hc
    exact h.complete c (hperm.mem_iff.mpr hc)

/-- Calls settle their outcomes up to order, if those of one query agree on what is wanted. -/
theorem Judged.outcomes_perm {xs ys : List Outcome} (hxs : Judged threshold calls xs)
    (hys : Judged threshold calls ys) (hagree : ∀ c ∈ calls, ∀ c' ∈ calls, c.query = c'.query →
      c.item.entry "should_trigger" = c'.item.entry "should_trigger") : xs.Perm ys := by
  have hsub : ∀ {xs ys}, Judged threshold calls xs → Judged threshold calls ys → xs ⊆ ys := by
    intro xs ys hxs hys o ho
    obtain ⟨q, hq, hruns, htriggers, ⟨c, hc, hcq, hwanted⟩, hfits⟩ := hxs.counted o ho
    obtain ⟨o', ho', hquery⟩ := hys.complete c hc
    obtain ⟨q', hq', hruns', htriggers', ⟨c', hc', hcq', hwanted'⟩, hfits'⟩ := hys.counted o' ho'
    obtain rfl : q' = q := by simpa [hq', hcq] using hquery
    have hsame : o' = o := by
      refine Outcome.eq_of_fits hfits' hfits (by rw [hq, hq']) ?_ (by rw [hruns, hruns'])
        (by rw [htriggers, htriggers'])
      have := hagree c hc c' hc' (by rw [hcq, hcq'])
      rw [hwanted, hwanted'] at this
      exact (Except.ok.inj this).symm
    rwa [← hsame]
  have hxs' : xs.Nodup := Nodup.of_map _ hxs.distinct
  have hys' : ys.Nodup := Nodup.of_map _ hys.distinct
  exact (perm_ext_iff_of_nodup hxs' hys').mpr fun o => ⟨@hsub _ _ hxs hys o, @hsub _ _ hys hxs o⟩

end Trigger

end SkillKit
