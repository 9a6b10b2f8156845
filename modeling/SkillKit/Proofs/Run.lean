import SkillKit.Host
import Mathlib.Data.List.Forall2
import Mathlib.Tactic.Common

/-!
# Runs of actions

`exec` is what an action comes to on a host.  `Ensures P act Q` says what a run that succeeds comes
to, and `Keeps part act` what no run changes.

`InStep R Q a b` compares two runs: from hosts related by `R` both succeed with values related by
`Q`, or both fail for the same cause, and the hosts are related by `R` again.  Each way to put
actions together has a rule, so a relation that single steps keep is kept by whole runs.
-/

namespace SkillKit

open List

variable {α β γ δ : Type}
variable {host host' : Host} {f : Fault} {files : Tree} {p : Path}

/-! ## Results without a host -/

namespace Result

theorem bind_eq_ok {ε : Type} {r : Except ε α} {f : α → Except ε β} {b : β} :
    (r >>= f) = .ok b ↔ ∃ a, r = .ok a ∧ f a = .ok b := by
  cases r with
  | error e =>
    constructor
    · intro h
      cases h
    · rintro ⟨a, h, -⟩
      cases h
  | ok a =>
    constructor
    · intro h
      exact ⟨a, rfl, h⟩
    · rintro ⟨a', h, hf⟩
      cases h
      exact hf

@[simp] theorem ok_bind (a : α) (f : α → Except Fault β) : (Except.ok a >>= f) = f a := rfl

@[simp] theorem error_bind (e : Fault) (f : α → Except Fault β) :
    (Except.error e >>= f) = .error e := rfl

@[simp] theorem pure_eq (a : α) : (pure a : Except Fault α) = .ok a := rfl

@[simp] theorem throw_eq (e : Fault) : (throw e : Except Fault α) = .error e := rfl

@[simp] theorem map_ok (f : α → β) (a : α) : (f <$> (.ok a : Except Fault α)) = .ok (f a) := rfl

@[simp] theorem map_error (f : α → β) (e : Fault) :
    (f <$> (.error e : Except Fault α)) = .error e := rfl

theorem exists_of_isSome {r : Except Fault α} (h : r.toOption.isSome = true) :
    ∃ a, r = .ok a := by
  cases r with
  | error e => cases h
  | ok a => exact ⟨a, rfl⟩

theorem eq_ok_of_toOption {r : Except Fault α} {a : α} (h : r.toOption = some a) : r = .ok a := by
  cases r with
  | error e => cases h
  | ok b => exact congrArg _ (Option.some.inj h)

section Lists

variable {f : α → Except Fault β} {xs : List α} {ys : List β}

theorem mapM_eq_ok : xs.mapM f = .ok ys ↔ Forall₂ (fun x y => f x = .ok y) xs ys := by
  induction xs generalizing ys with
  | nil =>
    rw [forall₂_nil_left_iff]
    constructor
    · intro h
      cases h
      rfl
    · rintro rfl
      rfl
  | cons x rest ih =>
    rw [mapM_cons, bind_eq_ok]
    constructor
    · rintro ⟨y, hy, h⟩
      obtain ⟨ys', hys', h⟩ := bind_eq_ok.mp h
      cases h
      exact .cons hy (ih.mp hys')
    · intro h
      cases h with
      | cons hy hrest => exact ⟨_, hy, bind_eq_ok.mpr ⟨_, ih.mpr hrest, rfl⟩⟩

theorem exists_of_forall₂ {R : α → β → Prop} {x : α} (h : Forall₂ R xs ys) (hx : x ∈ xs) :
    ∃ y ∈ ys, R x y := by
  induction h with
  | nil => cases hx
  | cons hfirst _ ih =>
    rcases mem_cons.mp hx with rfl | hx
    · exact ⟨_, mem_cons_self, hfirst⟩
    · obtain ⟨y, hy, hxy⟩ := ih hx
      exact ⟨y, mem_cons_of_mem _ hy, hxy⟩

theorem exists_of_mem_mapM {y : β} (h : xs.mapM f = .ok ys) (hy : y ∈ ys) :
    ∃ x ∈ xs, f x = .ok y :=
  exists_of_forall₂ (mapM_eq_ok.mp h).flip hy

theorem exists_mem_of_mapM {x : α} (h : xs.mapM f = .ok ys) (hx : x ∈ xs) :
    ∃ y ∈ ys, f x = .ok y :=
  exists_of_forall₂ (mapM_eq_ok.mp h) hx

theorem map_eq_of_mapM {p : α → γ} {q : β → γ} (h : xs.mapM f = .ok ys)
    (hf : ∀ x ∈ xs, ∀ y, f x = .ok y → q y = p x) : ys.map q = xs.map p := by
  induction mapM_eq_ok.mp h with
  | nil => rfl
  | cons hfirst _ ih =>
    rename_i hrest
    rw [map_cons, map_cons, hf _ mem_cons_self _ hfirst,
      ih (mapM_eq_ok.mpr hrest) fun x hx => hf x (mem_cons_of_mem _ hx)]

theorem mapM_filter {p : α → Bool} {q : β → Bool} (h : xs.mapM f = .ok ys)
    (hpq : ∀ x ∈ xs, ∀ y, f x = .ok y → q y = p x) : (xs.filter p).mapM f = .ok (ys.filter q) := by
  induction mapM_eq_ok.mp h with
  | nil => rfl
  | @cons x y xs ys hfirst hrest ih =>
    have hpick := hpq x mem_cons_self y hfirst
    have hothers := ih (mapM_eq_ok.mpr hrest) fun x' hx' => hpq x' (mem_cons_of_mem _ hx')
    cases hx : p x with
    | true => simp [hx, hpick, hfirst, hothers]
    | false => simp [hx, hpick, hothers]

theorem exists_mapM (h : ∀ x ∈ xs, ∃ y, f x = .ok y) : ∃ ys, xs.mapM f = .ok ys := by
  induction xs with
  | nil => exact ⟨[], rfl⟩
  | cons x rest ih =>
    obtain ⟨y, hy⟩ := h x mem_cons_self
    obtain ⟨ys, hys⟩ := ih fun x' hx' => h x' (mem_cons_of_mem _ hx')
    exact ⟨y :: ys, by rw [mapM_cons, hy, hys]; rfl⟩

theorem mapM_ok_map {g : α → β} (h : ∀ x ∈ xs, f x = .ok (g x)) : xs.mapM f = .ok (xs.map g) := by
  rw [mapM_eq_ok, forall₂_map_right_iff]
  exact forall₂_same.mpr h

theorem filterM_map {f : α → β} {test : β → Except Fault Bool} {keep : α → Bool}
    (h : ∀ x ∈ xs, test (f x) = .ok (keep x)) :
    (xs.map f).filterM test = .ok ((xs.filter keep).map f) := by
  have haux : ∀ kept, filterAuxM test (xs.map f) kept =
      .ok (((xs.filter keep).map f).reverse ++ kept) := by
    induction xs with
    | nil => exact fun _ => rfl
    | cons x rest ih =>
      intro kept
      rw [map_cons, filterAuxM, h x mem_cons_self, ok_bind,
        ih fun x' hx' => h x' (mem_cons_of_mem _ hx')]
      cases hx : keep x <;> simp [hx]
  rw [filterM, haux, ok_bind, append_nil, reverse_reverse]
  rfl

theorem filterM_eq {test : α → Except Fault Bool} {keep : α → Bool}
    (h : ∀ x ∈ xs, test x = .ok (keep x)) : xs.filterM test = .ok (xs.filter keep) := by
  have hmap := filterM_map (f := id) h
  rwa [map_id, map_id] at hmap

theorem mapM_error_of_forall {e : Fault} (hne : xs ≠ []) (h : ∀ x ∈ xs, f x = .error e) :
    xs.mapM f = .error e := by
  cases xs with
  | nil => exact absurd rfl hne
  | cons x rest =>
    rw [mapM_cons, h x mem_cons_self]
    rfl

end Lists

end Result

namespace Act

/-- What an action comes to on a host, and the host that it leaves. -/
def exec (act : Act α) (host : Host) : Except Fault α × Host :=
  act.run.run host

/-! ## Single runs -/

@[simp] theorem exec_pure (a : α) (host : Host) : exec (pure a) host = (.ok a, host) := rfl

@[simp] theorem exec_throw (f : Fault) (host : Host) :
    exec (throw f : Act α) host = (.error f, host) := rfl

@[simp] theorem exec_get (host : Host) : exec get host = (.ok host, host) := rfl

@[simp] theorem exec_set (next host : Host) : exec (set next) host = (.ok ⟨⟩, next) := rfl

@[simp] theorem exec_modify (change : Host → Host) (host : Host) :
    exec (modify change) host = (.ok ⟨⟩, change host) := rfl

@[simp] theorem exec_record (event : Event) (host : Host) :
    exec (record event) host = (.ok ⟨⟩, { host with events := host.events ++ [event] }) := rfl

@[simp] theorem exec_ofExcept (r : Except Fault α) (host : Host) :
    exec (ofExcept r) host = (r, host) := by
  cases r <;> rfl

@[simp] theorem exec_now (host : Host) : exec now host = (.ok host.now, host) := rfl

variable {act : Act α} {next : α → Act β} {a : α}

theorem exec_bind_ok (h : exec act host = (.ok a, host')) :
    exec (act >>= next) host = exec (next a) host' := by
  have hrun : act.run.run host = (.ok a, host') := h
  unfold exec
  rw [ExceptT.run_bind, StateT.run_bind, hrun]
  rfl

theorem exec_bind_error (h : exec act host = (.error f, host')) :
    exec (act >>= next) host = (.error f, host') := by
  have hrun : act.run.run host = (.error f, host') := h
  unfold exec
  rw [ExceptT.run_bind, StateT.run_bind, hrun]
  rfl

theorem exec_bind (act : Act α) (next : α → Act β) (host : Host) :
    exec (act >>= next) host =
      match exec act host with
      | (.ok a, host') => exec (next a) host'
      | (.error f, host') => (.error f, host') := by
  cases hrun : exec act host with
  | mk r host' =>
    cases r with
    | ok a => exact exec_bind_ok hrun
    | error f => exact exec_bind_error hrun

theorem of_exec_bind_ok {host'' : Host} {b : β} (h : exec (act >>= next) host = (.ok b, host'')) :
    ∃ a host', exec act host = (.ok a, host') ∧ exec (next a) host' = (.ok b, host'') := by
  rw [exec_bind] at h
  cases hrun : exec act host with
  | mk r host' =>
    cases r with
    | ok a =>
      rw [hrun] at h
      exact ⟨a, host', rfl, h⟩
    | error f =>
      rw [hrun] at h
      simp at h

theorem exists_of_isSome {next : α → Except Fault β}
    (h : ((exec act host).1 >>= next).toOption.isSome = true) :
    ∃ a host' b, exec act host = (.ok a, host') ∧ next a = .ok b := by
  cases hrun : exec act host with
  | mk r host' =>
    rw [hrun] at h
    cases r with
    | error f => cases h
    | ok a =>
      cases hnext : next a with
      | error f =>
        rw [Result.ok_bind, hnext] at h
        cases h
      | ok b => exact ⟨a, host', b, rfl, hnext⟩

theorem exec_bind_congr {act' : Act α} {next' : α → Act β} (h : exec act host = exec act' host)
    (hnext : ∀ a host', exec act' host = (.ok a, host') →
      exec (next a) host' = exec (next' a) host') :
    exec (act >>= next) host = exec (act' >>= next') host := by
  rw [exec_bind, exec_bind, h]
  cases hrun : exec act' host with
  | mk r host' =>
    cases r with
    | ok a => exact hnext a host' hrun
    | error f => rfl

@[simp] theorem exec_map (f : α → β) (act : Act α) (host : Host) :
    exec (f <$> act) host = ((exec act host).1.map f, (exec act host).2) := by
  rw [map_eq_pure_bind, exec_bind]
  cases hrun : exec act host with
  | mk r host' => cases r <;> rfl

@[simp] theorem exec_result (act : Act α) (host : Host) :
    exec (result act) host = (.ok (exec act host).1, (exec act host).2) := rfl

theorem exec_mapM_ok {f : α → Act β} {xs : List α} {ys : List β}
    (h : Forall₂ (fun x y => exec (f x) host = (.ok y, host)) xs ys) :
    exec (xs.mapM f) host = (.ok ys, host) := by
  induction h with
  | nil => rfl
  | cons hfirst _ ih =>
    rw [mapM_cons, exec_bind_ok hfirst, exec_bind_ok ih]
    rfl

/-! ## Runs that only print -/

/-- The action succeeds with the value and changes nothing but what was printed. -/
def Prints (act : Act α) (a : α) : Prop :=
  ∀ host, ∃ printed, exec act host = (.ok a, { host with printed })

theorem Prints.pure (a : α) : Prints (pure a) a :=
  fun host => ⟨host.printed, rfl⟩

theorem Prints.printOn (channel : Channel) (s : String) : Prints (printOn channel s) ⟨⟩ :=
  fun host => ⟨host.printed ++ [(channel, s)], rfl⟩

theorem Prints.warnLine (s : String) : Prints (warnLine s) ⟨⟩ :=
  Prints.printOn _ _

theorem Prints.ofExcept {r : Except Fault α} (h : r = .ok a) : Prints (ofExcept r) a :=
  fun host => ⟨host.printed, by rw [exec_ofExcept, h]⟩

theorem Prints.bind {b : β} (h : Prints act a) (hnext : Prints (next a) b) :
    Prints (act >>= next) b := by
  intro host
  obtain ⟨p, hp⟩ := h host
  obtain ⟨q, hq⟩ := hnext { host with printed := p }
  exact ⟨q, by rw [exec_bind_ok hp, hq]⟩

theorem Prints.exec_bind {P : Except Fault β × Host → Prop} (h : Prints act a)
    (hnext : ∀ printed, P (exec (next a) { host with printed })) :
    P (exec (act >>= next) host) := by
  obtain ⟨p, hp⟩ := h host
  rw [exec_bind_ok hp]
  exact hnext p

theorem Prints.forIn {xs : List α} {body : α → PUnit → Act (ForInStep PUnit)}
    (h : ∀ x ∈ xs, Prints (body x ⟨⟩) (.yield ⟨⟩)) : Prints (forIn xs PUnit.unit body) ⟨⟩ := by
  induction xs with
  | nil => exact Prints.pure _
  | cons x rest ih =>
    rw [forIn_cons]
    exact (h x mem_cons_self).bind (ih fun y hy => h y (mem_cons_of_mem _ hy))

theorem Prints.foldlM {step : β → α → Act β} {pureStep : β → α → β} {xs : List α}
    (h : ∀ b, ∀ x ∈ xs, Prints (step b x) (pureStep b x)) (b : β) :
    Prints (xs.foldlM step b) (xs.foldl pureStep b) := by
  induction xs generalizing b with
  | nil => exact Prints.pure _
  | cons x rest ih =>
    exact (h b x mem_cons_self).bind (ih (fun b y hy => h b y (mem_cons_of_mem _ hy)) _)

/-- On a host, the action comes to the result and changes nothing but what was printed. -/
def Tells (host : Host) (act : Act α) (r : Except Fault α) : Prop :=
  ∃ printed, exec act host = (r, { host with printed })

theorem Tells.of_exec {r : Except Fault α} (h : exec act host = (r, host)) : Tells host act r :=
  ⟨host.printed, h⟩

theorem Tells.bind {r : Except Fault β} (h : Tells host act (.ok a))
    (hnext : ∀ printed, Tells { host with printed } (next a) r) : Tells host (act >>= next) r := by
  obtain ⟨p, hp⟩ := h
  obtain ⟨q, hq⟩ := hnext p
  exact ⟨q, by rw [exec_bind_ok hp, hq]⟩

theorem Tells.bind_error (h : Tells host act (.error f)) :
    Tells host (act >>= next) (.error f) := by
  obtain ⟨p, hp⟩ := h
  exact ⟨p, exec_bind_error hp⟩

theorem Tells.printLine (host : Host) (s : String) : Tells host (printLine s) (.ok ⟨⟩) :=
  Prints.printOn _ _ host

/-! ## Runs that only work on files -/

/-- What the action comes to is settled by the files and the directory, and it changes nothing
but the files. -/
def OnFiles (act : Act α) : Prop :=
  ∀ files directory, ∃ r files', ∀ host : Host, host.files = files → host.directory = directory →
    exec act host = (r, { host with files := files' })

theorem OnFiles.pure (a : α) : OnFiles (pure a) := by
  intro files directory
  refine ⟨.ok a, files, ?_⟩
  rintro host rfl -
  rfl

theorem OnFiles.bind (h : OnFiles act) (hnext : ∀ a, OnFiles (next a)) :
    OnFiles (act >>= next) := by
  intro files directory
  obtain ⟨r, files', hr⟩ := h files directory
  cases r with
  | error f => exact ⟨.error f, files', fun host hf hd => exec_bind_error (hr host hf hd)⟩
  | ok a =>
    obtain ⟨r', files'', hr'⟩ := hnext a files' directory
    refine ⟨r', files'', fun host hf hd => ?_⟩
    rw [exec_bind_ok (hr host hf hd)]
    exact hr' { host with files := files' } rfl hd

theorem OnFiles.look (read : Tree → List String → Except Fault α) (p : Path) :
    OnFiles (do let host ← get; ofExcept (read host.files (host.locate p))) := by
  intro files directory
  refine ⟨read files (directory.join p).parts, files, ?_⟩
  rintro host rfl rfl
  rw [exec_bind_ok (exec_get host), exec_ofExcept]
  rfl

theorem exec_changeFiles_ok {change : Tree → Except Fault Tree} (h : change host.files = .ok files) :
    exec (changeFiles change) host = (.ok ⟨⟩, { host with files }) := by
  rw [changeFiles, exec_bind_ok (exec_get host), h]
  rfl

theorem exec_changeFiles_error {change : Tree → Except Fault Tree}
    (h : change host.files = .error f) : exec (changeFiles change) host = (.error f, host) := by
  rw [changeFiles, exec_bind_ok (exec_get host), h, exec_bind_error (exec_ofExcept (.error f) host)]

theorem of_exec_changeFiles_ok {change : Tree → Except Fault Tree} {u : Unit}
    (h : exec (changeFiles change) host = (.ok u, host')) :
    ∃ files, change host.files = .ok files ∧ host' = { host with files } := by
  cases hc : change host.files with
  | ok files =>
    rw [exec_changeFiles_ok hc] at h
    exact ⟨files, rfl, (Prod.mk.inj h).2.symm⟩
  | error f =>
    rw [exec_changeFiles_error hc] at h
    cases h

theorem exec_pathExists (p : Path) (host : Host) :
    exec (pathExists p) host = (host.files.exists? (host.locate p), host) := by
  rw [pathExists, exec_bind_ok (exec_get host), exec_ofExcept]

theorem exec_readText (p : Path) (host : Host) :
    exec (readText p) host = (host.files.readText (host.locate p), host) := by
  rw [readText, exec_bind_ok (exec_get host), exec_ofExcept]

theorem exec_readBytes (p : Path) (host : Host) :
    exec (readBytes p) host = (host.files.readBytes (host.locate p), host) := by
  rw [readBytes, exec_bind_ok (exec_get host), exec_ofExcept]

theorem exec_isDir (p : Path) (host : Host) :
    exec (isDir p) host = (host.files.isDirAt (host.locate p), host) := by
  rw [isDir, exec_bind_ok (exec_get host), exec_ofExcept]

theorem exec_listDir (p : Path) (host : Host) :
    exec (listDir p) host = (host.files.entriesAt (host.locate p), host) := by
  rw [listDir, exec_bind_ok (exec_get host), exec_ofExcept]

theorem exec_makeDirs_ok (h : host.files.makeDirs (host.locate p) = .ok files) :
    exec (makeDirs p) host = (.ok ⟨⟩, { host with files }) := by
  rw [makeDirs, exec_bind_ok (exec_get host)]
  exact exec_changeFiles_ok h

theorem exec_writeText_ok {s : String} (h : host.files.writeText (host.locate p) s = .ok files) :
    exec (writeText p s) host = (.ok ⟨⟩, { host with files }) := by
  rw [writeText, exec_bind_ok (exec_get host)]
  exact exec_changeFiles_ok h

theorem exec_makeDirs_error (h : host.files.makeDirs (host.locate p) = .error f) :
    exec (makeDirs p) host = (.error f, host) := by
  rw [makeDirs, exec_bind_ok (exec_get host)]
  exact exec_changeFiles_error h

theorem exec_writeText_error {s : String} (h : host.files.writeText (host.locate p) s = .error f) :
    exec (writeText p s) host = (.error f, host) := by
  rw [writeText, exec_bind_ok (exec_get host)]
  exact exec_changeFiles_error h

theorem OnFiles.change (change : Tree → List String → Except Fault Tree) (p : Path) :
    OnFiles (do let names := (← get).locate p; changeFiles (change · names)) := by
  intro files directory
  cases hc : change files (directory.join p).parts with
  | error f =>
    refine ⟨.error f, files, ?_⟩
    rintro host rfl rfl
    rw [exec_bind_ok (exec_get host)]
    exact exec_changeFiles_error hc
  | ok files' =>
    refine ⟨.ok ⟨⟩, files', ?_⟩
    rintro host rfl rfl
    rw [exec_bind_ok (exec_get host)]
    exact exec_changeFiles_ok hc

theorem OnFiles.pathExists (p : Path) : OnFiles (pathExists p) :=
  OnFiles.look Tree.exists? p

theorem OnFiles.readText (p : Path) : OnFiles (readText p) :=
  OnFiles.look Tree.readText p

theorem OnFiles.listDir (p : Path) : OnFiles (listDir p) :=
  OnFiles.look Tree.entriesAt p

theorem OnFiles.makeDirs (p : Path) : OnFiles (makeDirs p) :=
  OnFiles.change Tree.makeDirs p

theorem OnFiles.writeText (p : Path) (s : String) : OnFiles (writeText p s) :=
  OnFiles.change (fun files names => files.writeText names s) p

theorem OnFiles.removeFile (p : Path) : OnFiles (removeFile p) :=
  OnFiles.change Tree.removeFile p

theorem OnFiles.mapM {xs : List γ} {f : γ → Act α} (h : ∀ x, OnFiles (f x)) :
    OnFiles (xs.mapM f) := by
  induction xs with
  | nil => exact OnFiles.pure []
  | cons x rest ih =>
    rw [mapM_cons]
    exact (h x).bind fun a => ih.bind fun as => OnFiles.pure (a :: as)

/-! ## Runs that keep a part of the host -/

/-- The action leaves a part of the host as it is, whether it succeeds or fails. -/
def Keeps (part : Host → γ) (act : Act α) : Prop :=
  ∀ host, part (exec act host).2 = part host

section Keeps

variable {part : Host → γ}

theorem Keeps.pure (a : α) : Keeps part (pure a) :=
  fun _ => rfl

theorem Keeps.throw (f : Fault) : Keeps part (throw f : Act α) :=
  fun _ => rfl

theorem Keeps.ofExcept (r : Except Fault α) : Keeps part (ofExcept r) := by
  intro host
  rw [exec_ofExcept]

theorem Keeps.bind (h : Keeps part act) (hnext : ∀ a, Keeps part (next a)) :
    Keeps part (act >>= next) := by
  intro host
  have hact := h host
  rw [exec_bind]
  cases hrun : exec act host with
  | mk r host' =>
    rw [hrun] at hact
    cases r with
    | ok a => exact (hnext a host').trans hact
    | error f => exact hact

theorem Keeps.of_ok (h : Keeps part act) (hrun : exec act host = (.ok a, host')) :
    part host' = part host := by
  rw [← h host, hrun]

theorem Keeps.result (h : Keeps part act) : Keeps part (result act) := by
  intro host
  exact h host

theorem Keeps.pathExists (p : Path) : Keeps part (pathExists p) := by
  intro host
  rw [exec_pathExists]

theorem Keeps.readText (p : Path) : Keeps part (readText p) := by
  intro host
  rw [exec_readText]

theorem Keeps.readBytes (p : Path) : Keeps part (readBytes p) := by
  intro host
  rw [exec_readBytes]

theorem Keeps.listDir (p : Path) : Keeps part (listDir p) := by
  intro host
  rw [exec_listDir]

theorem Keeps.ite {c : Prop} [Decidable c] {act' : Act α} (h : Keeps part act)
    (h' : Keeps part act') : Keeps part (if c then act else act') := by
  split
  · exact h
  · exact h'

theorem Keeps.printLine (hpart : ∀ host printed, part { host with printed } = part host)
    (s : String) : Keeps part (printLine s) :=
  fun _ => hpart _ _

theorem Prints.keeps (h : Prints act a)
    (hpart : ∀ host printed, part { host with printed } = part host) : Keeps part act := by
  intro host
  obtain ⟨printed, hrun⟩ := h host
  rw [hrun, hpart]

theorem OnFiles.keeps (h : OnFiles act)
    (hpart : ∀ host files, part { host with files } = part host) : Keeps part act := by
  intro host
  obtain ⟨r, files, hrun⟩ := h host.files host.directory
  rw [hrun host rfl rfl, hpart]

theorem Keeps.mapM {xs : List δ} {f : δ → Act α} (h : ∀ x ∈ xs, Keeps part (f x)) :
    Keeps part (xs.mapM f) := by
  induction xs with
  | nil => exact Keeps.pure []
  | cons x rest ih =>
    rw [mapM_cons]
    exact (h x mem_cons_self).bind fun a =>
      (ih fun y hy => h y (mem_cons_of_mem _ hy)).bind fun as => Keeps.pure (a :: as)

theorem Keeps.forall₂_mapM {xs : List δ} {f : δ → Act α} {ys : List α}
    (h : ∀ x ∈ xs, Keeps part (f x)) (hrun : exec (xs.mapM f) host = (.ok ys, host')) :
    Forall₂ (fun x y => ∃ host₁ host₂, part host₁ = part host ∧
      exec (f x) host₁ = (.ok y, host₂)) xs ys := by
  induction xs generalizing host ys with
  | nil =>
    cases hrun
    exact .nil
  | cons x rest ih =>
    rw [mapM_cons] at hrun
    obtain ⟨y, host₁, hfirst, hrun⟩ := of_exec_bind_ok hrun
    obtain ⟨more, host₂, hrest, hrun⟩ := of_exec_bind_ok hrun
    cases hrun
    have hpart := (h x mem_cons_self).of_ok hfirst
    have hothers := ih (fun x' hx' => h x' (mem_cons_of_mem _ hx')) hrest
    rw [hpart] at hothers
    exact .cons ⟨host, host₁, rfl, hfirst⟩ hothers

theorem Keeps.foldlM {xs : List δ} {step : β → δ → Act β} (h : ∀ b x, Keeps part (step b x))
    (b : β) : Keeps part (xs.foldlM step b) := by
  induction xs generalizing b with
  | nil => exact Keeps.pure b
  | cons x rest ih =>
    exact (h b x).bind ih

theorem Keeps.forIn {xs : List δ} {body : δ → β → Act (ForInStep β)}
    (h : ∀ x b, Keeps part (body x b)) (b : β) : Keeps part (forIn xs b body) := by
  induction xs generalizing b with
  | nil => exact Keeps.pure b
  | cons x rest ih =>
    rw [forIn_cons]
    refine (h x b).bind fun next => ?_
    cases next with
    | done b => exact Keeps.pure b
    | yield b => exact ih b

end Keeps

/-! ## What a run that succeeds ensures -/

/-- From every host with `P`, a run that succeeds ends with a value and a host that fit `Q`. -/
def Ensures (P : Host → Prop) (act : Act α) (Q : α → Host → Prop) : Prop :=
  ∀ host a host', P host → exec act host = (.ok a, host') → Q a host'

section Ensures

variable {P : Host → Prop} {Q : α → Host → Prop} {R : β → Host → Prop}

theorem Ensures.throw (f : Fault) : Ensures P (throw f) Q := by
  intro host a host' _ hrun
  cases hrun

theorem Ensures.ofExcept {r : Except Fault α} (h : ∀ a host, r = .ok a → P host → Q a host) :
    Ensures P (ofExcept r) Q := by
  intro host a host' hP hrun
  rw [exec_ofExcept] at hrun
  cases hrun
  exact h a host rfl hP

theorem Ensures.get {Q : Host → Host → Prop} (h : ∀ host, P host → Q host host) :
    Ensures P get Q := by
  intro host a host' hP hrun
  cases hrun
  exact h host hP

theorem Ensures.bind {act : Act β} {next : β → Act α} (h : Ensures P act R)
    (hnext : ∀ b, Ensures (R b) (next b) Q) : Ensures P (act >>= next) Q := by
  intro host a host'' hP hrun
  obtain ⟨b, host', hact, hrest⟩ := of_exec_bind_ok hrun
  exact hnext b host' a host'' (h host b host' hP hact) hrest

theorem Ensures.after {act : Act β} {next : β → Act α}
    (hnext : ∀ b, Ensures (fun _ => True) (next b) Q) : Ensures P (act >>= next) Q :=
  Ensures.bind (R := fun _ _ => True) (fun _ _ _ _ _ => trivial) hnext

theorem Ensures.guard {c : Prop} [Decidable c] {next : Unit → Act α} (h : Ensures P (next ()) Q) :
    Ensures P (if c then (MonadExcept.throw f : Act Unit) >>= next else next ()) Q := by
  split
  · exact Ensures.bind (R := fun _ _ => False) (Ensures.throw f) fun _ _ _ _ hP => hP.elim
  · exact h

end Ensures

/-! ## Two runs in step -/

/-- Two runs that end alike: both with values related by `Q`, or both for the same cause. -/
inductive EndAlike (R : Host → Host → Prop) (Q : α → β → Prop) :
    Except Fault α × Host → Except Fault β × Host → Prop
  | ok {a : α} {b : β} {h k : Host} (values : Q a b) (hosts : R h k) :
      EndAlike R Q (.ok a, h) (.ok b, k)
  | error {f : Fault} {h k : Host} (hosts : R h k) : EndAlike R Q (.error f, h) (.error f, k)

theorem EndAlike.mono {R R' : Host → Host → Prop} {Q Q' : α → β → Prop}
    {x : Except Fault α × Host} {y : Except Fault β × Host} (h : EndAlike R Q x y)
    (hQ : ∀ a b, Q a b → Q' a b) (hR : ∀ host host', R host host' → R' host host') :
    EndAlike R' Q' x y := by
  cases h with
  | ok values hosts => exact .ok (hQ _ _ values) (hR _ _ hosts)
  | error hosts => exact .error (hR _ _ hosts)

/-- From related hosts the two actions end alike. -/
def InStep (R : Host → Host → Prop) (Q : α → β → Prop) (act : Act α) (act' : Act β) : Prop :=
  ∀ h k, R h k → EndAlike R Q (exec act h) (exec act' k)

section InStep

variable {R : Host → Host → Prop} {Q : α → β → Prop}

theorem InStep.pure {b : β} (h : Q a b) : InStep R Q (pure a) (pure b) :=
  fun _ _ hR => .ok h hR

theorem InStep.throw (f : Fault) : InStep R Q (throw f) (throw f) :=
  fun _ _ hR => .error hR

theorem InStep.bind {P : γ → δ → Prop} {act : Act γ} {act' : Act δ} {next : γ → Act α}
    {next' : δ → Act β} (h : InStep R P act act')
    (hnext : ∀ x y, P x y → InStep R Q (next x) (next' y)) :
    InStep R Q (act >>= next) (act' >>= next') := by
  intro host host' hR
  have hfirst := h host host' hR
  rw [exec_bind, exec_bind]
  cases hrun : exec act host with
  | mk r k =>
    cases hrun' : exec act' host' with
    | mk r' k' =>
      rw [hrun, hrun'] at hfirst
      cases hfirst with
      | ok values hosts => exact hnext _ _ values _ _ hosts
      | error hosts => exact .error hosts

theorem InStep.mono {Q' : α → β → Prop} {act' : Act β} (h : InStep R Q act act')
    (hQ : ∀ a b, Q a b → Q' a b) : InStep R Q' act act' :=
  fun host host' hR => (h host host' hR).mono hQ fun _ _ => id

theorem InStep.ofExcept {r : Except Fault α} {r' : Except Fault β}
    (h : (∃ a b, r = .ok a ∧ r' = .ok b ∧ Q a b) ∨ ∃ f, r = .error f ∧ r' = .error f) :
    InStep R Q (ofExcept r) (ofExcept r') := by
  intro host host' hR
  rcases h with ⟨a, b, rfl, rfl, hQ⟩ | ⟨f, rfl, rfl⟩
  · exact .ok hQ hR
  · exact .error hR

theorem InStep.ofExcept_refl (r : Except Fault α) :
    InStep R Eq (Act.ofExcept r) (Act.ofExcept r) :=
  InStep.ofExcept (by cases r <;> simp)

theorem Prints.inStep {act' : Act β} {b : β}
    (hR : ∀ h k p q, R h k → R { h with printed := p } { k with printed := q }) (h : Prints act a)
    (h' : Prints act' b) (hQ : Q a b) : InStep R Q act act' := by
  intro host host' hhosts
  obtain ⟨p, hp⟩ := h host
  obtain ⟨q, hq⟩ := h' host'
  rw [hp, hq]
  exact .ok hQ (hR _ _ _ _ hhosts)

end InStep

end Act

end SkillKit
