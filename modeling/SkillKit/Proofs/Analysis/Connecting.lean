import SkillKit.Analysis.Request
import SkillKit.Proofs.Files.Named

/-!
# Kernels that could not be connected

A request that starts a kernel first leads up to it and then connects it to a warehouse
(`perform_of_lead`).  Where the connection fails, `start` and `exec` stop the kernel, so that its file
is gone.  `restart` leaves it as it is, and so do all three when connecting ends in a fault.
-/

namespace SkillKit

open Act

variable {up path : List String} {host host' : Host} {t : Tree} {name : String}

theorem Tree.absent_or_removable (h : t.isDirAt path = .ok false) :
    t.exists? path = .ok false ∨
      ∃ t', t.exists? path = .ok true ∧ t.removeFile path = .ok t' := by
  unfold isDirAt at h
  unfold exists?
  cases hfind : t.find path with
  | ok u =>
    obtain ⟨names, hfollow⟩ := find_eq_ok.mp hfind
    rw [hfind] at h
    have hu : u.isDir = false := Except.ok.inj h
    refine .inr ⟨remove names t, rfl, ?_⟩
    rw [removeFile, hfollow]
    exact if_neg (by simp [hu])
  | error f =>
    rw [hfind] at h
    cases f with
    | system s => cases h
    | _ => exact .inl rfl

theorem Host.exists?_of_ground (h : host'.ground = host.ground) {p : Path} :
    host'.files.exists? (host'.locate p) = host.files.exists? (host.locate p) := by
  obtain ⟨hfiles, hdirectory⟩ := Prod.mk.inj h
  rw [locate, locate, hfiles, hdirectory]

/-! ## Stopping a kernel -/

theorem Tree.exists?_of_isDirAt (h : t.isDirAt path = .ok true) : t.exists? path = .ok true := by
  unfold isDirAt at h
  unfold exists?
  split at h
  · rfl
  · cases h
  · cases h

namespace Kernel

theorem keeps_step (s : KernelStep) (fault : Option String) :
    Keeps Host.ground (Peer.step s fault) := by
  intro host
  cases fault <;> rfl

theorem keeps_next : Keeps Host.ground Peer.next := by
  intro host
  unfold Peer.next
  rw [exec_bind_ok (exec_get host)]
  cases host.peers <;> rfl

theorem keeps_connect (k : Kernel) : Keeps Host.ground k.connect :=
  keeps_next.bind fun _ => (keeps_step _ _).bind fun _ => (keeps_step _ _).bind fun _ => .pure _

theorem keeps_listen (peer : Peer) (timeout : Value) : Keeps Host.ground (listen peer timeout) := by
  refine .bind (fun host => rfl) fun now => (Keeps.ofExcept _).bind fun limit => ?_
  intro host
  rfl

theorem keeps_execute (k : Kernel) (code : String) (timeout : Value) :
    Keeps Host.ground (k.execute code timeout) := by
  refine (Keeps.pathExists _).bind fun there => .ite (.pure _) (k.keeps_connect.bind fun peer =>
    (Keeps.result (keeps_step _ _)).bind fun ready => ?_)
  cases ready with
  | error f => exact (keeps_step _ _).bind fun _ => .pure _
  | ok _ =>
    exact (keeps_step _ _).bind fun _ => (keeps_listen _ _).bind fun _ =>
      (keeps_step _ _).bind fun _ => .ofExcept _

theorem exec_stop {k : Kernel} (hplace : host.locate k.connection = up ++ [name])
    (hname : name ≠ "..") (hdir : host.files.isDirAt (up ++ [name]) = .ok false) :
    ∃ host', exec k.stop host = (.ok ⟨⟩, host') ∧
      host'.files.exists? (host'.locate k.connection) = .ok false := by
  obtain hnone | ⟨files, hsome, hremove⟩ := Tree.absent_or_removable hdir
  · unfold stop
    rw [exec_bind_ok (by rw [exec_pathExists, hplace, hnone])]
    exact ⟨_, rfl, hplace ▸ hnone⟩
  · unfold stop
    rw [exec_bind_ok (by rw [exec_pathExists, hplace, hsome])]
    simp only [Bool.not_true, Bool.false_eq_true, if_false]
    rw [exec_bind_ok (exec_result _ host)]
    have hdisk := (k.keeps_connect.bind fun peer =>
      (keeps_step .shutdown peer.shutdownFault).bind fun _ =>
        keeps_step .stopChannels peer.stopFault) host
    unfold Peer.shutdown Peer.stop
    generalize (exec _ host).2 = host₁ at hdisk ⊢
    obtain ⟨hfiles, hdirectory⟩ := Prod.mk.inj hdisk
    have hplace₁ : host₁.locate k.connection = up ++ [name] := by
      rw [← hplace, Host.locate, hdirectory, Host.locate]
    rw [exec_bind_ok (by rw [exec_pathExists, hplace₁, hfiles, hsome])]
    simp only [if_true]
    have hgone : exec (removeFile k.connection) host₁ = (.ok ⟨⟩, { host₁ with files }) := by
      rw [removeFile, exec_bind_ok (exec_get host₁), hplace₁]
      exact exec_changeFiles_ok (hfiles ▸ hremove)
    rw [exec_bind_ok hgone]
    exact ⟨_, rfl, hplace₁ ▸ Tree.exists?_of_removeFile hname hremove⟩

theorem exec_isRunning_of_absent {k : Kernel}
    (h : host.files.exists? (host.locate k.connection) = .ok false) :
    exec k.isRunning host = (.ok false, host) := by
  rw [isRunning, exec_bind_ok (by rw [exec_pathExists, h])]
  rfl

/-! ## Starting a kernel -/

theorem keeps_answers (k : Kernel) : Keeps Host.ground k.answers :=
  k.keeps_connect.bind fun _ => (Keeps.result (keeps_step _ _)).bind fun _ =>
    (keeps_step _ _).bind fun _ => .pure _

theorem keeps_isRunning (k : Kernel) : Keeps Host.ground k.isRunning := by
  refine (Keeps.pathExists _).bind fun there => .ite (.pure _)
    ((Keeps.result k.keeps_answers).bind fun r => ?_)
  cases r with
  | ok b => exact .pure b
  | error f => exact .pure false

theorem exists?_of_isRunning {k : Kernel} (h : exec k.isRunning host = (.ok true, host')) :
    host.files.exists? (host.locate k.connection) = .ok true := by
  obtain ⟨there, _, hthere, h⟩ := of_exec_bind_ok h
  cases there with
  | false => cases h
  | true =>
    rw [exec_pathExists] at hthere
    exact congrArg Prod.fst hthere

theorem exists?_of_copyFile {source target : Path}
    (h : exec (copyFile source target) host = (.ok ⟨⟩, host')) :
    host'.files.exists? (host'.locate target) = .ok true := by
  obtain ⟨content, _, hread, h⟩ := of_exec_bind_ok h
  rw [exec_readBytes] at hread
  obtain rfl := (Prod.mk.inj hread).2
  obtain ⟨isDir, _, hisDir, h⟩ := of_exec_bind_ok h
  rw [exec_isDir] at hisDir
  obtain ⟨hdir, rfl⟩ := Prod.mk.inj hisDir
  cases isDir with
  | true =>
    obtain ⟨_, _, hget, h⟩ := of_exec_bind_ok h
    cases hget
    obtain ⟨files, hwrite, rfl⟩ := of_exec_changeFiles_ok h
    exact Tree.exists?_of_isDirAt (Tree.isDirAt_of_writeBytes hwrite hdir)
  | false =>
    obtain ⟨_, _, hget, h⟩ := of_exec_bind_ok h
    cases hget
    obtain ⟨files, hwrite, rfl⟩ := of_exec_changeFiles_ok h
    change files.exists? (host.locate target) = .ok true
    rcases List.eq_nil_or_concat' (host.locate target) with hplace | ⟨up, name, hplace⟩
    · rw [hplace] at hwrite
      cases hwrite
    · rw [hplace] at hwrite ⊢
      rw [Tree.exists?, Tree.find_of_writeBytes hwrite]

theorem ground_of_awaitStart {k : Kernel} (h : exec k.awaitStart host = (.ok ⟨⟩, host')) :
    host'.ground = host.ground := by
  obtain ⟨peer, _, hnext, h⟩ := of_exec_bind_ok h
  obtain ⟨_, _, hstart, h⟩ := of_exec_bind_ok h
  obtain ⟨r, _, hresult, h⟩ := of_exec_bind_ok h
  obtain ⟨_, _, hstop, h⟩ := of_exec_bind_ok h
  rw [exec_ofExcept] at h
  obtain ⟨rfl, rfl⟩ := Prod.mk.inj h
  rw [exec_result] at hresult
  obtain ⟨hok, hhost⟩ := Prod.mk.inj hresult
  obtain ⟨ready, _, hready, hcame⟩ := of_exec_bind_ok (Prod.ext (Except.ok.inj hok) hhost)
  have hkept := (Keeps.result (keeps_step _ _)).of_ok hready
  cases ready with
  | error f =>
    -- a kernel that did not come up is stopped, and then that is told
    obtain ⟨_, _, -, hthrow⟩ := of_exec_bind_ok hcame
    cases hthrow
  | ok _ =>
    cases hcame
    rw [(keeps_step _ _).of_ok hstop, hkept, (keeps_step _ _).of_ok hstart, keeps_next.of_ok hnext]

theorem exists?_of_start {k : Kernel} {vars : Fields} {extra : List String} {started : Host}
    (h : exec (k.start vars extra) host = (.ok ⟨⟩, started)) :
    started.files.exists? (started.locate k.connection) = .ok true := by
  obtain ⟨running, host₁, hrunning, h⟩ := of_exec_bind_ok h
  cases running with
  | true =>
    obtain ⟨_, host₂, hprint, h⟩ := of_exec_bind_ok h
    cases hprint
    cases h
    exact (Host.exists?_of_ground (k.keeps_isRunning.of_ok hrunning)).trans (exists?_of_isRunning hrunning)
  | false =>
    obtain ⟨_, _, -, h⟩ := of_exec_bind_ok h
    obtain ⟨_, _, -, h⟩ := of_exec_bind_ok h
    obtain ⟨_, _, -, h⟩ := of_exec_bind_ok h
    obtain ⟨_, _, -, h⟩ := of_exec_bind_ok h
    obtain ⟨_, _, -, h⟩ := of_exec_bind_ok h
    obtain ⟨_, _, -, h⟩ := of_exec_bind_ok h
    obtain ⟨_, copied, hcopy, h⟩ := of_exec_bind_ok h
    obtain ⟨_, awaited, hawait, h⟩ := of_exec_bind_ok h
    obtain ⟨_, met, hmet, h⟩ := of_exec_bind_ok h
    obtain ⟨_, watched, hwatch, h⟩ := of_exec_bind_ok h
    cases h
    have hground : watched.ground = copied.ground := by
      rw [(keeps_step _ _).of_ok hwatch, keeps_next.of_ok hmet, ground_of_awaitStart hawait]
    exact (Host.exists?_of_ground hground).trans (exists?_of_copyFile hcopy)

end Kernel

/-! ## Requests that start a kernel -/

namespace Analysis

open Console (echo complain)

/-- What a request does before it starts a kernel and connects it; nothing is found for a request
that does not come to that. -/
def lead (service : Service) : Request → Act (Option (Runner × Connector))
  | .start warehouse => do
    if !(← hasInstaller) then return none
    let k ← service.runner
    if ← k.isRunning then return none
    let (name, c) ← chooseWarehouse service warehouse
    echo s!"Using warehouse: {name.display}"
    return some (k, c)
  | .execute _ _ => do
    let k ← service.runner
    if ← k.isRunning then return none
    if !(← hasInstaller) then return none
    let (name, c) ← chooseWarehouse service none
    complain s!"Starting kernel with: {name.display}"
    return some (k, c)
  | .restart => do
    let k ← service.runner
    k.stop
    let (name, c) ← chooseWarehouse service none
    echo s!"Restarting kernel with: {name.display}"
    return some (k, c)
  | _ => return none

def finish (k : Runner) (c : Connector) : Request → Act Nat
  | .start _ => do
    let r ← startConnected k c
    if !r.success then
      complainConnection r
      k.stop
      return 1
    echo r.output
    return 0
  | .execute code timeout => do
    let connect : Act Bool := do
      let r ← startConnected k c
      complainOutput r
      if !r.success then
        complainConnection r
        k.stop
      return r.success
    match ← Act.result connect with
    | .ok true => runCode k code timeout
    | .ok false => return 1
    | .error f =>
      complain s!"Error starting kernel: {f.message}"
      return 1
  | _ => do
    let connect : Act Bool := do
      let r ← startConnected k c
      if !r.output.isEmpty then echo r.output
      if !r.success then complainConnection r
      return r.success
    match ← Act.result connect with
    | .ok done => return if done then 0 else 1
    | .error f =>
      complain s!"Error: {f.message}"
      return 1

theorem perform_of_lead {service : Service} {request : Request} {k : Runner} {c : Connector}
    {ready : Host} (h : exec (lead service request) host = (.ok (some (k, c)), ready)) :
    exec (request.perform service) host = exec (finish k c request) ready := by
  cases request with
  | start warehouse =>
    obtain ⟨installer, _, hinstaller, h⟩ := of_exec_bind_ok h
    cases installer with
    | false => cases h
    | true =>
      obtain ⟨_, _, hrunner, h⟩ := of_exec_bind_ok h
      obtain ⟨running, _, hrunning, h⟩ := of_exec_bind_ok h
      cases running with
      | true => cases h
      | false =>
        obtain ⟨⟨name, _⟩, _, hchoice, h⟩ := of_exec_bind_ok h
        obtain ⟨_, _, hecho, h⟩ := of_exec_bind_ok h
        cases h
        change exec (start service warehouse) host = _
        unfold start
        rw [exec_bind_ok hinstaller]
        simp only [Bool.not_true, Bool.false_eq_true, if_false]
        rw [exec_bind_ok hrunner, exec_bind_ok hrunning]
        simp only [Bool.false_eq_true, if_false]
        rw [exec_bind_ok (a := .ok c) (by
          rw [exec_result, exec_bind_ok hchoice, exec_bind_ok hecho, exec_pure])]
        rfl
  | execute code timeout =>
    obtain ⟨_, _, hrunner, h⟩ := of_exec_bind_ok h
    obtain ⟨running, _, hrunning, h⟩ := of_exec_bind_ok h
    cases running with
    | true => cases h
    | false =>
      obtain ⟨installer, host', hinstaller, h⟩ := of_exec_bind_ok h
      cases installer with
      | false => cases h
      | true =>
        obtain ⟨⟨name, _⟩, _, hchoice, h⟩ := of_exec_bind_ok h
        obtain ⟨_, _, hcomplain, h⟩ := of_exec_bind_ok h
        cases h
        change exec (execute service code timeout) host = _
        unfold execute
        rw [exec_bind_ok hrunner, exec_bind_ok hrunning]
        simp only [Bool.false_eq_true, if_false]
        rw [exec_bind_ok hinstaller]
        simp only [Bool.not_true, Bool.false_eq_true, if_false]
        rw [exec_bind_ok (exec_result _ _), autoStart, exec_bind_ok hchoice, exec_bind_ok hcomplain]
        rfl
  | restart =>
    obtain ⟨_, _, hrunner, h⟩ := of_exec_bind_ok h
    obtain ⟨_, _, hstop, h⟩ := of_exec_bind_ok h
    obtain ⟨⟨name, _⟩, _, hchoice, h⟩ := of_exec_bind_ok h
    obtain ⟨_, _, hecho, h⟩ := of_exec_bind_ok h
    cases h
    change exec (restart service) host = _
    unfold restart
    rw [exec_bind_ok hrunner, exec_bind_ok hstop, exec_bind_ok (exec_result _ _),
      exec_bind_ok hchoice, exec_bind_ok hecho]
    rfl
  | _ => cases h

theorem exec_complainOutput (r : Execution) (host : Host) :
    ∃ printed, exec (complainOutput r) host = (.ok ⟨⟩, { host with printed }) := by
  unfold complainOutput
  split
  · exact ⟨_, rfl⟩
  · exact ⟨_, rfl⟩

section Finish

variable {request : Request} {k : Kernel} {c : Connector} {ready started tried : Host}

theorem exec_startConnected {packages : List String} {code : String}
    {outcome : Except Fault Execution} (hpackages : c.packages = .ok packages)
    (hcode : c.connectionCode = .ok code)
    (hstart : exec (k.start c.kernelVariables packages) ready = (.ok ⟨⟩, started))
    (hexecute : exec (k.execute code connectTimeout) started = (outcome, tried)) :
    exec (startConnected (.ofKernel k) c) ready = (outcome, tried) := by
  have hstart' : exec ((Runner.ofKernel k).start c.kernelVariables packages) ready =
    (.ok ⟨⟩, started) := hstart
  unfold startConnected
  rw [hpackages, exec_bind_ok (exec_ofExcept (.ok packages) ready), exec_bind_ok hstart', hcode]
  exact hexecute

theorem exec_finish_error {f : Fault}
    (h : exec (startConnected (.ofKernel k) c) ready = (.error f, tried)) :
    ∃ ending host, exec (finish (.ofKernel k) c request) ready = (ending, host) ∧ ending ≠ .ok 0 ∧
      host.ground = tried.ground := by
  cases request with
  | start _ => exact ⟨.error f, tried, exec_bind_error h, nofun, rfl⟩
  | execute _ _ =>
    unfold finish
    rw [exec_bind_ok (exec_result _ _), exec_bind_error h]
    exact ⟨.ok 1, _, rfl, nofun, rfl⟩
  | _ =>
    unfold finish
    rw [exec_bind_ok (exec_result _ _), exec_bind_error h]
    exact ⟨.ok 1, _, rfl, nofun, rfl⟩

variable {r : Execution} (h : exec (startConnected (.ofKernel k) c) ready = (.ok r, tried))
  (hr : r.success = false)

include h hr

theorem exec_finish_restart :
    ∃ printed, exec (finish (.ofKernel k) c .restart) ready = (.ok 1, { tried with printed }) := by
  unfold finish
  rw [exec_bind_ok (exec_result _ _), exec_bind_ok h]
  cases hout : r.output.isEmpty with
  | true =>
    simp only [hr]
    exact ⟨_, rfl⟩
  | false =>
    simp only [hr]
    exact ⟨_, rfl⟩

theorem exec_finish_stop (hrequest : (∃ warehouse, request = .start warehouse) ∨
      ∃ code timeout, request = .execute code timeout)
    (hplace : tried.locate k.connection = up ++ [name]) (hname : name ≠ "..")
    (hdir : tried.files.isDirAt (up ++ [name]) = .ok false) :
    ∃ host, exec (finish (.ofKernel k) c request) ready = (.ok 1, host) ∧
      host.files.exists? (host.locate k.connection) = .ok false := by
  have hcomplain (host : Host) :
      ∃ printed, exec (complainConnection r) host = (.ok ⟨⟩, { host with printed }) := ⟨_, rfl⟩
  -- what was printed does not matter to the kernel that is stopped
  have hstop (printed : List (Channel × String)) :
      ∃ host, exec (Runner.ofKernel k).stop { tried with printed } = (.ok ⟨⟩, host) ∧
        host.files.exists? (host.locate k.connection) = .ok false :=
    @Kernel.exec_stop _ { tried with printed } _ k hplace hname hdir
  rcases hrequest with ⟨warehouse, rfl⟩ | ⟨code, timeout, rfl⟩
  · obtain ⟨printed, htold⟩ := hcomplain tried
    obtain ⟨host, hstopped, hgone⟩ := hstop printed
    refine ⟨host, ?_, hgone⟩
    unfold finish
    rw [exec_bind_ok h]
    simp only [hr, Bool.not_false, if_true]
    rw [exec_bind_ok htold, exec_bind_ok hstopped, exec_pure]
  · obtain ⟨printed, houtput⟩ := exec_complainOutput r tried
    obtain ⟨_, htold⟩ := hcomplain { tried with printed }
    obtain ⟨host, hstopped, hgone⟩ := hstop _
    refine ⟨host, ?_, hgone⟩
    unfold finish
    rw [exec_bind_ok (exec_result _ _), exec_bind_ok h, exec_bind_ok houtput]
    simp only [hr, Bool.not_false, if_true]
    rw [exec_bind_ok htold, exec_bind_ok hstopped]
    rfl

end Finish

/-- Let a request start a kernel that then cannot be connected.  The request fails.  If it is told
that the connection failed, `start` and `exec` stop the kernel, so that nobody takes it for one that
runs; a restart leaves it registered.  If the attempt to connect ends in a fault, all of them leave it
registered. -/
theorem perform_unconnected {service : Service} {request : Request} {k : Kernel} {c : Connector}
    {packages : List String} {code : String} {outcome : Except Fault Execution}
    {host ready started tried : Host} {up : List String} {name : String}
    (hlead : exec (lead service request) host = (.ok (some (.ofKernel k, c)), ready))
    (hpackages : c.packages = .ok packages) (hcode : c.connectionCode = .ok code)
    (hstart : exec (k.start c.kernelVariables packages) ready = (.ok ⟨⟩, started))
    (hexecute : exec (k.execute code connectTimeout) started = (outcome, tried))
    (hfailed : ∀ r, outcome = .ok r → r.success = false)
    (hplace : started.locate k.connection = up ++ [name]) (hname : name ≠ "..")
    (hdir : started.files.isDirAt (up ++ [name]) = .ok false) :
    ∃ ending host', exec (request.perform service) host = (ending, host') ∧ ending ≠ .ok 0 ∧
      (∀ r, outcome = .ok r → request ≠ .restart →
        host'.files.exists? (host'.locate k.connection) = .ok false ∧
          exec k.isRunning host' = (.ok false, host')) ∧
      ((∃ f, outcome = .error f) ∨ request = .restart →
        host'.ground = started.ground ∧
          host'.files.exists? (host'.locate k.connection) = .ok true) := by
  have hconnect := exec_startConnected hpackages hcode hstart hexecute
  have hthere := Kernel.exists?_of_start hstart
  have hground : tried.ground = started.ground := by
    rw [← k.keeps_execute code connectTimeout started, hexecute]
  rw [perform_of_lead hlead]
  cases outcome with
  | error f =>
    obtain ⟨ending, host', hfinish, hending, hkept⟩ := @exec_finish_error request _ _ _ _ _ hconnect
    have hkept' := hkept.trans hground
    exact ⟨ending, host', hfinish, hending, nofun,
      fun _ => ⟨hkept', (Host.exists?_of_ground hkept').trans hthere⟩⟩
  | ok r =>
    have hr := hfailed r rfl
    by_cases hrestart : request = .restart
    · subst hrestart
      obtain ⟨printed, hfinish⟩ := exec_finish_restart hconnect hr
      exact ⟨.ok 1, _, hfinish, nofun, fun _ _ hother => absurd rfl hother,
        fun _ => ⟨hground, (Host.exists?_of_ground hground).trans hthere⟩⟩
    · have hrequest : (∃ warehouse, request = .start warehouse) ∨
          ∃ code timeout, request = .execute code timeout := by
        cases request with
        | start warehouse => exact .inl ⟨warehouse, rfl⟩
        | execute code timeout => exact .inr ⟨code, timeout, rfl⟩
        | restart => exact absurd rfl hrestart
        | _ => cases hlead
      obtain ⟨hfiles, hdirectory⟩ := Prod.mk.inj hground
      have hplace' : tried.locate k.connection = up ++ [name] := by
        rw [← hplace, Host.locate, Host.locate, hdirectory]
      obtain ⟨host', hfinish, hgone⟩ :=
        exec_finish_stop hconnect hr hrequest hplace' hname (hfiles ▸ hdir)
      refine ⟨.ok 1, host', hfinish, nofun,
        fun _ _ _ => ⟨hgone, Kernel.exec_isRunning_of_absent hgone⟩, ?_⟩
      rintro (⟨f, hf⟩ | hrestart')
      · cases hf
      · exact absurd hrestart' hrestart

def sampleKernel : Kernel :=
  { directory := ⟨"/", ["venv"]⟩, connection := ⟨"/", ["agents", "kernel.json"]⟩ }

def sampleConnector : Connector :=
  .bigquery ⟨.text "p", .null, .null, .list [], .object []⟩

def sampleService : Service :=
  { runner := pure (.ofKernel sampleKernel), warehouses := pure ⟨[(.text "w", sampleConnector)]⟩ }

def samplePackages : List String := sampleConnector.packages.toOption.getD []

def sampleCode : String := sampleConnector.connectionCode.toOption.getD ""

/-- A host without files, after the kernel was started for a request. -/
def sampleStarted : Host :=
  (exec (sampleKernel.start sampleConnector.kernelVariables samplePackages)
    (exec (lead sampleService (.start none)) {}).2).2

/-- What connecting then comes to: the kernel never tells anything. -/
def sampleOutcome : Except Fault Execution :=
  (exec (sampleKernel.execute sampleCode connectTimeout) sampleStarted).1

theorem perform_unconnected_silent :
    sampleOutcome.toOption.map Execution.success = some false ∧
    ∃ ending host', exec (Request.perform sampleService (.start none)) {} = (ending, host') ∧
      ending ≠ .ok 0 ∧ host'.files.exists? (host'.locate sampleKernel.connection) = .ok false := by
  have hlead : exec (lead sampleService (.start none)) {} =
      (.ok (some (.ofKernel sampleKernel, sampleConnector)), _) := rfl
  have hpackages : sampleConnector.packages = .ok samplePackages :=
    Result.eq_ok_of_toOption (by decide +kernel)
  have hcode : sampleConnector.connectionCode = .ok sampleCode :=
    Result.eq_ok_of_toOption (by decide +kernel)
  have hstart : (exec (sampleKernel.start sampleConnector.kernelVariables samplePackages)
      (exec (lead sampleService (.start none)) {}).2).1 = .ok ⟨⟩ :=
    Result.eq_ok_of_toOption (by decide +kernel)
  have hsuccess : sampleOutcome.toOption.map Execution.success = some false := by decide +kernel
  obtain ⟨r, hr⟩ : ∃ r, sampleOutcome = .ok r := Result.exists_of_isSome (by decide +kernel)
  have hfailed : ∀ r', sampleOutcome = .ok r' → r'.success = false := by
    intro r' hr'
    rw [hr'] at hsuccess
    exact Option.some.inj hsuccess
  have hplace : sampleStarted.locate sampleKernel.connection = ["agents"] ++ ["kernel.json"] := by
    decide +kernel
  have hdir : sampleStarted.files.isDirAt (["agents"] ++ ["kernel.json"]) = .ok false :=
    Result.eq_ok_of_toOption (by decide +kernel)
  obtain ⟨ending, host', hperform, hending, hgone, -⟩ := perform_unconnected hlead hpackages hcode
    (Prod.ext hstart rfl) (Prod.ext rfl rfl) hfailed hplace (by decide) hdir
  exact ⟨hsuccess, ending, host', hperform, hending, (hgone r hr nofun).1⟩

/-- A restart leaves the kernel registered that could not be connected, and so does a start that a
broken connection ends. -/
theorem restart_unconnected :
    let broken : Host := { peers := [{}, {}, { executeFault := some "broken" }] }
    (exec (Request.perform sampleService .restart) {}).1.toOption = some 1 ∧
      ((exec (Request.perform sampleService .restart) {}).2.files.exists?
        ["agents", "kernel.json"]).toOption = some true ∧
      (exec (Request.perform sampleService (.start none)) broken).1.toOption = none ∧
      ((exec (Request.perform sampleService (.start none)) broken).2.files.exists?
        ["agents", "kernel.json"]).toOption = some true := by
  decide +kernel

end Analysis

end SkillKit
