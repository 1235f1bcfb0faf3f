/-
The life cycle of the provider. It waits, with at most one completion outstanding, until the first
completion without an error; from then on it runs, with its one server listening and its one
registration, whatever the path changes, restarts and further completions.
-/
import VpnSs.Tunnel.Provider

namespace VpnSs.Tunnel.Provider

open VpnSs.Swift VpnSs.NEKit VpnSs.Except

variable {Path : Type} (api : NWPathApi Path) {os : OS} {load : Text → Except Text Yaml}

/-! ## The two phases -/

/-- Before the first successful completion. -/
structure Waiting (s : Provider Path) : Prop where
  started : s.started = false
  proxyPort : s.process.proxyPort.isSome
  lastPath : s.lastPath = none
  created : s.created = 0
  listening : s.listening = []
  observers : s.observers = 0
  settings : s.settings ≤ 1
  scheduled : s.scheduled = 0

/-- After it. -/
structure Running (s : Provider Path) : Prop where
  started : s.started = true
  proxyServer : s.proxyServer = some 0
  created : s.created = 1
  listening : s.listening = [0]
  observers : s.observers = 1

def Inv (s : Provider Path) : Prop := s.exited = true ∨ s.Waiting ∨ s.Running

/-! ## Observations -/

/-- An observation changes the last path or schedules a restart, and nothing else. -/
theorem observeValue_eq (s : Provider Path) : ∃ lastPath scheduled,
    observeValue api s = { s with lastPath, scheduled } := by
  unfold observeValue
  split
  · split
    · exact ⟨s.defaultPath, s.scheduled, rfl⟩
    · exact ⟨s.lastPath, s.scheduled + 1, rfl⟩
  · exact ⟨s.defaultPath, s.scheduled, rfl⟩

theorem observeValue_of_lastPath_none {s : Provider Path} (h : s.lastPath = none) :
    observeValue api s = { s with lastPath := s.defaultPath } := by
  unfold observeValue
  rw [h]
  split <;> rfl

theorem Running.observeValue {s : Provider Path} (h : s.Running) : (s.observeValue api).Running := by
  obtain ⟨lastPath, scheduled, hs⟩ := observeValue_eq api s
  rw [hs]
  exact ⟨h.started, h.proxyServer, h.created, h.listening, h.observers⟩

/-! ## Completions -/

/-- The first completion without an error starts the server and observes the path; it schedules no
restart. -/
theorem Waiting.settingsCompleted {s : Provider Path} (h : s.Waiting) : ∃ s',
    s.settingsCompleted api false = .ok s' ∧ s'.Running ∧ s'.scheduled = 0 := by
  obtain ⟨port, hport⟩ := Option.isSome_iff_exists.1 h.proxyPort
  have hfirst : s.firstStart api = .ok { s with
      proxyServer := some 0, created := 1, listening := [0], observers := 1, lastPath := s.defaultPath } := by
    simp only [firstStart, hport, unwrap_some, ok_bind, startServer, h.listening, if_true, forceTry_ok, pure_eq_ok,
      addObserver, h.created, h.observers]
    -- `lastPath` is nil, so that `.initial` schedules no restart
    rw [observeValue_of_lastPath_none]
    exact h.lastPath
  have hdone : s.settingsCompleted api false = .ok { s with
      proxyServer := some 0, created := 1, listening := [0], observers := 1, lastPath := s.defaultPath,
      started := true } := by
    simp only [Provider.settingsCompleted, h.started, Bool.not_false, if_true, Bool.false_eq_true, if_false, hfirst,
      ok_bind, pure_eq_ok]
  exact ⟨_, hdone, ⟨rfl, rfl, rfl, rfl, rfl⟩, h.scheduled⟩

/-- A restart finds the server, releases the port and listens again. -/
theorem Running.restart {s : Provider Path} (h : s.Running) : s.restart = .ok s := by
  -- the one server listens alone, so its stop frees the port
  have hstop : (s.stopServer 0).listening = [] := by simp [stopServer, h.listening]
  simp only [Provider.restart, h.proxyServer, unwrap_some, ok_bind, startServer, hstop, if_true, forceTry_ok]
  rw [stopServer, ← h.listening]

theorem Running.settingsCompleted {s : Provider Path} (h : s.Running) (error : Bool) :
    s.settingsCompleted api error = .ok s := by
  cases error with
  | true => rfl
  | false =>
    simp only [Provider.settingsCompleted, h.started, Bool.not_true, Bool.false_eq_true, if_false, h.restart, ok_bind,
      pure_eq_ok]
    rw [← h.started]

theorem settingsCompleted_ok {s : Provider Path} (h : s.Waiting ∨ s.Running) (error : Bool) : ∃ s',
    s.settingsCompleted api error = .ok s' := by
  rcases h with h | h
  · cases error with
    | true => exact ⟨s, rfl⟩
    | false =>
      obtain ⟨s', hs', -⟩ := h.settingsCompleted api
      exact ⟨s', hs'⟩
  · exact ⟨s, h.settingsCompleted api error⟩

/-! ## Steps -/

/-- `startTunnel` asks for the settings once more; no other field of the provider changes. -/
theorem startTunnel_ok {providerConfiguration : Option Dictionary} {s s' : Provider Path}
    (h : s.startTunnel os load providerConfiguration = .ok s') :
    ∃ process, process.proxyPort.isSome ∧ s' = { s with process, settings := s.settings + 1 } := by
  obtain ⟨process, -, h⟩ := bind_eq_ok.1 h
  obtain ⟨port, hport, h⟩ := bind_eq_ok.1 h
  exact ⟨process, by rw [unwrap_ok.1 hport]; rfl, (Except.ok.inj h).symm⟩

theorem stopTunnel_eq (s : Provider Path) : s.stopTunnel.scheduled = s.scheduled ∧ s.stopTunnel.exited = true := by
  unfold Provider.stopTunnel
  split
  · exact ⟨rfl, rfl⟩
  · exact ⟨rfl, rfl⟩

/-- A step from the waiting phase schedules no restart and leads to the waiting phase again, to the
running phase, or to the end of the process. -/
theorem Waiting.step {api : NWPathApi Path} {s s' : Provider Path} {e : Event Path} (h : s.Waiting)
    (hs : s.step api os load e = some s') : s'.scheduled = 0 ∧ s'.Inv := by
  unfold Provider.step at hs
  split at hs
  · cases hs
  cases e with
  | pathChange path =>
    -- no observer is registered yet, so nobody is told
    have hnone : (observeValue api)^[s.observers] = id := by rw [h.observers]; rfl
    simp only [hnone] at hs
    cases hs
    exact ⟨h.scheduled, .inr (.inl ⟨h.started, h.proxyPort, h.lastPath, h.created, h.listening, h.observers,
      h.settings, h.scheduled⟩)⟩
  | fire providerConfiguration => simp [h.scheduled] at hs
  | settingsCompleted error =>
    obtain ⟨hpos, hs⟩ := Option.ite_none_right_eq_some.1 hs
    rw [toOption_eq_some] at hs
    have hw : Waiting { s with settings := s.settings - 1 } :=
      ⟨h.started, h.proxyPort, h.lastPath, h.created, h.listening, h.observers,
        Nat.le_trans (Nat.sub_le ..) h.settings, h.scheduled⟩
    cases error with
    | true => cases hs; exact ⟨h.scheduled, .inr (.inl hw)⟩
    | false =>
      obtain ⟨t, ht, hr, hn⟩ := hw.settingsCompleted api
      rw [ht] at hs
      cases hs
      exact ⟨hn, .inr (.inr hr)⟩
  | stopTunnel =>
    cases hs
    obtain ⟨hn, hx⟩ := stopTunnel_eq s
    exact ⟨hn.trans h.scheduled, .inl hx⟩

theorem Running.step {api : NWPathApi Path} {s s' : Provider Path} {e : Event Path} (h : s.Running)
    (hs : s.step api os load e = some s') : s'.exited = true ∨ s'.Running := by
  unfold Provider.step at hs
  split at hs
  · cases hs
  cases e with
  | pathChange path =>
    have hone : (Provider.observeValue api)^[s.observers] = Provider.observeValue api := by rw [h.observers]; rfl
    simp only [hone] at hs
    cases hs
    have hr : Running { s with defaultPath := path } := ⟨h.started, h.proxyServer, h.created, h.listening, h.observers⟩
    exact .inr (hr.observeValue api)
  | fire providerConfiguration =>
    obtain ⟨-, hs⟩ := Option.ite_none_right_eq_some.1 hs
    obtain ⟨process, -, rfl⟩ := startTunnel_ok (toOption_eq_some.1 hs)
    exact .inr ⟨h.started, h.proxyServer, h.created, h.listening, h.observers⟩
  | settingsCompleted error =>
    obtain ⟨-, hs⟩ := Option.ite_none_right_eq_some.1 hs
    have hr : Running { s with settings := s.settings - 1 } :=
      ⟨h.started, h.proxyServer, h.created, h.listening, h.observers⟩
    rw [hr.settingsCompleted api error] at hs
    cases hs
    exact .inr hr
  | stopTunnel => cases hs; exact .inl (stopTunnel_eq s).2

theorem step_inv {api : NWPathApi Path} {s s' : Provider Path} {e : Event Path} (h : s.Inv)
    (hs : s.step api os load e = some s') : s'.Inv := by
  rcases h with h | h | h
  · simp [Provider.step, h] at hs
  · exact (h.step hs).2
  · rcases h.step hs with h' | h'
    · exact .inl h'
    · exact .inr (.inr h')

/-- The system's `startTunnel` leads to the waiting phase. -/
theorem waiting_of_startTunnel {defaultPath : Option Path} {providerConfiguration : Option Dictionary}
    {s : Provider Path} (h : (initial defaultPath).startTunnel os load providerConfiguration = .ok s) : s.Waiting := by
  obtain ⟨process, hport, rfl⟩ := startTunnel_ok h
  exact ⟨rfl, hport, rfl, rfl, rfl, rfl, Nat.le_refl 1, rfl⟩

/-! ## Every run -/

/-- What holds in every state before the stop: one server at most, one socket, one registration; no
restart is requested before the first successful completion, nor by it; no completion traps, and
a restart finds the server and starts it on a free port. -/
structure Sound (api : NWPathApi Path) (os : OS) (load : Text → Except Text Yaml) (s : Provider Path) : Prop where
  created : s.created ≤ 1
  listening : s.listening.length ≤ 1
  observers : s.observers ≤ 1
  scheduled : s.started = false → s.scheduled = 0 ∧
    ∀ e s', s.step api os load e = some s' → s'.scheduled = 0
  settingsCompleted : ∀ error, ∃ s', s.settingsCompleted api error = .ok s'
  restart : s.started = true → ∃ server, s.proxyServer = some server ∧ (s.stopServer server).listening = []

theorem lifecycle_sound {api : NWPathApi Path} {defaultPath : Option Path} {providerConfiguration : Option Dictionary}
    {s₀ s : Provider Path} {es : List (Event Path)}
    (hstart : (initial defaultPath).startTunnel os load providerConfiguration = .ok s₀)
    (hrun : Lts.run (Provider.step api os load) s₀ es = some s) (hlive : s.exited = false) :
    s.Sound api os load := by
  have hinv : s.Inv := Lts.run_invariant (fun _ _ _ h hs => step_inv h hs)
    (.inr (.inl (waiting_of_startTunnel hstart))) hrun
  have hphase : s.Waiting ∨ s.Running := by
    rcases hinv with h | h
    · rw [hlive] at h; cases h
    · exact h
  have hok := fun error => settingsCompleted_ok api hphase error
  rcases hphase with h | h
  · refine ⟨by have := h.created; omega, by simp [h.listening], by have := h.observers; omega, ?_, hok, ?_⟩
    · intro _
      exact ⟨h.scheduled, fun e s' hs => (h.step hs).1⟩
    · intro hst
      rw [h.started] at hst; cases hst
  · refine ⟨by have := h.created; omega, by simp [h.listening], by have := h.observers; omega, ?_, hok, ?_⟩
    · intro hst
      rw [h.started] at hst; cases hst
    · intro _
      exact ⟨0, h.proxyServer, by simp [stopServer, h.listening]⟩

/-- A document without rules, on a satisfied path. -/
def sampleLoad (_ : Text) : Except Text Yaml := .ok (.dictionary [(.string (text "rule"), .array [])])

/-- The settings are completed, the path changes, and the scheduled restart fires. -/
def sampleEvents : List (Event Nat) :=
  [.settingsCompleted false, .pathChange (some 2), .fire (some sampleConfiguration)]

theorem lifecycle_sound_sample : ∃ s₀ s,
    (initial (some 1)).startTunnel sampleOS sampleLoad (some sampleConfiguration) = .ok s₀ ∧
      Lts.run (Provider.step .numbered sampleOS sampleLoad) s₀ sampleEvents = some s ∧
      s.Sound .numbered sampleOS sampleLoad :=
  ⟨_, _, rfl, rfl, @lifecycle_sound Nat sampleOS sampleLoad .numbered (some 1) (some sampleConfiguration) _ _
    sampleEvents rfl rfl rfl⟩

end VpnSs.Tunnel.Provider
