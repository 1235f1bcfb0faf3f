/-
What `connect(with:)` leaves in the preferences. With several managers stored the removals of
duplicates take the manager in use along, so that one profile is left exactly when its save is
carried out after its removal. With one manager stored the last requested config wins, in every
order of loads, and the tunnel reads back its fields.
-/
import VpnSs.Lead.VPNManager
import VpnSs.Tunnel.Compile

namespace VpnSs.Lead

open VpnSs.Swift

/-! ## The tunnel's side -/

/-- The cipher of the same name. -/
def Crypto.algorithm : Crypto → NEKit.CryptoAlgorithm
  | .AES128CFB => .AES128CFB
  | .AES192CFB => .AES192CFB
  | .AES256CFB => .AES256CFB
  | .CHACHA20 => .CHACHA20
  | .SALSA20 => .SALSA20
  | .RC4MD5 => .RC4MD5

theorem cryptoAlgorithm_rawValue (crypto : Crypto) :
    Tunnel.cryptoAlgorithm crypto.rawValue = .ok crypto.algorithm := by
  cases crypto <;> rfl

/-- The server a config stands for. -/
def Config.server (config : Config) : NEKit.ShadowsocksAdapterFactory :=
  { serverHost := config.address
    serverPort := config.port
    password := config.password
    algorithm := config.crypto.algorithm }

/-- `startTunnel` reads back the fields of the config. -/
theorem readConfiguration_asDict (ruleConf : Text) (config : Config) :
    Tunnel.readConfiguration (config.asDict ruleConf) = .ok config.server := by
  show (Tunnel.cryptoAlgorithm config.crypto.rawValue >>= fun algorithm =>
    Except.ok (NEKit.ShadowsocksAdapterFactory.mk config.address config.port config.password algorithm)) = _
  rw [cryptoAlgorithm_rawValue]; rfl

namespace VPNManager

section Duplicates

variable {ruleConf : Text}

/-! ## Carrying out removals and saves -/

/-- The preferences after calls that all succeed, in order. -/
def carriedOut (p : Preferences) (ops : List Task) : Preferences := ops.foldl (fun p t => preferencesAfter p t true) p

theorem carriedOut_append (p : Preferences) (l₁ l₂ : List Task) :
    carriedOut p (l₁ ++ l₂) = carriedOut (carriedOut p l₁) l₂ := List.foldl_append

theorem step_complete {v v' : VPNManager} {t : Task} {ok : Bool} (ht : t ∈ v.tasks)
    (hs : { v with tasks := v.tasks.erase t }.complete ruleConf t ok = some v') :
    step ruleConf v (.complete t ok) = some v' := by
  rw [step, if_pos ht, hs]

/-- Outstanding removals and saves can be carried out in any order; each changes the preferences and
starts no other write. -/
theorem run_writes {v : VPNManager} {ops rest : List Task} (hperm : v.tasks.Perm (ops ++ rest))
    (hw : ∀ t ∈ ops, t.IsWrite) : ∃ v',
    Lts.run (step ruleConf) v (ops.map fun t => .complete t true) = some v' ∧
      v'.preferences = carriedOut v.preferences ops := by
  induction ops generalizing v rest with
  | nil => exact ⟨v, rfl, rfl⟩
  | cons t ops ih =>
    obtain ⟨hwt, hwops⟩ := List.forall_mem_cons.1 hw
    have ht : t ∈ v.tasks := hperm.symm.subset (List.mem_append_left _ (List.mem_cons_self ..))
    have herase : (v.tasks.erase t).Perm (ops ++ rest) := by
      have h := hperm.erase t
      rwa [List.cons_append, List.erase_cons_head] at h
    have hstep : ∃ v₁ rest', step ruleConf v (.complete t true) = some v₁ ∧ v₁.tasks.Perm (ops ++ rest') ∧
        v₁.preferences = preferencesAfter v.preferences t true := by
      cases t with
      | remove ident => exact ⟨_, rest, step_complete ht rfl, herase, rfl⟩
      | save manager =>
        -- the completion of a save starts a load, which is no write
        refine ⟨_, rest ++ [.load manager], step_complete ht rfl, ?_, rfl⟩
        rw [← List.append_assoc]
        exact herase.append_right _
      | loadAll load => exact hwt.elim
      | load manager => exact hwt.elim
    obtain ⟨v₁, rest', hs, hperm', hp⟩ := hstep
    obtain ⟨v', hrun, hv'⟩ := ih hperm' hwops
    exact ⟨v', Lts.run_cons_some.2 ⟨v₁, hs, hrun⟩, by rw [hv', hp]; rfl⟩

/-! ## Duplicates -/

theorem issued_isWrite (v : VPNManager) (config : Config) : ∀ t ∈ issued ruleConf v config, t.IsWrite := by
  intro t ht
  rcases List.mem_append.1 ht with ht | ht
  · unfold removals at ht
    split at ht
    · obtain ⟨m, -, rfl⟩ := List.mem_map.1 ht; trivial
    · exact absurd ht List.not_mem_nil
  · rw [List.mem_singleton.1 ht]; trivial

/-- `connect` and the completion of its load start the issued writes. -/
theorem run_connect (ruleConf : Text) (v : VPNManager) (config : Config) : ∃ v',
    Lts.run (step ruleConf) v [.connect config, .complete (.loadAll .connect) true] = some v' ∧
      v'.preferences = v.preferences ∧ v'.tasks.Perm (issued ruleConf v config ++ v.tasks) := by
  have ht : Task.loadAll .connect ∈ (v.connect config).tasks := List.mem_append_right _ (List.mem_singleton_self _)
  have herase : ((v.connect config).tasks.erase (.loadAll .connect)).Perm v.tasks := by
    have hcomm : (v.connect config).tasks.Perm ([.loadAll .connect] ++ v.tasks) := List.perm_append_comm
    have h := hcomm.erase (.loadAll .connect)
    rwa [List.singleton_append, List.erase_cons_head] at h
  obtain ⟨n, h⟩ := loadAndCreateProviderManager_eq ruleConf
    { v.connect config with tasks := (v.connect config).tasks.erase (.loadAll .connect) } config
  exact ⟨_, Lts.run_cons_some.2 ⟨_, rfl, Lts.run_cons_some.2 ⟨_, step_complete ht (congrArg some h), rfl⟩⟩, rfl,
    (herase.append_right _).trans List.perm_append_comm⟩

/-- Removals alone filter the entries. -/
theorem managers_carriedOut_removes {p : Preferences} {ops : List Task}
    (h : ∀ t ∈ ops, ∃ ident, t = .remove ident) :
    (carriedOut p ops).managers = p.managers.filter fun m => .remove m.ident ∉ ops := by
  induction ops generalizing p with
  | nil => simp [carriedOut]
  | cons t ops ih =>
    obtain ⟨⟨ident, rfl⟩, hops⟩ := List.forall_mem_cons.1 h
    show (carriedOut (p.remove ident) ops).managers = _
    rw [ih hops, Preferences.managers_remove, List.filter_filter]
    apply List.filter_congr
    intro m _
    by_cases hm : m.ident = ident <;> simp [hm]

/-- The save comes after the removal. -/
def After (save remove : Task) (ops : List Task) : Prop := ∃ l₁ l₂, ops = l₁ ++ save :: l₂ ∧ remove ∈ l₁

/-- Removals of all managers around a save leave the saved manager if its removal came first, and
nothing if it came last. -/
theorem managers_around_save {p : Preferences} {manager : NETunnelProviderManager} {l₁ l₂ : List Task}
    (h₁ : ∀ t ∈ l₁, ∃ ident, t = .remove ident) (h₂ : ∀ t ∈ l₂, ∃ ident, t = .remove ident)
    (hall : ∀ m ∈ p.managers, .remove m.ident ∈ l₁ ∨ .remove m.ident ∈ l₂)
    (hmem : manager.ident ∈ p.managers.map NETunnelProviderManager.ident)
    (hdisj : .remove manager.ident ∈ l₁ → .remove manager.ident ∉ l₂) :
    (carriedOut p (l₁ ++ .save manager :: l₂)).managers =
      if .remove manager.ident ∈ l₁ then [manager] else [] := by
  have hp₁ := managers_carriedOut_removes (p := p) h₁
  have hsave : carriedOut p (l₁ ++ .save manager :: l₂) = carriedOut ((carriedOut p l₁).save manager) l₂ := by
    rw [carriedOut_append]; rfl
  rw [hsave, managers_carriedOut_removes h₂]
  by_cases hr : .remove manager.ident ∈ l₁
  · -- the entry is gone when the save creates it again, and no removal of it is left
    have hno : manager.ident ∉ (carriedOut p l₁).managers.map NETunnelProviderManager.ident := by
      rw [hp₁]
      intro hm
      obtain ⟨m, hm, he⟩ := List.mem_map.1 hm
      have hm := (List.mem_filter.1 hm).2
      rw [he] at hm
      simp [hr] at hm
    rw [Preferences.managers_save_of_not_mem hno, List.filter_append, hp₁, List.filter_filter, if_pos hr]
    have hgone : p.managers.filter (fun m => decide (.remove m.ident ∉ l₂) && decide (.remove m.ident ∉ l₁)) = [] := by
      rw [List.filter_eq_nil_iff]
      intro m hm
      have := hall m hm
      simp only [Bool.and_eq_true, decide_eq_true_eq]
      tauto
    rw [hgone, List.nil_append, List.filter_cons_of_pos (by simpa using hdisj hr), List.filter_nil]
  · -- the save writes the entry that a later removal deletes
    have hin : manager.ident ∈ (carriedOut p l₁).managers.map NETunnelProviderManager.ident := by
      obtain ⟨m, hm, he⟩ := List.mem_map.1 hmem
      rw [hp₁]
      exact List.mem_map.2 ⟨m, List.mem_filter.2 ⟨hm, by simpa [he] using hr⟩, he⟩
    rw [if_neg hr, Preferences.managers_save_of_mem hin, List.filter_eq_nil_iff]
    intro m hm
    obtain ⟨x, hx, rfl⟩ := List.mem_map.1 hm
    rw [hp₁] at hx
    obtain ⟨hx, hx₁⟩ := List.mem_filter.1 hx
    have hid : (if x.ident = manager.ident then manager else x).ident = x.ident := by
      split
      · rename_i he; exact he.symm
      · rfl
    rw [hid]
    simpa using (hall x hx).resolve_left (by simpa using hx₁)

/-- The removals of several managers are those of their entries, each once. -/
theorem removals_of_lt {p : Preferences} (h : 1 < p.managers.length) :
    (removals p.managers).Nodup ∧ ∀ t, t ∈ removals p.managers ↔ ∃ m ∈ p.managers, t = .remove m.ident := by
  have hmap : removals p.managers = (p.managers.map NETunnelProviderManager.ident).map Task.remove := by
    rw [removals, if_pos h, List.map_map]; rfl
  constructor
  · rw [hmap]; exact p.nodup.map fun _ _ => Task.remove.inj
  · intro t
    rw [hmap]; simp [eq_comm]

/-- The issued writes of several managers, in any order. -/
theorem managers_carriedOut_issued {v : VPNManager} {config : Config} {l₁ l₂ : List Task}
    (hlen : 1 < v.preferences.managers.length)
    (hops : (l₁ ++ .save (v.target.configured ruleConf config) :: l₂).Perm (issued ruleConf v config)) :
    (carriedOut v.preferences (l₁ ++ .save (v.target.configured ruleConf config) :: l₂)).managers =
      if .remove v.target.ident ∈ l₁ then [v.target.configured ruleConf config] else [] := by
  have hperm : (l₁ ++ l₂).Perm (removals v.preferences.managers) :=
    ((List.perm_middle.symm.trans hops).trans List.perm_append_comm).cons_inv
  obtain ⟨hnodup, hmem⟩ := removals_of_lt hlen
  have hremove : ∀ t ∈ l₁ ++ l₂, ∃ ident, t = .remove ident := by
    intro t ht
    obtain ⟨m, -, h⟩ := (hmem t).1 (hperm.subset ht)
    exact ⟨m.ident, h⟩
  have htarget : v.target.ident ∈ v.preferences.managers.map NETunnelProviderManager.ident := by
    unfold target
    cases hm : v.preferences.managers with
    | nil => rw [hm] at hlen; cases hlen
    | cons manager managers => exact List.mem_cons_self ..
  have hall : ∀ m ∈ v.preferences.managers, .remove m.ident ∈ l₁ ∨ .remove m.ident ∈ l₂ := by
    intro m hm
    exact List.mem_append.1 (hperm.symm.subset ((hmem _).2 ⟨m, hm, rfl⟩))
  have honce : .remove v.target.ident ∈ l₁ → .remove v.target.ident ∉ l₂ := by
    intro h₁ h₂
    exact (List.nodup_append.1 (hperm.nodup_iff.2 hnodup)).2.2 _ h₁ _ h₂ rfl
  exact managers_around_save (fun t ht => hremove t (List.mem_append_left _ ht))
    (fun t ht => hremove t (List.mem_append_right _ ht)) hall htarget honce

/-- With at most one manager there is only the save, and it leaves its manager. -/
theorem managers_save_single (ruleConf : Text) {v : VPNManager} (config : Config)
    (hlen : v.preferences.managers.length ≤ 1) :
    issued ruleConf v config = [.save (v.target.configured ruleConf config)] ∧
      (v.preferences.save (v.target.configured ruleConf config)).managers =
        [v.target.configured ruleConf config] := by
  constructor
  · rw [issued, removals, if_neg (by omega), List.nil_append]
  · rcases hm : v.preferences.managers with _ | ⟨manager, _ | ⟨other, managers⟩⟩
    · rw [Preferences.managers_save_of_not_mem (by simp [hm]), hm, List.nil_append]
    · have ht : v.target = manager := by unfold target; rw [hm]
      rw [ht, Preferences.managers_save_of_mem (by simp [hm]), hm]
      simp
    · rw [hm] at hlen; simp at hlen

/-- Removing duplicates keeps the profile in use exactly when there are none, or when the save is
carried out after the removal of the manager it saves. -/
theorem connect_keeps_profile_iff {v : VPNManager} {config : Config} {ops : List Task}
    (hops : ops.Perm (issued ruleConf v config)) : ∃ v',
    Lts.run (step ruleConf) v
        (.connect config :: .complete (.loadAll .connect) true :: ops.map fun t => .complete t true) = some v' ∧
      ((∃ m, v'.preferences.managers = [m] ∧ m.Serves ruleConf config) ↔
        v.preferences.managers.length ≤ 1 ∨
          After (.save (v.target.configured ruleConf config)) (.remove v.target.ident) ops) := by
  obtain ⟨v₁, hrun₁, hp₁, htasks₁⟩ := run_connect ruleConf v config
  obtain ⟨v', hrun, hp⟩ := run_writes (htasks₁.trans (hops.symm.append_right _))
    fun t ht => issued_isWrite v config t (hops.subset ht)
  refine ⟨v', Lts.run_append_some.2 ⟨v₁, hrun₁, hrun⟩, ?_⟩
  rw [hp, hp₁]
  have hserves := NETunnelProviderManager.configured_serves ruleConf v.target config
  by_cases hlen : v.preferences.managers.length ≤ 1
  · obtain ⟨hissued, hsave⟩ := managers_save_single ruleConf config hlen
    rw [hissued] at hops
    rw [List.perm_singleton.1 hops]
    exact iff_of_true ⟨_, hsave, hserves⟩ (.inl hlen)
  · constructor
    · rintro ⟨m, hm, -⟩
      have hsave : .save (v.target.configured ruleConf config) ∈ ops :=
        hops.symm.subset (List.mem_append_right _ (List.mem_singleton_self _))
      obtain ⟨l₁, l₂, rfl⟩ := List.append_of_mem hsave
      rw [managers_carriedOut_issued (not_le.1 hlen) hops] at hm
      by_cases hr : .remove v.target.ident ∈ l₁
      · exact .inr ⟨l₁, l₂, rfl, hr⟩
      · rw [if_neg hr] at hm; cases hm
    · rintro (h | ⟨l₁, l₂, rfl, hr⟩)
      · exact absurd h hlen
      · refine ⟨_, ?_, hserves⟩
        rw [managers_carriedOut_issued (not_le.1 hlen) hops, if_pos hr]

end Duplicates

/-- Two managers. -/
def sampleDuplicates : Preferences := ⟨[.create 0, .create 1], by decide⟩

def sampleTwice : VPNManager := launch sampleDuplicates (fun _ => .disconnected) 2

theorem connect_keeps_profile_iff_sample : ∃ v',
    Lts.run (step []) sampleTwice (.connect (.sample "1") :: .complete (.loadAll .connect) true ::
        (issued [] sampleTwice (.sample "1")).map fun t => .complete t true) = some v' ∧
      ((∃ m, v'.preferences.managers = [m] ∧ m.Serves [] (.sample "1")) ↔
        sampleTwice.preferences.managers.length ≤ 1 ∨
          After (.save (sampleTwice.target.configured [] (.sample "1"))) (.remove sampleTwice.target.ident)
            (issued [] sampleTwice (.sample "1"))) :=
  connect_keeps_profile_iff (List.Perm.refl _)

/-- The save is carried out first: the removals then take the profile in use along. -/
theorem profile_lost : ∃ v',
    Lts.run (step []) sampleTwice
        [.connect (.sample "1"), .complete (.loadAll .connect) true,
          .complete (.save ((NETunnelProviderManager.create 0).configured [] (.sample "1"))) true,
          .complete (.remove 0) true, .complete (.remove 1) true] = some v' ∧
      v'.preferences.managers = [] :=
  ⟨_, rfl, rfl⟩

/-! ## The last config -/

section LastConfig

variable {ruleConf : Text}

/-- The outstanding saves, in the order they were issued. -/
def saves (tasks : List Task) : List NETunnelProviderManager := tasks.filterMap Task.saved

theorem saves_append (l₁ l₂ : List Task) : saves (l₁ ++ l₂) = saves l₁ ++ saves l₂ := List.filterMap_append

theorem saves_singleton (manager : NETunnelProviderManager) : saves [.save manager] = [manager] := rfl

theorem saves_of_loads {loads : List Task} (hl : ∀ t ∈ loads, ¬t.IsWrite) : saves loads = [] := by
  rw [saves, List.filterMap_eq_nil_iff]
  intro t ht
  cases t with
  | save m => exact absurd trivial (hl _ ht)
  | _ => rfl

theorem saves_erase (tasks : List Task) {t : Task} (ht : ∀ manager, t ≠ .save manager) :
    saves (tasks.erase t) = saves tasks := by
  induction tasks with
  | nil => rfl
  | cons u tasks ih =>
    by_cases hu : u = t
    · subst hu
      rw [List.erase_cons_head]
      cases u with
      | save manager => exact absurd rfl (ht manager)
      | _ => rfl
    · rw [List.erase_cons_tail (by simpa using hu)]
      cases u with
      | save manager => exact congrArg (manager :: ·) ih
      | _ => exact ih

theorem saves_erase_save (tasks : List Task) (manager : NETunnelProviderManager) :
    saves (tasks.erase (.save manager)) = (saves tasks).erase manager := by
  induction tasks with
  | nil => rfl
  | cons u tasks ih =>
    by_cases hu : u = .save manager
    · subst hu
      rw [List.erase_cons_head]
      exact (List.erase_cons_head ..).symm
    · rw [List.erase_cons_tail (by simpa using hu)]
      cases u with
      | save other =>
        have hne : ¬(other == manager) = true := fun h => hu (by rw [beq_iff_eq.1 h])
        exact (congrArg (other :: ·) ih).trans (List.erase_cons_tail hne).symm
      | _ => exact ih

/-- Loads of `connect` succeed; saves succeed, in the order they were issued. -/
def Orderly (v : VPNManager) : Event → Prop
  | .complete t ok =>
    (t = .loadAll .connect → ok = true) ∧ (t.saved ≠ none → ok = true ∧ (saves v.tasks).head? = t.saved)
  | _ => True

instance Orderly.decidable (v : VPNManager) : ∀ e, Decidable (v.Orderly e)
  | .complete _ _ => inferInstanceAs (Decidable ((_ → _) ∧ (_ → _)))
  | .check => .isTrue trivial
  | .connect _ => .isTrue trivial
  | .disconnect => .isTrue trivial
  | .statusChange _ _ => .isTrue trivial
  | .runBlock _ => .isTrue trivial

/-- One manager is stored, and all outstanding writes save it. -/
structure OneManager (v : VPNManager) (ident : Nat) : Prop where
  stored : ∃ m, v.preferences.managers = [m] ∧ m.ident = ident
  removals : ∀ i, .remove i ∉ v.tasks
  saves : ∀ m ∈ saves v.tasks, m.ident = ident

/-- The last write, carried out or outstanding, is of the config, unless a load is to write it. -/
def LastWrite (ruleConf : Text) (v : VPNManager) (config : Config) : Prop :=
  .loadAll .connect ∈ v.tasks ∨
    ∀ m ∈ (v.preferences.managers ++ saves v.tasks).getLast?, m.Serves ruleConf config

/-! ### Steps -/

theorem not_isWrite_loadAll (load : Load) : ∀ t ∈ [Task.loadAll load], ¬t.IsWrite := by
  intro t ht
  rw [List.mem_singleton.1 ht]
  exact id

/-- Starting loads changes neither the writes nor the entries. -/
theorem OneManager.of_loads {v v' : VPNManager} {ident : Nat} (h : v.OneManager ident)
    (hp : v'.preferences = v.preferences) {loads : List Task} (ht : v'.tasks = v.tasks ++ loads)
    (hl : ∀ t ∈ loads, ¬t.IsWrite) : v'.OneManager ident := by
  refine ⟨by rw [hp]; exact h.stored, ?_, ?_⟩
  · intro i hi
    rw [ht] at hi
    rcases List.mem_append.1 hi with hi | hi
    · exact h.removals i hi
    · exact hl _ hi trivial
  · intro m hm
    rw [ht, saves_append, saves_of_loads hl, List.append_nil] at hm
    exact h.saves m hm

theorem LastWrite.of_loads {v v' : VPNManager} {config : Config} (h : v.LastWrite ruleConf config)
    (hp : v'.preferences = v.preferences) {loads : List Task} (ht : v'.tasks = v.tasks ++ loads)
    (hl : ∀ t ∈ loads, ¬t.IsWrite) : v'.LastWrite ruleConf config := by
  rw [LastWrite, hp, ht, saves_append, saves_of_loads hl, List.append_nil]
  exact h.imp_left (List.mem_append_left _)

/-- With one manager stored `connect`'s load issues one save. -/
theorem OneManager.issued_eq {v : VPNManager} {ident : Nat} (h : v.OneManager ident) (config : Config) :
    issued ruleConf v config = [.save (v.target.configured ruleConf config)] := by
  obtain ⟨m, hm, -⟩ := h.stored
  exact (managers_save_single ruleConf config (by rw [hm]; exact Nat.le_refl _)).1

theorem OneManager.target_ident {v : VPNManager} {ident : Nat} (h : v.OneManager ident) : v.target.ident = ident := by
  obtain ⟨m, hm, hid⟩ := h.stored
  rw [target, hm]; exact hid

theorem OneManager.erase {v : VPNManager} {ident : Nat} (h : v.OneManager ident) (t : Task) :
    ({ v with tasks := v.tasks.erase t } : VPNManager).OneManager ident := by
  refine ⟨h.stored, ?_, ?_⟩
  · intro i hi
    exact h.removals i (List.mem_of_mem_erase hi)
  · intro m hm
    exact h.saves m ((List.erase_sublist.filterMap _).subset hm)

/-- An outstanding save is of the manager, and no removal is outstanding. -/
theorem OneManager.saved_ident {v : VPNManager} {ident : Nat} (h : v.OneManager ident) {t : Task} (ht : t ∈ v.tasks) :
    ∀ m, t = .save m → m.ident = ident := by
  rintro m rfl
  exact h.saves m (List.mem_filterMap.2 ⟨_, ht, rfl⟩)

theorem OneManager.ne_remove {v : VPNManager} {ident : Nat} (h : v.OneManager ident) {t : Task} (ht : t ∈ v.tasks) :
    ∀ i, t ≠ .remove i := by
  rintro i rfl
  exact h.removals i ht

theorem OneManager.save {v : VPNManager} {ident : Nat} (h : v.OneManager ident) {manager : NETunnelProviderManager}
    (hid : manager.ident = ident) : (v.preferences.save manager).managers = [manager] := by
  obtain ⟨m, hm, hmid⟩ := h.stored
  have he : m.ident = manager.ident := hmid.trans hid.symm
  rw [Preferences.managers_save_of_mem (by rw [hm, ← he]; exact List.mem_cons_self ..), hm, List.map_singleton,
    if_pos he]

/-- What a completion can do with one manager stored: start loads only, issue the save of that manager
with the current config, or store the manager it saved. -/
theorem complete_cases {v v' : VPNManager} {ident : Nat} {t : Task} {ok : Bool} (h : v.OneManager ident)
    (hsave : ∀ m, t = .save m → m.ident = ident) (hremove : ∀ i, t ≠ .remove i)
    (hs : v.complete ruleConf t ok = some v') :
    (¬(t = .loadAll .connect ∧ ok = true) ∧ (∀ m, t = .save m → ok = false) ∧ v'.preferences = v.preferences ∧
      ∃ loads, v'.tasks = v.tasks ++ loads ∧ ∀ u ∈ loads, ¬u.IsWrite) ∨
    (∃ config, v.config = some config ∧ v'.preferences = v.preferences ∧
      v'.tasks = v.tasks ++ [.save (v.target.configured ruleConf config)]) ∨
    (∃ m, t = .save m ∧ v'.preferences.managers = [m] ∧ v'.tasks = v.tasks ++ [.load m]) := by
  have hspec := complete_spec hs
  have hp := hspec.preferences
  have ht := hspec.tasks
  cases ok with
  | false =>
    rw [preferencesAfter_false] at hp
    rw [started_false] at ht
    exact .inl ⟨by simp, fun _ _ => rfl, hp, [], ht, List.forall_mem_nil _⟩
  | true =>
    cases t with
    | remove i => exact absurd rfl (hremove i)
    | save m =>
      refine .inr (.inr ⟨m, rfl, ?_, ht⟩)
      rw [hp]; exact h.save (hsave m rfl)
    | load m => exact .inl ⟨by simp, by simp, hp, _, ht, not_isWrite_loadAll .addStatusObserver⟩
    | loadAll load =>
      cases load with
      | connect =>
        obtain ⟨config, hc, -⟩ := Option.map_eq_some_iff.1 hs
        refine .inr (.inl ⟨config, hc, hp, ?_⟩)
        rw [ht, started, hc, ← h.issued_eq config]; rfl
      | check => exact .inl ⟨by simp, by simp, hp, [], ht, List.forall_mem_nil _⟩
      | addStatusObserver => exact .inl ⟨by simp, by simp, hp, [], ht, List.forall_mem_nil _⟩
      | disconnect => exact .inl ⟨by simp, by simp, hp, [], ht, List.forall_mem_nil _⟩

theorem complete_oneManager {v v' : VPNManager} {ident : Nat} {t : Task} {ok : Bool} (h : v.OneManager ident)
    (hsave : ∀ m, t = .save m → m.ident = ident) (hremove : ∀ i, t ≠ .remove i)
    (hs : v.complete ruleConf t ok = some v') : v'.OneManager ident := by
  rcases complete_cases h hsave hremove hs with
    ⟨-, -, hp, loads, ht, hl⟩ | ⟨config, -, hp, ht⟩ | ⟨m, hm, hp, ht⟩
  · exact h.of_loads hp ht hl
  · refine ⟨by rw [hp]; exact h.stored, ?_, ?_⟩
    · intro i hi
      rw [ht, List.mem_append] at hi
      rcases hi with hi | hi
      · exact h.removals i hi
      · simp at hi
    · intro n hn
      rw [ht, saves_append, saves_singleton, List.mem_append, List.mem_singleton] at hn
      rcases hn with hn | rfl
      · exact h.saves n hn
      · exact h.target_ident
  · refine ⟨⟨m, hp, hsave m hm⟩, ?_, ?_⟩
    · intro i hi
      rw [ht, List.mem_append] at hi
      rcases hi with hi | hi
      · exact h.removals i hi
      · simp at hi
    · intro n hn
      rw [ht, saves_append, show VPNManager.saves [Task.load m] = [] from rfl, List.append_nil] at hn
      exact h.saves n hn

/-- Every step keeps one manager stored. -/
theorem step_oneManager {v v' : VPNManager} {ident : Nat} {e : Event} (h : v.OneManager ident)
    (hs : step ruleConf v e = some v') : v'.OneManager ident := by
  cases e with
  | check => cases hs; exact h.of_loads rfl rfl (not_isWrite_loadAll .check)
  | connect config => cases hs; exact h.of_loads rfl rfl (not_isWrite_loadAll .connect)
  | disconnect => cases hs; exact h.of_loads rfl rfl (not_isWrite_loadAll .disconnect)
  | statusChange i status => cases hs; exact ⟨h.stored, h.removals, h.saves⟩
  | runBlock i =>
    obtain ⟨-, hs⟩ := Option.ite_none_right_eq_some.1 hs
    cases hs
    exact ⟨h.stored, h.removals, h.saves⟩
  | complete t ok =>
    obtain ⟨ht, hs⟩ := Option.ite_none_right_eq_some.1 hs
    exact complete_oneManager (h.erase t) (h.saved_ident ht) (h.ne_remove ht) hs

/-- A step that requests no other config keeps the last write one of the config. -/
theorem step_lastWrite {v v' : VPNManager} {ident : Nat} {config : Config} {e : Event} (h : v.OneManager ident)
    (hconf : v.config = some config) (hlast : v.LastWrite ruleConf config) (ho : v.Orderly e)
    (hne : ∀ c, e ≠ .connect c) (hs : step ruleConf v e = some v') :
    v'.config = some config ∧ v'.LastWrite ruleConf config := by
  cases e with
  | check => cases hs; exact ⟨hconf, hlast.of_loads rfl rfl (not_isWrite_loadAll .check)⟩
  | connect c => exact absurd rfl (hne c)
  | disconnect => cases hs; exact ⟨hconf, hlast.of_loads rfl rfl (not_isWrite_loadAll .disconnect)⟩
  | statusChange i status => cases hs; exact ⟨hconf, hlast⟩
  | runBlock i =>
    obtain ⟨-, hs⟩ := Option.ite_none_right_eq_some.1 hs
    cases hs
    exact ⟨hconf, hlast⟩
  | complete t ok =>
    obtain ⟨ht, hs⟩ := Option.ite_none_right_eq_some.1 hs
    refine ⟨(complete_spec hs).config.trans hconf, ?_⟩
    rcases complete_cases (h.erase t) (h.saved_ident ht) (h.ne_remove ht) hs with
      ⟨hnc, hns, hp, loads, ht', hl⟩ | ⟨c, hc, hp, ht'⟩ | ⟨m, rfl, hp, ht'⟩
    · -- neither a save nor a load of `connect`: these are as before
      have hnconn : t ≠ .loadAll .connect := fun hc => hnc ⟨hc, ho.1 hc⟩
      have hnsave : ∀ m, t ≠ .save m := by
        rintro m rfl
        have hok := (ho.2 (Option.some_ne_none m)).1
        rw [hns m rfl] at hok; cases hok
      have herase : ({ v with tasks := v.tasks.erase t } : VPNManager).LastWrite ruleConf config := by
        rw [LastWrite, saves_erase v.tasks hnsave, List.mem_erase_of_ne (Ne.symm hnconn)]
        exact hlast
      exact herase.of_loads hp ht' hl
    · -- the load of a connect call issues the save of the current config, as the last one
      right
      intro m hm
      obtain rfl := Option.some.inj (hconf.symm.trans hc)
      rw [ht', saves_append, ← List.append_assoc, saves_singleton, List.getLast?_concat] at hm
      cases hm
      exact NETunnelProviderManager.configured_serves ..
    · -- the oldest save is carried out, so the last write is the same as before
      obtain ⟨rest, hrest⟩ : ∃ rest, saves v.tasks = m :: rest := by
        have hhead := (ho.2 (Option.some_ne_none m)).2
        cases hsv : saves v.tasks with
        | nil => rw [hsv] at hhead; cases hhead
        | cons n rest => rw [hsv] at hhead; cases hhead; exact ⟨rest, rfl⟩
      have hsaves : VPNManager.saves v'.tasks = rest := by
        rw [ht', saves_append, saves_erase_save, hrest, List.erase_cons_head]; exact List.append_nil rest
      rcases hlast with hc | hw
      · left
        rw [ht']; exact List.mem_append_left _ ((List.mem_erase_of_ne (by simp)).2 hc)
      · right
        rw [hrest] at hw
        rw [hp, hsaves]
        intro n hn
        have hn : (m :: rest).getLast? = some n := hn
        apply hw
        rw [List.getLast?_append, hn]; rfl

/-- The last requested config wins: from every state with one manager stored, after any run in which
the loads of `connect` and the saves succeed, saves in the order they were issued, and which ends with
nothing outstanding, the stored manager has the last config, and the tunnel reads its fields. -/
theorem last_config_wins {v v' : VPNManager} {ident : Nat} {config : Config} {es₁ es₂ : List Event}
    (hone : v.OneManager ident) (hlast : ∀ c, .connect c ∉ es₂)
    (hord : Lts.Meets (step ruleConf) Orderly v (es₁ ++ .connect config :: es₂))
    (hrun : Lts.run (step ruleConf) v (es₁ ++ .connect config :: es₂) = some v') (hquiet : v'.tasks = []) :
    ∃ m conf, v'.preferences.managers = [m] ∧ m.isEnabled = true ∧
      m.protocolConfiguration.providerConfiguration = some conf ∧ conf = config.asDict ruleConf ∧
      Tunnel.readConfiguration conf = .ok config.server := by
  obtain ⟨v₁, hrun₁, hrun⟩ := Lts.run_append_some.1 hrun
  obtain ⟨v₂, hs, hrun₂⟩ := Lts.run_cons_some.1 hrun
  have hord₂ := (Lts.meets_cons.1 ((Lts.meets_append.1 hord).2 v₁ hrun₁)).2 v₂ hs
  have hone₁ : v₁.OneManager ident := Lts.run_invariant (fun _ _ _ h hs => step_oneManager h hs) hone hrun₁
  have hone₂ := step_oneManager hone₁ hs
  cases hs
  have hstart : (v₁.connect config).LastWrite ruleConf config :=
    .inl (List.mem_append_right _ (List.mem_singleton_self _))
  have hnotconnect : ∀ e ∈ es₂, ∀ c, e ≠ .connect c := by
    rintro e he c rfl; exact hlast c he
  -- after the last call every step keeps one manager stored and the last write one of the config
  have hend : v'.OneManager ident ∧ v'.config = some config ∧ v'.LastWrite ruleConf config :=
    Lts.run_invariant_of_meets (G := fun v e => v.Orderly e ∧ ∀ c, e ≠ .connect c)
      (I := fun v => v.OneManager ident ∧ v.config = some config ∧ v.LastWrite ruleConf config)
      (fun v e v' h hg hs => ⟨step_oneManager h.1 hs, step_lastWrite h.1 h.2.1 h.2.2 hg.1 hg.2 hs⟩)
      ⟨hone₂, rfl, hstart⟩ (Lts.meets_and_forall hord₂ hnotconnect) hrun₂
  obtain ⟨⟨⟨m, hm, -⟩, -, -⟩, -, hlast⟩ := hend
  rcases hlast with h | h
  · rw [hquiet] at h; exact absurd h List.not_mem_nil
  · rw [hquiet, hm] at h
    have hserves := h m rfl
    exact ⟨m, _, hm, hserves.isEnabled, hserves.providerConfiguration, rfl, readConfiguration_asDict ..⟩

/-- Two calls before the first load completes; the loads then save the config of the second call twice. -/
def sampleEvents : List Event :=
  [.complete (.loadAll .connect) true, .complete (.loadAll .connect) true, .complete (.loadAll .check) true,
    .complete (.save ((NETunnelProviderManager.create 0).configured [] (.sample "2"))) true,
    .complete (.save ((NETunnelProviderManager.create 0).configured [] (.sample "2"))) true,
    .complete (.load ((NETunnelProviderManager.create 0).configured [] (.sample "2"))) true,
    .complete (.load ((NETunnelProviderManager.create 0).configured [] (.sample "2"))) true,
    .complete (.loadAll .addStatusObserver) true, .complete (.loadAll .addStatusObserver) true,
    .complete (.loadAll .addStatusObserver) true]

def sampleOnce : VPNManager := launch (.single (.create 0)) (fun _ => .disconnected) 1

theorem last_config_wins_sample : ∃ v',
    Lts.run (step []) sampleOnce ([.connect (.sample "1")] ++ .connect (.sample "2") :: sampleEvents) = some v' ∧
      ∃ m conf, v'.preferences.managers = [m] ∧ m.isEnabled = true ∧
        m.protocolConfiguration.providerConfiguration = some conf ∧ conf = (Config.sample "2").asDict [] ∧
        Tunnel.readConfiguration conf = .ok (Config.sample "2").server :=
  ⟨_, rfl, @last_config_wins [] sampleOnce _ 0 (.sample "2") [.connect (.sample "1")] sampleEvents
    ⟨⟨_, rfl, rfl⟩, by simp [sampleOnce, launch, check, addStatusObserver, start], by decide⟩
    (by simp [sampleEvents]) (by decide) rfl rfl⟩

end LastConfig

end VPNManager

end VpnSs.Lead
