/-
The VPN preferences of the system: the stored provider managers, told apart by an identity the
system gives them, and the two operations on them. A loaded manager is a copy of its entry, so
that changing it does not change the entry before it is saved.
-/
import VpnSs.Lead.Config
import Mathlib.Data.List.Nodup

namespace VpnSs.Lead

open VpnSs.Swift

/-! ## Managers -/

/-- The protocol of a tunnel provider, as far as the app sets it. -/
structure NETunnelProviderProtocol where
  serverAddress : Text
  providerConfiguration : Option Dictionary
  deriving DecidableEq

structure NETunnelProviderManager where
  ident : Nat
  isEnabled : Bool
  protocolConfiguration : NETunnelProviderProtocol
  localizedDescription : Text
  deriving DecidableEq

namespace NETunnelProviderManager

/-- `createProviderManager`; `ident` is the identity the system gives the new manager. -/
def create (ident : Nat) : NETunnelProviderManager :=
  { ident
    isEnabled := false
    protocolConfiguration := { serverAddress := text "Hunting", providerConfiguration := none }
    localizedDescription := text "Hunting VPN" }

/-- `setConfig`. The cast to the provider protocol holds of every manager of the app. -/
def setConfig (ruleConf : Text) (manager : NETunnelProviderManager) (config : Config) :
    NETunnelProviderManager :=
  { manager with
    protocolConfiguration :=
      { manager.protocolConfiguration with providerConfiguration := some (config.asDict ruleConf) } }

/-- The manager as `loadAndCreateProviderManager` saves it. -/
def configured (ruleConf : Text) (manager : NETunnelProviderManager) (config : Config) :
    NETunnelProviderManager :=
  { manager with isEnabled := true }.setConfig ruleConf config

@[simp] theorem configured_ident (ruleConf : Text) (manager : NETunnelProviderManager) (config : Config) :
    (manager.configured ruleConf config).ident = manager.ident := rfl

/-- Enabled, with the dictionary of the config. -/
structure Serves (ruleConf : Text) (config : Config) (manager : NETunnelProviderManager) : Prop where
  isEnabled : manager.isEnabled = true
  providerConfiguration : manager.protocolConfiguration.providerConfiguration = some (config.asDict ruleConf)

theorem configured_serves (ruleConf : Text) (manager : NETunnelProviderManager) (config : Config) :
    (manager.configured ruleConf config).Serves ruleConf config := ⟨rfl, rfl⟩

end NETunnelProviderManager

/-! ## The stored entries -/

/-- The stored managers, in the order they are loaded in; no identity is stored twice. -/
structure Preferences where
  managers : List NETunnelProviderManager
  nodup : (managers.map NETunnelProviderManager.ident).Nodup

namespace Preferences

def single (manager : NETunnelProviderManager) : Preferences := ⟨[manager], List.nodup_singleton _⟩

theorem map_ident_replace (managers : List NETunnelProviderManager) (manager : NETunnelProviderManager) :
    (managers.map fun m => if m.ident = manager.ident then manager else m).map NETunnelProviderManager.ident =
      managers.map NETunnelProviderManager.ident := by
  rw [List.map_map]
  apply List.map_congr_left
  intro m _
  simp only [Function.comp]
  split
  · rename_i hm; exact hm.symm
  · rfl

theorem nodup_create {managers : List NETunnelProviderManager} {manager : NETunnelProviderManager}
    (hnodup : (managers.map NETunnelProviderManager.ident).Nodup)
    (h : manager.ident ∉ managers.map NETunnelProviderManager.ident) :
    ((managers ++ [manager]).map NETunnelProviderManager.ident).Nodup := by
  rw [List.map_append, List.map_singleton]
  refine List.nodup_append.2 ⟨hnodup, List.nodup_singleton _, ?_⟩
  rintro a ha b hb rfl
  rw [List.mem_singleton.1 hb] at ha
  exact h ha

/-- A removal deletes the entry if present. -/
def remove (p : Preferences) (ident : Nat) : Preferences where
  managers := p.managers.filter fun m => m.ident != ident
  nodup := p.nodup.sublist (List.filter_sublist.map _)

/-- A save writes the manager's entry, or creates it at the end. -/
def save (p : Preferences) (manager : NETunnelProviderManager) : Preferences :=
  if h : manager.ident ∈ p.managers.map NETunnelProviderManager.ident then
    { managers := p.managers.map fun m => if m.ident = manager.ident then manager else m
      nodup := by rw [map_ident_replace]; exact p.nodup }
  else
    { managers := p.managers ++ [manager]
      nodup := nodup_create p.nodup h }

theorem managers_remove (p : Preferences) (ident : Nat) :
    (p.remove ident).managers = p.managers.filter fun m => m.ident != ident := rfl

theorem managers_save_of_mem {p : Preferences} {manager : NETunnelProviderManager}
    (h : manager.ident ∈ p.managers.map NETunnelProviderManager.ident) :
    (p.save manager).managers = p.managers.map fun m => if m.ident = manager.ident then manager else m := by
  rw [save, dif_pos h]

theorem managers_save_of_not_mem {p : Preferences} {manager : NETunnelProviderManager}
    (h : manager.ident ∉ p.managers.map NETunnelProviderManager.ident) :
    (p.save manager).managers = p.managers ++ [manager] := by
  rw [save, dif_neg h]

end Preferences

end VpnSs.Lead
