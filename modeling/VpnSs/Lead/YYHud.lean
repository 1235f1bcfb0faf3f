/-
`YYHud`: one view that is shown with a message, a timer that dismisses it, and the fade animations in
flight. A new `show` invalidates the timer, so no timer outlives its message; the completion of a
fade-out removes the view whatever is shown by then. A run removes each message by its own dismissal
only, exactly when no `show` comes while a fade-out is in flight.
-/
import VpnSs.Swift.Text
import VpnSs.Lib.Lts

namespace VpnSs.Lead

open VpnSs.Swift

/-! ## Options -/

/-- What is shown; an image by its name. -/
inductive DisplayType where
  | tip (text : Text)
  | loading (text : Option Text)
  | image (image : Text) (text : Option Text)
  deriving DecidableEq

/-- `YYHud.Option`, with the type of seconds. -/
inductive HudOption (Second : Type) where
  | dim
  | modal
  | duration (second : Second)
  deriving DecidableEq

namespace HudOption

variable {Second : Type}

/-- `==`, which does not compare durations. -/
def same : HudOption Second → HudOption Second → Bool
  | dim, dim => true
  | modal, modal => true
  | duration _, duration _ => true
  | _, _ => false

def lastMatchValue (options : List (HudOption Second)) (target : HudOption Second) : Option (HudOption Second) :=
  options.reverse.find? fun o => o.same target

def isDim (options : List (HudOption Second)) : Bool := options.any fun o => o.same dim

def isModal (options : List (HudOption Second)) : Bool := options.any fun o => o.same modal

/-- The last duration among the options. -/
def duration? [OfNat Second 0] (options : List (HudOption Second)) : Option Second :=
  match lastMatchValue options (duration 0) with
  | some (duration second) => some second
  | _ => none

end HudOption

/-! ## State -/

inductive Fade where
  | fadeIn
  | fadeOut
  deriving DecidableEq

/-- An animation in flight, with the number of `show` calls when it was started. -/
structure Animation where
  fade : Fade
  shown : Nat
  deriving DecidableEq

/-- A timer of the run loop, with the number of `show` calls when it was scheduled. -/
structure DismissTimer where
  ident : Nat
  shown : Nat
  deriving DecidableEq

/-- The fields of the hud, the scheduled timers and the animations in flight. `shows` counts the calls
of `show`; nothing in the source reads it. -/
structure YYHud (View : Type) where
  superview : Option View
  contentView : Option DisplayType
  isDim : Bool
  isUserInteractionEnabled : Bool
  dismissTimer : Option Nat
  timers : List DismissTimer
  nextTimer : Nat
  animations : List Animation
  shows : Nat

namespace YYHud

variable {View Second : Type} [OfNat Second 0] [LT Second] [DecidableLT Second]

/-! ## The source -/

/-- `YYHud()` -/
def launch : YYHud View :=
  { superview := none, contentView := none, isDim := false, isUserInteractionEnabled := true, dismissTimer := none,
    timers := [], nextTimer := 0, animations := [], shows := 0 }

/-- `UIView.animate`: the animation is in flight until its completion. -/
def animate (hud : YYHud View) (fade : Fade) : YYHud View :=
  { hud with animations := hud.animations ++ [{ fade, shown := hud.shows }] }

def showAnimated (hud : YYHud View) : YYHud View := hud.animate .fadeIn

def dismissAnimated (hud : YYHud View) : YYHud View := hud.animate .fadeOut

/-- `dismissTimer?.invalidate()` -/
def invalidate (hud : YYHud View) : YYHud View :=
  { hud with timers := hud.timers.filter fun t => some t.ident != hud.dismissTimer }

/-- `dismissTimer = Timer.scheduledTimer(...)` -/
def scheduledTimer (hud : YYHud View) : YYHud View :=
  { hud with
    dismissTimer := some hud.nextTimer
    timers := hud.timers ++ [{ ident := hud.nextTimer, shown := hud.shows }]
    nextTimer := hud.nextTimer + 1 }

/-- `dismiss(after:)` -/
def dismiss (hud : YYHud View) (after : Second) : YYHud View :=
  if 0 < after then hud.invalidate.scheduledTimer else hud.dismissAnimated

def removeFromSuperview (hud : YYHud View) : YYHud View := { hud with superview := none }

/-- `config(with: view)`, with the window for no view. -/
def configView (window : View) (hud : YYHud View) (view : Option View) : YYHud View :=
  { hud.removeFromSuperview with superview := some (view.getD window) }

/-- `config(with: type)` -/
def configType (hud : YYHud View) (type : DisplayType) : YYHud View := { hud with contentView := some type }

/-- `config(with: options)` -/
def configOptions (hud : YYHud View) (options : List (HudOption Second)) : YYHud View :=
  let hud :=
    { hud with
      isDim := HudOption.isDim options
      isUserInteractionEnabled := HudOption.isModal options }.invalidate
  match HudOption.duration? options with
  | some second => hud.dismiss second
  | none => hud

/-- `show(_:options:in:)` -/
def showHud (window : View) (hud : YYHud View) (type : DisplayType) (options : List (HudOption Second))
    (view : Option View) : YYHud View :=
  let hud := { hud with shows := hud.shows + 1 }
  (((hud.configView window view).configType type).configOptions options).showAnimated

/-- The timer fires, once. -/
def fire (hud : YYHud View) (t : DismissTimer) : YYHud View :=
  { hud with timers := hud.timers.erase t }.dismissAnimated

/-- The completion of an animation; only a fade-out has a block to run. -/
def complete (hud : YYHud View) (a : Animation) : YYHud View :=
  let hud := { hud with animations := hud.animations.erase a }
  match a.fade with
  | .fadeIn => hud
  | .fadeOut => hud.removeFromSuperview -- whether it finished is not asked

/-! ## Runs -/

inductive Event (View Second : Type) where
  | showHud (type : DisplayType) (options : List (HudOption Second)) (view : Option View)
  | dismiss (after : Second)
  | fire (t : DismissTimer)
  | complete (a : Animation)

/-- One event: a call, a scheduled timer that fires, or the completion of an animation in flight. -/
def step (window : View) (hud : YYHud View) : Event View Second → Option (YYHud View)
  | .showHud type options view => some (hud.showHud window type options view)
  | .dismiss after => some (hud.dismiss after)
  | .fire t => if t ∈ hud.timers then some (hud.fire t) else none
  | .complete a => if a ∈ hud.animations then some (hud.complete a) else none

/-! ## Own dismissals -/

variable (Second) in
/-- Whatever comes next, the view is removed by nothing but the completion of a fade-out that was started
since the last `show`, and no timer of an earlier `show` fires. -/
structure OwnDismissal (window : View) (hud : YYHud View) : Prop where
  removal : ∀ (e : Event View Second) hud', step window hud e = some hud' → hud.superview ≠ none →
    hud'.superview = none → ∃ a, e = .complete a ∧ a.fade = .fadeOut ∧ a.shown = hud.shows
  fire : ∀ (t : DismissTimer) hud', step window hud (.fire t : Event View Second) = some hud' → t.shown = hud.shows

/-- The steps that leave no fade-out of an earlier `show` in flight. -/
def ShowsSettled (hud : YYHud View) : Event View Second → Prop
  | .showHud _ _ _ => ∀ a ∈ hud.animations, a.fade ≠ .fadeOut
  | _ => True

instance (hud : YYHud View) (e : Event View Second) : Decidable (hud.ShowsSettled e) := by
  cases e <;> (unfold ShowsSettled; infer_instance)

/-- The only timer is the last one scheduled, since the last `show`; animations are no newer than that. -/
structure Inv (hud : YYHud View) : Prop where
  dismissTimer : ∀ t ∈ hud.timers, hud.dismissTimer = some t.ident
  timers : ∀ t ∈ hud.timers, t.shown = hud.shows
  animations : ∀ a ∈ hud.animations, a.shown ≤ hud.shows

/-- A call that leaves the view where it is, and starts animations and timers of the current message. -/
structure Adds (hud hud' : YYHud View) : Prop where
  superview : hud'.superview = hud.superview
  shows : hud'.shows = hud.shows
  animations : ∃ started, hud'.animations = hud.animations ++ started ∧ ∀ a ∈ started, a.shown = hud.shows
  dismissTimer : ∀ t ∈ hud'.timers, hud'.dismissTimer = some t.ident
  timers : ∀ t ∈ hud'.timers, t.shown = hud.shows

theorem Adds.trans {hud hud' hud'' : YYHud View} (h : hud.Adds hud') (h' : hud'.Adds hud'') : hud.Adds hud'' := by
  obtain ⟨started, ha, hs⟩ := h.animations
  obtain ⟨started', ha', hs'⟩ := h'.animations
  refine ⟨h'.superview.trans h.superview, h'.shows.trans h.shows, ⟨started ++ started', ?_, ?_⟩, h'.dismissTimer, ?_⟩
  · rw [ha', ha, List.append_assoc]
  · intro a hm
    rcases List.mem_append.1 hm with hm | hm
    · exact hs a hm
    · rw [hs' a hm, h.shows]
  · intro t hm
    rw [h'.timers t hm, h.shows]

section Timers

variable {hud : YYHud View} (hd : ∀ t ∈ hud.timers, hud.dismissTimer = some t.ident)
include hd

theorem animate_adds (ht : ∀ t ∈ hud.timers, t.shown = hud.shows) (fade : Fade) : hud.Adds (hud.animate fade) := by
  refine ⟨rfl, rfl, ⟨_, rfl, ?_⟩, hd, ht⟩
  intro a hm
  rw [List.mem_singleton.1 hm]

/-- The invalidated timer was the only one. -/
theorem timers_invalidate : hud.invalidate.timers = [] := by
  apply List.filter_eq_nil_iff.2
  intro t hm
  rw [hd t hm, bne_self_eq_false]
  exact Bool.false_ne_true

theorem scheduledTimer_adds : hud.Adds hud.invalidate.scheduledTimer := by
  have hone : hud.invalidate.scheduledTimer.timers = [{ ident := hud.nextTimer, shown := hud.shows }] := by
    rw [scheduledTimer, timers_invalidate hd]; rfl
  refine ⟨rfl, rfl, ⟨[], (List.append_nil _).symm, List.forall_mem_nil _⟩, ?_, ?_⟩
  · intro t hm
    rw [hone, List.mem_singleton] at hm
    rw [hm]; rfl
  · intro t hm
    rw [hone, List.mem_singleton] at hm
    rw [hm]

theorem dismiss_adds (ht : ∀ t ∈ hud.timers, t.shown = hud.shows) (after : Second) : hud.Adds (hud.dismiss after) := by
  unfold dismiss
  split
  · exact scheduledTimer_adds hd
  · exact animate_adds hd ht .fadeOut

theorem configOptions_adds (options : List (HudOption Second)) : hud.Adds (hud.configOptions options) := by
  -- no timer is left before a new one is scheduled
  have hinvalidate : hud.Adds
      { hud with
        isDim := HudOption.isDim options
        isUserInteractionEnabled := HudOption.isModal options }.invalidate := by
    have hnone : hud.invalidate.timers = [] := timers_invalidate hd
    refine ⟨rfl, rfl, ⟨[], (List.append_nil _).symm, List.forall_mem_nil _⟩, ?_, ?_⟩
    · intro t hm
      exact absurd (hnone ▸ hm) List.not_mem_nil
    · intro t hm
      exact absurd (hnone ▸ hm) List.not_mem_nil
  unfold configOptions
  simp only
  split
  · exact hinvalidate.trans (dismiss_adds hinvalidate.dismissTimer hinvalidate.timers _)
  · exact hinvalidate

end Timers

/-- A `show` puts the view up; what it starts belongs to it. -/
theorem showHud_adds (window : View) {hud : YYHud View} (hi : hud.Inv) (type : DisplayType)
    (options : List (HudOption Second)) (view : Option View) :
    Adds { hud with superview := some (view.getD window), contentView := some type, shows := hud.shows + 1 }
      (hud.showHud window type options view) := by
  have hoptions := @configOptions_adds View Second _ _ _
    { hud with superview := some (view.getD window), contentView := some type, shows := hud.shows + 1 }
    hi.dismissTimer options
  exact hoptions.trans (animate_adds hoptions.dismissTimer
    (fun t hm => (hoptions.timers t hm).trans hoptions.shows.symm) .fadeIn)

/-! ## One step -/

theorem Adds.inv {hud hud' : YYHud View} (h : hud.Adds hud') (hle : ∀ a ∈ hud.animations, a.shown ≤ hud.shows) :
    hud'.Inv := by
  obtain ⟨started, ha, hs⟩ := h.animations
  refine ⟨h.dismissTimer, ?_, ?_⟩
  · intro t hm
    rw [h.shows]; exact h.timers t hm
  · intro a hm
    rw [ha] at hm
    rw [h.shows]
    rcases List.mem_append.1 hm with hm | hm
    · exact hle a hm
    · exact Nat.le_of_eq (hs a hm)

theorem fire_adds {hud : YYHud View} (hi : hud.Inv) (t : DismissTimer) : hud.Adds (hud.fire t) := by
  have hsub : hud.timers.erase t ⊆ hud.timers := List.erase_subset
  have h := @animate_adds View { hud with timers := hud.timers.erase t }
    (fun u hu => hi.dismissTimer u (hsub hu)) (fun u hu => hi.timers u (hsub hu)) .fadeOut
  exact ⟨h.superview, h.shows, h.animations, h.dismissTimer, h.timers⟩

/-- A completion starts nothing, and a fade-out's removes the view. -/
structure Completes (hud : YYHud View) (a : Animation) (hud' : YYHud View) : Prop where
  superview : hud'.superview = if a.fade = .fadeOut then none else hud.superview
  shows : hud'.shows = hud.shows
  animations : hud'.animations = hud.animations.erase a
  timers : hud'.timers = hud.timers
  dismissTimer : hud'.dismissTimer = hud.dismissTimer

theorem complete_spec (hud : YYHud View) (a : Animation) : hud.Completes a (hud.complete a) := by
  unfold complete
  cases ha : a.fade with
  | fadeIn => exact ⟨by rw [ha]; rfl, rfl, rfl, rfl, rfl⟩
  | fadeOut => exact ⟨by rw [ha]; rfl, rfl, rfl, rfl, rfl⟩

theorem inv_step {window : View} {hud hud' : YYHud View} {e : Event View Second} (hi : hud.Inv)
    (hs : step window hud e = some hud') : hud'.Inv := by
  cases e with
  | showHud type options view =>
    cases hs
    exact (showHud_adds window hi type options view).inv fun a hm => Nat.le_succ_of_le (hi.animations a hm)
  | dismiss after =>
    cases hs
    exact (dismiss_adds hi.dismissTimer hi.timers after).inv hi.animations
  | fire t =>
    obtain ⟨-, hs⟩ := Option.ite_none_right_eq_some.1 hs
    cases hs
    exact (fire_adds hi t).inv hi.animations
  | complete a =>
    obtain ⟨-, hs⟩ := Option.ite_none_right_eq_some.1 hs
    cases hs
    have hc := complete_spec hud a
    refine ⟨?_, ?_, ?_⟩
    · rw [hc.timers, hc.dismissTimer]; exact hi.dismissTimer
    · rw [hc.timers, hc.shows]; exact hi.timers
    · rw [hc.animations, hc.shows]
      intro b hm
      exact hi.animations b (List.erase_subset hm)

/-- A view that is up can be removed by the fade-outs in flight, so these must be its own. -/
theorem ownDismissal_iff {window : View} {hud : YYHud View} (hi : hud.Inv) :
    hud.OwnDismissal Second window ↔
      hud.superview = none ∨ ∀ a ∈ hud.animations, a.fade = .fadeOut → a.shown = hud.shows := by
  constructor
  · intro h
    by_cases hup : hud.superview = none
    · exact .inl hup
    right
    intro a hm ha
    have hc := complete_spec hud a
    have hremoved : (hud.complete a).superview = none := by rw [hc.superview, if_pos ha]
    obtain ⟨b, hb, -, hshown⟩ := h.removal (.complete a) _ (if_pos hm) hup hremoved
    cases hb
    exact hshown
  · intro h
    constructor
    · intro e hud' hs hup hremoved
      have hown := h.resolve_left hup
      cases e with
      | showHud type options view =>
        cases hs
        rw [(showHud_adds window hi type options view).superview] at hremoved
        cases hremoved
      | dismiss after =>
        cases hs
        rw [(dismiss_adds hi.dismissTimer hi.timers after).superview] at hremoved
        exact absurd hremoved hup
      | fire t =>
        obtain ⟨-, hs⟩ := Option.ite_none_right_eq_some.1 hs
        cases hs
        rw [(fire_adds hi t).superview] at hremoved
        exact absurd hremoved hup
      | complete a =>
        obtain ⟨hm, hs⟩ := Option.ite_none_right_eq_some.1 hs
        cases hs
        rw [(complete_spec hud a).superview] at hremoved
        split at hremoved
        · rename_i ha
          exact ⟨a, rfl, ha, hown a hm ha⟩
        · exact absurd hremoved hup
    · intro t hud' hs
      obtain ⟨hm, -⟩ := Option.ite_none_right_eq_some.1 hs
      exact hi.timers t hm

theorem Adds.owned {hud hud' : YYHud View} (h : hud.Adds hud')
    (hown : hud.superview = none ∨ ∀ a ∈ hud.animations, a.fade = .fadeOut → a.shown = hud.shows) :
    hud'.superview = none ∨ ∀ a ∈ hud'.animations, a.fade = .fadeOut → a.shown = hud'.shows := by
  obtain ⟨started, ha, hs⟩ := h.animations
  rw [h.superview, h.shows, ha]
  apply hown.imp_right
  intro hown a hm hout
  rcases List.mem_append.1 hm with hm | hm
  · exact hown a hm hout
  · exact hs a hm

/-- A `show` is followed by its own dismissal only, exactly when it leaves no fade-out in flight. -/
theorem showHud_owned_iff (window : View) {hud : YYHud View} (hi : hud.Inv) (type : DisplayType)
    (options : List (HudOption Second)) (view : Option View) :
    ((hud.showHud window type options view).superview = none ∨
      ∀ a ∈ (hud.showHud window type options view).animations, a.fade = .fadeOut →
        a.shown = (hud.showHud window type options view).shows) ↔
    ∀ a ∈ hud.animations, a.fade ≠ .fadeOut := by
  have h := showHud_adds window hi type options view
  constructor
  · intro hown a hm hout
    obtain ⟨started, ha, -⟩ := h.animations
    rw [h.superview] at hown
    have hshown := hown.resolve_left (Option.some_ne_none _) a (ha ▸ List.mem_append_left _ hm) hout
    rw [h.shows] at hshown
    exact absurd (hi.animations a hm) (by rw [hshown]; exact Nat.not_succ_le_self _)
  · intro hsettled
    apply h.owned
    right
    intro a hm hout
    exact absurd hout (hsettled a hm)

theorem ownDismissal_step_iff {window : View} {hud hud' : YYHud View} {e : Event View Second} (hi : hud.Inv)
    (h : hud.OwnDismissal Second window) (hs : step window hud e = some hud') :
    hud'.OwnDismissal Second window ↔ hud.ShowsSettled e := by
  have hown := (ownDismissal_iff hi).1 h
  rw [ownDismissal_iff (inv_step hi hs)]
  cases e with
  | showHud type options view =>
    cases hs
    exact showHud_owned_iff window hi type options view
  | dismiss after =>
    cases hs
    exact iff_of_true ((dismiss_adds hi.dismissTimer hi.timers after).owned hown) trivial
  | fire t =>
    obtain ⟨-, hs⟩ := Option.ite_none_right_eq_some.1 hs
    cases hs
    exact iff_of_true ((fire_adds hi t).owned hown) trivial
  | complete a =>
    obtain ⟨-, hs⟩ := Option.ite_none_right_eq_some.1 hs
    cases hs
    apply iff_of_true _ trivial
    have hc := complete_spec hud a
    rw [hc.superview, hc.animations, hc.shows]
    split
    · exact .inl rfl
    · exact hown.imp_right fun hown b hm => hown b (List.erase_subset hm)

/-! ## Runs of the hud -/

theorem launch_inv : (launch : YYHud View).Inv :=
  ⟨List.forall_mem_nil _, List.forall_mem_nil _, List.forall_mem_nil _⟩

/-- In a run of the hud every message is removed by its own dismissal only, and no timer outlives its
message, exactly when each `show` comes while no fade-out is in flight. -/
theorem always_ownDismissal_iff {window : View} {es : List (Event View Second)} {hud : YYHud View}
    (hrun : Lts.run (step window) launch es = some hud) :
    Lts.Always (step window) (OwnDismissal Second window) launch es ↔ Lts.Meets (step window) ShowsSettled launch es := by
  have hG : Lts.Meets (step window) (fun _ _ => True) launch es := Lts.meets_of_forall (fun _ _ => trivial) _ es
  apply Lts.always_iff_meets (I := Inv) _ _ launch_inv _ hG hrun
  · intro hud e hud' hi _ hs
    exact inv_step hi hs
  · intro hud e hud' hi h _ hs
    exact ownDismissal_step_iff hi h hs
  · exact (ownDismissal_iff launch_inv).2 (.inl rfl)

/-- A tip for two seconds that is dismissed by its timer, and a loading message after it has gone. -/
def sampleShows : List (Event Nat Nat) :=
  [.showHud (.tip (text "ok")) [.duration 2] none, .complete ⟨.fadeIn, 1⟩, .fire ⟨0, 1⟩, .complete ⟨.fadeOut, 1⟩,
    .showHud (.loading none) [.modal] none]

theorem always_ownDismissal_sample : Lts.Always (step 0) (OwnDismissal Nat 0) launch sampleShows :=
  (@always_ownDismissal_iff Nat Nat _ _ _ 0 sampleShows _ rfl).2 (by decide)

/-- The tip is still fading out when a loading message is shown: the completion removes the message. -/
theorem fadeOut_removes_next : ∃ hud hud',
    Lts.run (step 0) launch
        [.showHud (.tip (text "ok")) [.duration 2] none, .fire ⟨0, 1⟩,
          (.showHud (.loading none) [.modal] none : Event Nat Nat)] = some hud ∧
      hud.superview = some 0 ∧ hud.contentView = some (.loading none) ∧ hud.shows = 2 ∧
      step 0 hud (.complete ⟨.fadeOut, 1⟩ : Event Nat Nat) = some hud' ∧ hud'.superview = none :=
  ⟨_, _, rfl, rfl, rfl, rfl, rfl, rfl⟩

end YYHud

end VpnSs.Lead
