/-
A heap of mutable objects named by references. `values` reads a list of references at once, so
that a list of shared objects is compared with a list of plain values: an allocation leaves the
values of the live references alone, and an update through one reference shows at every place
that holds it.
-/
import Mathlib.Data.List.Basic
import Mathlib.Logic.Function.Basic

namespace VpnSs

/-- The name of an object. -/
abbrev Ref := Nat

/-- Objects allocated so far have references below `next`. -/
structure Heap (α : Type*) where
  next : Nat
  read : Ref → α

namespace Heap

variable {α : Type*}

/-- A new object; its reference is the old `next`. -/
def alloc (h : Heap α) (v : α) : Heap α :=
  { next := h.next + 1, read := Function.update h.read h.next v }

def modify (h : Heap α) (r : Ref) (f : α → α) : Heap α :=
  { h with read := Function.update h.read r (f (h.read r)) }

/-- Updates the objects of a list one after the other. -/
def modifyAll (h : Heap α) (rs : List Ref) (f : α → α) : Heap α :=
  rs.foldl (fun h r => h.modify r f) h

/-- One new object for each value, in order. -/
def allocAll (h : Heap α) : List α → Heap α × List Ref
  | [] => (h, [])
  | v :: vs => (((h.alloc v).allocAll vs).1, h.next :: ((h.alloc v).allocAll vs).2)

/-- The values behind a list of references. -/
def values (h : Heap α) (rs : List Ref) : List α := rs.map h.read

/-- Every reference of the list names an allocated object. -/
def Live (h : Heap α) (rs : List Ref) : Prop := ∀ r ∈ rs, r < h.next

/-! ## Allocation -/

@[simp] theorem alloc_next (h : Heap α) (v : α) : (h.alloc v).next = h.next + 1 := rfl

@[simp] theorem read_alloc_self (h : Heap α) (v : α) : (h.alloc v).read h.next = v :=
  Function.update_self ..

theorem read_alloc_of_lt (h : Heap α) (v : α) {r : Ref} (hr : r < h.next) :
    (h.alloc v).read r = h.read r :=
  Function.update_of_ne (Nat.ne_of_lt hr) ..

theorem values_alloc {h : Heap α} {rs : List Ref} (hl : h.Live rs) (v : α) :
    (h.alloc v).values rs = h.values rs := by
  apply List.map_congr_left
  intro r hr
  exact read_alloc_of_lt h v (hl r hr)

theorem Live.alloc {h : Heap α} {rs : List Ref} (hl : h.Live rs) (v : α) : (h.alloc v).Live rs := by
  intro r hr
  exact Nat.lt_succ_of_lt (hl r hr)

/-- A new object at the end of a list is live with the rest. -/
theorem Live.append_alloc {h : Heap α} {rs : List Ref} (hl : h.Live rs) (v : α) :
    (h.alloc v).Live (rs ++ [h.next]) := by
  intro r hr
  rcases List.mem_append.1 hr with hr | hr
  · exact hl.alloc v r hr
  · rw [List.mem_singleton.1 hr]; exact Nat.lt_succ_self _

theorem values_append_alloc {h : Heap α} {rs : List Ref} (hl : h.Live rs) (v : α) :
    (h.alloc v).values (rs ++ [h.next]) = h.values rs ++ [v] := by
  rw [values, List.map_append, ← values, values_alloc hl, List.map_singleton, read_alloc_self]

/-! ## Updates -/

@[simp] theorem modify_next (h : Heap α) (r : Ref) (f : α → α) : (h.modify r f).next = h.next := rfl

theorem read_modify (h : Heap α) (r x : Ref) (f : α → α) :
    (h.modify r f).read x = if x = r then f (h.read x) else h.read x := by
  by_cases hx : x = r
  · subst hx; simp [modify]
  · simp [modify, hx]

theorem values_modify (h : Heap α) (r : Ref) (f : α → α) (rs : List Ref) :
    (h.modify r f).values rs = rs.map fun x => if x = r then f (h.read x) else h.read x :=
  List.map_congr_left fun x _ => read_modify h r x f

/-- An update that a key tells apart: where the references with the key of `r` are exactly the
occurrences of `r`, the update is a map over the values. -/
theorem values_modify_key {κ : Type*} [DecidableEq κ] (key : α → κ) (h : Heap α) (r : Ref) (f : α → α)
    {rs : List Ref} (hk : ∀ x ∈ rs, key (h.read x) = key (h.read r) → x = r) :
    (h.modify r f).values rs =
      (h.values rs).map fun v => if key v = key (h.read r) then f v else v := by
  rw [values_modify, values, List.map_map]
  apply List.map_congr_left
  intro x hx
  simp only [Function.comp]
  by_cases hx' : x = r
  · subst hx'; rw [if_pos rfl, if_pos rfl]
  · -- an object with the key of `r` would be `r`
    rw [if_neg hx', if_neg fun he => hx' (hk x hx he)]

@[simp] theorem modifyAll_next (h : Heap α) (rs : List Ref) (f : α → α) :
    (h.modifyAll rs f).next = h.next := by
  induction rs generalizing h with
  | nil => rfl
  | cons r rs ih => exact ih (h.modify r f)

/-- An idempotent update of a list of objects reaches each of them, however often it occurs. -/
theorem read_modifyAll {f : α → α} (hf : ∀ v, f (f v) = f v) (h : Heap α) (rs : List Ref) (x : Ref) :
    (h.modifyAll rs f).read x = if x ∈ rs then f (h.read x) else h.read x := by
  induction rs generalizing h with
  | nil => simp [modifyAll]
  | cons r rs ih =>
    show ((h.modify r f).modifyAll rs f).read x = _
    rw [ih, read_modify]
    -- an object that occurs again is updated twice
    by_cases hr : x = r <;> by_cases hx : x ∈ rs <;> simp [hr, hx, hf]

theorem values_modifyAll {f : α → α} (hf : ∀ v, f (f v) = f v) (h : Heap α) (rs : List Ref) :
    (h.modifyAll rs f).values rs = (h.values rs).map f := by
  rw [values, values, List.map_map]
  apply List.map_congr_left
  intro x hx
  rw [read_modifyAll hf, if_pos hx]; rfl

/-! ## Loading a list of values -/

theorem allocAll_next (h : Heap α) (vs : List α) : (h.allocAll vs).1.next = h.next + vs.length := by
  induction vs generalizing h with
  | nil => rfl
  | cons v vs ih => simp only [allocAll, ih, alloc_next, List.length_cons]; omega

theorem allocAll_refs (h : Heap α) (vs : List α) :
    (h.allocAll vs).2 = List.range' h.next vs.length := by
  induction vs generalizing h with
  | nil => rfl
  | cons v vs ih => simp only [allocAll, ih, alloc_next, List.length_cons, List.range'_succ]

theorem allocAll_live (h : Heap α) (vs : List α) : (h.allocAll vs).1.Live (h.allocAll vs).2 := by
  intro r hr
  rw [allocAll_refs, List.mem_range'_1] at hr
  rw [allocAll_next]; exact hr.2

theorem read_allocAll_of_lt (h : Heap α) (vs : List α) {r : Ref} (hr : r < h.next) :
    (h.allocAll vs).1.read r = h.read r := by
  induction vs generalizing h with
  | nil => rfl
  | cons v vs ih =>
    simp only [allocAll]
    rw [ih (h.alloc v) (Nat.lt_succ_of_lt hr), read_alloc_of_lt h v hr]

theorem allocAll_values (h : Heap α) (vs : List α) : (h.allocAll vs).1.values (h.allocAll vs).2 = vs := by
  induction vs generalizing h with
  | nil => rfl
  | cons v vs ih =>
    simp only [allocAll, values, List.map_cons, List.cons.injEq]
    constructor
    · -- the later allocations leave the first object alone
      rw [read_allocAll_of_lt (h.alloc v) vs (Nat.lt_succ_self _), read_alloc_self]
    · exact ih (h.alloc v)

end Heap

end VpnSs
