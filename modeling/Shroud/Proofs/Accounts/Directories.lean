import Shroud.Accounts.Directory

/-!
# Directories under several numbers

A directory may be held under several numbers, and it makes no difference which of them is used:
what is inserted under one is found under all, and under no number of another directory
(`Directories.get?_run`).  Numbers stay with their directory for good, so this is said of any steps
one after another.
-/

set_option autoImplicit false

namespace Shroud.Accounts.Directories

/-- What is done to directories. -/
inductive Step where
  /-- A user is inserted into the directory under a number. -/
  | insert (number : Nat) (u : User)
  /-- A directory gets one more number. -/
  | share (number : Nat)
  /-- One more directory is set up. -/
  | add

variable {ds : Directories} {number place : Nat}

/-- The directories after a step. -/
def step (ds : Directories) : Step → Directories
  | .insert number u => ds.modify number (·.insert u)
  | .share number => ds.share number
  | .add => ds.add

/-- The directories after some steps. -/
def run (ds : Directories) (steps : List Step) : Directories := steps.foldl step ds

/-- The number leads to the directory at a place. -/
def Leads (ds : Directories) (number place : Nat) : Prop := ds.places[number]? = some place

instance : Decidable (ds.Leads number place) := inferInstanceAs (Decidable (_ = _))

/-- Every number leads to a directory. -/
def Sound (ds : Directories) : Prop := ∀ place ∈ ds.places, place < ds.directories.length

theorem sound_single : single.Sound := by
  intro place hplace
  obtain rfl := List.mem_singleton.mp hplace
  exact Nat.zero_lt_one

theorem Leads.get?_eq (h : ds.Leads number place) : ds.get? number = ds.directories[place]? := by
  rw [get?, h]
  rfl

/-! ## One step -/

theorem length_le_step (x : Step) : ds.directories.length ≤ (ds.step x).directories.length := by
  cases x with
  | insert number u =>
    rw [step, modify]
    split
    · exact Nat.le_of_eq (List.length_modify ..).symm
    · exact Nat.le_refl _
  | share number =>
    rw [step, share]
    split <;> exact Nat.le_refl _
  | add =>
    rw [step, add, List.length_append]
    exact Nat.le_add_right _ _

/-- A number stays with its directory. -/
theorem Leads.step (h : ds.Leads number place) (x : Step) : (ds.step x).Leads number place := by
  have hlt := (List.getElem?_eq_some_iff.mp h).1
  cases x with
  | insert number' u =>
    rw [Directories.step, modify]
    split <;> exact h
  | share number' =>
    rw [Directories.step, Directories.share]
    split
    · exact (List.getElem?_append_left hlt).trans h
    · exact h
  | add => exact (List.getElem?_append_left hlt).trans h

theorem Sound.step (h : ds.Sound) (x : Step) : (ds.step x).Sound := by
  intro place hplace
  cases x with
  | insert number u =>
    rw [Directories.step, modify] at hplace ⊢
    split at hplace
    · rw [List.length_modify]
      exact h place hplace
    · exact h place hplace
  | share number =>
    rw [Directories.step, Directories.share] at hplace ⊢
    split at hplace
    · rename_i place' hleads
      rcases List.mem_append.mp hplace with hplace | hplace
      · exact h place hplace
      · obtain rfl := List.mem_singleton.mp hplace
        exact h place (List.mem_of_getElem? hleads)
    · exact h place hplace
  | add =>
    rw [Directories.step, Directories.add, List.length_append]
    rcases List.mem_append.mp hplace with hplace | hplace
    · exact Nat.lt_add_right _ (h place hplace)
    · obtain rfl := List.mem_singleton.mp hplace
      exact Nat.lt_add_one _

/-- The users that a step inserts into the directory at a place. -/
def inserted (ds : Directories) (place : Nat) : Step → List User
  | .insert number u => if ds.Leads number place then [u] else []
  | _ => []

/-- A step does to the directory at a place what it does under one of its numbers. -/
theorem getElem?_step (hplace : place < ds.directories.length) (x : Step) :
    (ds.step x).directories[place]? =
      ds.directories[place]?.map fun d ↦ (ds.inserted place x).foldl Directory.insert d := by
  cases x with
  | insert number u =>
    rw [step, modify, inserted]
    cases hnumber : ds.places[number]? with
    | none =>
      have hleads : ¬ ds.Leads number place := by
        rw [Leads, hnumber]
        nofun
      simp [hleads]
    | some place' =>
      by_cases h : place' = place
      · subst h
        have hleads : ds.Leads number place' := hnumber
        simp [hleads]
      · have hleads : ¬ ds.Leads number place :=
          fun hplace ↦ h (Option.some.inj (hnumber.symm.trans hplace))
        simp [h, hleads]
  | share number =>
    have hsame : (ds.step (.share number)).directories = ds.directories := by
      rw [step, share]
      split <;> rfl
    simp [hsame, inserted]
  | add =>
    have hbefore : (ds.step .add).directories[place]? = ds.directories[place]? :=
      List.getElem?_append_left hplace
    simp [hbefore, inserted]

/-! ## Any steps -/

/-- The users that are inserted into the directory at a place, under whichever of its numbers. -/
def written (place : Nat) : Directories → List Step → List User
  | _, [] => []
  | ds, x :: rest => ds.inserted place x ++ written place (ds.step x) rest

theorem Leads.run (h : ds.Leads number place) (steps : List Step) :
    (ds.run steps).Leads number place := by
  induction steps generalizing ds with
  | nil => exact h
  | cons x rest ih => exact ih (h.step x)

theorem Sound.run (h : ds.Sound) (steps : List Step) : (ds.run steps).Sound := by
  induction steps generalizing ds with
  | nil => exact h
  | cons x rest ih => exact ih (h.step x)

theorem getElem?_run (hplace : place < ds.directories.length) (steps : List Step) :
    (ds.run steps).directories[place]? =
      ds.directories[place]?.map fun d ↦ (written place ds steps).foldl Directory.insert d := by
  induction steps generalizing ds with
  | nil => simp [run, written]
  | cons x rest ih =>
    have hrest := ih (Nat.lt_of_lt_of_le hplace (length_le_step x))
    have hrun : ds.run (x :: rest) = (ds.step x).run rest := rfl
    rw [hrun, hrest, getElem?_step hplace, Option.map_map, written]
    simp only [Function.comp_def, List.foldl_append]

/-- **All numbers of a directory see the same users**: those it had and those that were inserted
since, be it under this number or under another one of the directory, and no others. -/
theorem get?_run (hds : ds.Sound) (h : ds.Leads number place) (steps : List Step) :
    (ds.run steps).get? number =
      (ds.get? number).map fun d ↦ (written place ds steps).foldl Directory.insert d := by
  rw [(h.run steps).get?_eq, h.get?_eq]
  exact getElem?_run (hds place (List.mem_of_getElem? h)) steps

/-- A number that was added to a directory sees the users that the others see, and goes on to. -/
theorem get?_run_share (hds : ds.Sound) (h : ds.Leads number place) (steps : List Step) :
    ((ds.share number).run steps).get? ds.places.length =
      ((ds.share number).run steps).get? number := by
  have hshare : ds.share number = ⟨ds.directories, ds.places ++ [place]⟩ := by
    rw [share, h]
  have hnew : (ds.share number).Leads ds.places.length place := by
    rw [hshare]
    exact List.getElem?_concat_length
  have hold : (ds.share number).Leads number place := h.step (.share number)
  have hsound : (ds.share number).Sound := hds.step (.share number)
  rw [get?_run hsound hnew, get?_run hsound hold, hnew.get?_eq, hold.get?_eq]

end Shroud.Accounts.Directories
