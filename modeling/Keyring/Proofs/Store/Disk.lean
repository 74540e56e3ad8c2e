import Keyring.Store.Disk

/-! Stores that are closed and opened again. Once a path has led to a file, the directories on the way are there, so
the same path leads to the same file, and the file holds the table that was left in it. -/
namespace Keyring.Disk

variable {d e : Disk} {path : String} {place : Path}

/-! ### The way to a file -/

theorem isDirectory_mono (h : d.directories ⊆ e.directories) {p : Path} (hp : d.isDirectory p = true) :
    e.isDirectory p = true := by
  rw [isDirectory, Bool.or_eq_true, List.contains_iff_mem] at hp ⊢
  exact hp.imp_right fun hmem => h hmem

theorem subset_makeDirectories {here parent : Path} {names : List String}
    (h : d.makeDirectories here names = (.ok parent, e)) : d.directories ⊆ e.directories := by
  induction names generalizing d here with
  | nil =>
    cases h
    exact fun _ hp => hp
  | cons name rest ih =>
    rw [makeDirectories] at h
    split at h
    · exact ih h
    · split at h
      · cases h
      · exact fun p hp => ih h (List.mem_cons_of_mem _ hp)

/-- A second walk finds every directory and makes none. -/
theorem makeDirectories_again {f : Disk} {here parent : Path} {names : List String}
    (h : d.makeDirectories here names = (.ok parent, e)) (hsub : e.directories ⊆ f.directories) :
    f.makeDirectories here names = (.ok parent, f) := by
  induction names generalizing d here with
  | nil =>
    cases h
    rfl
  | cons name rest ih =>
    rw [makeDirectories] at h ⊢
    have hnext : f.isDirectory (Path.step here name) = true ∧
        ∃ d' : Disk, d'.makeDirectories (Path.step here name) rest = (.ok parent, e) := by
      split at h
      · next hdir => exact ⟨isDirectory_mono (fun p hp => hsub (subset_makeDirectories h hp)) hdir, _, h⟩
      · split at h
        · cases h
        · have hmem := hsub (subset_makeDirectories h List.mem_cons_self)
          exact ⟨by simp [isDirectory, hmem], _, h⟩
    obtain ⟨hdir, d', hrest⟩ := hnext
    rw [if_pos hdir]
    exact ih hrest

/-- The path leads to the file, through directories that are there. -/
structure Leads (d : Disk) (path : String) (place : Path) : Prop where
  parent_usable : Path.isUsableText (Path.parentText path) = true
  walk : ∃ parent name, d.makeDirectories [] (Path.ofString path).dropLast = (.ok parent, d)
    ∧ (Path.ofString path).getLast? = some name ∧ place = parent ++ [name]
    ∧ ¬ (Path.isUsableText path = false ∨ Path.isUsableName name = false ∨ Path.isDirectoryText path
      ∨ d.isDirectory place)

theorem openStore_of_leads (h : d.Leads path place) : d.openStore path = d.hold place := by
  obtain ⟨parent, name, hwalk, hname, rfl, hplain⟩ := h.walk
  simp only [openStore, h.parent_usable, hwalk, hname, if_neg hplain]
  rfl

theorem Leads.of_directories (h : d.Leads path place) (heq : e.directories = d.directories) :
    e.Leads path place := by
  obtain ⟨parent, name, hwalk, hname, hplace, hplain⟩ := h.walk
  have hdir : e.isDirectory place = d.isDirectory place := by simp only [isDirectory, heq]
  refine ⟨h.parent_usable, parent, name, makeDirectories_again hwalk (by rw [heq]; exact fun _ hp => hp), hname,
    hplace, ?_⟩
  rwa [hdir]

/-! ### Files -/

theorem lookup_append_of_not_mem {files : List (Path × File)} {p : Path} (h : ∀ e ∈ files, e.1 ≠ p) (f : File) :
    (files ++ [(p, f)]).lookup p = some f := by
  induction files with
  | nil => simp
  | cons e files ih =>
    rw [List.forall_mem_cons] at h
    rw [List.cons_append, List.lookup_cons, beq_false_of_ne fun heq => h.1 heq.symm]
    exact ih h.2

@[simp] theorem file?_write (d : Disk) (p : Path) (f : File) : (d.write p f).file? p = some f :=
  lookup_append_of_not_mem (fun e he => by simpa using (List.mem_filter.1 he).2) f

theorem hold_eq_ok {p : Path} {store : Store} (h : d.hold p = (.ok (place, store), e)) :
    place = p ∧ store.writable = true ∧ e.directories = d.directories := by
  rw [hold] at h
  split at h
  · cases h
  · split at h <;> cases h <;> exact ⟨rfl, rfl, rfl⟩

theorem leads_of_openStore {store : Store} (h : d.openStore path = (.ok (place, store), e)) :
    e.Leads path place ∧ store.writable = true := by
  simp only [openStore] at h
  split at h
  · cases h
  · next husable =>
    split at h
    · cases h
    · next parent d₁ hwalk =>
      split at h
      · cases h
      · next name hname =>
        split at h
        · cases h
        · next hplain =>
          obtain ⟨rfl, hwritable, hdirectories⟩ := hold_eq_ok h
          have hleads : d₁.Leads path (parent ++ [name]) :=
            ⟨by simpa using husable, parent, name, makeDirectories_again hwalk fun _ hp => hp, hname, rfl, hplain⟩
          exact ⟨hleads.of_directories hdirectories, hwritable⟩

/-- A file that is closed can be opened by the same path, and holds the table that was left in it. -/
theorem openStore_close (h : d.Leads path place) (store : Store) :
    ∃ e, (d.close place store).openStore path = (.ok (place, { table := store.table }), e) ∧
      e.Leads path place := by
  have hclosed : (d.close place store).Leads path place := h.of_directories rfl
  have hfree : place ∉ (d.close place store).held := by simp [close]
  have hfile : (d.close place store).file? place = some (.table store.table) := file?_write d place _
  have hhold : (d.close place store).hold place = (.ok (place, { table := store.table }),
      { d.close place store with held := place :: (d.close place store).held }) := by
    rw [hold, if_neg hfree, hfile]
  exact ⟨_, (openStore_of_leads hclosed).trans hhold, hclosed.of_directories rfl⟩

end Keyring.Disk
