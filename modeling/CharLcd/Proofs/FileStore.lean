import CharLcd.FileStore
import CharLcd.Proofs.PathName
import Mathlib.Logic.Function.Iterate

/-!
# Files that have been written

What has been written to a path is read there, also after another file has been written beside it.

- `FileStore.walk_put`: a file that is put where no directory is does not stand in the way of
  any path.
- `FileStore.Founded`: what is above a place is a directory; `founded_of_foldlM` says so of all
  places that names lead to.
- `FileStore.exists_place_of_write`: a text is written where its path leads; with
  `exists_directory_of_write` that is a name in the directory before it.
- `FileStore.read_of_write`, `FileStore.exists?_of_read`: afterwards the file is there, with the
  text.
- `FileStore.read_of_write_beside`: it stays when another name in its directory is written to.
-/

namespace CharLcd

/-- A step that succeeds after another comes after a success. -/
theorem exists_of_bind_eq_ok {ε α β : Type} {x : Except ε α} {f : α → Except ε β} {b : β}
    (h : x >>= f = .ok b) : ∃ a, x = .ok a ∧ f a = .ok b := by
  cases x with
  | error e => cases h
  | ok a => exact ⟨a, rfl, h⟩

namespace FileStore

variable {s : FileStore} {place start next : Place}

/-! ## Ways -/

/-- Names are found in directories only. -/
theorem get?_of_enter {name : String} (h : s.enter start name = .ok next) :
    s.get? start = some .directory := by
  unfold enter at h
  split at h
  next => cases h
  next hstart => exact hstart
  next => cases h

/-- The ways that a name can lead. -/
theorem enter_cases {name : String} (h : s.enter start name = .ok next) :
    (name = "" ∨ name = ".") ∧ next = start ∨ name = ".." ∧ next = up start ∨
      ¬ (name = "" ∨ name = ".") ∧ name ≠ ".." ∧ next = name :: start := by
  rw [enter, get?_of_enter h] at h
  dsimp only at h
  by_cases hstay : name = "" ∨ name = "."
  · rw [if_pos hstay] at h
    exact .inl ⟨hstay, (Except.ok.inj h).symm⟩
  · rw [if_neg hstay] at h
    by_cases hup : name = ".."
    · rw [if_pos hup] at h
      exact .inr (.inl ⟨hup, (Except.ok.inj h).symm⟩)
    · rw [if_neg hup] at h
      by_cases hlong : maxNameSize < name.utf8ByteSize
      · rw [if_pos hlong] at h
        cases h
      · rw [if_neg hlong] at h
        exact .inr (.inr ⟨hstay, hup, (Except.ok.inj h).symm⟩)

/-- The name `.` leads from a directory to itself. -/
theorem enter_dot (h : s.enter start "." = .ok next) : next = start := by
  rw [enter, get?_of_enter h] at h
  exact (Except.ok.inj h).symm

theorem enter_put {name : String} (e : Entry) (hplace : s.get? place ≠ some .directory)
    (h : s.enter start name = .ok next) : (s.put place e).enter start name = .ok next := by
  have hne : start ≠ place := by
    rintro rfl
    exact hplace (get?_of_enter h)
  rw [enter, get?_put_of_ne s e hne]
  exact h

theorem foldlM_enter_put {names : List String} (e : Entry)
    (hplace : s.get? place ≠ some .directory) (h : names.foldlM s.enter start = .ok next) :
    names.foldlM (s.put place e).enter start = .ok next := by
  induction names generalizing start with
  | nil => exact h
  | cons name names ih =>
    rw [List.foldlM_cons] at h ⊢
    obtain ⟨between, hname, h⟩ := exists_of_bind_eq_ok h
    rw [enter_put e hplace hname]
    exact ih h

/-- A file that is put where no directory is does not stand in the way of any path. -/
theorem walk_put {names : List String} (e : Entry) (hplace : s.get? place ≠ some .directory)
    (h : s.walk names = .ok next) : (s.put place e).walk names = .ok next :=
  foldlM_enter_put e hplace h

/-- The last name leads on from where the others lead. -/
theorem exists_of_foldlM_append_singleton {names : List String} {name : String}
    (h : (names ++ [name]).foldlM s.enter start = .ok next) :
    ∃ place, names.foldlM s.enter start = .ok place ∧ s.enter place name = .ok next := by
  rw [List.foldlM_append] at h
  obtain ⟨place, hway, h⟩ := exists_of_bind_eq_ok h
  rw [List.foldlM_cons] at h
  obtain ⟨last, hlast, hnil⟩ := exists_of_bind_eq_ok h
  cases hnil
  exact ⟨place, hway, hlast⟩

/-- The way to the directory around a name ends at a directory. -/
theorem get?_of_walk_directoryOf {names : List String}
    (h : s.walk (directoryOf names) = .ok place) : s.get? place = some .directory := by
  rw [walk, directoryOf] at h
  obtain ⟨way, -, hdot⟩ := exists_of_foldlM_append_singleton h
  rw [enter_dot hdot]
  exact get?_of_enter hdot

theorem locate_put {path : String} (e : Entry) (hplace : s.get? place ≠ some .directory)
    (h : s.locate path = .ok next) : (s.put place e).locate path = .ok next := by
  obtain ⟨names, hnames, hwalk⟩ := exists_of_bind_eq_ok h
  rw [locate, hnames]
  exact walk_put e hplace hwalk

/-! ## Ways up -/

/-- All that is above a place is a directory. -/
def Founded (s : FileStore) (place : Place) : Prop :=
  ∀ n, s.get? (up^[n + 1] place) = some .directory

/-- Above a place that is always there are only such places. -/
theorem alwaysThere_up (h : place.alwaysThere = true) :
    Place.alwaysThere (up place) = true := by
  unfold up
  split
  next => rfl
  next rest => simpa [Place.alwaysThere] using h
  next => rfl
  next name rest hdots hroot =>
    rw [Place.alwaysThere, Bool.or_eq_true, List.all_cons, Bool.and_eq_true, decide_eq_true_eq,
      decide_eq_true_eq] at h
    rcases h with ⟨hname, -⟩ | hname
    · exact absurd hname hdots
    · obtain ⟨hname, hrest⟩ := List.cons.inj hname
      exact absurd hrest (hroot hname)

theorem founded_of_alwaysThere (h : place.alwaysThere = true) : s.Founded place := by
  have habove (n : Nat) : Place.alwaysThere (up^[n] place) = true := by
    induction n with
    | zero => exact h
    | succ n ih =>
      rw [Function.iterate_succ_apply']
      exact alwaysThere_up ih
  exact fun n => if_pos (habove (n + 1))

/-- If all that is above a place is a directory, so is all that is above the next one. -/
theorem Founded.enter {name : String} (hstart : s.Founded start)
    (h : s.enter start name = .ok next) : s.Founded next := by
  rcases enter_cases h with ⟨-, rfl⟩ | ⟨-, rfl⟩ | ⟨-, hdots, rfl⟩
  · exact hstart
  · exact fun n => hstart (n + 1)
  · by_cases hroot : name :: start = ["/"]
    · rw [hroot]
      exact founded_of_alwaysThere rfl
    · have hup : up (name :: start) = start := by
        unfold up
        split
        next heq => cases heq
        next heq => exact absurd (List.cons.inj heq).1 hdots
        next heq => exact absurd heq hroot
        next heq => exact (List.cons.inj heq).2.symm
      intro n
      rw [Function.iterate_succ_apply, hup]
      cases n with
      | zero => exact get?_of_enter h
      | succ n => exact hstart n

/-- Whatever is above the place that names lead to is a directory. -/
theorem founded_of_foldlM {names : List String} (hstart : s.Founded start)
    (h : names.foldlM s.enter start = .ok next) : s.Founded next := by
  induction names generalizing start with
  | nil =>
    cases h
    exact hstart
  | cons name names ih =>
    rw [List.foldlM_cons] at h
    obtain ⟨between, hname, h⟩ := exists_of_bind_eq_ok h
    exact ih (hstart.enter hname) h

/-- A way that ends at no directory ends with a name, after a way to a directory. -/
theorem exists_of_walk_append_singleton {names : List String} {name : String}
    (h : s.walk (names ++ [name]) = .ok next) (hnext : s.get? next ≠ some .directory) :
    ∃ place, s.walk names = .ok place ∧ name ≠ "" ∧ name ≠ "." ∧ name ≠ ".." ∧
      next = name :: place := by
  rw [walk] at h
  obtain ⟨place, hway, hlast⟩ := exists_of_foldlM_append_singleton h
  rcases enter_cases hlast with ⟨-, rfl⟩ | ⟨-, rfl⟩ | ⟨hstay, hdots, rfl⟩
  · exact absurd (get?_of_enter hlast) hnext
  · -- what is above the way is a directory
    refine absurd (founded_of_foldlM (founded_of_alwaysThere ?_) hway 0) hnext
    split <;> rfl
  · rw [not_or] at hstay
    refine ⟨place, ?_, hstay.1, hstay.2, hdots, rfl⟩
    have hhead : (names ++ [name]).head? = some "" ↔ names.head? = some "" := by
      cases names with
      | nil => simpa using hstay.1
      | cons first names => rfl
    rw [if_congr hhead rfl rfl] at hway
    exact hway

/-! ## Writing -/

variable {path content : String} {written : FileStore}

/-- A text is written where its path leads, and not in the place of a directory. -/
theorem exists_place_of_write (h : s.write path content = .ok written) :
    ∃ place, s.locate path = .ok place ∧ s.get? place ≠ some .directory ∧
      written = s.put place (.text content) := by
  obtain ⟨names, hnames, h⟩ := exists_of_bind_eq_ok h
  obtain ⟨place, hwalk, h⟩ := exists_of_bind_eq_ok h
  by_cases hdirectory : s.get? place = some .directory
  · rw [if_pos hdirectory] at h
    cases h
  · rw [if_neg hdirectory] at h
    refine ⟨place, ?_, hdirectory, (Except.ok.inj h).symm⟩
    -- a path that ends in a slash would lead to a directory
    by_cases hslash : names.getLast? = some ""
    · rw [if_pos hslash] at hwalk
      exact absurd (get?_of_walk_directoryOf hwalk) hdirectory
    · rw [if_neg hslash] at hwalk
      rw [locate, hnames]
      exact hwalk

/-- What has been written stands where its path leads. -/
theorem locate_of_write (h : s.write path content = .ok written) :
    ∃ place, written.locate path = .ok place ∧ written.get? place = some (.text content) := by
  obtain ⟨place, hlocate, hdirectory, rfl⟩ := exists_place_of_write h
  refine ⟨place, locate_put _ hdirectory hlocate, ?_⟩
  refine get?_put_self s _ (Bool.eq_false_iff.mpr ?_)
  intro hthere
  exact hdirectory (if_pos hthere)

/-- What is read stands where the path leads. -/
theorem read_eq_ok_iff : s.read path = .ok content ↔
    ∃ place, s.locate path = .ok place ∧ s.get? place = some (.text content) := by
  constructor
  · intro h
    obtain ⟨place, hlocate, h⟩ := exists_of_bind_eq_ok h
    refine ⟨place, hlocate, ?_⟩
    split at h
    next => cases h
    next => cases h
    next found hentry =>
      cases h
      exact hentry
    next => cases h
  · rintro ⟨place, hlocate, hentry⟩
    simp only [read, hlocate, bind, Except.bind, hentry]
    rfl

/-- What has been written to a path is read there. -/
theorem read_of_write (h : s.write path content = .ok written) :
    written.read path = .ok content :=
  read_eq_ok_iff.mpr (locate_of_write h)

/-- What can be read is there. -/
theorem exists?_of_read (h : s.read path = .ok content) : s.exists? path = true := by
  obtain ⟨place, hlocate, hentry⟩ := read_eq_ok_iff.mp h
  simp only [exists?, hlocate, hentry]
  rfl

/-- A file that is put elsewhere, where no directory is, changes no other. -/
theorem read_put_of_ne (e : Entry) (hplace : s.get? place ≠ some .directory)
    (hne : s.locate path ≠ .ok place) (h : s.read path = .ok content) :
    (s.put place e).read path = .ok content := by
  obtain ⟨found, hlocate, hentry⟩ := read_eq_ok_iff.mp h
  refine read_eq_ok_iff.mpr ⟨found, locate_put e hplace hlocate, ?_⟩
  rw [get?_put_of_ne, hentry]
  rintro rfl
  exact hne hlocate

/-! ## Directories -/

section

open PathName

variable {other text : String} {directory name last : List Char} {after : FileStore}

theorem eq_of_namesOf_eq_ok {names : List String} (h : namesOf path = .ok names) :
    names = (path.toList.splitOn '/').map String.ofList := by
  unfold namesOf at h
  split at h
  next => cases h
  next =>
    split at h
    next => cases h
    next =>
      split at h
      next => cases h
      next => exact (Except.ok.inj h).symm

/-- The names that lead to the directory of a path. -/
def outerNames (directory : List Char) : List String :=
  (directory.splitOn '/').dropLast.map String.ofList

theorem namesOf_append {names : List String} (h : namesOf path = .ok names)
    (hpath : path.toList = directory ++ name) (hdirectory : IsDirectory directory)
    (hslash : '/' ∉ name) : names = outerNames directory ++ [String.ofList name] := by
  rw [eq_of_namesOf_eq_ok h, hpath, splitOn_append hdirectory hslash, List.map_append]
  rfl

/-- A text is written to a name in the directory that the path leads to before. -/
theorem exists_directory_of_write (h : s.write path content = .ok written)
    (hpath : path.toList = directory ++ name) (hdirectory : IsDirectory directory)
    (hslash : '/' ∉ name) :
    ∃ place, IsName name ∧ s.walk (outerNames directory) = .ok place ∧
      s.locate path = .ok (String.ofList name :: place) ∧
      s.get? (String.ofList name :: place) ≠ some .directory ∧
      written = s.put (String.ofList name :: place) (.text content) := by
  obtain ⟨target, hlocate, htarget, hwritten⟩ := exists_place_of_write h
  obtain ⟨names, hnames, hwalk⟩ := exists_of_bind_eq_ok hlocate
  rw [namesOf_append hnames hpath hdirectory hslash] at hwalk
  obtain ⟨place, houter, hempty, hdot, hdots, rfl⟩ :=
    exists_of_walk_append_singleton hwalk htarget
  refine ⟨place, ⟨hslash, ?_, ?_, ?_⟩, houter, hlocate, htarget, hwritten⟩
  · rintro rfl
    exact hempty rfl
  · rintro rfl
    exact hdot rfl
  · rintro rfl
    exact hdots rfl

/-- What has been written to a path stays there when a file beside it is written. -/
theorem read_of_write_beside (h : s.write path content = .ok written)
    (hafter : written.write other text = .ok after)
    (hpath : path.toList = directory ++ name) (hother : other.toList = directory ++ last)
    (hdirectory : IsDirectory directory) (hname : '/' ∉ name) (hlast : '/' ∉ last)
    (hne : name ≠ last) : after.read path = .ok content := by
  obtain ⟨place, -, hwalk, hlocate, hfree, rfl⟩ :=
    exists_directory_of_write h hpath hdirectory hname
  obtain ⟨place', -, hwalk', -, hfree', rfl⟩ :=
    exists_directory_of_write hafter hother hdirectory hlast
  -- the first file does not stand in the way of the second
  obtain rfl : place = place' :=
    Except.ok.inj ((walk_put _ hfree hwalk).symm.trans hwalk')
  refine read_put_of_ne _ hfree' ?_ (read_of_write h)
  rw [locate_put _ hfree hlocate]
  intro heq
  exact hne (String.ofList_injective (List.cons.inj (Except.ok.inj heq)).1)

end

end FileStore

end CharLcd
