import CharLcd.PathName

/-!
# Paths with another extension

The path of a file is that of a directory with a name after it. Another extension makes it the
path of another file in the same directory, unless it has that extension already.

- `PathName.IsDirectory`, `PathName.IsName`: the two parts of such a path (`split?_append`);
  `splitOn_append` says which names it leads through.
- `PathName.stem_append`, `PathName.extension?_append`, `PathName.stem_cases`: the parts of a name.
- `PathName.rename`: a name with another extension; `withExtension_append` says that only the name
  changes, and `rename_eq_self_iff` when it does not.
- `PathName.HasExtension`: paths with an extension.
-/

namespace CharLcd.PathName

/-- A list can be cut at the last place where an element stands. -/
theorem exists_last_of_mem {α : Type} {a : α} {l : List α} (h : a ∈ l) :
    ∃ before after, l = before ++ a :: after ∧ a ∉ after := by
  obtain ⟨after, before, hl, hafter⟩ := List.eq_append_cons_of_mem (List.mem_reverse.mpr h)
  refine ⟨before.reverse, after.reverse, ?_, fun hmem => hafter (List.mem_reverse.mp hmem)⟩
  rw [← List.reverse_reverse l, hl, List.reverse_append, List.reverse_cons, List.append_assoc]
  rfl

theorem ne_of_mem_reverse {c : Char} {l : List Char} (h : c ∉ l) :
    ∀ d ∈ l.reverse, decide (d ≠ c) = true := by
  intro d hd
  rw [decide_eq_true_eq]
  rintro rfl
  exact h (List.mem_reverse.mp hd)

/-! ## Directories and names -/

/-- What may stand before a name: nothing, or a text that ends in a slash. -/
def IsDirectory (directory : List Char) : Prop :=
  directory = [] ∨ ∃ outer, directory = outer ++ ['/']

/-- A name of a file. The names `.` and `..` are those of directories. -/
structure IsName (name : List Char) : Prop where
  noSlash : '/' ∉ name
  nonempty : name ≠ []
  notDot : name ≠ ['.']
  notDots : name ≠ ['.', '.']

/-- Every path is cut after its last slash. -/
theorem exists_directory_append (path : List Char) :
    ∃ directory name, path = directory ++ name ∧ IsDirectory directory ∧ '/' ∉ name := by
  by_cases hslash : '/' ∈ path
  · obtain ⟨outer, name, rfl, hname⟩ := exists_last_of_mem hslash
    exact ⟨outer ++ ['/'], name, by simp, .inr ⟨outer, rfl⟩, hname⟩
  · exact ⟨[], path, rfl, .inl rfl, hslash⟩

section

variable {directory name : List Char}

/-- The names that a path leads through are those of the directory, and the last one. -/
theorem splitOn_append (hdirectory : IsDirectory directory) (hname : '/' ∉ name) :
    (directory ++ name).splitOn '/' = (directory.splitOn '/').dropLast ++ [name] := by
  have hcut (outer last : List Char) (hlast : '/' ∉ last) :
      (outer ++ '/' :: last).splitOn '/' = outer.splitOn '/' ++ [last] := by
    refine (List.splitOnP_append_cons (p := (· == '/')) outer last (beq_self_eq_true '/')).trans ?_
    exact congrArg _ (List.splitOn_eq_singleton hlast)
  rcases hdirectory with rfl | ⟨outer, rfl⟩
  · exact List.splitOn_eq_singleton hname
  · rw [List.append_assoc, List.singleton_append, hcut outer name hname,
      hcut outer [] List.not_mem_nil, List.dropLast_concat]

/-- A path that ends in a name has nothing at its end to be dropped. -/
theorem dropTrailing_append (hslash : '/' ∉ name) (hempty : name ≠ []) (hdot : name ≠ ['.'])
    (rest : List Char) : dropTrailing (name ++ rest) = name ++ rest := by
  cases name with
  | nil => exact absurd rfl hempty
  | cons c name =>
    rw [List.mem_cons, not_or] at hslash
    obtain ⟨hc, hname⟩ := hslash
    unfold dropTrailing
    split
    next heq => exact absurd (List.cons.inj heq).1.symm hc
    next heq =>
      obtain ⟨rfl, htail⟩ := List.cons.inj heq
      cases name with
      | nil => exact absurd rfl hdot
      | cons d name =>
        obtain ⟨rfl, -⟩ := List.cons.inj htail
        exact absurd List.mem_cons_self hname
    next => rfl

/-- What stands after the last slash of a path, and what stands before. -/
theorem takeWhile_dropTrailing (hdirectory : IsDirectory directory) (hslash : '/' ∉ name)
    (hempty : name ≠ []) (hdot : name ≠ ['.']) :
    (dropTrailing (directory ++ name).reverse).takeWhile (· ≠ '/') = name.reverse ∧
      (dropTrailing (directory ++ name).reverse).dropWhile (· ≠ '/') = directory.reverse := by
  have hname := ne_of_mem_reverse hslash
  have hreversed :
      dropTrailing (directory ++ name).reverse = name.reverse ++ directory.reverse := by
    rw [List.reverse_append]
    refine dropTrailing_append (fun h => hslash (List.mem_reverse.mp h)) ?_ ?_ _
    · exact fun h => hempty (List.reverse_eq_nil_iff.mp h)
    · exact fun h => hdot (List.reverse_eq_iff.mp h)
  rw [hreversed, List.takeWhile_append_of_pos hname, List.dropWhile_append_of_pos hname]
  rcases hdirectory with rfl | ⟨outer, rfl⟩
  · exact ⟨List.append_nil _, rfl⟩
  · rw [List.reverse_append]
    exact ⟨List.append_nil _, rfl⟩

/-- A path is split into its directory and its name. -/
theorem split?_append (hdirectory : IsDirectory directory) (hname : IsName name) :
    split? (directory ++ name) = some (directory, name) := by
  obtain ⟨htake, hdrop⟩ :=
    takeWhile_dropTrailing hdirectory hname.noSlash hname.nonempty hname.notDot
  unfold split?
  dsimp only
  rw [htake, hdrop, List.reverse_reverse, List.reverse_reverse, if_neg]
  rintro (h | h | h)
  · exact hname.nonempty h
  · exact hname.notDot h
  · exact hname.notDots h

/-- Two dots are no name. -/
theorem split?_append_dots (hdirectory : IsDirectory directory) :
    split? (directory ++ ['.', '.']) = none := by
  obtain ⟨htake, -⟩ := takeWhile_dropTrailing hdirectory
    (by decide : '/' ∉ ['.', '.']) (by decide) (by decide)
  unfold split?
  dsimp only
  rw [htake]
  exact if_pos (.inr (.inr rfl))

end

/-! ## Stems and extensions -/

section

variable {base extension name : List Char}

/-- What stands after the last dot of a name, and what stands before. -/
theorem dropWhile_reverse_append (base : List Char) (hdot : '.' ∉ extension) :
    (base ++ '.' :: extension).reverse.dropWhile (· ≠ '.') = '.' :: base.reverse ∧
      (base ++ '.' :: extension).reverse.takeWhile (· ≠ '.') = extension.reverse := by
  have hextension := ne_of_mem_reverse hdot
  rw [List.reverse_append, List.reverse_cons, List.append_assoc,
    List.dropWhile_append_of_pos hextension, List.takeWhile_append_of_pos hextension]
  exact ⟨rfl, List.append_nil _⟩

theorem stem_append (hbase : base ≠ []) (hdot : '.' ∉ extension) :
    stem (base ++ '.' :: extension) = base := by
  unfold stem
  rw [(dropWhile_reverse_append _ hdot).1]
  cases hreverse : base.reverse with
  | nil => exact absurd (List.reverse_eq_nil_iff.mp hreverse) hbase
  | cons c rest =>
    dsimp only
    rw [← hreverse, List.reverse_reverse]

theorem extension?_append (hbase : base ≠ []) (hdot : '.' ∉ extension) :
    extension? (base ++ '.' :: extension) = some extension := by
  unfold extension?
  rw [(dropWhile_reverse_append _ hdot).1, (dropWhile_reverse_append _ hdot).2,
    List.reverse_reverse]
  cases hreverse : base.reverse with
  | nil => exact absurd (List.reverse_eq_nil_iff.mp hreverse) hbase
  | cons c rest => rfl

/-- A name is its stem, with its extension if it has one. -/
theorem stem_cases (name : List Char) :
    extension? name = none ∧ stem name = name ∨
      ∃ extension, extension? name = some extension ∧ '.' ∉ extension ∧ stem name ≠ [] ∧
        name = stem name ++ '.' :: extension := by
  by_cases hmem : '.' ∈ name
  · obtain ⟨before, after, rfl, hafter⟩ := exists_last_of_mem hmem
    by_cases hbefore : before = []
    · -- a dot at the start of a name begins no extension
      subst hbefore
      left
      unfold extension? stem
      rw [(dropWhile_reverse_append [] hafter).1]
      exact ⟨rfl, rfl⟩
    · right
      rw [stem_append hbefore hafter, extension?_append hbefore hafter]
      exact ⟨after, rfl, hafter, hbefore, rfl⟩
  · have hreverse : name.reverse.dropWhile (· ≠ '.') = [] := by
      rw [← List.append_nil name.reverse, List.dropWhile_append_of_pos (ne_of_mem_reverse hmem)]
      rfl
    left
    unfold extension? stem
    rw [hreverse]
    exact ⟨rfl, rfl⟩

/-! ## Other extensions -/

/-- A name with another extension. Two dots are left of a name like `..json`, which has a single
dot as its stem. -/
def rename (extension name : List Char) : List Char :=
  if stem name = ['.'] then ['.', '.'] else stem name ++ '.' :: extension

theorem IsName.dotted (hname : IsName (base ++ '.' :: extension)) (hempty : base ≠ [])
    (hdot : base ≠ ['.']) : IsName (base ++ ['.']) := by
  refine ⟨?_, by simp, ?_, ?_⟩
  · intro hslash
    refine hname.noSlash ?_
    rcases List.mem_append.mp hslash with h | h
    · exact List.mem_append_left _ h
    · exact absurd (List.mem_singleton.mp h) (by decide)
  · intro h
    have hcancel : base ++ ['.'] = [] ++ ['.'] := h
    exact hempty (List.append_cancel_right hcancel)
  · intro h
    have hcancel : base ++ ['.'] = ['.'] ++ ['.'] := h
    exact hdot (List.append_cancel_right hcancel)

section

variable {directory : List Char} (hdirectory : IsDirectory directory)

include hdirectory

theorem replaceExtension_append (hname : IsName name) :
    replaceExtension extension (directory ++ name) =
      directory ++ (stem name ++ '.' :: extension) := by
  unfold replaceExtension
  rw [split?_append hdirectory hname]
  exact List.append_assoc ..

theorem replaceExtension_append_dots :
    replaceExtension extension (directory ++ ['.', '.']) = directory ++ ['.', '.'] := by
  unfold replaceExtension
  rw [split?_append_dots hdirectory]

/-- Another extension changes the name and leaves the directory alone. -/
theorem withExtension_append (hname : IsName name) :
    withExtension extension (directory ++ name) = directory ++ rename extension name := by
  unfold withExtension
  rw [split?_append hdirectory hname, Option.bind_some]
  rcases stem_cases name with ⟨hnone, hstem⟩ | ⟨old, hsome, hold, hempty, heq⟩
  · rw [hnone, rename, hstem, if_neg hname.notDot]
    refine (replaceExtension_append hdirectory hname).trans ?_
    rw [hstem]
  · -- the old extension goes first, and its dot with the new one
    have hsplit : directory ++ name = directory ++ (stem name ++ ['.']) ++ old := by
      rw [List.append_assoc, List.append_assoc, List.singleton_append, ← heq]
    have htake : (directory ++ name).take ((directory ++ name).length - old.length) =
        directory ++ (stem name ++ ['.']) := by
      rw [hsplit, List.length_append, Nat.add_sub_cancel, List.take_left]
    rw [hsome]
    dsimp only
    rw [htake, rename]
    by_cases hdot : stem name = ['.']
    · rw [if_pos hdot, hdot]
      exact replaceExtension_append_dots hdirectory
    · rw [heq] at hname
      rw [if_neg hdot, replaceExtension_append hdirectory (hname.dotted hempty hdot),
        stem_append hempty List.not_mem_nil]

end

/-- The last component of a path has an extension. -/
def HasExtension (extension path : List Char) : Prop :=
  ((split? path).bind fun p => extension? p.2) = some extension

instance (extension path : List Char) : Decidable (HasExtension extension path) :=
  inferInstanceAs (Decidable (_ = _))

theorem hasExtension_append {directory : List Char} (hdirectory : IsDirectory directory)
    (hname : IsName name) :
    HasExtension extension (directory ++ name) ↔ extension? name = some extension := by
  rw [HasExtension, split?_append hdirectory hname, Option.bind_some]

theorem not_mem_rename (hname : '/' ∉ name) (hextension : '/' ∉ extension) :
    '/' ∉ rename extension name := by
  have hstem : '/' ∉ stem name := by
    rcases stem_cases name with ⟨-, hself⟩ | ⟨old, -, -, -, heq⟩
    · rw [hself]
      exact hname
    · intro h
      rw [heq] at hname
      exact hname (List.mem_append_left _ h)
  unfold rename
  by_cases hdot : stem name = ['.']
  · rw [if_pos hdot]
    decide
  · rw [if_neg hdot]
    intro h
    rcases List.mem_append.mp h with h | h
    · exact hstem h
    · rcases List.mem_cons.mp h with h | h
      · exact absurd h (by decide)
      · exact hextension h

/-- A name stays as it is with the extension that it has. -/
theorem rename_eq_self_iff (hdots : rename extension name ≠ ['.', '.']) :
    rename extension name = name ↔ extension? name = some extension := by
  have hstem : stem name ≠ ['.'] := fun h => hdots (if_pos h)
  rw [rename, if_neg hstem]
  rcases stem_cases name with ⟨hnone, hself⟩ | ⟨old, hsome, -, -, heq⟩
  · rw [hnone, hself]
    constructor
    · intro h
      simp at h
    · intro h
      cases h
  · rw [hsome, Option.some_inj]
    constructor
    · intro h
      exact (List.cons.inj (List.append_cancel_left (h.trans heq))).2.symm
    · rintro rfl
      exact heq.symm

end

end CharLcd.PathName
