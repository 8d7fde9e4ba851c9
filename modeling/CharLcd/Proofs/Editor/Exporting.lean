import CharLcd.Proofs.Editor.Reopening

/-!
# Exporting beside the design

A sketch is exported to the path of its design, with the extension `ino`. A design that has this
extension itself is replaced by its sketch.

- `DesignFile.parse_code_ne_ok`: a sketch is no design.
- `exists_names_of_write`: a design and its sketch are two names in one directory.
- `sketchPath_eq_self_iff`: when they are one file.
- `Editor.export_keeps_design`: what a run says of a design that is saved, and of its sketch.
-/

namespace CharLcd

open PathName

/-! ## Sketches are no designs -/

/-- A sketch begins with a comment. -/
theorem Sketch.Program.head?_text_build (t : GlyphTable) (plan : Plan) (o : Options) :
    (Sketch.Program.build t plan o).text.toList.head? = some '/' := by
  unfold Sketch.Program.text Sketch.Program.lines Sketch.Program.build
  rw [String.toList_join]
  cases o.transmission <;> rfl

namespace Json

theorem run_stuck (text : List Char) : Mode.stuck.run [] text = [] := by
  induction text with
  | nil => rfl
  | cons c text ih => exact ih

/-- A slash begins no value. -/
theorem ofText_of_head? {text : String} (h : text.toList.head? = some '/') :
    Document.ofText text = ⟨.broken .stray, false⟩ := by
  unfold Document.ofText tokens
  cases htext : text.toList with
  | nil =>
    rw [htext] at h
    cases h
  | cons c rest =>
    rw [htext] at h
    cases h
    rw [Mode.run_cons]
    show Document.ofTokens ([.broken .stray] ++ Mode.stuck.run [] rest) = _
    rw [run_stuck]
    rfl

end Json

/-- No design is read from a sketch. -/
theorem DesignFile.parse_code_ne_ok (d : Display) (o : Options) (f : DesignFile) :
    DesignFile.parse (Compiled.ofDesign d o).code ≠ .ok f := by
  have hslash : (Compiled.ofDesign d o).code.toList.head? = some '/' :=
    Sketch.Program.head?_text_build _ _ _
  unfold DesignFile.parse Reader.document
  rw [Json.ofText_of_head? hslash]
  exact nofun

/-! ## The path of the sketch -/

/-- The extension of sketches. -/
def sketchExtension : List Char := ['i', 'n', 'o']

section

variable {files written after : FileStore} {path text code : String}

/-- A design and its sketch that are written one after the other are two names in one directory. -/
theorem exists_names_of_write (hdesign : files.write path text = .ok written)
    (hsketch : written.write (sketchPath path) code = .ok after) :
    ∃ directory name, path.toList = directory ++ name ∧
      (sketchPath path).toList = directory ++ rename sketchExtension name ∧
      IsDirectory directory ∧ IsName name ∧ IsName (rename sketchExtension name) := by
  obtain ⟨directory, name, hpath, hdirectory, hslash⟩ := exists_directory_append path.toList
  obtain ⟨-, hname, -⟩ := FileStore.exists_directory_of_write hdesign hpath hdirectory hslash
  have hsketchPath : (sketchPath path).toList = directory ++ rename sketchExtension name := by
    rw [sketchPath, String.toList_ofList, hpath]
    exact withExtension_append hdirectory hname
  obtain ⟨-, hrenamed, -⟩ := FileStore.exists_directory_of_write hsketch hsketchPath hdirectory
    (not_mem_rename hslash (by decide))
  exact ⟨directory, name, hpath, hsketchPath, hdirectory, hname, hrenamed⟩

/-- They are one file if the design has the extension of sketches. -/
theorem sketchPath_eq_self_iff (hdesign : files.write path text = .ok written)
    (hsketch : written.write (sketchPath path) code = .ok after) :
    sketchPath path = path ↔ HasExtension sketchExtension path.toList := by
  obtain ⟨directory, name, hpath, hsketchPath, hdirectory, hname, hrenamed⟩ :=
    exists_names_of_write hdesign hsketch
  rw [← String.toList_inj, hsketchPath, hpath, List.append_right_inj,
    hasExtension_append hdirectory hname, rename_eq_self_iff hrenamed.notDots]

/-- Otherwise the design stays when the sketch is written. -/
theorem read_of_write_sketch (hdesign : files.write path text = .ok written)
    (hsketch : written.write (sketchPath path) code = .ok after)
    (hextension : ¬ HasExtension sketchExtension path.toList) : after.read path = .ok text := by
  obtain ⟨directory, name, hpath, hsketchPath, hdirectory, hname, hrenamed⟩ :=
    exists_names_of_write hdesign hsketch
  refine FileStore.read_of_write_beside hdesign hsketch hpath hsketchPath hdirectory
    hname.noSlash hrenamed.noSlash ?_
  intro heq
  rw [← sketchPath_eq_self_iff hdesign hsketch, ← String.toList_inj, hsketchPath, hpath, ← heq]
    at hextension
  exact hextension rfl

end

namespace Editor

/-! ## Exported sketches -/

section

variable {s exported : Editor} {files after : FileStore}

theorem exportSketch_eq_ok_iff :
    s.exportSketch files = .ok (exported, after) ↔
      files.write s.exportPath s.session.code = .ok after ∧ exported = s.exported := by
  constructor
  · intro h
    unfold exportSketch at h
    split at h
    next => cases h
    next hwrite =>
      cases h
      exact ⟨hwrite, rfl⟩
  · rintro ⟨h, rfl⟩
    rw [exportSketch, h]

/-- The sketch that is exported after saving is that of the session before. -/
theorem exportSketch_saved_eq_ok_iff :
    s.saved.exportSketch files = .ok (exported, after) ↔
      files.write s.exportPath s.session.code = .ok after ∧ exported = s.saved.exported :=
  exportSketch_eq_ok_iff

/-- No editor is opened on a file that holds the sketch of a session. -/
theorem openFile_ne_ok_of_read_code (hs : s.session.Current)
    (h : files.read s.path = .ok s.session.code) (config : EditorConfig) (opened : Editor) :
    openFile s.path (CommandLine.lookUp files s.path) config ≠ .ok opened := by
  intro hopen
  obtain ⟨d, o, hfound, -⟩ := openFile_eq_ok hopen
  rw [CommandLine.lookUp, if_pos (FileStore.exists?_of_read h)] at hfound
  obtain ⟨text, htext, f, hparse, -⟩ := loadDisplay_eq_ok_iff.mp hfound
  rw [h] at htext
  cases htext
  rw [Session.code, hs] at hparse
  exact DesignFile.parse_code_ne_ok _ _ f hparse

end

/-- After any run from an opened file, a design is saved and its sketch exported. The sketch is
another file unless the design has the extension of sketches, and then the design is still what was
saved, and an editor on it has the same display and options. A design that has this extension is
replaced by its sketch, and no editor is opened on it. -/
theorem export_keeps_design {path : String} {content : Option (Except FileError String)}
    {config : EditorConfig} {opened saved exported : Editor} {files written after : FileStore}
    (h : openFile path content config = .ok opened) (ms : List Move)
    (hsave : (opened.moves ms).save files = .ok (saved, written))
    (hexport : saved.exportSketch written = .ok (exported, after)) :
    let s := opened.moves ms
    (s.exportPath = s.path ↔ HasExtension sketchExtension s.path.toList) ∧
    (¬ HasExtension sketchExtension s.path.toList →
      after.read s.path = .ok s.fileText ∧
      ∀ config, ∃ reopened,
        openFile s.path (CommandLine.lookUp after s.path) config = .ok reopened ∧
        reopened.session.display = s.session.display ∧
        reopened.session.options = s.session.options) ∧
    (HasExtension sketchExtension s.path.toList →
      after.read s.path = .ok s.session.code ∧
      ∀ config reopened,
        openFile s.path (CommandLine.lookUp after s.path) config ≠ .ok reopened) := by
  intro s
  have hs : s.session.Storable := storable_moves h ms
  obtain ⟨hwrite, rfl⟩ := save_eq_ok_iff.mp hsave
  obtain ⟨hsketch, -⟩ := exportSketch_saved_eq_ok_iff.mp hexport
  have hpath : s.exportPath = s.path ↔ HasExtension sketchExtension s.path.toList :=
    sketchPath_eq_self_iff hwrite hsketch
  refine ⟨hpath, ?_, ?_⟩
  · intro hextension
    have hread : after.read s.path = .ok s.fileText :=
      read_of_write_sketch hwrite hsketch hextension
    exact ⟨hread, fun config => ⟨_, openFile_of_read hs hread config, rfl, rfl⟩⟩
  · intro hextension
    have hread : after.read s.path = .ok s.session.code := by
      rw [← hpath.mpr hextension]
      exact FileStore.read_of_write hsketch
    exact ⟨hread, openFile_ne_ok_of_read_code hs.current hread⟩

/-- A pixel of a new design is set, and the design is saved and its sketch exported: both files are
there. -/
theorem export_keeps_design_new_files :
    let opened := ofSession Session.blank "design.json" {}
    let s := opened.moves [.edit 0 .togglePixel]
    let written := FileStore.empty.put ["design.json"] (.text s.fileText)
    let after := written.put ["design.ino"] (.text s.session.code)
    openFile "design.json" none {} = .ok opened ∧
      s.save FileStore.empty = .ok (s.saved, written) ∧
      s.saved.exportSketch written = .ok (s.saved.exported, after) ∧
      ¬ HasExtension sketchExtension s.path.toList ∧
      after.read s.path = .ok s.fileText := by
  intro opened s written after
  have hjson : FileStore.namesOf "design.json" = .ok ["design.json"] := by
    rw [FileStore.namesOf, String.contains_char_eq]
    rfl
  have hino : FileStore.namesOf "design.ino" = .ok ["design.ino"] := by
    rw [FileStore.namesOf, String.contains_char_eq]
    rfl
  have hopen : openFile "design.json" none {} = .ok opened := rfl
  have hpath : s.path = "design.json" := rfl
  have hexportPath : s.exportPath = "design.ino" := by
    rw [exportPath, hpath]
    rfl
  have hsave : s.save FileStore.empty = .ok (s.saved, written) := by
    refine save_eq_ok_iff.mpr ⟨?_, rfl⟩
    rw [hpath, FileStore.write, hjson]
    rfl
  have hexport : s.saved.exportSketch written = .ok (s.saved.exported, after) := by
    refine exportSketch_saved_eq_ok_iff.mpr ⟨?_, rfl⟩
    rw [hexportPath, FileStore.write, hino]
    rfl
  have hextension : ¬ HasExtension sketchExtension s.path.toList := by
    rw [hpath]
    decide
  obtain ⟨-, hkept, -⟩ := export_keeps_design hopen [.edit 0 .togglePixel] hsave hexport
  exact ⟨hopen, hsave, hexport, hextension, (hkept hextension).1⟩

/-- A pixel of a new design is set whose file has the extension of sketches, and the design is saved
and its sketch exported: the saved design is gone. -/
theorem export_replaces_design :
    let opened := ofSession Session.blank "smile.ino" {}
    let s := opened.moves [.edit 0 .togglePixel]
    let written := FileStore.empty.put ["smile.ino"] (.text s.fileText)
    let after := written.put ["smile.ino"] (.text s.session.code)
    openFile "smile.ino" none {} = .ok opened ∧
      s.save FileStore.empty = .ok (s.saved, written) ∧
      s.saved.exportSketch written = .ok (s.saved.exported, after) ∧
      s.exportPath = s.path ∧ after.read s.path ≠ .ok s.fileText := by
  intro opened s written after
  have hino : FileStore.namesOf "smile.ino" = .ok ["smile.ino"] := by
    rw [FileStore.namesOf, String.contains_char_eq]
    rfl
  have hopen : openFile "smile.ino" none {} = .ok opened := rfl
  have hpath : s.path = "smile.ino" := rfl
  have hexportPath : s.exportPath = s.path := by
    rw [exportPath, hpath]
    rfl
  have hwrite : FileStore.empty.write s.path s.fileText = .ok written := by
    rw [hpath, FileStore.write, hino]
    rfl
  have hsketch : written.write s.path s.session.code = .ok after := by
    rw [hpath, FileStore.write, hino]
    rfl
  have hs : s.session.Storable := storable_moves hopen _
  refine ⟨hopen, save_eq_ok_iff.mpr ⟨hwrite, rfl⟩, exportSketch_saved_eq_ok_iff.mpr ⟨?_, rfl⟩,
    hexportPath, ?_⟩
  · rw [hexportPath]
    exact hsketch
  · intro hread
    -- an editor could be opened on the design, and none is opened on the sketch
    exact openFile_ne_ok_of_read_code hs.current (FileStore.read_of_write hsketch) {} _
      (openFile_of_read hs hread {})

end Editor

end CharLcd
