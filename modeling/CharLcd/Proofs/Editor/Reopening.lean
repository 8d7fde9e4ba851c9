import CharLcd.CommandLine
import CharLcd.Proofs.Design.Canonical
import CharLcd.Proofs.Editor.Move
import CharLcd.Proofs.FileStore

/-!
# Opening a saved design again

The session of an editor is kept up to date edit by edit; a file is loaded and compiled as a whole.
Both ways lead to the same sketch.

- `loadDisplay_eq_ok_iff`: what is loaded is what the text denotes.
- `Session.Storable`: the sketch is current and a file can hold the options; `storable_moves` says
  so of every session that an editor has.
- `Editor.openFile_of_read`, `Editor.sketchOf_of_write`: a saved file leads to the design and to
  the sketch.
- `Editor.saved_design_reopens`: what a run says of its saved files.
-/

namespace CharLcd

/-! ## Loading -/

section

variable {path : String} {content : Except FileError String} {d : Display} {o : Options}

theorem DesignFile.ofContent_eq_ok_iff {f : DesignFile} :
    DesignFile.ofContent path content = .ok f ↔
      ∃ text, content = .ok text ∧ DesignFile.parse text = .ok f := by
  constructor
  · intro h
    unfold ofContent at h
    split at h
    next => cases h
    next text =>
      split at h
      next => cases h
      next design hparse =>
        cases h
        exact ⟨text, rfl, hparse⟩
  · rintro ⟨text, rfl, hparse⟩
    simp only [ofContent, hparse]

theorem DesignFile.validate_eq_ok_iff {f : DesignFile} :
    f.validate = .ok (d, o) ↔ f.toDisplay = .ok (d, o) := by
  rw [validate]
  cases f.toDisplay <;> simp

/-- What is loaded is what the text at the path denotes. -/
theorem loadDisplay_eq_ok_iff :
    loadDisplay path content = .ok (d, o) ↔ ∃ text, content = .ok text ∧ Denotes text d o := by
  constructor
  · intro h
    obtain ⟨f, hfile, hvalid⟩ := exists_of_bind_eq_ok h
    obtain ⟨text, htext, hparse⟩ := DesignFile.ofContent_eq_ok_iff.mp hfile
    exact ⟨text, htext, f, hparse, DesignFile.validate_eq_ok_iff.mp hvalid⟩
  · rintro ⟨text, htext, f, hparse, hdisplay⟩
    rw [loadDisplay, DesignFile.ofContent_eq_ok_iff.mpr ⟨text, htext, hparse⟩]
    exact DesignFile.validate_eq_ok_iff.mpr hdisplay

end

namespace CommandLine

variable {files after : FileStore} {design output code : String}

theorem run_of_runJob {args : List String} {job : Job} {outcome : Outcome} {console : Console}
    (hparse : parse args = .ok job) (hjob : runJob files console job = .ok outcome) :
    run files args console = outcome := by
  simp only [run, hparse, hjob]

/-- A sketch is written to the output. -/
theorem run_generate (h : sketchOf design (files.read design) = .ok code) (console : Console) :
    run files ["generate", design] console =
      { code := 0, output := code, errors := "", files } := by
  refine run_of_runJob rfl ?_
  show runGenerate files design none = _
  unfold runGenerate
  rw [h]
  rfl

/-- A sketch is written to a file. -/
theorem run_generate_to (h : sketchOf design (files.read design) = .ok code)
    (hwrite : files.write output code = .ok after) (console : Console) :
    run files ["generate", design, output] console =
      { code := 0, output := "", errors := generated design output, files := after } := by
  refine run_of_runJob rfl ?_
  show runGenerate files design (some output) = _
  unfold runGenerate
  rw [h]
  dsimp only
  rw [hwrite]
  rfl

end CommandLine

namespace Session

/-- The sketch of a session is current, and a file can hold the options. -/
structure Storable (s : Session) : Prop where
  current : s.Current
  interval : 0 < s.options.intervalMs

theorem Step.storable {s s' : Session} (h : s.Step s') (hs : s.Storable) : s'.Storable :=
  ⟨h.current hs.current, h.intervalMs_pos hs.interval⟩

end Session

namespace Editor

/-! ## Sessions of editors -/

theorem storable_of_openFile {path : String} {content : Option (Except FileError String)}
    {config : EditorConfig} {opened : Editor} (h : openFile path content config = .ok opened) :
    opened.session.Storable := by
  obtain ⟨d, o, hfound, rfl⟩ := openFile_eq_ok h
  refine ⟨rfl, ?_⟩
  show 0 < o.intervalMs
  cases content with
  | none =>
    cases hfound
    decide
  | some content =>
    obtain ⟨-, -, f, -, hdisplay⟩ := loadDisplay_eq_ok_iff.mp hfound
    exact DesignFile.intervalMs_pos hdisplay

/-- A file can hold the design that an editor has after any run. -/
theorem storable_moves {path : String} {content : Option (Except FileError String)}
    {config : EditorConfig} {opened : Editor} (h : openFile path content config = .ok opened)
    (ms : List Move) : (opened.moves ms).session.Storable :=
  moves_of_step (fun _ _ => Session.Step.storable) (storable_of_openFile h) ms

/-! ## Saved files -/

section

variable {s saved : Editor} {files written : FileStore}

theorem save_eq_ok_iff :
    s.save files = .ok (saved, written) ↔
      files.write s.path s.fileText = .ok written ∧ saved = s.saved := by
  rw [save]
  cases files.write s.path s.fileText with
  | error e =>
    constructor
    · intro h
      cases h
    · rintro ⟨h, -⟩
      cases h
  | ok after =>
    constructor
    · intro h
      cases h
      exact ⟨rfl, rfl⟩
    · rintro ⟨h, rfl⟩
      cases h
      rfl

/-- The design is loaded from a file that holds the saved text. -/
theorem loadDisplay_of_read (hs : s.session.Storable) (h : files.read s.path = .ok s.fileText) :
    loadDisplay s.path (files.read s.path) = .ok (s.session.display, s.session.options) :=
  loadDisplay_eq_ok_iff.mpr ⟨s.fileText, h, denotes_savedText _ hs.interval⟩

/-- An editor that is opened on such a file has a new session on the design. -/
theorem openFile_of_read (hs : s.session.Storable) (h : files.read s.path = .ok s.fileText)
    (config : EditorConfig) :
    openFile s.path (CommandLine.lookUp files s.path) config =
      .ok (ofSession (Session.ofDesign s.session.display s.session.options) s.path config) := by
  rw [CommandLine.lookUp, if_pos (FileStore.exists?_of_read h), openFile,
    loadDisplay_of_read hs h]

/-- An editor that is opened on the saved file has a new session on the design. -/
theorem openFile_of_write (hs : s.session.Storable)
    (h : files.write s.path s.fileText = .ok written) (config : EditorConfig) :
    openFile s.path (CommandLine.lookUp written s.path) config =
      .ok (ofSession (Session.ofDesign s.session.display s.session.options) s.path config) :=
  openFile_of_read hs (FileStore.read_of_write h) config

/-- The sketch of the saved file is the one of the session. -/
theorem sketchOf_of_write (hs : s.session.Storable)
    (h : files.write s.path s.fileText = .ok written) :
    CommandLine.sketchOf s.path (written.read s.path) = .ok s.session.code := by
  rw [CommandLine.sketchOf, loadDisplay_of_read hs (FileStore.read_of_write h), Session.code,
    hs.current]
  rfl

end

/-- After any run from an opened file, a design that is saved is found again: an editor on the file
has the same design, characters, plan and sketch, and nothing unsaved. The sketch of the session is
what is generated from the file, to the output and to other files, and what is exported. -/
theorem saved_design_reopens {path : String} {content : Option (Except FileError String)}
    {config : EditorConfig} {opened saved : Editor} {files written : FileStore}
    (h : openFile path content config = .ok opened) (ms : List Move)
    (hsave : (opened.moves ms).save files = .ok (saved, written)) :
    let s := opened.moves ms
    (∀ config, ∃ reopened,
      openFile s.path (CommandLine.lookUp written s.path) config = .ok reopened ∧
      reopened.session.display = s.session.display ∧
      reopened.session.options = s.session.options ∧
      reopened.session.compiled.glyphs = s.session.compiled.glyphs ∧
      reopened.session.plan = s.session.plan ∧
      reopened.session.code = s.session.code ∧
      reopened.dirty = false) ∧
    (∀ console, CommandLine.run written ["generate", s.path] console =
      { code := 0, output := s.session.code, errors := "", files := written }) ∧
    (∀ console output after, written.write output s.session.code = .ok after →
      CommandLine.run written ["generate", s.path, output] console =
        { code := 0, output := "", errors := CommandLine.generated s.path output,
          files := after } ∧
      after.read output = .ok s.session.code) ∧
    (∀ store after, store.write s.exportPath s.session.code = .ok after →
      s.exportSketch store = .ok (s.exported, after) ∧
      after.read s.exportPath = .ok s.session.code) := by
  intro s
  have hs : s.session.Storable := storable_moves h ms
  obtain ⟨hwrite, -⟩ := save_eq_ok_iff.mp hsave
  have hsketch := sketchOf_of_write hs hwrite
  refine ⟨?_, ?_, ?_, ?_⟩
  · intro config
    have hcompiled : Compiled.ofDesign s.session.display s.session.options = s.session.compiled :=
      hs.current.symm
    exact ⟨_, openFile_of_write hs hwrite config, rfl, rfl, congrArg Compiled.glyphs hcompiled,
      congrArg Compiled.plan hcompiled, congrArg Compiled.code hcompiled, rfl⟩
  · exact CommandLine.run_generate hsketch
  · intro console output after hafter
    exact ⟨CommandLine.run_generate_to hsketch hafter console, FileStore.read_of_write hafter⟩
  · intro store after hafter
    refine ⟨?_, FileStore.read_of_write hafter⟩
    rw [exportSketch, hafter]

/-- A pixel of a new design is set, and the design is saved and its sketch exported where no files
are yet. -/
theorem saved_design_reopens_new_files :
    let opened := ofSession Session.blank "design.json" {}
    let s := opened.moves [.edit 0 .togglePixel]
    let written := FileStore.empty.put ["design.json"] (.text s.fileText)
    let exported := written.put ["design.ino"] (.text s.session.code)
    openFile "design.json" none {} = .ok opened ∧
      s.save FileStore.empty = .ok (s.saved, written) ∧
      (∀ console, CommandLine.run written ["generate", "design.json"] console =
        { code := 0, output := s.session.code, errors := "", files := written }) ∧
      written.write "design.ino" s.session.code = .ok exported ∧
      s.exportSketch written = .ok (s.exported, exported) ∧
      exported.read "design.ino" = .ok s.session.code := by
  intro opened s written exported
  have hjson : FileStore.namesOf "design.json" = .ok ["design.json"] := by
    rw [FileStore.namesOf, String.contains_char_eq]
    rfl
  have hino : FileStore.namesOf "design.ino" = .ok ["design.ino"] := by
    rw [FileStore.namesOf, String.contains_char_eq]
    rfl
  have hopen : openFile "design.json" none {} = .ok opened := rfl
  have hpath : s.path = "design.json" := rfl
  have hexportPath : s.exportPath = "design.ino" := by
    rw [exportPath, hpath]
    rfl
  have hwrite : FileStore.empty.write s.path s.fileText = .ok written := by
    rw [hpath, FileStore.write, hjson]
    rfl
  have hexport : written.write s.exportPath s.session.code = .ok exported := by
    rw [hexportPath, FileStore.write, hino]
    rfl
  have hsave : s.save FileStore.empty = .ok (s.saved, written) :=
    save_eq_ok_iff.mpr ⟨hwrite, rfl⟩
  obtain ⟨-, hgenerate, -, hexported⟩ := saved_design_reopens hopen [.edit 0 .togglePixel] hsave
  obtain ⟨hstep, hread⟩ := hexported written exported hexport
  rw [← hpath, ← hexportPath]
  exact ⟨hopen, hsave, hgenerate, hexport, hstep, hread⟩

end Editor

end CharLcd
