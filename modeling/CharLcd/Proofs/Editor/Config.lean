import CharLcd.Editor.Config
import CharLcd.Proofs.Json.Writing
import CharLcd.Proofs.Reader
import Mathlib.Data.List.Nodup

/-!
# The configuration is read binding by binding

- `KeyFunction.name_injective`: every function has its own name.
- `EditorConfig.read_keys`: bindings are read from any object that names some functions once each,
  with their keys; the other functions keep their defaults.
- `EditorConfig.overwritten`: a configuration with some bindings, and perhaps the step, replaced.
- `EditorConfig.ofContent_of_members`: the configuration in an object is the default one,
  overwritten with what the object names.
- `EditorConfig.ofContent_of_not_accepted`: what is not accepted leaves all defaults in place.
-/

namespace CharLcd

open Json Reader

/-! ## Bindings -/

namespace KeyFunction

theorem mem_all (f : KeyFunction) : f ∈ all := by
  cases f <;> decide

theorem name_injective {f g : KeyFunction} (h : f.name = g.name) : f = g := by
  have hnodup : (all.map name).Nodup := by decide
  exact List.inj_on_of_nodup_map hnodup f.mem_all g.mem_all h

end KeyFunction

namespace EditorConfig

/-- The field of a function. -/
def keyField (f : KeyFunction) : Reader.Field KeyBindings where
  name := f.name
  read := fun v b => do return b.bind f (← string "a string" v)

theorem find?_keyField (f : KeyFunction) :
    keysRecord.fields.find? (·.name = f.name) = some (keyField f) := by
  show (KeyFunction.all.map keyField).find? (·.name = f.name) = _
  rw [List.find?_map]
  exact congrArg (Option.map keyField) (find?_name f.mem_all fun _ => KeyFunction.name_injective)

theorem keysRecord_named : keysRecord.Named KeyFunction.name where
  injective _ _ := KeyFunction.name_injective
  find? f := ⟨keyField f, find?_keyField f⟩
  all := by
    intro field hfield
    obtain ⟨f, -, rfl⟩ := List.mem_map.mp hfield
    exact ⟨f, rfl⟩
  optional := by
    intro field hfield
    obtain ⟨f, -, rfl⟩ := List.mem_map.mp hfield
    rfl

/-- A key for a function binds that function and leaves the others alone. -/
theorem settles_key (b : KeyBindings) (f : KeyFunction) :
    Record.Settles (fun g s => s.binding g = b.binding g) f (keyField f)
      (.string (some (b.binding f))) := by
  intro s
  refine ⟨s.bind f (b.binding f), rfl, if_pos rfl, fun g hg => ?_⟩
  show (s.bind f (b.binding f)).binding g = b.binding g
  rw [KeyBindings.binding_bind]
  split
  next hgf => rw [hgf]
  next => exact hg

/-- Bindings are read from an object that names each function once, with its key, or leaves it out
where the default is meant. -/
theorem read_keys {b : KeyBindings} {keys : List (String × Value)} {cs : List Char}
    (hspelled : (Value.ofMembers keys).Spelled cs)
    (h : ∀ f : KeyFunction, Record.Holds keys f.name (some (.string (some (b.binding f)))) ∨
      Record.Holds keys f.name none ∧ b.binding f = f.default) :
    keysRecord.read (.ofMembers keys) = .ok b := by
  have hdue : ∀ f, keysRecord.Due KeyFunction.name (fun g s => s.binding g = b.binding g) keys
      ⟨keysRecord.start, []⟩ f := by
    intro f
    rcases h f with hgiven | ⟨hnone, hdefault⟩
    · exact .inr ⟨_, _, hgiven, List.not_mem_nil, find?_keyField f, settles_key b f⟩
    · exact .inl ⟨hnone, hdefault.symm⟩
  obtain ⟨s, hread, hsame⟩ := Record.exists_read keysRecord_named hspelled hdue
  have hs : s = b := congrArg KeyBindings.mk (funext hsame)
  rwa [hs] at hread

/-! ## Configurations -/

/-- The two parts of a configuration. -/
inductive Part where
  | keys
  | step

namespace Part

/-- Name in the configuration file. -/
def name : Part → String
  | keys => "key_bindings"
  | step => "interval_step_ms"

/-- A part is the same in two configurations. -/
def Same (c : EditorConfig) : Part → EditorConfig → Prop
  | keys, d => d.keys = c.keys
  | step, d => d.intervalStep = c.intervalStep

theorem named : record.Named name where
  injective i j h := by
    cases i <;> cases j <;> first | rfl | exact absurd h (by decide)
  find? i := by
    cases i <;> exact ⟨_, rfl⟩
  all := by
    simp only [record, List.forall_mem_cons]
    exact ⟨⟨keys, rfl⟩, ⟨step, rfl⟩, nofun⟩
  optional := by decide

end Part

/-- A configuration is read from an object that names each part once, with its value, or leaves it
out where the default is meant. -/
theorem read_of_members {c : EditorConfig} {members : List (String × Value)} {cs : List Char}
    (hspelled : (Value.ofMembers members).Spelled cs)
    (hkeys : (∃ v, Record.Holds members Part.keys.name (some v) ∧ keysRecord.read v = .ok c.keys) ∨
      Record.Holds members Part.keys.name none ∧ c.keys = {})
    (hstep : Record.Holds members Part.step.name
        (some (.number (Nat.toDigits 10 c.intervalStep.toNat))) ∨
      Record.Holds members Part.step.name none ∧ c.intervalStep = 50) :
    record.read (.ofMembers members) = .ok c := by
  have hdue : ∀ i, record.Due Part.name (Part.Same c) members ⟨record.start, []⟩ i := by
    intro i
    cases i with
    | keys =>
      rcases hkeys with ⟨v, hgiven, hread⟩ | ⟨hnone, hdefault⟩
      · refine .inr ⟨v, _, hgiven, List.not_mem_nil, rfl, fun s => ⟨{ s with keys := c.keys },
          bind_eq_of_ok hread _, rfl, fun j hj => ?_⟩⟩
        cases j
        · rfl
        · exact hj
      · exact .inl ⟨hnone, hdefault.symm⟩
    | step =>
      rcases hstep with hgiven | ⟨hnone, hdefault⟩
      · have hread := natural_toDigits "a number of milliseconds"
          (Nat.le_pred_of_lt c.intervalStep.toNat_lt) (by decide)
        refine .inr ⟨_, _, hgiven, List.not_mem_nil, rfl, fun s =>
          ⟨{ s with intervalStep := .ofNat c.intervalStep.toNat }, bind_eq_of_ok hread _, ?_,
            fun j hj => ?_⟩⟩
        · exact UInt32.ofNat_toNat
        · cases j
          · exact hj
          · exact UInt32.ofNat_toNat
      · exact .inl ⟨hnone, hdefault.symm⟩
  obtain ⟨d, hread, hsame⟩ := Record.exists_read Part.named hspelled hdue
  have hd : d = c := by
    have hkeys : d.keys = c.keys := hsame .keys
    have hstep : d.intervalStep = c.intervalStep := hsame .step
    cases d
    cases c
    rw [EditorConfig.mk.injEq]
    exact ⟨hkeys, hstep⟩
  rwa [hd] at hread

/-! ## Files -/

/-- A configuration with some bindings, and perhaps the step, replaced. -/
def overwritten (c : EditorConfig) (bindings : KeyFunction → Option String)
    (step : Option UInt32) : EditorConfig where
  keys := ⟨fun f => (bindings f).getD (c.keys.binding f)⟩
  intervalStep := step.getD c.intervalStep

/-- A text with an object in it overwrites the defaults with what the object names. -/
theorem ofContent_of_members {bindings : KeyFunction → Option String} {step : Option UInt32}
    {keys : Option (List (String × Value))} {members : List (String × Value)} {text : String}
    (htext : Spells text (.ofMembers members))
    (hkeys : Record.Holds members Part.keys.name (keys.map .ofMembers))
    (hbindings : ∀ f : KeyFunction, Record.Holds (keys.getD []) f.name
      ((bindings f).map fun key => .string (some key)))
    (hstep : Record.Holds members Part.step.name
      (step.map fun n => .number (Nat.toDigits 10 n.toNat))) :
    ofContent (.ok text) = overwritten {} bindings step := by
  obtain ⟨cs, hspelled⟩ := htext.spelled
  have hread : record.read (.ofMembers members) = .ok (overwritten {} bindings step) := by
    refine read_of_members hspelled ?_ ?_
    · cases keys with
      | none =>
        -- without the object there is nothing that could name a binding
        have hnone : bindings = fun _ => none := by
          funext f
          have hf := hbindings f
          cases hbinding : bindings f with
          | none => rfl
          | some key =>
            rw [hbinding] at hf
            cases hf
        rw [hnone]
        exact .inr ⟨hkeys, rfl⟩
      | some keys =>
        obtain ⟨ds, hds⟩ := hspelled.ofMembers _ hkeys.mem
        refine .inl ⟨_, hkeys, read_keys hds fun f => ?_⟩
        have hf := hbindings f
        show Record.Holds keys f.name (some (.string (some ((bindings f).getD f.default)))) ∨
          Record.Holds keys f.name none ∧ (bindings f).getD f.default = f.default
        cases hbinding : bindings f with
        | none =>
          rw [hbinding] at hf
          exact .inr ⟨hf, rfl⟩
        | some key =>
          rw [hbinding] at hf
          exact .inl hf
    · cases step with
      | none => exact .inr ⟨hstep, rfl⟩
      | some n => exact .inl hstep
  have hparse : parse text = .ok (overwritten {} bindings step) :=
    (document_of_spells record.read htext).trans hread
  simp only [ofContent, hparse]

/-- What is not accepted leaves all defaults in place. -/
theorem ofContent_of_not_accepted {content : Except FileError String}
    (h : ¬ ∃ text c, content = .ok text ∧ parse text = .ok c) : ofContent content = {} := by
  cases content with
  | error e => rfl
  | ok text =>
    cases hparse : parse text with
    | error e => simp only [ofContent, hparse]
    | ok c => exact absurd ⟨text, c, rfl, hparse⟩ h

end EditorConfig

end CharLcd
