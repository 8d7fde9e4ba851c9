import CharLcd.Design.Reader
import CharLcd.Design.Writer
import CharLcd.Proofs.Json.Writing
import CharLcd.Proofs.Reader

/-!
# Options are read field by field

- `OptionField`: the fields of the options; `OptionField.value` is how a field is written.
- `read_options_of_members`: options are read from any object that names each field once, with its
  value, or leaves it out where the default is meant.
- `read_options`: options are read back as they were written.
-/

namespace CharLcd

open Json Reader

/-! ## Names -/

theorem Transmission.name_injective {t u : Transmission} (h : t.name = u.name) : t = u := by
  cases t <;> cases u <;> first | rfl | exact absurd h (by decide)

theorem NumberFormat.name_injective {f g : NumberFormat} (h : f.name = g.name) : f = g := by
  cases f <;> cases g <;> first | rfl | exact absurd h (by decide)

theorem Direction.name_injective {d e : Direction} (h : d.name = e.name) : d = e := by
  cases d <;> cases e <;> first | rfl | exact absurd h (by decide)

/-! ## Fields -/

/-- A field of the options. -/
inductive OptionField where
  | transmission
  | numberFormat
  | scrolling
  | buffered
  | direction
  | intervalMs

namespace OptionField

/-- Name in design files. -/
def name : OptionField → String
  | transmission => "transmission"
  | numberFormat => "number_format"
  | scrolling => "scrolling_enabled"
  | buffered => "buffered_scroll"
  | direction => "scroll_direction"
  | intervalMs => "scroll_interval_ms"

/-- How a field of some options is written. -/
def value (o : Options) : OptionField → Value
  | transmission => .string (some o.transmission.name)
  | numberFormat => .string (some o.numberFormat.name)
  | scrolling => .bool o.scrolling
  | buffered => .bool o.buffered
  | direction => .string (some o.direction.name)
  | intervalMs => .number (Nat.toDigits 10 o.intervalMs.toNat)

/-- Options are what is written in their fields. -/
theorem options_ext {o p : Options} (h : ∀ f : OptionField, f.value o = f.value p) : o = p := by
  have htransmission : o.transmission.name = p.transmission.name :=
    Option.some.inj (Value.string.inj (h transmission))
  have hnumberFormat : o.numberFormat.name = p.numberFormat.name :=
    Option.some.inj (Value.string.inj (h numberFormat))
  have hdirection : o.direction.name = p.direction.name :=
    Option.some.inj (Value.string.inj (h direction))
  have hdigits : Nat.toDigits 10 o.intervalMs.toNat = Nat.toDigits 10 p.intervalMs.toNat :=
    Value.number.inj (h intervalMs)
  have hinterval := congrArg (fun ds => Nat.ofDigitChars 10 ds 0) hdigits
  simp only [Nat.ofDigitChars_ten_toDigits] at hinterval
  cases o
  cases p
  rw [Options.mk.injEq]
  exact ⟨Transmission.name_injective htransmission, NumberFormat.name_injective hnumberFormat,
    Value.bool.inj (h scrolling), Value.bool.inj (h buffered),
    Direction.name_injective hdirection, UInt32.toNat_inj.mp hinterval⟩

theorem named : optionsRecord.Named name where
  injective f g h := by
    cases f <;> cases g <;> first | rfl | exact absurd h (by decide)
  find? f := by
    cases f <;> exact ⟨_, rfl⟩
  all := by
    simp only [optionsRecord, List.forall_mem_cons]
    exact ⟨⟨transmission, rfl⟩, ⟨numberFormat, rfl⟩, ⟨scrolling, rfl⟩, ⟨buffered, rfl⟩,
      ⟨direction, rfl⟩, ⟨intervalMs, rfl⟩, nofun⟩
  optional := by decide

/-- Options with a field of others. -/
def copy (o s : Options) : OptionField → Options
  | transmission => { s with transmission := o.transmission }
  | numberFormat => { s with numberFormat := o.numberFormat }
  | scrolling => { s with scrolling := o.scrolling }
  | buffered => { s with buffered := o.buffered }
  | direction => { s with direction := o.direction }
  | intervalMs => { s with intervalMs := o.intervalMs }

variable {o s : Options}

theorem value_copy_self (f : OptionField) : f.value (f.copy o s) = f.value o := by
  cases f <;> rfl

theorem value_copy (f : OptionField) {g : OptionField} (h : g.value s = g.value o) :
    g.value (f.copy o s) = g.value o := by
  cases f <;> cases g <;> first | rfl | exact h

/-- A field is read from how it is written. -/
theorem read_value (o : Options) (f : OptionField) :
    ∃ field, optionsRecord.fields.find? (·.name = f.name) = some field ∧
      ∀ s, field.read (f.value o) s = .ok (f.copy o s) := by
  cases f with
  | transmission =>
    have hread := choice_name o.transmission.mem_all fun _ => Transmission.name_injective
    exact ⟨_, rfl, fun s => bind_eq_of_ok hread _⟩
  | numberFormat =>
    have hread := choice_name o.numberFormat.mem_all fun _ => NumberFormat.name_injective
    exact ⟨_, rfl, fun s => bind_eq_of_ok hread _⟩
  | scrolling => exact ⟨_, rfl, fun s => rfl⟩
  | buffered => exact ⟨_, rfl, fun s => rfl⟩
  | direction =>
    have hread := choice_name o.direction.mem_all fun _ => Direction.name_injective
    exact ⟨_, rfl, fun s => bind_eq_of_ok hread _⟩
  | intervalMs =>
    have hread := natural_toDigits "u32" (Nat.le_pred_of_lt o.intervalMs.toNat_lt) (by decide)
    refine ⟨_, rfl, fun s => (bind_eq_of_ok hread _).trans ?_⟩
    rw [UInt32.ofNat_toNat]
    rfl

theorem settles (o : Options) (f : OptionField) :
    ∃ field, optionsRecord.fields.find? (·.name = f.name) = some field ∧
      Record.Settles (fun (g : OptionField) s => g.value s = g.value o) f field (f.value o) := by
  obtain ⟨field, hfield, hread⟩ := f.read_value o
  exact ⟨field, hfield, fun s =>
    ⟨f.copy o s, hread s, value_copy_self f, fun g hg => value_copy f hg⟩⟩

end OptionField

/-! ## Objects -/

/-- Options are read from an object that names each of their fields once, with its value, or leaves
it out where the default is meant. -/
theorem read_options_of_members {o : Options} {members : List (String × Value)} {cs : List Char}
    (hspelled : (Value.ofMembers members).Spelled cs)
    (h : ∀ f : OptionField, Record.Holds members f.name (some (f.value o)) ∨
      Record.Holds members f.name none ∧ f.value o = f.value {}) :
    optionsRecord.read (.ofMembers members) = .ok o := by
  have hdue : ∀ f : OptionField, optionsRecord.Due OptionField.name
      (fun f s => f.value s = f.value o) members ⟨optionsRecord.start, []⟩ f := by
    intro f
    rcases h f with hgiven | ⟨hnone, hdefault⟩
    · obtain ⟨field, hfield, hsettles⟩ := OptionField.settles o f
      exact .inr ⟨_, field, hgiven, List.not_mem_nil, hfield, hsettles⟩
    · exact .inl ⟨hnone, hdefault.symm⟩
  obtain ⟨p, hread, hsame⟩ := Record.exists_read OptionField.named hspelled hdue
  rwa [OptionField.options_ext hsame] at hread

/-- Options are read back as they were written, with the switches left out that are off. -/
theorem read_options (o : Options) : optionsRecord.read o.tree.value = .ok o := by
  have hspelled := spelled_write Layout.compact_isSpace o.tree 0
  rw [Options.tree, Tree.value_object] at hspelled ⊢
  obtain ⟨transmission, numberFormat, scrolling, buffered, direction, intervalMs⟩ := o
  refine read_options_of_members hspelled fun f => ?_
  cases scrolling <;> cases buffered <;> cases f <;> first | exact .inl rfl | exact .inr ⟨rfl, rfl⟩

end CharLcd
