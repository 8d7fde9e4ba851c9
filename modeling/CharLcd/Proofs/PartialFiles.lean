import CharLcd.Proofs.Design.Options
import CharLcd.Proofs.Editor.Config

/-!
# Files that name some fields

Options and configurations are read from objects that name only some of their fields, in any order
and between members that are no fields. `partial_files_overwrite_named` says that these fields, and
no others, differ from the defaults then, and that a configuration that is not accepted leaves all
defaults in place. It rests on `read_options_of_members`, `EditorConfig.ofContent_of_members` and
`EditorConfig.ofContent_of_not_accepted`.
-/

namespace CharLcd

open Json Reader Record

/-- Options are read from a text that names each of their fields once, with its value, or leaves it
out where the default is meant. A configuration is the default one with those bindings replaced that
its text names, and the step if the text names it. Between the members that are named there may be
any others. What is not accepted as a configuration changes nothing. -/
theorem partial_files_overwrite_named :
    (∀ (o : Options) (members : List (String × Value)) (text : String),
      Spells text (.ofMembers members) →
      (∀ f : OptionField, Holds members f.name (some (f.value o)) ∨
        Holds members f.name none ∧ f.value o = f.value {}) →
      Options.parse text = .ok o) ∧
    (∀ (bindings : KeyFunction → Option String) (step : Option UInt32)
        (keys : Option (List (String × Value))) (members : List (String × Value)) (text : String),
      Spells text (.ofMembers members) →
      Holds members "key_bindings" (keys.map .ofMembers) →
      (∀ f : KeyFunction, Holds (keys.getD []) f.name
        ((bindings f).map fun key => .string (some key))) →
      Holds members "interval_step_ms" (step.map fun n => .number (Nat.toDigits 10 n.toNat)) →
      EditorConfig.ofContent (.ok text) = EditorConfig.overwritten {} bindings step) ∧
    ∀ content : Except FileError String,
      (¬ ∃ text c, content = .ok text ∧ EditorConfig.parse text = .ok c) →
      EditorConfig.ofContent content = {} := by
  refine ⟨fun o members text htext hfields => ?_, fun bindings step keys members text htext => ?_,
    fun content => EditorConfig.ofContent_of_not_accepted⟩
  · obtain ⟨cs, hspelled⟩ := htext.spelled
    exact (document_of_spells _ htext).trans (read_options_of_members hspelled hfields)
  · exact EditorConfig.ofContent_of_members htext

/-- Two options and a binding among other members, and a configuration with a binding that is no
string. -/
theorem partial_files_overwrite_named_few :
    Options.parse ("\x7b\"note\":[\x7b\"of\":null\x7d],\"scroll_interval_ms\":7," ++
        "\"transmission\":\"i2c\"\x7d") = .ok { transmission := .i2c, intervalMs := 7 } ∧
      EditorConfig.ofContent (.ok "\x7b\"key_bindings\":\x7b\"note\":[],\"quit\":\"x\"\x7d\x7d") =
        EditorConfig.overwritten {} (fun f => if f = .quit then some "x" else none) none ∧
      EditorConfig.ofContent
        (.ok "\x7b\"key_bindings\":\x7b\"quit\":\"x\",\"save\":1\x7d\x7d") = {} := by
  have hspells := spells_text Layout.compact_isSpace
  refine ⟨?_, ?_, ?_⟩
  · have htext := hspells (.object [("note", .array [.object [("of", .null)]]),
      ("scroll_interval_ms", .number 7), ("transmission", .string "i2c")])
    rw [Tree.value_object] at htext
    refine partial_files_overwrite_named.1 _ _ _ htext fun f => ?_
    cases f <;> first | exact .inl rfl | exact .inr ⟨rfl, rfl⟩
  · have htext := hspells (.object [("key_bindings", .object [("note", .array []),
      ("quit", .string "x")])])
    rw [Tree.value_object] at htext
    refine partial_files_overwrite_named.2.1 _ none
      (some [("note", (Tree.array []).value), ("quit", (Tree.string "x").value)]) _ _ htext rfl
      (fun f => ?_) rfl
    cases f <;> rfl
  · refine partial_files_overwrite_named.2.2 _ ?_
    rintro ⟨text, c, h, hparse⟩
    cases h
    cases hparse

end CharLcd
