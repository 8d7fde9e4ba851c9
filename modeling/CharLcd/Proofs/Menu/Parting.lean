import CharLcd.Proofs.Menu
import CharLcd.Proofs.Terminal.Text

/-!
# Parting a menu item at its brackets

An item is parted in passes. A pass looks for the next opening bracket and for the closing bracket
after it, whatever stands between them, and leaves the text after that.

- `Menu.Pass`: one pass over what is left of an item; `Pass.length_lt` says that it leaves less.
- `Menu.Parted`: all passes over an item. `parted_iff` says that there is one way to part an item,
  and that it ends.
- `Segment.look`, `texts_draw`: what is printed of an item, and how it looks.
- `bold_texts_draw`: the keys are what is printed in bold.
-/

namespace CharLcd.Menu

open Terminal

/-- The label before a bracket, unless there is none. -/
def labels : List Char → List Segment
  | [] => []
  | c :: rest => [.label (c :: rest)]

/-- One pass over a text: the segments that it finds, and the text that it leaves. -/
inductive Pass : List Char → List Segment → List Char → Prop
  /-- No bracket is opened. -/
  | label {text : List Char} (hnone : '[' ∉ text) (hne : text ≠ []) : Pass text [.label text] []
  /-- A bracket is opened and not closed. -/
  | unclosed {before text : List Char} (hbefore : '[' ∉ before) (hnone : ']' ∉ text) :
    Pass (before ++ '[' :: text) (labels before ++ [.unclosed ('[' :: text)]) []
  /-- A bracket is opened, and closed by the next closing bracket. -/
  | key {before name rest : List Char} (hbefore : '[' ∉ before) (hname : ']' ∉ name) :
    Pass (before ++ '[' :: (name ++ ']' :: rest))
      (labels before ++ [.key ('[' :: (name ++ [']']))]) rest

/-- Passes over a text until nothing is left of it. -/
inductive Parted : List Char → List Segment → Prop
  | done : Parted [] []
  | pass {text rest : List Char} {segments more : List Segment} (h : Pass text segments rest)
    (hrest : Parted rest more) : Parted text (segments ++ more)

/-! ## Passes -/

theorem labels_of_ne_nil {text : List Char} (h : text ≠ []) : labels text = [.label text] := by
  cases text with
  | nil => exact absurd rfl h
  | cons => rfl

theorem labelOf_eq (reversed : List Char) : labelOf reversed = labels reversed.reverse := by
  cases reversed with
  | nil => rfl
  | cons c rest =>
    rw [labels_of_ne_nil (List.reverse_ne_nil_iff.mpr (List.cons_ne_nil c rest))]
    rfl

section

variable {before name text rest : List Char}

theorem outside_of_not_mem (h : '[' ∉ text) (reversed : List Char) :
    outside reversed text = labels (reversed.reverse ++ text) := by
  induction text generalizing reversed with
  | nil => rw [outside, labelOf_eq, List.append_nil]
  | cons c rest ih =>
    rw [List.mem_cons, not_or] at h
    rw [outside, if_neg (Ne.symm h.1), ih h.2, reverse_cons_append]

theorem outside_append_open (h : '[' ∉ before) (reversed : List Char) :
    outside reversed (before ++ '[' :: text) =
      labels (reversed.reverse ++ before) ++ inside ['['] text := by
  induction before generalizing reversed with
  | nil => rw [List.nil_append, outside, if_pos rfl, labelOf_eq, List.append_nil]
  | cons c rest ih =>
    rw [List.mem_cons, not_or] at h
    rw [List.cons_append, outside, if_neg (Ne.symm h.1), ih h.2, reverse_cons_append]

theorem inside_of_not_mem (h : ']' ∉ text) (reversed : List Char) :
    inside reversed text = [.unclosed (reversed.reverse ++ text)] := by
  induction text generalizing reversed with
  | nil => rw [inside, List.append_nil]
  | cons c rest ih =>
    rw [List.mem_cons, not_or] at h
    rw [inside, if_neg (Ne.symm h.1), ih h.2, reverse_cons_append]

theorem inside_append_close (h : ']' ∉ name) (reversed : List Char) :
    inside reversed (name ++ ']' :: rest) =
      .key (reversed.reverse ++ (name ++ [']'])) :: outside [] rest := by
  induction name generalizing reversed with
  | nil => rw [List.nil_append, inside, if_pos rfl, List.reverse_cons, List.nil_append]
  | cons c rest ih =>
    rw [List.mem_cons, not_or] at h
    rw [List.cons_append, inside, if_neg (Ne.symm h.1), ih h.2, reverse_cons_append,
      List.cons_append]

end

namespace Pass

variable {text rest : List Char} {segments : List Segment}

/-- A pass leaves less than it was given. -/
theorem length_lt (h : Pass text segments rest) : rest.length < text.length := by
  cases h with
  | label hnone hne => exact List.length_pos_iff.mpr hne
  | unclosed | key =>
    simp only [List.length_append, List.length_cons, List.length_nil]
    omega

/-- A pass finds the segments with which the text begins. -/
theorem outside_eq (h : Pass text segments rest) :
    outside [] text = segments ++ outside [] rest := by
  cases h with
  | label hnone hne =>
    rw [outside_of_not_mem hnone, List.reverse_nil, List.nil_append, labels_of_ne_nil hne]
    rfl
  | unclosed hbefore hnone =>
    rw [outside_append_open hbefore, inside_of_not_mem hnone, List.append_assoc]
    rfl
  | key hbefore hname =>
    rw [outside_append_open hbefore, inside_append_close hname, List.append_assoc]
    rfl

/-- As long as something is left there is a pass. -/
theorem exists_of_ne_nil (h : text ≠ []) : ∃ segments rest, Pass text segments rest := by
  by_cases hopen : '[' ∈ text
  · obtain ⟨before, opened, rfl, hbefore⟩ := List.eq_append_cons_of_mem hopen
    by_cases hclose : ']' ∈ opened
    · obtain ⟨name, rest, rfl, hname⟩ := List.eq_append_cons_of_mem hclose
      exact ⟨_, _, .key hbefore hname⟩
    · exact ⟨_, _, .unclosed hbefore hclose⟩
  · exact ⟨_, _, .label hopen h⟩

end Pass

/-! ## All passes -/

/-- The passes over a text end. -/
theorem exists_parted (text : List Char) : ∃ segments, Parted text segments := by
  by_cases hne : text = []
  · exact ⟨[], hne ▸ .done⟩
  · obtain ⟨segments, rest, hpass⟩ := Pass.exists_of_ne_nil hne
    obtain ⟨more, hrest⟩ := exists_parted rest
    exact ⟨segments ++ more, .pass hpass hrest⟩
termination_by text.length
decreasing_by exact hpass.length_lt

theorem Parted.outside_eq {text : List Char} {segments : List Segment} (h : Parted text segments) :
    outside [] text = segments := by
  induction h with
  | done => rfl
  | pass h _ ih => rw [h.outside_eq, ih]

/-- An item is parted into its segments and in no other way. -/
theorem parted_iff {item : String} {parts : List Segment} :
    Parted item.toList parts ↔ parts = segments item := by
  constructor
  · intro h
    exact h.outside_eq.symm
  · rintro rfl
    obtain ⟨parts, h⟩ := exists_parted item.toList
    rwa [segments, h.outside_eq]

/-! ## What is printed -/

/-- The look of a segment. -/
def Segment.look (active : Bool) : Segment → Look
  | label _ => if active then { reverse := true } else { dim := true }
  | key _ => { bold := true }
  | unclosed _ => {}

/-- The text of a key. -/
def Segment.key? : Segment → Option String
  | key text => some (String.ofList text)
  | _ => none

theorem texts_draw_segment (segment : Segment) (active : Bool) (more : List Command) :
    texts {} (segment.draw active ++ more) =
      (segment.look active, String.ofList segment.text) :: texts {} more := by
  cases segment with
  | label text => cases active <;> rfl
  | key text => rfl
  | unclosed text => rfl

/-- The segments of an item are printed one after the other. -/
theorem texts_draw (item : String) (active : Bool) :
    texts {} (draw item active) =
      (segments item).map fun segment => (segment.look active, String.ofList segment.text) := by
  rw [draw]
  induction segments item with
  | nil => rfl
  | cons segment rest ih => rw [List.flatMap_cons, texts_draw_segment, ih, List.map_cons]

/-- All that is printed of an item is the item. -/
theorem joined_draw (item : String) (active : Bool) : joined (draw item active) = item := by
  have htexts (parts : List Segment) :
      parts.flatMap (String.toList ∘ fun segment => String.ofList segment.text) =
        parts.flatMap Segment.text := by
    simp only [Function.comp_def, String.toList_ofList]
  rw [joined, texts_draw, ← String.toList_inj, String.toList_join, List.map_map, List.flatMap_map]
  exact (htexts _).trans (flatMap_text_segments item)

/-- The columns of an item are counted without loss if sixteen bits can hold them. -/
theorem textWidth_draw_eq_width_iff (item : String) (active : Bool) :
    textWidth (draw item active) = width item ↔ item.length < UInt16.size := by
  rw [textWidth_draw, width]
  constructor
  · intro h
    rw [h]
    exact Nat.mod_lt _ (by decide)
  · intro h
    exact (Nat.mod_eq_of_lt h).symm

/-- The keys of an item are what is printed in bold. -/
theorem bold_texts_draw (item : String) (active : Bool) :
    ((texts {} (draw item active)).filter (·.1.bold)).map Prod.snd =
      (segments item).filterMap Segment.key? := by
  rw [texts_draw]
  induction segments item with
  | nil => rfl
  | cons segment rest ih =>
    rw [List.map_cons]
    cases segment with
    | label text =>
      have hbold : (Segment.look active (.label text)).bold = false := by cases active <;> rfl
      rw [List.filter_cons_of_neg (by simp [hbold]), ih]
      rfl
    | key text => rw [List.filter_cons_of_pos rfl, List.map_cons, ih]; rfl
    | unclosed text => rw [List.filter_cons_of_neg (by simp [Segment.look]), ih]; rfl

end CharLcd.Menu
