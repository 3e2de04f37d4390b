import PromptScript.Proofs.ExpressionLines
import PromptScript.Proofs.HeaderContents

/-!
# Proofs.HeaderLines

The lines that faults of a header are reported on. A value is read for a key, and its faults have
the line of this key, where a line of the header begins with it; inside an expression the lines are
counted on from there (`MetOn`). Variables are declared on lines of the header in the same way.

* `Value.metOn_ofNode`: the faults of one value.
* `Header.metInside_of_ofText`, `Header.declaredInside_of_ofText`: the faults and the declarations
  of a header.
-/

namespace PromptScript

/-! ## Lines of a text -/

/-- The number of lines of a text. A newline at the very end begins no line. -/
def lineCount (cs : List Char) : Nat := (linesWithEnds cs).length

@[simp] theorem lineCount_nil : lineCount [] = 0 := rfl

@[simp] theorem lineCount_cons (c : Char) (rest : List Char) :
    lineCount (c :: rest) = if c = '\n' then lineCount rest + 1 else max 1 (lineCount rest) := by
  rw [lineCount, linesWithEnds]
  split
  · rfl
  · rw [lineCount]
    cases linesWithEnds rest with
    | nil => rfl
    | cons line lines => simp

theorem lineCount_pos {cs : List Char} (h : cs ≠ []) : 1 ≤ lineCount cs := by
  cases cs with
  | nil => exact absurd rfl h
  | cons c rest =>
    rw [lineCount_cons]
    split <;> omega

theorem lineCount_append_le (a b : List Char) :
    lineCount (a ++ b) ≤ lineCount a + lineCount b := by
  induction a with
  | nil => simp
  | cons c rest ih =>
    rw [List.cons_append, lineCount_cons, lineCount_cons]
    split <;> omega

theorem lineCount_le_append (a b : List Char) : lineCount b ≤ lineCount (a ++ b) := by
  induction a with
  | nil => simp
  | cons c rest ih =>
    rw [List.cons_append, lineCount_cons]
    split <;> omega

theorem lineCount_of_mem {cs line : List Char} (h : line ∈ linesWithEnds cs) :
    lineCount line ≤ 1 := by
  induction cs generalizing line with
  | nil => cases h
  | cons c rest ih =>
    rw [linesWithEnds] at h
    split at h
    · rename_i hc
      rcases List.mem_cons.1 h with rfl | hrest
      · simp [hc]
      · exact ih hrest
    · rename_i hc
      split at h
      · cases List.mem_singleton.1 h
        simp [hc]
      · rename_i first others hlines
        rw [hlines] at ih
        rcases List.mem_cons.1 h with rfl | hrest
        · have hfirst := ih List.mem_cons_self
          rw [lineCount_cons, if_neg hc]
          omega
        · exact ih (List.mem_cons_of_mem first hrest)

/-- Lines joined together have no more lines than they were. -/
theorem lineCount_flatten_le {lines : List (List Char)} (h : ∀ line ∈ lines, lineCount line ≤ 1) :
    lineCount lines.flatten ≤ lines.length := by
  induction lines with
  | nil => exact Nat.le_refl 0
  | cons line rest ih =>
    have hrest := ih fun other hother => h other (List.mem_cons_of_mem line hother)
    have hline := h line List.mem_cons_self
    have hjoined := lineCount_append_le line rest.flatten
    rw [List.flatten_cons, List.length_cons]
    omega

/-! ## Values of a header -/

namespace Yaml.Node

mutual

/-- The texts that a value holds, apart from keys and from what has a tag. -/
def texts : Node → List String
  | .text s => [s]
  | .sequence items => itemTexts items
  | .mapping entries => entryTexts entries
  | _ => []

def itemTexts : List Node → List String
  | [] => []
  | n :: rest => texts n ++ itemTexts rest

def entryTexts : List (Node × Node) → List String
  | [] => []
  | (_, n) :: rest => texts n ++ entryTexts rest

end

end Yaml.Node

/-- A text as the pattern language reads it. -/
def trimmed (s : String) : String := String.ofList (trim s.toList)

/-- How a fault comes by its line when texts are read for a key on line `line`. -/
inductive MetOn (texts : List String) (line : Nat) : AtLine HeaderFault → Prop where
  | key (f : HeaderFault) : MetOn texts line ⟨line, f⟩
  | expression {s : String} {e : AtLine ExpressionFault} :
      s ∈ texts → Expression.ofText (trimmed s) line = .error e →
        MetOn texts line (e.map .expression)

namespace MetOn

variable {texts more : List String} {line : Nat} {e : AtLine HeaderFault}

theorem of_line (h : e.line = line) : MetOn texts line e := by
  subst h
  exact .key e.fault

theorem mono (h : MetOn texts line e) (hsub : texts ⊆ more) : MetOn more line e := by
  cases h with
  | key f => exact .key f
  | expression hmem hfault => exact .expression (hsub hmem) hfault

end MetOn

namespace Value

open Yaml.Node

theorem metOn_ofText {s : String} {line : Nat} {e : AtLine HeaderFault}
    (h : ofText s line = .error e) : MetOn [s] line e := by
  unfold ofText at h
  dsimp only at h
  split at h
  · split at h
    · cases h
    · rename_i hfault
      cases h
      exact .expression List.mem_cons_self hfault
  · split at h <;> cases h

theorem line_of_keyText {k : Yaml.Node} {line : Nat} {e : AtLine HeaderFault}
    (h : keyText k line = .error e) : e.line = line := by
  unfold keyText at h
  split at h <;> cases h
  rfl

mutual

theorem metOn_ofNode {line : Nat} {n : Yaml.Node} {e : AtLine HeaderFault}
    (h : ofNode line n = .error e) : MetOn n.texts line e := by
  cases n with
  | null => rw [ofNode] at h; cases h; exact .key _
  | flag b => rw [ofNode] at h; cases h
  | integer i =>
    rw [ofNode] at h
    split at h <;> cases h
    exact .key _
  | float x => rw [ofNode] at h; cases h; exact .key _
  | text s => rw [ofNode] at h; exact metOn_ofText h
  | sequence items =>
    rw [ofNode] at h
    split at h
    · rename_i hitems
      cases h
      exact metOn_ofItems hitems
    · cases h
  | mapping entries =>
    rw [ofNode] at h
    split at h
    · rename_i hentries
      cases h
      exact metOn_ofEntries hentries
    · cases h
  | tagged tag n => rw [ofNode] at h; cases h; exact .key _

theorem metOn_ofItems {line : Nat} {ns : List Yaml.Node} {e : AtLine HeaderFault}
    (h : ofItems line ns = .error e) : MetOn (itemTexts ns) line e := by
  cases ns with
  | nil => rw [ofItems] at h; cases h
  | cons n rest =>
    rw [ofItems] at h
    split at h
    · rename_i hn
      cases h
      exact (metOn_ofNode hn).mono (List.subset_append_left _ _)
    · split at h
      · rename_i hrest
        cases h
        exact (metOn_ofItems hrest).mono (List.subset_append_right _ _)
      · cases h

theorem metOn_ofEntries {line : Nat} {es : List (Yaml.Node × Yaml.Node)} {e : AtLine HeaderFault}
    (h : ofEntries line es = .error e) : MetOn (entryTexts es) line e := by
  match es with
  | [] => rw [ofEntries] at h; cases h
  | (k, n) :: rest =>
    rw [ofEntries] at h
    split at h
    · rename_i hkey
      cases h
      exact .of_line (line_of_keyText hkey)
    · split at h
      · rename_i hn
        cases h
        exact (metOn_ofNode hn).mono (List.subset_append_left _ _)
      · split at h
        · rename_i hrest
          cases h
          exact (metOn_ofEntries hrest).mono (List.subset_append_right _ _)
        · cases h

end

end Value

/-! ## Headers -/

namespace Header

open Yaml.Node

/-- A fault that is met on some line of the header. -/
def MetInside (lines : List (List Char)) (headerLine : Nat) (texts : List String)
    (e : AtLine HeaderFault) : Prop :=
  ∃ line, Between headerLine lines.length line ∧ MetOn texts line e

/-- The declarations stand on lines of the header. -/
def DeclaredInside (lines : List (List Char)) (headerLine : Nat) (ds : List Declaration) : Prop :=
  ∀ d ∈ ds, Between headerLine lines.length d.line

section Lines

variable {lines : List (List Char)} {headerLine : Nat} {e : AtLine HeaderFault}

theorem MetInside.mono {texts more : List String} (h : MetInside lines headerLine texts e)
    (hsub : texts ⊆ more) : MetInside lines headerLine more e := by
  obtain ⟨line, hline, hmet⟩ := h
  exact ⟨line, hline, hmet.mono hsub⟩

theorem MetInside.of_line {texts : List String} {line : Nat}
    (hline : Between headerLine lines.length line) (h : e.line = line) :
    MetInside lines headerLine texts e := ⟨line, hline, .of_line h⟩

theorem error_of_map {α β : Type} {r : HeaderResult α} {f : α → β} (h : r.map f = .error e) :
    r = .error e := by
  cases r with
  | error e' => cases h; rfl
  | ok a => cases h

theorem keyLine?_lt {key : String} {start i : Nat} (h : keyLine? lines key start = some i) :
    i < lines.length := by
  obtain ⟨j, hj, rfl⟩ := Option.map_eq_some_iff.1 h
  obtain ⟨hlt, _⟩ := List.findIdx?_eq_some_iff_getElem.1 hj
  rw [List.length_drop] at hlt
  omega

theorem between_keyLine (lines : List (List Char)) (headerLine : Nat) (key : String) :
    Between headerLine lines.length (headerLine + (keyLine? lines key 0).getD 0) := by
  cases h : keyLine? lines key 0 with
  | none => exact .first headerLine _
  | some i =>
    have := keyLine?_lt h
    exact ⟨Nat.le_add_right _ _, by dsimp only [Option.getD]; omega⟩

theorem line_of_textOf {n : Yaml.Node} {key : String} {line : Nat}
    (h : textOf n key line = .error e) : e.line = line := by
  unfold textOf at h
  split at h <;> cases h
  rfl

/-- A line of the header, whether or not the key of a variable is found. -/
theorem between_variableLine {line : Nat} (hline : Between headerLine lines.length line)
    (name : String) (start : Nat) :
    Between headerLine lines.length
      (match keyLine? lines name start with
      | some i => headerLine + i
      | none => line) := by
  split
  · rename_i i hfound
    have := keyLine?_lt hfound
    exact ⟨Nat.le_add_right headerLine i, Nat.add_le_add_left (Nat.le_of_lt this) headerLine⟩
  · exact hline

theorem metInside_of_readDeclarations {line start : Nat}
    (hline : Between headerLine lines.length line) {entries : List (Yaml.Node × Yaml.Node)}
    (h : readDeclarations lines headerLine line start entries = .error e) :
    MetInside lines headerLine (entryTexts entries) e := by
  induction entries with
  | nil => cases h
  | cons entry rest ih =>
    obtain ⟨k, n⟩ := entry
    rw [readDeclarations] at h
    split at h
    · rename_i hkey
      cases h
      exact .of_line hline (Value.line_of_keyText hkey)
    · rename_i name _
      dsimp only at h
      split at h
      · rename_i hvalue
        cases h
        exact ⟨_, between_variableLine hline name start,
          (Value.metOn_ofNode hvalue).mono (List.subset_append_left _ _)⟩
      · split at h
        · rename_i hrest
          cases h
          exact (ih hrest).mono (List.subset_append_right _ _)
        · cases h

theorem metInside_of_addEntry {h : Header} {k n : Yaml.Node}
    (hadd : addEntry lines headerLine h k n = .error e) :
    MetInside lines headerLine n.texts e := by
  unfold addEntry at hadd
  split at hadd
  · rename_i hkey
    cases hadd
    exact .of_line (.first headerLine _) (Value.line_of_keyText hkey)
  · rename_i key _
    have hline := between_keyLine lines headerLine key
    dsimp only at hadd
    split at hadd
    case h_4 =>
      split at hadd
      · rename_i htext
        cases hadd
        exact .of_line hline (line_of_textOf htext)
      · split at hadd <;> cases hadd
        exact .of_line hline rfl
    case h_5 =>
      split at hadd <;> cases hadd
      exact .of_line hline rfl
    case h_6 =>
      split at hadd
      · cases hadd
      · exact metInside_of_readDeclarations hline (error_of_map hadd)
      · cases hadd
        exact .of_line hline rfl
    case h_7 => exact ⟨_, hline, Value.metOn_ofNode (error_of_map hadd)⟩
    -- the keys whose values are plain texts
    all_goals exact .of_line hline (line_of_textOf (error_of_map hadd))

theorem metInside_of_addEntries {h : Header} {entries : List (Yaml.Node × Yaml.Node)}
    (hadd : addEntries lines headerLine h entries = .error e) :
    MetInside lines headerLine (entryTexts entries) e := by
  induction entries generalizing h with
  | nil => cases hadd
  | cons entry rest ih =>
    obtain ⟨k, n⟩ := entry
    rw [addEntries] at hadd
    split at hadd
    · rename_i hentry
      cases hadd
      exact (metInside_of_addEntry hentry).mono (List.subset_append_left _ _)
    · exact (ih hadd).mono (List.subset_append_right _ _)

end Lines

theorem length_linesOf (header : List Char) : (linesOf header).length = lineCount header := by
  rw [linesOf, List.length_map, lineCount]

/-- The faults that YAML finds in a text have lines of the text. The first line is line 0; the line
after the last one, where the text has ended, counts as one of them. -/
def YamlFaultsInside (header : List Char) : Prop :=
  ∀ line, Yaml.read header = .error (.onLine line) → line ≤ lineCount header

instance (header : List Char) : Decidable (YamlFaultsInside header) :=
  match h : Yaml.read header with
  | .error (.onLine line) =>
    decidable_of_iff (line ≤ lineCount header) (by simp [YamlFaultsInside, h])
  | .error .nowhere => isTrue (by simp [YamlFaultsInside, h])
  | .ok _ => isTrue (by simp [YamlFaultsInside, h])

/-- The texts in the values of a header. -/
def valueTexts (header : List Char) : List String :=
  match Yaml.read header with
  | .ok n => n.texts
  | .error _ => []

theorem metInside_of_ofText {header : List Char} {headerLine : Nat} {e : AtLine HeaderFault}
    (hyaml : YamlFaultsInside header) (h : ofText header headerLine = .error e) :
    MetInside (linesOf header) headerLine (valueTexts header) e := by
  unfold ofText at h
  split at h
  · cases h
  · rw [valueTexts]
    cases hread : Yaml.read header with
    | error f =>
      rw [hread] at h
      cases f with
      | nowhere =>
        cases h
        exact .of_line (.first headerLine _) rfl
      | onLine line =>
        cases h
        have hline := hyaml line hread
        rw [← length_linesOf] at hline
        exact .of_line ⟨Nat.le_add_right headerLine line, Nat.add_le_add_left hline headerLine⟩ rfl
    | ok n =>
      rw [hread] at h
      dsimp only at h ⊢
      cases n with
      | null => cases h
      | mapping entries => exact metInside_of_addEntries h
      | flag | integer | float | text | sequence | tagged =>
        cases h
        exact .of_line (.first headerLine _) rfl

theorem declaredInside_of_ofText {header : List Char} {headerLine : Nat} {h : Header}
    (hok : ofText header headerLine = .ok h) :
    DeclaredInside (linesOf header) headerLine h.declarations := by
  intro d hd
  rw [(contents_of_ofText hok).line d hd]
  exact between_variableLine (between_keyLine _ headerLine sectionKey) d.name _

end Header

end PromptScript
